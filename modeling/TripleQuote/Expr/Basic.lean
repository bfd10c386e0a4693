import TripleQuote.Text.Quoted

/-! # Expressions

The tree of an interpolated expression, the path under which messages name it, and the names it
reads from its surroundings. -/

namespace TripleQuote

inductive Expr where
  /-- The value bound to a name. -/
  | name (ident : Text)
  | text (value : Text)
  /-- A property of the target. -/
  | attr (target : Expr) (name : Text)
  /-- A method called on the target without arguments. -/
  | call (target : Expr) (name : Text)
  /-- The texts of the operands one after the other. -/
  | concat (operands : List Expr)
  /-- A place that holds no expression; nothing a template spells has one. -/
  | hole
deriving Repr, Inhabited

namespace Expr

/-- The path under which messages name an expression. -/
def path : Expr → Text
  | name ident => ident
  | text value => value.quoted
  | attr target n => target.path ++ '.' :: n
  | call target n => target.path ++ '.' :: n ++ ['(', ')']
  | concat _ => "<expr>"
  | hole => "<expr>"

mutual
/-- The names that an expression reads, in the order of their first use. -/
def roots : Expr → List Text
  | name ident => [ident]
  | text _ => []
  | attr target _ => target.roots
  | call target _ => target.roots
  | concat operands => (rootsOf operands).eraseDups
  | hole => []

def rootsOf : List Expr → List Text
  | [] => []
  | e :: es => e.roots ++ rootsOf es
end

end Expr

end TripleQuote
