import TripleQuote.Expr.Method
import TripleQuote.Expr.Parser
import TripleQuote.Value.Display

/-! # Evaluating expressions

An expression reads names, takes properties and calls enabled methods; nothing else. Evaluation
goes from left to right and stops at the first failure. -/

namespace TripleQuote

/-- What is bound to each name. -/
abbrev Env := Text → Option Value

inductive EvalError where
  /-- A name or a property that is not there, by its path. -/
  | unbound (path : Text)
  /-- A method that is not enabled. -/
  | unsupported (method : Text)
  | badSyntax (error : SyntaxError)
  | hole
  /-- A value that holds a number with too many digits to be written out. -/
  | unwritable
deriving DecidableEq, Repr

/-- The property `n` of a value: an entry of a map, or the length of a text. -/
def Value.property? (v : Value) (n : Text) : Option Value :=
  match v with
  | .map entries => Value.entry? n entries
  | .text t => if n = "length".toList then some (.int t.length) else none
  | _ => none

/-- The text of a value in the output. -/
def Value.spell (v : Value) : Except EvalError Text :=
  if v.writable then .ok v.plain else .error .unwritable

namespace Expr

mutual
def eval (enabled : List Method) (env : Env) : Expr → Except EvalError Value
  | name ident => (env ident).elim (.error (.unbound ident)) .ok
  | text value => .ok (.text value)
  | attr target n => do
    let v ← eval enabled env target
    (v.property? n).elim (.error (.unbound (attr target n).path)) .ok
  | call target n => do
    let v ← eval enabled env target
    match enabled.find? (·.name == n) with
    | some method => v.spell.map fun t => .text (method.apply t)
    | none => .error (.unsupported n)
  | concat operands => do
    return .text (← evalAll enabled env operands)
  | hole => .error .hole

/-- The texts of the operands one after the other. -/
def evalAll (enabled : List Method) (env : Env) : List Expr → Except EvalError Text
  | [] => .ok []
  | e :: es => do
    let v ← eval enabled env e
    return (← v.spell) ++ (← evalAll enabled env es)
end

/-! What evaluation does with each kind of expression. -/

section

variable (enabled : List Method) (env : Env) (e target : Expr) (es : List Expr) (n : Text)

theorem eval_name : eval enabled env (name n) = (env n).elim (.error (.unbound n)) .ok := rfl

theorem eval_attr :
    eval enabled env (attr target n) = (do
      let v ← eval enabled env target
      (v.property? n).elim (.error (.unbound (attr target n).path)) .ok) := rfl

theorem eval_call :
    eval enabled env (call target n) = (do
      let v ← eval enabled env target
      match enabled.find? (·.name == n) with
      | some method => v.spell.map fun t => .text (method.apply t)
      | none => .error (.unsupported n)) := rfl

theorem eval_concat :
    eval enabled env (concat es) = (do return .text (← evalAll enabled env es)) := rfl

theorem evalAll_cons :
    evalAll enabled env (e :: es) = (do
      let v ← eval enabled env e
      return (← v.spell) ++ (← evalAll enabled env es)) := rfl

end

/-- The text of an expression given by its source. White space around it does not matter. -/
def evaluate (enabled : List Method) (env : Env) (source : Text) : Except EvalError Text :=
  match parse source.trim with
  | .error e => .error (.badSyntax e)
  | .ok e => (eval enabled env e).bind Value.spell

end Expr

end TripleQuote
