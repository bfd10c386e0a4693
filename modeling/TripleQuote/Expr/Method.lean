import TripleQuote.Text.Blank
import TripleQuote.Text.Case

/-! # Methods

The methods that an expression can call on a text. A configuration enables some of them. -/

namespace TripleQuote

/-- A method without arguments. -/
inductive Method where
  | toUpperCase
  | toLowerCase
  | trim
  | trimStart
  | trimEnd
  | toString
deriving DecidableEq, Repr

namespace Method

/-- Every method, in the order in which a configuration lists them. -/
def all : List Method := [toUpperCase, toLowerCase, trim, trimStart, trimEnd, toString]

/-- The name by which expressions and configurations call the method. -/
def name : Method → Text
  | toUpperCase => "toUpperCase"
  | toLowerCase => "toLowerCase"
  | trim => "trim"
  | trimStart => "trimStart"
  | trimEnd => "trimEnd"
  | toString => "toString"

def apply : Method → Text → Text
  | toUpperCase, t => t.toUpper
  | toLowerCase, t => t.toLower
  | trim, t => t.trim
  | trimStart, t => t.trimStart
  | trimEnd, t => t.trimEnd
  | toString, t => t

def ofName? (n : Text) : Option Method := all.find? (·.name == n)

/-- The methods of a list of names, or the names that belong to none. -/
def ofNames (names : List Text) : Except (List Text) (List Method) :=
  let unknown := names.filter fun n => (ofName? n).isNone
  if unknown.isEmpty then .ok (names.filterMap ofName?) else .error unknown

def unknownMessage (names : List Text) : Text :=
  "Unknown method(s): " ++ Text.join ", " names

end Method

end TripleQuote
