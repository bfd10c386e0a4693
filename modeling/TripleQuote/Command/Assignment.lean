import TripleQuote.Bindings
import TripleQuote.Text.Blank

/-! # Assignments

Bindings that are given on the command line, as `name=value`. -/

namespace TripleQuote

/-- A binding given as `name=value`. The name is trimmed, the value is not. -/
def readAssignment (item : Text) : Option (Text × Text) :=
  let name := Text.trim (item.takeWhile (· != '='))
  match item.dropWhile (· != '=') with
  | [] => none
  | _ :: value => if name.isEmpty then none else some (name, value)

/-- The bindings of a list of assignments, or the first that is none. -/
def readAssignments : List Text → Except Text (List (Text × Text))
  | [] => .ok []
  | item :: items =>
    match readAssignment item with
    | none => .error item
    | some entry => (readAssignments items).map (entry :: ·)

def assignmentMessage (item : Text) : Text := "Expected name=value, got " ++ item.quoted

def assignedBindings (assignments : List (Text × Text)) : Bindings :=
  Bindings.ofList (assignments.map fun entry => (entry.1, .text entry.2))

end TripleQuote
