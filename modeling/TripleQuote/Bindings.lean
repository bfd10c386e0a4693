import TripleQuote.Value.Display

/-! # Bindings

The names that a template can read, with their values, in the order in which they were bound.
Merging gives the bindings on the right precedence; a name that is bound again keeps its place. -/

namespace TripleQuote

/-- Names with their values, each name once. -/
structure Bindings where
  entries : List (Text × Value)
deriving Repr, Inhabited

namespace Bindings

inductive Refusal where
  /-- A key that is no text. -/
  | name (key : Value)
  /-- A key that is no text and has no text either. -/
  | unwritable
  /-- A key among the overrides that is no text. -/
  | override

def Refusal.message : Refusal → Text
  | .name key => "Binding names must be strings, got " ++ key.shown
  | .unwritable => limitMessage none
  | .override => "keywords must be strings"

def empty : Bindings := ⟨[]⟩

def insert (b : Bindings) (name : Text) (v : Value) : Bindings :=
  ⟨Ordered.insert (· == ·) name v b.entries⟩

def get? (b : Bindings) (name : Text) : Option Value :=
  Ordered.get? (· == ·) name b.entries

def contains (b : Bindings) (name : Text) : Bool := (b.get? name).isSome

/-- Why no value is under a key. -/
inductive Absence where
  | unbound (key : Value)
  /-- The key holds a collection that cannot be part of a key. -/
  | notKey (collection : Text)

def Absence.message : Absence → Text
  | unbound key => key.shown
  | notKey collection => "unhashable type: " ++ collection.quoted

/-- The value under a key, which may be any value. -/
def item (b : Bindings) (key : Value) : Except Absence Value :=
  match key.notKey?, key with
  | some collection, _ => .error (.notKey collection)
  | none, .text name => (b.get? name).elim (.error (.unbound key)) .ok
  | none, key => .error (.unbound key)

def names (b : Bindings) : List Text := b.entries.map (·.1)

/-- Bind the names of a list one after the other. -/
def insertAll (b : Bindings) (entries : List (Text × Value)) : Bindings :=
  entries.foldl (fun acc entry => acc.insert entry.1 entry.2) b

/-- The bindings of a list in which names may come more than once. -/
def ofList (entries : List (Text × Value)) : Bindings := empty.insertAll entries

/-- The names of `b` and after them the new names of `c`, with the values of `c` first. -/
def merge (b c : Bindings) : Bindings := b.insertAll c.entries

/-- The entries of a map with their keys read as names. -/
def textEntries? : List (Value × Value) → Except Value (List (Text × Value))
  | [] => .ok []
  | (.text name, v) :: rest => (textEntries? rest).map ((name, v) :: ·)
  | (key, _) :: _ => .error key

/-- The bindings of a map, overridden by named values. -/
def build (values : List (Value × Value)) (named : List (Text × Value)) :
    Except Refusal Bindings :=
  match textEntries? values with
  | .error key => .error (if key.writable then .name key else .unwritable)
  | .ok entries => .ok ((ofList entries).insertAll named)

/-- The bindings overridden by the entries of a map. -/
def mergeMap (b : Bindings) (overrides : List (Value × Value)) : Except Refusal Bindings :=
  match textEntries? overrides with
  | .error _ => .error .override
  | .ok entries => .ok (b.insertAll entries)

/-- A step that builds bindings, possibly from earlier ones, which it names by their number. -/
inductive Step where
  | new (values : List (Value × Value)) (named : List (Text × Value))
  | override (base : Nat) (overrides : List (Value × Value))
  | merge (base other : Nat)

/-- The bindings that a step builds. A number that is too high stands for no bindings. -/
def Step.build (built : List Bindings) : Step → Except Refusal Bindings
  | new values named => Bindings.build values named
  | override base overrides => ((built[base]?).getD empty).mergeMap overrides
  | merge base other => .ok (((built[base]?).getD empty).merge ((built[other]?).getD empty))

/-- The bindings built so far after a step. A step that is refused builds none. -/
def Step.run (built : List Bindings) (s : Step) : List Bindings :=
  match s.build built with
  | .ok b => built ++ [b]
  | .error _ => built

/-- All bindings that steps build, one step after the other. -/
def built (steps : List Step) : List Bindings := steps.foldl Step.run []

def toValue (b : Bindings) : Value := .map (b.entries.map fun entry => (.text entry.1, entry.2))

def shown (b : Bindings) : Text := "Bindings(" ++ b.toValue.shown ++ ")"

end Bindings

end TripleQuote
