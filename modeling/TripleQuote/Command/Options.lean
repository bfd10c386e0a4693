import TripleQuote.Text.Basic

/-! # Reading command lines

The words of a command line are options, arguments of options, and operands. `Options.read` sorts
them for a table of the options that are known. -/

namespace TripleQuote

/-- An option: its one-letter and long spellings, and whether an argument follows it. -/
structure OptionSpec (α : Type) where
  id : α
  short : Option Char
  long : Text
  takesArgument : Bool

/-- The options of a command line in order, with their arguments, and its operands. -/
structure Options (α : Type) where
  given : List (α × Text)
  operands : List Text
deriving Repr

namespace Options

variable {α : Type}

def add (o : Options α) (id : α) (argument : Text) : Options α :=
  { o with given := (id, argument) :: o.given }

/-- The name and the argument of a word with an equals sign. -/
def splitEquals (word : Text) : Text × Option Text :=
  match word.dropWhile (· != '=') with
  | [] => (word, none)
  | _ :: argument => (word.takeWhile (· != '='), some argument)

/-- The options of a word of letters, up to the first that takes an argument: that option with
the letters after it. -/
def readLetters (specs : List (OptionSpec α)) :
    List Char → Option (List (α × Text) × Option (α × Text))
  | [] => some ([], none)
  | letter :: rest => do
    let spec ← specs.find? (·.short == some letter)
    if spec.takesArgument then return ([], some (spec.id, rest))
    let (options, last) ← readLetters specs rest
    return ((spec.id, []) :: options, last)

/-- The options of a word that starts with a dash, and the option whose argument is the next
word. -/
def readWord (specs : List (OptionSpec α)) (word : Text) : Option (List (α × Text) × Option α) :=
  let (name, argument) := splitEquals word
  match specs.find? (·.long == name) with
  | some spec =>
    match spec.takesArgument, argument with
    | true, some argument => some ([(spec.id, argument)], none)
    | true, none => some ([], some spec.id)
    | false, some _ => none
    | false, none => some ([(spec.id, [])], none)
  | none =>
    if word.take 2 = ['-', '-'] then none
    else
      match readLetters specs word.tail with
      | none => none
      | some (options, none) => some (options, none)
      | some (options, some (id, argument)) =>
        if argument.isEmpty then some (options, some id)
        else some (options ++ [(id, argument)], none)

/-- Sort the words of a command line. Two dashes end the options. The first operand does so too,
unless options may stand among the operands. `waiting` is an option whose argument comes next.
There is no result for an option that is not known, or whose argument is missing or too much. -/
def readFrom (specs : List (OptionSpec α)) (interspersed : Bool) :
    (waiting : Option α) → List Text → Option (Options α)
  | some _, [] => none
  | none, [] => some ⟨[], []⟩
  | some id, word :: rest =>
    (readFrom specs interspersed none rest).map fun o => o.add id word
  | none, word :: rest =>
    if word = ['-', '-'] then some ⟨[], rest⟩
    else if word.head? = some '-' && 1 < word.length then do
      let (options, next) ← readWord specs word
      let o ← readFrom specs interspersed next rest
      return { o with given := options ++ o.given }
    else if interspersed then
      (readFrom specs interspersed none rest).map fun o =>
        { o with operands := word :: o.operands }
    else some ⟨[], word :: rest⟩

def read (specs : List (OptionSpec α)) (interspersed : Bool) (words : List Text) :
    Option (Options α) :=
  readFrom specs interspersed none words

def arguments [BEq α] (o : Options α) (id : α) : List Text :=
  o.given.filterMap fun entry => if entry.1 == id then some entry.2 else none

def has [BEq α] (o : Options α) (id : α) : Bool := o.given.any (·.1 == id)

end Options

end TripleQuote
