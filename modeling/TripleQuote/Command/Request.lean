import TripleQuote.Command.Assignment
import TripleQuote.Command.Options
import TripleQuote.Files.Path

/-! # Requests

What a command line asks for. A command line that asks for nothing sensible is a misuse. -/

namespace TripleQuote

structure RenderRequest where
  template : Path
  assignments : List (Text × Text)
  vars : Option Path
  config : Option Path
  output : Option Path
deriving Repr

inductive Task where
  | render (request : RenderRequest)
  | tokens (template : Path)
deriving Repr

def Task.paths : Task → List Path
  | render r => r.template :: r.vars.toList ++ r.config.toList ++ r.output.toList
  | tokens template => [template]

inductive Request where
  | version
  | help
  | misuse
  | run (verbose : Bool) (task : Task)
deriving Repr

namespace Request

/-- The options before the name of the command. -/
inductive Global where
  | version
  | verbose
  | help
deriving DecidableEq, Repr

def globalOptions : List (OptionSpec Global) :=
  [⟨.version, none, "--version", false⟩, ⟨.verbose, some 'v', "--verbose", false⟩,
   ⟨.help, none, "--help", false⟩]

/-- The options of the command that renders. -/
inductive Local where
  | set
  | vars
  | config
  | output
  | help
deriving DecidableEq, Repr

def renderOptions : List (OptionSpec Local) :=
  [⟨.set, some 's', "--set", true⟩, ⟨.vars, none, "--vars", true⟩,
   ⟨.config, some 'c', "--config", true⟩, ⟨.output, some 'o', "--output", true⟩,
   ⟨.help, none, "--help", false⟩]

def tokensOptions : List (OptionSpec Local) := [⟨.help, none, "--help", false⟩]

/-- The request to do a task. A path with a null character cannot be asked for. -/
def ofTask (verbose : Bool) (task : Task) : Request :=
  if task.paths.any Path.isNull then misuse else run verbose task

/-- The last argument of an option, as a path. -/
def pathOf (o : Options Local) (id : Local) : Option Path :=
  (o.arguments id).getLast?.map Path.ofText

def ofRenderWords (verbose : Bool) (words : List Text) : Request :=
  match Options.read renderOptions true words with
  | none => misuse
  | some o =>
    if o.has .help then help
    else match o.operands, readAssignments (o.arguments .set) with
      | [template], .ok assignments =>
        ofTask verbose <| .render
          { template := .ofText template, assignments, vars := pathOf o .vars,
            config := pathOf o .config, output := pathOf o .output }
      | _, _ => misuse

def ofTokensWords (verbose : Bool) (words : List Text) : Request :=
  match Options.read tokensOptions true words with
  | none => misuse
  | some o =>
    if o.has .help then help
    else match o.operands with
      | [template] => ofTask verbose (.tokens (.ofText template))
      | _ => misuse

/-- The request of the options before the name of the command. Of the version and the help, the
one that comes first is shown. -/
def ofGlobal? (o : Options Global) : Option Request :=
  match o.given.find? fun entry => entry.1 == .version || entry.1 == .help with
  | some (.version, _) => some version
  | some _ => some help
  | none => none

/-- The request of words that do not start with the name of a command. Only options that have been
taken for operands, because two dashes stand before them, make it more than a misuse. -/
def ofUnknownCommand (words : List Text) : Request :=
  ((Options.read globalOptions false words).bind ofGlobal?).getD misuse

def ofCommand (verbose : Bool) : List Text → Request
  | [] => misuse
  | name :: rest =>
    if name = "render".toList then ofRenderWords verbose rest
    else if name = "tokens".toList then ofTokensWords verbose rest
    else ofUnknownCommand (name :: rest)

def ofWords (words : List Text) : Request :=
  match Options.read globalOptions false words with
  | none => misuse
  | some o => (ofGlobal? o).getD (ofCommand (o.has .verbose) o.operands)

end Request

end TripleQuote
