import TripleQuote.Command.Outcome
import TripleQuote.Command.Request
import TripleQuote.Json

/-! # Running commands

A run maps a request and a view of the file system to an outcome. Nothing is printed or written
by a run that fails. -/

namespace TripleQuote

/-- The error of a document that could not be loaded: a bad scalar is not answered for. -/
def LoadError.failure : LoadError → Failure
  | .badScalar fault => .crash (.badScalar fault)
  | e => .answered (.load e)

def readTemplate (disk : Disk) (config : Config) (p : Path) : Except CommandError Template :=
  match disk.readText p with
  | .error e => .error (.read e)
  | .ok source => (Template.ofSource config source).mapError .malformed

namespace RenderRequest

/-- What a render needs from the file system besides the template: the configuration and the
entries of the file of bindings. -/
def load (r : RenderRequest) (disk : Disk) : Except Failure (Config × List (Value × Value)) := do
  let config ← match r.config with
    | none => .ok Config.default
    | some p => (disk.loadConfig p).mapError LoadError.failure
  let entries ← match r.vars with
    | none => .ok []
    | some p => (disk.loadMapping p).mapError LoadError.failure
  return (config, entries)

/-- The names that neither the assignments nor the file of bindings nor the configuration
bind. -/
def missing (r : RenderRequest) (entries : List (Value × Value)) (config : Config)
    (names : List Text) : List Text :=
  names.filter fun name =>
    !((assignedBindings r.assignments).contains name || (Value.entry? name entries).isSome ||
      config.vars.contains name)

/-- The bindings of the file, overridden by the assignments. -/
def bindings (r : RenderRequest) (entries : List (Value × Value)) :
    Except Bindings.Refusal Bindings :=
  Bindings.build entries (assignedBindings r.assignments).entries

/-- Print the output of a template, or write it to the file that the request names. -/
def deliver (r : RenderRequest) (disk : Disk) (text : Text) (events : List Event) : Outcome :=
  match r.output with
  | none => .printed text.stripEscapes events
  | some p =>
    match disk.checkWrite p with
    | .error e => .failed (.crash (.file e)) events
    | .ok () => ⟨[], some (p, text), none, events ++ [.wrote p.text]⟩

def run (r : RenderRequest) (disk : Disk) : Outcome :=
  match r.load disk with
  | .error failure => .failed failure []
  | .ok (config, entries) =>
    match readTemplate disk config r.template with
    | .error e => .failed (.answered e) []
    | .ok template =>
      let events := [.lexed template.segments.length, .loaded r.template.text]
      match template.identifiers with
      | .error e => .failed (.answered (.badSyntax e)) events
      | .ok names =>
        let missing := r.missing entries config names
        let events := events ++ if missing.isEmpty then [] else [.noBinding missing]
        match r.bindings entries with
        | .error refusal => .failed (.crash (.bindings refusal)) events
        | .ok bindings =>
          let events := events ++ template.events bindings
          match template.render bindings with
          | .error e => .failed e.failure events
          | .ok text => r.deliver disk text events

end RenderRequest

def runTokens (disk : Disk) (p : Path) : Outcome :=
  match readTemplate disk .default p with
  | .error e => .failed (.answered e) []
  | .ok template =>
    .printed ((Json.array (template.segments.map Segment.toJson)).text ++ ['\n']).stripEscapes
      [.lexed template.segments.length]

def Task.run (disk : Disk) : Task → Outcome
  | render r => r.run disk
  | tokens p => runTokens disk p

namespace Request

def perform (disk : Disk) : Request → Outcome
  | version => .printed versionText []
  | help => .printed helpText []
  | misuse => .failed .misuse []
  | run _ task => task.run disk

/-- The least level of the events that are recorded. -/
def threshold (debugging : Bool) : Request → Level
  | run verbose _ => .threshold debugging verbose
  | _ => .threshold debugging false

end Request

/-- The events of an outcome that are recorded. -/
def Outcome.log (o : Outcome) (least : Level) : List Event :=
  o.events.filter fun e => least.rank ≤ e.level.rank

end TripleQuote
