import TripleQuote.Template.Basic

/-! # The log

What a run of a command records while it works, by the part of the program that records it. -/

namespace TripleQuote

/-- How much a record matters. -/
inductive Level where
  | debug
  | info
  | warning
deriving DecidableEq, Repr

namespace Level

def name : Level → Text
  | debug => "DEBUG"
  | info => "INFO"
  | warning => "WARNING"

def rank : Level → Nat
  | debug => 0
  | info => 1
  | warning => 2

/-- The least level that is recorded. -/
def threshold (debugging verbose : Bool) : Level :=
  if debugging then debug else if verbose then info else warning

end Level

inductive Event where
  | lexed (segments : Nat)
  | evaluated (source result : Text)
  | rendered (segments : Nat)
  | loaded (template : Text)
  | noBinding (names : List Text)
  | wrote (file : Text)
deriving DecidableEq, Repr

namespace Event

def level : Event → Level
  | lexed _ | evaluated _ _ | rendered _ => .debug
  | loaded _ | wrote _ => .info
  | noBinding _ => .warning

/-- The part of the program that records the event. -/
def origin : Event → Text
  | lexed _ => "tqs.ast.lexer"
  | evaluated _ _ => "tqs.compiler.evaluator"
  | rendered _ => "tqs.compiler.renderer"
  | loaded _ | wrote _ | noBinding _ => "tqs.commands.render"

def message : Event → Text
  | lexed n => "Lexed template into " ++ Text.ofNat n ++ " segment(s)"
  | evaluated source result => "Evaluated $\x7b" ++ source ++ "\x7d -> " ++ result.quoted
  | rendered n => "Rendered " ++ Text.ofNat n ++ " segment(s)"
  | loaded template => "Loaded template " ++ template
  | noBinding names => "No binding for: " ++ Text.join ", " names
  | wrote file => "Wrote " ++ file

end Event

def Template.events (t : Template) (bindings : Bindings) : List Event :=
  let env := (t.scope bindings).get?
  let evaluated := (Template.evaluations t.config.methods env t.segments).map fun e =>
    Event.evaluated e.1 e.2
  match t.render bindings with
  | .ok _ => evaluated ++ [.rendered t.segments.length]
  | .error _ => evaluated

end TripleQuote
