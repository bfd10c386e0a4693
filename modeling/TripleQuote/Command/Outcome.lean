import TripleQuote.Files.Loading
import TripleQuote.Log
import TripleQuote.Report
import TripleQuote.Text.Terminal

/-! # Outcomes of commands

What a run of a command comes to: the exit code, what is printed and recorded, and the file to be
written. -/

namespace TripleQuote

def versionText : Text := "tqs 0.1.0\n"

def helpText : Text :=
  "Usage: tqs [--version] [-v] COMMAND\n\n"
    ++ "  render TEMPLATE [-s NAME=VALUE]... [--vars FILE] [-c FILE] [-o FILE]\n"
    ++ "  tokens TEMPLATE\n"

/-- Errors that a command answers with a message. -/
inductive CommandError where
  | load (error : LoadError)
  | read (error : ReadError)
  | malformed (error : Malformed)
  /-- An expression that cannot be parsed, found before anything is rendered. -/
  | badSyntax (error : SyntaxError)
  | render (error : RenderError)

/-- Errors that a command does not answer for. -/
inductive Crash where
  /-- A binding of the file of bindings has a key that is no text. -/
  | bindings (refusal : Bindings.Refusal)
  | badScalar (fault : Yaml.Fault)
  | unwritable
  | file (error : FileError)

inductive Failure where
  | misuse
  | answered (error : CommandError)
  | crash (crash : Crash)

def RenderError.failure (e : RenderError) : Failure :=
  if e.error = .unwritable then .crash .unwritable else .answered (.render e)

def CommandError.message : CommandError → Text
  | load e => e.message
  | read e => e.message
  | malformed e => e.report.text
  | badSyntax e => (Report.mk e.problem none).text
  | render e => e.report.text

def Crash.message : Crash → Text
  | bindings r => r.message
  | badScalar fault => fault.message
  | unwritable => limitMessage none
  | file e => e.message

namespace Failure

def text : Failure → Text
  | misuse => helpText
  | answered e => "Error: " ++ Text.stripEscapes e.message
  | crash c => "Unexpected error: " ++ Text.stripEscapes c.message

end Failure

structure Outcome where
  stdout : Text
  /-- The file to be written, and its text. -/
  written : Option (Path × Text)
  failure : Option Failure
  events : List Event

namespace Outcome

def failed (failure : Failure) (events : List Event) : Outcome := ⟨[], none, some failure, events⟩

def printed (text : Text) (events : List Event) : Outcome := ⟨text, none, none, events⟩

def exitCode (o : Outcome) : Nat :=
  match o.failure with
  | none => 0
  | some .misuse => 2
  | some _ => 1

end Outcome

end TripleQuote
