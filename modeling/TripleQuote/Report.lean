import TripleQuote.Template.Basic

/-! # Reports

A report is an error as it is shown to whoever asked: a kind of problem with its wording, and the
offset in the template where it arose, if it has one. -/

namespace TripleQuote

inductive Problem where
  | general (message : Text)
  | evaluation (message : Text)
  | config (message : Text)
  | malformed (message : Text)
  | unbound (name : Text)
  | unsupported (name : Text)
  | badSyntax (message source : Text) (position : Int)
deriving DecidableEq, Repr

def Problem.message : Problem → Text
  | general m | evaluation m | config m | malformed m => m
  | unbound name => "Unbound identifier: " ++ name
  | unsupported name => "Unsupported method: " ++ name ++ "()"
  | badSyntax m source position =>
    "Invalid expression syntax: " ++ m ++ " at position " ++ Text.ofInt position ++ " in "
      ++ source.quoted

structure Report where
  problem : Problem
  offset : Option Int
deriving DecidableEq, Repr

def Report.text (r : Report) : Text :=
  match r.offset with
  | none => r.problem.message
  | some n => r.problem.message ++ " (at offset " ++ Text.ofInt n ++ ")"

def Malformed.report (m : Malformed) : Report := ⟨.malformed m.cause.message, some m.offset⟩

def SyntaxError.problem (e : SyntaxError) : Problem :=
  .badSyntax e.cause.message e.source e.position

def holeMessage : Text := "Unknown expression node: Expr"

def EvalError.problem : EvalError → Problem
  | .unbound path => .unbound path
  | .unsupported method => .unsupported method
  | .badSyntax e => e.problem
  | .hole => .general holeMessage
  | .unwritable => .general (limitMessage none)

/-- A failed render as it is reported. Only the errors that a template can be blamed for carry the
offset: a number that cannot be written out is no fault of the template. -/
def RenderError.report (e : RenderError) : Report :=
  match e.error with
  | .unbound _ | .unsupported _ | .badSyntax _ => ⟨e.error.problem, some e.offset⟩
  | .hole | .unwritable => ⟨e.error.problem, none⟩

end TripleQuote
