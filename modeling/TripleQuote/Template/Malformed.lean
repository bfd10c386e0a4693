import TripleQuote.Template.Segment
import TripleQuote.Text.Quoted

/-! # Malformed templates -/

namespace TripleQuote

inductive Malformed.Cause where
  /-- It does not start with a delimiter. -/
  | noOpener
  /-- It starts with the delimiter of the other quote. -/
  | otherOpener (required : Quote)
  | unterminated (q : Quote)
  /-- An expression, opened at the given offset, has no closing brace. -/
  | openSpan (opener : Nat)
  | emptySpan
  /-- A delimiter that more text follows. -/
  | bareDelimiter
deriving DecidableEq, Repr

/-- A text that is no template, with the offset at which it goes wrong. -/
structure Malformed where
  cause : Malformed.Cause
  offset : Nat
deriving DecidableEq, Repr

def Malformed.Cause.message : Malformed.Cause → Text
  | noOpener => "Template must start with a three-quote delimiter"
  | otherOpener q => "Template must be delimited by " ++ q.delimiter
  | unterminated q => "Unterminated template: missing closing " ++ q.delimiter
  | openSpan opener => "Unterminated interpolation opened at offset " ++ Text.ofNat opener
  | emptySpan => "Empty interpolation"
  | bareDelimiter =>
    "Unescaped delimiter inside template body (write N + 3 quotes to embed N quote characters)"

/-- The explanation of a text that was required as the quote of a template and is none. -/
def Quote.refusal (t : Text) : Text :=
  "quote must be one of (\"'\", '\"'), got " ++ t.quoted

end TripleQuote
