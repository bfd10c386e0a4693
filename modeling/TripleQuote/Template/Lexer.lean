import TripleQuote.Template.Assembly
import TripleQuote.Template.Malformed
import TripleQuote.Template.Scan

/-! # From text to segments

A template is a body between delimiters, with any white space around it. `lex` opens it, scans
its body and assembles the pieces. -/

namespace TripleQuote

/-- A template that has been opened: its quote, and its body with the offset of the body. -/
structure Opened where
  quote : Quote
  offset : Nat
  body : Text
deriving DecidableEq, Repr

/-- Read white space and the opening delimiter. `required` is the quote that must be used. -/
def Opened.read (required : Option Quote) (source : Text) : Except Malformed Opened :=
  let pos := (source.takeWhile isBlank).length
  match Text.trimStart source with
  | a :: b :: c :: body =>
    match Quote.ofChar? a with
    | some q =>
      if b = a && c = a then
        match required with
        | some r => if q = r then .ok ⟨q, pos + 3, body⟩ else .error ⟨.otherOpener r, pos⟩
        | none => .ok ⟨q, pos + 3, body⟩
      else .error ⟨.noOpener, pos⟩
    | none => .error ⟨.noOpener, pos⟩
  | _ => .error ⟨.noOpener, pos⟩

namespace Scan

/-- How the ending of a scan judges a template of length `size` with quotes `q`: the number of
quotes that close it, or the fault. -/
def verdict (scan : Scan) (q : Quote) (size : Nat) : Except Malformed Nat :=
  match scan.ending with
  | .closed n => .ok n
  | .unterminated => .error ⟨.unterminated q, scan.offset⟩
  | .openSpan => .error ⟨.openSpan scan.offset, size⟩
  | .emptySpan => .error ⟨.emptySpan, scan.offset⟩
  | .bareDelimiter => .error ⟨.bareDelimiter, scan.offset⟩

end Scan

/-- The segments of a template. -/
def lex (required : Option Quote) (source : Text) : Except Malformed (List Segment) := do
  let opened ← Opened.read required source
  let scan := Scan.body opened.quote opened.offset opened.body
  let n ← scan.verdict opened.quote source.length
  let last := Segment.closing opened.quote scan.offset n
  return Segment.assemble opened.quote scan.pieces last

end TripleQuote
