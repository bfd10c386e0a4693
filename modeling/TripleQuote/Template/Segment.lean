import TripleQuote.Text.Basic

/-! # Segments

A template is a list of segments: text that is copied to the output, and interpolated
expressions. A segment carries the offset of its first character in the template. -/

namespace TripleQuote

/-- A quote character. Three of them delimit a template. -/
inductive Quote where
  | single
  | double
deriving DecidableEq, Repr

namespace Quote

def char : Quote → Char
  | single => '\''
  | double => '"'

def ofChar? (c : Char) : Option Quote :=
  if c = '\'' then some single else if c = '"' then some double else none

def ofText? : Text → Option Quote
  | [c] => ofChar? c
  | _ => none

/-- `n` quotes in a row. -/
def run (q : Quote) (n : Nat) : Text := List.replicate n q.char

/-- The quotes that open and close a template. -/
def delimiter (q : Quote) : Text := q.run 3

@[simp] theorem ofChar?_char (q : Quote) : ofChar? q.char = some q := by
  cases q <;> rfl

theorem char_eq_of_ofChar? {c : Char} {q : Quote} (h : ofChar? c = some q) : q.char = c := by
  unfold ofChar? at h
  split at h
  · next hc => cases h; exact hc.symm
  · split at h
    · next hc => cases h; exact hc.symm
    · cases h

end Quote

inductive Segment where
  /-- Text for the output, with its escapes resolved. -/
  | literal (offset : Nat) (text : Text)
  /-- The source of an expression. Its offset is that of the source, behind the `$` and brace. -/
  | interpolation (offset : Nat) (source : Text)
deriving DecidableEq, Repr

namespace Segment

def offset : Segment → Nat
  | literal n _ => n
  | interpolation n _ => n

/-- The source of the expression, if the segment is one. -/
def source? : Segment → Option Text
  | literal _ _ => none
  | interpolation _ s => some s

end Segment

end TripleQuote
