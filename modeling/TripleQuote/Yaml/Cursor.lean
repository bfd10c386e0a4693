import TripleQuote.Text.Basic

/-! # Places in a document

A cursor is a place in the text of a YAML document: what is left of the text, and how many
characters, lines and columns came before. Lines end in LF, NEL or one of the two Unicode
separators. -/

namespace TripleQuote.Yaml

/-- A place in a document. -/
structure Cursor where
  rest : Text
  index : Nat
  line : Nat
  column : Nat
deriving Repr

/-- A character that ends a line. -/
def isBreak (c : Char) : Bool :=
  c == '\n' || c == '\u0085' || c == '\u2028' || c == '\u2029'

/-- A character, or the end of the text, that ends a word. -/
def endsWord : Option Char → Bool
  | none => true
  | some c => c == ' ' || c == '\t' || isBreak c

namespace Cursor

/-- The start of a text. -/
def start (t : Text) : Cursor := ⟨t, 0, 0, 0⟩

/-- The character `n` places ahead. -/
def peek (c : Cursor) (n : Nat) : Option Char := c.rest[n]?

/-- Whether the cursor stands before a character of a class. -/
def at? (c : Cursor) (p : Char → Bool) : Bool := c.rest.head?.any p

/-- The place after a character. A byte order mark takes no column. -/
def pass (c : Cursor) (ch : Char) (rest : Text) : Cursor :=
  if isBreak ch then ⟨rest, c.index + 1, c.line + 1, 0⟩
  else ⟨rest, c.index + 1, c.line, if ch = '\uFEFF' then c.column else c.column + 1⟩

/-- The next place. -/
def next (c : Cursor) : Cursor :=
  match c.rest with
  | [] => c
  | ch :: rest => c.pass ch rest

/-- The place `n` characters ahead. -/
def skip : Nat → Cursor → Cursor
  | 0, c => c
  | n + 1, c => skip n c.next

/-- The characters of a class that come next, and the place after them. -/
def span (p : Char → Bool) (c : Cursor) : Text × Cursor :=
  let run := c.rest.takeWhile p
  (run, skip run.length c)

/-- The place after the characters of a class. -/
def skipWhile (p : Char → Bool) (c : Cursor) : Cursor := (c.span p).2

/-- The place after the spaces that come before a column. -/
def skipSpacesTo (column : Int) (c : Cursor) : Cursor :=
  let spaces := (c.rest.takeWhile (· == ' ')).length
  skip (min spaces (column - c.column).toNat) c

/-- The line end that comes next, as text, and the place after it. -/
def lineBreak (c : Cursor) : Text × Cursor :=
  match c.rest with
  | [] => ([], c)
  | ch :: _ =>
    if ch = '\n' || ch = '\u0085' then (['\n'], c.next)
    else if isBreak ch then ([ch], c.next)
    else ([], c)

/-- Whether a line of three dashes or dots, which separates documents, comes next. -/
def separates (c : Cursor) : Bool :=
  (c.rest.take 3 == ['-', '-', '-'] || c.rest.take 3 == ['.', '.', '.']) && endsWord (c.peek 3)

end Cursor

end TripleQuote.Yaml
