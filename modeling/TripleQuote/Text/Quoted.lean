import TripleQuote.Text.Basic
import TripleQuote.Text.Printable

/-! # Quoted text

The form in which error messages and the text of containers show strings and byte strings:
between quotes, with a backslash escape for whatever cannot be shown as it is. -/

namespace TripleQuote

/-- The quote around a text: a double quote if the text holds single quotes only. -/
def quoteFor (t : Text) : Char :=
  if t.contains '\'' && !t.contains '"' then '"' else '\''

/-- A character between quotes `q`. The escapes by number take the fewest digits that fit. -/
def escapeIn (q c : Char) : Text :=
  if c = q || c = '\\' then ['\\', c]
  else if c = '\n' then ['\\', 'n']
  else if c = '\r' then ['\\', 'r']
  else if c = '\t' then ['\\', 't']
  else if isPrintable c then [c]
  else if c.toNat ≤ 0xFF then '\\' :: 'x' :: Text.hex 2 c.toNat
  else if c.toNat ≤ 0xFFFF then '\\' :: 'u' :: Text.hex 4 c.toNat
  else '\\' :: 'U' :: Text.hex 8 c.toNat

/-- A text between quotes. -/
def Text.quoted (t : Text) : Text :=
  let q := quoteFor t
  q :: t.flatMap (escapeIn q) ++ [q]

/-- A byte between quotes `q`: the printable ASCII characters stand for themselves. -/
def escapeByteIn (q : Char) (b : UInt8) : Text :=
  let c := Char.ofNat b.toNat
  if c = q || c = '\\' then ['\\', c]
  else if c = '\n' then ['\\', 'n']
  else if c = '\r' then ['\\', 'r']
  else if c = '\t' then ['\\', 't']
  else if 0x20 ≤ b.toNat && b.toNat < 0x7F then [c]
  else '\\' :: 'x' :: Text.hex 2 b.toNat

/-- A byte string between quotes, after the letter `b`. -/
def quotedBytes (bytes : List UInt8) : Text :=
  let q := quoteFor (bytes.map fun b => Char.ofNat b.toNat)
  'b' :: q :: bytes.flatMap (escapeByteIn q) ++ [q]

end TripleQuote
