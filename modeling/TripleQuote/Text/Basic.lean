/-! # Texts

A text is a list of code points. Every length, offset and position of the library counts code
points, so that cutting and counting are the operations of lists. -/

namespace TripleQuote

/-- The code points of a text, in order. -/
abbrev Text := List Char

instance instCoeText : Coe String (List Char) := ⟨String.toList⟩

namespace Text

def ofNat (n : Nat) : Text := Nat.toDigits 10 n

/-- An integer in decimal digits, after `-` if it is negative. -/
def ofInt : Int → Text
  | .ofNat n => ofNat n
  | .negSucc n => '-' :: ofNat (n + 1)

/-- The texts in order with `sep` between neighbours. -/
def join (sep : Text) : List Text → Text
  | [] => []
  | [t] => t
  | t :: ts => t ++ sep ++ join sep ts

/-- A number in lower-case hexadecimal digits, filled with zeros up to `width`. -/
def hex (width n : Nat) : Text :=
  let digits := Nat.toDigits 16 n
  List.replicate (width - digits.length) '0' ++ digits

end Text

end TripleQuote
