import TripleQuote.Decimal.Double
import TripleQuote.Text.Basic

/-! # Reading decimal numbers -/

namespace TripleQuote

/-- The value of a digit in bases up to sixteen. -/
def digitValue? (c : Char) : Option Nat :=
  if '0' ≤ c && c ≤ '9' then some (c.toNat - '0'.toNat)
  else if 'a' ≤ c && c ≤ 'f' then some (c.toNat - 'a'.toNat + 10)
  else if 'A' ≤ c && c ≤ 'F' then some (c.toNat - 'A'.toNat + 10)
  else none

def isDigit (c : Char) : Bool := '0' ≤ c && c ≤ '9'

/-- The number that a nonempty run of digits spells in a base, if they all are digits of it. -/
def readNat? (base : Nat) (t : Text) : Option Nat :=
  if t.isEmpty then none
  else t.foldl (fun n? c => do
    let n ← n?
    let d ← digitValue? c
    if d < base then some (n * base + d) else none) (some 0)

/-- A sign and the text after it. -/
def readSign : Text → Bool × Text
  | '-' :: t => (true, t)
  | '+' :: t => (false, t)
  | t => (false, t)

/-- The integer that an optional sign and decimal digits spell. -/
def readInt? (t : Text) : Option Int :=
  let (negative, digits) := readSign t
  (readNat? 10 digits).map fun n => if negative then -(n : Int) else n

/-- The number that digits with an optional point and an optional exponent spell. -/
def readDecimal? (negative : Bool) (t : Text) : Option Double := do
  let whole := t.takeWhile isDigit
  let t := t.dropWhile isDigit
  let (places, t) := match t with
    | '.' :: t => (t.takeWhile isDigit, t.dropWhile isDigit)
    | t => ([], t)
  let mantissa ← readNat? 10 (whole ++ places)
  let exponent ← match t with
    | [] => some 0
    | c :: t => if c = 'e' || c = 'E' then readInt? t else none
  return Double.ofDecimal negative mantissa (exponent - places.length)

/-- The double that a text spells: a decimal number, `inf` or `nan`, with an optional sign. -/
def readDouble? (t : Text) : Option Double :=
  let (negative, t) := readSign t
  if t = ['i', 'n', 'f'] then some (.infinity negative)
  else if t = ['n', 'a', 'n'] then some .nan
  else readDecimal? negative t

end TripleQuote
