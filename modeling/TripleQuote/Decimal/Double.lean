/-! # Double precision numbers

A binary floating point number of 53 significant bits, kept as an exact value. Arithmetic is
exact arithmetic on fractions followed by one rounding to the nearest double, ties to the even
one (`Double.ofFraction`). -/

namespace TripleQuote

/-- A double. A finite one has the magnitude `mantissa * 2 ^ exponent`; rounding produces only
the form with `mantissa < 2 ^ 53` and the least exponent that the format allows. -/
inductive Double where
  | nan
  | infinity (negative : Bool)
  | finite (negative : Bool) (mantissa : Nat) (exponent : Int)
deriving DecidableEq, Repr

namespace Double

def minExponent : Int := -1074

def maxExponent : Int := 971

/-- The quotient rounded to the nearest whole number, a half to the even one. -/
def roundDiv (num den : Nat) : Nat :=
  let q := num / den
  let r := num % den
  if 2 * r < den then q
  else if den < 2 * r then q + 1
  else q + q % 2

/-- The exponent with which a positive fraction has a mantissa of 53 bits. -/
def exponentOf (num den : Nat) : Int :=
  let a := Nat.log2 num
  let b := Nat.log2 den
  let small := if b ≤ a then num < den * Nat.pow 2 (a - b) else num * Nat.pow 2 (b - a) < den
  max minExponent ((a : Int) - b - (if small then 53 else 52))

/-- The double nearest to the fraction `num / den`. -/
def ofFraction (negative : Bool) (num den : Nat) : Double :=
  if num = 0 then finite negative 0 minExponent
  else
    let e := exponentOf num den
    let m := roundDiv (num * Nat.pow 2 (-e).toNat) (den * Nat.pow 2 e.toNat)
    let (m, e) := if m = Nat.pow 2 53 then (Nat.pow 2 52, e + 1) else (m, e)
    if maxExponent < e then infinity negative else finite negative m e

/-- The double nearest to `mantissa * 10 ^ exponent`. Far outside the range of the format the
power is not computed. -/
def ofDecimal (negative : Bool) (mantissa : Nat) (exponent : Int) : Double :=
  let magnitude : Int := (Nat.toDigits 10 mantissa).length + exponent
  if mantissa = 0 || magnitude < -400 then ofFraction negative 0 1
  else if 400 < magnitude then infinity negative
  else ofFraction negative (mantissa * Nat.pow 10 exponent.toNat) (Nat.pow 10 (-exponent).toNat)

def ofNat (n : Nat) : Double := ofFraction false n 1

def neg : Double → Double
  | nan => nan
  | infinity s => infinity !s
  | finite s m e => finite (!s) m e

/-- The sum of two doubles without sign. -/
def addMagnitude : Double → Double → Double
  | finite _ m e, finite _ n f =>
    let low := min e f
    let sum := m * Nat.pow 2 (e - low).toNat + n * Nat.pow 2 (f - low).toNat
    ofFraction false (sum * Nat.pow 2 low.toNat) (Nat.pow 2 (-low).toNat)
  | nan, _ => nan
  | _, nan => nan
  | _, _ => infinity false

/-- A double without sign, times a natural number that is rounded to a double first. -/
def scale (x : Double) (n : Nat) : Double :=
  match x, ofNat n with
  | finite _ m e, finite _ k f =>
    ofFraction false (m * k * Nat.pow 2 (e + f).toNat) (Nat.pow 2 (-(e + f)).toNat)
  | nan, _ => nan
  | _, _ => infinity false

/-- Whether the double is the whole number `n`. -/
def isInt (x : Double) (n : Int) : Bool :=
  match x with
  | finite s m e =>
    let magnitude := n.natAbs
    let sign := magnitude = 0 || (s == decide (n < 0))
    sign && (m * Nat.pow 2 e.toNat == magnitude * Nat.pow 2 (-e).toNat)
  | _ => false

/-- Numeric equality: the two zeros are equal, and NaN is equal to nothing. -/
def sameNumber : Double → Double → Bool
  | finite s m e, finite s' m' e' => (m == 0 && m' == 0) || (s == s' && m == m' && e == e')
  | infinity s, infinity s' => s == s'
  | _, _ => false

end Double

end TripleQuote
