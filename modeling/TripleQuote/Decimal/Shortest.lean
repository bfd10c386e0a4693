import TripleQuote.Decimal.Double

/-! # Shortest decimal digits

The fewest decimal digits that read back as a given double. The numbers that round to a double
form an interval around it; of the decimal grids with one digit, two digits and so on, the first
that has a point in the interval gives the digits. Everything is computed on exact fractions. -/

namespace TripleQuote.Double

/-- A positive double with the interval of the numbers that round to it, all in quarters of its
last place: the number is `value * num / den`, and so on. The ends belong to it if `closed`. -/
structure Interval where
  low : Nat
  value : Nat
  high : Nat
  num : Nat
  den : Nat
  closed : Bool

/-- The interval of `m * 2 ^ e`. Below a power of two the doubles stand twice as close. -/
def interval (m : Nat) (e : Int) : Interval where
  low := 4 * m - (if m = Nat.pow 2 52 && minExponent < e then 1 else 2)
  value := 4 * m
  high := 4 * m + 2
  num := Nat.pow 2 (e - 2).toNat
  den := Nat.pow 2 (2 - e).toNat
  closed := m % 2 = 0

def digitCount (n : Nat) : Nat := (Nat.toDigits 10 n).length

/-- The power of ten that the leading digit of the positive fraction `num / den` counts. -/
def leadingPower (num den : Nat) : Int :=
  if den ≤ num then (digitCount (num / den) : Int) - 1
  else -(digitCount ((den - 1) / num) : Int)

/-- Whether the point `c * 10 ^ j` lies in the interval. -/
def Interval.holds (i : Interval) (c : Nat) (j : Int) : Bool :=
  let a := i.num * Nat.pow 10 (-j).toNat
  let b := i.den * Nat.pow 10 j.toNat
  if i.closed then i.low * a ≤ c * b && c * b ≤ i.high * a
  else i.low * a < c * b && c * b < i.high * a

/-- The point of the grid with step `10 ^ j` that lies in the interval and is nearest to its
value; of two that are equally near, the even one. -/
def Interval.nearest? (i : Interval) (j : Int) : Option Nat :=
  let a := i.value * i.num * Nat.pow 10 (-j).toNat
  let b := i.den * Nat.pow 10 j.toNat
  let c := a / b
  let r := a % b
  let first := if 2 * r < b || (2 * r = b && c % 2 = 0) then c else c + 1
  let second := if first = c then c + 1 else c
  if i.holds first j then some first
  else if i.holds second j then some second
  else none

/-- The first grid with a point in the interval, from `digits` digits on. -/
def Interval.search (i : Interval) (power : Int) : (tries digits : Nat) → Nat × Int
  | 0, digits => (0, power + 1 - digits)
  | tries + 1, digits =>
    let j := power + 1 - digits
    match i.nearest? j with
    | some c => (c, j)
    | none => i.search power tries (digits + 1)

/-- A number and a power of ten with the same product and without zeros at the end. -/
def stripZeros : (fuel : Nat) → Nat → Int → Nat × Int
  | 0, c, j => (c, j)
  | fuel + 1, c, j => if c % 10 = 0 && c ≠ 0 then stripZeros fuel (c / 10) (j + 1) else (c, j)

/-- The shortest decimal `c * 10 ^ j` that reads back as the double `m * 2 ^ e`. Seventeen digits
are enough for every double. -/
def shortest (m : Nat) (e : Int) : Nat × Int :=
  let i := interval m e
  let (c, j) := i.search (leadingPower (i.value * i.num) i.den) 17 1
  stripZeros (digitCount c) c j

end TripleQuote.Double
