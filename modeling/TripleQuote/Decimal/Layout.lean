import TripleQuote.Decimal.Shortest
import TripleQuote.Text.Basic

/-! # Layout of numbers

How the digits of a double are laid out as text. The decisions are the fields of one record. -/

namespace TripleQuote

/-- The decisions of a layout. -/
structure Layout where
  /-- The least decimal exponent that is written without an exponent part. -/
  leastPositional : Int
  /-- The first decimal exponent that is again written with one. -/
  firstScientific : Int
  /-- The least number of digits of an exponent. -/
  exponentWidth : Nat
  nan : Text
  infinity : Text

/-- Positional notation from `0.0001` to below `1e+16`, with a decimal in any case; a signed
exponent of at least two digits otherwise. -/
def Layout.standard : Layout where
  leastPositional := -4
  firstScientific := 16
  exponentWidth := 2
  nan := "nan"
  infinity := "inf"

namespace Layout

/-- Digits with the point after the first `whole` of them, filled with zeros on both sides. -/
def positional (digits : Text) (whole : Int) : Text :=
  if whole ≤ 0 then '0' :: '.' :: List.replicate (-whole).toNat '0' ++ digits
  else
    let n := whole.toNat
    let front := digits.take n ++ List.replicate (n - digits.length) '0'
    let back := digits.drop n
    front ++ '.' :: (if back.isEmpty then ['0'] else back)

/-- Digits with the point after the first, and the exponent. -/
def scientific (l : Layout) (digits : Text) (exponent : Int) : Text :=
  let power := Text.ofNat exponent.natAbs
  let mark := if digits.length = 1 then digits else digits.take 1 ++ '.' :: digits.drop 1
  mark ++ ['e', if exponent < 0 then '-' else '+'] ++
    List.replicate (l.exponentWidth - power.length) '0' ++ power

def magnitude (l : Layout) (m : Nat) (e : Int) : Text :=
  if m = 0 then ['0', '.', '0']
  else
    let (c, j) := Double.shortest m e
    let digits := Text.ofNat c
    let exponent := j + digits.length - 1
    if l.leastPositional ≤ exponent && exponent < l.firstScientific then
      positional digits (exponent + 1)
    else l.scientific digits exponent

def write (l : Layout) : Double → Text
  | .nan => l.nan
  | .infinity s => (if s then ['-'] else []) ++ l.infinity
  | .finite s m e => (if s then ['-'] else []) ++ l.magnitude m e

end Layout

def Double.text (x : Double) : Text := Layout.standard.write x

end TripleQuote
