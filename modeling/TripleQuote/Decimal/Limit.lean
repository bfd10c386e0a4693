import TripleQuote.Text.Basic

/-! # The limit on digits

A whole number of more than 4300 decimal digits is neither read from its digits nor written out.
Bases that are powers of two have no limit. -/

namespace TripleQuote

/-- The greatest number of decimal digits. -/
def digitLimit : Nat := 4300

/-- Whether a whole number can be written out. -/
def isWritable (n : Int) : Bool := (Text.ofNat n.natAbs).length ≤ digitLimit

theorem Text.length_ofNat_le_iff {n k : Nat} (hk : 0 < k) :
    (ofNat n).length ≤ k ↔ n < Nat.pow 10 k :=
  Nat.length_toDigits_le_iff (by decide) hk

theorem isWritable_iff {n : Int} : isWritable n = true ↔ n.natAbs < Nat.pow 10 digitLimit := by
  rw [isWritable, decide_eq_true_iff]
  exact Text.length_ofNat_le_iff (by decide)

/-- The explanation of too many digits, of which `digits` have been counted. -/
def limitMessage (digits : Option Nat) : Text :=
  let counted : Text := digits.elim [] fun n => ": value has " ++ Text.ofNat n ++ " digits"
  "Exceeds the limit (" ++ Text.ofNat digitLimit ++ " digits) for integer string conversion"
    ++ counted ++ "; use sys.set_int_max_str_digits() to increase the limit"

end TripleQuote
