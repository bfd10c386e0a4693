import TripleQuote.Decimal.Reading

/-! # Digits of numbers

A number is read back from its digits, in every base that has digits (`readNat?_toDigits`), and also
from digits that are filled with zeros (`readNat?_hex`). -/

namespace TripleQuote

variable {base n m d : Nat} {c : Char} {t : Text}

theorem digitValue?_digitChar : ∀ d < 16, digitValue? (Nat.digitChar d) = some d := by
  decide

theorem readNat?_append_digit (ht : readNat? base t = some m) (hc : digitValue? c = some d)
    (hd : d < base) : readNat? base (t ++ [c]) = some (m * base + d) := by
  unfold readNat? at ht ⊢
  split at ht
  · cases ht
  · rw [if_neg (by simp), List.foldl_append, ht]
    simp [hc, hd]

theorem readNat?_toDigits (hbase : 1 < base) (hbase' : base ≤ 16) (n : Nat) :
    readNat? base (Nat.toDigits base n) = some n := by
  induction n using Nat.strongRecOn with
  | _ n ih =>
    rw [Nat.toDigits_eq_if hbase]
    split
    · next hn => simp [readNat?, digitValue?_digitChar n (by omega), hn]
    · next hn =>
      have hlt : n / base < n := Nat.div_lt_self (by omega) hbase
      have hmod : n % base < base := Nat.mod_lt n (by omega)
      rw [readNat?_append_digit (ih _ hlt) (digitValue?_digitChar _ (by omega)) hmod,
        Nat.div_add_mod']

theorem readNat?_zero_cons (hbase : 0 < base) (ht : t ≠ []) :
    readNat? base ('0' :: t) = readNat? base t := by
  obtain ⟨c, t, rfl⟩ := List.exists_cons_of_ne_nil ht
  simp [readNat?, hbase, show digitValue? '0' = some 0 from rfl]

theorem readNat?_hex (width n : Nat) : readNat? 16 (Text.hex width n) = some n := by
  unfold Text.hex
  simp only
  induction width - (Nat.toDigits 16 n).length with
  | zero => exact readNat?_toDigits (by decide) (by decide) n
  | succ k ih =>
    rwa [List.replicate_succ, List.cons_append, readNat?_zero_cons (by decide) (by simp)]

theorem length_hex (hn : n < 0x10000) : (Text.hex 4 n).length = 4 := by
  have hlength : (Nat.toDigits 16 n).length ≤ 4 :=
    (Nat.length_toDigits_le_iff (by decide) (by decide)).mpr hn
  simp only [Text.hex, List.length_append, List.length_replicate]
  omega

theorem isDigit_of_mem_ofNat (hc : c ∈ Text.ofNat n) : isDigit c = true := by
  have hdigit := Nat.isDigit_of_mem_toDigits (by decide) (by decide) hc
  simpa [Char.isDigit, isDigit, Char.le_def] using hdigit

theorem ne_of_isDigit {d : Char} (hc : isDigit c = true) (hd : isDigit d = false) : c ≠ d := by
  rintro rfl
  rw [hc] at hd
  cases hd

theorem ofNat_ne_cons (hc : isDigit c = false) : Text.ofNat n ≠ c :: t := by
  intro h
  have hmem : c ∈ Text.ofNat n := by simp [h]
  exact ne_of_isDigit (isDigit_of_mem_ofNat hmem) hc rfl

/-- No number but zero starts with a zero. -/
theorem head?_toDigits_ne (hn : 0 < n) : (Nat.toDigits 10 n).head? ≠ some '0' := by
  induction n using Nat.strongRecOn with
  | _ n ih =>
    rw [Nat.toDigits_eq_if (by decide)]
    split
    · simp [Nat.ne_of_gt hn]
    · next hge =>
      have hlt : n / 10 < n := Nat.div_lt_self hn (by decide)
      have hhead := ih _ hlt (by omega)
      obtain ⟨c, t, ht⟩ := List.exists_cons_of_ne_nil
        (Nat.toDigits_ne_nil : Nat.toDigits 10 (n / 10) ≠ [])
      rw [ht] at hhead ⊢
      exact hhead

end TripleQuote
