import TripleQuote.Text.Quoted
import TripleQuote.Text.Terminal

/-! # Texts without escape characters

Only an escape character can start an escape sequence, so that a text without one is printed as it
is (`Text.EscapeFree.stripEscapes`). Quoted texts and numbers are such texts. -/

namespace TripleQuote.Text

/-- Whether no escape character is in the text. -/
def EscapeFree (t : Text) : Prop := '\x1b' ∉ t

instance : DecidablePred EscapeFree := fun t => inferInstanceAs (Decidable ('\x1b' ∉ t))

variable {t u : Text} {c : Char}

namespace EscapeFree

theorem nil : EscapeFree [] := List.not_mem_nil

theorem cons (hc : c ≠ '\x1b') (ht : EscapeFree t) : EscapeFree (c :: t) :=
  List.not_mem_cons_of_ne_of_not_mem hc.symm ht

theorem append (ht : EscapeFree t) (hu : EscapeFree u) : EscapeFree (t ++ u) := by
  rw [EscapeFree, List.mem_append, not_or]
  exact ⟨ht, hu⟩

theorem flatMap {f : Char → Text} (hf : ∀ c, EscapeFree (f c)) (t : Text) :
    EscapeFree (t.flatMap f) := by
  intro h
  obtain ⟨c, -, hc⟩ := List.mem_flatMap.mp h
  exact hf c hc

theorem join {sep : Text} {ts : List Text} (hsep : EscapeFree sep) (hts : ∀ t ∈ ts, EscapeFree t) :
    EscapeFree (join sep ts) := by
  fun_induction Text.join sep ts with
  | case1 => exact nil
  | case2 t => exact hts t (List.mem_singleton_self t)
  | case3 t ts _ ih =>
    obtain ⟨ht, hts⟩ := List.forall_mem_cons.mp hts
    exact (ht.append hsep).append (ih hts)

theorem stripEscapes (h : EscapeFree t) : t.stripEscapes = t := by
  rw [Text.stripEscapes]
  induction t with
  | nil => rfl
  | cons c t ih =>
    obtain ⟨hc, ht⟩ := List.ne_and_not_mem_of_not_mem_cons h
    rw [stripEscapesFrom, if_neg hc.symm]
    exact congrArg (c :: ·) (ih ht)

end EscapeFree

/-! ## Numbers -/

theorem notMem_toDigits {base : Nat} (hb : 1 < base) (hc : ∀ n, Nat.digitChar n ≠ c) (n : Nat) :
    c ∉ Nat.toDigits base n := by
  induction n using Nat.strongRecOn with
  | _ n ih =>
    rw [Nat.toDigits_eq_if hb]
    split
    · rw [List.mem_singleton]
      exact (hc n).symm
    · next hn =>
      have hlt : n / base < n := Nat.div_lt_self (by omega) hb
      rw [List.mem_append, List.mem_singleton, not_or]
      exact ⟨ih _ hlt, (hc _).symm⟩

theorem notMem_hex (hc : ∀ n, Nat.digitChar n ≠ c) (width n : Nat) : c ∉ hex width n := by
  rw [hex, List.mem_append, not_or]
  refine ⟨fun h => ?_, notMem_toDigits (by decide) hc n⟩
  exact hc 0 (List.eq_of_mem_replicate h).symm

theorem digitChar_ne_escape (n : Nat) : n.digitChar ≠ '\x1b' :=
  Nat.digitChar_ne '\x1b' (by decide)

theorem escapeFree_ofNat (n : Nat) : EscapeFree (ofNat n) :=
  notMem_toDigits (by decide) digitChar_ne_escape n

theorem escapeFree_ofInt (n : Int) : EscapeFree (ofInt n) := by
  cases n with
  | ofNat n => exact escapeFree_ofNat n
  | negSucc n => exact .cons (by decide) (escapeFree_ofNat (n + 1))

theorem escapeFree_hex (width n : Nat) : EscapeFree (hex width n) :=
  notMem_hex digitChar_ne_escape width n

/-! ## Quoted texts -/

theorem escapeFree_escapeIn {q : Char} (hq : q ≠ '\x1b') (c : Char) :
    EscapeFree (escapeIn q c) := by
  fun_cases escapeIn q c with
  | case1 h =>
    refine .cons (by decide) (.cons ?_ .nil)
    rintro rfl
    simp [hq.symm] at h
  | case2 | case3 | case4 => decide
  | case5 _ _ _ _ hprintable =>
    refine .cons ?_ .nil
    rintro rfl
    exact absurd hprintable (by decide)
  | case6 => exact .cons (by decide) (.cons (by decide) (escapeFree_hex 2 _))
  | case7 => exact .cons (by decide) (.cons (by decide) (escapeFree_hex 4 _))
  | case8 => exact .cons (by decide) (.cons (by decide) (escapeFree_hex 8 _))

theorem quoteFor_eq (t : Text) : quoteFor t = '"' ∨ quoteFor t = '\'' := by
  unfold quoteFor
  split
  · exact .inl rfl
  · exact .inr rfl

/-- Escape characters are not printable. -/
theorem escapeFree_quoted (t : Text) : EscapeFree t.quoted := by
  have hq : quoteFor t ≠ '\x1b' := by
    rcases quoteFor_eq t with h | h
    · rw [h]; decide
    · rw [h]; decide
  exact .append (.cons hq (.flatMap (escapeFree_escapeIn hq) t)) (.cons hq .nil)

end TripleQuote.Text
