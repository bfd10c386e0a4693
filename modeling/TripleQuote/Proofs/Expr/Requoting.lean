import Mathlib.Data.List.Basic
import TripleQuote.Proofs.Expr.Nodes
import TripleQuote.Proofs.Expr.Printing
import TripleQuote.Proofs.Text.Escapes

/-! # Reading paths

A path shows the constant of an expression as a quoted text, with escapes that constants do not
have: those are read as the characters that they are written with (`Text.reread`). So a path is read
as its expression with the constant read again (`parse_path_of_normal`), which is the expression
itself if the constant is legible. -/

namespace TripleQuote

/-- Whether a constant still means the character when the character has been quoted. -/
def Legible (c : Char) : Prop := isPrintable c = true ∨ c = '\n' ∨ c = '\t'

instance : DecidablePred Legible := fun c =>
  inferInstanceAs (Decidable (isPrintable c = true ∨ c = '\n' ∨ c = '\t'))

/-- What a constant means in which the character has been quoted. -/
def requote (q c : Char) : Text := if Legible c then [c] else escapeIn q c

/-- What a constant means that is a quoted text. -/
def Text.reread (t : Text) : Text := t.flatMap (requote (quoteFor t))

namespace Expr

/-- The text that the accesses of an expression start from, if they start from one. -/
def constant? : Expr → Option Text
  | text value => some value
  | attr target _ | call target _ => target.constant?
  | _ => none

/-- The same accesses on another text. -/
def mapConstant (f : Text → Text) : Expr → Expr
  | text value => text (f value)
  | attr target n => attr (target.mapConstant f) n
  | call target n => call (target.mapConstant f) n
  | e => e

end Expr

variable {q : Quote} {c : Char} {s t : Text} {e : Expr}

/-! ## Quoted characters -/

theorem legible_of_quote (q : Quote) : Legible q.char := by
  cases q with
  | single => exact .inl (by decide)
  | double => exact .inl (by decide)

theorem legible_backslash : Legible '\\' := .inl (by decide)

theorem plain_of_mem_hex (q : Quote) {width n : Nat} (hc : c ∈ Text.hex width n) :
    c ≠ q.char ∧ c ≠ '\\' := by
  constructor
  · rintro rfl
    cases q with
    | single => exact Text.notMem_hex (fun n => Nat.digitChar_ne '\'' (by decide)) width n hc
    | double => exact Text.notMem_hex (fun n => Nat.digitChar_ne '"' (by decide)) width n hc
  · rintro rfl
    exact Text.notMem_hex (fun n => Nat.digitChar_ne '\\' (by decide)) width n hc

/-- An escape that constants do not have: neither a quote nor a backslash is in its digits. -/
theorem exists_escape_of_not_legible (q : Quote) (h : ¬ Legible c) :
    ∃ kind digits, escapeIn q.char c = '\\' :: kind :: digits ∧ unescape kind = ['\\', kind] ∧
      ∀ d ∈ digits, d ≠ q.char ∧ d ≠ '\\' := by
  fun_cases escapeIn q.char c with
  | case1 hc =>
    rw [Bool.or_eq_true, decide_eq_true_iff, decide_eq_true_iff] at hc
    rcases hc with rfl | rfl
    · exact absurd (legible_of_quote q) h
    · exact absurd legible_backslash h
  | case2 _ hc => exact absurd (.inr (.inl hc)) h
  | case3 => exact ⟨'r', [], rfl, rfl, by simp⟩
  | case4 _ _ _ hc => exact absurd (.inr (.inr hc)) h
  | case5 _ _ _ _ hprintable => exact absurd (.inl hprintable) h
  | case6 => exact ⟨'x', _, rfl, rfl, fun d hd => plain_of_mem_hex q hd⟩
  | case7 => exact ⟨'u', _, rfl, rfl, fun d hd => plain_of_mem_hex q hd⟩
  | case8 => exact ⟨'U', _, rfl, rfl, fun d hd => plain_of_mem_hex q hd⟩

namespace ConstantBody

theorem verbatim (h : ∀ c ∈ t, c ≠ q.char ∧ c ≠ '\\') : ConstantBody q t t := by
  induction t with
  | nil => exact .nil
  | cons c t ih =>
    obtain ⟨⟨hquote, hback⟩, ht⟩ := List.forall_mem_cons.mp h
    exact .plain hquote hback (ih ht)

theorem escapeIn_of_legible (q : Quote) (h : Legible c) :
    ConstantBody q (escapeIn q.char c) [c] := by
  fun_cases escapeIn q.char c with
  | case1 hc =>
    rw [Bool.or_eq_true, decide_eq_true_iff, decide_eq_true_iff] at hc
    have hunescape : unescape c = [c] := by
      rcases hc with rfl | rfl
      · cases q <;> rfl
      · rfl
    have hbody := ConstantBody.escape (q := q) c .nil
    rwa [hunescape] at hbody
  | case2 _ hc =>
    subst hc
    exact .escape 'n' .nil
  | case3 _ _ hc =>
    subst hc
    exact absurd h (by decide)
  | case4 _ _ _ hc =>
    subst hc
    exact .escape 't' .nil
  | case5 hc =>
    rw [Bool.or_eq_true, decide_eq_true_iff, decide_eq_true_iff, not_or] at hc
    exact .plain hc.1 hc.2 .nil
  | case6 _ hn _ ht hprintable | case7 _ hn _ ht hprintable | case8 _ hn _ ht hprintable =>
    rcases h with h | h | h
    · exact absurd h hprintable
    · exact absurd h hn
    · exact absurd h ht

/-- An escape that constants do not have stands for itself. -/
theorem escapeIn_of_not_legible (q : Quote) (h : ¬ Legible c) :
    ConstantBody q (escapeIn q.char c) (escapeIn q.char c) := by
  obtain ⟨kind, digits, heq, hkind, hdigits⟩ := exists_escape_of_not_legible q h
  have hbody := ConstantBody.escape kind (verbatim hdigits)
  rwa [hkind, List.cons_append, List.singleton_append, ← heq] at hbody

theorem requote (q : Quote) (t : Text) :
    ConstantBody q (t.flatMap (escapeIn q.char)) (t.flatMap (TripleQuote.requote q.char)) := by
  induction t with
  | nil => exact .nil
  | cons c t ih =>
    rw [List.flatMap_cons, List.flatMap_cons, TripleQuote.requote]
    split
    · next h => exact (escapeIn_of_legible q h).append ih
    · next h => exact (escapeIn_of_not_legible q h).append ih

end ConstantBody

/-! ## Quoted texts -/

namespace Text

theorem exists_quote_char (t : Text) : ∃ q : Quote, q.char = quoteFor t := by
  rcases quoteFor_eq t with h | h
  · exact ⟨.double, h.symm⟩
  · exact ⟨.single, h.symm⟩

theorem reread_of_legible (h : ∀ c ∈ t, Legible c) : t.reread = t := by
  have hflat : t.flatMap (requote (quoteFor t)) = t.flatMap fun c => [c] :=
    List.flatMap_congr fun c hc => if_pos (h c hc)
  rw [reread, hflat, List.flatMap_singleton']

theorem one_lt_length_requote (q : Quote) (h : ¬ Legible c) : 1 < (requote q.char c).length := by
  obtain ⟨kind, digits, heq, -⟩ := exists_escape_of_not_legible q h
  rw [requote, if_neg h, heq]
  simp

theorem length_requote_pos (q : Quote) (c : Char) : 0 < (requote q.char c).length := by
  by_cases h : Legible c
  · rw [requote, if_pos h]
    exact Nat.one_pos
  · exact Nat.lt_of_succ_lt (one_lt_length_requote q h)

theorem length_le_requote (q : Quote) (t : Text) :
    t.length ≤ (t.flatMap (requote q.char)).length := by
  induction t with
  | nil => exact Nat.le_refl 0
  | cons c t ih =>
    have hc := length_requote_pos q c
    rw [List.flatMap_cons, List.length_append, List.length_cons]
    omega

/-- A text in which a character is not legible gets longer when it is quoted and read. -/
theorem length_lt_reread (hc : c ∈ t) (h : ¬ Legible c) : t.length < t.reread.length := by
  obtain ⟨q, hq⟩ := exists_quote_char t
  obtain ⟨u, v, rfl⟩ := List.append_of_mem hc
  have hu := length_le_requote q u
  have hv := length_le_requote q v
  have hlong := one_lt_length_requote q h
  rw [reread, ← hq]
  simp only [List.flatMap_append, List.flatMap_cons, List.length_append, List.length_cons]
  omega

end Text

/-! ## Paths -/

theorem SpellsTerm.quoted (t : Text) : SpellsTerm t.quoted (.text t.reread) := by
  intro pos s ts hs hts
  obtain ⟨q, hq⟩ := Text.exists_quote_char t
  have hquoted : t.quoted = q.char :: (t.flatMap (escapeIn q.char) ++ [q.char]) := by
    rw [Text.quoted, hq, List.cons_append]
  have hbody : ConstantBody q (t.flatMap (escapeIn q.char)) t.reread := by
    rw [Text.reread, ← hq]
    exact .requote q t
  rw [hquoted] at hts ⊢
  exact ⟨⟨.text ⟨⟨.string, t.reread, pos⟩, rfl⟩, []⟩, rfl,
    .token (.constant q hbody) (fun h => by cases h) hts⟩

namespace Expr

theorem spellsTerm_path (h : Normal e) (hc : e.isConcat = false) :
    SpellsTerm e.path (e.mapConstant Text.reread) := by
  induction h with
  | name h => exact .name h
  | text value => exact .quoted value
  | attr _ htarget hn ih => exact (ih htarget).attr hn
  | @call target n _ htarget hn ih =>
    have hpath : (call target n).path = target.path ++ '.' :: (n ++ ['(', ')']) :=
      List.append_assoc ..
    rw [hpath]
    exact (ih htarget).call hn
  | concat => cases hc

/-- A path is read as its expression with the constant read again. -/
theorem parse_path_of_normal (h : Normal e) (hc : e.isConcat = false) :
    parse e.path = .ok (e.mapConstant Text.reread) :=
  (spellsTerm_path h hc).parse

theorem mapConstant_eq_self_iff {f : Text → Text} :
    e.mapConstant f = e ↔ ∀ t, e.constant? = some t → f t = t := by
  induction e using Expr.induction with
  | name | concat | hole => simp [mapConstant, constant?]
  | text value => simp [mapConstant, constant?]
  | attr target n ih | call target n ih => simp [mapConstant, constant?, ih]

theorem mapConstant_congr {f g : Text → Text} (h : ∀ t, e.constant? = some t → f t = g t) :
    e.mapConstant f = e.mapConstant g := by
  induction e using Expr.induction with
  | name | concat | hole => rfl
  | text value => exact congrArg text (h value rfl)
  | attr target n ih | call target n ih => rw [mapConstant, mapConstant, ih h]

/-- The path of an expression without `+` is read as the expression exactly if all characters of its
constant, should it have one, are printable, line feeds or tabs. Otherwise the path is read as the
same accesses on a longer constant. -/
theorem parse_path (h : parse s = .ok e) (hc : e.isConcat = false) :
    (parse e.path = .ok e ↔ ∀ t, e.constant? = some t → ∀ c ∈ t, Legible c) ∧
    ((¬ ∀ t, e.constant? = some t → ∀ c ∈ t, Legible c) →
      ∃ t t', e.constant? = some t ∧ t.length < t'.length ∧
        parse e.path = .ok (e.mapConstant fun _ => t')) := by
  have hparse := parse_path_of_normal (normal_of_parse h) hc
  constructor
  · rw [hparse, Except.ok.injEq, mapConstant_eq_self_iff]
    refine forall₂_congr fun t ht => ⟨fun hread c hmem => ?_, Text.reread_of_legible⟩
    by_contra hnot
    have hlonger := Text.length_lt_reread hmem hnot
    rw [hread] at hlonger
    exact Nat.lt_irrefl _ hlonger
  · intro hnot
    push Not at hnot
    obtain ⟨t, ht, c, hmem, hc⟩ := hnot
    refine ⟨t, t.reread, ht, Text.length_lt_reread hmem hc, ?_⟩
    rw [hparse]
    refine congrArg _ (mapConstant_congr fun u hu => ?_)
    rw [Option.some.inj (hu.symm.trans ht)]

/-- A tab is read again and a bell is not: the path is `'\t\x07'.size`, and its constant is read as
a tab, a backslash and `x07`. -/
theorem parse_path_of_bell :
    parse "'\t\x07'.size" = .ok (.attr (.text "\t\x07") "size") ∧
    parse (attr (.text "\t\x07") "size").path ≠ .ok (.attr (.text "\t\x07") "size") ∧
    ∃ t, 2 < t.length ∧
      parse (attr (.text "\t\x07") "size").path = .ok (.attr (.text t) "size") := by
  have hparse : parse "'\t\x07'.size" = .ok (.attr (.text "\t\x07") "size") := rfl
  obtain ⟨hiff, hlonger⟩ := parse_path hparse rfl
  have hnot : ¬ ∀ t, (attr (.text "\t\x07") "size").constant? = some t → ∀ c ∈ t, Legible c := by
    intro h
    exact absurd (h _ rfl '\x07' (by decide)) (by decide)
  refine ⟨hparse, fun h => hnot (hiff.mp h), ?_⟩
  obtain ⟨_, t, ht, hlength, hread⟩ := hlonger hnot
  cases ht
  exact ⟨t, hlength, hread⟩

end Expr

end TripleQuote
