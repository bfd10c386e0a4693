import TripleQuote.Proofs.Expr.Lexeme

/-! # Identifiers as longest matches

An identifier is the longest match of its classes of characters at the place where it starts
(`Token.Starts.ident_iff`). In a source of ASCII characters the classes are those of the ASCII
letters, digits, underscore and dollar sign (`startsIdent_eq_ascii`). -/

namespace TripleQuote

/-- The longest part at the start of `s` that matches. -/
def LongestMatch (start more : Char → Bool) (t s : Text) : Prop :=
  Matches start more t ∧ t <+: s ∧ ∀ u, Matches start more u → u <+: s → u <+: t

/-- Whether a token is an identifier exactly if its place in `s` matches, and is the longest match
then. -/
def Token.IdentifiedBy (start more : Char → Bool) (s : Text) (t : Token) : Prop :=
  (t.kind = .ident ↔ ∃ u, LongestMatch start more u (s.drop t.position)) ∧
    (t.kind = .ident → LongestMatch start more t.value (s.drop t.position))

variable {start more start' more' : Char → Bool} {s t : Text}

theorem longestMatch_append (ht : Matches start more t)
    (hend : ∀ c, s.head? = some c → more c = false) : LongestMatch start more t (t ++ s) := by
  refine ⟨ht, List.prefix_append t s, fun u hu hus => ?_⟩
  rcases List.prefix_or_prefix_of_prefix hus (List.prefix_append t s) with h | ⟨v, rfl⟩
  · exact h
  · cases v with
    | nil => simp
    | cons d v =>
      -- The first character behind the match would have to go on with it.
      obtain ⟨c, rest, hcons, hc, hrest⟩ := hu
      obtain ⟨c', rest', rfl, _, _⟩ := ht
      rw [List.cons_append, List.cons.injEq] at hcons
      have hmore : more d = true := hrest d (by simp [← hcons.2])
      have hd : s.head? = some d := by
        obtain ⟨tail, htail⟩ := hus
        rw [List.append_assoc, List.append_right_inj] at htail
        rw [← htail]
        rfl
      rw [hend d hd] at hmore
      cases hmore

theorem not_longestMatch (h : ∀ c, s.head? = some c → start c = false) :
    ¬ ∃ t, LongestMatch start more t s := by
  rintro ⟨t, ⟨c, rest, rfl, hc, _⟩, ⟨tail, rfl⟩, _⟩
  rw [h c rfl] at hc
  cases hc

theorem startsIdent_eq_false {c : Char} (h : isIdentChar c = false) : startsIdent c = false := by
  rw [Bool.eq_false_iff] at h ⊢
  exact fun hc => h (isIdentChar_of_startsIdent hc)

theorem Token.Starts.ident_iff {t : Token} (h : t.Starts s) :
    (t.kind = .ident ↔ ∃ u, LongestMatch startsIdent isIdentChar u s) ∧
      (t.kind = .ident → LongestMatch startsIdent isIdentChar t.value s) := by
  have hother (hkind : t.kind ≠ .ident) (hs : ∀ c, s.head? = some c → startsIdent c = false) :
      (t.kind = .ident ↔ ∃ u, LongestMatch startsIdent isIdentChar u s) ∧
        (t.kind = .ident → LongestMatch startsIdent isIdentChar t.value s) :=
    ⟨iff_of_false hkind (not_longestMatch hs), fun h => absurd h hkind⟩
  cases h with
  | finish h => exact hother (by rw [h]; decide) (by simp)
  | @lexeme x s hx hend =>
    obtain ⟨kind, value, position⟩ := t
    cases hx with
    | punctuation hc =>
      refine hother ?_ ?_
      · rintro rfl
        exact punctuation?_ne_ident _ hc
      · intro c h
        cases h
        exact startsIdent_eq_false (isIdentChar_eq_false_of_punctuation hc)
    | ident hx =>
      have hmatch := longestMatch_append hx (hend rfl)
      exact ⟨iff_of_true rfl ⟨_, hmatch⟩, fun _ => hmatch⟩
    | constant q hbody =>
      refine hother (fun h => by cases h) ?_
      intro c h
      cases h
      exact startsIdent_eq_false (isIdentChar_quote q)

theorem Tokenized.identifiedBy {ts : List Token} (h : Tokenized 0 s ts) {t : Token}
    (ht : t ∈ ts) : t.IdentifiedBy startsIdent isIdentChar s := by
  obtain ⟨before, tail, rfl, hpos, hstarts⟩ := h.exists_split ht
  rw [Nat.zero_add] at hpos
  rw [Token.IdentifiedBy, hpos, List.drop_left]
  exact hstarts.ident_iff

/-! ## ASCII -/

/-- An ASCII letter, an underscore or a dollar sign. -/
def isAsciiStart (c : Char) : Bool :=
  ('A' ≤ c && c ≤ 'Z') || ('a' ≤ c && c ≤ 'z') || c == '_' || c == '$'

/-- One of these or an ASCII digit. -/
def isAsciiMore (c : Char) : Bool := isAsciiStart c || ('0' ≤ c && c ≤ '9')

theorem startsIdent_eq_ascii {c : Char} (h : c.toNat < 128) :
    startsIdent c = isAsciiStart c ∧ isIdentChar c = isAsciiMore c := by
  have hall : ∀ n < 128, startsIdent (Char.ofNat n) = isAsciiStart (Char.ofNat n) ∧
      isIdentChar (Char.ofNat n) = isAsciiMore (Char.ofNat n) := by
    decide +kernel
  simpa using hall c.toNat h

theorem Matches.congr (h : ∀ c ∈ t, start c = start' c ∧ more c = more' c)
    (ht : Matches start more t) : Matches start' more' t := by
  obtain ⟨c, rest, rfl, hc, hrest⟩ := ht
  refine ⟨c, rest, rfl, ?_, fun d hd => ?_⟩
  · rw [← (h c List.mem_cons_self).1, hc]
  · rw [← (h d (List.mem_cons_of_mem _ hd)).2, hrest d hd]

theorem LongestMatch.congr (h : ∀ c ∈ s, start c = start' c ∧ more c = more' c)
    (ht : LongestMatch start more t s) : LongestMatch start' more' t s := by
  obtain ⟨hmatch, hstart, hlongest⟩ := ht
  refine ⟨hmatch.congr fun c hc => h c (hstart.mem hc), hstart, fun u hu hus => ?_⟩
  refine hlongest u (hu.congr fun c hc => ?_) hus
  exact ⟨(h c (hus.mem hc)).1.symm, (h c (hus.mem hc)).2.symm⟩

theorem Token.IdentifiedBy.congr (h : ∀ c ∈ s, start c = start' c ∧ more c = more' c) {t : Token}
    (ht : t.IdentifiedBy start more s) : t.IdentifiedBy start' more' s := by
  have hdrop : ∀ c ∈ s.drop t.position, start c = start' c ∧ more c = more' c :=
    fun c hc => h c (List.mem_of_mem_drop hc)
  refine ⟨ht.1.trans ⟨?_, ?_⟩, fun hkind => (ht.2 hkind).congr hdrop⟩
  · rintro ⟨u, hu⟩
    exact ⟨u, hu.congr hdrop⟩
  · rintro ⟨u, hu⟩
    exact ⟨u, hu.congr fun c hc => ⟨(hdrop c hc).1.symm, (hdrop c hc).2.symm⟩⟩

end TripleQuote
