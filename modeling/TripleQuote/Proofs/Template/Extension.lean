import TripleQuote.Proofs.Template.Endings

/-! # Extensions of a template

A text that is no template because something is missing at its end can be completed to one. A text
with a fault in its body stays as faulty as it is, whatever is written behind it, and so does a text
with a wrong opener (`lex_append_of_error`).

Both rest on one fact: pieces that fit before a text fit before every extension of it, if two
characters of the text are there to be looked at, or if the extension starts with a character that
means nothing (`Piece.AllFit.extend`). -/

namespace TripleQuote

variable {q : Quote} {p : Piece} {ps : List Piece} {s t rest last : Text} {c : Char}
  {required : Option Quote} {error : Malformed}

/-! ## Pieces before more text -/

/-- Whether the pieces before `rest` see all that they look at when `t` is written behind it. The
letter stands for a character that continues no piece. -/
def Settled (rest t : Text) : Prop := 2 ≤ rest.length ∨ t.head? = some 'x'

theorem Settled.cons (h : Settled rest t) (c : Char) : Settled (c :: rest) t :=
  h.imp_left Nat.le_succ_of_le

theorem Settled.append_left (h : Settled rest t) (s : Text) : Settled (s ++ rest) t := by
  induction s with
  | nil => exact h
  | cons c s ih => exact ih.cons c

theorem Settled.head?_ne (h : Settled rest t) (hc : c ≠ 'x') (hrest : rest.head? ≠ some c) :
    (rest ++ t).head? ≠ some c := by
  cases rest with
  | cons d rest => exact hrest
  | nil =>
    rcases h with hlength | ht
    · cases hlength
    · rw [List.nil_append, ht]
      exact fun heq => hc (Option.some.inj heq).symm

theorem Settled.not_opener (h : Settled rest t) (hrest : ¬ ['$', '{'] <+: rest) :
    ¬ ['$', '{'] <+: rest ++ t := by
  match rest with
  | [] =>
    have hhead := h.head?_ne (c := '$') (by decide) (by simp)
    rintro ⟨tail, htail⟩
    rw [← htail] at hhead
    exact hhead rfl
  | [d] =>
    rintro ⟨tail, htail⟩
    obtain ⟨-, ht⟩ := List.cons.inj htail
    rcases h with hlength | hhead
    · cases Nat.le_of_succ_le_succ hlength
    · rw [← show _ = t from ht] at hhead
      cases hhead
  | d :: d' :: rest =>
    rintro ⟨tail, htail⟩
    refine hrest ⟨rest, ?_⟩
    simp only [List.cons_append, List.nil_append, List.cons.injEq] at htail ⊢
    exact ⟨htail.1, htail.2.1, trivial⟩

theorem Piece.Fits.extend (h : p.Fits q rest) (ht : Settled rest t) : p.Fits q (rest ++ t) := by
  have hquote : q.char ≠ 'x' := by cases q <;> decide
  cases h with
  | lf => exact .lf
  | crlf => exact .crlf
  | cr h => exact .cr (ht.head?_ne (by decide) h)
  | opener => exact .opener
  | backslash hlf hcr hopen =>
    exact .backslash (ht.head?_ne (by decide) hlf) (ht.head?_ne (by decide) hcr)
      (ht.not_opener hopen)
  | span hclose hblank => exact .span hclose hblank
  | quotes hn hrun => exact .quotes hn (ht.head?_ne hquote hrun)
  | char hne hback hopen =>
    exact .char hne hback fun hc => ht.head?_ne (by decide) (hopen hc)

theorem Piece.AllFit.extend (h : AllFit q ps last) (ht : Settled last t) :
    AllFit q ps (last ++ t) := by
  induction ps with
  | nil => trivial
  | cons p ps ih =>
    refine ⟨?_, ih h.2⟩
    rw [← List.append_assoc]
    exact h.1.extend (ht.append_left _)

/-! ## Texts with an opener -/

namespace Cut

/-- A piece in the place of the ending and a delimiter behind it complete the template. -/
theorem exists_lex_of_completes {c : Cut} (hmeets : c.Meets required) (hsettled : Settled c.last t)
    (hp : p.Fits c.quote c.quote.delimiter)
    (ht : p.spelling c.quote ++ c.quote.delimiter = c.last ++ t) :
    ∃ segments, lex required (c.text ++ t) = .ok segments := by
  have hfits : Piece.AllFit c.quote (c.pieces ++ [p]) (c.quote.run (0 + 3) ++ []) := by
    rw [Piece.allFit_append, List.append_nil]
    refine ⟨?_, hp, trivial⟩
    have hspell : Piece.spell c.quote [p] ++ c.quote.delimiter = c.last ++ t := by
      simpa using ht
    exact hspell ▸ c.fits.extend hsettled
  let d : Decomposition :=
    ⟨c.leading, c.quote, c.pieces ++ [p], 0, [], c.leading_blank, rfl, hfits⟩
  have htext : d.text = c.text ++ t := by
    simp [Decomposition.text, Decomposition.last, d, text, Piece.spell_append, ← ht,
      Quote.delimiter]
  exact ⟨d.segments, htext ▸ d.lex_text hmeets⟩

/-- An ending that stays when more text is written behind it keeps its fault. -/
theorem lex_append_of_stands {c : Cut} (hmeets : c.Meets required)
    (hlast : Text.blank c.last = false) (hlength : 2 ≤ c.last.length)
    (hstands : c.ending.Stands c.quote (c.last ++ t))
    (hverdict : ∀ size, c.scan.verdict c.quote size = .error error) :
    lex required (c.text ++ t) = .error error := by
  let c' : Cut :=
    ⟨c.leading, c.quote, c.pieces, c.ending, c.last ++ t, c.leading_blank,
      c.fits.extend (.inl hlength), hstands⟩
  have htext : c'.text = c.text ++ t := by
    simp [text, c']
  have hblank : Text.blank (c.last ++ t) = false := by
    rw [Text.blank_append, hlast, Bool.false_and]
  rw [← htext]
  exact c'.lex_text_of_fault hmeets hblank (hverdict _)

theorem completes_of_unterminated {c : Cut} (hmeets : c.Meets required)
    (h : c.ending = .unterminated) :
    c.offset = c.text.length ∧ ∃ t segments, lex required (c.text ++ t) = .ok segments := by
  have hlast : c.last = [] := (h ▸ c.stands).eq_nil
  refine ⟨by rw [c.length_text, hlast]; rfl, 'x' :: c.quote.delimiter, ?_⟩
  refine exists_lex_of_completes (p := .char 'x') hmeets (.inr rfl) ?_ (by rw [hlast]; rfl)
  exact .char (by cases c.quote <;> decide) (by decide) fun heq => absurd heq (by decide)

theorem completes_of_openSpan {c : Cut} (hmeets : c.Meets required) (h : c.ending = .openSpan) :
    ∃ t segments, lex required (c.text ++ t) = .ok segments := by
  obtain ⟨e, hclose, hlast⟩ := (h ▸ c.stands).exists_open
  refine ⟨'x' :: '}' :: c.quote.delimiter, ?_⟩
  refine exists_lex_of_completes (p := .span (e ++ ['x'])) hmeets (.inr rfl) ?_ ?_
  · refine .span (by simpa using hclose) ?_
    rw [Text.blank_append, show Text.blank ['x'] = false from rfl, Bool.and_false]
  · simp [hlast, Piece.spelling]

theorem keeps_emptySpan {c : Cut} (hmeets : c.Meets required) (h : c.ending = .emptySpan) :
    c.offset < c.text.length ∧
      ∀ t, lex required (c.text ++ t) = .error ⟨.emptySpan, c.offset⟩ := by
  obtain ⟨e, rest, hclose, hblank, hlast⟩ := (h ▸ c.stands).exists_empty
  refine ⟨by rw [c.length_text, hlast, List.length_cons]; omega, fun t => ?_⟩
  refine lex_append_of_stands hmeets (by rw [hlast]; rfl) (by rw [hlast]; simp) ?_ fun size => ?_
  · rw [h, hlast, List.cons_append, List.cons_append, List.append_assoc]
    exact .emptySpan hclose hblank
  · rw [Scan.verdict, show c.scan.ending = _ from h]
    rfl

theorem keeps_bareDelimiter {c : Cut} (hmeets : c.Meets required)
    (h : c.ending = .bareDelimiter) :
    c.offset < c.text.length ∧
      ∀ t, lex required (c.text ++ t) = .error ⟨.bareDelimiter, c.offset⟩ := by
  obtain ⟨rest, hrun, hrest, hlast⟩ := (h ▸ c.stands).exists_bare
  obtain ⟨d, rest, rfl⟩ : ∃ d rest', rest = d :: rest' :=
    List.exists_cons_of_ne_nil (by rintro rfl; cases hrest)
  have hlength : c.last.length = rest.length + 4 := by
    simp only [hlast, List.length_append, Quote.delimiter, Quote.length_run, List.length_cons]
    omega
  refine ⟨by rw [c.length_text]; omega, fun t => ?_⟩
  refine lex_append_of_stands hmeets ?_ (by omega) ?_ fun size => ?_
  · rw [hlast, Text.blank_append, hrest, Bool.and_false]
  · rw [h, hlast, List.append_assoc]
    exact .bareDelimiter hrun (by rw [Text.blank_append, hrest, Bool.false_and])
  · rw [Scan.verdict, show c.scan.ending = _ from h]
    rfl

end Cut

/-! ## Texts without an opener -/

theorem Opened.cause_of_read (h : read required s = .error error) :
    (error.cause = .noOpener ∨ ∃ r, error.cause = .otherOpener r) ∧
      error.offset = (s.takeWhile isBlank).length := by
  unfold read at h
  split at h
  · split at h
    · split at h
      · cases required with
        | none => cases h
        | some r =>
          simp only at h
          split at h
          · cases h
          · cases h
            exact ⟨.inr ⟨r, rfl⟩, rfl⟩
      · cases h
        exact ⟨.inl rfl, rfl⟩
    · cases h
      exact ⟨.inl rfl, rfl⟩
  · cases h
    exact ⟨.inl rfl, rfl⟩

/-- Three characters behind the white space decide whether a template is opened. -/
theorem Opened.read_append (h : read required s = .error error) (hlength : 3 ≤ s.trimStart.length)
    (t : Text) : read required (s ++ t) = .error error := by
  obtain ⟨a, b, c, body, htrim⟩ : ∃ a b c body, s.trimStart = a :: b :: c :: body := by
    match s.trimStart, hlength with
    | a :: b :: c :: body, _ => exact ⟨a, b, c, body, rfl⟩
  have htrim' : (s ++ t).trimStart = a :: b :: c :: (body ++ t) := by
    rw [Text.trimStart, List.dropWhile_append, show s.dropWhile isBlank = _ from htrim]
    rfl
  have htake : (s ++ t).takeWhile isBlank = s.takeWhile isBlank := by
    have hsplit := congrArg List.length (Text.takeWhile_append_trimStart s)
    rw [List.length_append] at hsplit
    rw [List.takeWhile_append, if_neg (by omega)]
  simp only [read, htrim] at h
  simp only [read, htrim', htake]
  cases hq : Quote.ofChar? a with
  | none => simpa only [hq] using h
  | some q =>
    simp only [hq] at h ⊢
    by_cases hsame : (b = a && c = a) = true
    · rw [if_pos hsame] at h ⊢
      cases required with
      | none => cases h
      | some r =>
        by_cases hr : q = r
        · simp only [if_pos hr] at h
          cases h
        · simpa only [if_neg hr] using h
    · rw [if_neg hsame] at h ⊢
      exact h

/-- A text that lacks an end is completed by more text. A fault in the body stays the same before
every text, and so does a wrong opener if three characters are there to be looked at. -/
theorem lex_append_of_error (h : lex required s = .error error) :
    match error.cause with
    | .unterminated _ | .openSpan _ =>
      error.offset = s.length ∧ ∃ t segments, lex required (s ++ t) = .ok segments
    | .bareDelimiter | .emptySpan =>
      error.offset < s.length ∧ ∀ t, lex required (s ++ t) = .error error
    | .noOpener | .otherOpener _ =>
      3 ≤ s.trimStart.length →
        error.offset = (s.takeWhile isBlank).length ∧
          ∀ t, lex required (s ++ t) = .error error := by
  obtain ⟨cause, offset⟩ := error
  rcases Cut.exists_of_lex_error h with hread | ⟨c, rfl, hmeets, hverdict⟩
  · have hlex (hlength : 3 ≤ s.trimStart.length) (t : Text) :
        lex required (s ++ t) = .error ⟨cause, offset⟩ := by
      simp only [lex, Opened.read_append hread hlength t, bind, Except.bind]
    obtain ⟨hcause, hoffset⟩ := Opened.cause_of_read hread
    rcases hcause with hcause | ⟨r, hcause⟩
    · cases hcause
      exact fun hlength => ⟨hoffset, hlex hlength⟩
    · cases hcause
      exact fun hlength => ⟨hoffset, hlex hlength⟩
  · rw [Scan.verdict] at hverdict
    split at hverdict
    · cases hverdict
    · next hending =>
      cases hverdict
      exact Cut.completes_of_unterminated hmeets hending
    · next hending =>
      cases hverdict
      exact ⟨rfl, Cut.completes_of_openSpan hmeets hending⟩
    · next hending =>
      cases hverdict
      exact Cut.keeps_emptySpan hmeets hending
    · next hending =>
      cases hverdict
      exact Cut.keeps_bareDelimiter hmeets hending

/-- A dollar sign behind a backslash at the end of a text does not keep it from being completed. -/
theorem lex_append_backslash_dollar :
    lex none "'''\\$" = .error ⟨.unterminated .single, 5⟩ ∧
      5 = List.length "'''\\$".toList ∧ ∃ t segments, lex none ("'''\\$" ++ t) = .ok segments := by
  have h : lex none "'''\\$" = .error ⟨.unterminated .single, 5⟩ := by cbv
  exact ⟨h, lex_append_of_error h⟩

end TripleQuote
