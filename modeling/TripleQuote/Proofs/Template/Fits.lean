import TripleQuote.Proofs.Template.Quotes

/-! # Pieces that fit

`Piece.Fits` says which pieces may stand before a text in a template. The piece that a body starts
with fits (`Piece.fits_of_next`), and a piece that fits is the one that the body starts with, unless
only white space follows (`Piece.Fits.next`). -/

namespace TripleQuote

/-- Whether a piece may stand before `rest` in a template with quotes `q`. -/
inductive Piece.Fits (q : Quote) : Piece → Text → Prop where
  | lf : Fits q (.joined ['\n']) rest
  | crlf : Fits q (.joined ['\r', '\n']) rest
  | cr (h : rest.head? ≠ some '\n') : Fits q (.joined ['\r']) rest
  | opener : Fits q .opener rest
  | backslash (hlf : rest.head? ≠ some '\n') (hcr : rest.head? ≠ some '\r')
      (hopen : ¬ ['$', '{'] <+: rest) : Fits q .backslash rest
  | span (hclose : '}' ∉ source) (hblank : Text.blank source = false) : Fits q (.span source) rest
  | quotes (hn : n = 1 ∨ n = 2 ∨ 4 ≤ n) (hrun : rest.head? ≠ some q.char) : Fits q (.quotes n) rest
  | char (hquote : c ≠ q.char) (hback : c ≠ '\\') (hopen : c = '$' → rest.head? ≠ some '{') :
      Fits q (.char c) rest

variable {q : Quote} {p : Piece} {s rest : Text}

namespace Piece

theorem afterBackslash_joined_cr (h : rest.head? ≠ some '\n') :
    afterBackslash ('\r' :: rest) = (joined ['\r'], rest) := by
  unfold afterBackslash
  split
  · next heq => cases heq
  · next heq => cases heq; simp at h
  · next heq => cases heq; rfl
  · next heq => cases heq
  · next hcr _ => exact absurd rfl (hcr _)

theorem afterBackslash_backslash (hlf : rest.head? ≠ some '\n') (hcr : rest.head? ≠ some '\r')
    (hopen : ¬ ['$', '{'] <+: rest) : afterBackslash rest = (backslash, rest) := by
  unfold afterBackslash
  split
  · simp at hlf
  · simp at hcr
  · simp at hcr
  · exact absurd ⟨_, rfl⟩ hopen
  · rfl

theorem bne_of_brace_notMem (hclose : '}' ∉ s) : ∀ c ∈ s, (c != '}') = true := by
  intro c hc
  simp only [bne_iff_ne]
  rintro rfl
  exact hclose hc

theorem afterOpener_append (rest : Text) (hclose : '}' ∉ s) :
    afterOpener (s ++ '}' :: rest) =
      if Text.blank s then .ending .emptySpan else .piece (span s) rest := by
  have hin := bne_of_brace_notMem hclose
  have htake : (s ++ '}' :: rest).takeWhile (· != '}') = s := by
    rw [List.takeWhile_append_of_pos hin]
    simp
  have hdrop : (s ++ '}' :: rest).dropWhile (· != '}') = '}' :: rest := by
    rw [List.dropWhile_append_of_pos hin]
    simp
  simp only [afterOpener, htake, hdrop]

theorem afterOpener_span (hclose : '}' ∉ s) (hblank : Text.blank s = false) :
    afterOpener (s ++ '}' :: rest) = .piece (span s) rest := by
  rw [afterOpener_append rest hclose, hblank]
  rfl

/-- What a body starts with if it starts with a quote of the delimiter. -/
theorem next_quote (q : Quote) (s : Text) :
    next q (q.char :: s) =
      ofRun (1 + (s.takeWhile (· == q.char)).length) (s.dropWhile (· == q.char)) := by
  cases q <;> simp [next, Quote.char]

theorem next_run (hn : 0 < n) (hrun : rest.head? ≠ some q.char) :
    next q (q.run n ++ rest) = ofRun n rest := by
  obtain ⟨n, rfl⟩ := Nat.exists_eq_succ_of_ne_zero (Nat.ne_of_gt hn)
  rw [Nat.succ_eq_add_one, Quote.run_succ, List.cons_append, next_quote,
    dropWhile_run_append n hrun, length_takeWhile_run_append n hrun, Nat.add_comm]

theorem next_char (hquote : c ≠ q.char) (hback : c ≠ '\\')
    (hopen : c = '$' → rest.head? ≠ some '{') : next q (c :: rest) = .piece (char c) rest := by
  unfold next
  split
  · next heq => cases heq
  · next heq => cases heq; exact absurd rfl hback
  · next heq => cases heq; exact absurd rfl (hopen rfl)
  · next heq =>
    cases heq
    rw [if_neg hquote]

/-- A piece that fits is found, if what follows it is not blank. -/
theorem Fits.next (h : p.Fits q rest) (hrest : Text.blank rest = false) :
    next q (p.spelling q ++ rest) = .piece p rest := by
  cases h with
  | lf | crlf | opener => rfl
  | cr h => simp [spelling, Piece.next, afterBackslash_joined_cr h]
  | backslash hlf hcr hopen =>
    simp [spelling, Piece.next, afterBackslash_backslash hlf hcr hopen]
  | span hclose hblank =>
    simpa [spelling, Piece.next] using afterOpener_span hclose hblank
  | quotes hn hrun =>
    rw [spelling, next_run (by omega) hrun, ofRun]
    rcases hn with rfl | rfl | hn
    · rfl
    · rfl
    · rw [if_neg (by omega), if_neg (by simp [hrest]), if_neg (by omega)]
  | char hquote hback hopen => exact next_char hquote hback hopen

theorem fits_afterBackslash (q : Quote) (s : Text) :
    (afterBackslash s).1.Fits q (afterBackslash s).2 := by
  fun_cases afterBackslash s with
  | case1 => exact .lf
  | case2 => exact .crlf
  | case3 rest hlf => exact .cr (head?_ne_of_ne_cons hlf)
  | case4 => exact .opener
  | case5 _ hlf _ hcr hopen =>
    refine .backslash (head?_ne_of_ne_cons hlf) (head?_ne_of_ne_cons hcr) ?_
    rintro ⟨tail, rfl⟩
    exact hopen tail rfl

theorem fits_of_afterOpener (h : afterOpener s = .piece p rest) : p.Fits q rest := by
  unfold afterOpener at h
  split at h
  · cases h
  · split at h
    · cases h
    · next hblank =>
      cases h
      refine .span (fun hmem => ?_) (by simpa using hblank)
      have hall := List.all_takeWhile (p := (· != '}')) (l := s)
      simpa using List.all_eq_true.mp hall _ hmem

theorem fits_of_ofRun {n : Nat} (hn : 0 < n) (hrun : rest.head? ≠ some q.char)
    (h : ofRun n rest = .piece p s) : p.Fits q s := by
  unfold ofRun at h
  split at h
  · cases h
    exact .quotes (by omega) hrun
  · split at h
    · cases h
    · split at h
      · cases h
      · cases h
        exact .quotes (by omega) hrun

theorem head?_dropWhile_ne (q : Quote) (s : Text) :
    (s.dropWhile (· == q.char)).head? ≠ some q.char := by
  have := List.head?_dropWhile_not (· == q.char) s
  intro h
  simp [h] at this

/-- A piece that is found fits. -/
theorem fits_of_next (h : Piece.next q s = .piece p rest) : p.Fits q rest := by
  unfold Piece.next at h
  split at h
  · cases h
  · next tail =>
    cases h
    exact fits_afterBackslash q tail
  · exact fits_of_afterOpener h
  · next c tail hback hopen =>
    split at h
    · exact fits_of_ofRun (by omega) (head?_dropWhile_ne q tail) h
    · next hquote =>
      cases h
      refine .char hquote (fun hc => hback hc) fun hc h => ?_
      obtain ⟨tail, rfl⟩ := List.head?_eq_some_iff.mp h
      exact hopen _ hc rfl

/-- A body ends where a run of quotes and white space are all that is left. -/
theorem next_closed_iff {n : Nat} :
    Piece.next q s = .ending (.closed n) ↔
      3 ≤ n ∧ ∃ w, Text.blank w = true ∧ s = q.run n ++ w := by
  constructor
  · intro h
    unfold Piece.next at h
    split at h
    · cases h
    · cases h
    · unfold afterOpener at h
      split at h
      · cases h
      · split at h <;> cases h
    · next c tail _ _ =>
      split at h
      · next hc =>
        unfold ofRun at h
        split at h
        · cases h
        · split at h
          · next hn hblank =>
            cases h
            refine ⟨by omega, _, hblank, ?_⟩
            rw [hc, Nat.add_comm, Quote.run_succ, List.cons_append, run_append_dropWhile]
          · split at h <;> cases h
      · cases h
  · rintro ⟨hn, w, hw, rfl⟩
    rw [next_run (by omega) (head?_ne_of_blank hw), ofRun, if_neg (by omega), if_pos hw]

end Piece

end TripleQuote
