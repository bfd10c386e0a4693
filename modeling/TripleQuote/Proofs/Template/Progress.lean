import TripleQuote.Proofs.Template.Extension
import TripleQuote.Proofs.Template.Rescan

/-! # Progress of a scan

A scan repeats one step (`Scanner.step`). From the opener on, the scanner has a quote and stands
within its source (`Scanner.Ready`): a step that does not end the scan keeps this so and moves
forward, and so does any number of steps (`Scanner.Iterates.ready`). So a scan takes fewer steps
than its source has characters, and misses a closing delimiter only at the end of the source
(`Scanner.scan_progresses`).

Within a step the scanner passes a run of quotes one by one. It stops because its quote is a
character, which the end of the source is not: without a quote it would go on for ever. -/

namespace TripleQuote

namespace Scanner

/-- Whether the scanner looks at its quote. Past the end of the source it looks at nothing, and a
scanner that has no quote looks for nothing. -/
def AtQuote (s : Scanner) : Prop := s.peek 0 = s.quote.map Quote.char

/-- A scanner moves one place forward as long as it looks at its quote, and stops. -/
inductive PassesQuotes : Scanner → Scanner → Prop where
  | stop (h : ¬ s.AtQuote) : PassesQuotes s s
  | pass (h : s.AtQuote) (hmore : PassesQuotes { s with position := s.position + 1 } s') :
      PassesQuotes s s'

/-- Steps, `n` of them, that take a scanner to another without ending the scan. -/
inductive Iterates (q : Quote) : Nat → Scanner → Scanner → Prop where
  | refl : Iterates q 0 s s
  | step (h : s.step q = .inr next) (hmore : Iterates q n next s') : Iterates q (n + 1) s s'

/-- A scanner that is in the body of a template: it has a quote and stands within its source. -/
structure Ready (q : Quote) (s : Scanner) : Prop where
  quote : s.quote = some q
  position_le : s.position ≤ s.source.length

variable {q : Quote} {s s' next : Scanner} {n : Nat}

/-! ## Steps -/

theorem quote_take (q : Quote) (s : Scanner) (p : Piece) : (s.take q p).quote = s.quote := by
  cases p with
  | span source =>
    simp only [take, collect, flush]
    split <;> rfl
  | joined lineEnd | opener | backslash | quotes n | char c =>
    simp only [take, collect, append]
    split <;> rfl

/-- A step that does not end the scan moves forward and stays within the source. -/
theorem Ready.step (h : Ready q s) (hstep : s.step q = .inr next) :
    Ready q next ∧ SameSource s next ∧ s.position < next.position := by
  obtain ⟨hmove, hle⟩ := lt_position_of_step hstep
  obtain ⟨p, rfl, -⟩ := exists_of_step_inr hstep
  refine ⟨⟨?_, ?_⟩, s.sameSource_take q p, hmove⟩
  · rw [quote_take, h.quote]
  · rwa [source_take]

/-- So does any number of steps. -/
theorem Iterates.ready (h : Iterates q n s s') (hready : Ready q s) :
    Ready q s' ∧ SameSource s s' ∧ s.position + n ≤ s'.position := by
  induction h with
  | refl => exact ⟨hready, ⟨rfl, rfl⟩, Nat.le_refl _⟩
  | step hstep _ ih =>
    obtain ⟨hnext, hsame, hmove⟩ := hready.step hstep
    obtain ⟨hlast, hsame', hmore⟩ := ih hnext
    exact ⟨hlast, hsame.trans hsame', by omega⟩

/-- A scan ends after some number of steps. -/
theorem exists_iterates_scan (q : Quote) (s : Scanner) :
    ∃ n, Iterates q n s (s.scan q).2 ∧ (s.scan q).2.step q = .inl (s.scan q).1 := by
  fun_induction scan q s with
  | case1 s e h => exact ⟨0, .refl, h⟩
  | case2 s next h ih =>
    obtain ⟨n, hmore, hend⟩ := ih
    exact ⟨n + 1, .step h hmore, hend⟩

/-! ## Runs of quotes -/

theorem atQuote_iff (h : s.quote = some q) :
    s.AtQuote ↔ ∃ tail, s.source.drop s.position = q.char :: tail := by
  rw [AtQuote, peek, Nat.add_zero, h, Option.map_some, ← List.head?_drop, List.head?_eq_some_iff]

/-- A scanner that looks at its quote is not at the end of its source. -/
theorem Ready.pass (h : Ready q s) (hat : s.AtQuote) :
    Ready q { s with position := s.position + 1 } := by
  obtain ⟨tail, htail⟩ := (atQuote_iff h.quote).mp hat
  have hlength := congrArg List.length htail
  rw [List.length_drop, List.length_cons] at hlength
  exact ⟨h.quote, by simp only; omega⟩

/-- A scanner passes the quotes that it stands before, and no more. -/
theorem PassesQuotes.ready (h : s.PassesQuotes s') (hready : Ready q s) :
    Ready q s' ∧ s'.source = s.source ∧ s'.position =
      s.position + ((s.source.drop s.position).takeWhile (· == q.char)).length := by
  induction h with
  | @stop s h =>
    have hnone : (s.source.drop s.position).takeWhile (· == q.char) = [] := by
      cases hdrop : s.source.drop s.position with
      | nil => rfl
      | cons c tail =>
        apply List.takeWhile_cons_of_neg
        rw [beq_iff_eq]
        rintro rfl
        exact h ((atQuote_iff hready.quote).mpr ⟨tail, hdrop⟩)
    exact ⟨hready, rfl, by rw [hnone, List.length_nil, Nat.add_zero]⟩
  | @pass s s' hat _ ih =>
    obtain ⟨hlast, hsource, hposition⟩ := ih (hready.pass hat)
    obtain ⟨tail, htail⟩ := (atQuote_iff hready.quote).mp hat
    rw [← List.tail_drop, htail, List.tail_cons] at hposition
    simp only at hposition
    refine ⟨hlast, hsource, ?_⟩
    rw [htail, takeWhile_quote_cons, List.length_cons, hposition]
    omega

/-- A scanner with a quote stops. -/
theorem Ready.exists_passesQuotes {s : Scanner} (h : Ready q s) : ∃ s', s.PassesQuotes s' := by
  by_cases hat : s.AtQuote
  · obtain ⟨s', hmore⟩ := (h.pass hat).exists_passesQuotes
    exact ⟨s', .pass hat hmore⟩
  · exact ⟨s, .stop hat⟩
termination_by s.source.length - s.position
decreasing_by
  have hle := (h.pass hat).position_le
  simp only at hle ⊢
  omega

/-- A scanner without a quote does not stop at the end of its source. -/
theorem not_passesQuotes (hquote : s.quote = none) (hend : s.source.length ≤ s.position) :
    ¬ s.PassesQuotes s' := by
  intro h
  induction h with
  | @stop s h =>
    apply h
    rw [AtQuote, peek, Nat.add_zero, List.getElem?_eq_none hend, hquote]
    rfl
  | pass _ _ ih => exact ih hquote (Nat.le_succ_of_le hend)

/-- The quotes that the scanner passes are those that the step is decided by. -/
theorem PassesQuotes.next_eq (h : s.PassesQuotes s') (hready : Ready q s) (hat : s.AtQuote) :
    Piece.next q (s.source.drop s.position) =
      Piece.ofRun (s'.position - s.position) (s.source.drop s'.position) := by
  obtain ⟨-, -, hposition⟩ := h.ready hready
  obtain ⟨tail, htail⟩ := (atQuote_iff hready.quote).mp hat
  have hrun : (s.source.drop s.position).takeWhile (· == q.char) =
      q.char :: tail.takeWhile (· == q.char) := by
    rw [htail, takeWhile_quote_cons]
  have hrest : s.source.drop s'.position = tail.dropWhile (· == q.char) := by
    have hsplit := List.takeWhile_append_dropWhile (p := (· == q.char)) (l := tail)
    rw [hposition, hrun, ← List.drop_drop, htail, List.length_cons, List.drop_succ_cons]
    have hdrop := congrArg (List.drop (tail.takeWhile (· == q.char)).length) hsplit
    rw [List.drop_left] at hdrop
    exact hdrop.symm
  have hcount : s'.position - s.position = 1 + (tail.takeWhile (· == q.char)).length := by
    rw [hposition, hrun, List.length_cons]
    omega
  rw [hcount, hrest, htail, Piece.next_quote]

/-! ## Ends -/

theorem position_of_unterminated (h : s.step q = .inl .unterminated) (hready : Ready q s) :
    s.position = s.source.length := by
  have hnil := (Piece.next_eq_ending_iff.mp (next_of_step_inl h)).eq_nil
  exact Nat.le_antisymm hready.position_le (List.drop_eq_nil_iff.mp hnil)

theorem position_close (q : Quote) (s : Scanner) (e : Ending) :
    (s.close q e).2.position =
      stop ⟨[], e, s.position, s.source.drop s.position⟩ s.source.length := by
  simp only [close]
  split <;> rfl

theorem eq_unterminated_of_close {e : Ending} {q' : Quote}
    (h : (s.close q e).1 = .error ⟨.unterminated q', n⟩) : e = .unterminated ∧ n = s.position := by
  cases e with
  | unterminated =>
    simp only [close, Scan.verdict, Except.error.injEq, Malformed.mk.injEq] at h
    exact ⟨rfl, h.2.symm⟩
  | closed m => cases h
  | openSpan | emptySpan | bareDelimiter =>
    simp [close, Scan.verdict] at h

/-- Where a scan ends is within the source. -/
theorem position_close_le {e : Ending} (h : s.step q = .inl e) (hready : Ready q s) :
    (s.close q e).2.position ≤ s.source.length := by
  have hstands := Piece.next_eq_ending_iff.mp (next_of_step_inl h)
  rw [position_close]
  cases e with
  | closed n => exact Nat.le_refl _
  | unterminated | openSpan | emptySpan => exact hready.position_le
  | bareDelimiter =>
    obtain ⟨rest, -, -, hdrop⟩ := hstands.exists_bare
    have hlength := congrArg List.length hdrop
    rw [List.length_drop, List.length_append, Quote.delimiter, Quote.length_run] at hlength
    simp only [stop]
    omega

/-! ## Scans -/

/-- One step of a scan, within the source: a step that ends the scan leaves the scanner there, any
other moves it forward, and a run of quotes is passed up to a place from which the step is
decided. -/
structure Progresses (q : Quote) (s : Scanner) : Prop where
  ready : Ready q s
  ends : ∀ e, s.step q = .inl e → (s.close q e).2.position ≤ s.source.length
  moves : ∀ next, s.step q = .inr next →
    s.position < next.position ∧ next.position ≤ s.source.length
  passes : ∃ s', s.PassesQuotes s' ∧ s'.position ≤ s.source.length ∧
    (s.AtQuote → Piece.next q (s.source.drop s.position) =
      Piece.ofRun (s'.position - s.position) (s.source.drop s'.position))

theorem Ready.progresses (h : Ready q s) : Progresses q s := by
  obtain ⟨s', hpasses⟩ := h.exists_passesQuotes
  obtain ⟨hlast, hsource, -⟩ := hpasses.ready h
  exact ⟨h, fun e he => position_close_le he h, fun next => lt_position_of_step,
    s', hpasses, hsource ▸ hlast.position_le, hpasses.next_eq h⟩

theorem ready_of_read {o : Opened} (h : Opened.read s.required s.source = .ok o) :
    Ready o.quote { s with position := o.offset, quote := some o.quote } ∧ 3 ≤ o.offset := by
  obtain ⟨-, w, -, hs, hoffset⟩ := Opened.exists_of_read h
  have hlength := congrArg List.length hs
  simp only [List.length_append, Quote.delimiter, Quote.length_run] at hlength
  exact ⟨⟨rfl, by simp only; omega⟩, by omega⟩

/-- A scan of an opened template ends in fewer steps than its source has characters. -/
theorem exists_iterates_tokenize {o : Opened} (h : Opened.read s.required s.source = .ok o) :
    ∃ n s' e, n < s.source.length ∧
      Iterates o.quote n { s with position := o.offset, quote := some o.quote } s' ∧
      s'.step o.quote = .inl e ∧ s.tokenize = s'.close o.quote e := by
  obtain ⟨hready, hoffset⟩ := ready_of_read h
  obtain ⟨n, hsteps, hend⟩ :=
    exists_iterates_scan o.quote { s with position := o.offset, quote := some o.quote }
  obtain ⟨hlast, hsame, hmoved⟩ := hsteps.ready hready
  have hle := hlast.position_le
  rw [hsame.1] at hle
  simp only at hle hmoved
  exact ⟨n, _, _, by omega, hsteps, hend, by simp only [tokenize, h]⟩

/-- A template that does not end is missed where its source ends. -/
theorem offset_of_tokenize_unterminated {n : Nat}
    (h : s.tokenize.1 = .error ⟨.unterminated q, n⟩) : n = s.source.length := by
  cases hread : Opened.read s.required s.source with
  | error error =>
    simp only [tokenize, hread, Except.error.injEq] at h
    obtain ⟨hopener | ⟨r, hopener⟩, -⟩ := Opened.cause_of_read hread
    all_goals
      rw [h] at hopener
      cases hopener
  | ok o =>
    obtain ⟨m, s', e, -, hsteps, hend, htokenize⟩ := exists_iterates_tokenize hread
    obtain ⟨hlast, hsame, -⟩ := hsteps.ready (ready_of_read hread).1
    rw [htokenize] at h
    obtain ⟨rfl, rfl⟩ := eq_unterminated_of_close h
    rw [position_of_unterminated hend hlast, hsame.1]

/-- From the opener on, every step of a scan is one within the source, so that the scan ends after
at most as many steps as the source has characters, and a closing delimiter is missed at the end of
the source only. Without its quote a scanner would look for the end of a run for ever. -/
theorem scan_progresses (s : Scanner) :
    (∀ o, Opened.read s.required s.source = .ok o →
      let start : Scanner := { s with position := o.offset, quote := some o.quote }
      (∀ n s', Iterates o.quote n start s' →
        s'.source = s.source ∧ Progresses o.quote s') ∧
      ∃ n s' e, n < s.source.length ∧ Iterates o.quote n start s' ∧
        s'.step o.quote = .inl e ∧ s.tokenize = s'.close o.quote e) ∧
    (∀ q n, s.tokenize.1 = .error ⟨.unterminated q, n⟩ → n = s.source.length) ∧
    ∀ s' : Scanner, s'.quote = none → s'.source.length ≤ s'.position →
      ∀ s'', ¬ s'.PassesQuotes s'' := by
  refine ⟨?_, ?_, ?_⟩
  · intro o hread
    refine ⟨?_, exists_iterates_tokenize hread⟩
    intro n s' hsteps
    obtain ⟨hready, hsame, -⟩ := hsteps.ready (ready_of_read hread).1
    exact ⟨hsame.1, hready.progresses⟩
  · intro q n
    exact offset_of_tokenize_unterminated
  · intro s' hquote hend s''
    exact not_passesQuotes hquote hend

/-- A template of one letter and one quote that does not end: the scan takes two steps. -/
theorem scan_progresses_missing_delimiter :
    let s : Scanner := new none "'''a'"
    let start : Scanner := { s with position := 3, quote := some .single }
    Opened.read s.required s.source = .ok ⟨.single, 3, "a'"⟩ ∧
      Iterates .single 2 start ⟨"'''a'", none, 5, some .single, "a'", 3, []⟩ ∧
      Progresses .single ⟨"'''a'", none, 5, some .single, "a'", 3, []⟩ ∧
      (∃ n s' e, n < 5 ∧ Iterates .single n start s' ∧ s'.step .single = .inl e ∧
        s.tokenize = s'.close .single e) ∧
      s.tokenize.1 = .error ⟨.unterminated .single, 5⟩ ∧ 5 = s.source.length := by
  intro s start
  have hread : Opened.read s.required s.source = .ok ⟨.single, 3, "a'"⟩ := rfl
  have hsteps : Iterates .single 2 start ⟨"'''a'", none, 5, some .single, "a'", 3, []⟩ :=
    .step rfl (.step rfl .refl)
  have hlex : lex s.required s.source = .error ⟨.unterminated .single, 5⟩ := by cbv
  have hmissing := tokenize_of_lex_error hlex
  obtain ⟨hscan, hend, -⟩ := scan_progresses s
  obtain ⟨hall, hstop⟩ := hscan _ hread
  exact ⟨hread, hsteps, (hall 2 _ hsteps).2, hstop, hmissing, hend _ _ hmissing⟩

end Scanner

end TripleQuote
