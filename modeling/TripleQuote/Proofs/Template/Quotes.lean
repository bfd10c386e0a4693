import TripleQuote.Template.Piece

/-! # Quotes and runs of quotes

No quote is white space, a backslash or a dollar sign. A run of quotes is cut off a text where the
text does not go on with a quote. -/

namespace TripleQuote

namespace Quote

theorem isBlank_char (q : Quote) : isBlank q.char = false := by
  cases q <;> decide

theorem char_ne_backslash (q : Quote) : q.char ≠ '\\' := by
  cases q <;> decide

theorem char_ne_dollar (q : Quote) : q.char ≠ '$' := by
  cases q <;> decide

theorem run_succ (q : Quote) (n : Nat) : q.run (n + 1) = q.char :: q.run n :=
  List.replicate_succ

theorem run_append_run (q : Quote) (m n : Nat) : q.run m ++ q.run n = q.run (m + n) :=
  List.replicate_append_replicate

@[simp] theorem length_run (q : Quote) (n : Nat) : (q.run n).length = n :=
  List.length_replicate

end Quote

variable {q : Quote} {c : Char} {s rest : Text}

theorem head?_ne_of_ne_cons (h : ∀ tail, s = c :: tail → False) : s.head? ≠ some c := by
  intro hs
  obtain ⟨tail, rfl⟩ := List.head?_eq_some_iff.mp hs
  exact h tail rfl

theorem not_blank_of_mem (h : q.char ∈ s) : Text.blank s = false := by
  simp only [Text.blank, List.all_eq_false]
  exact ⟨q.char, h, by simp [q.isBlank_char]⟩

theorem takeWhile_quote_cons (q : Quote) (s : Text) :
    (q.char :: s).takeWhile (· == q.char) = q.char :: s.takeWhile (· == q.char) :=
  List.takeWhile_cons_of_pos (by simp)

/-- A text that does not go on with the quote is what is left behind a run. -/
theorem dropWhile_run_append (n : Nat) (h : rest.head? ≠ some q.char) :
    (q.run n ++ rest).dropWhile (· == q.char) = rest := by
  rw [Quote.run, List.dropWhile_append_of_pos (by simp)]
  cases rest with
  | nil => rfl
  | cons c rest => exact List.dropWhile_cons_of_neg (by simpa using h)

theorem length_takeWhile_run_append (n : Nat) (h : rest.head? ≠ some q.char) :
    ((q.run n ++ rest).takeWhile (· == q.char)).length = n := by
  have hsplit := congrArg List.length
    (List.takeWhile_append_dropWhile (p := (· == q.char)) (l := q.run n ++ rest))
  rw [dropWhile_run_append n h] at hsplit
  simp only [List.length_append, Quote.length_run] at hsplit
  omega

theorem head?_ne_of_blank (h : Text.blank s = true) : s.head? ≠ some q.char := by
  intro hs
  have := List.all_eq_true.mp h q.char (List.mem_of_head? hs)
  simp [q.isBlank_char] at this

end TripleQuote
