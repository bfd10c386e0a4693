import TripleQuote.Proofs.Template.Decomposition

/-! # Endings of bodies

`Ending.Stands` says which texts a body ends with, and how. A body ends exactly where such a text is
left (`Piece.next_eq_ending_iff`), so that every text that opens a template is cut into white space,
a delimiter, pieces that fit and an ending (`Cut`, `Cut.exists_of_read`). -/

namespace TripleQuote

/-- How a body ends where `s` is left of it. -/
inductive Ending.Stands (q : Quote) : Ending → Text → Prop where
  | closed (hn : 3 ≤ n) (hw : Text.blank w = true) : Stands q (.closed n) (q.run n ++ w)
  | unterminated : Stands q .unterminated []
  | openSpan (hclose : '}' ∉ e) : Stands q .openSpan ('$' :: '{' :: e)
  | emptySpan (hclose : '}' ∉ e) (hblank : Text.blank e = true) :
      Stands q .emptySpan ('$' :: '{' :: (e ++ '}' :: rest))
  | bareDelimiter (hrun : rest.head? ≠ some q.char) (hrest : Text.blank rest = false) :
      Stands q .bareDelimiter (q.delimiter ++ rest)

variable {q : Quote} {ending : Ending} {s t : Text} {required : Option Quote} {error : Malformed}
  {segments : List Segment} {ps : List Piece}

namespace Ending.Stands

theorem eq_nil (h : Stands q .unterminated s) : s = [] := by
  cases h
  rfl

theorem exists_open (h : Stands q .openSpan s) : ∃ e, '}' ∉ e ∧ s = '$' :: '{' :: e := by
  cases h with
  | openSpan hclose => exact ⟨_, hclose, rfl⟩

theorem exists_empty (h : Stands q .emptySpan s) :
    ∃ e rest, '}' ∉ e ∧ Text.blank e = true ∧ s = '$' :: '{' :: (e ++ '}' :: rest) := by
  cases h with
  | emptySpan hclose hblank => exact ⟨_, _, hclose, hblank, rfl⟩

theorem exists_bare (h : Stands q .bareDelimiter s) :
    ∃ rest, rest.head? ≠ some q.char ∧ Text.blank rest = false ∧ s = q.delimiter ++ rest := by
  cases h with
  | bareDelimiter hrun hrest => exact ⟨_, hrun, hrest, rfl⟩

end Ending.Stands

namespace Piece

theorem stands_of_afterOpener (h : afterOpener s = .ending ending) :
    ending.Stands q ('$' :: '{' :: s) := by
  have hsplit := List.takeWhile_append_dropWhile (p := (· != '}')) (l := s)
  have hall := List.all_takeWhile (p := (· != '}')) (l := s)
  have hclose : '}' ∉ s.takeWhile (· != '}') := fun hmem => by
    simpa using List.all_eq_true.mp hall _ hmem
  have hhead := List.head?_dropWhile_not (· != '}') s
  unfold afterOpener at h
  split at h
  · next hdrop =>
    cases h
    rw [hdrop, List.append_nil] at hsplit
    exact .openSpan (hsplit ▸ hclose)
  · next c rest hdrop =>
    split at h
    · next hblank =>
      cases h
      rw [hdrop] at hsplit hhead
      have hc : c = '}' := by simpa using hhead
      subst hc
      rw [← hsplit]
      exact .emptySpan hclose hblank
    · cases h

theorem stands_of_ofRun {n : Nat} (hrun : s.head? ≠ some q.char)
    (h : ofRun n s = .ending ending) : ending.Stands q (q.run n ++ s) := by
  unfold ofRun at h
  split at h
  · cases h
  · split at h
    · next hn hblank =>
      cases h
      exact .closed (by omega) hblank
    · next hblank =>
      split at h
      · next hn =>
        cases h
        subst hn
        exact .bareDelimiter hrun (by simpa using hblank)
      · cases h

/-- A body ends exactly where one of the endings stands. -/
theorem next_eq_ending_iff : next q s = .ending ending ↔ ending.Stands q s := by
  constructor
  · intro h
    unfold next at h
    split at h
    · cases h
      exact .unterminated
    · cases h
    · exact stands_of_afterOpener h
    · next c tail _ _ =>
      split at h
      · next hc =>
        have hstands := stands_of_ofRun (head?_dropWhile_ne q tail) h
        rwa [Nat.add_comm, Quote.run_succ, List.cons_append, run_append_dropWhile, ← hc]
          at hstands
      · cases h
  · intro h
    cases h with
    | closed hn hw => exact next_closed_iff.mpr ⟨hn, _, hw, rfl⟩
    | unterminated => rfl
    | @openSpan e hclose =>
      have hdrop : (e ++ []).dropWhile (· != '}') = [] :=
        List.dropWhile_append_of_pos (bne_of_brace_notMem hclose)
      rw [List.append_nil] at hdrop
      rw [next, afterOpener, hdrop]
    | emptySpan hclose hblank => rw [next, afterOpener_append _ hclose, if_pos hblank]
    | bareDelimiter hrun hrest =>
      rw [Quote.delimiter, next_run (by decide) hrun, ofRun, if_neg (by decide),
        if_neg (by simp [hrest]), if_pos rfl]

theorem spell_append (q : Quote) (ps ps' : List Piece) :
    spell q (ps ++ ps') = spell q ps ++ spell q ps' :=
  List.flatMap_append

theorem allFit_append {ps' : List Piece} {last : Text} :
    AllFit q (ps ++ ps') last ↔ AllFit q ps (spell q ps' ++ last) ∧ AllFit q ps' last := by
  induction ps with
  | nil => simp [AllFit]
  | cons p ps ih =>
    rw [List.cons_append, AllFit, AllFit, ih, spell_append, List.append_assoc, and_assoc]

end Piece

/-! ## Cuts -/

/-- A text that is cut into white space, a delimiter, pieces that fit and an ending. -/
structure Cut where
  leading : Text
  quote : Quote
  pieces : List Piece
  ending : Ending
  last : Text
  leading_blank : Text.blank leading = true
  fits : Piece.AllFit quote pieces last
  stands : ending.Stands quote last

namespace Cut

open Piece

def text (c : Cut) : Text :=
  c.leading ++ (c.quote.delimiter ++ (spell c.quote c.pieces ++ c.last))

def Meets (c : Cut) (required : Option Quote) : Prop := ∀ r ∈ required, c.quote = r

/-- The place of the ending. -/
def offset (c : Cut) : Nat := c.leading.length + 3 + (spell c.quote c.pieces).length

/-- The scan that finds the pieces and the ending. -/
def scan (c : Cut) : Scan :=
  ⟨place c.quote (c.leading.length + 3) c.pieces, c.ending, c.offset, c.last⟩

variable (c : Cut)

theorem length_text : c.text.length = c.offset + c.last.length := by
  simp only [text, offset, List.length_append, Quote.delimiter, Quote.length_run, Nat.add_assoc]

/-- A text that opens a template can be cut, and the cut is what the scan of its body finds. -/
theorem exists_of_read {o : Opened} (h : Opened.read required s = .ok o) :
    ∃ c : Cut, c.text = s ∧ c.Meets required ∧ o.quote = c.quote ∧
      Scan.body o.quote o.offset o.body = c.scan := by
  obtain ⟨hq, w, hw, hs, hoffset⟩ := Opened.exists_of_read h
  obtain ⟨ps, last, e, hps, he, hbody, hscan⟩ := Scan.exists_pieces o.quote o.offset o.body
  refine ⟨⟨w, o.quote, ps, e, last, hw, hps, next_eq_ending_iff.mp he⟩, ?_, hq, rfl, ?_⟩
  · rw [hs, hbody]
    rfl
  · rw [hscan, hoffset]
    rfl

/-- A text that is no template does not open one, or its cut has a fault. -/
theorem exists_of_lex_error (h : lex required s = .error error) :
    Opened.read required s = .error error ∨
      ∃ c : Cut, c.text = s ∧ c.Meets required ∧
        c.scan.verdict c.quote s.length = .error error := by
  simp only [lex, bind, Except.bind] at h
  split at h
  · next hread =>
    cases h
    exact .inl hread
  · next o hread =>
    obtain ⟨c, htext, hmeets, hquote, hscan⟩ := exists_of_read hread
    rw [hscan, hquote] at h
    refine .inr ⟨c, htext, hmeets, ?_⟩
    split at h
    · next hverdict =>
      cases h
      exact hverdict
    · cases h

/-- A fault of a cut that does not end in white space is the fault of its text. -/
theorem lex_text_of_fault (hmeets : c.Meets required) (hlast : Text.blank c.last = false)
    (hverdict : c.scan.verdict c.quote c.text.length = .error error) :
    lex required c.text = .error error := by
  have hread : Opened.read required c.text =
      .ok ⟨c.quote, c.leading.length + 3, spell c.quote c.pieces ++ c.last⟩ :=
    Opened.read_delimiter c.leading_blank hmeets _
  have hscan : Scan.body c.quote (c.leading.length + 3) (spell c.quote c.pieces ++ c.last) =
      c.scan := Scan.body_spell _ c.fits hlast (next_eq_ending_iff.mpr c.stands)
  simp only [lex, hread, bind, Except.bind, hscan, hverdict]

end Cut

end TripleQuote
