import TripleQuote.Proofs.Template.Extension
import TripleQuote.Proofs.Template.Places

/-! # White space around a template

White space before a text moves every offset that the lexer gives, those of segments as well as
those of faults, and changes nothing else. White space behind a text does not decide whether the
text is a template, nor what its segments are (`lex_surrounded`).

The two halves have different reasons. A scan does not look at the offset that it starts from
(`Scan.body_add`). A template ends with a quote, so that white space at its end always follows the
closing run, and the pieces before the run do not see that far. -/

namespace TripleQuote

/-! ## Moved offsets -/

/-- A segment of a text that starts `k` characters later. -/
def Segment.moved (k : Nat) : Segment → Segment
  | literal n t => literal (n + k) t
  | interpolation n source => interpolation (n + k) source

def Malformed.Cause.moved (k : Nat) : Cause → Cause
  | openSpan pos => openSpan (pos + k)
  | cause => cause

/-- A fault of a text that starts `k` characters later. -/
def Malformed.moved (k : Nat) (m : Malformed) : Malformed := ⟨m.cause.moved k, m.offset + k⟩

def Opened.moved (k : Nat) (o : Opened) : Opened := { o with offset := o.offset + k }

def Scan.moved (k : Nat) (scan : Scan) : Scan :=
  { scan with
    pieces := scan.pieces.map fun piece => (piece.1 + k, piece.2)
    offset := scan.offset + k }

variable {q : Quote} {p : Piece} {ps : List Piece} {s t w rest last : Text}
  {required : Option Quote}

namespace Segment

@[simp] theorem moved_literal (k n : Nat) (t : Text) :
    (literal n t).moved k = literal (n + k) t := rfl

@[simp] theorem moved_interpolation (k n : Nat) (source : Text) :
    (interpolation n source).moved k = interpolation (n + k) source := rfl

theorem map_moved_prependText (k pos : Nat) (t : Text) (after : List Segment) :
    (prependText pos t after).map (moved k) = prependText (pos + k) t (after.map (moved k)) := by
  cases t with
  | nil => rfl
  | cons c t =>
    cases after with
    | nil => rfl
    | cons s after => cases s <;> rfl

theorem map_moved_prepend (k : Nat) (q : Quote) (piece : Nat × Piece) (after : List Segment) :
    (prepend q piece after).map (moved k) =
      prepend q (piece.1 + k, piece.2) (after.map (moved k)) := by
  obtain ⟨pos, p⟩ := piece
  by_cases hp : ∃ source, p = .span source
  · obtain ⟨source, rfl⟩ := hp
    simp [prepend, Nat.add_right_comm]
  · have htext := fun source hs => hp ⟨source, hs⟩
    rw [prepend_eq htext, prepend_eq htext, map_moved_prependText]

theorem map_moved_assemble (k : Nat) (q : Quote) (pieces : List (Nat × Piece))
    (last : List Segment) :
    (assemble q pieces last).map (moved k) =
      assemble q (pieces.map fun piece => (piece.1 + k, piece.2)) (last.map (moved k)) := by
  induction pieces with
  | nil => rfl
  | cons piece pieces ih =>
    simp only [assemble, List.map_cons, List.foldr_cons, map_moved_prepend] at ih ⊢
    rw [ih]

theorem map_moved_closing (k : Nat) (q : Quote) (pos n : Nat) :
    (closing q pos n).map (moved k) = closing q (pos + k) n :=
  map_moved_prependText k pos _ []

end Segment

namespace Scan

/-- A scan from a later offset finds the same at later offsets. -/
theorem body_add (q : Quote) (k pos : Nat) (s : Text) :
    body q (pos + k) s = (body q pos s).moved k := by
  fun_induction body q pos s with
  | case1 pos s e h => exact body_ending h
  | case2 pos s p rest h more ih =>
    rw [body_piece h, Nat.add_right_comm, ih]
    rfl

theorem verdict_moved (scan : Scan) (k : Nat) (q : Quote) (size : Nat) :
    (scan.moved k).verdict q (size + k) = (scan.verdict q size).mapError (Malformed.moved k) := by
  obtain ⟨pieces, ending, offset, rest⟩ := scan
  cases ending <;> rfl

end Scan

/-! ## White space before a text -/

/-- White space is read before the opening delimiter, or before the place where it is missing. -/
theorem Opened.read_blank_append (hw : Text.blank w = true) (required : Option Quote) (s : Text) :
    read required (w ++ s) =
      ((read required s).map (moved w.length)).mapError (Malformed.moved w.length) := by
  have hpos : ((w ++ s).takeWhile isBlank).length = (s.takeWhile isBlank).length + w.length := by
    rw [List.takeWhile_append_of_pos (List.all_eq_true.mp hw), List.length_append, Nat.add_comm]
  simp only [read, hpos, Text.trimStart_append_of_blank s hw, Nat.add_right_comm _ w.length 3]
  -- Both sides now look at the same three characters.
  split
  · split
    · split
      · cases required with
        | none => rfl
        | some r =>
          simp only
          split <;> rfl
      · rfl
    · rfl
  · rfl

/-- The segments of a template of length `size` that has been opened. -/
def Opened.segments (o : Opened) (size : Nat) : Except Malformed (List Segment) := do
  let scan := Scan.body o.quote o.offset o.body
  let n ← scan.verdict o.quote size
  let last := Segment.closing o.quote scan.offset n
  return Segment.assemble o.quote scan.pieces last

theorem lex_eq (required : Option Quote) (s : Text) :
    lex required s = Opened.read required s >>= fun o => o.segments s.length := rfl

theorem Opened.segments_moved (o : Opened) (k size : Nat) :
    (o.moved k).segments (size + k) =
      ((o.segments size).map (List.map (Segment.moved k))).mapError (Malformed.moved k) := by
  simp only [segments, moved, Scan.body_add, Scan.verdict_moved, bind, Except.bind]
  cases (Scan.body o.quote o.offset o.body).verdict o.quote size with
  | error error => rfl
  | ok n =>
    apply congrArg Except.ok
    rw [Segment.map_moved_assemble, Segment.map_moved_closing]
    rfl

/-- White space before a text moves its segments, or its fault. -/
theorem lex_blank_append (hw : Text.blank w = true) (required : Option Quote) (s : Text) :
    lex required (w ++ s) =
      ((lex required s).map (List.map (Segment.moved w.length))).mapError
        (Malformed.moved w.length) := by
  rw [lex_eq, lex_eq, Opened.read_blank_append hw, List.length_append, Nat.add_comm]
  cases Opened.read required s with
  | error error => rfl
  | ok o => exact o.segments_moved w.length s.length

/-! ## White space behind a text -/

theorem head?_ne_of_append {c : Char} (h : (rest ++ t).head? ≠ some c) : rest.head? ≠ some c := by
  cases rest with
  | nil => simp
  | cons d rest => exact h

/-- A piece that fits before a text fits before every text that this one goes on from. -/
theorem Piece.Fits.of_append (h : p.Fits q (rest ++ t)) : p.Fits q rest := by
  cases h with
  | lf => exact .lf
  | crlf => exact .crlf
  | cr h => exact .cr (head?_ne_of_append h)
  | opener => exact .opener
  | backslash hlf hcr hopen =>
    refine .backslash (head?_ne_of_append hlf) (head?_ne_of_append hcr) fun h => ?_
    exact hopen (h.trans (List.prefix_append rest t))
  | span hclose hblank => exact .span hclose hblank
  | quotes hn hrun => exact .quotes hn (head?_ne_of_append hrun)
  | char hquote hback hopen =>
    exact .char hquote hback fun hc => head?_ne_of_append (hopen hc)

theorem Piece.AllFit.of_append (h : AllFit q ps (last ++ t)) : AllFit q ps last := by
  induction ps with
  | nil => trivial
  | cons p ps ih =>
    refine ⟨?_, ih h.2⟩
    apply Piece.Fits.of_append (t := t)
    rw [List.append_assoc]
    exact h.1

/-- White space at the end of a text does not reach back over a character that is not blank. -/
theorem exists_of_append_blank {c : Char} (hc : isBlank c = false) (hw : Text.blank w = true)
    (h : s ++ [c] ++ t = rest ++ w) : ∃ u, rest = s ++ [c] ++ u ∧ t = u ++ w := by
  rcases List.append_eq_append_iff.mp h with ⟨u, rfl, rfl⟩ | ⟨u, hu, rfl⟩
  · exact ⟨u, rfl, rfl⟩
  · rcases List.eq_nil_or_concat u with rfl | ⟨v, d, rfl⟩
    · rw [List.append_nil] at hu
      exact ⟨[], by rw [hu, List.append_nil], rfl⟩
    · rw [List.concat_eq_append] at hu hw
      rw [← List.append_assoc] at hu
      obtain ⟨-, hcd⟩ := List.append_inj' hu rfl
      cases hcd
      simp [Text.blank, hc] at hw

namespace Decomposition

variable (d : Decomposition)

/-- The template up to the end of its closing run. -/
def upToRun : Text :=
  d.leading ++ (d.quote.delimiter ++ (Piece.spell d.quote d.pieces ++ d.quote.run (d.extra + 3)))

theorem text_eq : d.text = d.upToRun ++ d.trailing := by
  simp only [text, last, upToRun, List.append_assoc]

theorem exists_upToRun : ∃ front, d.upToRun = front ++ [d.quote.char] := by
  refine ⟨d.leading ++ (d.quote.delimiter ++
    (Piece.spell d.quote d.pieces ++ d.quote.run (d.extra + 2))), ?_⟩
  rw [upToRun, ← Quote.run_append_run d.quote (d.extra + 2) 1]
  simp [Quote.run]

/-- The white space at the end of a template can be replaced. -/
theorem lex_upToRun_append (hmeets : d.Meets required) (hw : Text.blank w = true) :
    lex required (d.upToRun ++ w) = .ok d.segments := by
  have hrun : 2 ≤ (d.quote.run (d.extra + 3)).length := by
    rw [Quote.length_run]
    omega
  let d' : Decomposition :=
    { d with
      trailing := w
      trailing_blank := hw
      fits := d.fits.of_append.extend (.inl hrun) }
  have htext : d'.text = d.upToRun ++ w := d'.text_eq
  rw [← htext]
  exact d'.lex_text hmeets

end Decomposition

/-- White space behind a text leaves its segments alone, and is not what makes it a template. -/
theorem lex_append_blank_iff (hw : Text.blank w = true) {segments : List Segment} :
    lex required (s ++ w) = .ok segments ↔ lex required s = .ok segments := by
  constructor
  · intro h
    obtain ⟨d, htext, hmeets⟩ := Decomposition.exists_of_lex h
    obtain ⟨front, hfront⟩ := d.exists_upToRun
    have hsplit := htext
    rw [d.text_eq, hfront] at hsplit
    obtain ⟨u, hs, htrailing⟩ := exists_of_append_blank d.quote.isBlank_char hw hsplit
    have hu : Text.blank u = true := by
      have hblank := d.trailing_blank
      rw [htrailing, Text.blank_append, Bool.and_eq_true] at hblank
      exact hblank.1
    rw [← htext, d.lex_text hmeets] at h
    rw [hs, ← hfront, d.lex_upToRun_append hmeets hu, h]
  · intro h
    obtain ⟨d, rfl, hmeets⟩ := Decomposition.exists_of_lex h
    have hblank : Text.blank (d.trailing ++ w) = true := by
      rw [Text.blank_append, d.trailing_blank, hw, Bool.and_self]
    rw [d.lex_text hmeets] at h
    rw [d.text_eq, List.append_assoc, d.lex_upToRun_append hmeets hblank, h]

/-- White space before a text moves the offsets of its segments or of its fault, and nothing else.
White space behind it makes no difference to whether it is a template, nor to the segments. -/
theorem lex_surrounded (hw : Text.blank w = true) (required : Option Quote) (s : Text) :
    lex required (w ++ s) =
      ((lex required s).map (List.map (Segment.moved w.length))).mapError
        (Malformed.moved w.length) ∧
    ∀ segments, lex required (s ++ w) = .ok segments ↔ lex required s = .ok segments :=
  ⟨lex_blank_append hw required s, fun _ => lex_append_blank_iff hw⟩

/-- The opener that is quoted for an expression without an end is moved as well. -/
theorem lex_surrounded_open_span :
    lex none "'''$\x7ba" = .error ⟨.openSpan 3, 6⟩ ∧
      lex none "\n '''$\x7ba" = .error ⟨.openSpan 5, 8⟩ ∧
        ∀ segments, lex none ("'''$\x7ba" ++ "\n ") ≠ .ok segments := by
  have hspan : lex none "'''$\x7ba" = .error ⟨.openSpan 3, 6⟩ := by cbv
  obtain ⟨hbefore, hbehind⟩ := lex_surrounded (w := "\n ") (by decide) none "'''$\x7ba"
  refine ⟨hspan, ?_, fun segments h => ?_⟩
  · rw [hspan] at hbefore
    exact hbefore
  · have := (hbehind segments).mp h
    rw [hspan] at this
    cases this

end TripleQuote
