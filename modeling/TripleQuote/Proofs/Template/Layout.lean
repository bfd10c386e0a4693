import Mathlib.Data.List.Pairwise
import TripleQuote.Proofs.Template.Places

/-! # The layout of a template

The segments of a template stand in its source where their offsets say, apart from each other, and
what stands between the opener or an expression and the next segment is joined lines and nothing
else (`offsets_locate_segments`).

`LaidOut` follows the source from one segment to the next. It holds of the pieces of a body from the
last to the first, as the segments are assembled (`LaidOut.assemble`). -/

namespace TripleQuote

/-- The line ends that a backslash joins. -/
inductive LineEnd : Text → Prop where
  | lf : LineEnd ['\n']
  | crlf : LineEnd ['\r', '\n']
  | cr : LineEnd ['\r']

/-- Any number of joined lines: backslashes, each with a line end. -/
inductive JoinedLines : Text → Prop where
  | nil : JoinedLines []
  | cons (he : LineEnd e) (h : JoinedLines s) : JoinedLines ('\\' :: (e ++ s))

/-- Whether a literal may be written as `x`, by how the two start. -/
inductive Begins : Text → Text → Prop where
  | char : Begins (c :: x) (c :: t)
  | opener : Begins ('\\' :: '$' :: '{' :: x) ('$' :: '{' :: t)

/-- How segments stand in the rest of a template from `pos` on. -/
inductive LaidOut (q : Quote) : Nat → Text → List Segment → Prop where
  | closing (hw : Text.blank w = true) : LaidOut q pos (q.delimiter ++ w) []
  | joined (he : LineEnd e) (h : LaidOut q (pos + (e.length + 1)) s segments) :
      LaidOut q pos ('\\' :: (e ++ s)) segments
  | interpolation (h : LaidOut q (pos + (e.length + 3)) s segments) :
      LaidOut q pos ('$' :: '{' :: (e ++ '}' :: s)) (.interpolation (pos + 2) e :: segments)
  | literal (hx : Begins x t) (h : LaidOut q (pos + x.length) s segments) :
      LaidOut q pos (x ++ s) (.literal pos t :: segments)

/-- The part of a text from place `a` to place `b`. -/
def Text.slice (s : Text) (a b : Nat) : Text := (s.drop a).take (b - a)

namespace Segment

/-- Where a segment starts in the template, the `$` of an expression included. -/
def start : Segment → Nat
  | literal n _ => n
  | interpolation n _ => n - 2

/-- The places that an expression takes in the template, with the `$` and the braces. -/
def Covers : Segment → Nat → Prop
  | literal _ _, _ => False
  | interpolation n e, i => n - 2 ≤ i ∧ i < n + e.length + 1

/-- Whether a segment starts in `s` where its offset says. -/
def StandsIn (s : Text) : Segment → Prop
  | literal n t =>
    (∃ c, s[n]? = some c ∧ t.head? = some c) ∨
      s.slice n (n + 3) = ['\\', '$', '{'] ∧ ['$', '{'] <+: t
  | interpolation n e =>
    2 ≤ n ∧ s.slice (n - 2) n = ['$', '{'] ∧ s.slice n (n + e.length) = e ∧
      s[n + e.length]? = some '}'

/-- The place behind segments of the template `s` that end with an expression, or behind the opener
if there are none. -/
def placeBehind? (s : Text) (before : List Segment) : Option Nat :=
  match before.getLast? with
  | none => some ((s.takeWhile isBlank).length + 3)
  | some (literal _ _) => none
  | some (interpolation n e) => some (n + e.length + 1)

/-- The place of the first of the segments in the template `s`, or of the closing delimiter if there
are none. -/
def placeAhead (s : Text) (after : List Segment) : Nat :=
  match after with
  | [] => s.trimEnd.length - 3
  | seg :: _ => seg.start

end Segment

variable {q : Quote} {p : Piece} {ps : List Piece} {pos n : Nat} {s t u w x y e before : Text}
  {segments segments' last : List Segment} {seg : Segment} {required : Option Quote}

/-! ## From pieces to a layout -/

theorem Begins.append (h : Begins x t) (y u : Text) : Begins (x ++ y) (t ++ u) := by
  cases h with
  | char => exact .char
  | opener => exact .opener

theorem Piece.Fits.lineEnd (h : (Piece.joined e).Fits q s) : LineEnd e := by
  cases h with
  | lf => exact .lf
  | crlf => exact .crlf
  | cr => exact .cr

/-- A piece is written as its text starts, unless it is no text. -/
theorem Piece.Fits.begins (h : p.Fits q s) (hjoined : ∀ e, p ≠ .joined e)
    (hspan : ∀ e, p ≠ .span e) : Begins (p.spelling q) (p.text q) := by
  cases h with
  | lf | crlf | cr => exact absurd rfl (hjoined _)
  | span => exact absurd rfl (hspan _)
  | opener => exact .opener
  | backslash | char => exact .char
  | @quotes n _ hn _ =>
    obtain ⟨m, hm⟩ : ∃ m, (if n < 3 then n else n - 3) = m + 1 :=
      Nat.exists_eq_succ_of_ne_zero (by split <;> omega)
    obtain ⟨k, rfl⟩ : ∃ k, n = k + 1 := Nat.exists_eq_succ_of_ne_zero (by omega)
    rw [spelling, text, hm, Quote.run_succ, Quote.run_succ]
    exact .char

namespace LaidOut

/-- Text before segments is a literal of its own, or the start of their first literal. -/
theorem prependText (h : LaidOut q (pos + x.length) s segments) (hx : Begins x t) :
    LaidOut q pos (x ++ s) (Segment.prependText pos t segments) := by
  obtain ⟨c, t, rfl⟩ : ∃ c t', t = c :: t' := by cases hx <;> exact ⟨_, _, rfl⟩
  generalize hn : pos + x.length = n at h
  induction h generalizing x with
  | closing hw => exact .literal hx (hn ▸ .closing hw)
  | @interpolation n s segments e h _ =>
    subst hn
    exact .literal hx (.interpolation h)
  | @joined e n s segments he h ih =>
    -- The joined lines before the segments become a part of what the text is written as.
    have hlength : pos + (x ++ '\\' :: e).length = n + (e.length + 1) := by
      rw [← hn, List.length_append, List.length_cons, Nat.add_assoc]
    have hmore := ih (by simpa using hx.append ('\\' :: e) []) hlength
    rwa [List.append_assoc] at hmore
  | @literal y t' n s segments hy h _ =>
    have hlength : pos + (x ++ y).length = n + y.length := by
      rw [← hn, List.length_append, Nat.add_assoc]
    rw [← List.append_assoc, Segment.prependText_literal _ _ _ _ (List.cons_ne_nil c t)]
    exact .literal (hx.append y t') (hlength ▸ h)

theorem prepend (hp : p.Fits q s) (h : LaidOut q (pos + (p.spelling q).length) s segments) :
    LaidOut q pos (p.spelling q ++ s) (Segment.prepend q (pos, p) segments) := by
  cases hkind : p with
  | joined e =>
    subst hkind
    exact .joined hp.lineEnd h
  | span e =>
    subst hkind
    have hspelling : (Piece.span e).spelling q ++ s = '$' :: '{' :: (e ++ '}' :: s) := by
      simp [Piece.spelling]
    have hlength : ((Piece.span e).spelling q).length = e.length + 3 := by
      simp [Piece.spelling]
    rw [hlength] at h
    rw [hspelling]
    exact .interpolation h
  | opener | backslash | quotes | char =>
    subst hkind
    exact h.prependText (hp.begins (by simp) (by simp))

/-- Pieces that fit lay out the segments that are assembled from them. -/
theorem assemble (hps : Piece.AllFit q ps s)
    (h : LaidOut q (pos + (Piece.spell q ps).length) s last) :
    LaidOut q pos (Piece.spell q ps ++ s) (Segment.assemble q (Piece.place q pos ps) last) := by
  induction ps generalizing pos with
  | nil => exact h
  | cons p ps ih =>
    rw [Piece.spell_cons, List.length_append, ← Nat.add_assoc] at h
    rw [Piece.spell_cons, List.append_assoc]
    exact (ih hps.2 h).prepend hps.1

/-- The quotes of a closing run that are not its delimiter are text. -/
theorem closingRun (q : Quote) (pos extra : Nat) (hw : Text.blank w = true) :
    LaidOut q pos (q.run (extra + 3) ++ w) (Segment.closing q pos (extra + 3)) := by
  rw [Segment.closing, Nat.add_sub_cancel]
  cases extra with
  | zero => exact .closing hw
  | succ m =>
    have hrun : q.run (m + 1 + 3) ++ w = q.run (m + 1) ++ (q.delimiter ++ w) := by
      rw [← List.append_assoc, Quote.delimiter, Quote.run_append_run]
    rw [hrun]
    refine prependText (.closing hw) ?_
    rw [Quote.run_succ]
    exact .char

end LaidOut

theorem Decomposition.laidOut (d : Decomposition) :
    LaidOut d.quote (d.leading.length + 3) (Piece.spell d.quote d.pieces ++ d.last) d.segments :=
  .assemble d.fits (.closingRun _ _ _ d.trailing_blank)

/-! ## What a layout says -/

theorem JoinedLines.append (hs : JoinedLines s) (ht : JoinedLines t) : JoinedLines (s ++ t) := by
  induction hs with
  | nil => exact ht
  | @cons e s he _ ih =>
    rw [List.cons_append, List.append_assoc]
    exact .cons he ih

/-- The place where a part of a text starts is the length of what stands before it. -/
theorem Text.slice_append (before x after : Text) :
    (before ++ (x ++ after)).slice before.length (before.length + x.length) = x := by
  rw [slice, List.drop_left, Nat.add_sub_cancel_left, List.take_left]

theorem Text.trimEnd_delimiter (s : Text) (q : Quote) (hw : blank w = true) :
    (s ++ (q.delimiter ++ w)).trimEnd = s ++ q.delimiter := by
  have hend : ∀ c ∈ w.reverse, isBlank c = true := by
    simpa [blank, List.all_eq_true] using hw
  have hquote : q.delimiter.reverse = q.char :: q.char :: [q.char] := rfl
  rw [trimEnd, List.reverse_append, List.reverse_append, List.append_assoc,
    List.dropWhile_append_of_pos hend, hquote, List.cons_append,
    List.dropWhile_cons_of_neg (by simp [q.isBlank_char]), ← List.cons_append, ← hquote,
    ← List.reverse_append, List.reverse_reverse]

/-- The end of a segment, as far as it matters to the segments behind it: a literal takes at least
one place. -/
def Segment.stop : Segment → Nat
  | literal n _ => n + 1
  | interpolation n e => n + e.length + 1

theorem Begins.length_pos (h : Begins x t) : 0 < x.length := by
  cases h <;> exact Nat.succ_pos _

namespace LaidOut

theorem le_start (h : LaidOut q pos s segments) (hseg : seg ∈ segments) : pos ≤ seg.start := by
  induction h with
  | closing => cases hseg
  | joined _ _ ih => exact Nat.le_trans (Nat.le_add_right ..) (ih hseg)
  | interpolation _ ih =>
    rcases List.mem_cons.mp hseg with rfl | hseg
    · exact Nat.le_refl _
    · exact Nat.le_trans (Nat.le_add_right ..) (ih hseg)
  | literal _ _ ih =>
    rcases List.mem_cons.mp hseg with rfl | hseg
    · exact Nat.le_refl _
    · exact Nat.le_trans (Nat.le_add_right ..) (ih hseg)

/-- Each segment ends before the next one starts. -/
theorem pairwise (h : LaidOut q pos s segments) :
    segments.Pairwise fun a b => a.stop ≤ b.start := by
  induction h with
  | closing => exact .nil
  | joined _ _ ih => exact ih
  | @interpolation pos s segments e h ih =>
    refine .cons (fun b hb => ?_) ih
    have hstart := h.le_start hb
    rw [Segment.stop]
    omega
  | @literal x t pos s segments hx h ih =>
    refine .cons (fun b hb => ?_) ih
    have hstart := h.le_start hb
    have hpos := hx.length_pos
    rw [Segment.stop]
    omega

theorem exists_begins (h : LaidOut q pos s segments) (hl : .literal n t ∈ segments) :
    ∃ before tail, s = before ++ tail ∧ pos + before.length = n ∧ Begins tail t := by
  induction h with
  | closing => cases hl
  | @joined e pos s segments he h ih =>
    obtain ⟨before, tail, rfl, rfl, hbegins⟩ := ih hl
    refine ⟨'\\' :: (e ++ before), tail, by simp, ?_, hbegins⟩
    simp only [List.length_cons, List.length_append]
    omega
  | @interpolation pos s segments e h ih =>
    rcases List.mem_cons.mp hl with heq | hl
    · cases heq
    · obtain ⟨before, tail, rfl, rfl, hbegins⟩ := ih hl
      refine ⟨'$' :: '{' :: (e ++ '}' :: before), tail, by simp, ?_, hbegins⟩
      simp only [List.length_cons, List.length_append]
      omega
  | @literal x t' pos s segments hx h ih =>
    rcases List.mem_cons.mp hl with heq | hl
    · cases heq
      exact ⟨[], x ++ s, rfl, rfl, by simpa using hx.append s []⟩
    · obtain ⟨before, tail, rfl, rfl, hbegins⟩ := ih hl
      exact ⟨x ++ before, tail, by simp, by rw [List.length_append, Nat.add_assoc], hbegins⟩

/-- Behind an expression its template goes on with a layout of the segments behind it. -/
theorem behind (h : LaidOut q pos s (segments ++ .interpolation n e :: segments')) :
    ∃ before tail, s = before ++ tail ∧ pos + before.length = n + e.length + 1 ∧
      LaidOut q (n + e.length + 1) tail segments' := by
  generalize hall : segments ++ .interpolation n e :: segments' = all at h
  induction h generalizing segments with
  | closing => simp at hall
  | @joined e' pos s all he h ih =>
    obtain ⟨before, tail, rfl, hn, htail⟩ := ih hall
    refine ⟨'\\' :: (e' ++ before), tail, by simp, ?_, htail⟩
    simp only [List.length_cons, List.length_append]
    omega
  | @interpolation pos s all e' h ih =>
    cases segments with
    | nil =>
      cases hall
      refine ⟨'$' :: '{' :: (e ++ ['}']), s, by simp, ?_, ?_⟩
      · simp only [List.length_cons, List.length_append, List.length_nil]
        omega
      · have hstop : pos + 2 + e.length + 1 = pos + (e.length + 3) := by omega
        rwa [hstop]
    | cons seg segments =>
      obtain ⟨-, rfl⟩ := List.cons.inj hall
      obtain ⟨before, tail, rfl, hn, htail⟩ := ih rfl
      refine ⟨'$' :: '{' :: (e' ++ '}' :: before), tail, by simp, ?_, htail⟩
      simp only [List.length_cons, List.length_append]
      omega
  | @literal x t pos s all hx h ih =>
    cases segments with
    | nil => cases hall
    | cons seg segments =>
      obtain ⟨-, rfl⟩ := List.cons.inj hall
      obtain ⟨before, tail, rfl, hn, htail⟩ := ih rfl
      refine ⟨x ++ before, tail, by simp, ?_, htail⟩
      rw [List.length_append, ← Nat.add_assoc, hn]

/-- Joined lines lead to the first of the segments, or to the closing delimiter. -/
theorem exists_gap (h : LaidOut q before.length s segments) :
    ∃ gap tail, s = gap ++ tail ∧ JoinedLines gap ∧
      before.length + gap.length = Segment.placeAhead (before ++ s) segments := by
  generalize hpos : before.length = pos at h
  induction h generalizing before with
  | closing hw =>
    subst hpos
    refine ⟨[], _, rfl, .nil, ?_⟩
    rw [Segment.placeAhead, Text.trimEnd_delimiter before q hw, List.length_append,
      Quote.delimiter, Quote.length_run, Nat.add_sub_cancel]
    rfl
  | @joined e pos s segments he h ih =>
    have hlength : (before ++ '\\' :: e).length = pos + (e.length + 1) := by
      rw [List.length_append, List.length_cons, hpos]
    obtain ⟨gap, tail, rfl, hgap, hplace⟩ := ih hlength
    refine ⟨'\\' :: (e ++ gap), tail, by simp, .cons he hgap, ?_⟩
    rw [List.append_assoc, List.cons_append] at hplace
    rw [← hplace, List.length_cons, List.length_append]
    omega
  | interpolation | literal => exact ⟨[], _, rfl, .nil, rfl⟩

end LaidOut

/-! ## Templates -/

theorem Begins.standsIn (h : Begins y t) (before : Text) :
    (Segment.literal before.length t).StandsIn (before ++ y) := by
  cases h with
  | @char c x t => exact .inl ⟨c, by simp, rfl⟩
  | @opener x t => exact .inr ⟨Text.slice_append before ['\\', '$', '{'] x, t, rfl⟩

theorem SpanAt.standsIn (h : SpanAt s n e) : (Segment.interpolation n e).StandsIn s := by
  obtain ⟨before, after, rfl, rfl⟩ := h
  have hopener := Text.slice_append before ['$', '{'] (e ++ '}' :: after)
  have hsource := Text.slice_append (before ++ ['$', '{']) e ('}' :: after)
  have hsplit : before ++ ('$' :: '{' :: e ++ '}' :: after) =
      (before ++ '$' :: '{' :: e) ++ '}' :: after := by simp
  have hlength : before.length + 2 + e.length = (before ++ '$' :: '{' :: e).length := by
    simp only [List.length_append, List.length_cons]
    omega
  refine ⟨Nat.le_add_left .., ?_, ?_, ?_⟩
  · rwa [Nat.add_sub_cancel]
  · simpa using hsource
  · rw [hsplit, hlength, List.getElem?_append_right (Nat.le_refl _), Nat.sub_self]
    rfl

theorem Segment.Covers.bounds (h : seg.Covers n) : seg.start ≤ n ∧ n < seg.stop := by
  cases seg with
  | literal => cases h
  | interpolation => exact h

namespace Decomposition

variable (d : Decomposition)

theorem standsIn_of_mem (h : seg ∈ d.segments) : seg.StandsIn d.text := by
  cases seg with
  | interpolation n e => exact (d.spanAt_of_mem h).standsIn
  | literal n t =>
    obtain ⟨before, tail, hbody, rfl, hbegins⟩ := d.laidOut.exists_begins h
    have hstands := hbegins.standsIn (d.leading ++ d.quote.delimiter ++ before)
    simpa [text, hbody, Quote.delimiter, Nat.add_assoc] using hstands

/-- What stands between the opener or an expression and the next segment is joined lines. -/
theorem joinedLines_of_placeBehind? {front after : List Segment} {place : Nat}
    (h : d.segments = front ++ after) (hplace : Segment.placeBehind? d.text front = some place) :
    place ≤ Segment.placeAhead d.text after ∧
      JoinedLines (d.text.slice place (Segment.placeAhead d.text after)) := by
  -- The template goes on behind the place with a layout of the segments ahead.
  obtain ⟨before, tail, htext, rfl, htail⟩ : ∃ before tail, d.text = before ++ tail ∧
      before.length = place ∧ LaidOut d.quote before.length tail after := by
    have htext : d.text =
        d.leading ++ d.quote.delimiter ++ (Piece.spell d.quote d.pieces ++ d.last) := by
      rw [text, List.append_assoc]
    have hopener : (d.leading ++ d.quote.delimiter).length = d.leading.length + 3 :=
      List.length_append
    have hlaid := d.laidOut
    rw [h] at hlaid
    rcases List.eq_nil_or_concat front with rfl | ⟨front, seg, rfl⟩
    · have hleading : d.text.takeWhile isBlank = d.leading :=
        Opened.takeWhile_delimiter d.leading_blank _ _
      rw [Segment.placeBehind?, List.getLast?_nil, Option.some.injEq, hleading] at hplace
      exact ⟨_, _, htext, hopener.trans hplace, hopener ▸ hlaid⟩
    · rw [List.concat_eq_append] at hplace hlaid
      rw [Segment.placeBehind?, List.getLast?_concat] at hplace
      cases seg with
      | literal n t => cases hplace
      | interpolation n e =>
        cases hplace
        rw [List.append_assoc] at hlaid
        obtain ⟨before, tail, hbody, hlength, htail⟩ := hlaid.behind
        refine ⟨d.leading ++ d.quote.delimiter ++ before, tail, ?_, ?_, ?_⟩
        · rw [htext, hbody, List.append_assoc _ before]
        · rw [List.length_append, hopener, hlength]
        · rwa [List.length_append, hopener, hlength]
  obtain ⟨gap, tail, rfl, hgap, hahead⟩ := htail.exists_gap
  rw [htext, ← hahead, Text.slice_append]
  exact ⟨Nat.le_add_right .., hgap⟩

end Decomposition

/-- The segments of a template start in its source where their offsets say. Their offsets increase,
the expressions take different places with their braces, and no literal starts inside one. Between
the opener or an expression and the next segment, or the closing delimiter, stand joined lines and
nothing else. -/
theorem offsets_locate_segments (h : lex required s = .ok segments) :
    (∀ seg ∈ segments, seg.StandsIn s) ∧
    segments.Pairwise (fun a b => a.offset < b.offset) ∧
    segments.Pairwise (fun a b => ∀ i, ¬ (a.Covers i ∧ b.Covers i)) ∧
    (∀ n t, .literal n t ∈ segments → ∀ seg ∈ segments, ¬ seg.Covers n) ∧
    ∀ before after place, segments = before ++ after →
      Segment.placeBehind? s before = some place →
        place ≤ Segment.placeAhead s after ∧
          JoinedLines (s.slice place (Segment.placeAhead s after)) := by
  have hoffsets := pairwise_offset_of_lex h
  obtain ⟨d, rfl, hd⟩ := Decomposition.exists_of_lex h
  rw [d.lex_text hd, Except.ok.injEq] at h
  subst h
  have hapart := d.laidOut.pairwise
  refine ⟨fun seg hseg => d.standsIn_of_mem hseg, hoffsets, ?_, ?_, ?_⟩
  · refine hapart.imp fun {a b} hab i hcovers => ?_
    have ha := hcovers.1.bounds
    have hb := hcovers.2.bounds
    omega
  · intro n t hl seg hseg hcovers
    have hne : .literal n t ≠ seg := by
      rintro rfl
      cases hcovers
    have hsides : (d.segments).Pairwise fun a b => a.stop ≤ b.start ∨ b.stop ≤ a.start :=
      hapart.imp .inl
    have hsymm : Std.Symm fun a b : Segment => a.stop ≤ b.start ∨ b.stop ≤ a.start :=
      ⟨fun _ _ => Or.symm⟩
    have hside := hsides.forall hl hseg hne
    have hbounds := hcovers.bounds
    simp only [Segment.stop, Segment.start] at hside hbounds
    omega
  · intro before after place hsplit hplace
    exact d.joinedLines_of_placeBehind? hsplit hplace

/-- Joined lines stand before an escaped opener and between two expressions. -/
theorem offsets_locate_joined_expressions :
    ∃ segments, lex none " '''\\\n\\$\x7ba$\x7bb\x7d\\\r\n$\x7bc\x7d''''" = .ok segments ∧
      segments = [.literal 6 "$\x7ba", .interpolation 12 "b", .interpolation 19 "c",
        .literal 21 "'"] ∧
      (∀ seg ∈ segments, seg.StandsIn " '''\\\n\\$\x7ba$\x7bb\x7d\\\r\n$\x7bc\x7d''''") ∧
      JoinedLines (Text.slice " '''\\\n\\$\x7ba$\x7bb\x7d\\\r\n$\x7bc\x7d''''" 14 17) := by
  let d : Decomposition := ⟨[' '], .single,
    [.joined ['\n'], .opener, .char 'a', .span ['b'], .joined ['\r', '\n'], .span ['c']], 1, [],
    by decide, rfl, .lf, .opener, .char (by decide) (by decide) (by decide),
    .span (by decide) rfl, .crlf, .span (by decide) rfl, trivial⟩
  have h : lex none " '''\\\n\\$\x7ba$\x7bb\x7d\\\r\n$\x7bc\x7d''''" =
      .ok [.literal 6 "$\x7ba", .interpolation 12 "b", .interpolation 19 "c",
        .literal 21 "'"] := d.lex_text (by simp [Decomposition.Meets])
  obtain ⟨hstands, -, -, -, hgaps⟩ := offsets_locate_segments h
  exact ⟨_, h, rfl, hstands,
    (hgaps [.literal 6 "$\x7ba", .interpolation 12 "b"] _ 14 rfl rfl).2⟩

end TripleQuote
