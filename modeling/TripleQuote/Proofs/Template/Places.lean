import TripleQuote.Proofs.Template.Decomposition

/-! # Places of segments

The offset of an expression is the place of its source in the template (`spanAt_of_lex`), and the
segments of a template come in the order of their offsets (`pairwise_offset_of_lex`). -/

namespace TripleQuote

/-- The source of an expression stands in a text at an offset, between braces behind a `$`. -/
def SpanAt (s : Text) (offset : Nat) (source : Text) : Prop :=
  ∃ before after, s = before ++ ('$' :: '{' :: source ++ '}' :: after) ∧
    before.length + 2 = offset

/-- Offsets that increase, from `n` on. -/
def AscendingFrom : Nat → List Segment → Prop
  | _, [] => True
  | n, s :: segments => n ≤ s.offset ∧ AscendingFrom (s.offset + 1) segments

variable {q : Quote} {p : Piece} {ps : List Piece} {pos n offset : Nat} {t source s : Text}
  {segments last : List Segment} {required : Option Quote}

theorem Piece.text_eq_nil_or_length_spelling_pos (q : Quote) (p : Piece) :
    p.text q = [] ∨ 0 < (p.spelling q).length := by
  cases p with
  | joined lineEnd | opener | backslash | span source | char c => exact .inr (Nat.succ_pos _)
  | quotes n =>
    cases n with
    | zero => exact .inl rfl
    | succ n => exact .inr (Nat.succ_pos _)

namespace Segment

/-- A piece that is no expression is text. -/
theorem prepend_eq (h : ∀ source, p ≠ .span source) :
    prepend q (pos, p) segments = prependText pos (p.text q) segments := by
  cases p with
  | span source => exact absurd rfl (h source)
  | joined lineEnd | opener | backslash | quotes n | char c => rfl

theorem interpolation_mem_prependText :
    interpolation offset source ∈ prependText pos t segments ↔
      interpolation offset source ∈ segments := by
  cases t with
  | nil => rfl
  | cons c t =>
    cases segments with
    | nil => simp [prependText]
    | cons s segments => cases s <;> simp [prependText]

/-- An expression that is assembled is one of the pieces, and its offset is that of its source. -/
theorem exists_span_of_mem_assemble
    (h : interpolation offset source ∈ assemble q (Piece.place q pos ps) last) :
    interpolation offset source ∈ last ∨
      ∃ front back, ps = front ++ .span source :: back ∧
        offset = pos + (Piece.spell q front).length + 2 := by
  induction ps generalizing pos with
  | nil => exact .inl h
  | cons p ps ih =>
    have hmore : interpolation offset source ∈
        assemble q (Piece.place q (pos + (p.spelling q).length) ps) last →
        interpolation offset source ∈ last ∨ ∃ front back, p :: ps = front ++ .span source :: back ∧
          offset = pos + (Piece.spell q front).length + 2 := by
      intro h
      rcases ih h with h | ⟨front, back, rfl, rfl⟩
      · exact .inl h
      · refine .inr ⟨p :: front, back, rfl, ?_⟩
        rw [Piece.spell_cons, List.length_append, Nat.add_assoc pos]
    rw [Piece.place, assemble, List.foldr_cons, ← assemble] at h
    by_cases hp : ∃ source, p = .span source
    · obtain ⟨source', rfl⟩ := hp
      rcases List.mem_cons.mp h with heq | h
      · cases heq
        exact .inr ⟨[], ps, rfl, rfl⟩
      · exact hmore h
    · rw [prepend_eq fun source hs => hp ⟨source, hs⟩, interpolation_mem_prependText] at h
      exact hmore h

end Segment

namespace AscendingFrom

theorem mono {m : Nat} (h : AscendingFrom n segments) (hm : m ≤ n) : AscendingFrom m segments := by
  cases segments with
  | nil => trivial
  | cons s segments => exact ⟨Nat.le_trans hm h.1, h.2⟩

theorem le_offset {seg : Segment} (h : AscendingFrom n segments) (hs : seg ∈ segments) :
    n ≤ seg.offset := by
  induction segments generalizing n with
  | nil => cases hs
  | cons seg' segments ih =>
    rcases List.mem_cons.mp hs with rfl | hs
    · exact h.1
    · exact Nat.le_trans h.1 (Nat.le_of_succ_le (ih h.2 hs))

theorem pairwise (h : AscendingFrom n segments) :
    segments.Pairwise fun a b => a.offset < b.offset := by
  induction segments generalizing n with
  | nil => exact .nil
  | cons s segments ih => exact .cons (fun _ hs => h.2.le_offset hs) (ih h.2)

/-- Text starts before the segments that it joins. -/
theorem prependText (h : AscendingFrom (pos + 1) segments) :
    AscendingFrom pos (Segment.prependText pos t segments) := by
  cases t with
  | nil => exact h.mono (Nat.le_succ pos)
  | cons c t =>
    cases segments with
    | nil => exact ⟨Nat.le_refl pos, trivial⟩
    | cons s segments =>
      cases s with
      | literal next more => exact ⟨Nat.le_refl pos, h.2.mono (Nat.le_succ_of_le h.1)⟩
      | interpolation next source => exact ⟨Nat.le_refl pos, h⟩

theorem closing (q : Quote) (pos n : Nat) : AscendingFrom pos (Segment.closing q pos n) :=
  prependText (show AscendingFrom (pos + 1) [] from trivial)

theorem prepend (h : AscendingFrom (pos + (p.spelling q).length) segments) :
    AscendingFrom pos (Segment.prepend q (pos, p) segments) := by
  by_cases hp : ∃ source, p = .span source
  · obtain ⟨source, rfl⟩ := hp
    refine ⟨Nat.le_add_right pos 2, h.mono ?_⟩
    simp only [Segment.offset, Piece.spelling, List.length_append, List.length_cons]
    omega
  · rw [Segment.prepend_eq fun source hs => hp ⟨source, hs⟩]
    rcases p.text_eq_nil_or_length_spelling_pos q with ht | hlength
    · rw [ht, Segment.prependText_nil]
      exact h.mono (Nat.le_add_right ..)
    · exact prependText (h.mono (Nat.add_le_add_left hlength pos))

theorem assemble (h : AscendingFrom (pos + (Piece.spell q ps).length) last) :
    AscendingFrom pos (Segment.assemble q (Piece.place q pos ps) last) := by
  induction ps generalizing pos with
  | nil => exact h
  | cons p ps ih =>
    rw [Piece.spell_cons, List.length_append, ← Nat.add_assoc] at h
    exact prepend (ih h)

end AscendingFrom

namespace Decomposition

variable (d : Decomposition)

theorem ascending_segments : AscendingFrom (d.leading.length + 3) d.segments :=
  .assemble (.closing ..)

theorem spanAt_of_mem (h : .interpolation offset source ∈ d.segments) :
    SpanAt d.text offset source := by
  rcases Segment.exists_span_of_mem_assemble h with h | ⟨front, back, hpieces, rfl⟩
  · rw [Segment.closing, Segment.interpolation_mem_prependText] at h
    cases h
  · refine ⟨d.leading ++ d.quote.delimiter ++ Piece.spell d.quote front,
      Piece.spell d.quote back ++ d.last, ?_, ?_⟩
    · rw [text, hpieces]
      simp [Piece.spell, Piece.spelling]
    · simp only [List.length_append, Quote.delimiter, Quote.length_run]

end Decomposition

/-- The expressions of a template stand where their offsets say. -/
theorem spanAt_of_lex (h : lex required s = .ok segments)
    (hs : .interpolation offset source ∈ segments) : SpanAt s offset source := by
  obtain ⟨d, rfl, hd⟩ := Decomposition.exists_of_lex h
  rw [d.lex_text hd, Except.ok.injEq] at h
  exact d.spanAt_of_mem (h ▸ hs)

theorem pairwise_offset_of_lex (h : lex required s = .ok segments) :
    segments.Pairwise fun a b => a.offset < b.offset := by
  obtain ⟨d, rfl, hd⟩ := Decomposition.exists_of_lex h
  rw [d.lex_text hd, Except.ok.injEq] at h
  exact h ▸ d.ascending_segments.pairwise

end TripleQuote
