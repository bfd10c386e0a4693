import TripleQuote.Proofs.Template.Content
import TripleQuote.Proofs.Template.Decomposition

/-! # What templates say

The templates are the texts of decompositions, and each of them says what its one decomposition
says (`lex_iff_decomposition`). The segments of a template are always a canonical list
(`canonical_of_lex`). -/

namespace TripleQuote

open Segment (Content Item gather Canonical)

variable {q : Quote}

theorem Piece.AllFit.exists_fits {ps : List Piece} {last : Text} (h : AllFit q ps last)
    {p : Piece} (hp : p ∈ ps) : ∃ rest, p.Fits q rest := by
  induction ps with
  | nil => cases hp
  | cons p' ps ih =>
    cases hp with
    | head => exact ⟨_, h.1⟩
    | tail _ hp => exact ih h.2 hp

theorem Piece.Fits.of_expression_mem {p : Piece} {rest e : Text} (h : p.Fits q rest)
    (he : .expression e ∈ p.items q) : '}' ∉ e ∧ Text.blank e = false := by
  cases h with
  | span hclose hblank =>
    simp only [items, List.mem_singleton, Item.expression.injEq] at he
    subst he
    exact ⟨hclose, hblank⟩
  | lf | crlf | cr | opener | backslash | quotes | char => simp [items] at he

namespace Decomposition

/-- What the template says: what its pieces say, and the quotes of the closing run that are not its
delimiter. -/
def items (d : Decomposition) : List Item :=
  d.pieces.flatMap (Piece.items d.quote) ++ (d.quote.run d.extra).map .char

variable (d : Decomposition)

theorem map_content_segments : d.segments.map Segment.content = gather d.items := by
  have hclosing := Segment.map_content_closing d.quote
    (d.leading.length + 3 + (Piece.spell d.quote d.pieces).length) (d.extra + 3)
  have hsegments := Segment.map_content_assemble (q := d.quote)
    (Piece.place d.quote (d.leading.length + 3) d.pieces) hclosing
  rwa [Piece.map_snd_place, Nat.add_sub_cancel] at hsegments

theorem canonical_items : Canonical (gather d.items) := by
  refine Segment.canonical_gather fun e he => ?_
  rcases List.mem_append.mp he with he | he
  · obtain ⟨p, hp, he⟩ := List.mem_flatMap.mp he
    obtain ⟨rest, hfits⟩ := d.fits.exists_fits hp
    exact hfits.of_expression_mem he
  · simp at he

end Decomposition

/-- The segments of a template are a canonical list. -/
theorem canonical_of_lex {required : Option Quote} {s : Text} {segments : List Segment}
    (h : lex required s = .ok segments) : Canonical (segments.map Segment.content) := by
  obtain ⟨d, rfl, hd⟩ := Decomposition.exists_of_lex h
  rw [d.lex_text hd, Except.ok.injEq] at h
  rw [← h, d.map_content_segments]
  exact d.canonical_items

/-- A text is a template with the required quotes exactly if it can be cut into white space, a
delimiter, pieces that fit, a closing run and white space. There is only one way to cut it, and
the segments say what the pieces and the closing run say. -/
theorem lex_iff_decomposition (required : Option Quote) (s : Text) :
    ((∃ segments, lex required s = .ok segments) ↔
      ∃ d : Decomposition, d.text = s ∧ d.Meets required) ∧
    (∀ d d' : Decomposition, d.text = s → d'.text = s → d = d') ∧
    ∀ d : Decomposition, d.text = s → d.Meets required →
      ∃ segments, lex required s = .ok segments ∧
        segments.map Segment.content = gather d.items := by
  refine ⟨⟨?_, ?_⟩, ?_, ?_⟩
  · rintro ⟨segments, h⟩
    exact Decomposition.exists_of_lex h
  · rintro ⟨d, rfl, hd⟩
    exact ⟨_, d.lex_text hd⟩
  · intro d d' hd hd'
    exact Decomposition.text_injective (hd.trans hd'.symm)
  · rintro d rfl hd
    exact ⟨_, d.lex_text hd, d.map_content_segments⟩

end TripleQuote
