import TripleQuote.Template.Piece

/-! # Assembling segments

Pieces become segments from the last to the first: an expression is a segment of its own, and
text joins the literal that follows it, which then starts where the text starts. -/

namespace TripleQuote.Segment

/-- Put text that starts at `pos` before segments. -/
def prependText (pos : Nat) (t : Text) (after : List Segment) : List Segment :=
  match t, after with
  | [], after => after
  | t, literal _ more :: rest => literal pos (t ++ more) :: rest
  | t, after => literal pos t :: after

/-- Put a piece of a template with quotes `q` before segments. -/
def prepend (q : Quote) (piece : Nat × Piece) (after : List Segment) : List Segment :=
  match piece.2 with
  | .span source => interpolation (piece.1 + 2) source :: after
  | p => prependText piece.1 (p.text q) after

/-- The segments of pieces that are followed by the segments `last`. -/
def assemble (q : Quote) (pieces : List (Nat × Piece)) (last : List Segment) : List Segment :=
  pieces.foldr (prepend q) last

/-- The segments of a closing run of `n` quotes at `pos`: three of them are the delimiter. -/
def closing (q : Quote) (pos n : Nat) : List Segment := prependText pos (q.run (n - 3)) []

@[simp] theorem assemble_nil (q : Quote) (last : List Segment) : assemble q [] last = last := rfl

theorem assemble_append (q : Quote) (front back : List (Nat × Piece)) (last : List Segment) :
    assemble q (front ++ back) last = assemble q front (assemble q back last) :=
  List.foldr_append

@[simp] theorem prependText_nil (pos : Nat) (after : List Segment) :
    prependText pos [] after = after := rfl

theorem prependText_literal (pos next : Nat) {t : Text} (more : Text) (rest : List Segment)
    (h : t ≠ []) :
    prependText pos t (literal next more :: rest) = literal pos (t ++ more) :: rest := by
  cases t with
  | nil => exact absurd rfl h
  | cons c t => rfl

end TripleQuote.Segment
