import TripleQuote.Template.Piece

/-! # Scanning a body

A scan cuts a body into its pieces, each with its offset in the template, up to the point where
the body ends. The pieces and what follows them spell the body (`Scan.body_spelling`). -/

namespace TripleQuote

/-- The pieces of a body with their offsets, and how and where the body ends. -/
structure Scan where
  pieces : List (Nat × Piece)
  ending : Ending
  /-- Where the ending starts. -/
  offset : Nat
  /-- What is left of the body there. -/
  rest : Text
deriving DecidableEq, Repr

namespace Scan

/-- Scan a body that starts at offset `pos`. -/
def body (q : Quote) (pos : Nat) (s : Text) : Scan :=
  match _h : Piece.next q s with
  | .ending e => ⟨[], e, pos, s⟩
  | .piece p rest =>
    let more := body q (pos + (p.spelling q).length) rest
    { more with pieces := (pos, p) :: more.pieces }
termination_by s.length
decreasing_by exact Piece.next_length (by assumption)

theorem body_ending {q : Quote} {pos : Nat} {s : Text} {e : Ending}
    (h : Piece.next q s = .ending e) : body q pos s = ⟨[], e, pos, s⟩ := by
  rw [body]
  split
  · next h' => rw [h] at h'; cases h'; rfl
  · next h' => rw [h] at h'; cases h'

theorem body_piece {q : Quote} {pos : Nat} {s : Text} {p : Piece} {rest : Text}
    (h : Piece.next q s = .piece p rest) :
    body q pos s =
      { body q (pos + (p.spelling q).length) rest with
        pieces := (pos, p) :: (body q (pos + (p.spelling q).length) rest).pieces } := by
  rw [body]
  split
  · next h' => rw [h] at h'; cases h'
  · next h' => rw [h] at h'; cases h'; rfl

/-- The pieces of a scan, spelled out, and what is left are the body. -/
theorem body_spelling (q : Quote) (pos : Nat) (s : Text) :
    (body q pos s).pieces.flatMap (fun piece => piece.2.spelling q) ++ (body q pos s).rest
      = s := by
  fun_induction body q pos s with
  | case1 pos s e h => rfl
  | case2 pos s p rest h more ih =>
    have := Piece.next_spelling h
    simpa [more, List.append_assoc, ih] using this

end Scan

end TripleQuote
