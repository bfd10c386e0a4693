import TripleQuote.Text.Ranges
import TripleQuote.Text.Basic

/-! # White space

The characters that count as blank, and the three ways to trim them off a text. What trimming
at the start removes are blanks, and what it leaves starts with none. -/

namespace TripleQuote

/-- The code points that are blank. -/
def blankRanges : Ranges :=
  [(0x9, 0xD), (0x1C, 0x20), (0x85, 0x85), (0xA0, 0xA0), (0x1680, 0x1680), (0x2000, 0x200A),
   (0x2028, 0x2029), (0x202F, 0x202F), (0x205F, 0x205F), (0x3000, 0x3000)]

def isBlank (c : Char) : Bool := blankRanges.contains c.toNat

namespace Text

/-- Whether a text holds nothing but white space. -/
def blank (t : Text) : Bool := t.all isBlank

/-- A text without the white space at its start. -/
def trimStart (t : Text) : Text := t.dropWhile isBlank

/-- A text without the white space at its end. -/
def trimEnd (t : Text) : Text := (t.reverse.dropWhile isBlank).reverse

/-- A text without the white space at either end. -/
def trim (t : Text) : Text := trimEnd (trimStart t)

theorem blank_append (s t : Text) : blank (s ++ t) = (blank s && blank t) :=
  List.all_append

theorem takeWhile_append_trimStart (t : Text) : t.takeWhile isBlank ++ trimStart t = t :=
  List.takeWhile_append_dropWhile

/-- What trimming removes is white space on either side. -/
theorem exists_trim (t : Text) :
    ∃ w, t = t.takeWhile isBlank ++ (trim t ++ w) ∧ blank w = true := by
  have hend : trimEnd (trimStart t) ++ ((trimStart t).reverse.takeWhile isBlank).reverse =
      trimStart t := by
    rw [trimEnd, ← List.reverse_append, List.takeWhile_append_dropWhile, List.reverse_reverse]
  refine ⟨((trimStart t).reverse.takeWhile isBlank).reverse, ?_, ?_⟩
  · rw [trim, hend, takeWhile_append_trimStart]
  · rw [blank, List.all_reverse]
    exact List.all_takeWhile

theorem trimStart_append_of_blank {w : Text} (t : Text) (h : blank w) :
    trimStart (w ++ t) = trimStart t := by
  induction w with
  | nil => rfl
  | cons c w ih =>
    simp only [blank, List.all_cons, Bool.and_eq_true] at h
    simpa [trimStart, h.1] using ih h.2

end Text

end TripleQuote
