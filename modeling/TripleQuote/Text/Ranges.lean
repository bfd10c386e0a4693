/-! # Ranges of code points

A class of characters is stored as the closed ranges of its code points, in ascending order. -/

namespace TripleQuote

/-- Closed ranges of code points, ascending and disjoint. -/
abbrev Ranges := List (Nat × Nat)

/-- Whether one of the ranges holds the code point. The search ends at the first range that
starts above it. -/
def Ranges.contains : Ranges → Nat → Bool
  | [], _ => false
  | (first, last) :: ranges, n => first ≤ n && (n ≤ last || Ranges.contains ranges n)

@[simp] theorem Ranges.contains_nil (n : Nat) : Ranges.contains [] n = false := rfl

theorem Ranges.contains_cons (first last : Nat) (ranges : Ranges) (n : Nat) :
    Ranges.contains ((first, last) :: ranges) n =
      (first ≤ n && (n ≤ last || Ranges.contains ranges n)) := by
  rfl

end TripleQuote
