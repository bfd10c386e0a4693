import TripleQuote.Proofs.Template.Blame

/-! # Numbers that can be written out

Where every number that is bound can be written out, an expression comes by no other number than
the length of a text. So it fails to write a number out only if it takes the length of a text of at
least `10 ^ 4300` characters (`Expr.takesLongLength_of_evaluate`). -/

namespace TripleQuote

variable {enabled : List Method} {env : Env} {e : Expr} {n source : Text} {v : Value}

/-- The value of a key of a map that can be written out can be written out. -/
theorem Value.writable_of_entry_eq_some {entries : List (Value × Value)}
    (h : (map entries).writable = true) (hv : entry? n entries = some v) : v.writable = true := by
  rw [writable] at h
  induction entries with
  | nil => cases hv
  | cons entry entries ih =>
    rw [entriesWritable, Bool.and_eq_true, Bool.and_eq_true] at h
    unfold entry? Ordered.get? at hv
    split at hv
    · cases hv
      exact h.1.2
    · exact ih h.2 hv

namespace Expr

/-- A value that cannot be written out is the length of a text. -/
theorem writable_or_length (henv : ∀ n v, env n = some v → v.writable = true)
    (h : eval enabled env e = .ok v) :
    v.writable = true ∨ ∃ target n u, e = attr target n ∧ eval enabled env target = .ok (.text u) ∧
      v = .int u.length := by
  induction e using Expr.induction generalizing v with
  | name ident => exact .inl (henv ident v (eval_name_eq_ok_iff.mp h))
  | text value =>
    cases h
    exact .inl rfl
  | attr target n ih =>
    obtain ⟨w, hw, hproperty⟩ := eval_attr_eq_ok_iff.mp h
    unfold Value.property? at hproperty
    split at hproperty
    · rcases ih hw with hwritable | ⟨_, _, _, _, _, hint⟩
      · exact .inl (Value.writable_of_entry_eq_some hwritable hproperty)
      · cases hint
    · next u =>
      split at hproperty
      · cases hproperty
        exact .inr ⟨target, n, u, rfl, hw, rfl⟩
      · cases hproperty
    · cases hproperty
  | call target n ih =>
    obtain ⟨_, _, _, _, _, _, rfl⟩ := eval_call_eq_ok_iff.mp h
    exact .inl rfl
  | concat operands ih =>
    obtain ⟨_, _, rfl⟩ := eval_concat_eq_ok_iff.mp h
    exact .inl rfl
  | hole => cases h

/-- The expression takes the length of a text, and that has too many digits to be written out. -/
def TakesLongLength (methods : List Method) (env : Env) (source : Text) : Prop :=
  ∃ e target n u, parse source.trim = .ok e ∧ .attr target n ∈ e.nodes ∧
    eval methods env target = .ok (.text u) ∧ Nat.pow 10 digitLimit ≤ u.length

theorem takesLongLength_of_evaluate (henv : ∀ n v, env n = some v → v.writable = true)
    (h : evaluate enabled env source = .error .unwritable) :
    TakesLongLength enabled env source := by
  obtain ⟨e, d, v, he, hd, hv, hlong⟩ := writesLongNumber_of_evaluate h
  rcases writable_or_length henv hv with hwritable | ⟨target, n, u, rfl, hu, rfl⟩
  · rw [hlong] at hwritable
    cases hwritable
  · rw [Value.writable, Bool.eq_false_iff, Ne, isWritable_iff, Int.natAbs_natCast,
      Nat.not_lt] at hlong
    exact ⟨e, target, n, u, he, hd, hu, hlong⟩

end Expr

end TripleQuote
