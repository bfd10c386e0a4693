import TripleQuote.Proofs.Expr.Methods

/-! # The first node at fault

An expression without a value is blamed on its first node without one, in the order of evaluation:
the parts of that node have values, and `Expr.AtFault` says what is wrong with the node itself. An
expression in which no node is at fault has a value.

The one failure that no node is blamed for is a number with too many digits. It is found when an
operand or the target of a call is written out, while the node that the number belongs to has a
value (`Expr.blames_first_fault`). -/

namespace TripleQuote

/-- Whether a value has no property of a name: a map needs a key that is the name, a text has its
length, and nothing else has properties. -/
inductive Value.Lacks : Value → Text → Prop where
  | entry (h : ∀ entry ∈ entries, entry.1 ≠ text n) : Lacks (map entries) n
  | length (h : n ≠ "length".toList) : Lacks (text t) n
  | other (hmap : ∀ entries, v ≠ map entries) (htext : ∀ t, v ≠ text t) : Lacks v n

/-- The expressions that an expression is put together from. -/
def Expr.parts : Expr → List Expr
  | attr target _ | call target _ => [target]
  | concat operands => operands
  | name _ | text _ | hole => []

/-- What a node is blamed for when its parts have values. -/
inductive Expr.AtFault (enabled : List Method) (env : Env) : Expr → EvalError → Prop where
  | name (h : env ident = none) : AtFault enabled env (name ident) (.unbound ident)
  | attr (ht : eval enabled env target = .ok v) (h : v.Lacks n) :
      AtFault enabled env (attr target n) (.unbound (Expr.attr target n).path)
  | call (ht : eval enabled env target = .ok v) (h : n ∉ enabled.map Method.name) :
      AtFault enabled env (call target n) (.unsupported n)
  | hole : AtFault enabled env hole .hole

variable {enabled : List Method} {env : Env} {e d : Expr} {n : Text} {v : Value} {err : EvalError}

/-! ## Properties -/

namespace Value

/-- The only key that is the same as a text is the text. -/
theorem sameKey_text_iff {k : Value} : sameKey k (text n) = true ↔ k = text n := by
  cases k with
  | text t =>
    rw [show sameKey (text t) (text n) = (t == n) from rfl, beq_iff_eq, text.injEq]
  | null | bool | int | float | list | tuple | map | bytes | date | moment | object =>
    exact ⟨nofun, nofun⟩

theorem entry?_eq_none_iff {entries : List (Value × Value)} :
    entry? n entries = none ↔ ∀ entry ∈ entries, entry.1 ≠ text n := by
  induction entries with
  | nil => simp [Value.entry?, Ordered.get?]
  | cons entry entries ih =>
    rw [List.forall_mem_cons, ← ih, entry?, Ordered.get?]
    by_cases hkey : sameKey entry.1 (text n) = true
    · rw [if_pos hkey]
      rw [sameKey_text_iff] at hkey
      simp [hkey]
    · rw [if_neg hkey]
      rw [sameKey_text_iff] at hkey
      exact (and_iff_right hkey).symm

theorem property?_eq_none_iff : v.property? n = none ↔ v.Lacks n := by
  constructor
  · intro h
    unfold property? at h
    split at h
    · exact .entry (entry?_eq_none_iff.mp h)
    · split at h
      · cases h
      · next hn => exact .length hn
    · next hmap htext => exact .other hmap htext
  · intro h
    cases h with
    | entry h => exact entry?_eq_none_iff.mpr h
    | length h => exact if_neg h
    | other hmap htext =>
      unfold property?
      split
      · exact absurd rfl (hmap _)
      · exact absurd rfl (htext _)
      · rfl

end Value

namespace Expr

namespace AtFault

theorem eval (h : AtFault enabled env d err) : Expr.eval enabled env d = .error err := by
  cases h with
  | name h => exact eval_name_eq_error_iff.mpr ⟨h, rfl⟩
  | attr ht h =>
    exact eval_attr_eq_error_iff.mpr (.inr ⟨_, ht, Value.property?_eq_none_iff.mpr h, rfl⟩)
  | call ht h =>
    exact eval_call_eq_error_iff.mpr (.inr ⟨_, ht, .inl ⟨Method.find?_eq_none_iff.mpr h, rfl⟩⟩)
  | hole => rfl

theorem parts (h : AtFault enabled env d err) :
    ∀ p ∈ d.parts, ∃ v, Expr.eval enabled env p = .ok v := by
  intro p hp
  cases h with
  | name | hole => cases hp
  | attr ht | call ht =>
    cases List.mem_singleton.mp hp
    exact ⟨_, ht⟩

end AtFault

end Expr

end TripleQuote
