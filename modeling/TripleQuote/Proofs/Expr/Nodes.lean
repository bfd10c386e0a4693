import TripleQuote.Expr.Basic

/-! # Nodes of expressions

`Expr.nodes` lists the parts of an expression in the order in which evaluation gets done with them.
The names that an expression reads are those of its nodes (`Expr.mem_roots_iff`). -/

namespace TripleQuote.Expr

/-- An expression is built from its target or from its operands. -/
@[elab_as_elim]
theorem induction {motive : Expr → Prop} (name : ∀ ident, motive (.name ident))
    (text : ∀ value, motive (.text value))
    (attr : ∀ target n, motive target → motive (.attr target n))
    (call : ∀ target n, motive target → motive (.call target n))
    (concat : ∀ operands, (∀ e ∈ operands, motive e) → motive (.concat operands))
    (hole : motive .hole) (e : Expr) : motive e :=
  @Expr.rec motive (fun es => ∀ e ∈ es, motive e) name text attr call concat hole
    (fun _ h => absurd h List.not_mem_nil)
    (fun _ _ he hes _ h => (List.mem_cons.mp h).elim (fun heq => heq ▸ he) (hes _)) e

mutual
/-- The parts of an expression and the expression itself, each one behind its own parts. -/
def nodes : Expr → List Expr
  | name ident => [name ident]
  | text value => [text value]
  | attr target n => target.nodes ++ [attr target n]
  | call target n => target.nodes ++ [call target n]
  | concat operands => nodesOf operands ++ [concat operands]
  | hole => [hole]

def nodesOf : List Expr → List Expr
  | [] => []
  | e :: es => e.nodes ++ nodesOf es
end

/-- An expression is the last of its nodes. -/
theorem exists_nodes_eq (e : Expr) : ∃ init, e.nodes = init ++ [e] := by
  cases e with
  | name | text | hole => exact ⟨[], rfl⟩
  | attr | call | concat => exact ⟨_, rfl⟩

theorem self_mem_nodes (e : Expr) : e ∈ e.nodes := by
  obtain ⟨init, hinit⟩ := exists_nodes_eq e
  rw [hinit]
  exact List.mem_append_right _ (List.mem_singleton_self _)

theorem nodesOf_eq_flatMap (es : List Expr) : nodesOf es = es.flatMap nodes := by
  induction es with
  | nil => rfl
  | cons e es ih => rw [nodesOf, ih, List.flatMap_cons]

theorem rootsOf_eq_flatMap (es : List Expr) : rootsOf es = es.flatMap roots := by
  induction es with
  | nil => rfl
  | cons e es ih => rw [rootsOf, ih, List.flatMap_cons]

theorem mem_roots_concat {operands : List Expr} {n : Text} :
    n ∈ (concat operands).roots ↔ ∃ e ∈ operands, n ∈ e.roots := by
  rw [roots, List.mem_eraseDups, rootsOf_eq_flatMap, List.mem_flatMap]

/-- The names that an expression reads are those among its nodes. -/
theorem mem_roots_iff {e : Expr} {n : Text} : n ∈ e.roots ↔ name n ∈ e.nodes := by
  induction e using Expr.induction with
  | name ident => simp [roots, nodes]
  | text value | hole => simp [roots, nodes]
  | attr target m ih | call target m ih => simp [roots, nodes, ih]
  | concat operands ih =>
    rw [mem_roots_concat, nodes, nodesOf_eq_flatMap]
    simp only [List.mem_append, List.mem_flatMap, List.mem_singleton, reduceCtorEq, or_false]
    exact exists_congr fun e => and_congr_right fun he => ih e he

end TripleQuote.Expr
