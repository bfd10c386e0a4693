import TripleQuote.Proofs.Expr.Nodes
import TripleQuote.Proofs.Expr.Printing

/-! # Names and paths of nodes

The nodes of an expression that has been parsed are normal trees, so that its names are identifiers.
The path of a property holds a dot and is therefore none of them (`Expr.path_attr_ne`). -/

namespace TripleQuote

variable {s n t : Text} {e d target : Expr} {m : Text}

theorem notMem_of_isIdent {c : Char} (h : IsIdent t) (hc : isIdentChar c = false) : c ∉ t := by
  intro hmem
  have hident := isIdentChar_of_mem h c hmem
  exact Bool.false_ne_true (hc.symm.trans hident)

namespace Expr

theorem Normal.of_mem_nodes (h : Normal e) (hd : d ∈ e.nodes) : Normal d := by
  induction e using Expr.induction with
  | name | text | hole =>
    rw [nodes, List.mem_singleton] at hd
    exact hd ▸ h
  | attr target n ih =>
    rw [nodes, List.mem_append, List.mem_singleton] at hd
    rcases hd with hd | rfl
    · cases h with
      | attr ht => exact ih ht hd
    · exact h
  | call target n ih =>
    rw [nodes, List.mem_append, List.mem_singleton] at hd
    rcases hd with hd | rfl
    · cases h with
      | call ht => exact ih ht hd
    · exact h
  | concat operands ih =>
    rw [nodes, nodesOf_eq_flatMap, List.mem_append, List.mem_singleton, List.mem_flatMap] at hd
    rcases hd with ⟨e, he, hd⟩ | rfl
    · cases h with
      | concat _ hoperands => exact ih e he (hoperands e he) hd
    · exact h

theorem normal_of_mem_nodes_of_parse (h : parse s = .ok e) (hd : d ∈ e.nodes) : Normal d :=
  (normal_of_parse h).of_mem_nodes hd

theorem isIdent_of_mem_roots (h : parse s = .ok e) (hn : n ∈ e.roots) : IsIdent n := by
  cases normal_of_mem_nodes_of_parse h (mem_roots_iff.mp hn) with
  | name hident => exact hident

/-- No property has the path of a name. -/
theorem path_attr_ne (hn : IsIdent n) : (attr target m).path ≠ n := by
  intro h
  refine notMem_of_isIdent hn (c := '.') (by decide) ?_
  have hpath : (attr target m).path = target.path ++ '.' :: m := rfl
  rw [← h, hpath]
  exact List.mem_append_right _ List.mem_cons_self

end Expr

end TripleQuote
