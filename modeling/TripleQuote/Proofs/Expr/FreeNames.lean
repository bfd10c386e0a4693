import TripleQuote.Proofs.Expr.Nodes
import TripleQuote.Proofs.Expr.Spacing

/-! # Names among tokens

The names that an expression reads can be found without its tree: they are the identifiers among its
tokens that do not come directly behind a dot, each at its first use (`roots_eq_of_tokens`). -/

namespace TripleQuote

open Grammar (Terminal Term Access Sentence operandYield)

/-- The identifiers that do not come directly behind a dot. `dotted` says whether a dot comes before
the tokens. -/
def Token.freeNames (dotted : Bool) : List Token → List Text
  | [] => []
  | t :: ts =>
    match t.kind with
    | .ident => if dotted then freeNames false ts else t.value :: freeNames false ts
    | .dot => freeNames true ts
    | _ => freeNames false ts

/-! ## First uses -/

section

variable {α β : Type} [BEq α] [LawfulBEq α]

theorem filter_eraseDups (p : α → Bool) : ∀ l : List α,
    l.eraseDups.filter p = (l.filter p).eraseDups
  | [] => rfl
  | a :: l => by
    have ih := filter_eraseDups p (l.filter fun b => !b == a)
    rw [List.filter_comm] at ih
    rw [List.eraseDups_cons]
    cases ha : p a with
    | true => rw [List.filter_cons_of_pos ha, ih, List.filter_cons_of_pos ha, List.eraseDups_cons]
    | false =>
      have hne : ∀ b ∈ l.filter p, (!b == a) = true := by
        intro b hb
        rw [Bool.not_eq_true', beq_eq_false_iff_ne]
        rintro rfl
        simp [ha] at hb
      rw [List.filter_cons_of_neg (by simp [ha]), ih, List.filter_cons_of_neg (by simp [ha]),
        List.filter_eq_self.mpr hne]
termination_by l => l.length
decreasing_by
  exact Nat.lt_succ_of_le (List.length_filter_le ..)

theorem eraseDups_eraseDups : ∀ l : List α, l.eraseDups.eraseDups = l.eraseDups
  | [] => rfl
  | a :: l => by
    rw [List.eraseDups_cons, List.eraseDups_cons, filter_eraseDups, List.filter_filter]
    simp only [Bool.and_self]
    rw [eraseDups_eraseDups (l.filter fun b => !b == a)]
termination_by l => l.length
decreasing_by
  exact Nat.lt_succ_of_le (List.length_filter_le ..)

/-- The first uses in two lists can be found in each of them first. -/
theorem eraseDups_append_eraseDups (l l' : List α) :
    (l.eraseDups ++ l'.eraseDups).eraseDups = (l ++ l').eraseDups := by
  have hmem : ∀ a, l.eraseDups.elem a = l.elem a := by
    intro a
    rw [Bool.eq_iff_iff, List.elem_iff, List.elem_iff, List.mem_eraseDups]
  rw [List.eraseDups_append, List.eraseDups_append, eraseDups_eraseDups, List.removeAll,
    List.removeAll, ← filter_eraseDups, eraseDups_eraseDups, ← filter_eraseDups]
  simp only [hmem]

theorem eraseDups_flatMap_eraseDups (f : β → List α) (xs : List β) :
    (xs.flatMap fun x => (f x).eraseDups).eraseDups = (xs.flatMap f).eraseDups := by
  induction xs with
  | nil => rfl
  | cons x xs ih =>
    rw [List.flatMap_cons, List.flatMap_cons, ← eraseDups_append_eraseDups, eraseDups_eraseDups, ih,
      eraseDups_append_eraseDups]

end

namespace Expr

/-- The names that an expression reads are listed once. -/
theorem eraseDups_roots (e : Expr) : e.roots.eraseDups = e.roots := by
  induction e using Expr.induction with
  | name ident => rfl
  | text value | hole => rfl
  | attr target n ih | call target n ih => exact ih
  | concat operands => exact eraseDups_eraseDups _

end Expr

/-! ## The names of a sentence -/

namespace Grammar

theorem freeNames_terminal {kind : Token.Kind} (t : Terminal kind) (dotted : Bool)
    (ts : List Token) :
    Token.freeNames dotted (t.val :: ts) =
      (if kind = .ident ∧ dotted = false then [t.val.value] else []) ++
        Token.freeNames (kind = .dot) ts := by
  obtain ⟨⟨kind, value, position⟩, rfl⟩ := t
  cases kind with
  | ident => cases dotted <;> rfl
  | string | dot | plus | openParen | closeParen | finish => rfl

/-- The names behind the dots of a term are none of its own. -/
theorem freeNames_accesses (accesses : List Access) (ts : List Token) :
    Token.freeNames false (accesses.flatMap Access.yield ++ ts) = Token.freeNames false ts := by
  induction accesses with
  | nil => rfl
  | cons access accesses ih =>
    rw [List.flatMap_cons, List.append_assoc, ← ih]
    cases access with
    | property dot ident | method dot ident openParen closeParen =>
      simp [Access.yield, freeNames_terminal]

theorem roots_accesses (accesses : List Access) (e : Expr) :
    (accesses.foldl Access.apply e).roots = e.roots := by
  induction accesses generalizing e with
  | nil => rfl
  | cons access accesses ih =>
    rw [List.foldl_cons, ih]
    cases access <;> rfl

theorem freeNames_term (term : Term) (ts : List Token) :
    Token.freeNames false (term.yield ++ ts) = term.tree.roots ++ Token.freeNames false ts := by
  obtain ⟨primary, accesses⟩ := term
  rw [Term.yield, Term.tree, roots_accesses, List.cons_append]
  cases primary with
  | name ident =>
    rw [Primary.token, freeNames_terminal]
    exact congrArg _ (freeNames_accesses accesses ts)
  | text constant =>
    rw [Primary.token, freeNames_terminal]
    exact freeNames_accesses accesses ts

theorem freeNames_operands (more : List (Terminal .plus × Term)) (ts : List Token) :
    Token.freeNames false (more.flatMap operandYield ++ ts) =
      (more.map (·.2.tree)).flatMap Expr.roots ++ Token.freeNames false ts := by
  induction more with
  | nil => rfl
  | cons operand more ih =>
    rw [List.flatMap_cons, operandYield, List.append_assoc, List.cons_append, freeNames_terminal,
      List.map_cons, List.flatMap_cons, List.append_assoc, ← ih]
    exact freeNames_term operand.2 _

theorem freeNames_sentence (d : Sentence) (ts : List Token) :
    Token.freeNames false (d.yield ++ ts) =
      d.trees.flatMap Expr.roots ++ Token.freeNames false ts := by
  rw [Sentence.yield, List.append_assoc, freeNames_term, freeNames_operands, Sentence.trees,
    List.flatMap_cons, List.append_assoc]

/-- A sentence reads the names of its terms. -/
theorem roots_tree (d : Sentence) : d.tree.roots = (d.trees.flatMap Expr.roots).eraseDups := by
  obtain ⟨first, more⟩ := d
  cases more with
  | nil =>
    rw [Sentence.trees, List.map_nil, List.flatMap_singleton]
    exact (Expr.eraseDups_roots first.tree).symm
  | cons operand more => exact congrArg _ (Expr.rootsOf_eq_flatMap _)

end Grammar

/-! ## The names of sources -/

variable {s : Text} {e : Expr} {ts : List Token}

theorem roots_eq_of_tokens (h : Expr.parse s = .ok e) (hts : tokens s = .ok ts) :
    e.roots = (Token.freeNames false ts).eraseDups := by
  obtain ⟨d, htokens, rfl⟩ := exists_sentence_of_parse h
  cases hts.symm.trans htokens
  rw [Grammar.roots_tree, Grammar.freeNames_sentence, Token.freeNames, Token.freeNames,
    List.append_nil]

theorem exists_tokens_of_parse (h : Expr.parse s = .ok e) : ∃ ts, tokens s = .ok ts := by
  obtain ⟨d, htokens, -⟩ := exists_sentence_of_parse h
  exact ⟨_, htokens⟩

/-- The names are those that no dot comes directly before in the tokens of the sources, one source
after the other and each name at its first use. -/
def FirstUses (sources names : List Text) : Prop :=
  ∃ lists, List.Forall₂ (fun s ts => tokens s = .ok ts) sources lists ∧
    names = (lists.flatMap (Token.freeNames false)).eraseDups

/-- The names of several expressions are those in the tokens of their sources. -/
theorem firstUses_of_parse {sources : List Text} {found : List (List Text)}
    (h : List.Forall₂ (fun s roots => ∃ e, Expr.parse s = .ok e ∧ e.roots = roots) sources found) :
    FirstUses sources found.flatten.eraseDups := by
  have hlists : ∃ lists, List.Forall₂ (fun s ts => tokens s = .ok ts) sources lists ∧
      found = lists.map fun ts => (Token.freeNames false ts).eraseDups := by
    induction h with
    | nil => exact ⟨[], .nil, rfl⟩
    | cons hs _ ih =>
      obtain ⟨e, he, rfl⟩ := hs
      obtain ⟨ts, hts⟩ := exists_tokens_of_parse he
      obtain ⟨lists, hlists, rfl⟩ := ih
      exact ⟨ts :: lists, .cons hts hlists, by rw [List.map_cons, roots_eq_of_tokens he hts]⟩
  obtain ⟨lists, hlists, rfl⟩ := hlists
  refine ⟨lists, hlists, ?_⟩
  rw [← List.flatMap_def, eraseDups_flatMap_eraseDups]

end TripleQuote
