import TripleQuote.Proofs.Expr.Evaluation
import TripleQuote.Proofs.Expr.Splicing

/-! # Concatenation

Two sources with a plus sign between them spell the concatenation of their terms
(`parse_append_plus`). Its text is that of the first source followed by that of the second, and it
fails as the first of them that fails (`Expr.evaluate_append_plus`). -/

namespace TripleQuote

open Grammar (Sentence Term Terminal)

/-- The operands of a concatenation. Every other expression is a term by itself. -/
def Expr.terms : Expr → List Expr
  | concat operands => operands
  | e => [e]

variable {s₁ s₂ : Text} {e₁ e₂ : Expr}

/-! ## Sentences -/

namespace Grammar

theorem Term.terms_tree (term : Term) : term.tree.terms = [term.tree] := by
  obtain ⟨primary, accesses⟩ := term
  rcases List.eq_nil_or_concat accesses with rfl | ⟨accesses, access, rfl⟩
  · cases primary <;> rfl
  · have htree : Term.tree ⟨primary, accesses ++ [access]⟩ =
        access.apply (Term.tree ⟨primary, accesses⟩) :=
      Term.tree_push ⟨primary, accesses⟩ access
    rw [List.concat_eq_append, htree]
    cases access <;> rfl

theorem Sentence.terms_tree (d : Sentence) : d.tree.terms = d.trees := by
  obtain ⟨first, more⟩ := d
  cases more with
  | nil => exact first.terms_tree
  | cons operand more => rfl

theorem Sentence.tree_join (d : Sentence) (plus : Terminal .plus) (d' : Sentence) :
    (d.join plus d').tree = .concat (d.trees ++ d'.trees) := by
  rw [← d.trees_join plus d']
  apply tree_eq_concat
  rw [trees_join, List.length_append, trees, trees, List.length_cons, List.length_cons]
  omega

end Grammar

/-- A plus sign between two sources joins their terms. -/
theorem parse_append_plus (h₁ : Expr.parse s₁ = .ok e₁) (h₂ : Expr.parse s₂ = .ok e₂) :
    Expr.parse (s₁ ++ '+' :: s₂) = .ok (.concat (e₁.terms ++ e₂.terms)) := by
  have hplus : punctuation? '+' = some .plus := rfl
  have hend : Tokenized (0 + s₁.length + 1 + s₂.length) []
      [Token.endAt (s₁ ++ '+' :: s₂).length] := by
    have hlength : (s₁ ++ '+' :: s₂).length = 0 + s₁.length + 1 + s₂.length := by
      simp only [List.length_append, List.length_cons]
      omega
    rw [hlength]
    exact .finish
  obtain ⟨d₂, rfl, hd₂⟩ := exists_sentence_append_of_parse h₂ .nil hend
  -- The plus sign ends the last identifier of the first source.
  obtain ⟨d₁, rfl, hd₁⟩ := exists_sentence_append_of_parse h₁
    (.cons _ (isIdentChar_eq_false_of_punctuation hplus)) (.punctuation hplus hd₂)
  rw [d₁.terms_tree, d₂.terms_tree, ← d₁.tree_join ⟨⟨.plus, ['+'], 0 + s₁.length⟩, rfl⟩ d₂]
  refine parse_of_tokens (tokens_eq_ok_iff.mpr ?_)
  simpa [Sentence.yield_join] using hd₁

/-! ## Texts -/

namespace Expr

variable (enabled : List Method) (env : Env)

theorem evalAll_append (es es' : List Expr) :
    evalAll enabled env (es ++ es') = do
      return (← evalAll enabled env es) ++ (← evalAll enabled env es') := by
  induction es with
  | nil =>
    rw [List.nil_append, evalAll]
    cases evalAll enabled env es' with
    | error e => rfl
    | ok t => rfl
  | cons e es ih =>
    rw [List.cons_append, evalAll_cons, evalAll_cons, ih]
    simp only [bind_assoc, pure_bind, List.append_assoc]

/-- An expression has the text of its terms. -/
theorem bind_spell_eval (e : Expr) :
    (eval enabled env e).bind Value.spell = evalAll enabled env e.terms := by
  have hterm : (eval enabled env e).bind Value.spell = evalAll enabled env [e] := by
    rw [evalAll, evalAll]
    cases eval enabled env e with
    | error err => rfl
    | ok v =>
      change v.spell = (do return (← v.spell) ++ [])
      simp only [List.append_nil, bind_pure]
  cases e with
  | name | text | attr | call | hole => exact hterm
  | concat operands =>
    rw [eval_concat, terms]
    cases evalAll enabled env operands with
    | error err => rfl
    | ok t => rfl

theorem evaluate_of_parse {s : Text} {e : Expr} (h : parse s = .ok e) :
    evaluate enabled env s = evalAll enabled env e.terms := by
  rw [evaluate, parse_trim h]
  exact bind_spell_eval enabled env e

/-- The text of two sources with a plus sign between them is that of the first followed by that of
the second. -/
theorem evaluate_append_plus (h₁ : parse s₁ = .ok e₁) (h₂ : parse s₂ = .ok e₂) :
    evaluate enabled env (s₁ ++ '+' :: s₂) = do
      return (← evaluate enabled env s₁) ++ (← evaluate enabled env s₂) := by
  rw [evaluate_of_parse enabled env (parse_append_plus h₁ h₂), evaluate_of_parse enabled env h₁,
    evaluate_of_parse enabled env h₂, terms, evalAll_append]

end Expr

end TripleQuote
