import TripleQuote.Proofs.Expr.Concatenation
import TripleQuote.Proofs.Template.Rendering

/-! # Adjacent interpolations

A body that is made of interpolations renders to the texts of their sources in a row, or fails as
the first of them does (`Template.exists_of_sources`). Two of them next to each other come to the
same as one with a plus sign between their sources (`plus_joins_texts`). -/

namespace TripleQuote

/-- A template with the body `body`. -/
def Quote.enclose (q : Quote) (body : Text) : Text := q.delimiter ++ (body ++ q.delimiter)

/-- A source as it is written in the body of a template. -/
def Text.interpolated (s : Text) : Text := '$' :: '{' :: (s ++ ['}'])

/-- Whether two templates render to the same texts and fail with the same errors, except for the
offsets of the errors. -/
def Template.RendersAlike (t t' : Template) : Prop :=
  ∀ b, (t.render b).mapError RenderError.error = (t'.render b).mapError RenderError.error

variable {s₁ s₂ : Text} {e₁ e₂ : Expr} {sources : List Text} {q : Quote}

namespace Piece

theorem spell_spans (q : Quote) (sources : List Text) :
    spell q (sources.map span) = sources.flatMap Text.interpolated := by
  induction sources with
  | nil => rfl
  | cons s sources ih =>
    rw [List.map_cons, spell_cons, ih]
    rfl

theorem allFit_spans (h : ∀ s ∈ sources, '}' ∉ s ∧ Text.blank s = false) (rest : Text) :
    AllFit q (sources.map span) rest := by
  induction sources with
  | nil => trivial
  | cons s sources ih =>
    obtain ⟨⟨hclose, hblank⟩, hmore⟩ := List.forall_mem_cons.mp h
    exact ⟨.span hclose hblank, ih hmore⟩

end Piece

namespace Template

theorem renderSegments_interpolation (methods : List Method) (env : Env) (pos : Nat) (s : Text)
    (rest : List Segment) :
    (renderSegments methods env (.interpolation pos s :: rest)).mapError RenderError.error = do
      return (← Expr.evaluate methods env s) ++
        (← (renderSegments methods env rest).mapError RenderError.error) := by
  rw [renderSegments, renderSegment]
  cases Expr.evaluate methods env s with
  | error err => rfl
  | ok text =>
    cases renderSegments methods env rest with
    | error err => rfl
    | ok more => rfl

/-- Apart from the offset of a failure, spans are rendered by evaluating their sources. -/
theorem renderSegments_spans (methods : List Method) (env : Env) (q : Quote) (pos : Nat)
    (sources : List Text) :
    (renderSegments methods env
        (Segment.assemble q (Piece.place q pos (sources.map .span)) [])).mapError
      RenderError.error = (sources.mapM (Expr.evaluate methods env)).map List.flatten := by
  induction sources generalizing pos with
  | nil => rfl
  | cons s sources ih =>
    change (renderSegments methods env (.interpolation (pos + 2) s ::
      Segment.assemble q (Piece.place q _ (sources.map .span)) [])).mapError _ = _
    rw [renderSegments_interpolation, ih, List.mapM_cons]
    cases Expr.evaluate methods env s with
    | error err => rfl
    | ok text =>
      cases sources.mapM (Expr.evaluate methods env) with
      | error err => rfl
      | ok texts => rfl

/-- The template of sources next to each other. -/
theorem exists_of_sources {config : Config} (hquote : ∀ r ∈ config.quote, q = r)
    (h : ∀ s ∈ sources, '}' ∉ s ∧ Text.blank s = false) :
    ∃ t, ofSource config (q.enclose (sources.flatMap Text.interpolated)) = .ok t ∧
      ∀ b, (t.render b).mapError RenderError.error =
        (sources.mapM (Expr.evaluate config.methods (config.vars.merge b).get?)).map
          List.flatten := by
  rw [Quote.enclose, ← Piece.spell_spans q]
  exact ⟨_, ofSource_of_meets q _ hquote (Piece.allFit_spans h _), fun b =>
    renderSegments_spans config.methods (config.vars.merge b).get? q 3 sources⟩

end Template

/-- A plus sign between two sources joins their terms, and their texts: the concatenation has the
text of the first source followed by that of the second, and fails as the first of them that fails.
So it makes no difference to a template whether it has the two next to each other or joined. -/
theorem plus_joins_texts (h₁ : Expr.parse s₁ = .ok e₁) (h₂ : Expr.parse s₂ = .ok e₂) :
    Expr.parse (s₁ ++ '+' :: s₂) = .ok (.concat (e₁.terms ++ e₂.terms)) ∧
    (∀ enabled env, Expr.evaluate enabled env (s₁ ++ '+' :: s₂) = do
      return (← Expr.evaluate enabled env s₁) ++ (← Expr.evaluate enabled env s₂)) ∧
    ('}' ∉ s₁ → '}' ∉ s₂ → ∀ (config : Config) (q : Quote), (∀ r ∈ config.quote, q = r) →
      ∃ t t', Template.ofSource config (q.enclose (s₁.interpolated ++ s₂.interpolated)) = .ok t ∧
        Template.ofSource config (q.enclose (s₁ ++ '+' :: s₂).interpolated) = .ok t' ∧
          t.RendersAlike t') := by
  have hparse := parse_append_plus h₁ h₂
  have hevaluate := fun enabled env => Expr.evaluate_append_plus enabled env h₁ h₂
  refine ⟨hparse, hevaluate, fun hclose₁ hclose₂ config q hquote => ?_⟩
  have hsources : ∀ s ∈ [s₁, s₂], '}' ∉ s ∧ Text.blank s = false := by
    simp [hclose₁, hclose₂, blank_eq_false_of_parse h₁, blank_eq_false_of_parse h₂]
  have hjoined : ∀ s ∈ [s₁ ++ '+' :: s₂], '}' ∉ s ∧ Text.blank s = false := by
    simp [hclose₁, hclose₂, blank_eq_false_of_parse hparse]
  obtain ⟨t, ht, hrender⟩ := Template.exists_of_sources hquote hsources
  obtain ⟨t', ht', hrender'⟩ := Template.exists_of_sources hquote hjoined
  refine ⟨t, t', by simpa using ht, by simpa using ht', fun b => ?_⟩
  rw [hrender, hrender']
  simp only [List.mapM_cons, List.mapM_nil, hevaluate]
  cases Expr.evaluate config.methods (config.vars.merge b).get? s₁ with
  | error err => rfl
  | ok text =>
    cases Expr.evaluate config.methods (config.vars.merge b).get? s₂ with
    | error err => rfl
    | ok more => simp [bind, Except.bind, pure, Except.pure, Except.map]

/-- A name joined with a concatenation. -/
theorem plus_joins_name_and_sum :
    Expr.parse "a +b+'c'" = .ok (.concat [.name ['a'], .name ['b'], .text ['c']]) ∧
      ∃ t t', Template.ofSource .default "'''$\x7ba \x7d$\x7bb+'c'\x7d'''" = .ok t ∧
        Template.ofSource .default "'''$\x7ba +b+'c'\x7d'''" = .ok t' ∧
          t.RendersAlike t' := by
  have h₁ : Expr.parse "a " = .ok (.name ['a']) := rfl
  have h₂ : Expr.parse "b+'c'" = .ok (.concat [.name ['b'], .text ['c']]) := rfl
  have hquote : ∀ r ∈ Config.default.quote, Quote.single = r := by
    intro r hr
    cases hr
  obtain ⟨hparse, -, hrender⟩ := plus_joins_texts h₁ h₂
  exact ⟨hparse, hrender (by simp) (by simp) .default .single hquote⟩

end TripleQuote
