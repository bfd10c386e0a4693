import TripleQuote.Command.Run
import TripleQuote.Proofs.Template.Names

/-! # Missing names

Before it renders, the command looks up each name of the template in the assignments, in the file
of bindings and in the configuration. The names that it misses are those that are unbound in the
render (`RenderRequest.missing_eq`), which fails if there are any
(`Template.identifiers_are_needed`). -/

namespace TripleQuote

variable {r : RenderRequest} {t : Template} {b : Bindings} {names : List Text} {n : Text}
  {named : List (Text × Value)}

namespace RenderRequest

theorem bindings_keyed (r : RenderRequest) (named : List (Text × Value)) :
    r.bindings (Bindings.keyed named) =
      .ok ((Bindings.ofList named).merge (assignedBindings r.assignments)) :=
  Bindings.build_keyed named _

/-- The sources of the bindings bind the names that are bound in the render. -/
theorem contains_scope (hb : r.bindings (Bindings.keyed named) = .ok b) :
    (t.scope b).contains n =
      ((assignedBindings r.assignments).contains n ||
        (Value.entry? n (Bindings.keyed named)).isSome || t.config.vars.contains n) := by
  rw [bindings_keyed, Except.ok.injEq] at hb
  subst hb
  have hnamed : n ∈ (Bindings.ofList named).names ↔ n ∈ named.map (·.1) := by
    rw [Bindings.ofList, Bindings.mem_names_insertAll]
    exact or_iff_left List.not_mem_nil
  rw [Bool.eq_iff_iff, Bool.or_eq_true, Bool.or_eq_true, Bindings.entry?_keyed,
    Ordered.isSome_get?, Bindings.contains_iff, Bindings.contains_iff, Bindings.contains_iff,
    Template.scope, Bindings.mem_names_merge, Bindings.mem_names_merge, hnamed]

/-- The missing names are those of the template that are unbound in the render. -/
theorem missing_eq (hb : r.bindings (Bindings.keyed named) = .ok b) :
    r.missing (Bindings.keyed named) t.config names =
      names.filter fun n => !(t.scope b).contains n := by
  rw [missing]
  exact List.filter_congr fun n _ => by rw [contains_scope hb]

end RenderRequest

namespace Template

/-- A render does not succeed unless it has all declared names. -/
theorem exists_error_of_unbound (h : t.identifiers = .ok names)
    (hn : (names.filter fun n => !(t.scope b).contains n) ≠ []) :
    ∃ error, t.render b = .error error := by
  obtain ⟨n, hn⟩ := List.exists_mem_of_ne_nil _ hn
  obtain ⟨hn, hunbound⟩ := List.mem_filter.mp hn
  cases hr : t.render b with
  | error error => exact ⟨error, rfl⟩
  | ok out => simp [contains_of_render h hr n hn] at hunbound

/-- The declared names are those that a render needs. All of them are bound in a render that
succeeds, and where all of them are bound, what is unbound is a property, whose path is none of
them. What the command misses of them, in a file of bindings whose keys are texts, is what is
unbound in its render, and that fails if anything is missing. -/
theorem identifiers_are_needed (h : t.identifiers = .ok names) :
    (∀ b out, t.render b = .ok out → ∀ n ∈ names, (t.scope b).contains n = true) ∧
    (∀ b, (∀ n ∈ names, (t.scope b).contains n = true) →
      ∀ path pos, t.render b = .error ⟨.unbound path, pos⟩ →
        t.LacksProperty b pos path ∧ path ∉ names) ∧
    ∀ (r : RenderRequest) (entries : List (Value × Value)),
      (∀ entry ∈ entries, ∃ key, entry.1 = .text key) →
        ∃ b, r.bindings entries = .ok b ∧
          r.missing entries t.config names = (names.filter fun n => !(t.scope b).contains n) ∧
          (r.missing entries t.config names ≠ [] → ∃ error, t.render b = .error error) := by
  refine ⟨fun b out hr => contains_of_render h hr, fun b hb path pos hr => ?_, ?_⟩
  · have hlacks := lacksProperty_of_render h hb hr
    refine ⟨hlacks, fun hpath => ?_⟩
    obtain ⟨_, _, _, _, _, _, _, _, heq, _⟩ := hlacks
    exact Expr.path_attr_ne (isIdent_of_mem_identifiers h hpath) heq
  · intro r entries hentries
    obtain ⟨named, rfl⟩ := Bindings.exists_keyed hentries
    have hb := r.bindings_keyed named
    have hmissing : r.missing (Bindings.keyed named) t.config names = _ :=
      RenderRequest.missing_eq hb
    refine ⟨_, hb, hmissing, fun hne => ?_⟩
    rw [hmissing] at hne
    exact exists_error_of_unbound h hne

/-- A property of a number is missing although the number is bound. -/
theorem lacksProperty_of_number :
    ∃ t names, ofSource .default "'''$\x7ba.x\x7d'''" = .ok t ∧ t.identifiers = .ok names ∧
      t.render ⟨[("a", .int 1)]⟩ = .error ⟨.unbound "a.x", 5⟩ ∧
        t.LacksProperty ⟨[("a", .int 1)]⟩ 5 "a.x" ∧ "a.x".toList ∉ names := by
  have ht : ofSource .default "'''$\x7ba.x\x7d'''" =
      .ok ⟨"'''$\x7ba.x\x7d'''", .default, [.interpolation 5 "a.x"]⟩ :=
    ofSource_of_allFit rfl .single [.span "a.x"] ⟨.span (by decide) rfl, trivial⟩
  have h : identifiers ⟨"'''$\x7ba.x\x7d'''", .default, [.interpolation 5 "a.x"]⟩ =
      .ok [['a']] := rfl
  have hr : render ⟨"'''$\x7ba.x\x7d'''", .default, [.interpolation 5 "a.x"]⟩
      ⟨[("a", .int 1)]⟩ = .error ⟨.unbound "a.x", 5⟩ := rfl
  have hlacks := (identifiers_are_needed h).2.1 ⟨[("a", .int 1)]⟩ (by decide) "a.x" 5 hr
  exact ⟨_, _, ht, h, hr, hlacks⟩

end Template

end TripleQuote
