import TripleQuote.Proofs.Expr.Methods
import TripleQuote.Proofs.Expr.Writable
import TripleQuote.Proofs.Template.Names

/-! # Validated configurations

Options that are given as texts are checked when a template is made of them, and the keys of
bindings are checked when they are put together for a render (`Template.ofOptions`,
`Template.renderWith`).
What a configuration holds that has been read passes these checks: the template is made unless its
source is malformed, and a render fails with nothing but the errors of its expressions
(`Template.ofConfig_errors`). -/

namespace TripleQuote

/-! ## Options as texts -/

/-- Why no template is made of a source. -/
inductive Template.Refusal where
  /-- The text that is required as the quote is none. -/
  | quote (t : Text)
  | malformed (fault : Malformed)
  /-- The names that belong to no method. -/
  | methods (unknown : List Text)

/-- The quote that a text requires. -/
def Quote.require : Option Text → Except Text (Option Quote)
  | none => .ok none
  | some t => (Quote.ofText? t).elim (.error t) fun q => .ok (some q)

/-- The template of a source with the texts of a quote and of methods, each checked before it is
used. -/
def Template.ofOptions (quote : Option Text) (methods : List Text) (vars : Bindings)
    (source : Text) : Except Refusal Template := do
  let required ← (Quote.require quote).mapError .quote
  let segments ← (lex required source).mapError .malformed
  let enabled ← (Method.ofNames methods).mapError .methods
  return ⟨source, ⟨required, enabled, vars⟩, segments⟩

/-- The template of a source with the options that a configuration holds. -/
def Template.ofConfig (config : Config) (source : Text) : Except Refusal Template :=
  ofOptions (config.quote.map fun q => [q.char]) (config.methods.map Method.name) config.vars source

/-- Why a render gives no text. -/
inductive Template.Failure where
  /-- A key of the bindings is no name. -/
  | refused (refusal : Bindings.Refusal)
  | failed (error : RenderError)

/-- A render with bindings that are given as a map and by name. The keys of the defaults, of the map
and of both together are checked one after the other. -/
def Template.renderWith (t : Template) (values : List (Value × Value))
    (named : List (Text × Value)) : Except Failure Text := do
  let defaults ← (Bindings.build (Bindings.keyed t.config.vars.entries) []).mapError .refused
  let given ← (Bindings.build values named).mapError .refused
  let scope ← (defaults.mergeMap (Bindings.keyed given.entries)).mapError .refused
  (renderSegments t.config.methods scope.get? t.segments).mapError .failed

variable {config : Config} {source : Text} {t : Template}

theorem Quote.require_char (quote : Option Quote) :
    require (quote.map fun q => [q.char]) = .ok quote := by
  cases quote with
  | none => rfl
  | some q => rw [Option.map_some, require, ofText?, ofChar?_char]; rfl

theorem Method.ofNames_name (methods : List Method) :
    ofNames (methods.map name) = .ok methods := by
  have hknown : (methods.map name).filter (fun n => (ofName? n).isNone) = [] := by
    simp [List.filter_eq_nil_iff, ofName?_name]
  have hmethods : (methods.map name).filterMap ofName? = methods := by
    simp [List.filterMap_map, ofName?_name]
  simp only [ofNames, hknown, hmethods, List.isEmpty_nil, if_true]

/-- The defaults of a configuration that has been read have distinct names. -/
theorem Config.distinct_vars {value : Value} (h : ofValue value = .ok config) :
    config.vars.Distinct := by
  unfold ofValue at h
  split at h
  · simp only at h
    split at h
    · next hvars _ =>
      cases h
      unfold readVars at hvars
      split at hvars
      · cases hvars
        exact Bindings.distinct_empty
      · obtain ⟨named, _, hnamed⟩ := bind_eq_ok_iff.mp hvars
        cases hnamed
        exact Bindings.distinct_ofList
      · cases hvars
    · cases h
  · cases h

namespace Template

/-- The options of a configuration pass the checks of a template. -/
theorem ofConfig_eq (config : Config) (source : Text) :
    ofConfig config source = (ofSource config source).mapError .malformed := by
  cases hlex : lex config.quote source with
  | ok segments | error fault =>
    simp only [ofConfig, ofOptions, Quote.require_char, Method.ofNames_name, ofSource,
      Except.mapError, bind, Except.bind, pure, Except.pure, hlex]

/-- Bindings whose keys are names are never refused. -/
theorem renderWith_keyed (h : t.config.vars.Distinct) (values named : List (Text × Value)) :
    t.renderWith (Bindings.keyed values) named =
      (t.render ((Bindings.ofList values).insertAll named)).mapError .failed := by
  have hdefaults : (Bindings.ofList t.config.vars.entries).insertAll [] = t.config.vars :=
    Bindings.ofList_entries h
  simp only [renderWith, Bindings.build_keyed, hdefaults, Bindings.mergeMap_keyed,
    Except.mapError, bind, Except.bind]
  rfl

/-! ## What remains to fail -/

theorem ne_noTokens_of_identifiers {error : SyntaxError} (h : t.identifiers = .error error) :
    error.cause ≠ .noTokens := by
  obtain ⟨_, s, _, _, _, hparse⟩ := identifiers_eq_error_iff.mp h
  exact ne_noTokens_of_parse hparse

end Template

/-- The errors that an expression can be blamed for. -/
inductive EvalError.OfExpression : EvalError → Prop where
  | unbound (path : Text) : OfExpression (.unbound path)
  | unsupported (method : Text) : OfExpression (.unsupported method)
  | badSyntax (h : error.cause ≠ .noTokens) : OfExpression (.badSyntax error)

theorem Expr.ofExpression_of_evaluate {methods : List Method} {env : Env} {err : EvalError}
    (henv : ∀ n v, env n = some v → v.writable = true)
    (hlength : ¬ TakesLongLength methods env source)
    (h : evaluate methods env source = .error err) : err.OfExpression := by
  cases err with
  | unbound path => exact .unbound path
  | unsupported method => exact .unsupported method
  | badSyntax error => exact .badSyntax (ne_noTokens_of_parse (parse_of_evaluate_badSyntax h))
  | hole => exact absurd h evaluate_ne_hole
  | unwritable => exact absurd (takesLongLength_of_evaluate henv h) hlength

namespace Template

/-- The values that a render can look up are those of the defaults and those that are given. -/
theorem mem_of_get?_scope {values named : List (Text × Value)} {n : Text} {v : Value}
    (h : (t.scope ((Bindings.ofList values).insertAll named)).get? n = some v) :
    (n, v) ∈ t.config.vars.entries ++ values ++ named := by
  rw [get?_scope Bindings.distinct_ofList.insertAll, Option.or_eq_some_iff] at h
  simp only [List.mem_append]
  rcases h with hgiven | ⟨_, hdefault⟩
  · rcases Bindings.get?_insertAll_eq_some hgiven with hnamed | hvalues
    · exact .inr hnamed
    · rcases Bindings.get?_insertAll_eq_some hvalues with hvalues | hempty
      · exact .inl (.inr hvalues)
      · cases hempty
  · exact .inl (.inl (Ordered.mem_of_get? hdefault))

/-- A configuration that has been read leaves a template no errors but its own. Its quote and its
methods are never refused: the template is made unless the source is malformed, and each method that
it enables is found by its name. Its names can be listed unless an expression cannot be parsed. With
further bindings under names, where each number that is bound can be written out and no expression
takes a length that is too long for that, a render gives a text or fails with a name or property
that is missing, a method that is not enabled or an expression that cannot be parsed. -/
theorem ofConfig_errors {value : Value} (h : Config.ofValue value = .ok config) (source : Text) :
    (∃ fault, ofConfig config source = .error (.malformed fault)) ∨
      ∃ t, ofConfig config source = .ok t ∧ ofSource config source = .ok t ∧
        (∀ method ∈ t.config.methods, Method.ofName? method.name = some method) ∧
        ((∃ names, t.identifiers = .ok names) ∨
          ∃ error, t.identifiers = .error error ∧ error.cause ≠ .noTokens) ∧
        ∀ values named : List (Text × Value),
          (∀ entry ∈ config.vars.entries ++ values ++ named, entry.2.writable = true) →
          (∀ offset span, .interpolation offset span ∈ t.segments →
            ¬ Expr.TakesLongLength config.methods
              (t.scope ((Bindings.ofList values).insertAll named)).get? span) →
          (∃ text, t.renderWith (Bindings.keyed values) named = .ok text) ∨
            ∃ error, t.renderWith (Bindings.keyed values) named = .error (.failed error) ∧
              error.error.OfExpression := by
  rw [ofConfig_eq]
  cases ht : ofSource config source with
  | error fault => exact .inl ⟨fault, rfl⟩
  | ok t =>
    obtain ⟨segments, _, rfl⟩ := ofSource_eq_ok_iff.mp ht
    refine .inr ⟨_, rfl, rfl, fun method _ => method.ofName?_name, ?_,
      fun values named hwritable hlength => ?_⟩
    · cases hnames : identifiers ⟨source, config, segments⟩ with
      | ok names => exact .inl ⟨names, rfl⟩
      | error error => exact .inr ⟨error, rfl, ne_noTokens_of_identifiers hnames⟩
    · rw [renderWith_keyed (Config.distinct_vars h)]
      cases hr : render ⟨source, config, segments⟩ ((Bindings.ofList values).insertAll named) with
      | ok text => exact .inl ⟨text, rfl⟩
      | error error =>
        obtain ⟨_, span, _, hsegments, _, hspan⟩ := renderSegments_eq_error_iff.mp hr
        refine .inr ⟨error, rfl, Expr.ofExpression_of_evaluate (fun n v hv => ?_) ?_ hspan⟩
        · exact hwritable _ (mem_of_get?_scope hv)
        · have hmem : .interpolation error.offset span ∈ segments := by
            rw [show segments = _ from hsegments]
            simp
          exact hlength error.offset span hmem

/-- A default, a method and a name that is given are read, and a property is missing. -/
theorem ofConfig_errors_property :
    let value : Value := .map [(.text "quote", .text ['\'']),
      (.text "methods", .list [.text "trim"]), (.text "vars", .map [(.text ['a'], .int 1)])]
    let config : Config := ⟨some .single, [.trim], ⟨[("a", .int 1)]⟩⟩
    Config.ofValue value = .ok config ∧
      ∃ t error, ofConfig config "'''$\x7ba.trim()\x7d$\x7bb.x\x7d'''" = .ok t ∧
        t.renderWith (Bindings.keyed [("b", .text ['y'])]) [] = .error (.failed error) ∧
          error.error.OfExpression := by
  intro value config
  have h : Config.ofValue value = .ok config := rfl
  have ht : ofSource config "'''$\x7ba.trim()\x7d$\x7bb.x\x7d'''" =
      .ok ⟨"'''$\x7ba.trim()\x7d$\x7bb.x\x7d'''", config,
        [.interpolation 5 "a.trim()", .interpolation 16 "b.x"]⟩ :=
    ofSource_of_meets .single [.span "a.trim()", .span "b.x"] (by decide)
      ⟨.span (by decide) rfl, .span (by decide) rfl, trivial⟩
  have hlength : ∀ offset span, .interpolation offset span ∈
      [Segment.interpolation 5 "a.trim()", .interpolation 16 "b.x"] →
        ¬ Expr.TakesLongLength [.trim] (Bindings.get? ⟨[("a", .int 1), ("b", .text ['y'])]⟩)
          span := by
    intro offset span hs ⟨e, target, n, u, he, hnode, hu, hlong⟩
    have hcall : Expr.parse (Text.trim "a.trim()") = .ok (.call (.name ['a']) "trim") := rfl
    have hproperty : Expr.parse (Text.trim "b.x") = .ok (.attr (.name ['b']) ['x']) := rfl
    simp only [List.mem_cons, List.not_mem_nil, Segment.interpolation.injEq, or_false] at hs
    rcases hs with ⟨rfl, rfl⟩ | ⟨rfl, rfl⟩
    · cases hcall.symm.trans he
      simp [Expr.nodes] at hnode
    · cases hproperty.symm.trans he
      simp only [Expr.nodes, List.mem_append, List.mem_singleton, reduceCtorEq, false_or,
        Expr.attr.injEq] at hnode
      obtain ⟨rfl, rfl⟩ := hnode
      cases hu
      exact absurd hlong (Nat.not_le.mpr (isWritable_iff.mp (rfl : isWritable 1 = true)))
  rcases ofConfig_errors h "'''$\x7ba.trim()\x7d$\x7bb.x\x7d'''" with
    ⟨fault, hfault⟩ | ⟨t, hmade, hsource, -, -, hrender⟩
  · rw [ofConfig_eq, ht] at hfault
    cases hfault
  · cases ht.symm.trans hsource
    rcases hrender [("b", .text ['y'])] [] (by decide) hlength with
      ⟨text, htext⟩ | ⟨error, herror, hkind⟩
    · cases htext
    · exact ⟨h, _, error, hmade, herror, hkind⟩

end Template

end TripleQuote
