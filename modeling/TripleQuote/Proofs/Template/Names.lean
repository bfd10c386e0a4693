import TripleQuote.Proofs.Bindings.Lookup
import TripleQuote.Proofs.Expr.Evaluation
import TripleQuote.Proofs.Expr.Paths
import TripleQuote.Proofs.Template.Rendering

/-! # The names of a template

A render needs the names that the template declares: without one of them it fails
(`Template.contains_of_render`), and with all of them it lacks nothing but properties
(`Template.lacksProperty_of_render`). It looks up no other names: two renders in which the declared
names stand for the same values have the same outcome (`Template.render_eq_of_agree`). -/

namespace TripleQuote.Template

variable {t t' : Template} {names : List Text} {n source out : Text} {pos : Nat} {b b' : Bindings}

theorem identifiers_eq_ok_iff :
    t.identifiers = .ok names ↔
      ∃ found, List.Forall₂ (fun (source : Text) roots =>
          ∃ e, Expr.parse source.trim = .ok e ∧ e.roots = roots)
        (t.segments.filterMap Segment.source?) found ∧ found.flatten.eraseDups = names := by
  simp only [identifiers, bind_eq_ok_iff, mapM_eq_ok_iff, map_eq_ok_iff, pure, Except.pure,
    Except.ok.injEq]

/-- A template has no list of names if an expression cannot be parsed. The first of them gives the
error. -/
theorem identifiers_eq_error_iff {error : SyntaxError} :
    t.identifiers = .error error ↔
      ∃ before source after, t.segments.filterMap Segment.source? = before ++ source :: after ∧
        (∀ s ∈ before, ∃ e, Expr.parse s.trim = .ok e) ∧ Expr.parse source.trim = .error error := by
  simp only [identifiers, bind_eq_error_iff, mapM_eq_error_iff, map_eq_error_iff,
    exists_map_eq_ok_iff, pure, Except.pure, reduceCtorEq, and_false, exists_false, or_false]

theorem mem_sources_iff :
    source ∈ t.segments.filterMap Segment.source? ↔
      ∃ pos, .interpolation pos source ∈ t.segments := by
  rw [List.mem_filterMap]
  constructor
  · rintro ⟨s, hs, hsource⟩
    cases s with
    | literal pos text => cases hsource
    | interpolation pos source =>
      cases hsource
      exact ⟨pos, hs⟩
  · rintro ⟨pos, hs⟩
    exact ⟨_, hs, rfl⟩

/-- The expressions of a template can be parsed if it has a list of names, which holds theirs. -/
theorem exists_parse_of_identifiers (h : t.identifiers = .ok names)
    (hs : .interpolation pos source ∈ t.segments) :
    ∃ e, Expr.parse source.trim = .ok e ∧ ∀ n ∈ e.roots, n ∈ names := by
  obtain ⟨found, hfound, rfl⟩ := identifiers_eq_ok_iff.mp h
  obtain ⟨roots, hroots, e, he, rfl⟩ :=
    exists_mem_of_forall₂ hfound source (mem_sources_iff.mpr ⟨pos, hs⟩)
  exact ⟨e, he, fun n hn => List.mem_eraseDups.mpr (List.mem_flatten.mpr ⟨_, hroots, hn⟩)⟩

theorem exists_identifiers_iff :
    (∃ names, t.identifiers = .ok names) ↔
      ∀ pos source, .interpolation pos source ∈ t.segments →
        ∃ e, Expr.parse source.trim = .ok e := by
  constructor
  · rintro ⟨names, h⟩ pos source hs
    obtain ⟨e, he, _⟩ := exists_parse_of_identifiers h hs
    exact ⟨e, he⟩
  · intro h
    cases hnames : t.identifiers with
    | ok names => exact ⟨names, rfl⟩
    | error error =>
      obtain ⟨before, source, after, hsources, _, herror⟩ := identifiers_eq_error_iff.mp hnames
      obtain ⟨pos, hs⟩ := mem_sources_iff.mp (hsources ▸ List.mem_append_right _ List.mem_cons_self)
      obtain ⟨e, he⟩ := h pos source hs
      cases he.symm.trans herror

/-- Each declared name is a name of an expression. -/
theorem exists_span_of_mem_identifiers (h : t.identifiers = .ok names) (hn : n ∈ names) :
    ∃ pos source e, .interpolation pos source ∈ t.segments ∧ Expr.parse source.trim = .ok e ∧
      n ∈ e.roots := by
  obtain ⟨found, hfound, rfl⟩ := identifiers_eq_ok_iff.mp h
  obtain ⟨roots, hroots, hn⟩ := List.mem_flatten.mp (List.mem_eraseDups.mp hn)
  obtain ⟨source, hsource, e, he, rfl⟩ := exists_mem_of_forall₂ hfound.flip roots hroots
  obtain ⟨pos, hs⟩ := mem_sources_iff.mp hsource
  exact ⟨pos, source, e, hs, he, hn⟩

theorem isIdent_of_mem_identifiers (h : t.identifiers = .ok names) (hn : n ∈ names) :
    IsIdent n := by
  obtain ⟨_, _, e, _, he, hn⟩ := exists_span_of_mem_identifiers h hn
  exact Expr.isIdent_of_mem_roots he hn

/-! ## What a render needs -/

theorem contains_of_eval {methods : List Method} {e : Expr} {v : Value}
    (h : Expr.eval methods b.get? e = .ok v) (hn : n ∈ e.roots) : b.contains n = true := by
  obtain ⟨w, hw⟩ := Expr.exists_value_of_mem_nodes h _ (Expr.mem_roots_iff.mp hn)
  rw [Bindings.contains, Expr.eval_name_eq_ok_iff.mp hw]
  rfl

/-- A render that succeeds has all declared names bound. -/
theorem contains_of_render (h : t.identifiers = .ok names) (hr : t.render b = .ok out) :
    ∀ n ∈ names, (t.scope b).contains n = true := by
  intro n hn
  obtain ⟨pos, source, e, hs, he, hn⟩ := exists_span_of_mem_identifiers h hn
  obtain ⟨text, hsource⟩ := exists_text_of_render hr hs
  obtain ⟨e', he', v, hv, _⟩ := Expr.evaluate_eq_ok_iff.mp hsource
  cases he.symm.trans he'
  exact contains_of_eval hv hn

/-- The expression at `pos` takes a property that its target does not have. The property is named
by its path. -/
def LacksProperty (t : Template) (b : Bindings) (pos : Nat) (path : Text) : Prop :=
  ∃ source e target n v, .interpolation pos source ∈ t.segments ∧
    Expr.parse source.trim = .ok e ∧ .attr target n ∈ e.nodes ∧ (Expr.attr target n).path = path ∧
      Expr.eval t.config.methods (t.scope b).get? target = .ok v ∧ v.property? n = none

/-- With all declared names bound, only properties can be missing. -/
theorem lacksProperty_of_render {path : Text} (h : t.identifiers = .ok names)
    (hb : ∀ n ∈ names, (t.scope b).contains n = true)
    (hr : t.render b = .error ⟨.unbound path, pos⟩) : t.LacksProperty b pos path := by
  obtain ⟨before, source, after, hsegments, _, hsource⟩ := renderSegments_eq_error_iff.mp hr
  have hs : .interpolation pos source ∈ t.segments := by simp [hsegments]
  obtain ⟨e, he, hroots⟩ := exists_parse_of_identifiers h hs
  rcases Expr.evaluate_eq_error_iff.mp hsource with ⟨_, _, herror⟩ | ⟨e', he', heval⟩
  · cases herror
  · cases he.symm.trans he'
    rcases heval with heval | ⟨v, _, hspell⟩
    · obtain ⟨d, hfirst⟩ := Expr.exists_faulty_of_eval heval (by simp)
      obtain ⟨_, _, _, _, hfaulty⟩ := id hfirst
      cases hfaulty with
      | name hnone =>
        have hbound := hb path (hroots path (Expr.mem_roots_iff.mpr hfirst.mem))
        rw [Bindings.contains, hnone] at hbound
        cases hbound
      | attr ht hn => exact ⟨source, e, _, _, _, hs, he, hfirst.mem, rfl, ht, hn⟩
    · cases Value.eq_unwritable_of_spell hspell

/-! ## Two renders -/

theorem renderSegments_congr {methods : List Method} {env env' : Env} {segments : List Segment}
    (h : ∀ pos source, .interpolation pos source ∈ segments →
      Expr.evaluate methods env source = Expr.evaluate methods env' source) :
    renderSegments methods env segments = renderSegments methods env' segments := by
  induction segments with
  | nil => rfl
  | cons s segments ih =>
    have hmore := ih fun pos source hs => h pos source (List.mem_cons_of_mem s hs)
    have hs : renderSegment methods env s = renderSegment methods env' s := by
      cases s with
      | literal pos text => rfl
      | interpolation pos source =>
        rw [renderSegment, renderSegment, h pos source List.mem_cons_self]
    rw [renderSegments, renderSegments, hs, hmore]

theorem render_congr (h : t.identifiers = .ok names) (hsegments : t.segments = t'.segments)
    (hmethods : t.config.methods = t'.config.methods)
    (hagree : ∀ n ∈ names, (t.scope b).get? n = (t'.scope b').get? n) :
    t.render b = t'.render b' := by
  rw [render, render, ← hsegments, ← hmethods]
  refine renderSegments_congr fun pos source hs => ?_
  obtain ⟨e, he, hroots⟩ := exists_parse_of_identifiers h hs
  exact Expr.evaluate_congr he fun n hn => hagree n (hroots n hn)

theorem get?_scope (hb : b.Distinct) : (t.scope b).get? n = (b.get? n).or (t.config.vars.get? n) :=
  Bindings.get?_merge hb

/-- Renders of one template under defaults `vars` and `vars'`, with values and named values to
override them, have the same outcome if the names of the template stand for the same values in
both, or for none. It is enough that the defaults, the values and the named values under these names
are the same. -/
theorem render_eq_of_agree {quote : Option Quote} {methods : List Method} {vars vars' : Bindings}
    {s : Text} (ht : ofSource ⟨quote, methods, vars⟩ s = .ok t)
    (ht' : ofSource ⟨quote, methods, vars'⟩ s = .ok t') (h : t.identifiers = .ok names)
    (values values' named named' : List (Text × Value)) :
    ∃ b b', Bindings.build (Bindings.keyed values) named = .ok b ∧
      Bindings.build (Bindings.keyed values') named' = .ok b' ∧
        ((∀ n ∈ names, (t.scope b).get? n = (t'.scope b').get? n) → t.render b = t'.render b') ∧
          (Bindings.SameOn names vars.entries vars'.entries →
            Bindings.SameOn names values values' → Bindings.SameOn names named named' →
              t.render b = t'.render b') := by
  refine ⟨_, _, Bindings.build_keyed values named, Bindings.build_keyed values' named', ?_⟩
  obtain ⟨segments, hsegments, rfl⟩ := ofSource_eq_ok_iff.mp ht
  obtain ⟨segments', hsegments', rfl⟩ := ofSource_eq_ok_iff.mp ht'
  cases hsegments.symm.trans hsegments'
  refine ⟨fun hagree => render_congr h rfl rfl hagree, fun hvars hvalues hnamed => ?_⟩
  refine render_congr h rfl rfl fun n hn => ?_
  have hb := Bindings.get?_insertAll_congr hnamed hn
    (Bindings.get?_insertAll_congr (b := .empty) hvalues hn rfl)
  rw [get?_scope Bindings.distinct_ofList.insertAll, get?_scope Bindings.distinct_ofList.insertAll,
    Bindings.get?_congr hvars hn, Bindings.ofList, Bindings.ofList, hb]

/-- A default and a value under names that the template does not declare make no difference. -/
theorem render_eq_of_unread :
    ∃ t t' b b', ofSource .default "'''a$\x7bb\x7d'''" = .ok t ∧
      ofSource ⟨none, Method.all, ⟨[("d", .null)]⟩⟩ "'''a$\x7bb\x7d'''" = .ok t' ∧
        Bindings.build (Bindings.keyed [("b", .int 1)]) [] = .ok b ∧
          Bindings.build (Bindings.keyed [("c", .int 2), ("b", .int 1)]) [] = .ok b' ∧
            t.render b = t'.render b' := by
  have hfits : Piece.AllFit .single [.char 'a', .span ['b']] (Quote.delimiter .single) :=
    ⟨.char (by decide) (by decide) (by decide), .span (by decide) rfl, trivial⟩
  have ht : ofSource .default "'''a$\x7bb\x7d'''" =
      .ok ⟨"'''a$\x7bb\x7d'''", .default, [.literal 3 ['a'], .interpolation 6 ['b']]⟩ :=
    ofSource_of_allFit rfl .single [.char 'a', .span ['b']] hfits
  have ht' : ofSource ⟨none, Method.all, ⟨[("d", .null)]⟩⟩ "'''a$\x7bb\x7d'''" =
      .ok ⟨"'''a$\x7bb\x7d'''", ⟨none, Method.all, ⟨[("d", .null)]⟩⟩,
        [.literal 3 ['a'], .interpolation 6 ['b']]⟩ :=
    ofSource_of_allFit rfl .single [.char 'a', .span ['b']] hfits
  have h : identifiers ⟨"'''a$\x7bb\x7d'''", .default,
      [.literal 3 ['a'], .interpolation 6 ['b']]⟩ = .ok [['b']] := rfl
  obtain ⟨b, b', hb, hb', -, heq⟩ := render_eq_of_agree ht ht' h [("b", .int 1)]
    [("c", .int 2), ("b", .int 1)] [] []
  exact ⟨_, _, b, b', ht, ht', hb, hb', heq rfl rfl rfl⟩

end TripleQuote.Template
