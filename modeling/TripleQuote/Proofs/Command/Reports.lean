import TripleQuote.Files.Tree
import TripleQuote.Proofs.Bindings.Lookup
import TripleQuote.Proofs.Command.Stages
import TripleQuote.Proofs.Template.Blame
import TripleQuote.Proofs.Text.Escapes

/-! # Reports of the command

The command prints the report of a failed render as it is: reports hold no escape characters
(`EvalError.escapeFree_message`). But before it renders it parses every expression, and the first
that cannot be parsed is reported without an offset, whatever the render would fail with
(`RenderRequest.report_of_render`). -/

namespace TripleQuote

open Text (EscapeFree)

variable {methods : List Method} {env : Env} {source : Text} {e : Expr} {err : EvalError}

/-! ## Reports hold no escape characters -/

theorem escapeFree_of_isIdent {n : Text} (h : IsIdent n) : EscapeFree n :=
  notMem_of_isIdent h (by decide)

theorem Expr.Normal.escapeFree_path (h : Normal e) : EscapeFree e.path := by
  induction e using Expr.induction with
  | name ident =>
    cases h with
    | name hident => exact escapeFree_of_isIdent hident
  | text value => exact Text.escapeFree_quoted value
  | attr target n ih =>
    cases h with
    | attr htarget _ hn =>
      exact (ih htarget).append (.cons (by decide) (escapeFree_of_isIdent hn))
  | call target n ih =>
    cases h with
    | call htarget _ hn =>
      exact ((ih htarget).append (.cons (by decide) (escapeFree_of_isIdent hn))).append (by decide)
  | concat operands ih => exact (by decide : EscapeFree "<expr>".toList)
  | hole => exact (by decide : EscapeFree "<expr>".toList)

theorem Token.Kind.escapeFree_name (kind : Token.Kind) : EscapeFree kind.name := by
  cases kind <;> decide

theorem SyntaxError.Cause.escapeFree_message (cause : SyntaxError.Cause) :
    EscapeFree cause.message := by
  cases cause with
  | unexpected c => exact .append (by decide) (Text.escapeFree_quoted [c])
  | noOperand got => exact .append (by decide) got.escapeFree_name
  | mismatch wanted got =>
    exact ((EscapeFree.append (by decide) wanted.escapeFree_name).append (by decide)).append
      got.escapeFree_name
  | unterminated | arguments | noTokens => decide

theorem SyntaxError.escapeFree_message (error : SyntaxError) :
    EscapeFree error.problem.message := by
  have hcause := EscapeFree.append (t := "Invalid expression syntax: ") (by decide)
    error.cause.escapeFree_message
  have hposition := (hcause.append (u := " at position ") (by decide)).append
    (Text.escapeFree_ofInt error.position)
  exact (hposition.append (u := " in ") (by decide)).append (Text.escapeFree_quoted error.source)

/-- What an expression of a template fails with is reported without escape characters. -/
theorem EvalError.escapeFree_message (h : Expr.evaluate methods env source = .error err)
    (hw : err ≠ .unwritable) : EscapeFree err.problem.message := by
  rcases Expr.evaluate_eq_error_iff.mp h with ⟨error, _, rfl⟩ | ⟨e, he, heval | ⟨v, _, hspell⟩⟩
  · exact error.escapeFree_message
  · obtain ⟨d, hd⟩ := Expr.exists_faulty_of_eval heval hw
    have hnormal := Expr.normal_of_mem_nodes_of_parse he hd.mem
    obtain ⟨_, _, _, _, hfaulty⟩ := hd
    cases hfaulty with
    | name | attr => exact .append (by decide) hnormal.escapeFree_path
    | call =>
      cases hnormal with
      | call _ _ hn =>
        exact (EscapeFree.append (by decide) (escapeFree_of_isIdent hn)).append (by decide)
    | hole => cases hnormal
  · exact absurd (Value.eq_unwritable_of_spell hspell) hw

theorem Report.escapeFree_text (report : Report) (h : EscapeFree report.problem.message) :
    EscapeFree report.text := by
  obtain ⟨problem, offset⟩ := report
  cases offset with
  | none => exact h
  | some n =>
    exact ((h.append (by decide)).append (Text.escapeFree_ofInt n)).append (by decide)

/-! ## Reports with and without an offset -/

theorem Report.getLast?_text (problem : Problem) (n : Int) :
    (Report.mk problem (some n)).text.getLast? = some ')' := by
  have hparen : ")".toList = [')'] := rfl
  rw [Report.text, hparen, List.getLast?_concat]

theorem Text.getLast?_append_quoted (t u : Text) :
    (t ++ u.quoted).getLast? = some (quoteFor u) := by
  rw [List.getLast?_append, Text.quoted, List.getLast?_concat, Option.some_or]

theorem SyntaxError.getLast?_text (error : SyntaxError) :
    (Report.mk error.problem none).text.getLast? = some (quoteFor error.source) :=
  Text.getLast?_append_quoted _ error.source

/-- No report of a syntax error without its offset is a report with an offset: the one ends with a
quote, the other with a parenthesis. -/
theorem SyntaxError.text_ne (error : SyntaxError) {report : Report} (h : report.offset ≠ none) :
    report.text ≠ (Report.mk error.problem none).text := by
  obtain ⟨problem, n, rfl⟩ : ∃ problem n, report = ⟨problem, some n⟩ := by
    obtain ⟨problem, offset⟩ := report
    cases offset with
    | none => exact absurd rfl h
    | some n => exact ⟨problem, n, rfl⟩
  intro heq
  have hlast := congrArg List.getLast? heq
  rw [Report.getLast?_text, error.getLast?_text, Option.some.injEq] at hlast
  rcases Text.quoteFor_eq error.source with hquote | hquote
  · rw [hquote] at hlast
    exact absurd hlast (by decide)
  · rw [hquote] at hlast
    exact absurd hlast (by decide)

/-! ## Runs that fail -/

theorem Failure.text_answered {e : CommandError} (h : EscapeFree e.message) :
    (answered e).text = "Error: " ++ e.message :=
  congrArg ("Error: ".toList ++ ·) h.stripEscapes

theorem Failure.text_badSyntax (error : SyntaxError) :
    (answered (.badSyntax error)).text = "Error: " ++ (Report.mk error.problem none).text :=
  text_answered (Report.escapeFree_text ⟨error.problem, none⟩ error.escapeFree_message)

namespace RenderRequest

variable {r : RenderRequest} {disk : Disk} {config : Config} {entries : List (Value × Value)}
  {t : Template} {vars b : Bindings}

theorem bindings_of_build (h : Bindings.build entries [] = .ok vars) :
    r.bindings entries = .ok (vars.merge (assignedBindings r.assignments)) := by
  unfold Bindings.build at h
  split at h
  · cases h
  · next named hnamed =>
    cases h
    rw [bindings, Bindings.build, hnamed]
    rfl

/-- The report of the error of a template is printed as it is. -/
theorem text_failure {source : Text} {error : RenderError}
    (ht : Template.ofSource config source = .ok t) (hr : t.render b = .error error)
    (hw : error.error ≠ .unwritable) : error.failure.text = "Error: " ++ error.report.text := by
  obtain ⟨source, hblames⟩ := Template.blames_of_render ht hr
  have hproblem : error.report.problem = error.error.problem := by
    cases herror : error.error <;> simp [RenderError.report, herror]
  have hfree : EscapeFree error.report.text :=
    error.report.escapeFree_text (hproblem ▸ EvalError.escapeFree_message hblames.evaluate hw)
  rw [RenderError.failure, if_neg hw]
  exact Failure.text_answered (e := .render error) hfree

/-- A render that fails makes the command fail, but the command prints the error of the render only
if all expressions of the template can be parsed. If not, it prints the syntax error of the first
that cannot, without an offset. -/
theorem report_of_render {error : RenderError} (hload : r.load disk = .ok (config, entries))
    (ht : readTemplate disk config r.template = .ok t)
    (hvars : Bindings.build entries [] = .ok vars)
    (hr : t.render (vars.merge (assignedBindings r.assignments)) = .error error)
    (hw : error.error ≠ .unwritable) :
    (r.run disk).exitCode = 1 ∧ ∃ failure, (r.run disk).failure = some failure ∧
      (failure.text = "Error: " ++ error.report.text ↔
        ∀ pos source, .interpolation pos source ∈ t.segments →
          ∃ e, Expr.parse source.trim = .ok e) ∧
      ∀ first, t.identifiers = .error first →
        failure.text = "Error: " ++ (Report.mk first.problem none).text := by
  obtain ⟨source, hsource⟩ := ofSource_of_readTemplate ht
  have htext := text_failure hsource hr hw
  rw [← Template.exists_identifiers_iff]
  cases hnames : t.identifiers with
  | ok names =>
    obtain ⟨events, hrun⟩ := run_of_render_error hload ht hnames (bindings_of_build hvars) hr
    have hfailure : error.failure = .answered (.render error) := if_neg hw
    rw [hrun]
    refine ⟨by rw [hfailure]; rfl, error.failure, rfl, ⟨fun _ => ⟨names, rfl⟩, fun _ => htext⟩,
      fun first hfirst => ?_⟩
    cases hfirst
  | error first =>
    obtain ⟨events, hrun⟩ := run_of_identifiers_error hload ht hnames
    have hfirst := Failure.text_badSyntax first
    obtain ⟨_, hblames⟩ := Template.blames_of_render hsource hr
    -- The render blames an expression with its offset, whichever it is, and this report has none.
    have hne : error.report.text ≠ (Report.mk first.problem none).text :=
      first.text_ne (by rw [hblames.annotated hw]; simp)
    rw [hrun]
    refine ⟨rfl, _, rfl, ⟨fun heq => ?_, fun ⟨names, hok⟩ => ?_⟩, fun first' hfirst' => ?_⟩
    · rw [hfirst] at heq
      exact absurd (List.append_cancel_left heq).symm hne
    · cases hok
    · cases hfirst'
      exact hfirst

/-- The error of a template whose only expression can be parsed is printed. -/
theorem report_of_unbound :
    let disk := FileTree.disk ⟨[(["t".toList], Utf8.encode "'''x$\x7bb\x7d'''")]⟩
    let r : RenderRequest := ⟨.ofText "t", [], none, none, none⟩
    ∃ t, r.load disk = .ok (.default, []) ∧ readTemplate disk .default r.template = .ok t ∧
      t.render (Bindings.empty.merge (assignedBindings r.assignments)) =
        .error ⟨.unbound "b", 6⟩ ∧
      (r.run disk).exitCode = 1 ∧ ∃ failure, (r.run disk).failure = some failure ∧
        failure.text = "Error: " ++ (RenderError.mk (.unbound "b") 6).report.text := by
  intro disk r
  have ht : readTemplate disk .default r.template =
      .ok ⟨"'''x$\x7bb\x7d'''", .default, [.literal 3 ['x'], .interpolation 6 ['b']]⟩ :=
    readTemplate_of_readText rfl <|
      Template.ofSource_of_allFit rfl .single [.char 'x', .span ['b']]
        ⟨.char (by decide) (by decide) (by decide), .span (by decide) rfl, trivial⟩
  have hr : Template.render ⟨"'''x$\x7bb\x7d'''", .default,
      [.literal 3 ['x'], .interpolation 6 ['b']]⟩
      (Bindings.empty.merge (assignedBindings r.assignments)) = .error ⟨.unbound "b", 6⟩ := rfl
  have hload : r.load disk = .ok (.default, []) := rfl
  obtain ⟨hexit, failure, hfailure, hprinted, -⟩ := report_of_render hload ht rfl hr (by decide)
  refine ⟨_, hload, ht, hr, hexit, failure, hfailure, hprinted.mpr fun pos source hs => ?_⟩
  simp only [List.mem_cons, List.not_mem_nil, reduceCtorEq, Segment.interpolation.injEq, false_or,
    or_false] at hs
  obtain ⟨rfl, rfl⟩ := hs
  exact ⟨.name ['b'], rfl⟩

/-- A name that is unbound is not reported if an expression behind it cannot be parsed. -/
theorem report_ne_of_unparsed :
    let disk := FileTree.disk ⟨[(["t".toList], Utf8.encode "'''$\x7bb\x7d$\x7ba +\x7d'''")]⟩
    let r : RenderRequest := ⟨.ofText "t", [], none, none, none⟩
    ∃ t, r.load disk = .ok (.default, []) ∧ readTemplate disk .default r.template = .ok t ∧
      t.render (Bindings.empty.merge (assignedBindings r.assignments)) =
        .error ⟨.unbound "b", 5⟩ ∧
      ∃ failure, (r.run disk).failure = some failure ∧
        failure.text ≠ "Error: " ++ (RenderError.mk (.unbound "b") 5).report.text := by
  intro disk r
  have ht : readTemplate disk .default r.template = .ok ⟨"'''$\x7bb\x7d$\x7ba +\x7d'''", .default,
      [.interpolation 5 ['b'], .interpolation 9 "a +"]⟩ :=
    readTemplate_of_readText rfl <|
      Template.ofSource_of_allFit rfl .single [.span ['b'], .span "a +"]
        ⟨.span (by decide) rfl, .span (by decide) rfl, trivial⟩
  have hnames : Template.identifiers ⟨"'''$\x7bb\x7d$\x7ba +\x7d'''", .default,
      [.interpolation 5 ['b'], .interpolation 9 "a +"]⟩ =
        .error ⟨.noOperand .finish, 3, "a +"⟩ := rfl
  have hload : r.load disk = .ok (.default, []) := rfl
  obtain ⟨events, hrun⟩ := run_of_identifiers_error hload ht hnames
  exact ⟨_, hload, ht, rfl, _, by rw [hrun]; rfl, by decide⟩

end RenderRequest

end TripleQuote
