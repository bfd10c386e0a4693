import TripleQuote.Proofs.Expr.Evaluation
import TripleQuote.Proofs.Expr.Paths
import TripleQuote.Proofs.Expr.SyntaxErrors
import TripleQuote.Proofs.Template.Places
import TripleQuote.Proofs.Template.Rendering
import TripleQuote.Report

/-! # The blame for a failed render

A render gives the texts of all segments, or it blames the first expression that has none: its error
carries the place of that expression in the template, and the position of a syntax error is counted
from the source of the expression without the white space around it (`Template.render_blames`). -/

namespace TripleQuote

variable {methods : List Method} {env : Env} {source text : Text} {config : Config} {s : Text}
  {t : Template} {b : Bindings} {offset : Nat} {error : RenderError} {err : EvalError}

/-! ## Errors of expressions -/

theorem Expr.evaluate_ne_hole : evaluate methods env source ≠ .error .hole := by
  intro h
  rcases evaluate_eq_error_iff.mp h with ⟨_, _, herr⟩ | ⟨e, he, heval | ⟨v, _, hspell⟩⟩
  · cases herr
  · obtain ⟨d, hd⟩ := exists_faulty_of_eval heval (by simp)
    have hnormal := normal_of_mem_nodes_of_parse he hd.mem
    obtain ⟨_, _, _, _, hfaulty⟩ := hd
    cases hfaulty
    cases hnormal
  · cases Value.eq_unwritable_of_spell hspell

/-- The expression writes out a value with a number that has too many digits. -/
def Expr.WritesLongNumber (methods : List Method) (env : Env) (source : Text) : Prop :=
  ∃ e d v, parse source.trim = .ok e ∧ d ∈ e.nodes ∧ eval methods env d = .ok v ∧
    v.writable = false

theorem Expr.writesLongNumber_of_evaluate
    (h : evaluate methods env source = .error .unwritable) :
    WritesLongNumber methods env source := by
  rcases evaluate_eq_error_iff.mp h with ⟨_, _, herr⟩ | ⟨e, he, heval | ⟨v, hv, hspell⟩⟩
  · cases herr
  · obtain ⟨d, hd, v, hv⟩ := exists_unwritable_of_eval heval
    exact ⟨e, d, v, he, hd, hv⟩
  · exact ⟨e, e, v, he, self_mem_nodes e, hv, (Value.spell_eq_error_iff.mp hspell).1⟩

theorem Expr.parse_of_evaluate_badSyntax {e : SyntaxError}
    (h : evaluate methods env source = .error (.badSyntax e)) :
    parse source.trim = .error e := by
  rcases evaluate_eq_error_iff.mp h with ⟨e', he', herr⟩ | ⟨e', he', heval | ⟨v, _, hspell⟩⟩
  · cases herr
    exact he'
  · obtain ⟨d, _, _, _, _, hfaulty⟩ := exists_faulty_of_eval heval (by simp)
    cases hfaulty
  · cases Value.eq_unwritable_of_spell hspell

theorem RenderError.offset_report (hhole : error.error ≠ .hole) (hw : error.error ≠ .unwritable) :
    error.report.offset = some (error.offset : Int) := by
  obtain ⟨err, offset⟩ := error
  cases err with
  | unbound | unsupported | badSyntax => rfl
  | hole => exact absurd rfl hhole
  | unwritable => exact absurd rfl hw

/-- The source of an expression without the white space around it stands where the expression
starts, behind that white space. -/
theorem SpanAt.take_drop (h : SpanAt s offset source) :
    (s.drop (offset + (source.takeWhile isBlank).length)).take source.trim.length =
      source.trim := by
  obtain ⟨before, after, rfl, rfl⟩ := h
  obtain ⟨w, hsource, _⟩ := source.exists_trim
  have hsplit : before ++ ('$' :: '{' :: source ++ '}' :: after) =
      (before ++ ['$', '{'] ++ source.takeWhile isBlank) ++
        (source.trim ++ (w ++ '}' :: after)) := by
    conv_lhs => rw [hsource]
    simp
  have hlength : before.length + 2 + (source.takeWhile isBlank).length =
      (before ++ ['$', '{'] ++ source.takeWhile isBlank).length := by
    simp only [List.length_append, List.length_cons, List.length_nil]
  rw [hsplit, hlength, List.drop_left, List.take_left]

/-! ## Renders -/

namespace Template

/-- The error of a render is that of its first expression without a text, `source`, and says where
in the template it stands. -/
structure Blames (t : Template) (b : Bindings) (source : Text) (error : RenderError) : Prop where
  first : ∃ before after, t.segments = before ++ .interpolation error.offset source :: after ∧
    (∀ seg ∈ before, seg.offset < error.offset ∧
      ∃ text, seg.Shows t.config.methods (t.scope b).get? text) ∧
    ∀ seg ∈ after, error.offset < seg.offset
  evaluate : Expr.evaluate t.config.methods (t.scope b).get? source = .error error.error
  place : SpanAt t.source error.offset source
  annotated : error.error ≠ .unwritable → error.report.offset = some (error.offset : Int)
  unwritable : error.error = .unwritable →
    Expr.WritesLongNumber t.config.methods (t.scope b).get? source
  badSyntax : ∀ e, error.error = .badSyntax e → e.source = source.trim ∧
    e.position ≤ e.source.length ∧
    (t.source.drop (error.offset + (source.takeWhile isBlank).length)).take e.source.length =
      e.source ∧
    SyntaxError.Points e.source e.cause e.position

theorem blames_of_render (ht : ofSource config s = .ok t) (h : t.render b = .error error) :
    ∃ source, t.Blames b source error := by
  obtain ⟨segments, hsegments, rfl⟩ := ofSource_eq_ok_iff.mp ht
  obtain ⟨before, source, after, hsplit, hbefore, hsource⟩ := renderSegments_eq_error_iff.mp h
  have hmem : .interpolation error.offset source ∈ segments := by
    rw [show segments = _ from hsplit]
    simp
  have hplace := spanAt_of_lex hsegments hmem
  have horder := pairwise_offset_of_lex hsegments
  rw [show segments = _ from hsplit, List.pairwise_append, List.pairwise_cons] at horder
  obtain ⟨-, ⟨hafter, -⟩, hcross⟩ := horder
  refine ⟨source, ⟨before, after, hsplit, fun seg hseg => ?_, hafter⟩, hsource, hplace,
    RenderError.offset_report fun hhole => ?_, fun hw => ?_, fun e he => ?_⟩
  · exact ⟨hcross seg hseg _ List.mem_cons_self, hbefore seg hseg⟩
  · exact Expr.evaluate_ne_hole (hhole ▸ hsource)
  · exact Expr.writesLongNumber_of_evaluate (hw ▸ hsource)
  · obtain ⟨heq, hpoints⟩ := points_of_parse (Expr.parse_of_evaluate_badSyntax (he ▸ hsource))
    rw [heq]
    exact ⟨rfl, hpoints.le_length, hplace.take_drop, hpoints⟩

end Template

end TripleQuote
