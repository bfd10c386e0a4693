import TripleQuote.Proofs.Sequence
import TripleQuote.Proofs.Template.Decomposition
import TripleQuote.Template.Basic

/-! # Rendering

`Segment.Shows` says which text a segment is replaced by. A render gives the texts of all segments
in a row, or the error of the first segment that is replaced by none. -/

namespace TripleQuote

/-- The text that replaces a segment. -/
inductive Segment.Shows (methods : List Method) (env : Env) : Segment → Text → Prop where
  | literal : Shows methods env (literal pos text) text
  | interpolation (h : Expr.evaluate methods env source = .ok text) :
      Shows methods env (interpolation pos source) text

namespace Template

variable {methods : List Method} {env env' : Env} {s : Segment} {segments : List Segment}
  {text out : Text} {error : RenderError}

theorem ofSource_eq_ok_iff {config : Config} {source : Text} {t : Template} :
    ofSource config source = .ok t ↔
      ∃ segments, lex config.quote source = .ok segments ∧ ⟨source, config, segments⟩ = t := by
  simp only [ofSource, bind_eq_ok_iff, pure, Except.pure, Except.ok.injEq]

/-- Pieces that fit are a template between the delimiters that are required. -/
theorem ofSource_of_meets {config : Config} (q : Quote) (ps : List Piece)
    (hquote : ∀ r ∈ config.quote, q = r) (h : Piece.AllFit q ps q.delimiter) :
    ofSource config (q.delimiter ++ (Piece.spell q ps ++ q.delimiter)) =
      .ok ⟨q.delimiter ++ (Piece.spell q ps ++ q.delimiter), config,
        Segment.assemble q (Piece.place q 3 ps) []⟩ :=
  ofSource_eq_ok_iff.mpr ⟨_, Decomposition.lex_ofPieces (n := 0) hquote h, rfl⟩

/-- Pieces that fit are a template between any delimiters if none are required. -/
theorem ofSource_of_allFit {config : Config} (hquote : config.quote = none) (q : Quote)
    (ps : List Piece) (h : Piece.AllFit q ps q.delimiter) :
    ofSource config (q.delimiter ++ (Piece.spell q ps ++ q.delimiter)) =
      .ok ⟨q.delimiter ++ (Piece.spell q ps ++ q.delimiter), config,
        Segment.assemble q (Piece.place q 3 ps) []⟩ :=
  ofSource_of_meets q ps (by simp [hquote]) h

theorem renderSegment_eq_ok_iff :
    renderSegment methods env s = .ok text ↔ s.Shows methods env text := by
  constructor
  · intro h
    cases s with
    | literal pos t =>
      cases h
      exact .literal
    | interpolation pos source => exact .interpolation (mapError_eq_ok_iff.mp h)
  · rintro (_ | h)
    · rfl
    · exact mapError_eq_ok_iff.mpr h

theorem renderSegment_eq_error_iff :
    renderSegment methods env s = .error error ↔
      ∃ source, s = .interpolation error.offset source ∧
        Expr.evaluate methods env source = .error error.error := by
  cases s with
  | literal pos t => simp [renderSegment]
  | interpolation pos source =>
    rw [renderSegment, mapError_eq_error_iff]
    constructor
    · rintro ⟨e, he, rfl⟩
      exact ⟨source, rfl, he⟩
    · rintro ⟨source, ⟨rfl, rfl⟩, he⟩
      exact ⟨error.error, he, rfl⟩

theorem renderSegments_eq_mapM (segments : List Segment) :
    renderSegments methods env segments =
      (segments.mapM (renderSegment methods env)).map List.flatten := by
  induction segments with
  | nil => rfl
  | cons s segments ih =>
    rw [renderSegments, ih, List.mapM_cons]
    cases renderSegment methods env s with
    | error e => rfl
    | ok t =>
      cases segments.mapM (renderSegment methods env) with
      | error e => rfl
      | ok ts => rfl

theorem renderSegments_eq_ok_iff :
    renderSegments methods env segments = .ok out ↔
      ∃ texts, List.Forall₂ (Segment.Shows methods env) segments texts ∧ texts.flatten = out := by
  simp only [renderSegments_eq_mapM, map_eq_ok_iff, mapM_eq_ok_iff, renderSegment_eq_ok_iff]

/-- A render that succeeds has a text for each expression. -/
theorem exists_text_of_render {pos : Nat} {source : Text}
    (h : renderSegments methods env segments = .ok out)
    (hs : .interpolation pos source ∈ segments) :
    ∃ text, Expr.evaluate methods env source = .ok text := by
  obtain ⟨texts, hshows, _⟩ := renderSegments_eq_ok_iff.mp h
  obtain ⟨text, _, htext⟩ := exists_mem_of_forall₂ hshows _ hs
  cases htext with
  | interpolation hsource => exact ⟨text, hsource⟩

/-- A render fails at the first expression that has no text. -/
theorem renderSegments_eq_error_iff :
    renderSegments methods env segments = .error error ↔
      ∃ before source after, segments = before ++ .interpolation error.offset source :: after ∧
        (∀ s ∈ before, ∃ text, s.Shows methods env text) ∧
          Expr.evaluate methods env source = .error error.error := by
  simp only [renderSegments_eq_mapM, map_eq_error_iff, mapM_eq_error_iff, renderSegment_eq_ok_iff,
    renderSegment_eq_error_iff]
  constructor
  · rintro ⟨before, _, after, rfl, hbefore, source, rfl, hsource⟩
    exact ⟨before, source, after, rfl, hbefore, hsource⟩
  · rintro ⟨before, source, after, rfl, hbefore, hsource⟩
    exact ⟨before, _, after, rfl, hbefore, source, rfl, hsource⟩

end Template

end TripleQuote
