import TripleQuote.Proofs.Template.Adjacent
import TripleQuote.Proofs.Template.Content
import TripleQuote.Proofs.Template.Surroundings

/-! # The seam of two bodies

Two bodies in a row are a body, if the first ends with no character that would read on into the
second (`Sealed`). Its segments are those of the two, moved and joined: the literals at the seam
become one. It renders to the two texts in a row (`bodies_in_a_row`). -/

namespace TripleQuote

/-- Whether a body ends with no character that looks at what follows it: a quote of the delimiter, a
backslash, a dollar sign or a carriage return. -/
def Sealed (q : Quote) (s : Text) : Prop :=
  ∀ c, s.getLast? = some c → c ≠ q.char ∧ c ≠ '\\' ∧ c ≠ '$' ∧ c ≠ '\r'

/-- The segments of one list and behind them those of another. A literal at the end of the first and
one at the start of the other become one literal, at the place of the first. -/
def Segment.join : List Segment → List Segment → List Segment
  | [literal n t], literal _ u :: after => literal n (t ++ u) :: after
  | [], after => after
  | s :: front, after => s :: join front after

/-- The error of a template whose segments are moved. -/
def RenderError.moved (k : Nat) (e : RenderError) : RenderError :=
  { e with offset := e.offset + k }

variable {q : Quote} {p : Piece} {ps : List Piece} {s t rest b b₁ b₂ : Text} {n : Nat}
  {required : Option Quote} {segments segments₁ segments₂ : List Segment}

/-! ## Sealed texts -/

theorem Sealed.of_append (h : Sealed q (s ++ t)) : Sealed q t := by
  intro c hc
  apply h
  rw [List.getLast?_append, hc]
  rfl

theorem Sealed.ne (h : Sealed q (s ++ [c])) : c ≠ q.char ∧ c ≠ '\\' ∧ c ≠ '$' ∧ c ≠ '\r' :=
  h c List.getLast?_concat

/-- A sealed text does not end with quotes. -/
theorem Sealed.run_eq_zero (h : Sealed q (s ++ q.run n)) : n = 0 := by
  cases n with
  | zero => rfl
  | succ n =>
    rw [← Quote.run_append_run q n 1, ← List.append_assoc] at h
    exact absurd rfl h.ne.1

namespace Piece

/-- A piece that fits at the end of a text fits before anything, if it seals the text. -/
theorem Fits.of_sealed (h : p.Fits q []) (hs : Sealed q (p.spelling q)) (t : Text) :
    p.Fits q t := by
  cases h with
  | lf => exact .lf
  | crlf => exact .crlf
  | cr => exact absurd rfl (Sealed.ne (s := ['\\']) hs).2.2.2
  | opener => exact .opener
  | backslash => exact absurd rfl (Sealed.ne (s := []) hs).2.1
  | span hclose hblank => exact .span hclose hblank
  | quotes hn =>
    have hzero := Sealed.run_eq_zero (s := []) hs
    omega
  | char hquote hback =>
    exact .char hquote hback fun hc => absurd hc (Sealed.ne (s := []) hs).2.2.1

theorem Fits.extend_of_sealed (h : p.Fits q rest) (hs : Sealed q (p.spelling q ++ rest))
    (t : Text) : p.Fits q (rest ++ t) := by
  match rest with
  | [] => exact h.of_sealed (by simpa using hs) t
  | [c] =>
    have hdollar : c ≠ '$' := hs.ne.2.2.1
    cases h with
    | lf => exact .lf
    | crlf => exact .crlf
    | cr h => exact .cr h
    | opener => exact .opener
    | backslash hlf hcr =>
      refine .backslash hlf hcr fun hopen => hdollar ?_
      exact (List.cons_prefix_cons.mp hopen).1.symm
    | span hclose hblank => exact .span hclose hblank
    | quotes hn hrun => exact .quotes hn hrun
    | char hquote hback hopen => exact .char hquote hback hopen
  | c :: d :: rest => exact h.extend (.inl (Nat.le_add_left 2 rest.length))

/-- Pieces that spell a sealed text fit before anything. -/
theorem AllFit.of_sealed {last : Text} (h : AllFit q ps last) (hs : Sealed q (spell q ps))
    (t : Text) : AllFit q ps t := by
  induction ps with
  | nil => trivial
  | cons p ps ih => exact ⟨h.1.of_append.extend_of_sealed hs t, ih h.2 hs.of_append⟩

/-! ## Placed pieces -/

theorem place_append (q : Quote) (pos : Nat) (front back : List Piece) :
    place q pos (front ++ back) =
      place q pos front ++ place q (pos + (spell q front).length) back := by
  induction front generalizing pos with
  | nil => rfl
  | cons p front ih =>
    rw [List.cons_append, place, place, ih, spell_cons, List.length_append, Nat.add_assoc]
    rfl

theorem place_add (q : Quote) (k pos : Nat) (ps : List Piece) :
    place q (pos + k) ps = (place q pos ps).map fun piece => (piece.1 + k, piece.2) := by
  induction ps generalizing pos with
  | nil => rfl
  | cons p ps ih => rw [place, place, Nat.add_right_comm, ih, List.map_cons]

end Piece

/-! ## Bodies between delimiters -/

/-- A body between delimiters is cut without white space around it. -/
theorem Decomposition.eq_of_text_eq_enclose {d : Decomposition} (h : d.text = q.enclose b) :
    d.leading = [] ∧ d.quote = q ∧ d.trailing = [] ∧
      Piece.spell d.quote d.pieces ++ d.quote.run d.extra = b := by
  have hread := d.read_text (show d.Meets none by simp [Meets])
  have henclosed : Opened.read none (q.enclose b) = .ok ⟨q, 0 + 3, b ++ q.delimiter⟩ :=
    Opened.read_delimiter (w := []) rfl (by simp) _
  rw [← h, hread] at henclosed
  simp only [Except.ok.injEq, Opened.mk.injEq] at henclosed
  obtain ⟨hquote, hleading, hbody⟩ := henclosed
  -- The body ends with a quote, so that no white space follows the closing run.
  have hend : b ++ q.run 2 ++ [q.char] ++ [] =
      Piece.spell d.quote d.pieces ++ d.quote.run (d.extra + 3) ++ d.trailing := by
    rw [List.append_assoc _ _ d.trailing]
    simpa [Quote.delimiter, Quote.run, last] using hbody.symm
  obtain ⟨u, -, hu⟩ := exists_of_append_blank q.isBlank_char d.trailing_blank hend
  have htrailing : d.trailing = [] := (List.append_eq_nil_iff.mp hu.symm).2
  refine ⟨List.eq_nil_of_length_eq_zero (by omega), hquote, htrailing, ?_⟩
  rw [last, htrailing, List.append_nil, ← Quote.run_append_run, ← List.append_assoc,
    hquote, ← Quote.delimiter] at hbody
  rw [hquote]
  exact List.append_cancel_right hbody

/-- A body that is read between delimiters is made of pieces and the quotes that are left of the
closing run. -/
theorem lex_enclose_eq_ok_iff :
    lex required (q.enclose b) = .ok segments ↔
      (∀ r ∈ required, q = r) ∧ ∃ ps n, Piece.AllFit q ps (q.run (n + 3)) ∧
        Piece.spell q ps ++ q.run n = b ∧
          Segment.assemble q (Piece.place q 3 ps)
            (Segment.closing q (3 + (Piece.spell q ps).length) (n + 3)) = segments := by
  constructor
  · intro h
    obtain ⟨d, htext, hmeets⟩ := Decomposition.exists_of_lex h
    obtain ⟨hleading, rfl, htrailing, hbody⟩ := Decomposition.eq_of_text_eq_enclose htext
    have hfits := d.fits
    rw [htrailing, List.append_nil] at hfits
    rw [← htext, d.lex_text hmeets, Except.ok.injEq, Decomposition.segments, hleading] at h
    exact ⟨hmeets, d.pieces, d.extra, hfits, hbody, h⟩
  · rintro ⟨hmeets, ps, n, hfits, rfl, rfl⟩
    rw [Quote.enclose, List.append_assoc, Quote.delimiter, Quote.run_append_run]
    exact Decomposition.lex_ofPieces hmeets hfits

namespace Segment

theorem join_nil (after : List Segment) : join [] after = after := by
  cases after <;> rfl

theorem join_interpolation (n : Nat) (source : Text) (front after : List Segment) :
    join (interpolation n source :: front) after = interpolation n source :: join front after := by
  rw [join]
  simp

theorem join_literal_cons (n : Nat) (t : Text) (s : Segment) (front after : List Segment) :
    join (literal n t :: s :: front) after = literal n t :: join (s :: front) after := by
  rw [join]
  simp

/-- A literal before other segments is text before them. -/
theorem join_singleton {t : Text} (ht : t ≠ []) (n : Nat) (after : List Segment) :
    join [literal n t] after = prependText n t after := by
  obtain ⟨c, t, rfl⟩ := List.exists_cons_of_ne_nil ht
  cases after with
  | nil => rfl
  | cons s after => cases s <;> rfl

theorem prependText_join (pos : Nat) (t : Text) (front after : List Segment) :
    prependText pos t (join front after) = join (prependText pos t front) after := by
  cases t with
  | nil => rfl
  | cons c t =>
    match front, after with
    | [], after =>
      rw [join_nil]
      exact (join_singleton (List.cons_ne_nil c t) pos after).symm
    | .interpolation n source :: front, after =>
      simp only [join_interpolation, prependText, join_literal_cons]
    | .literal n u :: s :: front, after => simp only [join_literal_cons, prependText]
    | [.literal n u], .literal m v :: after => simp only [prependText, join, List.append_assoc]
    | [.literal n u], [] => rfl
    | [.literal n u], .interpolation m source :: after => rfl

/-- The segments of pieces, joined with those that follow. -/
theorem assemble_eq_join (q : Quote) (pieces : List (Nat × Piece)) (after : List Segment) :
    assemble q pieces after = join (assemble q pieces []) after := by
  induction pieces with
  | nil => exact (join_nil after).symm
  | cons piece pieces ih =>
    obtain ⟨pos, p⟩ := piece
    simp only [assemble, List.foldr_cons] at ih ⊢
    rw [ih]
    by_cases hp : ∃ source, p = .span source
    · obtain ⟨source, rfl⟩ := hp
      exact (join_interpolation ..).symm
    · have htext := fun source hs => hp ⟨source, hs⟩
      rw [prepend_eq htext, prepend_eq htext, prependText_join]

end Segment

/-! ## Rendering -/

namespace Template

variable {methods : List Method} {env : Env}

theorem renderSegments_join (methods : List Method) (env : Env) (front after : List Segment) :
    renderSegments methods env (Segment.join front after) = do
      return (← renderSegments methods env front) ++ (← renderSegments methods env after) := by
  fun_induction Segment.join front after with
  | case1 n t m u after =>
    simp only [renderSegments, renderSegment, bind, Except.bind, pure, Except.pure]
    cases renderSegments methods env after with
    | error e => rfl
    | ok out => simp
  | case2 after =>
    cases renderSegments methods env after with
    | error e => rfl
    | ok out => rfl
  | case3 s front after _ ih =>
    simp only [renderSegments, bind, Except.bind, pure, Except.pure] at ih ⊢
    rw [ih]
    cases renderSegment methods env s with
    | error e => rfl
    | ok text =>
      cases renderSegments methods env front with
      | error e => rfl
      | ok out =>
        cases renderSegments methods env after with
        | error e => rfl
        | ok out' => simp

theorem renderSegments_map_moved (methods : List Method) (env : Env) (k : Nat)
    (segments : List Segment) :
    renderSegments methods env (segments.map (Segment.moved k)) =
      (renderSegments methods env segments).mapError (RenderError.moved k) := by
  induction segments with
  | nil => rfl
  | cons s segments ih =>
    have hs : renderSegment methods env (s.moved k) =
        (renderSegment methods env s).mapError (RenderError.moved k) := by
      cases s with
      | literal n t => rfl
      | interpolation n source =>
        rw [Segment.moved, renderSegment, renderSegment]
        cases Expr.evaluate methods env source <;> rfl
    rw [List.map_cons, renderSegments, renderSegments, ih, hs]
    cases renderSegment methods env s with
    | error e => rfl
    | ok text => cases renderSegments methods env segments <;> rfl

end Template

/-- The first body is read as before with the second behind it, and the second is read where the
first ends. -/
theorem lex_enclose_append (hs : Sealed q b₁) (h₁ : lex required (q.enclose b₁) = .ok segments₁)
    (h₂ : lex required (q.enclose b₂) = .ok segments₂) :
    lex required (q.enclose (b₁ ++ b₂)) =
      .ok (Segment.join segments₁ (segments₂.map (Segment.moved b₁.length))) := by
  obtain ⟨hmeets, ps₁, n₁, hfits₁, rfl, rfl⟩ := lex_enclose_eq_ok_iff.mp h₁
  obtain ⟨-, ps₂, n₂, hfits₂, rfl, rfl⟩ := lex_enclose_eq_ok_iff.mp h₂
  -- The last character of the first body is no quote, so that all of it is pieces.
  cases hs.run_eq_zero
  simp only [show q.run 0 = [] from rfl, List.append_nil] at hs ⊢
  refine lex_enclose_eq_ok_iff.mpr ⟨hmeets, ps₁ ++ ps₂, n₂, ?_, ?_, ?_⟩
  · exact Piece.allFit_append.mpr ⟨hfits₁.of_sealed hs _, hfits₂⟩
  · rw [Piece.spell_append, List.append_assoc]
  · rw [Segment.map_moved_assemble, Segment.map_moved_closing, ← Piece.place_add,
      Piece.place_append, Segment.assemble_append, Segment.assemble_eq_join,
      Piece.spell_append, List.length_append, ← Nat.add_assoc, Nat.add_right_comm]
    rfl

/-- Behind a sealed body another body is read as if it stood alone. The segments are those of the
two, joined, and what is rendered is the text of the first followed by that of the second. -/
theorem bodies_in_a_row (hs : Sealed q b₁) (b₂ : Text) :
    (∀ required segments₁ segments₂, lex required (q.enclose b₁) = .ok segments₁ →
      lex required (q.enclose b₂) = .ok segments₂ →
        lex required (q.enclose (b₁ ++ b₂)) =
          .ok (Segment.join segments₁ (segments₂.map (Segment.moved b₁.length)))) ∧
    ∀ config t₁ t₂, Template.ofSource config (q.enclose b₁) = .ok t₁ →
      Template.ofSource config (q.enclose b₂) = .ok t₂ →
        ∃ t, Template.ofSource config (q.enclose (b₁ ++ b₂)) = .ok t ∧
          ∀ bindings out₁ out₂, t₁.render bindings = .ok out₁ → t₂.render bindings = .ok out₂ →
            t.render bindings = .ok (out₁ ++ out₂) := by
  refine ⟨fun required _ _ => lex_enclose_append hs, fun config t₁ t₂ ht₁ ht₂ => ?_⟩
  obtain ⟨segments₁, h₁, rfl⟩ := Template.ofSource_eq_ok_iff.mp ht₁
  obtain ⟨segments₂, h₂, rfl⟩ := Template.ofSource_eq_ok_iff.mp ht₂
  refine ⟨_, Template.ofSource_eq_ok_iff.mpr ⟨_, lex_enclose_append hs h₁ h₂, rfl⟩, ?_⟩
  intro bindings out₁ out₂ hout₁ hout₂
  simp only [Template.render, Template.scope] at hout₁ hout₂ ⊢
  rw [Template.renderSegments_join, hout₁, Template.renderSegments_map_moved, hout₂]
  rfl

/-- The run of quotes that closes the first body is gone, and the literals at the seam are one. -/
theorem bodies_in_a_row_with_quotes :
    lex none (Quote.single.enclose ("''''$\x7bn\x7d x" ++ "y''")) =
        .ok [.literal 3 "'", .interpolation 9 ['n'], .literal 11 " xy''"] ∧
      ∃ t, Template.ofSource .default (Quote.single.enclose ("''''$\x7bn\x7d x" ++ "y''")) =
          .ok t ∧
        t.render ⟨[("n", .int 7)]⟩ = .ok "'7 xy''" := by
  have hs : Sealed .single "''''$\x7bn\x7d x" := by
    intro c hc
    cases hc
    decide
  have h₁ : lex none (Quote.single.enclose "''''$\x7bn\x7d x") =
      .ok [.literal 3 "'", .interpolation 9 ['n'], .literal 11 " x"] := by
    refine lex_enclose_eq_ok_iff.mpr
      ⟨by simp, [.quotes 4, .span ['n'], .char ' ', .char 'x'], 0, ?_, rfl, rfl⟩
    exact ⟨.quotes (by decide) (by decide), .span (by decide) rfl,
      .char (by decide) (by decide) (by decide), .char (by decide) (by decide) (by decide), trivial⟩
  have h₂ : lex none (Quote.single.enclose "y''") = .ok [.literal 3 "y''"] := by
    refine lex_enclose_eq_ok_iff.mpr ⟨by simp, [.char 'y'], 2, ?_, rfl, rfl⟩
    exact ⟨.char (by decide) (by decide) (by decide), trivial⟩
  obtain ⟨hlex, hrender⟩ := bodies_in_a_row hs "y''"
  obtain ⟨t, ht, hout⟩ := hrender .default _ _ (Template.ofSource_eq_ok_iff.mpr ⟨_, h₁, rfl⟩)
    (Template.ofSource_eq_ok_iff.mpr ⟨_, h₂, rfl⟩)
  refine ⟨hlex none _ _ h₁ h₂, t, ht, ?_⟩
  exact hout ⟨[("n", .int 7)]⟩ "'7 x" "y''" rfl rfl

end TripleQuote
