import TripleQuote.Proofs.Template.Surroundings
import TripleQuote.Template.Scanner

/-! # Scanning a source again

What a scanner has collected is a list of segments with a buffer at its end, and every piece that it
reads is put behind them (`Scanner.followedBy_collect`). A scan therefore adds the segments of its
source to whatever was there before, and leaves the buffer empty if it reaches the end
(`Scanner.tokenize_of_lex`). However often a scanner has been used, it finds the same fault, or one
more copy of the same segments (`Scanner.tokenize_after_calls`). -/

namespace TripleQuote

variable {q : Quote} {t : Text} {required : Option Quote} {segments after : List Segment}
  {error : Malformed}

theorem Segment.prependText_append (pos next : Nat) (ht : t ≠ []) (u : Text)
    (after : List Segment) :
    prependText pos (t ++ u) after = prependText pos t (prependText next u after) := by
  obtain ⟨c, t, rfl⟩ := List.exists_cons_of_ne_nil ht
  cases u with
  | nil => rw [List.append_nil, prependText_nil]
  | cons d u =>
    cases after with
    | nil => rfl
    | cons segment after =>
      cases segment with
      | literal n v => exact congrArg (literal pos · :: after) (List.append_assoc ..)
      | interpolation n source => rfl

theorem Opened.drop_of_read {source : Text} {o : Opened} (h : read required source = .ok o) :
    source.drop o.offset = o.body := by
  obtain ⟨-, w, -, hs, hoffset⟩ := exists_of_read h
  have hlength : (w ++ o.quote.delimiter).length = o.offset := by
    rw [List.length_append, Quote.delimiter, Quote.length_run, hoffset]
  rw [hs, ← hlength, ← List.append_assoc, List.drop_left]

namespace Scanner

variable {s s' : Scanner} {p : Piece}

/-- The segments of a scanner and others behind them: the text of the buffer is a literal, or part
of the literal that follows. -/
def followedBy (s : Scanner) (after : List Segment) : List Segment :=
  s.segments ++ Segment.prependText s.bufferOffset s.buffer after

/-! ## One piece -/

theorem followedBy_of_buffer (h : s.buffer = []) (after : List Segment) :
    s.followedBy after = s.segments ++ after := by
  rw [followedBy, h, Segment.prependText_nil]

theorem followedBy_append (s : Scanner) (t : Text) (after : List Segment) :
    (s.append t).followedBy after = s.followedBy (Segment.prependText s.position t after) := by
  unfold append
  split
  · next ht => rw [ht, Segment.prependText_nil]
  · by_cases hbuffer : s.buffer = []
    · rw [followedBy_of_buffer hbuffer]
      simp only [followedBy, hbuffer, if_true, List.nil_append]
    · simp only [followedBy, if_neg hbuffer]
      rw [Segment.prependText_append _ s.position hbuffer]

theorem buffer_flush (s : Scanner) : s.flush.buffer = [] := by
  unfold flush
  split
  · assumption
  · rfl

theorem segments_flush (s : Scanner) : s.flush.segments = s.followedBy [] := by
  unfold flush
  split
  · next h => rw [followedBy_of_buffer h, List.append_nil]
  · next h =>
    obtain ⟨c, t, ht⟩ := List.exists_cons_of_ne_nil h
    simp only [followedBy, ht, Segment.prependText]

/-- The text before an expression is a literal of its own. -/
theorem followedBy_interpolation (s : Scanner) (n : Nat) (source : Text) (after : List Segment) :
    s.followedBy (.interpolation n source :: after) =
      s.followedBy [] ++ .interpolation n source :: after := by
  unfold followedBy
  rw [List.append_assoc]
  cases s.buffer with
  | nil => rfl
  | cons c t => rfl

theorem followedBy_collect (q : Quote) (s : Scanner) (p : Piece) (after : List Segment) :
    (s.collect q p).followedBy after = s.followedBy (Segment.prepend q (s.position, p) after) := by
  cases p with
  | span source =>
    have hspan : (s.collect q (.span source)).buffer = [] := s.buffer_flush
    rw [followedBy_of_buffer hspan, Segment.prepend, followedBy_interpolation, ← segments_flush]
    exact List.append_assoc ..
  | joined lineEnd | opener | backslash | quotes n | char c => exact s.followedBy_append _ after

/-! ## One scan -/

/-- Whether a scanner reads the same source as another, and requires the same quote. -/
def SameSource (s s' : Scanner) : Prop := s'.source = s.source ∧ s'.required = s.required

theorem SameSource.trans {s₁ s₂ s₃ : Scanner} (h : SameSource s₁ s₂) (h' : SameSource s₂ s₃) :
    SameSource s₁ s₃ :=
  ⟨h'.1.trans h.1, h'.2.trans h.2⟩

theorem sameSource_append (s : Scanner) (t : Text) : SameSource s (s.append t) := by
  unfold append
  split <;> exact ⟨rfl, rfl⟩

theorem sameSource_flush (s : Scanner) : SameSource s s.flush := by
  unfold flush
  split <;> exact ⟨rfl, rfl⟩

theorem sameSource_take (q : Quote) (s : Scanner) (p : Piece) : SameSource s (s.take q p) := by
  cases p with
  | span source => exact s.sameSource_flush
  | joined lineEnd | opener | backslash | quotes n | char c => exact s.sameSource_append _

/-- Whether `s'` has collected what a scan found, behind what `s` has collected. -/
structure Collected (q : Quote) (s s' : Scanner) (found : Scan) : Prop where
  same : SameSource s s'
  position : s'.position = found.offset
  followedBy : ∀ after,
    s'.followedBy after = s.followedBy (Segment.assemble q found.pieces after)

/-- A scanner collects the pieces of what is left of its source, and stops where the body ends. -/
theorem scan_collected (q : Quote) (s : Scanner) :
    (s.scan q).1 = (Scan.body q s.position (s.source.drop s.position)).ending ∧
      Collected q s (s.scan q).2 (Scan.body q s.position (s.source.drop s.position)) := by
  fun_induction scan q s with
  | case1 s e h =>
    rw [Scan.body_ending (next_of_step_inl h)]
    exact ⟨rfl, ⟨rfl, rfl⟩, rfl, fun after => rfl⟩
  | case2 s next h ih =>
    obtain ⟨p, rfl, hnext⟩ := exists_of_step_inr h
    obtain ⟨hending, hscan⟩ := ih
    rw [Scan.body_piece hnext]
    refine ⟨hending, (s.sameSource_take q p).trans hscan.same, hscan.position, fun after => ?_⟩
    rw [hscan.followedBy]
    exact s.followedBy_collect q p _

/-! ## One call -/

theorem sameSource_close (q : Quote) (s : Scanner) (e : Ending) :
    SameSource s (s.close q e).2 := by
  simp only [close]
  split
  · exact ⟨rfl, rfl⟩
  · exact (s.sameSource_append _).trans (sameSource_flush _)

theorem sameSource_tokenize (s : Scanner) : SameSource s s.tokenize.2 := by
  simp only [tokenize]
  split
  · exact ⟨rfl, rfl⟩
  · next o _ =>
    have hscan := (scan_collected o.quote
      { s with position := o.offset, quote := some o.quote }).2
    exact SameSource.trans hscan.same (sameSource_close ..)

/-- Where a scanner ends that reads its source to the end: its segments are the answer, there is
nothing in the buffer, and it stands at the end of the source. -/
structure Completes (s : Scanner) (segments : List Segment)
    (result : Except Malformed (List Segment) × Scanner) : Prop where
  answer : result.1 = .ok segments
  segments : result.2.segments = segments
  buffer : result.2.buffer = []
  position : result.2.position = s.source.length

/-- The fault of the body is the answer, or the segments with those of the closing run. -/
theorem close_eq (q : Quote) (s : Scanner) {found : Scan} (hposition : s.position = found.offset) :
    (∀ error, found.verdict q s.source.length = .error error →
      (s.close q found.ending).1 = .error error) ∧
    ∀ n, found.verdict q s.source.length = .ok n →
      Completes s (s.followedBy (Segment.closing q found.offset n)) (s.close q found.ending) := by
  have hverdict : found.verdict q s.source.length =
      (⟨[], found.ending, s.position, s.source.drop s.position⟩ : Scan).verdict q
        s.source.length := by
    rw [hposition]
    rfl
  rw [hverdict]
  refine ⟨fun error h => ?_, fun n h => ?_⟩
  · simp only [close, h]
  · have hclosed : found.ending = .closed n := by
      simp only [Scan.verdict] at h
      split at h
      · cases h
        assumption
      all_goals cases h
    have hsegments : (s.append (q.run (n - 3))).flush.segments =
        s.followedBy (Segment.closing q found.offset n) := by
      rw [segments_flush, followedBy_append, hposition, Segment.closing]
    simp only [close, h]
    exact ⟨congrArg Except.ok hsegments, hsegments, buffer_flush _, by rw [stop, hclosed]⟩

/-- A call starts at the start of the source, whatever happened before. -/
theorem tokenize_spec (s : Scanner) :
    match lex s.required s.source with
    | .error error => s.tokenize.1 = .error error
    | .ok segments => Completes s (s.followedBy segments) s.tokenize := by
  rw [lex_eq, tokenize]
  cases hread : Opened.read s.required s.source with
  | error error => rfl
  | ok o =>
    let start : Scanner := { s with position := o.offset, quote := some o.quote }
    let found : Scan := Scan.body o.quote o.offset o.body
    obtain ⟨hending, hscan⟩ : (start.scan o.quote).1 = found.ending ∧
        Collected o.quote start (start.scan o.quote).2 found := by
      have hstart := scan_collected o.quote start
      rwa [show start.source.drop start.position = o.body from Opened.drop_of_read hread] at hstart
    obtain ⟨hfault, hclosed⟩ := close_eq o.quote _ hscan.position
    rw [hscan.same.1, ← hending] at hfault hclosed
    have hsegments : o.segments s.source.length =
        (found.verdict o.quote s.source.length).map fun n =>
          Segment.assemble o.quote found.pieces (Segment.closing o.quote found.offset n) := by
      rw [Opened.segments]
      cases found.verdict o.quote s.source.length <;> rfl
    have hlex : (Except.ok o >>= fun o => o.segments s.source.length) =
        o.segments s.source.length := rfl
    rw [hlex, hsegments]
    cases hverdict : found.verdict o.quote s.source.length with
    | error error => exact hfault error hverdict
    | ok n =>
      obtain ⟨hanswer, hall, hbuffer, hposition⟩ := hclosed n hverdict
      rw [hscan.followedBy] at hanswer hall
      rw [hscan.same.1] at hposition
      exact ⟨hanswer, hall, hbuffer, hposition⟩

theorem tokenize_of_lex_error (h : lex s.required s.source = .error error) :
    s.tokenize.1 = .error error := by
  have hspec := s.tokenize_spec
  rwa [h] at hspec

/-- The segments of the source are added to what was there. -/
theorem tokenize_of_lex (h : lex s.required s.source = .ok segments) :
    Completes s (s.followedBy segments) s.tokenize := by
  have hspec := s.tokenize_spec
  rwa [h] at hspec

/-! ## Many calls -/

theorem after_cons (s : Scanner) (call : Call) (calls : List Call) :
    s.after (call :: calls) = (s.perform call).2.after calls := rfl

theorem sameSource_after (s : Scanner) (calls : List Call) : SameSource s (s.after calls) := by
  induction calls generalizing s with
  | nil => exact ⟨rfl, rfl⟩
  | cons call calls ih =>
    cases call with
    | peek ahead => exact ih s
    | tokenize => exact s.sameSource_tokenize.trans (ih s.tokenize.2)

theorem SameSource.lex_eq (h : SameSource s s') :
    lex s'.required s'.source = lex s.required s.source := by
  rw [h.1, h.2]

/-- If nothing is in the buffer, each call of `tokenize` adds the segments of the source, and no
call leaves anything in the buffer. -/
theorem followedBy_after (h : lex s.required s.source = .ok segments) (hbuffer : s.buffer = [])
    (calls : List Call) (after : List Segment) :
    (s.after calls).followedBy after =
      s.segments ++ ((List.replicate (calls.count .tokenize) segments).flatten ++ after) := by
  induction calls generalizing s with
  | nil => exact followedBy_of_buffer hbuffer after
  | cons call calls ih =>
    cases call with
    | peek ahead =>
      rw [List.count_cons_of_ne (by simp)]
      exact ih h hbuffer
    | tokenize =>
      have hcall := tokenize_of_lex h
      have hmore := ih (s.sameSource_tokenize.lex_eq.trans h) hcall.buffer
      rw [hcall.segments, followedBy_of_buffer hbuffer] at hmore
      rw [after_cons, perform, hmore, List.count_cons_self, List.replicate_succ,
        List.flatten_cons, List.append_assoc, List.append_assoc]

/-- What a scanner has been asked before makes no difference: each call of `tokenize` finds the
fault of the source, or, the `k`-th time, `k` copies of the segments of the source in a row, with
nothing left in the buffer and the position at the end. Looking ahead changes nothing. -/
theorem tokenize_after_calls (required : Option Quote) (source : Text) :
    (∀ calls ahead, (((new required source).after calls).perform (.peek ahead)).2 =
      (new required source).after calls) ∧
    ((∃ error, lex required source = .error error ∧
      ∀ calls, ((new required source).after calls).tokenize.1 = .error error) ∨
    ∃ segments, lex required source = .ok segments ∧
      ∀ calls, ∃ s, ((new required source).after calls).tokenize =
          (.ok (List.replicate (calls.count .tokenize + 1) segments).flatten, s) ∧
        s.position = source.length ∧ s.buffer = []) := by
  refine ⟨fun calls ahead => rfl, ?_⟩
  have hsame := sameSource_after (new required source)
  cases hlex : lex required source with
  | error error =>
    refine .inl ⟨error, rfl, fun calls => ?_⟩
    exact tokenize_of_lex_error ((hsame calls).lex_eq.trans hlex)
  | ok segments =>
    refine .inr ⟨segments, rfl, fun calls => ?_⟩
    obtain ⟨hanswer, -, hbuffer, hposition⟩ :=
      tokenize_of_lex ((hsame calls).lex_eq.trans hlex)
    refine ⟨_, Prod.ext ?_ rfl, hposition.trans (congrArg List.length (hsame calls).1), hbuffer⟩
    rw [hanswer, followedBy_after hlex rfl, List.replicate_succ', List.flatten_append,
      List.flatten_singleton]
    rfl

end Scanner

end TripleQuote
