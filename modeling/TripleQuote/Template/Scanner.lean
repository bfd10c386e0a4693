import TripleQuote.Template.Lexer

/-! # Scanners

A scanner reads one source, any number of times. Each scan starts at the start of the source and
collects text in a buffer, which becomes a literal where an expression follows or the template ends.
Nothing but the position and the quote is set back when a scan starts: it goes on collecting where
the last one left off, and that may have been in the middle of a template. -/

namespace TripleQuote

structure Scanner where
  source : Text
  required : Option Quote
  position : Nat
  /-- The quote of the last delimiter that was read. -/
  quote : Option Quote
  /-- Text that is part of no segment yet. -/
  buffer : Text
  /-- The place of the first text in the buffer. -/
  bufferOffset : Nat
  segments : List Segment
deriving DecidableEq, Repr

namespace Scanner

def new (required : Option Quote) (source : Text) : Scanner :=
  ⟨source, required, 0, none, [], 0, []⟩

/-- The character `ahead` places after the position. -/
def peek (s : Scanner) (ahead : Nat) : Option Char := s.source[s.position + ahead]?

/-- Put text that stands at the position into the buffer. -/
def append (s : Scanner) (t : Text) : Scanner :=
  if t = [] then s
  else
    { s with
      buffer := s.buffer ++ t
      bufferOffset := if s.buffer = [] then s.position else s.bufferOffset }

/-- Make a literal of the buffer. -/
def flush (s : Scanner) : Scanner :=
  if s.buffer = [] then s
  else { s with buffer := [], segments := s.segments ++ [.literal s.bufferOffset s.buffer] }

/-- Collect a piece that stands at the position. -/
def collect (q : Quote) (s : Scanner) : Piece → Scanner
  | .span source =>
    { s.flush with segments := s.flush.segments ++ [.interpolation (s.position + 2) source] }
  | p => s.append (p.text q)

/-- Collect a piece that stands at the position, and move behind it. -/
def take (q : Quote) (s : Scanner) (p : Piece) : Scanner :=
  { s.collect q p with position := s.position + (p.spelling q).length }

/-- Take the piece at the position, or find that the body ends there. -/
def step (q : Quote) (s : Scanner) : Ending ⊕ Scanner :=
  match Piece.next q (s.source.drop s.position) with
  | .ending e => .inl e
  | .piece p _ => .inr (s.take q p)

variable {q : Quote} {s next : Scanner}

@[simp] theorem source_take (q : Quote) (s : Scanner) (p : Piece) :
    (s.take q p).source = s.source := by
  cases p with
  | span source =>
    simp only [take, collect, flush]
    split <;> rfl
  | joined lineEnd | opener | backslash | quotes n | char c =>
    simp only [take, collect, append]
    split <;> rfl

@[simp] theorem position_take (q : Quote) (s : Scanner) (p : Piece) :
    (s.take q p).position = s.position + (p.spelling q).length := rfl

theorem next_of_step_inl {e : Ending} (h : s.step q = .inl e) :
    Piece.next q (s.source.drop s.position) = .ending e := by
  unfold step at h
  split at h
  · next hnext => cases h; exact hnext
  · cases h

/-- A step that goes on takes the piece with which the source goes on. -/
theorem exists_of_step_inr (h : s.step q = .inr next) :
    ∃ p, next = s.take q p ∧
      Piece.next q (s.source.drop s.position) = .piece p (next.source.drop next.position) := by
  unfold step at h
  split at h
  · cases h
  · next p rest hnext =>
    cases h
    have hrest : s.source.drop (s.position + (p.spelling q).length) = rest := by
      rw [← List.drop_drop, ← Piece.next_spelling hnext, List.drop_left]
    exact ⟨p, rfl, by rw [source_take, position_take, hrest, hnext]⟩

/-- A step that goes on moves forward and stays within the source. -/
theorem lt_position_of_step (h : s.step q = .inr next) :
    s.position < next.position ∧ next.position ≤ s.source.length := by
  obtain ⟨p, rfl, hnext⟩ := exists_of_step_inr h
  have hspelling := congrArg List.length (Piece.next_spelling hnext)
  have hpos := List.length_pos_iff.mpr (Piece.next_spelling_ne_nil hnext)
  rw [List.length_append, List.length_drop, List.length_drop, source_take, position_take]
    at hspelling
  rw [position_take]
  omega

/-- Collect pieces up to the place where the body ends. -/
def scan (q : Quote) (s : Scanner) : Ending × Scanner :=
  match _h : s.step q with
  | .inl e => (e, s)
  | .inr next => next.scan q
termination_by s.source.length - s.position
decreasing_by
  obtain ⟨hmove, hstop⟩ := lt_position_of_step (by assumption)
  obtain ⟨p, rfl, -⟩ := exists_of_step_inr (by assumption)
  rw [source_take]
  omega

/-- Where a scan of a source of length `size` stops. -/
def stop (scan : Scan) (size : Nat) : Nat :=
  match scan.ending with
  | .closed _ => size
  | .unterminated | .openSpan | .emptySpan => scan.offset
  | .bareDelimiter => scan.offset + 3

/-- Answer all segments collected so far, or the fault, where the body ends. -/
def close (q : Quote) (s : Scanner) (e : Ending) : Except Malformed (List Segment) × Scanner :=
  let last : Scan := ⟨[], e, s.position, s.source.drop s.position⟩
  let position := stop last s.source.length
  match last.verdict q s.source.length with
  | .error error => (.error error, { s with position := position })
  | .ok n =>
    let s := (s.append (q.run (n - 3))).flush
    (.ok s.segments, { s with position := position })

/-- Scan the source from its start. -/
def tokenize (s : Scanner) : Except Malformed (List Segment) × Scanner :=
  match Opened.read s.required s.source with
  | .error e => (.error e, { s with position := (s.source.takeWhile isBlank).length })
  | .ok o =>
    let (e, s) := scan o.quote { s with position := o.offset, quote := some o.quote }
    s.close o.quote e

/-- What can be asked of a scanner. -/
inductive Call where
  | peek (ahead : Nat)
  | tokenize
deriving DecidableEq, Repr

/-- What a scanner answers. -/
inductive Answer where
  | char (c : Option Char)
  | segments (result : Except Malformed (List Segment))

/-- The answer to a call, and the scanner after it. -/
def perform (s : Scanner) : Call → Answer × Scanner
  | .peek ahead => (.char (s.peek ahead), s)
  | .tokenize => (.segments s.tokenize.1, s.tokenize.2)

/-- A scanner after calls, one after the other. -/
def after (s : Scanner) (calls : List Call) : Scanner :=
  calls.foldl (fun s call => (s.perform call).2) s

end Scanner

end TripleQuote
