import TripleQuote.Template.Segment
import TripleQuote.Text.Blank

/-! # Pieces of a body

The body of a template is read piece by piece. `Piece.next` finds the piece that a body starts
with, or the reason why the body ends there; `Piece.spelling` is the way back. -/

namespace TripleQuote

/-- A piece of the body of a template. -/
inductive Piece where
  /-- A backslash and a line end: the lines are joined. -/
  | joined (lineEnd : Text)
  /-- A backslash before `$` and a brace: the two stand for themselves. -/
  | opener
  /-- A backslash before anything else. -/
  | backslash
  /-- An expression between `$` with a brace and the first closing brace. -/
  | span (source : Text)
  /-- A run of the quotes that delimit the template. -/
  | quotes (n : Nat)
  | char (c : Char)
deriving DecidableEq, Repr

/-- Why a body ends. -/
inductive Ending where
  /-- With a run of `n` quotes and white space. -/
  | closed (n : Nat)
  /-- Without a delimiter. -/
  | unterminated
  /-- In an expression without a closing brace. -/
  | openSpan
  /-- With an expression of white space only. -/
  | emptySpan
  /-- With a delimiter that more text follows. -/
  | bareDelimiter
deriving DecidableEq, Repr

/-- What a body starts with. -/
inductive Head where
  | piece (p : Piece) (rest : Text)
  | ending (e : Ending)
deriving DecidableEq, Repr

namespace Piece

/-- How a piece is written in a template with quotes `q`. -/
def spelling (q : Quote) : Piece → Text
  | joined lineEnd => '\\' :: lineEnd
  | opener => ['\\', '$', '{']
  | backslash => ['\\']
  | span source => '$' :: '{' :: source ++ ['}']
  | quotes n => q.run n
  | char c => [c]

/-- What the text after a backslash makes of it. -/
def afterBackslash : Text → Piece × Text
  | '\n' :: rest => (joined ['\n'], rest)
  | '\r' :: '\n' :: rest => (joined ['\r', '\n'], rest)
  | '\r' :: rest => (joined ['\r'], rest)
  | '$' :: '{' :: rest => (opener, rest)
  | rest => (backslash, rest)

/-- The expression that ends at the first closing brace. -/
def afterOpener (s : Text) : Head :=
  match s.dropWhile (· != '}') with
  | [] => .ending .openSpan
  | _ :: rest =>
    if Text.blank (s.takeWhile (· != '}')) then .ending .emptySpan
    else .piece (span (s.takeWhile (· != '}'))) rest

/-- A run of `n` quotes, by what follows it. Fewer than three quotes are text. Three or more end
the body if only white space follows, and stand for three fewer if anything else does, so that
exactly three cannot be meant. -/
def ofRun (n : Nat) (rest : Text) : Head :=
  if n < 3 then .piece (quotes n) rest
  else if Text.blank rest then .ending (.closed n)
  else if n = 3 then .ending .bareDelimiter
  else .piece (quotes n) rest

/-- What a body starts with, in a template with quotes `q`. -/
def next (q : Quote) : Text → Head
  | [] => .ending .unterminated
  | '\\' :: rest => let (p, rest) := afterBackslash rest; .piece p rest
  | '$' :: '{' :: rest => afterOpener rest
  | c :: rest =>
    if c = q.char then
      ofRun (1 + (rest.takeWhile (· == q.char)).length) (rest.dropWhile (· == q.char))
    else .piece (char c) rest

theorem afterBackslash_spelling (q : Quote) (s : Text) :
    (afterBackslash s).1.spelling q ++ (afterBackslash s).2 = '\\' :: s := by
  fun_cases afterBackslash s <;> rfl

theorem afterOpener_spelling (q : Quote) {s : Text} {p : Piece} {rest : Text}
    (h : afterOpener s = .piece p rest) : p.spelling q ++ rest = '$' :: '{' :: s := by
  unfold afterOpener at h
  have hsplit := List.takeWhile_append_dropWhile (p := (· != '}')) (l := s)
  have hhead := List.head?_dropWhile_not (· != '}') s
  split at h
  · cases h
  · next c tail hd =>
    rw [hd] at hsplit hhead
    split at h
    · cases h
    · cases h
      have hc : c = '}' := by simpa using hhead
      subst hc
      simpa [spelling] using hsplit

theorem ofRun_spelling (q : Quote) {n : Nat} {s : Text} {p : Piece} {rest : Text}
    (h : ofRun n s = .piece p rest) : p.spelling q ++ rest = q.run n ++ s := by
  unfold ofRun at h
  split at h
  · cases h; rfl
  · split at h
    · cases h
    · split at h
      · cases h
      · cases h; rfl

/-- The run of quotes that a text goes on with. -/
theorem run_append_dropWhile (q : Quote) (s : Text) :
    q.run (s.takeWhile (· == q.char)).length ++ s.dropWhile (· == q.char) = s := by
  have hrun : s.takeWhile (· == q.char) = q.run (s.takeWhile (· == q.char)).length := by
    refine List.eq_replicate_iff.mpr ⟨rfl, fun c hc => ?_⟩
    have hall := List.all_takeWhile (p := (· == q.char)) (l := s)
    simpa using List.all_eq_true.mp hall c hc
  rw [← hrun]
  exact List.takeWhile_append_dropWhile

/-- A body that starts with a piece starts with its spelling. -/
theorem next_spelling {q : Quote} {s : Text} {p : Piece} {rest : Text}
    (h : next q s = .piece p rest) : p.spelling q ++ rest = s := by
  unfold next at h
  split at h
  · cases h
  · next tail =>
    cases h
    exact afterBackslash_spelling q tail
  · exact afterOpener_spelling q h
  · next c tail _ _ =>
    split at h
    · next hc =>
      rw [ofRun_spelling q h, hc, Nat.add_comm, Quote.run, List.replicate_succ,
        List.cons_append]
      exact congrArg (q.char :: ·) (run_append_dropWhile q tail)
    · cases h; rfl

/-- A run that is a piece is the piece of all its quotes. -/
theorem ofRun_quotes {n : Nat} {s : Text} {p : Piece} {rest : Text}
    (h : ofRun n s = .piece p rest) : p = quotes n := by
  unfold ofRun at h
  split at h
  · cases h; rfl
  · split at h
    · cases h
    · split at h
      · cases h
      · cases h; rfl

/-- A piece takes at least one character. -/
theorem next_spelling_ne_nil {q : Quote} {s : Text} {p : Piece} {rest : Text}
    (h : next q s = .piece p rest) : p.spelling q ≠ [] := by
  unfold next at h
  split at h
  · cases h
  · next tail =>
    cases h
    fun_cases afterBackslash tail <;> simp [spelling]
  · unfold afterOpener at h
    split at h
    · cases h
    · split at h
      · cases h
      · cases h; simp [spelling]
  · next c tail _ _ =>
    split at h
    · rw [ofRun_quotes h]
      simp [spelling, Quote.run, Nat.add_comm 1]
    · cases h; simp [spelling]

theorem next_length {q : Quote} {s : Text} {p : Piece} {rest : Text}
    (h : next q s = .piece p rest) : rest.length < s.length := by
  have hs := congrArg List.length (next_spelling h)
  have hp := List.length_pos_iff.mpr (next_spelling_ne_nil h)
  rw [List.length_append] at hs
  omega

/-- What a piece puts into the output as text. -/
def text (q : Quote) : Piece → Text
  | joined _ => []
  | opener => ['$', '{']
  | backslash => ['\\']
  | span _ => []
  | quotes n => q.run (if n < 3 then n else n - 3)
  | char c => [c]

end Piece

end TripleQuote
