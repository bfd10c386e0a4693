import TripleQuote.Proofs.Template.Surroundings

/-! # Exchanging the quotes

Nothing in a template depends on which of the two quotes delimits it. If every single quote of a
text becomes a double quote and every double quote a single one (`Text.exchanged`), the lexer finds
the same segments at the same offsets, with their quotes exchanged, or the same fault
(`lex_exchanged`).

A body starts with the exchanged piece (`Piece.next_exchanged`), which is as long as before. All
else follows the scan from piece to piece. -/

namespace TripleQuote

def Quote.other : Quote → Quote
  | single => double
  | double => single

/-- The other quote, if a character is one of the two, and the character itself if it is not. -/
def exchange (c : Char) : Char := (Quote.ofChar? c).elim c fun q => q.other.char

/-- A text in which the two quotes have changed places. -/
def Text.exchanged (t : Text) : Text := t.map exchange

def Segment.exchanged : Segment → Segment
  | literal n t => literal n t.exchanged
  | interpolation n source => interpolation n source.exchanged

def Malformed.Cause.exchanged : Cause → Cause
  | otherOpener q => otherOpener q.other
  | unterminated q => unterminated q.other
  | cause => cause

/-- The fault of a text in which the quotes have changed places: it is about the other quote. -/
def Malformed.exchanged (m : Malformed) : Malformed := ⟨m.cause.exchanged, m.offset⟩

def Piece.exchanged : Piece → Piece
  | joined lineEnd => joined lineEnd.exchanged
  | span source => span source.exchanged
  | char c => char (exchange c)
  | p => p

def Head.exchanged : Head → Head
  | piece p rest => piece p.exchanged rest.exchanged
  | ending e => ending e

def Scan.exchanged (scan : Scan) : Scan :=
  { scan with
    pieces := scan.pieces.map fun piece => (piece.1, piece.2.exchanged)
    rest := scan.rest.exchanged }

def Opened.exchanged (o : Opened) : Opened := ⟨o.quote.other, o.offset, o.body.exchanged⟩

variable {q : Quote} {c d : Char} {s t rest : Text}

/-! ## Characters and texts -/

theorem Quote.other_other (q : Quote) : q.other.other = q := by
  cases q <;> rfl

theorem Quote.other_inj {q r : Quote} : q.other = r.other ↔ q = r :=
  ⟨fun h => by rw [← q.other_other, h, r.other_other], congrArg other⟩

theorem exchange_char (q : Quote) : exchange q.char = q.other.char := by
  cases q <;> rfl

/-- A function that does not tell the two quotes apart. -/
theorem apply_exchange {α : Type} (f : Char → α) (h : f Quote.single.char = f Quote.double.char)
    (c : Char) : f (exchange c) = f c := by
  rw [exchange]
  cases hc : Quote.ofChar? c with
  | none => rfl
  | some q =>
    rw [← Quote.char_eq_of_ofChar? hc]
    cases q with
    | single => exact h.symm
    | double => exact h

theorem isBlank_exchange (c : Char) : isBlank (exchange c) = isBlank c := apply_exchange _ rfl c

theorem exchange_exchange (c : Char) : exchange (exchange c) = c := by
  cases hc : Quote.ofChar? c with
  | none => simp only [exchange, hc, Option.elim_none]
  | some q => rw [← Quote.char_eq_of_ofChar? hc, exchange_char, exchange_char, q.other_other]

theorem exchange_inj : exchange c = exchange d ↔ c = d :=
  ⟨fun h => by rw [← exchange_exchange c, h, exchange_exchange], congrArg exchange⟩

theorem exchange_eq_iff (hd : exchange d = d) : exchange c = d ↔ c = d := by
  have h := exchange_inj (c := c) (d := d)
  rwa [hd] at h

theorem exchange_eq_char_iff : exchange c = q.other.char ↔ c = q.char := by
  rw [← exchange_char, exchange_inj]

theorem ofChar?_exchange (c : Char) :
    Quote.ofChar? (exchange c) = (Quote.ofChar? c).map Quote.other := by
  cases hc : Quote.ofChar? c with
  | none => simp only [exchange, hc, Option.elim_none, Option.map_none]
  | some q => rw [← Quote.char_eq_of_ofChar? hc, exchange_char, Quote.ofChar?_char, Option.map_some]

namespace Text

@[simp] theorem exchanged_nil : exchanged [] = [] := rfl

@[simp] theorem exchanged_cons (c : Char) (t : Text) :
    exchanged (c :: t) = exchange c :: exchanged t := rfl

@[simp] theorem exchanged_append (t u : Text) :
    exchanged (t ++ u) = exchanged t ++ exchanged u := List.map_append

@[simp] theorem length_exchanged (t : Text) : t.exchanged.length = t.length := List.length_map _

@[simp] theorem blank_exchanged (t : Text) : blank t.exchanged = blank t := by
  rw [blank, exchanged, List.all_map, blank]
  exact congrArg (t.all ·) (funext isBlank_exchange)

theorem exchanged_exchanged (t : Text) : t.exchanged.exchanged = t := by
  have htwice : exchange ∘ exchange = id := funext exchange_exchange
  rw [exchanged, exchanged, List.map_map, htwice, List.map_id]

theorem head?_exchanged_ne (hc : exchange c = c) (h : t.head? ≠ some c) :
    t.exchanged.head? ≠ some c := by
  cases t with
  | nil => exact h
  | cons d t =>
    simp only [exchanged_cons, List.head?_cons, ne_eq, Option.some.injEq, exchange_eq_iff hc] at h ⊢
    exact h

theorem takeWhile_exchanged {p p' : Char → Bool} (h : ∀ c, p' (exchange c) = p c) (t : Text) :
    t.exchanged.takeWhile p' = exchanged (t.takeWhile p) := by
  rw [exchanged, List.takeWhile_map, show p' ∘ exchange = p from funext h, exchanged]

theorem dropWhile_exchanged {p p' : Char → Bool} (h : ∀ c, p' (exchange c) = p c) (t : Text) :
    t.exchanged.dropWhile p' = exchanged (t.dropWhile p) := by
  rw [exchanged, List.dropWhile_map, show p' ∘ exchange = p from funext h, exchanged]

end Text

theorem Quote.exchanged_run (q : Quote) (n : Nat) : (q.run n).exchanged = q.other.run n := by
  rw [run, Text.exchanged, List.map_replicate, exchange_char, run]

/-! ## Pieces -/

namespace Piece

theorem spelling_exchanged (q : Quote) (p : Piece) :
    p.exchanged.spelling q.other = (p.spelling q).exchanged := by
  cases p with
  | joined lineEnd | opener | backslash | char c => rfl
  | span source =>
    exact congrArg (fun t => '$' :: '{' :: t) (Text.exchanged_append source ['}']).symm
  | quotes n => exact (q.exchanged_run n).symm

theorem text_exchanged (q : Quote) (p : Piece) :
    p.exchanged.text q.other = (p.text q).exchanged := by
  cases p with
  | joined lineEnd | opener | backslash | span source | char c => rfl
  | quotes n => exact (q.exchanged_run _).symm

theorem afterBackslash_exchanged (s : Text) :
    afterBackslash s.exchanged =
      ((afterBackslash s).1.exchanged, (afterBackslash s).2.exchanged) := by
  fun_cases afterBackslash s with
  | case1 rest | case2 rest | case4 rest => rfl
  | case3 rest hlf =>
    exact afterBackslash_joined_cr (Text.head?_exchanged_ne rfl (head?_ne_of_ne_cons hlf))
  | case5 s hlf _ hcr hopen =>
    refine afterBackslash_backslash (Text.head?_exchanged_ne rfl (head?_ne_of_ne_cons hlf))
      (Text.head?_exchanged_ne rfl (head?_ne_of_ne_cons hcr)) fun hprefix => ?_
    have hback := hprefix.map exchange
    obtain ⟨tail, htail⟩ := hback
    exact hopen tail (htail.trans s.exchanged_exchanged).symm

theorem afterOpener_exchanged (s : Text) :
    afterOpener s.exchanged = (afterOpener s).exchanged := by
  have hclass : ∀ c, (exchange c != '}') = (c != '}') := apply_exchange (· != '}') rfl
  unfold afterOpener
  rw [Text.dropWhile_exchanged hclass, Text.takeWhile_exchanged hclass, Text.blank_exchanged]
  cases s.dropWhile (· != '}') with
  | nil => rfl
  | cons c rest =>
    simp only [Text.exchanged_cons]
    split <;> rfl

theorem ofRun_exchanged (n : Nat) (s : Text) : ofRun n s.exchanged = (ofRun n s).exchanged := by
  unfold ofRun
  rw [Text.blank_exchanged]
  split
  · rfl
  · split
    · rfl
    · split <;> rfl

/-- What a body starts with when the quotes have changed places. -/
theorem next_exchanged (q : Quote) (s : Text) :
    next q.other s.exchanged = (next q s).exchanged := by
  cases s with
  | nil => rfl
  | cons c s =>
    by_cases hquote : c = q.char
    · have hclass : ∀ c, (exchange c == q.other.char) = (c == q.char) := fun c => by
        rw [Bool.eq_iff_iff, beq_iff_eq, beq_iff_eq, exchange_eq_char_iff]
      subst hquote
      rw [Text.exchanged_cons, exchange_char, next_quote, next_quote,
        Text.takeWhile_exchanged hclass, Text.dropWhile_exchanged hclass, Text.length_exchanged,
        ofRun_exchanged]
    · by_cases hback : c = '\\'
      · subst hback
        exact congrArg (fun found => Head.piece found.1 found.2) (afterBackslash_exchanged s)
      · by_cases hopen : c = '$' ∧ s.head? = some '{'
        · obtain ⟨rfl, hs⟩ := hopen
          obtain ⟨tail, rfl⟩ := List.head?_eq_some_iff.mp hs
          exact afterOpener_exchanged tail
        · rw [next_char hquote hback fun hc hs => hopen ⟨hc, hs⟩]
          refine next_char (mt exchange_eq_char_iff.mp hquote) (mt (exchange_eq_iff rfl).mp hback)
            fun hc => Text.head?_exchanged_ne rfl fun hs => ?_
          exact hopen ⟨(exchange_eq_iff rfl).mp hc, hs⟩

end Piece

/-! ## Scans and segments -/

namespace Scan

theorem body_exchanged (q : Quote) (pos : Nat) (s : Text) :
    body q.other pos s.exchanged = (body q pos s).exchanged := by
  fun_induction body q pos s with
  | case1 pos s e h =>
    have hnext := Piece.next_exchanged q s
    rw [h] at hnext
    exact body_ending hnext
  | case2 pos s p rest h more ih =>
    have hnext := Piece.next_exchanged q s
    rw [h] at hnext
    rw [body_piece hnext, Piece.spelling_exchanged, Text.length_exchanged, ih]
    rfl

theorem verdict_exchanged (scan : Scan) (q : Quote) (size : Nat) :
    scan.exchanged.verdict q.other size = (scan.verdict q size).mapError Malformed.exchanged := by
  obtain ⟨pieces, ending, offset, rest⟩ := scan
  cases ending <;> rfl

end Scan

namespace Segment

theorem map_exchanged_prependText (pos : Nat) (t : Text) (after : List Segment) :
    (prependText pos t after).map exchanged =
      prependText pos t.exchanged (after.map exchanged) := by
  cases t with
  | nil => rfl
  | cons c t =>
    cases after with
    | nil => rfl
    | cons s after =>
      cases s with
      | literal n u => exact congrArg (literal pos · :: _) (Text.exchanged_append (c :: t) u)
      | interpolation n source => rfl

theorem map_exchanged_prepend (q : Quote) (piece : Nat × Piece) (after : List Segment) :
    (prepend q piece after).map exchanged =
      prepend q.other (piece.1, piece.2.exchanged) (after.map exchanged) := by
  obtain ⟨pos, p⟩ := piece
  have htext := p.text_exchanged q
  cases p with
  | span source => rfl
  | joined lineEnd | opener | backslash | quotes n | char c =>
    rw [prepend, map_exchanged_prependText, ← htext]
    rfl

theorem map_exchanged_assemble (q : Quote) (pieces : List (Nat × Piece)) (last : List Segment) :
    (assemble q pieces last).map exchanged =
      assemble q.other (pieces.map fun piece => (piece.1, piece.2.exchanged))
        (last.map exchanged) := by
  induction pieces with
  | nil => rfl
  | cons piece pieces ih =>
    simp only [assemble, List.map_cons, List.foldr_cons, map_exchanged_prepend] at ih ⊢
    rw [ih]

theorem map_exchanged_closing (q : Quote) (pos n : Nat) :
    (closing q pos n).map exchanged = closing q.other pos n := by
  rw [closing, map_exchanged_prependText, q.exchanged_run]
  rfl

end Segment

/-! ## Templates -/

theorem Opened.read_exchanged (required : Option Quote) (s : Text) :
    read (required.map Quote.other) s.exchanged =
      ((read required s).map exchanged).mapError Malformed.exchanged := by
  simp only [read, Text.takeWhile_exchanged isBlank_exchange, Text.length_exchanged,
    Text.trimStart, Text.dropWhile_exchanged isBlank_exchange]
  rcases s.dropWhile isBlank with _ | ⟨a, _ | ⟨b, _ | ⟨c, body⟩⟩⟩
  · rfl
  · rfl
  · rfl
  · simp only [Text.exchanged_cons, ofChar?_exchange, exchange_inj]
    cases Quote.ofChar? a with
    | none => rfl
    | some q =>
      simp only [Option.map_some]
      split
      · cases required with
        | none => rfl
        | some r =>
          simp only [Option.map_some, Quote.other_inj]
          split <;> rfl
      · rfl

theorem Opened.segments_exchanged (o : Opened) (size : Nat) :
    o.exchanged.segments size =
      ((o.segments size).map (List.map Segment.exchanged)).mapError Malformed.exchanged := by
  simp only [segments, exchanged, Scan.body_exchanged, Scan.verdict_exchanged, bind, Except.bind]
  cases (Scan.body o.quote o.offset o.body).verdict o.quote size with
  | error error => rfl
  | ok n =>
    apply congrArg Except.ok
    rw [Segment.map_exchanged_assemble, Segment.map_exchanged_closing]
    rfl

/-- A text in which the quotes have changed places has the segments of the text, or its fault, with
the quotes exchanged. -/
theorem lex_exchanged (required : Option Quote) (s : Text) :
    lex (required.map Quote.other) s.exchanged =
      ((lex required s).map (List.map Segment.exchanged)).mapError Malformed.exchanged := by
  rw [lex_eq, lex_eq, Opened.read_exchanged, Text.length_exchanged]
  cases Opened.read required s with
  | error error => rfl
  | ok o => exact o.segments_exchanged s.length

end TripleQuote
