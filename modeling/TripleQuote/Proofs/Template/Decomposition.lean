import TripleQuote.Proofs.Template.Fits
import TripleQuote.Template.Lexer

/-! # Decompositions of templates

A template is white space, an opening delimiter, pieces, a closing run of at least three quotes and
white space; a `Decomposition` is a way to cut a template into such parts.

A scan finds the pieces of a decomposition (`Scan.body_spell`) and never anything else
(`Scan.exists_pieces`), so the text of a decomposition determines it
(`Decomposition.text_injective`). -/

namespace TripleQuote

variable {s : Text}

/-! ## Pieces in a row -/

namespace Piece

/-- How pieces are written one after the other. -/
def spell (q : Quote) (ps : List Piece) : Text := ps.flatMap (spelling q)

/-- Pieces that are written one after the other, the first at `pos`, with their offsets. -/
def place (q : Quote) (pos : Nat) : List Piece → List (Nat × Piece)
  | [] => []
  | p :: ps => (pos, p) :: place q (pos + (p.spelling q).length) ps

/-- Whether each piece fits before the pieces after it and the text `last` behind them. -/
def AllFit (q : Quote) : List Piece → Text → Prop
  | [], _ => True
  | p :: ps, last => p.Fits q (spell q ps ++ last) ∧ AllFit q ps last

@[simp] theorem spell_nil (q : Quote) : spell q [] = [] := rfl

@[simp] theorem spell_cons (q : Quote) (p : Piece) (ps : List Piece) :
    spell q (p :: ps) = p.spelling q ++ spell q ps := rfl

@[simp] theorem map_snd_place (q : Quote) (pos : Nat) (ps : List Piece) :
    (place q pos ps).map Prod.snd = ps := by
  induction ps generalizing pos with
  | nil => rfl
  | cons p ps ih => simp [place, ih]

end Piece

/-! ## Scans -/

namespace Scan

open Piece

/-- A scan finds pieces that fit, if they are followed by the end of the body. -/
theorem body_spell {ps : List Piece} {last : Text} {e : Ending} (pos : Nat)
    (hps : AllFit q ps last) (hlast : Text.blank last = false)
    (he : Piece.next q last = .ending e) :
    body q pos (spell q ps ++ last) =
      ⟨place q pos ps, e, pos + (spell q ps).length, last⟩ := by
  induction ps generalizing pos with
  | nil => exact body_ending he
  | cons p ps ih =>
    have hrest : Text.blank (spell q ps ++ last) = false := by
      rw [Text.blank_append, hlast, Bool.and_false]
    have hnext := hps.1.next hrest
    rw [spell_cons, List.append_assoc, body_piece hnext, ih _ hps.2]
    simp [place, Nat.add_assoc]

/-- Every scan finds pieces that fit before what it leaves. -/
theorem exists_pieces (q : Quote) (pos : Nat) (s : Text) :
    ∃ ps last e, AllFit q ps last ∧ Piece.next q last = .ending e ∧ s = spell q ps ++ last ∧
      body q pos s = ⟨place q pos ps, e, pos + (spell q ps).length, last⟩ := by
  fun_induction body q pos s with
  | case1 pos s e h => exact ⟨[], s, e, trivial, h, rfl, rfl⟩
  | case2 pos s p rest h more ih =>
    obtain ⟨ps, last, e, hps, he, rfl, hmore⟩ := ih
    refine ⟨p :: ps, last, e, ⟨fits_of_next h, hps⟩, he, ?_, ?_⟩
    · rw [spell_cons, List.append_assoc, next_spelling h]
    · simp [more, hmore, place, Nat.add_assoc]

end Scan

/-! ## Openers -/

namespace Opened

theorem trimStart_delimiter {w : Text} (hw : Text.blank w = true) (q : Quote) (body : Text) :
    Text.trimStart (w ++ (q.delimiter ++ body)) = q.char :: q.char :: q.char :: body := by
  rw [Text.trimStart_append_of_blank _ hw, Text.trimStart]
  exact List.dropWhile_cons_of_neg (by simp [q.isBlank_char])

theorem takeWhile_delimiter {w : Text} (hw : Text.blank w = true) (q : Quote) (body : Text) :
    (w ++ (q.delimiter ++ body)).takeWhile isBlank = w := by
  rw [List.takeWhile_append_of_pos (List.all_eq_true.mp hw)]
  have : (q.delimiter ++ body).takeWhile isBlank = [] :=
    List.takeWhile_cons_of_neg (by simp [q.isBlank_char])
  rw [this, List.append_nil]

/-- A delimiter after white space is read, unless the other one is required. -/
theorem read_delimiter {required : Option Quote} {w : Text} (hw : Text.blank w = true)
    (hq : ∀ r ∈ required, q = r) (body : Text) :
    read required (w ++ (q.delimiter ++ body)) = .ok ⟨q, w.length + 3, body⟩ := by
  simp only [read, trimStart_delimiter hw, takeWhile_delimiter hw, Quote.ofChar?_char,
    decide_true, Bool.and_self, if_true]
  cases required with
  | none => rfl
  | some r => simp [hq r rfl]

theorem eq_of_read {required : Option Quote} {o : Opened} (h : read required s = .ok o) :
    (∀ r ∈ required, o.quote = r) ∧
      ∃ w, Text.blank w = true ∧ s = w ++ (o.quote.delimiter ++ o.body) := by
  have hw : Text.blank (s.takeWhile isBlank) = true := List.all_takeWhile
  have hs := Text.takeWhile_append_trimStart s
  unfold read at h
  split at h
  · next a b c body ht =>
    split at h
    · next q hq =>
      split at h
      · next habc =>
        have hqa := Quote.char_eq_of_ofChar? hq
        simp only [Bool.and_eq_true, decide_eq_true_eq] at habc
        obtain ⟨rfl, rfl⟩ := habc
        have hread : s = s.takeWhile isBlank ++ (q.delimiter ++ body) := by
          rw [ht, ← hqa] at hs
          exact hs.symm
        cases required with
        | none =>
          cases h
          exact ⟨by simp, _, hw, hread⟩
        | some r =>
          simp only at h
          split at h
          · next hqr =>
            cases h
            exact ⟨by simpa using hqr, _, hw, hread⟩
          · cases h
      · cases h
    · cases h
  · cases h

/-- A template that is opened starts with white space and its delimiter. -/
theorem exists_of_read {required : Option Quote} {o : Opened} (h : read required s = .ok o) :
    (∀ r ∈ required, o.quote = r) ∧
      ∃ w, Text.blank w = true ∧ s = w ++ (o.quote.delimiter ++ o.body) ∧
        o.offset = w.length + 3 := by
  obtain ⟨hq, w, hw, hs⟩ := eq_of_read h
  rw [hs, read_delimiter hw hq, Except.ok.injEq] at h
  exact ⟨hq, w, hw, hs, (congrArg Opened.offset h).symm⟩

end Opened

/-! ## Decompositions -/

/-- A way to cut a template into white space, a delimiter, pieces that fit, a closing run of
`extra + 3` quotes and white space. -/
structure Decomposition where
  leading : Text
  quote : Quote
  pieces : List Piece
  extra : Nat
  trailing : Text
  leading_blank : Text.blank leading = true
  trailing_blank : Text.blank trailing = true
  fits : Piece.AllFit quote pieces (quote.run (extra + 3) ++ trailing)

namespace Decomposition

open Piece

/-- What follows the pieces. -/
def last (d : Decomposition) : Text := d.quote.run (d.extra + 3) ++ d.trailing

/-- The template that is cut. -/
def text (d : Decomposition) : Text :=
  d.leading ++ (d.quote.delimiter ++ (spell d.quote d.pieces ++ d.last))

/-- Whether the quotes are those that are required. -/
def Meets (d : Decomposition) (required : Option Quote) : Prop := ∀ r ∈ required, d.quote = r

/-- The segments of the pieces and of the closing run. -/
def segments (d : Decomposition) : List Segment :=
  let start := d.leading.length + 3
  let stop := start + (spell d.quote d.pieces).length
  Segment.assemble d.quote (place d.quote start d.pieces)
    (Segment.closing d.quote stop (d.extra + 3))

variable (d : Decomposition)

theorem blank_last : Text.blank d.last = false :=
  not_blank_of_mem (q := d.quote) (by simp [last, Quote.run])

theorem next_last : Piece.next d.quote d.last = .ending (.closed (d.extra + 3)) :=
  next_closed_iff.mpr ⟨Nat.le_add_left _ _, _, d.trailing_blank, rfl⟩

theorem read_text {required : Option Quote} (h : d.Meets required) :
    Opened.read required d.text =
      .ok ⟨d.quote, d.leading.length + 3, spell d.quote d.pieces ++ d.last⟩ :=
  Opened.read_delimiter d.leading_blank h _

theorem body_text (pos : Nat) :
    Scan.body d.quote pos (spell d.quote d.pieces ++ d.last) =
      ⟨place d.quote pos d.pieces, .closed (d.extra + 3),
        pos + (spell d.quote d.pieces).length, d.last⟩ :=
  Scan.body_spell pos d.fits d.blank_last d.next_last

/-- The text of a decomposition is a template. -/
theorem lex_text {required : Option Quote} (h : d.Meets required) :
    lex required d.text = .ok d.segments := by
  simp only [lex, d.read_text h, bind, Except.bind, d.body_text, Scan.verdict]
  rfl

/-- Pieces that fit before a closing run of `n + 3` quotes, between nothing but delimiters. -/
def ofPieces (q : Quote) (ps : List Piece) (n : Nat) (h : AllFit q ps (q.run (n + 3))) :
    Decomposition :=
  ⟨[], q, ps, n, [], rfl, rfl, by rwa [List.append_nil]⟩

/-- Pieces that fit are a template between the delimiters that are required. -/
theorem lex_ofPieces {q : Quote} {ps : List Piece} {n : Nat} {required : Option Quote}
    (hq : ∀ r ∈ required, q = r) (h : AllFit q ps (q.run (n + 3))) :
    lex required (q.delimiter ++ (spell q ps ++ q.run (n + 3))) =
      .ok (ofPieces q ps n h).segments := by
  have htext : (ofPieces q ps n h).text = q.delimiter ++ (spell q ps ++ q.run (n + 3)) := by
    simp only [text, last, ofPieces, List.nil_append, List.append_nil]
  rw [← htext]
  exact lex_text _ hq

/-- Every template is the text of a decomposition. -/
theorem exists_of_lex {required : Option Quote} {segments : List Segment}
    (h : lex required s = .ok segments) : ∃ d : Decomposition, d.text = s ∧ d.Meets required := by
  simp only [lex, bind, Except.bind] at h
  split at h
  · cases h
  · next o ho =>
    obtain ⟨hq, w, hw, rfl⟩ := Opened.eq_of_read ho
    obtain ⟨ps, last, e, hps, he, hbody, hscan⟩ := Scan.exists_pieces o.quote o.offset o.body
    rw [hscan] at h
    cases e with
    | closed n =>
      obtain ⟨hn, t, ht, rfl⟩ := next_closed_iff.mp he
      obtain ⟨m, rfl⟩ := Nat.exists_eq_add_of_le' hn
      exact ⟨⟨w, o.quote, ps, m, t, hw, ht, hps⟩, by rw [hbody]; rfl, hq⟩
    | unterminated | openSpan | emptySpan | bareDelimiter => cases h

/-- A template is cut in one way only. -/
theorem text_injective {d d' : Decomposition} (h : d.text = d'.text) : d = d' := by
  have hread := d.read_text (show d.Meets none by simp [Meets])
  rw [h, d'.read_text (show d'.Meets none by simp [Meets])] at hread
  simp only [Except.ok.injEq, Opened.mk.injEq] at hread
  obtain ⟨hquote, -, hbody⟩ := hread
  have hleading := congrArg (List.takeWhile isBlank) h
  rw [text, text, Opened.takeWhile_delimiter d.leading_blank,
    Opened.takeWhile_delimiter d'.leading_blank] at hleading
  -- Both bodies are the same text, so that their scans find the same pieces and the same ending.
  have hscan := d'.body_text 0
  rw [hbody, hquote, d.body_text] at hscan
  simp only [Scan.mk.injEq, Ending.closed.injEq] at hscan
  obtain ⟨hplaced, hclosed, -, hlast⟩ := hscan
  have hpieces := congrArg (List.map Prod.snd) hplaced
  simp only [map_snd_place] at hpieces
  have hextra : d'.extra = d.extra := by omega
  rw [last, last, hquote, hextra] at hlast
  have htrailing := List.append_cancel_left hlast
  cases d
  cases d'
  simp_all

end Decomposition

end TripleQuote
