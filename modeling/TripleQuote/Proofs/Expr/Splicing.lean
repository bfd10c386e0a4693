import TripleQuote.Proofs.Expr.Parsing
import TripleQuote.Proofs.Sequence

/-! # Sources inside sources

The tokens of a source keep their kinds and values in a longer source, at whatever position it
starts there, if what follows it does not continue its last identifier (`Tokenized.exists_append`).
The tree of a sentence depends on nothing else (`exists_sentence_of_alike`), so that the
white space around a source does not matter (`parse_trim`). -/

namespace TripleQuote

open Grammar (Sentence)

/-- Tokens that differ at most in their positions. -/
def Token.Alike (t t' : Token) : Prop := t.kind = t'.kind ∧ t.value = t'.value

variable {pos : Nat} {s u v w x : Text} {us ts vs : List Token} {kind : Token.Kind} {value : Text}

/-! ## White space -/

theorem Lexeme.isBlank_getLast (h : Lexeme kind value x) :
    ∀ c, x.getLast? = some c → isBlank c = false := by
  intro c hc
  cases h with
  | punctuation hkind =>
    cases hc
    exact isBlank_eq_false_of_punctuation hkind
  | ident hx =>
    exact isBlank_eq_false_of_isIdentChar (isIdentChar_of_mem hx c (List.mem_of_getLast? hc))
  | constant q hbody =>
    rw [← List.cons_append, List.getLast?_concat] at hc
    cases hc
    exact q.isBlank_char

namespace Tokenized

theorem ne_nil (h : Tokenized pos s ts) : ts ≠ [] := by
  obtain ⟨init, rfl, _⟩ := h.exists_init
  simp

/-- White space at the start of a source moves the tokens behind it. -/
theorem of_blank_append (h : Tokenized pos (w ++ s) ts) (hw : Text.blank w = true) :
    Tokenized (pos + w.length) s ts := by
  induction w generalizing pos with
  | nil => exact h
  | cons c w ih =>
    simp only [Text.blank, List.all_cons, Bool.and_eq_true] at hw
    have hrun := Reader.run_of_tokenized h
    rw [List.cons_append, Reader.run_of_silent_step
      (by rw [Reader.step_between, Reader.begin_blank hw.1])] at hrun
    rw [List.length_cons, Nat.add_comm w.length 1, ← Nat.add_assoc]
    exact ih (Reader.tokenized_of_run hrun) hw.2

theorem eq_of_blank (h : Tokenized pos w ts) (hw : Text.blank w = true) :
    ts = [⟨.finish, [], pos + w.length⟩] := by
  rw [← List.append_nil w] at h
  have hrun := Reader.run_of_tokenized (h.of_blank_append hw)
  cases hrun
  rfl

/-- Only the end comes behind white space at the end of a source. -/
theorem of_append_blank (h : Tokenized pos s ts) (hs : s = u ++ w) (hw : Text.blank w = true) :
    ∃ us, Tokenized pos u us ∧ us.dropLast = ts.dropLast := by
  induction h generalizing u with
  | finish =>
    obtain ⟨rfl, rfl⟩ := List.append_eq_nil_iff.mp hs.symm
    exact ⟨_, .finish, rfl⟩
  | @blank c pos s ts hc h ih =>
    cases u with
    | nil =>
      rw [List.nil_append] at hs
      rw [eq_of_blank (.blank hc h) (hs ▸ hw)]
      exact ⟨_, .finish, rfl⟩
    | cons d u =>
      obtain ⟨rfl, rfl⟩ := List.cons.inj hs
      obtain ⟨us, hus, heq⟩ := ih rfl
      exact ⟨us, .blank hc hus, heq⟩
  | @token kind value x s pos ts hx hend h ih =>
    obtain ⟨tail, rfl, rfl⟩ : ∃ tail, u = x ++ tail ∧ s = tail ++ w := by
      rcases List.append_eq_append_iff.mp hs with hsplit | ⟨more, rfl, rfl⟩
      · exact hsplit
      · -- A lexeme does not reach into the white space.
        rcases List.eq_nil_or_concat more with rfl | ⟨more, c, rfl⟩
        · exact ⟨[], by simp⟩
        · have hlast := hx.isBlank_getLast c (by simp)
          simp [Text.blank, hlast] at hw
    obtain ⟨us, hus, heq⟩ := ih rfl
    refine ⟨_, .token hx (fun hkind => (hend hkind).of_append) hus, ?_⟩
    rw [List.dropLast_cons_of_ne_nil hus.ne_nil, List.dropLast_cons_of_ne_nil h.ne_nil, heq]

/-- The tokens of a source in front of a text that does not continue it. -/
theorem exists_append (h : Tokenized pos u ts) {place : Nat} (hend : EndsIdent v)
    (hv : Tokenized (place + u.length) v vs) :
    ∃ us, List.Forall₂ Token.Alike us ts.dropLast ∧ Tokenized place (u ++ v) (us ++ vs) := by
  induction h generalizing place with
  | finish => exact ⟨[], .nil, hv⟩
  | @blank c pos s ts hc h ih =>
    rw [List.length_cons, Nat.add_comm s.length 1, ← Nat.add_assoc] at hv
    obtain ⟨us, halike, hus⟩ := ih hv
    exact ⟨us, halike, .blank hc hus⟩
  | @token kind value x s pos ts hx hstop h ih =>
    rw [List.length_append, ← Nat.add_assoc] at hv
    obtain ⟨us, halike, hus⟩ := ih hv
    rw [List.dropLast_cons_of_ne_nil h.ne_nil]
    refine ⟨⟨kind, value, place⟩ :: us, .cons ⟨rfl, rfl⟩ halike, ?_⟩
    rw [List.append_assoc]
    exact .token hx (fun hkind => (hstop hkind).append hend) hus

end Tokenized

/-! ## Trees -/

theorem Token.Alike.step {t t' : Token} (h : t.Alike t') (state : Parser.State) :
    Parser.step state t = Parser.step state t' := by
  obtain ⟨kind, value, _⟩ := t
  obtain ⟨rfl, rfl⟩ := h
  rfl

/-- The parser finds the same tree in tokens that are alike. -/
theorem Parser.run_alike {state : State} {e : Expr} (h : List.Forall₂ Token.Alike us ts)
    (hrun : run state ts = .ok e) : run state us = .ok e := by
  induction h generalizing state with
  | nil => exact hrun
  | @cons t t' us ts ht _ ih =>
    rw [run_cons] at hrun ⊢
    rw [ht.step]
    split at hrun
    · cases hrun
    · exact ih hrun
    · exact hrun

theorem exists_sentence_of_alike {d : Sentence} (h : List.Forall₂ Token.Alike us d.yield)
    (hus : ∀ t ∈ us, t.kind ≠ .finish) : ∃ d' : Sentence, d'.yield = us ∧ d'.tree = d.tree := by
  have hend : (Token.endAt 0).kind = .finish := rfl
  have halike : List.Forall₂ Token.Alike (us ++ [Token.endAt 0]) (d.yield ++ [Token.endAt 0]) :=
    List.rel_append h (.cons ⟨rfl, rfl⟩ .nil)
  exact Grammar.exists_sentence_of_run hus
    (Parser.run_alike halike (Grammar.run_sentence d hend))

/-- A source that is a sentence is one with the same tree in front of a text that does not continue
it. -/
theorem Tokenized.exists_sentence_append {d : Sentence} (h : Tokenized pos u ts)
    (hd : ts.dropLast = d.yield) {place : Nat} (hend : EndsIdent v)
    (hv : Tokenized (place + u.length) v vs) :
    ∃ d' : Sentence, d'.tree = d.tree ∧ Tokenized place (u ++ v) (d'.yield ++ vs) := by
  obtain ⟨us, halike, hus⟩ := h.exists_append hend hv
  obtain ⟨init, rfl, hinit⟩ := h.exists_init
  rw [List.dropLast_concat] at hd halike
  subst hd
  have hkind : ∀ t ∈ us, t.kind ≠ .finish := by
    intro t ht
    obtain ⟨t', ht', heq⟩ := exists_mem_of_forall₂ halike t ht
    rw [heq.1]
    exact hinit t' ht'
  obtain ⟨d', rfl, htree⟩ := exists_sentence_of_alike halike hkind
  exact ⟨d', htree, hus⟩

theorem exists_sentence_append_of_parse {e : Expr} (h : Expr.parse u = .ok e) {place : Nat}
    (hend : EndsIdent v) (hv : Tokenized (place + u.length) v vs) :
    ∃ d : Sentence, d.tree = e ∧ Tokenized place (u ++ v) (d.yield ++ vs) := by
  obtain ⟨d, htokens, rfl⟩ := exists_sentence_of_parse h
  exact (tokens_eq_ok_iff.mp htokens).exists_sentence_append List.dropLast_concat hend hv

theorem blank_eq_false_of_parse {e : Expr} (h : Expr.parse s = .ok e) : Text.blank s = false := by
  obtain ⟨d, htokens, _⟩ := exists_sentence_of_parse h
  rw [Bool.eq_false_iff]
  intro hblank
  -- White space has no tokens, and a sentence has one.
  have hlength := congrArg List.length ((tokens_eq_ok_iff.mp htokens).eq_of_blank hblank)
  simp [Sentence.yield, Grammar.Term.yield] at hlength

/-- What a source spells does not depend on the white space around it. -/
theorem parse_trim {e : Expr} (h : Expr.parse s = .ok e) : Expr.parse s.trim = .ok e := by
  obtain ⟨d, htokens, rfl⟩ := exists_sentence_of_parse h
  obtain ⟨after, hsplit, hafter⟩ := Text.exists_trim s
  have hsource := tokens_eq_ok_iff.mp htokens
  rw [hsplit] at hsource
  obtain ⟨us, hus, heq⟩ :=
    (hsource.of_blank_append List.all_takeWhile).of_append_blank rfl hafter
  rw [List.dropLast_concat] at heq
  obtain ⟨d', htree, hd'⟩ := hus.exists_sentence_append heq .nil (.endAt s.trim)
  rw [List.append_nil] at hd'
  rw [← htree]
  exact parse_of_tokens (tokens_eq_ok_iff.mpr hd')

end TripleQuote
