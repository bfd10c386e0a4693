import TripleQuote.Proofs.Expr.Grammar
import TripleQuote.Proofs.Expr.Identifier

/-! # Sources of expressions

The sources that spell an expression are those whose tokens are a sentence before the end, and what
they spell is the tree of that sentence (`parse_eq_ok_iff`). -/

namespace TripleQuote

open Grammar (Sentence)

variable {s : Text} {e : Expr}

/-- The end of a source of length `n`. -/
abbrev Token.endAt (n : Nat) : Token := ⟨.finish, [], n⟩

theorem Tokenized.endAt (s : Text) : Tokenized (0 + s.length) [] [Token.endAt s.length] := by
  rw [Nat.zero_add]
  exact .finish

theorem exists_init_of_tokens {ts : List Token} (h : tokens s = .ok ts) :
    ∃ init, ts = init ++ [Token.endAt s.length] ∧ ∀ t ∈ init, t.kind ≠ .finish := by
  have hinit := (tokens_eq_ok_iff.mp h).exists_init
  rwa [Nat.zero_add] at hinit

theorem parse_of_tokens {d : Sentence}
    (h : tokens s = .ok (d.yield ++ [Token.endAt s.length])) : Expr.parse s = .ok d.tree := by
  have hlast : (Token.endAt s.length).kind = .finish := rfl
  rw [Expr.parse, h]
  simp only [Grammar.run_sentence d hlast]

theorem exists_sentence_of_parse (h : Expr.parse s = .ok e) :
    ∃ d : Sentence, tokens s = .ok (d.yield ++ [Token.endAt s.length]) ∧ d.tree = e := by
  rw [Expr.parse] at h
  split at h
  · cases h
  · next ts hts =>
    split at h
    · cases h
    · next hrun =>
      cases h
      obtain ⟨init, rfl, hinit⟩ := exists_init_of_tokens hts
      obtain ⟨d, rfl, htree⟩ := Grammar.exists_sentence_of_run hinit hrun
      exact ⟨d, hts, htree⟩

/-- A source that spells no expression has a fault of its own: its tokens are never used up. -/
theorem exists_error_of_parse (h : ∀ e, Expr.parse s ≠ .ok e) :
    ∃ error, Expr.parse s = .error error ∧ error.cause ≠ .noTokens ∧ error.source = s := by
  cases hparse : Expr.parse s with
  | ok e => exact absurd hparse (h e)
  | error error =>
    refine ⟨error, rfl, ?_⟩
    rw [Expr.parse] at hparse
    split at hparse
    · next fault position _ =>
      cases hparse
      cases fault with
      | unexpected c => exact ⟨by simp [TokenFault.cause], rfl⟩
      | unterminated => exact ⟨by simp [TokenFault.cause], rfl⟩
    · next ts hts =>
      split at hparse
      · next cause position hrun =>
        cases hparse
        obtain ⟨init, rfl, _⟩ := exists_init_of_tokens hts
        refine ⟨?_, rfl⟩
        rintro rfl
        exact Grammar.run_ne_noTokens ⟨Token.endAt s.length, by simp, rfl⟩ hrun
      · cases hparse

theorem ne_noTokens_of_parse {error : SyntaxError} (h : Expr.parse s = .error error) :
    error.cause ≠ .noTokens := by
  obtain ⟨error', herror', hcause, _⟩ :=
    exists_error_of_parse fun e he => by rw [h] at he; cases he
  cases h.symm.trans herror'
  exact hcause

/-- A source spells an expression exactly if its tokens before the end are a sentence, of which
there is only one, and spells the tree of the sentence. Every other source has a syntax error. The
identifiers of a source are the longest matches of their classes of characters, which are those
of ASCII if the source is. -/
theorem parse_eq_ok_iff (s : Text) :
    (∀ e, Expr.parse s = .ok e ↔
      ∃ ts, tokens s = .ok ts ∧ ∃ d : Sentence, d.yield = ts.dropLast ∧ d.tree = e) ∧
    (∀ d d' : Sentence, d.yield = d'.yield → d = d') ∧
    ((∀ e, Expr.parse s ≠ .ok e) →
      ∃ error, Expr.parse s = .error error ∧ error.cause ≠ .noTokens ∧ error.source = s) ∧
    ∀ ts, tokens s = .ok ts →
      ts.getLast? = some (Token.endAt s.length) ∧
      (∀ t ∈ ts, t.IdentifiedBy startsIdent isIdentChar s) ∧
      ((∀ c ∈ s, c.toNat < 128) → ∀ t ∈ ts, t.IdentifiedBy isAsciiStart isAsciiMore s) := by
  refine ⟨fun e => ⟨fun h => ?_, ?_⟩, fun d d' h => Sentence.yield_injective h,
    exists_error_of_parse, fun ts hts => ⟨?_, fun t ht => ?_, fun hascii t ht => ?_⟩⟩
  · obtain ⟨d, hd, htree⟩ := exists_sentence_of_parse h
    exact ⟨_, hd, d, List.dropLast_concat.symm, htree⟩
  · rintro ⟨ts, hts, d, hd, rfl⟩
    obtain ⟨init, rfl, _⟩ := exists_init_of_tokens hts
    rw [List.dropLast_concat] at hd
    exact parse_of_tokens (hd ▸ hts)
  · obtain ⟨init, rfl, _⟩ := exists_init_of_tokens hts
    exact List.getLast?_concat
  · exact (tokens_eq_ok_iff.mp hts).identifiedBy ht
  · exact ((tokens_eq_ok_iff.mp hts).identifiedBy ht).congr
      fun c hc => startsIdent_eq_ascii (hascii c hc)

example : Expr.parse "'it\\'s' + x.trim()" =
    .ok (.concat [.text "it's", .call (.name "x") "trim"]) := rfl

end TripleQuote
