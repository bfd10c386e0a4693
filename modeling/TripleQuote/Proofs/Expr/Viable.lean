import TripleQuote.Proofs.Expr.Splicing
import TripleQuote.Proofs.Expr.SyntaxErrors

/-! # The first place that cannot be continued

A syntax error is neither too early nor too late (`first_misfit_of_parse`). The tokens before one
that does not fit are the start of a sentence, whatever state the parser is in
(`Grammar.Reads.exists_completion`), and no sentence goes on with that token
(`Parser.Leads.not_prefix`). Where there are no tokens, a character that starts none is fatal
whatever comes after it, and a constant that does not end can be ended. -/

namespace TripleQuote

open Grammar (Sentence Term Operands Terminal)

variable {s : Text} {q : Quote} {c : Char} {p pos : Nat} {us ts : List Token} {t : Token}

/-! ## Tokens that can be continued -/

namespace Grammar

/-- What the parser has read can be completed. -/
theorem Reads.exists_completion {state : Parser.State} (h : Reads us state) :
    ∃ d : Sentence, us <+: d.yield := by
  let ident : Terminal .ident := ⟨⟨.ident, ['x'], 0⟩, rfl⟩
  let closeParen : Terminal .closeParen := ⟨⟨.closeParen, [')'], 0⟩, rfl⟩
  cases h with
  | operand done =>
    obtain ⟨d, hyield, _⟩ := exists_sentence done ⟨.name ident, []⟩
    exact ⟨d, _, hyield.symm⟩
  | term done term =>
    obtain ⟨d, hyield, _⟩ := exists_sentence done term
    exact ⟨d, [], by rw [hyield, List.append_nil]⟩
  | member done term dot =>
    obtain ⟨d, hyield, _⟩ := exists_sentence done (term.push (.property dot ident))
    exact ⟨d, [ident.val], by simp [hyield, Term.yield_push, Access.yield]⟩
  | named done term dot name =>
    obtain ⟨d, hyield, _⟩ := exists_sentence done (term.push (.property dot name))
    exact ⟨d, [], by simp [hyield, Term.yield_push, Access.yield]⟩
  | arguments done term dot name openParen =>
    obtain ⟨d, hyield, _⟩ :=
      exists_sentence done (term.push (.method dot name openParen closeParen))
    exact ⟨d, [closeParen.val], by simp [hyield, Term.yield_push, Access.yield]⟩

end Grammar

/-! ## Tokens that cannot -/

namespace Parser.Leads

variable {state last : State}

theorem run_append (h : Leads state us last) (ts : List Token) :
    run state (us ++ ts) = run last ts := by
  induction h with
  | nil => rfl
  | cons hstep _ ih => rw [List.cons_append, Grammar.run_of_step hstep, ih]

/-- No sentence goes on with a token that the parser does not take, not even by ending there. -/
theorem not_prefix {cause : SyntaxError.Cause} (h : Leads (.operand []) us last)
    (hstep : step last t = .error cause) (d : Sentence) (finish : Terminal .finish) :
    ¬ us ++ [t] <+: d.yield ++ [finish.val] := by
  rintro ⟨rest, hrest⟩
  have hread : run (.operand []) (d.yield ++ [finish.val]) = .ok d.tree :=
    Grammar.run_sentence d finish.property
  rw [← hrest, List.append_assoc, h.run_append, List.singleton_append, run, hstep] at hread
  cases hread

end Parser.Leads

/-! ## Characters that start no token -/

namespace Reader

theorem of_step_error {state : State} {e : TokenFault × Nat} (h : step state pos c = .error e) :
    e = (.unexpected c, pos) := by
  cases state with
  | between => exact (of_begin_error h).1
  | ident start read =>
    rw [step] at h
    split at h
    · cases h
    · rw [map_eq_error_iff] at h
      exact (of_begin_error h).1
  | constant q start read =>
    rw [step] at h
    split at h
    · cases h
    · split at h <;> cases h
  | escape q start read => cases h

/-- Nothing that comes behind a character that starts no token is read. -/
theorem exists_of_run_unexpected {state : State} (h : run state pos s = .error (.unexpected c, p)) :
    ∃ before rest, s = before ++ c :: rest ∧ p = pos + before.length ∧
      ∀ more, run state pos (before ++ c :: more) = .error (.unexpected c, p) := by
  induction s generalizing pos state with
  | nil => cases state <;> cases h
  | cons d s ih =>
    cases hstep : step state pos d with
    | error e =>
      obtain rfl := of_step_error hstep
      have hrun (more : Text) : run state pos (d :: more) = .error (.unexpected d, pos) := by
        rw [run, hstep]
        rfl
      rw [hrun] at h
      cases h
      exact ⟨[], s, rfl, rfl, hrun⟩
    | ok found =>
      obtain ⟨tokens, next⟩ := found
      rw [run_of_step hstep, map_eq_error_iff] at h
      obtain ⟨before, rest, rfl, rfl, hmore⟩ := ih h
      refine ⟨d :: before, rest, rfl, by simp only [List.length_cons]; omega, fun more => ?_⟩
      rw [List.cons_append, run_of_step hstep, hmore]
      rfl

end Reader

theorem tokens_unexpected_append {before rest : Text}
    (h : tokens (before ++ c :: rest) = .error (.unexpected c, 0 + before.length)) (more : Text) :
    tokens (before ++ c :: more) = .error (.unexpected c, before.length) := by
  obtain ⟨before', rest', hsplit, hp, hmore⟩ := Reader.exists_of_run_unexpected h
  have hlength : before.length = before'.length := by omega
  obtain ⟨rfl, -⟩ := List.append_inj hsplit hlength
  have hrun := hmore more
  rwa [Nat.zero_add] at hrun

/-! ## Constants that do not end -/

/-- A character more, and a constant can be ended. -/
theorem ConstantBody.exists_append_of_not_closes (h : ¬ Closes q s) :
    ∃ value, ConstantBody q (s ++ ['x']) value := by
  obtain ⟨body, value, tail, hbody, rfl, hend⟩ := exists_longest q s
  have hquote : 'x' ≠ q.char := by cases q <;> decide
  cases hend with
  | nil =>
    rw [List.append_nil]
    exact ⟨_, hbody.append (.plain hquote (by decide) .nil)⟩
  | backslash =>
    -- A quote in place of the character would be escaped, and not end the constant.
    rw [List.append_assoc]
    exact ⟨_, hbody.append (.escape 'x' .nil)⟩
  | quote rest => exact absurd ⟨body, value, rest, hbody, rfl⟩ h

theorem exists_tokens_of_not_closes {before : Text} (h : ¬ Closes q s)
    (hbefore : tokens before = .ok ts) :
    ∃ more us, tokens (before ++ q.char :: s ++ more) = .ok us := by
  obtain ⟨value, hbody⟩ := ConstantBody.exists_append_of_not_closes h
  have hconstant : ∃ vs, Tokenized (0 + before.length) (q.char :: (s ++ ['x'] ++ [q.char])) vs := by
    rw [← List.append_nil (q.char :: _)]
    exact ⟨_, .token (.constant q hbody) (fun hkind => by cases hkind) .finish⟩
  obtain ⟨vs, hvs⟩ := hconstant
  have hends : EndsIdent (q.char :: (s ++ ['x'] ++ [q.char])) := .cons _ (isIdentChar_quote q)
  obtain ⟨us, _, hus⟩ := (tokens_eq_ok_iff.mp hbefore).exists_append hends hvs
  have hsource : before ++ q.char :: (s ++ ['x'] ++ [q.char]) =
      before ++ q.char :: s ++ ['x', q.char] := by simp
  exact ⟨['x', q.char], us ++ vs, tokens_eq_ok_iff.mpr (hsource ▸ hus)⟩

/-! ## Syntax errors -/

/-- A syntax error points at the first place at which its source cannot be continued. If the source
is made of tokens, the place is that of a token: those before it can be completed to a sentence, and
no sentence with an end behind it starts with those up to it. If it is not, what comes before the
place is made of tokens. Either the character at the place starts no token, and all sources that are
the same up to it fail there, or it is the quote of a constant that does not end, and the source can
be completed to one that is made of tokens. -/
theorem first_misfit_of_parse {error : SyntaxError} (h : Expr.parse s = .error error) :
    match tokens s with
    | .ok ts =>
      ∃ us t vs, ts = us ++ t :: vs ∧ t.position = error.position ∧
        (∃ d : Sentence, us <+: d.yield) ∧
        ∀ (d : Sentence) (last : Terminal .finish), ¬ us ++ [t] <+: d.yield ++ [last.val]
    | .error _ =>
      (∃ ts, tokens (s.take error.position) = .ok ts) ∧
      ((∃ c, s[error.position]? = some c ∧ StartsNothing c ∧
          ∀ t, s.take (error.position + 1) <+: t →
            ∃ e, Expr.parse t = .error e ∧ e.position = error.position) ∨
        ∃ q : Quote, s[error.position]? = some q.char ∧ ¬ Closes q (s.drop (error.position + 1)) ∧
          ∃ t ts, tokens (s ++ t) = .ok ts) := by
  have hcause := ne_noTokens_of_parse h
  rw [Expr.parse] at h
  split at h
  · next fault p htokens =>
    cases h
    obtain ⟨before, tail, ts, rfl, rfl, hbefore, hbreak⟩ :=
      Reader.exists_breaksOff_of_run htokens
    have hts := tokens_eq_ok_iff.mpr hbefore
    simp only [htokens, Nat.zero_add, List.take_left]
    refine ⟨⟨ts, hts⟩, ?_⟩
    cases hbreak with
    | @unexpected c s hnothing =>
      refine .inl ⟨c, by simp, hnothing, fun t ht => ?_⟩
      rw [List.take_length_add_append, List.take_succ_cons, List.take_zero] at ht
      obtain ⟨more, rfl⟩ := ht
      rw [List.append_assoc, List.singleton_append, Expr.parse,
        tokens_unexpected_append htokens]
      exact ⟨_, rfl, rfl⟩
    | @unterminated s q hclose =>
      refine .inr ⟨q, by simp, ?_, exists_tokens_of_not_closes hclose hts⟩
      rwa [List.drop_length_add_append, List.drop_succ_cons, List.drop_zero]
  · next ts htokens =>
    split at h
    · next cause p hrun =>
      cases h
      simp only [htokens]
      obtain ⟨us, t, vs, state, rfl, hleads, hstep, hp⟩ :=
        Parser.exists_leads_of_run_error hrun hcause
      have hread := hleads.reads (.operand [])
      exact ⟨us, t, vs, rfl, hp, hread.exists_completion, hleads.not_prefix hstep⟩
    · cases h

/-- A second name, where only a dot, a plus sign or the end can follow. -/
theorem first_misfit_second_name :
    ∃ us t vs, tokens "a b" = .ok (us ++ t :: vs) ∧ t.position = 2 ∧
      (∃ d : Sentence, us <+: d.yield) ∧
      ∀ (d : Sentence) (last : Terminal .finish), ¬ us ++ [t] <+: d.yield ++ [last.val] := by
  have htokens : tokens "a b" =
      .ok [⟨.ident, ['a'], 0⟩, ⟨.ident, ['b'], 2⟩, ⟨.finish, [], 3⟩] := rfl
  have herror : Expr.parse "a b" = .error ⟨.mismatch .finish .ident, 2, "a b"⟩ := rfl
  have hmisfit := first_misfit_of_parse herror
  rw [htokens] at hmisfit
  obtain ⟨us, t, vs, hts, hmisfit⟩ := hmisfit
  exact ⟨us, t, vs, by rw [htokens, hts], hmisfit⟩

end TripleQuote
