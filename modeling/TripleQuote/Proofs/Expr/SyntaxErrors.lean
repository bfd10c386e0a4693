import TripleQuote.Proofs.Expr.Parsing

/-! # Places of syntax errors

A syntax error points at the place in its source where the source goes wrong: at a character that no
token starts with, at the quote of a constant that does not end, at a token that does not fit, or at
the end (`points_of_parse`). What is before that place is made of tokens. -/

namespace TripleQuote

/-- A source with the cause and the position of its syntax error: what it goes on with at the
position is no token, or starts with a token that does not fit behind the tokens before it. -/
inductive SyntaxError.Points : Text → SyntaxError.Cause → Nat → Prop where
  | fault (hbefore : tokens before = .ok ts) (hbreak : BreaksOff fault tail) :
      Points (before ++ tail) fault.cause before.length
  | token {c : SyntaxError.Cause} (htokens : tokens (before ++ tail) = .ok (us ++ t :: ts))
      (hstarts : t.Starts tail) (hread : Grammar.Reads us state)
      (hstep : Parser.step state t = .error c) : Points (before ++ tail) c before.length

variable {p : Nat} {s : Text}

/-- Tokens that lead the parser from one state to another. -/
inductive Parser.Leads : State → List Token → State → Prop where
  | nil : Leads state [] state
  | cons (hstep : Parser.step state t = .ok (.inl next)) (h : Leads next ts last) :
      Leads state (t :: ts) last

theorem Parser.Leads.reads {us ts : List Token} {state last : State} (h : Leads state ts last)
    (hread : Grammar.Reads us state) : Grammar.Reads (us ++ ts) last := by
  induction h generalizing us with
  | nil => rwa [List.append_nil]
  | cons hstep _ ih =>
    have hmore := ih (hread.step hstep)
    rwa [List.append_assoc] at hmore

/-- The parser fails at a token that it cannot take behind those that lead up to it. -/
theorem Parser.exists_leads_of_run_error {ts : List Token} {state : State}
    {cause : SyntaxError.Cause} (hrun : run state ts = .error (cause, p))
    (hcause : cause ≠ .noTokens) :
    ∃ us t vs last, ts = us ++ t :: vs ∧ Leads state us last ∧ step last t = .error cause ∧
      t.position = p := by
  induction ts generalizing state with
  | nil =>
    cases hrun
    exact absurd rfl hcause
  | cons t ts ih =>
    rw [run_cons] at hrun
    split at hrun
    · next hstep =>
      cases hrun
      exact ⟨[], t, ts, state, rfl, .nil, hstep, rfl⟩
    · next hstep =>
      obtain ⟨us, t', vs, last, rfl, hleads, hlast, hp⟩ := ih hrun
      exact ⟨t :: us, t', vs, last, rfl, .cons hstep hleads, hlast, hp⟩
    · cases hrun

/-- A syntax error is about its source and points at the place where that goes wrong. -/
theorem points_of_parse {error : SyntaxError} (h : Expr.parse s = .error error) :
    error.source = s ∧ SyntaxError.Points s error.cause error.position := by
  obtain ⟨error', herror', hcause, hsource⟩ :=
    exists_error_of_parse fun e he => by rw [h] at he; cases he
  cases h.symm.trans herror'
  refine ⟨hsource, ?_⟩
  rw [Expr.parse] at h
  split at h
  · next fault position htokens =>
    cases h
    obtain ⟨before, tail, ts, rfl, rfl, hbefore, hbreak⟩ :=
      Reader.exists_breaksOff_of_run htokens
    rw [Nat.zero_add]
    exact .fault (tokens_eq_ok_iff.mpr hbefore) hbreak
  · next ts htokens =>
    split at h
    · next cause position hrun =>
      cases h
      obtain ⟨us, t, rest, state, rfl, hleads, hstep, rfl⟩ :=
        Parser.exists_leads_of_run_error hrun hcause
      have hread := hleads.reads (.operand [])
      obtain ⟨before, tail, rfl, hposition, hstarts⟩ :=
        (tokens_eq_ok_iff.mp htokens).exists_split (t := t) (by simp)
      rw [hposition, Nat.zero_add]
      exact .token htokens hstarts hread hstep
    · cases h

theorem SyntaxError.Points.le_length {cause : SyntaxError.Cause} (h : Points s cause p) :
    p ≤ s.length := by
  cases h with
  | fault | token => simp

end TripleQuote
