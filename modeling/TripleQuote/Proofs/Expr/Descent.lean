import TripleQuote.Expr.Descent
import TripleQuote.Proofs.Expr.Parsing
import TripleQuote.Proofs.Sequence

/-! # Descent within the tokens

A parser that reads an expression by recursive descent never asks how many tokens there are. It
stays within the tokens of a source all the same: it moves behind no token whose kind it has not
seen, and behind the end only when it has read everything else
(`Descent.parse_stays_within_tokens`).

Every action has a specification (`Descent.Meets`): it leaves the parser within its tokens
(`Descent.Within`), and its outcome is the one that `Parser.run` has on the tokens that are left.
The specification of an action follows from those of the actions that it is made of, and that of a
loop from the one of its body (`Descent.Loop.meets`). -/

namespace TripleQuote

namespace Descent

/-- Tokens of which the last one is the end, and no other. -/
structure Closed (ts : List Token) : Prop where
  length_pos : 0 < ts.length
  finish_iff : ∀ {i t}, ts[i]? = some t → (t.kind = .finish ↔ i + 1 = ts.length)

def Event.index : Event → Nat
  | read i => i
  | consume i => i

def Event.consumed? : Event → Option Nat
  | read _ => none
  | consume i => some i

/-- A parser that has not moved behind the end of its tokens. It has looked at no index but theirs,
and has moved behind those before its own, one after the other. -/
structure Within (ts : List Token) (s : Descent) : Prop where
  tokens : s.tokens = ts
  index_lt : s.index < ts.length
  trace_lt : ∀ event ∈ s.trace, event.index < ts.length
  consumed : s.trace.filterMap Event.consumed? = List.range s.index

/-- An action leaves its parser within the tokens, and either finds a value that fits the tokens
that are left, or fails with a fault that fits. -/
inductive Meets (ts : List Token) (x : Action α) (found : α → List Token → Prop)
    (failed : Fault → Prop) (s : Descent) : Prop where
  | ok (h : x s = (.ok a, s')) (hwithin : Within ts s') (hfound : found a s'.rest)
  | error (h : x s = (.error e, s')) (hwithin : Within ts s') (hfailed : failed e)

/-- Whether no token of a kind comes first. -/
def Avoids (kind : Token.Kind) (ts : List Token) : Prop := ∀ t, ts.head? = some t → t.kind ≠ kind

/-- What is left of tokens, be the first of them accepted or not. -/
def Accepts (kind : Token.Kind) (ts : List Token) : Bool → List Token → Prop
  | true, us => ∃ t, ts = t :: us ∧ t.kind = kind
  | false, us => us = ts ∧ Avoids kind ts

/-- Operands that are complete, but for one, before the tokens that are left. -/
def Operands (outcome : Except Fault Expr) (es : List Expr) (us : List Token) : Prop :=
  ∃ done e, es = done ++ [e] ∧ outcome = Parser.run (.term done e) us ∧ Avoids .dot us

/-- Passes through a loop, `n` of them, from a value and a parser to others. -/
inductive Loop.Iterates (l : Loop α) : Nat → α → Descent → α → Descent → Prop where
  | refl : Iterates l 0 a s a s
  | step (haccept : accept l.kind s = (.ok true, s')) (hbody : l.body a s' = (.ok next, s''))
      (hmore : Iterates l n next s'' b last) : Iterates l (n + 1) a s b last

/-- The end of a loop: it does not get to its body, or fails there. -/
inductive Loop.Ends (l : Loop α) (a : α) (s : Descent) : Except Fault α × Descent → Prop where
  | fault (h : accept l.kind s = (.error e, s')) : Ends l a s (.error e, s')
  | stop (h : accept l.kind s = (.ok false, s')) : Ends l a s (.ok a, s')
  | failed (haccept : accept l.kind s = (.ok true, s'))
      (hbody : l.body a s' = (.error e, s'')) : Ends l a s (.error e, s'')

/-- A loop that takes at least one token with each pass, one that fails included. It ends after no
more passes than there are tokens left. -/
structure Loop.Consumes (l : Loop α) : Prop where
  takes : ∀ a s s' r s'', accept l.kind s = (.ok true, s') → l.body a s' = (r, s'') →
    s.index < s''.index ∧ .consume s.index ∈ s''.trace
  ends : ∀ a s, ∃ n b last, l.Iterates n a s b last ∧ n ≤ s.tokens.length - s.index ∧
    l.Ends b last (l.run a s)

end Descent

variable {ts us : List Token} {t : Token} {kind : Token.Kind}

theorem closed_of_tokens {source : Text} (h : tokens source = .ok ts) : Descent.Closed ts := by
  obtain ⟨init, rfl, hinit⟩ := exists_init_of_tokens h
  refine ⟨by simp, ?_⟩
  intro i t ht
  rw [List.length_append, List.length_singleton]
  rcases Nat.lt_trichotomy i init.length with hlt | rfl | hlt
  · rw [List.getElem?_append_left hlt] at ht
    have hkind := hinit t (List.mem_of_getElem? ht)
    exact ⟨fun h => absurd h hkind, fun h => by omega⟩
  · rw [List.getElem?_concat_length] at ht
    cases ht
    exact ⟨fun _ => rfl, fun _ => rfl⟩
  · rw [List.getElem?_eq_none (by rw [List.length_append, List.length_singleton]; omega)] at ht
    cases ht

theorem Expr.parse_eq_mapError {source : Text} (h : tokens source = .ok ts) :
    Expr.parse source =
      (Parser.run (.operand []) ts).mapError fun e => ⟨e.1, e.2, source⟩ := by
  rw [Expr.parse, h]
  dsimp only
  cases Parser.run (.operand []) ts with
  | error e => rfl
  | ok e => rfl

namespace Descent

variable {α β : Type} {s s' : Descent}

/-! ## Parsers within their tokens -/

theorem within_new (hts : Closed ts) : Within ts (new ts) :=
  ⟨rfl, hts.length_pos, fun _ h => absurd h List.not_mem_nil, rfl⟩

namespace Within

theorem exists_rest (h : Within ts s) : ∃ t us, s.rest = t :: us ∧ ts[s.index]? = some t := by
  have hlt := h.index_lt
  refine ⟨ts[s.index], ts.drop (s.index + 1), ?_, List.getElem?_eq_getElem hlt⟩
  rw [rest, h.tokens, List.drop_eq_getElem_cons hlt]

/-- What a parser does at its current token, it does at one of the tokens. -/
theorem trace_lt_append (h : Within ts s) {event : Event} (hindex : event.index = s.index) :
    ∀ event' ∈ s.trace ++ [event], event'.index < ts.length := by
  intro event' hevent
  rcases List.mem_append.mp hevent with hevent | hevent
  · exact h.trace_lt event' hevent
  · rw [List.mem_singleton.mp hevent, hindex]
    exact h.index_lt

theorem look (h : Within ts s) : Within ts s.look := by
  refine ⟨h.tokens, h.index_lt, h.trace_lt_append rfl, ?_⟩
  rw [Descent.look, List.filterMap_append, h.consumed]
  exact List.append_nil _

/-- What a parser has done when it has moved behind a token, be it the end. -/
theorem trace_pass (h : Within ts s) :
    (∀ event ∈ s.pass.trace, event.index < ts.length) ∧
      s.pass.trace.filterMap Event.consumed? = List.range (s.index + 1) := by
  refine ⟨h.trace_lt_append rfl, ?_⟩
  rw [pass, List.filterMap_append, h.consumed, List.range_succ]
  rfl

/-- Behind a token that is not the end there is another. -/
theorem pass (h : Within ts s) (hts : Closed ts) (hrest : s.rest = t :: us)
    (hkind : t.kind ≠ .finish) : Within ts s.pass := by
  obtain ⟨t', us', hrest', hget⟩ := h.exists_rest
  cases hrest.symm.trans hrest'
  have hnot : s.index + 1 ≠ ts.length := mt (hts.finish_iff hget).mpr hkind
  obtain ⟨htrace, hconsumed⟩ := h.trace_pass
  exact ⟨h.tokens, Nat.lt_of_le_of_ne h.index_lt hnot, htrace, hconsumed⟩

theorem consume_notMem {i : Nat} (h : Within ts s) (hi : s.index ≤ i) :
    Event.consume i ∉ s.trace := by
  intro hmem
  have hconsumed : i ∈ s.trace.filterMap Event.consumed? :=
    List.mem_filterMap.mpr ⟨.consume i, hmem, rfl⟩
  rw [h.consumed, List.mem_range] at hconsumed
  omega

end Within

/-! ## Specifications -/

variable {found : α → List Token → Prop} {found' : β → List Token → Prop} {failed : Fault → Prop}

namespace Meets

theorem pure {a : α} (hs : Within ts s) (h : found a s.rest) :
    Meets ts (pure a) found failed s := .ok rfl hs h

theorem after {x : Action α} {f : α → Action β} {a : α} (h : x s = (.ok a, s'))
    (hf : Meets ts (f a) found' failed s') : Meets ts (x >>= f) found' failed s := by
  cases hf with
  | ok h' hwithin hfound => exact .ok ((bind_of_ok h f).trans h') hwithin hfound
  | error h' hwithin hfailed => exact .error ((bind_of_ok h f).trans h') hwithin hfailed

theorem bind {x : Action α} {f : α → Action β} (hx : Meets ts x found failed s)
    (hf : ∀ a s', x s = (.ok a, s') → Within ts s' → found a s'.rest →
      Meets ts (f a) found' failed s') :
    Meets ts (x >>= f) found' failed s := by
  cases hx with
  | ok h hwithin hfound => exact .after h (hf _ _ h hwithin hfound)
  | error h hwithin hfailed => exact .error (bind_of_error h f) hwithin hfailed

end Meets

/-! ## One token -/

theorem avoids_cons (h : t.kind ≠ kind) : Avoids kind (t :: us) := by
  intro t' ht'
  cases ht'
  exact h

theorem meets_fail {cause : SyntaxError.Cause} (hs : Within ts s) (hrest : s.rest = t :: us)
    (h : failed (cause, t.position)) : Meets ts (fail cause : Action α) found failed s :=
  .error (fail_of_rest hrest cause) hs.look h

theorem meets_accept (hts : Closed ts) (hs : Within ts s) (hkind : kind ≠ .finish) :
    Meets ts (accept kind) (Accepts kind s.rest) failed s := by
  obtain ⟨t, us, hrest, -⟩ := hs.exists_rest
  by_cases ht : t.kind = kind
  · refine .ok (accept_of_kind hrest ht) (hs.look.look.pass hts hrest (ht ▸ hkind)) ?_
    rw [rest_pass (s := s.look.look) hrest]
    exact ⟨t, hrest, ht⟩
  · refine .ok (accept_of_kind_ne hrest ht) hs.look ⟨rfl, ?_⟩
    rw [hrest]
    exact avoids_cons ht

theorem meets_expect (hts : Closed ts) (hs : Within ts s) (hkind : kind ≠ .finish)
    (h : ∀ t us, s.rest = t :: us → t.kind ≠ kind → failed (.mismatch kind t.kind, t.position)) :
    Meets ts (expect kind) (fun t us => s.rest = t :: us ∧ t.kind = kind) failed s := by
  obtain ⟨t, us, hrest, -⟩ := hs.exists_rest
  by_cases ht : t.kind = kind
  · refine .ok (expect_of_kind hrest ht) (hs.look.look.pass hts hrest (ht ▸ hkind)) ?_
    rw [rest_pass (s := s.look.look) hrest]
    exact ⟨hrest, ht⟩
  · exact .error (expect_of_kind_ne hrest ht) hs.look.look.look (h t us hrest ht)

/-! ## Loops -/

namespace Loop

/-- What a pass keeps, a loop keeps. Behind the loop no token comes that would start a pass. -/
theorem meets {l : Loop α} {inv : α → List Token → Prop} (hts : Closed ts)
    (hkind : l.kind ≠ .finish)
    (hbody : ∀ a s t, Within ts s → inv a (t :: s.rest) → t.kind = l.kind →
      Meets ts (l.body a) inv failed s)
    {a : α} {s : Descent} (hs : Within ts s) (h : inv a s.rest) :
    Meets ts (l.run a) (fun b us => inv b us ∧ Avoids l.kind us) failed s := by
  rw [run_eq]
  refine (meets_accept hts hs hkind).bind ?_
  intro found s' hfound hs' haccept
  cases found with
  | false =>
    obtain ⟨hsame, havoid⟩ := haccept
    exact .pure hs' (hsame ▸ ⟨h, havoid⟩)
  | true =>
    obtain ⟨t, hrest, ht⟩ := haccept
    refine (hbody a s' t hs' (hrest ▸ h) ht).bind ?_
    intro next s'' hnext hs'' h'
    exact meets hts hkind hbody hs'' h'
termination_by ts.length - s.index
decreasing_by
  obtain ⟨hlt, -, hmove, -⟩ := of_pass hfound hnext
  rw [hs.tokens] at hlt
  omega

theorem consumes (l : Loop α) : l.Consumes := by
  refine ⟨fun a s s' r s'' haccept hbody => (of_pass haccept hbody).2.2, ?_⟩
  intro a s
  fun_induction run l a s with
  | case1 a s e s' haccept => exact ⟨0, a, s, .refl, Nat.zero_le _, .fault haccept⟩
  | case2 a s s' haccept => exact ⟨0, a, s, .refl, Nat.zero_le _, .stop haccept⟩
  | case3 a s s' haccept e s'' hbody =>
    exact ⟨0, a, s, .refl, Nat.zero_le _, .failed haccept hbody⟩
  | case4 a s s' haccept next s'' hbody ih =>
    obtain ⟨n, b, last, hmore, hle, hends⟩ := ih
    obtain ⟨hlt, hprecedes, hmove, -⟩ := of_pass haccept hbody
    rw [hprecedes.tokens] at hle
    exact ⟨n + 1, b, last, .step haccept hbody hmore, by omega, hends⟩

end Loop

/-! ## Terms -/

-- The outcome of a parser that takes one token at a time, of which some are left.
variable {outcome : Except Fault Expr} {done : List Expr} {target : Expr}

/-- A parser moves behind a token that the parser with one token at a time takes. -/
theorem meets_advance {state next : Parser.State} (hts : Closed ts) (hs : Within ts s)
    (hrest : s.rest = t :: us) (hstep : Parser.step state t = .ok (.inl next))
    (h : outcome = Parser.run state (t :: us)) :
    Meets ts advance (fun _ us => outcome = Parser.run next us) failed s := by
  have hpass := hs.look.pass hts hrest (Grammar.kind_ne_finish_of_step hstep)
  refine .ok (advance_of_rest hrest) hpass ?_
  rw [rest_pass (s := s.look) hrest, h]
  exact Grammar.run_of_step hstep us

theorem meets_primary (hts : Closed ts) (hs : Within ts s)
    (h : outcome = Parser.run (.operand done) s.rest) :
    Meets ts primary (fun e us => outcome = Parser.run (.term done e) us)
      (fun e => outcome = .error e) s := by
  obtain ⟨t, us, hrest, -⟩ := hs.exists_rest
  rw [hrest] at h
  refine .after (current_of_rest hrest) ?_
  split
  · next hkind =>
    have hstep := Grammar.step_primary done (.name ⟨t, hkind⟩)
    refine (meets_advance hts hs.look hrest hstep h).bind ?_
    intro _ s' _ hs' h'
    exact .pure hs' h'
  · next hkind =>
    have hstep := Grammar.step_primary done (.text ⟨t, hkind⟩)
    refine (meets_advance hts hs.look hrest hstep h).bind ?_
    intro _ s' _ hs' h'
    exact .pure hs' h'
  · next hident hstring =>
    refine meets_fail hs.look hrest (h.trans (Grammar.run_of_misfit ?_ us))
    simp only [Parser.step]

theorem meets_close {n : Text} (hts : Closed ts) (hs : Within ts s)
    (h : outcome = Parser.run (.arguments done target n) s.rest) :
    Meets ts close (fun _ us => outcome = Parser.run (.term done (.call target n)) us)
      (fun e => outcome = .error e) s := by
  obtain ⟨t, us, hrest, -⟩ := hs.exists_rest
  rw [hrest] at h
  refine .after (current_of_rest hrest) ?_
  split
  · next hkind =>
    exact meets_advance hts hs.look hrest (Grammar.step_closeParen done target n ⟨t, hkind⟩) h
  · next hkind =>
    have hstep : Parser.step (.arguments done target n) t = .error .arguments := if_neg hkind
    exact meets_fail hs.look hrest (h.trans (Grammar.run_of_misfit hstep us))

theorem meets_member (hts : Closed ts) (hs : Within ts s)
    (h : outcome = Parser.run (.member done target) s.rest) :
    Meets ts (member target) (fun e us => outcome = Parser.run (.term done e) us)
      (fun e => outcome = .error e) s := by
  have hexpect : Meets ts (expect .ident) (fun t us => s.rest = t :: us ∧ t.kind = .ident)
      (fun e => outcome = .error e) s := by
    refine meets_expect hts hs (by decide) ?_
    intro t us hrest hkind
    rw [h, hrest]
    exact Grammar.run_of_misfit (by simp only [Parser.step]) us
  refine hexpect.bind ?_
  rintro n s' _ hs' ⟨hrest, hkind⟩
  rw [hrest, Grammar.run_of_step (Grammar.step_member done target ⟨n, hkind⟩)] at h
  refine (meets_accept hts hs' (by decide)).bind ?_
  intro opened s'' _ hs'' haccept
  cases opened with
  | false =>
    -- Of the two parsers this one knows here that the name is that of a property. The other still
    -- has to see the token that is not a parenthesis.
    obtain ⟨hsame, havoid⟩ := haccept
    refine .pure hs'' ?_
    rw [hsame, h]
    exact Grammar.run_named done target n.value havoid
  | true =>
    obtain ⟨t, hopen, ht⟩ := haccept
    rw [hopen, Grammar.run_of_step (Grammar.step_openParen done target n.value ⟨t, ht⟩)] at h
    refine (meets_close hts hs'' h).bind ?_
    intro _ s' _ hs' hclosed
    exact .pure hs' hclosed

theorem meets_term (hts : Closed ts) (hs : Within ts s)
    (h : outcome = Parser.run (.operand done) s.rest) :
    Meets ts term (fun e us => outcome = Parser.run (.term done e) us ∧ Avoids .dot us)
      (fun e => outcome = .error e) s := by
  refine (meets_primary hts hs h).bind ?_
  intro node s' _ hs' hnode
  refine members.meets hts (by decide) ?_ hs' hnode
  intro target s'' dot hs'' htarget hdot
  rw [Grammar.run_of_step (Grammar.step_dot done target ⟨dot, hdot⟩)] at htarget
  exact meets_member hts hs'' htarget

/-! ## Expressions -/

theorem meets_sum (hts : Closed ts) (hs : Within ts s)
    (h : outcome = Parser.run (.operand []) s.rest) :
    Meets ts sum (fun es us => Operands outcome es us ∧ Avoids .plus us)
      (fun e => outcome = .error e) s := by
  refine (meets_term hts hs h).bind ?_
  rintro first s' _ hs' ⟨hfirst, havoid⟩
  refine operands.meets hts (by decide) ?_ hs' ⟨[], first, rfl, hfirst, havoid⟩
  rintro _ s'' plus hs'' ⟨done, e, rfl, he, -⟩ hplus
  rw [Grammar.run_of_step (Grammar.step_plus done e ⟨plus, hplus⟩)] at he
  refine (meets_term hts hs'' he).bind ?_
  rintro next s' _ hs' ⟨hnext, havoid⟩
  exact .pure hs' ⟨done ++ [e], next, rfl, hnext, havoid⟩

theorem step_finish (h : t.kind = .finish) (e : Expr) :
    Parser.step (.term done e) t = .ok (.inr (Parser.tree (done ++ [e]))) := by
  simp only [Parser.step, Parser.afterTerm, h]

theorem step_misfit (hdot : t.kind ≠ .dot) (hplus : t.kind ≠ .plus) (hfinish : t.kind ≠ .finish)
    (e : Expr) : Parser.step (.term done e) t = .error (.mismatch .finish t.kind) := by
  simp only [Parser.step, Parser.afterTerm]

/-- Both parsers have the same outcome. The one by descent moves behind the end if it has read all
operands and they are all that there is, and does nothing after that. -/
theorem parse_eq (hts : Closed ts) (hs : Within ts s)
    (h : outcome = Parser.run (.operand []) s.rest) :
    (parse s).1 = outcome ∧ Within ts (sum s).2 ∧
      ((∃ e, outcome = .error e ∧ Within ts (parse s).2) ∨
        ∃ e, outcome = .ok e ∧ (sum s).2.index + 1 = ts.length ∧
          (parse s).2 = (sum s).2.look.look.pass) := by
  cases meets_sum hts hs h with
  | @ok s' _ hsum hwithin hfound =>
    obtain ⟨⟨done, e, rfl, he, hdot⟩, hplus⟩ := hfound
    obtain ⟨t, us, hrest, hget⟩ := hwithin.exists_rest
    rw [hrest] at he hdot hplus
    by_cases ht : t.kind = .finish
    · have hparse : parse s = (.ok (Parser.tree (done ++ [e])), s'.look.look.pass) := by
        rw [parse, bind_of_ok hsum, bind_of_ok (expect_of_kind hrest ht)]
        rfl
      rw [Grammar.run_of_finish (step_finish ht e)] at he
      rw [hparse, hsum]
      exact ⟨he.symm, hwithin, .inr ⟨_, he, (hts.finish_iff hget).mp ht, rfl⟩⟩
    · have hparse : parse s =
          (.error (.mismatch .finish t.kind, t.position), s'.look.look.look) := by
        rw [parse, bind_of_ok hsum, bind_of_error (expect_of_kind_ne hrest ht)]
      rw [Grammar.run_of_misfit (step_misfit (hdot t rfl) (hplus t rfl) ht e)] at he
      rw [hparse, hsum]
      exact ⟨he.symm, hwithin, .inl ⟨_, he, hwithin.look.look.look⟩⟩
  | error hsum hwithin hfailed =>
    have hparse : parse s = _ := bind_of_error hsum _
    rw [hparse, hsum, hfailed]
    exact ⟨rfl, hwithin, .inl ⟨_, rfl, hwithin⟩⟩

theorem trace_look_look_pass (s : Descent) : s.look.look.pass.trace =
    s.trace ++ [.read s.index, .read s.index, .consume s.index] := by
  simp [look, pass]

/-- A parser by recursive descent finds what a source spells and looks at no tokens but those of the
source. It moves behind the end only when it has read all operands and nothing else is left, and
does nothing after that. Each pass through one of its loops moves it forward, and so they end. -/
theorem parse_stays_within_tokens {source : Text} (h : TripleQuote.tokens source = .ok ts) :
    ∃ init, ts = init ++ [Token.endAt source.length] ∧
      let found := (parse (new ts)).1
      let last := (parse (new ts)).2
      let behindOperands := (sum (new ts)).2
      Expr.parse source = found.mapError (fun e => ⟨e.1, e.2, source⟩) ∧
      (∀ event ∈ last.trace, event.index < ts.length) ∧
      Event.consume init.length ∉ behindOperands.trace ∧
      (∀ e, found = .ok e → last.trace =
        behindOperands.trace ++ [.read init.length, .read init.length, .consume init.length]) ∧
      (∀ e, found = .error e → Event.consume init.length ∉ last.trace) ∧
      members.Consumes ∧ operands.Consumes := by
  obtain ⟨init, hinit, -⟩ := exists_init_of_tokens h
  have hlength : ts.length = init.length + 1 := by rw [hinit, List.length_append]; rfl
  have hts := closed_of_tokens h
  have hnot {s : Descent} (hs : Within ts s) : Event.consume init.length ∉ s.trace := by
    have hlt := hs.index_lt
    exact hs.consume_notMem (by omega)
  obtain ⟨hfound, hsum, hend⟩ := parse_eq hts (within_new hts) rfl
  refine ⟨init, hinit, ?_, ?_, hnot hsum, ?_, ?_, members.consumes, operands.consumes⟩
  · rw [hfound]
    exact Expr.parse_eq_mapError h
  · rcases hend with ⟨e, -, hlast⟩ | ⟨e, -, -, hlast⟩
    · exact hlast.trace_lt
    · rw [hlast]
      exact hsum.look.look.trace_pass.1
  · intro e he
    rcases hend with ⟨e', he', -⟩ | ⟨e', -, hindex, hlast⟩
    · cases (hfound.symm.trans he).symm.trans he'
    · have hindex : (sum (new ts)).2.index = init.length := by omega
      rw [hlast, trace_look_look_pass, hindex]
  · intro e he
    rcases hend with ⟨e', -, hlast⟩ | ⟨e', he', -⟩
    · exact hnot hlast
    · cases (hfound.symm.trans he).symm.trans he'

/-- A call: the parser moves behind the end, which is the token at index 5, and does no more. -/
theorem parse_stays_within_tokens_of_call :
    ∃ ts, TripleQuote.tokens "a.b()" = .ok ts ∧ ts.length = 6 ∧
      (parse (new ts)).1 = .ok (.call (.name "a") "b") ∧
      (∀ event ∈ (parse (new ts)).2.trace, event.index < 6) ∧
      Event.consume 5 ∉ (sum (new ts)).2.trace ∧
      (parse (new ts)).2.trace = (sum (new ts)).2.trace ++ [.read 5, .read 5, .consume 5] := by
  have htokens : TripleQuote.tokens "a.b()" = .ok [⟨.ident, ['a'], 0⟩, ⟨.dot, ['.'], 1⟩,
      ⟨.ident, ['b'], 2⟩, ⟨.openParen, ['('], 3⟩, ⟨.closeParen, [')'], 4⟩, ⟨.finish, [], 5⟩] := rfl
  have hcall : Expr.parse "a.b()" = .ok (.call (.name "a") "b") := rfl
  obtain ⟨init, hinit, hfound, hreads, hend, hok, -⟩ := parse_stays_within_tokens htokens
  have hlength : init.length = 5 := by
    have hlengths := congrArg List.length hinit
    rw [List.length_append] at hlengths
    exact (Nat.succ.inj hlengths).symm
  rw [hlength] at hend hok
  rw [hcall] at hfound
  have hvalue := mapError_eq_ok_iff.mp hfound.symm
  exact ⟨_, htokens, rfl, hvalue, hreads, hend, hok _ hvalue⟩

end Descent

end TripleQuote
