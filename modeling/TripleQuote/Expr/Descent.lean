import TripleQuote.Expr.Parser

/-! # Recursive descent

A parser that reads an expression by recursive descent: a term with a loop over the dots behind its
first token, an expression with a loop over the plus signs behind its first term. It has the tokens
of one source and the index of the current one, and keeps a trace of what it does to them. It never
asks how many tokens there are: what it does next depends on the kind of the current token alone.

A loop moves behind a token before each pass through its body, and no action goes back
(`Descent.Forward`), so that every loop ends. -/

namespace TripleQuote

/-- What a parser does at an index of its tokens. -/
inductive Descent.Event where
  /-- It looks at the token. -/
  | read (index : Nat)
  /-- It moves behind the token. -/
  | consume (index : Nat)
deriving DecidableEq, Repr

structure Descent where
  tokens : List Token
  /-- The index of the current token. -/
  index : Nat
  /-- What the parser has done so far, in order. -/
  trace : List Descent.Event
deriving DecidableEq, Repr

namespace Descent

def new (tokens : List Token) : Descent := ⟨tokens, 0, []⟩

/-- The current token and those behind it. -/
def rest (s : Descent) : List Token := s.tokens.drop s.index

/-- The parser after a look at the current token. -/
def look (s : Descent) : Descent := { s with trace := s.trace ++ [.read s.index] }

/-- The parser behind the current token. -/
def pass (s : Descent) : Descent :=
  { s with index := s.index + 1, trace := s.trace ++ [.consume s.index] }

/-- What goes wrong, and at which position. -/
abbrev Fault := SyntaxError.Cause × Nat

/-- What a parser does to find a value. If it fails, the parser stays where that happens. -/
abbrev Action (α : Type) := ExceptT Fault (StateM Descent) α

/-! ## One token -/

/-- Look at the current token. -/
def current : Action Token := fun s =>
  match s.tokens[s.index]? with
  | some t => (.ok t, s.look)
  | none => (.error (.noTokens, 0), s.look)

/-- Move behind the current token, of whatever kind it is. -/
def advance : Action Token := do
  let t ← current
  modify pass
  return t

/-- Fail at the current token. -/
def fail {α : Type} (cause : SyntaxError.Cause) : Action α := do
  throw (cause, (← current).position)

/-- Move behind the current token if it is of a kind. -/
def accept (kind : Token.Kind) : Action Bool := do
  if (← current).kind = kind then
    let _ ← advance
    return true
  else
    return false

/-- Move behind the current token, which has to be of a kind. -/
def expect (kind : Token.Kind) : Action Token := do
  if (← current).kind = kind then
    advance
  else
    fail (.mismatch kind (← current).kind)

/-! ## Steps -/

variable {α β : Type} {s s' s'' : Descent} {t : Token} {ts : List Token}

theorem bind_of_ok {x : Action α} {a : α} (h : x s = (.ok a, s')) (f : α → Action β) :
    (x >>= f) s = f a s' := by
  change (match x s with | (r, s') => ExceptT.bindCont f r s') = f a s'
  rw [h]
  rfl

theorem bind_of_error {x : Action α} {e : Fault} (h : x s = (.error e, s')) (f : α → Action β) :
    (x >>= f) s = (.error e, s') := by
  change (match x s with | (r, s') => ExceptT.bindCont f r s') = (.error e, s')
  rw [h]
  rfl

theorem rest_pass (h : s.rest = t :: ts) : s.pass.rest = ts := by
  rw [rest] at h
  rw [rest, pass, ← List.tail_drop, h, List.tail_cons]

theorem index_lt_of_rest (h : s.rest = t :: ts) : s.index < s.tokens.length := by
  have hlength := congrArg List.length h
  rw [rest, List.length_drop, List.length_cons] at hlength
  omega

theorem current_of_rest (h : s.rest = t :: ts) : current s = (.ok t, s.look) := by
  have hget : s.tokens[s.index]? = some t := by
    rw [← List.head?_drop, ← rest, h, List.head?_cons]
  rw [current, hget]

theorem current_of_rest_nil (h : s.rest = []) : current s = (.error (.noTokens, 0), s.look) := by
  have hget : s.tokens[s.index]? = none := by
    rw [← List.head?_drop, ← rest, h, List.head?_nil]
  rw [current, hget]

theorem advance_of_rest (h : s.rest = t :: ts) : advance s = (.ok t, s.look.pass) := by
  rw [advance, bind_of_ok (current_of_rest h)]
  rfl

theorem fail_of_rest (h : s.rest = t :: ts) (cause : SyntaxError.Cause) :
    (fail cause : Action α) s = (.error (cause, t.position), s.look) := by
  rw [fail, bind_of_ok (current_of_rest h)]
  rfl

theorem accept_of_kind {kind : Token.Kind} (h : s.rest = t :: ts) (hkind : t.kind = kind) :
    accept kind s = (.ok true, s.look.look.pass) := by
  rw [accept, bind_of_ok (current_of_rest h), if_pos hkind,
    bind_of_ok (advance_of_rest (s := s.look) h)]
  rfl

theorem accept_of_kind_ne {kind : Token.Kind} (h : s.rest = t :: ts) (hkind : t.kind ≠ kind) :
    accept kind s = (.ok false, s.look) := by
  rw [accept, bind_of_ok (current_of_rest h), if_neg hkind]
  rfl

theorem expect_of_kind {kind : Token.Kind} (h : s.rest = t :: ts) (hkind : t.kind = kind) :
    expect kind s = (.ok t, s.look.look.pass) := by
  rw [expect, bind_of_ok (current_of_rest h), if_pos hkind, advance_of_rest (s := s.look) h]

theorem expect_of_kind_ne {kind : Token.Kind} (h : s.rest = t :: ts) (hkind : t.kind ≠ kind) :
    expect kind s = (.error (.mismatch kind t.kind, t.position), s.look.look.look) := by
  rw [expect, bind_of_ok (current_of_rest h), if_neg hkind,
    bind_of_ok (current_of_rest (s := s.look) h), fail_of_rest (s := s.look.look) h]

/-- A token that is accepted is there, and the parser is behind it. -/
theorem of_accept {kind : Token.Kind} (h : accept kind s = (.ok true, s')) :
    ∃ t ts, s.rest = t :: ts ∧ t.kind = kind ∧ s' = s.look.look.pass := by
  cases hrest : s.rest with
  | nil =>
    rw [accept, bind_of_error (current_of_rest_nil hrest)] at h
    cases h
  | cons t ts =>
    by_cases hkind : t.kind = kind
    · rw [accept_of_kind hrest hkind] at h
      cases h
      exact ⟨t, ts, rfl, hkind, rfl⟩
    · rw [accept_of_kind_ne hrest hkind] at h
      cases h

/-! ## Moving forward -/

/-- A parser and what becomes of it: it never goes back and forgets nothing that it has done. -/
structure Precedes (s s' : Descent) : Prop where
  tokens : s'.tokens = s.tokens
  index_le : s.index ≤ s'.index
  trace : s.trace <+: s'.trace

theorem Precedes.refl (s : Descent) : s.Precedes s := ⟨rfl, Nat.le_refl _, List.prefix_refl _⟩

theorem Precedes.trans (h : s.Precedes s') (h' : s'.Precedes s'') : s.Precedes s'' :=
  ⟨h'.tokens.trans h.tokens, Nat.le_trans h.index_le h'.index_le, h.trace.trans h'.trace⟩

theorem precedes_look (s : Descent) : s.Precedes s.look :=
  ⟨rfl, Nat.le_refl _, List.prefix_append _ _⟩

theorem precedes_pass (s : Descent) : s.Precedes s.pass :=
  ⟨rfl, Nat.le_succ _, List.prefix_append _ _⟩

/-- Whether an action takes every parser forward, however it ends. -/
def Forward (x : Action α) : Prop := ∀ s, Precedes s (x s).2

theorem Forward.pure (a : α) : Forward (pure a : Action α) := Precedes.refl

theorem Forward.bind {x : Action α} {f : α → Action β} (hx : Forward x)
    (hf : ∀ a, Forward (f a)) : Forward (x >>= f) := by
  intro s
  have hprecedes := hx s
  rcases h : x s with ⟨e | a, s'⟩
  · rw [h] at hprecedes
    rwa [bind_of_error h]
  · rw [h] at hprecedes
    rw [bind_of_ok h]
    exact hprecedes.trans (hf a s')

theorem forward_current : Forward current := by
  intro s
  rw [current]
  split
  · exact precedes_look s
  · exact precedes_look s

theorem forward_advance : Forward advance :=
  .bind forward_current fun t => Forward.bind (x := modify pass) precedes_pass fun _ => .pure t

theorem forward_fail (cause : SyntaxError.Cause) : Forward (fail cause : Action α) :=
  .bind forward_current fun _ => Precedes.refl

theorem forward_accept (kind : Token.Kind) : Forward (accept kind) := by
  refine .bind forward_current fun t => ?_
  split
  · exact .bind forward_advance fun _ => .pure true
  · exact .pure false

theorem forward_expect (kind : Token.Kind) : Forward (expect kind) := by
  refine .bind forward_current fun t => ?_
  split
  · exact forward_advance
  · exact .bind forward_current fun t => forward_fail _

/-! ## Loops -/

/-- A loop that goes on as long as the parser can move behind a token of some kind. -/
structure Loop (α : Type) where
  kind : Token.Kind
  body : α → Action α
  forward : ∀ a, Forward (body a)

namespace Loop

variable {l : Loop α} {a next : α}

/-- A pass through a loop takes at least one token. -/
theorem of_pass {r : Except Fault α} (haccept : accept l.kind s = (.ok true, s'))
    (hbody : l.body a s' = (r, s'')) :
    s.index < s.tokens.length ∧ s.Precedes s'' ∧ s.index < s''.index ∧
      .consume s.index ∈ s''.trace := by
  obtain ⟨t, ts, hrest, -, rfl⟩ := of_accept haccept
  have hlook := (precedes_look s).trans (precedes_look s.look)
  have hbody' := l.forward a s.look.look.pass
  rw [hbody] at hbody'
  refine ⟨index_lt_of_rest hrest, hlook.trans ((precedes_pass _).trans hbody'), hbody'.index_le, ?_⟩
  apply hbody'.trace.subset
  exact List.mem_append_right _ (List.mem_singleton_self _)

/-- Change a value by one pass after the other. -/
def run (l : Loop α) (a : α) (s : Descent) : Except Fault α × Descent :=
  match _haccept : accept l.kind s with
  | (.error e, s') => (.error e, s')
  | (.ok false, s') => (.ok a, s')
  | (.ok true, s') =>
    match _hbody : l.body a s' with
    | (.error e, s'') => (.error e, s'')
    | (.ok next, s'') => l.run next s''
termination_by s.tokens.length - s.index
decreasing_by
  obtain ⟨hlt, hprecedes, hmove, -⟩ := of_pass (by assumption) (by assumption)
  rw [hprecedes.tokens]
  omega

theorem run_eq (l : Loop α) (a : α) :
    l.run a = (do if ← accept l.kind then l.run (← l.body a) else return a : Action α) := by
  funext s
  rw [run]
  split
  · next haccept => exact (bind_of_error haccept _).symm
  · next haccept =>
    rw [bind_of_ok haccept]
    rfl
  · next haccept =>
    rw [bind_of_ok haccept]
    split
    · next hbody => exact (bind_of_error hbody _).symm
    · next hbody => exact (bind_of_ok hbody _).symm

theorem forward_run (l : Loop α) (a : α) : Forward (l.run a) := by
  intro s
  fun_induction run l a s with
  | case1 a s e s' haccept =>
    have hforward := forward_accept l.kind s
    rwa [haccept] at hforward
  | case2 a s s' haccept =>
    have hforward := forward_accept l.kind s
    rwa [haccept] at hforward
  | case3 a s s' haccept e s'' hbody =>
    exact (of_pass haccept hbody).2.1
  | case4 a s s' haccept next s'' hbody ih =>
    exact (of_pass haccept hbody).2.1.trans ih

end Loop

/-! ## Expressions -/

/-- A name or a constant. -/
def primary : Action Expr := do
  let t ← current
  match t.kind with
  | .ident =>
    let _ ← advance
    return .name t.value
  | .string =>
    let _ ← advance
    return .text t.value
  | kind => fail (.noOperand kind)

/-- Move behind the parenthesis that ends a call. -/
def close : Action Token := do
  if (← current).kind = .closeParen then
    advance
  else
    fail .arguments

/-- A property or a method call of a target, behind the dot. -/
def member (target : Expr) : Action Expr := do
  let n := (← expect .ident).value
  if ← accept .openParen then
    let _ ← close
    return .call target n
  else
    return .attr target n

theorem forward_primary : Forward primary := by
  refine .bind forward_current fun t => ?_
  split
  · exact .bind forward_advance fun _ => .pure _
  · exact .bind forward_advance fun _ => .pure _
  · exact forward_fail _

theorem forward_close : Forward close := by
  refine .bind forward_current fun t => ?_
  split
  · exact forward_advance
  · exact forward_fail _

theorem forward_member (target : Expr) : Forward (member target) := by
  refine (forward_expect _).bind fun t => (forward_accept _).bind fun found => ?_
  split
  · exact .bind forward_close fun _ => .pure _
  · exact .pure _

/-- The properties and method calls of a term. -/
def members : Loop Expr := ⟨.dot, member, forward_member⟩

def term : Action Expr := do
  let node ← primary
  members.run node

theorem forward_term : Forward term := .bind forward_primary members.forward_run

/-- One more operand, behind the plus sign. -/
def operand (done : List Expr) : Action (List Expr) := do
  return done ++ [← term]

theorem forward_operand (done : List Expr) : Forward (operand done) :=
  .bind forward_term fun _ => .pure _

/-- The operands of an expression behind the first. -/
def operands : Loop (List Expr) := ⟨.plus, operand, forward_operand⟩

/-- All operands of an expression. -/
def sum : Action (List Expr) := do
  let first ← term
  operands.run [first]

/-- An expression, and the end behind it. -/
def parse : Action Expr := do
  let es ← sum
  let _ ← expect .finish
  return Parser.tree es

end Descent

end TripleQuote
