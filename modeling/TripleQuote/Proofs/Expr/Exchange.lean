import TripleQuote.Proofs.Expr.Parsing
import TripleQuote.Proofs.Template.Exchange

/-! # Exchanging the quotes of expressions

The reader of tokens goes through the same states when the quotes of a source have changed places,
with the other quote around each constant (`Reader.step_exchanged`). So a source has the same tokens
at the same positions, or fails in the same place, and spells the same tree with other constants.

Together with the lexer of templates this makes the two quotes interchangeable throughout
(`quotes_are_interchangeable`). -/

namespace TripleQuote

def Token.exchanged (t : Token) : Token := ⟨t.kind, t.value.exchanged, t.position⟩

def Reader.State.exchanged : State → State
  | between => between
  | ident start read => ident start read.exchanged
  | constant q start read => constant (exchange q) start read.exchanged
  | escape q start read => escape (exchange q) start read.exchanged

mutual
/-- An expression in whose constants the quotes have changed places. -/
def Expr.exchanged : Expr → Expr
  | name ident => name ident
  | text value => text value.exchanged
  | attr target n => attr target.exchanged n
  | call target n => call target.exchanged n
  | concat operands => concat (exchangedAll operands)
  | hole => hole

def Expr.exchangedAll : List Expr → List Expr
  | [] => []
  | e :: es => e.exchanged :: exchangedAll es
end

def Parser.State.exchanged : State → State
  | operand done => operand (done.map Expr.exchanged)
  | term done node => term (done.map Expr.exchanged) node.exchanged
  | member done target => member (done.map Expr.exchanged) target.exchanged
  | named done target n => named (done.map Expr.exchanged) target.exchanged n
  | arguments done target n => arguments (done.map Expr.exchanged) target.exchanged n

variable {c : Char} {s : Text} {t : Token} {ts : List Token}

@[simp] theorem Token.kind_exchanged (t : Token) : t.exchanged.kind = t.kind := rfl

/-! ## Characters -/

theorem exchange_of_ofChar? (h : Quote.ofChar? c = none) : exchange c = c := by
  rw [exchange, h, Option.elim_none]

theorem isIdentChar_exchange (c : Char) : isIdentChar (exchange c) = isIdentChar c :=
  apply_exchange _ ((isIdentChar_quote .single).trans (isIdentChar_quote .double).symm) c

theorem exchange_of_isIdentChar (h : isIdentChar c = true) : exchange c = c := by
  cases hc : Quote.ofChar? c with
  | none => exact exchange_of_ofChar? hc
  | some q =>
    rw [← Quote.char_eq_of_ofChar? hc, isIdentChar_quote] at h
    cases h

/-- An escaped quote is a quote, and no other character has to do with quotes. -/
theorem unescape_exchange (c : Char) : unescape (exchange c) = (unescape c).exchanged := by
  cases hc : Quote.ofChar? c with
  | some q =>
    rw [← Quote.char_eq_of_ofChar? hc]
    cases q <;> rfl
  | none =>
    have hplain := exchange_of_ofChar? hc
    rw [hplain]
    fun_cases unescape c with
    | case1 | case4 => simp [hplain, show exchange '\\' = '\\' from rfl]
    | case2 | case3 => rfl

/-! ## Tokens -/

namespace Reader

variable {pos : Nat}

/-- What a step finds when the quotes have changed places. -/
abbrev exchangedStep (found : List Token × State) : List Token × State :=
  (found.1.map Token.exchanged, found.2.exchanged)

theorem begin_exchanged (pos : Nat) (c : Char) :
    begin pos (exchange c) = (begin pos c).map exchangedStep := by
  cases hc : Quote.ofChar? c with
  | some q =>
    rw [← Quote.char_eq_of_ofChar? hc, exchange_char, begin_quote, begin_quote, ← exchange_char]
    rfl
  | none =>
    have hplain := exchange_of_ofChar? hc
    rw [hplain]
    cases hbegin : begin pos c with
    | error e => rfl
    | ok found =>
      obtain ⟨tokens, next⟩ := found
      rcases of_begin_ok hbegin with ⟨_, rfl, rfl⟩ | ⟨kind, _, rfl, rfl⟩ | ⟨_, rfl, rfl⟩ |
        ⟨q, rfl, _⟩
      · rfl
      · simp [Except.map, Token.exchanged, State.exchanged, hplain]
      · simp [Except.map, State.exchanged, hplain]
      · rw [Quote.ofChar?_char] at hc
        cases hc

theorem step_exchanged (state : State) (pos : Nat) (c : Char) :
    step state.exchanged pos (exchange c) = (step state pos c).map exchangedStep := by
  cases state with
  | between => exact begin_exchanged pos c
  | ident start read =>
    simp only [State.exchanged, step, isIdentChar_exchange, begin_exchanged]
    split
    · rfl
    · cases begin pos c with
      | error e => rfl
      | ok found =>
        simp [Except.map, exchangedStep, Token.exchanged, Text.exchanged]
  | constant q start read =>
    simp only [State.exchanged, step, exchange_inj, exchange_eq_iff (d := '\\') rfl]
    split
    · simp [Except.map, exchangedStep, Token.exchanged, Text.exchanged, State.exchanged]
    · split <;> rfl
  | escape q start read =>
    simp [State.exchanged, step, unescape_exchange, Except.map, exchangedStep, Text.exchanged]

theorem finish_exchanged (state : State) (pos : Nat) :
    finish state.exchanged pos = (finish state pos).map (List.map Token.exchanged) := by
  cases state with
  | between | constant q start read | escape q start read => rfl
  | ident start read =>
    simp [State.exchanged, finish, Except.map, Token.exchanged, Text.exchanged]

theorem run_exchanged (state : State) (pos : Nat) (s : Text) :
    run state.exchanged pos s.exchanged = (run state pos s).map (List.map Token.exchanged) := by
  induction s generalizing state pos with
  | nil => exact finish_exchanged state pos
  | cons c s ih =>
    rw [Text.exchanged_cons, run, run, step_exchanged]
    cases step state pos c with
    | error e => rfl
    | ok found =>
      obtain ⟨tokens, next⟩ := found
      simp only [Except.map, bind, Except.bind, ih]
      cases run next (pos + 1) s with
      | error e => rfl
      | ok ts => exact congrArg Except.ok List.map_append.symm

end Reader

/-- A source in which the quotes have changed places has the same tokens with other values. -/
theorem tokens_exchanged (s : Text) :
    tokens s.exchanged = (tokens s).map (List.map Token.exchanged) :=
  Reader.run_exchanged .between 0 s

/-- There is no quote in an identifier. -/
theorem exchanged_ident (h : tokens s = .ok ts) (ht : t ∈ ts) (hkind : t.kind = .ident) :
    t.value.exchanged = t.value := by
  obtain ⟨before, tail, _, _, hstarts⟩ := (tokens_eq_ok_iff.mp h).exists_split ht
  obtain ⟨kind, value, position⟩ := t
  cases hkind
  cases hstarts with
  | finish hfinish => cases hfinish
  | lexeme hx _ =>
    cases hx with
    | punctuation hc => exact absurd hc (punctuation?_ne_ident _)
    | ident hident =>
      have hplain : ∀ c ∈ value, exchange c = c := fun c hc =>
        exchange_of_isIdentChar (isIdentChar_of_mem hident c hc)
      rw [Text.exchanged, List.map_congr_left hplain, List.map_id']

/-! ## Trees -/

theorem Expr.exchangedAll_eq_map (es : List Expr) : exchangedAll es = es.map exchanged := by
  induction es with
  | nil => rfl
  | cons e es ih => rw [exchangedAll, ih, List.map_cons]

namespace Parser

theorem tree_exchanged (es : List Expr) : tree (es.map Expr.exchanged) = (tree es).exchanged := by
  rcases es with _ | ⟨e, _ | ⟨e', es⟩⟩
  · rfl
  · rfl
  · exact congrArg Expr.concat (Expr.exchangedAll_eq_map (e :: e' :: es)).symm

/-- What a step of the parser gives when the quotes have changed places. -/
abbrev exchangedNext : State ⊕ Expr → State ⊕ Expr := Sum.map State.exchanged Expr.exchanged

theorem afterTerm_exchanged (done : List Expr) (node : Expr) (t : Token) :
    afterTerm (done.map Expr.exchanged) node.exchanged t.exchanged =
      (afterTerm done node t).map exchangedNext := by
  have hdone : done.map Expr.exchanged ++ [node.exchanged] =
      (done ++ [node]).map Expr.exchanged := by
    rw [List.map_append, List.map_singleton]
  simp only [afterTerm, Token.exchanged, hdone, tree_exchanged]
  split <;> rfl

theorem step_exchanged (state : State) (hident : t.kind = .ident → t.value.exchanged = t.value) :
    step state.exchanged t.exchanged = (step state t).map exchangedNext := by
  cases state with
  | operand done =>
    simp only [State.exchanged, step, Token.exchanged]
    split
    · next hkind =>
      rw [hident hkind]
      rfl
    · rfl
    · rfl
  | term done node => exact afterTerm_exchanged done node t
  | member done target =>
    simp only [State.exchanged, step, Token.exchanged]
    split
    · next hkind =>
      rw [hident hkind]
      rfl
    · rfl
  | named done target n =>
    rw [State.exchanged, step, step, Token.kind_exchanged]
    split
    · rfl
    · exact afterTerm_exchanged done (.attr target n) t
  | arguments done target n =>
    rw [State.exchanged, step, step, Token.kind_exchanged]
    split <;> rfl

theorem run_exchanged (state : State)
    (hident : ∀ t ∈ ts, t.kind = .ident → t.value.exchanged = t.value) :
    run state.exchanged (ts.map Token.exchanged) = (run state ts).map Expr.exchanged := by
  induction ts generalizing state with
  | nil => rfl
  | cons t ts ih =>
    obtain ⟨ht, hts⟩ := List.forall_mem_cons.mp hident
    rw [List.map_cons, run_cons, run_cons, step_exchanged state ht]
    cases step state t with
    | error cause => rfl
    | ok next =>
      cases next with
      | inl next => exact ih next hts
      | inr e => rfl

end Parser

theorem parse_exchanged (s : Text) :
    Expr.parse s.exchanged = ((Expr.parse s).map Expr.exchanged).mapError fun error =>
      { error with source := s.exchanged } := by
  rw [Expr.parse, Expr.parse, tokens_exchanged]
  cases htokens : tokens s with
  | error e => rfl
  | ok ts =>
    have hrun : Parser.run (.operand []) (ts.map Token.exchanged) =
        (Parser.run (.operand []) ts).map Expr.exchanged :=
      Parser.run_exchanged (.operand []) fun t ht => exchanged_ident htokens ht
    simp only [Except.map] at hrun ⊢
    rw [hrun]
    cases Parser.run (.operand []) ts with
    | error error => rfl
    | ok e => rfl

/-- The two quotes are interchangeable. Where they change places, a template has the same segments
at the same offsets, but for the quotes in them, or the same fault; an expression has the same
tokens and the same tree, but for the quotes in its constants, or fails at the same place for the
same cause. -/
theorem quotes_are_interchangeable (required : Option Quote) (s : Text) :
    lex (required.map Quote.other) s.exchanged =
      ((lex required s).map (List.map Segment.exchanged)).mapError Malformed.exchanged ∧
    tokens s.exchanged = (tokens s).map (List.map Token.exchanged) ∧
    Expr.parse s.exchanged = ((Expr.parse s).map Expr.exchanged).mapError fun error =>
      { error with source := s.exchanged } :=
  ⟨lex_exchanged required s, tokens_exchanged s, parse_exchanged s⟩

end TripleQuote
