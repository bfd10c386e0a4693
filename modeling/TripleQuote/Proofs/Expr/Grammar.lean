import TripleQuote.Expr.Parser

/-! # The grammar of expressions

A sentence is one or more terms with `+` between them, a term is a name or a constant with any
number of accesses, and an access is a property or a method call. A sentence is a derivation: its
leaves are the tokens that it derives, in order (`Sentence.yield`), and its tree is the expression
that they spell.

The parser finds the tree of the sentence that the tokens before the end are, and finds none if
they are no sentence (`run_sentence`, `exists_sentence_of_run`). There is at most one sentence
(`Sentence.yield_injective`). -/

namespace TripleQuote.Grammar

/-- A token of one kind. -/
abbrev Terminal (kind : Token.Kind) := { t : Token // t.kind = kind }

inductive Primary where
  | name (ident : Terminal .ident)
  | text (constant : Terminal .string)

inductive Access where
  | property (dot : Terminal .dot) (ident : Terminal .ident)
  | method (dot : Terminal .dot) (ident : Terminal .ident) (openParen : Terminal .openParen)
      (closeParen : Terminal .closeParen)

structure Term where
  primary : Primary
  accesses : List Access

structure Sentence where
  first : Term
  more : List (Terminal .plus × Term)

/-! ## Tokens -/

def Primary.token : Primary → Token
  | name ident => ident.val
  | text constant => constant.val

def Access.yield : Access → List Token
  | property dot ident => [dot.val, ident.val]
  | method dot ident openParen closeParen =>
    [dot.val, ident.val, openParen.val, closeParen.val]

def Term.yield (t : Term) : List Token := t.primary.token :: t.accesses.flatMap Access.yield

/-- The tokens of a term after a `+`. -/
def operandYield (operand : Terminal .plus × Term) : List Token :=
  operand.1.val :: operand.2.yield

def Sentence.yield (d : Sentence) : List Token := d.first.yield ++ d.more.flatMap operandYield

/-! ## Trees -/

def Primary.tree : Primary → Expr
  | name ident => .name ident.val.value
  | text constant => .text constant.val.value

def Access.apply (target : Expr) : Access → Expr
  | property _ ident => .attr target ident.val.value
  | method _ ident _ _ => .call target ident.val.value

/-- Accesses nest from left to right around the primary. -/
def Term.tree (t : Term) : Expr := t.accesses.foldl Access.apply t.primary.tree

def Sentence.trees (d : Sentence) : List Expr := d.first.tree :: d.more.map (·.2.tree)

/-- Two or more terms are a concatenation. -/
def Sentence.tree (d : Sentence) : Expr :=
  match d.more with
  | [] => d.first.tree
  | _ => .concat d.trees

theorem Sentence.tree_eq (d : Sentence) : d.tree = Parser.tree d.trees := by
  obtain ⟨first, more⟩ := d
  cases more with
  | nil => rfl
  | cons operand more => rfl

theorem Sentence.tree_eq_concat {d : Sentence} (h : 2 ≤ d.trees.length) :
    d.tree = .concat d.trees := by
  obtain ⟨first, more⟩ := d
  cases more with
  | nil =>
    simp only [trees, List.map_nil, List.length_singleton] at h
    omega
  | cons operand more => rfl

/-- The terms of one sentence and then those of another. -/
def Sentence.join (d : Sentence) (plus : Terminal .plus) (d' : Sentence) : Sentence :=
  ⟨d.first, d.more ++ (plus, d'.first) :: d'.more⟩

theorem Sentence.yield_join (d : Sentence) (plus : Terminal .plus) (d' : Sentence) :
    (d.join plus d').yield = d.yield ++ plus.val :: d'.yield := by
  simp [join, yield, operandYield]

theorem Sentence.trees_join (d : Sentence) (plus : Terminal .plus) (d' : Sentence) :
    (d.join plus d').trees = d.trees ++ d'.trees := by
  simp [join, trees]

/-- Whether the tokens, behind a term, are no part of it. -/
def EndsTerm (ts : List Token) : Prop :=
  ∀ t, ts.head? = some t → t.kind ≠ .dot ∧ t.kind ≠ .openParen

variable {t : Token} {ts rest : List Token} {s s' : Parser.State} {e : Expr}

/-! ## Sentences are read -/

theorem run_of_step (h : Parser.step s t = .ok (.inl s')) (ts : List Token) :
    Parser.run s (t :: ts) = Parser.run s' ts := by
  rw [Parser.run_cons, h]

theorem run_of_finish (h : Parser.step s t = .ok (.inr e)) (ts : List Token) :
    Parser.run s (t :: ts) = .ok e := by
  rw [Parser.run_cons, h]

theorem run_of_misfit {cause : SyntaxError.Cause} (h : Parser.step s t = .error cause)
    (ts : List Token) : Parser.run s (t :: ts) = .error (cause, t.position) := by
  rw [Parser.run_cons, h]

/-- The name of a property is the end of a term, if no parenthesis follows. -/
theorem run_named (done : List Expr) (target : Expr) (n : Text)
    (h : ∀ t, ts.head? = some t → t.kind ≠ .openParen) :
    Parser.run (.named done target n) ts = Parser.run (.term done (.attr target n)) ts := by
  cases ts with
  | nil => rfl
  | cons t ts =>
    have hstep : Parser.step (.named done target n) t =
        Parser.step (.term done (.attr target n)) t := if_neg (h t rfl)
    rw [Parser.run_cons, hstep, Parser.run_cons]

theorem head?_accesses_ne (accesses : List Access) (h : EndsTerm ts) :
    ∀ t, (accesses.flatMap Access.yield ++ ts).head? = some t → t.kind ≠ .openParen := by
  intro t ht
  cases accesses with
  | nil => exact (h t ht).2
  | cons access accesses =>
    cases access with
    | property dot ident | method dot ident openParen closeParen =>
      cases ht
      rw [dot.property]
      decide

theorem endsTerm_finish (ht : t.kind = .finish) : EndsTerm (t :: rest) := by
  intro t' ht'
  cases ht'
  rw [ht]
  decide

theorem endsTerm_append_operands (more : List (Terminal .plus × Term)) (h : EndsTerm ts) :
    EndsTerm (more.flatMap operandYield ++ ts) := by
  intro t ht
  cases more with
  | nil => exact h t ht
  | cons operand more =>
    cases ht
    rw [operand.1.property]
    decide

theorem endsTerm_operands (more : List (Terminal .plus × Term)) :
    EndsTerm (more.flatMap operandYield) := by
  have hmore : EndsTerm (more.flatMap operandYield ++ []) := by
    refine endsTerm_append_operands more ?_
    intro t ht
    cases ht
  rwa [List.append_nil] at hmore

theorem step_dot (done : List Expr) (node : Expr) (dot : Terminal .dot) :
    Parser.step (.term done node) dot.val = .ok (.inl (.member done node)) := by
  simp only [Parser.step, Parser.afterTerm, dot.property]

theorem step_plus (done : List Expr) (node : Expr) (plus : Terminal .plus) :
    Parser.step (.term done node) plus.val = .ok (.inl (.operand (done ++ [node]))) := by
  simp only [Parser.step, Parser.afterTerm, plus.property]

theorem step_member (done : List Expr) (target : Expr) (ident : Terminal .ident) :
    Parser.step (.member done target) ident.val =
      .ok (.inl (.named done target ident.val.value)) := by
  simp only [Parser.step, ident.property]

theorem step_openParen (done : List Expr) (target : Expr) (n : Text)
    (openParen : Terminal .openParen) :
    Parser.step (.named done target n) openParen.val = .ok (.inl (.arguments done target n)) :=
  if_pos openParen.property

theorem step_closeParen (done : List Expr) (target : Expr) (n : Text)
    (closeParen : Terminal .closeParen) :
    Parser.step (.arguments done target n) closeParen.val =
      .ok (.inl (.term done (.call target n))) :=
  if_pos closeParen.property

theorem step_primary (done : List Expr) (primary : Primary) :
    Parser.step (.operand done) primary.token = .ok (.inl (.term done primary.tree)) := by
  cases primary with
  | name ident => simp only [Parser.step, Primary.token, Primary.tree, ident.property]
  | text constant => simp only [Parser.step, Primary.token, Primary.tree, constant.property]

theorem run_accesses (done : List Expr) (node : Expr) (accesses : List Access) (h : EndsTerm ts) :
    Parser.run (.term done node) (accesses.flatMap Access.yield ++ ts) =
      Parser.run (.term done (accesses.foldl Access.apply node)) ts := by
  induction accesses generalizing node with
  | nil => rfl
  | cons access accesses ih =>
    rw [List.flatMap_cons, List.append_assoc, List.foldl_cons, ← ih]
    cases access with
    | property dot ident =>
      -- The parser takes a name before it knows whether a parenthesis follows.
      rw [Access.yield, List.cons_append, List.singleton_append, run_of_step (step_dot ..),
        run_of_step (step_member ..), run_named _ _ _ (head?_accesses_ne accesses h)]
      rfl
    | method dot ident openParen closeParen =>
      simp only [Access.yield, List.cons_append, List.nil_append]
      rw [run_of_step (step_dot ..), run_of_step (step_member ..), run_of_step (step_openParen ..),
        run_of_step (step_closeParen ..)]
      rfl

theorem run_term (done : List Expr) (term : Term) (h : EndsTerm ts) :
    Parser.run (.operand done) (term.yield ++ ts) = Parser.run (.term done term.tree) ts := by
  rw [Term.yield, List.cons_append, run_of_step (step_primary ..), run_accesses _ _ _ h]
  rfl

theorem run_operands (done : List Expr) (node : Expr) (more : List (Terminal .plus × Term))
    (ht : t.kind = .finish) :
    Parser.run (.term done node) (more.flatMap operandYield ++ t :: rest) =
      .ok (Parser.tree (done ++ node :: more.map (·.2.tree))) := by
  induction more generalizing done node with
  | nil => exact run_of_finish (by simp only [Parser.step, Parser.afterTerm, ht, List.map_nil]) rest
  | cons operand more ih =>
    obtain ⟨plus, term⟩ := operand
    rw [List.flatMap_cons, operandYield, List.append_assoc, List.cons_append,
      run_of_step (step_plus ..), run_term _ _ (endsTerm_append_operands more (endsTerm_finish ht)),
      ih]
    simp

/-- The tree of a sentence is found, if the end follows. -/
theorem run_sentence (d : Sentence) (ht : t.kind = .finish) :
    Parser.run (.operand []) (d.yield ++ t :: rest) = .ok d.tree := by
  rw [Sentence.yield, List.append_assoc,
    run_term _ _ (endsTerm_append_operands d.more (endsTerm_finish ht)), run_operands _ _ _ ht,
    d.tree_eq]
  rfl

/-! ## What is read is a sentence -/

/-- Terms that are each followed by a `+`. -/
abbrev Operands := List (Term × Terminal .plus)

def Operands.yield (done : Operands) : List Token :=
  done.flatMap fun operand => operand.1.yield ++ [operand.2.val]

def Operands.trees (done : Operands) : List Expr := done.map (·.1.tree)

/-- The tokens that have been read when the parser is in a state. -/
inductive Reads : List Token → Parser.State → Prop where
  | operand (done : Operands) : Reads done.yield (.operand done.trees)
  | term (done : Operands) (term : Term) :
      Reads (done.yield ++ term.yield) (.term done.trees term.tree)
  | member (done : Operands) (term : Term) (dot : Terminal .dot) :
      Reads (done.yield ++ (term.yield ++ [dot.val])) (.member done.trees term.tree)
  | named (done : Operands) (term : Term) (dot : Terminal .dot) (ident : Terminal .ident) :
      Reads (done.yield ++ (term.yield ++ [dot.val, ident.val]))
        (.named done.trees term.tree ident.val.value)
  | arguments (done : Operands) (term : Term) (dot : Terminal .dot) (ident : Terminal .ident)
      (openParen : Terminal .openParen) :
      Reads (done.yield ++ (term.yield ++ [dot.val, ident.val, openParen.val]))
        (.arguments done.trees term.tree ident.val.value)

def Term.push (term : Term) (access : Access) : Term :=
  ⟨term.primary, term.accesses ++ [access]⟩

theorem Term.yield_push (term : Term) (access : Access) :
    (term.push access).yield = term.yield ++ access.yield := by
  simp [push, yield]

theorem Term.tree_push (term : Term) (access : Access) :
    (term.push access).tree = access.apply term.tree := by
  simp [push, tree]

theorem exists_sentence (done : Operands) (term : Term) :
    ∃ d : Sentence, d.yield = done.yield ++ term.yield ∧ d.trees = done.trees ++ [term.tree] := by
  induction done with
  | nil => exact ⟨⟨term, []⟩, by simp [Sentence.yield, Operands.yield], rfl⟩
  | cons operand done ih =>
    obtain ⟨d, hyield, htrees⟩ := ih
    refine ⟨Sentence.join ⟨operand.1, []⟩ operand.2 d, ?_, ?_⟩
    · rw [Sentence.yield_join, hyield]
      simp [Sentence.yield, Operands.yield]
    · rw [Sentence.trees_join, htrees]
      rfl

namespace Reads

variable {us : List Token}

theorem afterTerm (done : Operands) (term : Term)
    (h : Parser.afterTerm done.trees term.tree t = .ok (.inl s')) :
    Reads (done.yield ++ term.yield ++ [t]) s' := by
  unfold Parser.afterTerm at h
  split at h
  · next hkind =>
    cases h
    rw [List.append_assoc]
    exact .member done term ⟨t, hkind⟩
  · next hkind =>
    cases h
    have hread := Reads.operand (done ++ [(term, ⟨t, hkind⟩)])
    simpa [Operands.yield, Operands.trees] using hread
  · cases h
  · cases h

theorem of_afterTerm_finish (done : Operands) (term : Term)
    (h : Parser.afterTerm done.trees term.tree t = .ok (.inr e)) :
    t.kind = .finish ∧ ∃ d : Sentence, d.yield = done.yield ++ term.yield ∧ d.tree = e := by
  unfold Parser.afterTerm at h
  split at h
  · cases h
  · cases h
  · next hkind =>
    cases h
    obtain ⟨d, hyield, htrees⟩ := exists_sentence done term
    exact ⟨hkind, d, hyield, by rw [d.tree_eq, htrees]⟩
  · cases h

/-- One token more. -/
theorem step (h : Reads us s) (hstep : Parser.step s t = .ok (.inl s')) :
    Reads (us ++ [t]) s' := by
  cases h with
  | operand done =>
    simp only [Parser.step] at hstep
    split at hstep
    · next hkind =>
      cases hstep
      exact .term done ⟨.name ⟨t, hkind⟩, []⟩
    · next hkind =>
      cases hstep
      exact .term done ⟨.text ⟨t, hkind⟩, []⟩
    · cases hstep
  | term done term => exact afterTerm done term hstep
  | member done term dot =>
    simp only [Parser.step] at hstep
    split at hstep
    · next hkind =>
      cases hstep
      simpa using Reads.named done term dot ⟨t, hkind⟩
    · cases hstep
  | named done term dot ident =>
    simp only [Parser.step] at hstep
    split at hstep
    · next hkind =>
      cases hstep
      simpa using Reads.arguments done term dot ident ⟨t, hkind⟩
    · have hread := afterTerm done (term.push (.property dot ident))
        (by rwa [Term.tree_push])
      rwa [Term.yield_push] at hread
  | arguments done term dot ident openParen =>
    simp only [Parser.step] at hstep
    split at hstep
    · next hkind =>
      cases hstep
      have hread := Reads.term done (term.push (.method dot ident openParen ⟨t, hkind⟩))
      rw [Term.yield_push, Term.tree_push, Access.yield] at hread
      simpa only [List.append_assoc, List.cons_append, List.nil_append, Access.apply] using hread
    · cases hstep

/-- The last token. -/
theorem finish (h : Reads us s) (hstep : Parser.step s t = .ok (.inr e)) :
    t.kind = .finish ∧ ∃ d : Sentence, d.yield = us ∧ d.tree = e := by
  cases h with
  | operand done =>
    simp only [Parser.step] at hstep
    split at hstep <;> cases hstep
  | term done term => exact of_afterTerm_finish done term hstep
  | member done term dot =>
    simp only [Parser.step] at hstep
    split at hstep <;> cases hstep
  | named done term dot ident =>
    simp only [Parser.step] at hstep
    split at hstep
    · cases hstep
    · have hread := of_afterTerm_finish done (term.push (.property dot ident))
        (by rwa [Term.tree_push])
      rwa [Term.yield_push] at hread
  | arguments done term dot ident openParen =>
    simp only [Parser.step] at hstep
    split at hstep <;> cases hstep

/-- What is read up to the end is a sentence, and its tree is what is found. -/
theorem run (h : Reads us s) (hrun : Parser.run s ts = .ok e) :
    ∃ d : Sentence, ∃ last rest, us ++ ts = d.yield ++ last :: rest ∧ last.kind = .finish ∧
      d.tree = e := by
  induction ts generalizing us s with
  | nil => cases hrun
  | cons t ts ih =>
    rw [Parser.run_cons] at hrun
    split at hrun
    · cases hrun
    · next s' hstep =>
      obtain ⟨d, last, rest, hyield, hlast, htree⟩ := ih (h.step hstep) hrun
      exact ⟨d, last, rest, by rwa [List.append_assoc] at hyield, hlast, htree⟩
    · next e' hstep =>
      cases hrun
      obtain ⟨hkind, d, rfl, htree⟩ := h.finish hstep
      exact ⟨d, t, ts, rfl, hkind, htree⟩

end Reads

/-- If the last token is the only one that can be an end, the others are a sentence. -/
theorem exists_sentence_of_run {us : List Token} (hus : ∀ t ∈ us, t.kind ≠ .finish)
    (hrun : Parser.run (.operand []) (us ++ [t]) = .ok e) :
    ∃ d : Sentence, d.yield = us ∧ d.tree = e := by
  obtain ⟨d, last, rest, hyield, hlast, htree⟩ := (Reads.operand []).run hrun
  replace hyield : us ++ [t] = d.yield ++ last :: rest := hyield
  refine ⟨d, ?_, htree⟩
  -- The parser stops at an end, and no token before the last is one.
  rcases List.eq_nil_or_concat rest with rfl | ⟨rest, t', rfl⟩
  · exact (List.append_inj' hyield rfl).1.symm
  · rw [List.concat_eq_append, ← List.cons_append, ← List.append_assoc] at hyield
    obtain ⟨rfl, -⟩ := List.append_inj' hyield rfl
    exact absurd hlast (hus last (by simp))

/-! ## The end -/

theorem step_ne_noTokens {p : Token} (s : Parser.State) : Parser.step s p ≠ .error .noTokens := by
  intro h
  cases s with
  | operand done | member done target =>
    simp only [Parser.step] at h
    split at h <;> cases h
  | term done node =>
    simp only [Parser.step, Parser.afterTerm] at h
    split at h <;> cases h
  | named done target n =>
    simp only [Parser.step, Parser.afterTerm] at h
    split at h
    · cases h
    · split at h <;> cases h
  | arguments done target n =>
    simp only [Parser.step] at h
    split at h <;> cases h

theorem kind_ne_finish_of_step (h : Parser.step s t = .ok (.inl s')) : t.kind ≠ .finish := by
  intro hkind
  cases s with
  | operand done | term done node | member done target | named done target n
  | arguments done target n => simp [Parser.step, Parser.afterTerm, hkind] at h

/-- Tokens with an end are never used up. -/
theorem run_ne_noTokens (hlast : ∃ t ∈ ts, t.kind = .finish) {pos : Nat} :
    Parser.run s ts ≠ .error (.noTokens, pos) := by
  induction ts generalizing s with
  | nil =>
    obtain ⟨t, ht, _⟩ := hlast
    cases ht
  | cons t ts ih =>
    intro h
    rw [Parser.run_cons] at h
    split at h
    · next cause hstep =>
      cases h
      exact step_ne_noTokens s hstep
    · next s' hstep =>
      obtain ⟨last, hmem, hkind⟩ := hlast
      rcases List.mem_cons.mp hmem with rfl | hmem
      · exact kind_ne_finish_of_step hstep hkind
      · exact ih ⟨last, hmem, hkind⟩ h
    · cases h

/-! ## Sentences are unique -/

theorem Terminal.kind_eq {kind kind' : Token.Kind} {i : Terminal kind} {j : Terminal kind'}
    (h : i.val = j.val) : kind = kind' := by
  rw [← i.property, h, j.property]

theorem Primary.token_injective {a b : Primary} (h : a.token = b.token) : a = b := by
  cases a with
  | name i =>
    cases b with
    | name j => exact congrArg name (Subtype.ext h)
    | text j => cases Terminal.kind_eq h
  | text i =>
    cases b with
    | name j => cases Terminal.kind_eq h
    | text j => exact congrArg text (Subtype.ext h)

theorem not_endsTerm_accesses (access : Access) (accesses : List Access) (ts : List Token) :
    ¬ EndsTerm ((access :: accesses).flatMap Access.yield ++ ts) := by
  intro h
  cases access with
  | property dot ident | method dot ident openParen closeParen =>
    exact (h dot.val rfl).1 dot.property

/-- A parenthesis behind the name of an access belongs to it. -/
theorem accesses_ne_openParen {accesses : List Access} {us vs : List Token}
    (openParen : Terminal .openParen) (hus : EndsTerm us) :
    accesses.flatMap Access.yield ++ us ≠ openParen.val :: vs := by
  intro h
  refine head?_accesses_ne accesses hus openParen.val ?_ openParen.property
  rw [h]
  rfl

theorem accesses_injective {as bs : List Access} {us vs : List Token}
    (h : as.flatMap Access.yield ++ us = bs.flatMap Access.yield ++ vs) (hus : EndsTerm us)
    (hvs : EndsTerm vs) : as = bs ∧ us = vs := by
  induction as generalizing bs with
  | nil =>
    cases bs with
    | nil => exact ⟨rfl, h⟩
    | cons b bs =>
      rw [List.flatMap_nil, List.nil_append] at h
      exact absurd (h ▸ hus) (not_endsTerm_accesses b bs vs)
  | cons a as ih =>
    cases bs with
    | nil =>
      rw [List.flatMap_nil, List.nil_append] at h
      exact absurd (h ▸ hvs) (not_endsTerm_accesses a as us)
    | cons b bs =>
      simp only [List.flatMap_cons, List.append_assoc] at h
      cases a with
      | property dot ident =>
        cases b with
        | property dot' ident' =>
          simp only [Access.yield, List.cons_append, List.nil_append, List.cons.injEq] at h
          obtain ⟨hdot, hident, h⟩ := h
          obtain ⟨rfl, hrest⟩ := ih h
          exact ⟨by rw [Subtype.ext hdot, Subtype.ext hident], hrest⟩
        | method dot' ident' openParen' closeParen' =>
          simp only [Access.yield, List.cons_append, List.nil_append, List.cons.injEq] at h
          exact absurd h.2.2 (accesses_ne_openParen openParen' hus)
      | method dot ident openParen closeParen =>
        cases b with
        | property dot' ident' =>
          simp only [Access.yield, List.cons_append, List.nil_append, List.cons.injEq] at h
          exact absurd h.2.2.symm (accesses_ne_openParen openParen hvs)
        | method dot' ident' openParen' closeParen' =>
          simp only [Access.yield, List.cons_append, List.nil_append, List.cons.injEq] at h
          obtain ⟨hdot, hident, hopen, hclose, h⟩ := h
          obtain ⟨rfl, hrest⟩ := ih h
          exact ⟨by rw [Subtype.ext hdot, Subtype.ext hident, Subtype.ext hopen,
            Subtype.ext hclose], hrest⟩

theorem Term.yield_injective {a b : Term} {us vs : List Token}
    (h : a.yield ++ us = b.yield ++ vs) (hus : EndsTerm us) (hvs : EndsTerm vs) :
    a = b ∧ us = vs := by
  obtain ⟨primary, as⟩ := a
  obtain ⟨primary', bs⟩ := b
  simp only [Term.yield, List.cons_append, List.cons.injEq] at h
  obtain ⟨hprimary, h⟩ := h
  obtain ⟨rfl, hrest⟩ := accesses_injective h hus hvs
  exact ⟨by rw [Primary.token_injective hprimary], hrest⟩

theorem operands_injective {as bs : List (Terminal .plus × Term)}
    (h : as.flatMap operandYield = bs.flatMap operandYield) : as = bs := by
  induction as generalizing bs with
  | nil =>
    cases bs with
    | nil => rfl
    | cons b bs => cases h
  | cons a as ih =>
    cases bs with
    | nil => cases h
    | cons b bs =>
      obtain ⟨plus, term⟩ := a
      obtain ⟨plus', term'⟩ := b
      simp only [List.flatMap_cons, operandYield, List.cons_append, List.cons.injEq] at h
      obtain ⟨hplus, h⟩ := h
      obtain ⟨rfl, hrest⟩ := Term.yield_injective h (endsTerm_operands as) (endsTerm_operands bs)
      rw [ih hrest, Subtype.ext hplus]

/-- Tokens are derived in one way only. -/
theorem Sentence.yield_injective {d d' : Sentence} (h : d.yield = d'.yield) : d = d' := by
  obtain ⟨first, more⟩ := d
  obtain ⟨first', more'⟩ := d'
  obtain ⟨rfl, hrest⟩ :=
    Term.yield_injective h (endsTerm_operands more) (endsTerm_operands more')
  have hsame : more = more' := operands_injective hrest
  rw [hsame]

end TripleQuote.Grammar
