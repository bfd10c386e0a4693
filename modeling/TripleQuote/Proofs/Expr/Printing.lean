import TripleQuote.Proofs.Expr.Parsing

/-! # Printing expressions

`Expr.print` writes an expression as a source, each of its constants in quotes of its own choice.
The printed form of a normal tree is read back as that tree, and only normal trees are read from
sources (`parse_print`).

A printed part is read as the tokens of a term wherever it stands before a text that cannot
continue its last identifier (`SpellsTerm`); a dot, a `+` and the end are such texts. -/

namespace TripleQuote

open Grammar (Terminal Term Access Sentence)

/-- A character as it is written between quotes. -/
def escapeConstant (q : Quote) (c : Char) : Text :=
  if c = '\\' then ['\\', '\\'] else if c = q.char then ['\\', q.char] else [c]

def printConstant (q : Quote) (value : Text) : Text :=
  q.char :: (value.flatMap (escapeConstant q) ++ [q.char])

namespace Expr

mutual
/-- An expression as a source. A constant is found by the numbers of the operands that lead to it,
and `pick` gives its quotes. -/
def print (pick : List Nat → Quote) : Expr → Text
  | name ident => ident
  | text value => printConstant (pick []) value
  | attr target n => target.print pick ++ '.' :: n
  | call target n => target.print pick ++ '.' :: (n ++ ['(', ')'])
  | concat operands => printAll pick 0 operands
  | hole => []

/-- The operands from number `i` on with `+` between them. -/
def printAll (pick : List Nat → Quote) (i : Nat) : List Expr → Text
  | [] => []
  | [e] => e.print fun place => pick (i :: place)
  | e :: e' :: es =>
    e.print (fun place => pick (i :: place)) ++ '+' :: printAll pick (i + 1) (e' :: es)
end

def isConcat : Expr → Bool
  | concat _ => true
  | _ => false

/-- The trees of sources: names are identifiers, no target is a concatenation, and a concatenation
has two or more operands, none of which is one. -/
inductive Normal : Expr → Prop where
  | name (h : IsIdent ident) : Normal (name ident)
  | text (value : Text) : Normal (text value)
  | attr (ht : Normal target) (hc : target.isConcat = false) (hn : IsIdent n) :
      Normal (attr target n)
  | call (ht : Normal target) (hc : target.isConcat = false) (hn : IsIdent n) :
      Normal (call target n)
  | concat (hlength : 2 ≤ operands.length) (h : ∀ e ∈ operands, Normal e)
      (hc : ∀ e ∈ operands, e.isConcat = false) : Normal (concat operands)

end Expr

open TripleQuote.Expr (Normal print printAll)

/-! ## Printed parts are read -/

variable {pos : Nat} {s x : Text} {ts : List Token} {e : Expr} {pick : List Nat → Quote}

namespace Tokenized

/-- A dot and the name of a property or method. -/
theorem member {n : Text} (hn : IsIdent n) (hs : EndsIdent s)
    (h : Tokenized (pos + (n.length + 1)) s ts) :
    Tokenized pos ('.' :: (n ++ s))
      (⟨.dot, ['.'], pos⟩ :: ⟨.ident, n, pos + 1⟩ :: ts) := by
  refine punctuation rfl (.token (.ident hn) (fun _ => hs) ?_)
  rwa [Nat.add_assoc, Nat.add_comm 1]

end Tokenized

theorem Lexeme.isIdent {kind : Token.Kind} {value : Text} (h : Lexeme kind value x)
    (hkind : kind = .ident) : IsIdent value := by
  cases h with
  | punctuation hc =>
    subst hkind
    exact absurd hc (punctuation?_ne_ident _)
  | ident h => exact h
  | constant => cases hkind

theorem constantBody_escapeConstant (q : Quote) (value : Text) :
    ConstantBody q (value.flatMap (escapeConstant q)) value := by
  induction value with
  | nil => exact .nil
  | cons c value ih =>
    rw [List.flatMap_cons, escapeConstant]
    split
    · next hc =>
      subst hc
      exact .escape '\\' ih
    · next hback =>
      split
      · next hc =>
        subst hc
        have hquote : unescape q.char = [q.char] := by cases q <;> rfl
        have hbody := ConstantBody.escape q.char ih
        rwa [hquote] at hbody
      · next hquote => exact .plain hquote hback ih

/-- Before a text that cannot continue it, `x` is read as the tokens of a term. -/
def SpellsTerm (x : Text) (e : Expr) : Prop :=
  ∀ pos s ts, EndsIdent s → Tokenized (pos + x.length) s ts →
    ∃ term : Term, term.tree = e ∧ Tokenized pos (x ++ s) (term.yield ++ ts)

namespace SpellsTerm

theorem name (h : IsIdent x) : SpellsTerm x (.name x) := by
  intro pos s ts hs hts
  exact ⟨⟨.name ⟨⟨.ident, x, pos⟩, rfl⟩, []⟩, rfl, .token (.ident h) (fun _ => hs) hts⟩

theorem text (q : Quote) (value : Text) : SpellsTerm (printConstant q value) (.text value) := by
  intro pos s ts hs hts
  exact ⟨⟨.text ⟨⟨.string, value, pos⟩, rfl⟩, []⟩, rfl,
    .token (.constant q (constantBody_escapeConstant q value)) (fun h => by cases h) hts⟩

theorem attr {n : Text} (h : SpellsTerm x e) (hn : IsIdent n) :
    SpellsTerm (x ++ '.' :: n) (.attr e n) := by
  intro pos s ts hs hts
  rw [List.length_append, List.length_cons, ← Nat.add_assoc] at hts
  have hmember := Tokenized.member hn hs hts
  obtain ⟨term, rfl, hterm⟩ := h pos _ _ (.cons _ (by decide)) hmember
  let dot : Terminal .dot := ⟨⟨.dot, ['.'], pos + x.length⟩, rfl⟩
  let ident : Terminal .ident := ⟨⟨.ident, n, pos + x.length + 1⟩, rfl⟩
  refine ⟨term.push (.property dot ident), Term.tree_push .., ?_⟩
  rw [Term.yield_push, Access.yield]
  simpa using hterm

theorem call {n : Text} (h : SpellsTerm x e) (hn : IsIdent n) :
    SpellsTerm (x ++ '.' :: (n ++ ['(', ')'])) (.call e n) := by
  intro pos s ts hs hts
  have hpos : pos + (x ++ '.' :: (n ++ ['(', ')'])).length =
      pos + x.length + (n.length + 1) + 1 + 1 := by
    simp only [List.length_append, List.length_cons, List.length_nil]
    omega
  rw [hpos] at hts
  have hclose := Tokenized.punctuation (show punctuation? ')' = some .closeParen from rfl) hts
  have hopen := Tokenized.punctuation (show punctuation? '(' = some .openParen from rfl) hclose
  have hmember := Tokenized.member hn (.cons _ (by decide)) hopen
  obtain ⟨term, rfl, hterm⟩ := h pos _ _ (.cons _ (by decide)) hmember
  let dot : Terminal .dot := ⟨⟨.dot, ['.'], pos + x.length⟩, rfl⟩
  let ident : Terminal .ident := ⟨⟨.ident, n, pos + x.length + 1⟩, rfl⟩
  let openParen : Terminal .openParen :=
    ⟨⟨.openParen, ['('], pos + x.length + (n.length + 1)⟩, rfl⟩
  let closeParen : Terminal .closeParen :=
    ⟨⟨.closeParen, [')'], pos + x.length + (n.length + 1) + 1⟩, rfl⟩
  refine ⟨term.push (.method dot ident openParen closeParen), Term.tree_push .., ?_⟩
  rw [Term.yield_push, Access.yield]
  simpa using hterm

theorem parse (h : SpellsTerm x e) : Expr.parse x = .ok e := by
  obtain ⟨term, rfl, hterm⟩ := h 0 [] _ .nil (.endAt x)
  rw [List.append_nil] at hterm
  refine parse_of_tokens (d := ⟨term, []⟩) (tokens_eq_ok_iff.mpr ?_)
  simpa [Sentence.yield] using hterm

end SpellsTerm

theorem spellsTerm_print (h : Normal e) (hc : e.isConcat = false) (pick : List Nat → Quote) :
    SpellsTerm (e.print pick) e := by
  induction h with
  | name h => exact .name h
  | text value => exact .text (pick []) value
  | attr _ htarget hn ih => exact (ih htarget).attr hn
  | call _ htarget hn ih => exact (ih htarget).call hn
  | concat => cases hc

/-- Operands are read as a sentence of their terms. -/
theorem exists_sentence_printAll {operands : List Expr} (hne : operands ≠ [])
    (h : ∀ e ∈ operands, Normal e) (hc : ∀ e ∈ operands, e.isConcat = false) (i pos : Nat)
    (hs : EndsIdent s) (hts : Tokenized (pos + (printAll pick i operands).length) s ts) :
    ∃ d : Sentence, d.trees = operands ∧
      Tokenized pos (printAll pick i operands ++ s) (d.yield ++ ts) := by
  induction operands generalizing i pos with
  | nil => exact absurd rfl hne
  | cons e operands ih =>
    have hterm := spellsTerm_print (h e List.mem_cons_self) (hc e List.mem_cons_self)
      fun place => pick (i :: place)
    cases operands with
    | nil =>
      obtain ⟨term, rfl, hterm⟩ := hterm pos s ts hs hts
      exact ⟨⟨term, []⟩, rfl, by simpa [Sentence.yield, printAll] using hterm⟩
    | cons e' operands =>
      rw [printAll, List.length_append, List.length_cons, Nat.add_comm _ 1, ← Nat.add_assoc,
        ← Nat.add_assoc] at hts
      obtain ⟨d, htrees, hd⟩ := ih (List.cons_ne_nil e' operands)
        (fun e he => h e (List.mem_cons_of_mem _ he))
        (fun e he => hc e (List.mem_cons_of_mem _ he)) (i + 1) _ hts
      -- The plus sign ends the last identifier of the operand before it.
      have hplus := Tokenized.punctuation (show punctuation? '+' = some .plus from rfl) hd
      obtain ⟨term, rfl, hterm⟩ := hterm pos _ _ (.cons _ (by decide)) hplus
      let plus : Terminal .plus :=
        ⟨⟨.plus, ['+'], pos + (term.tree.print fun place => pick (i :: place)).length⟩, rfl⟩
      refine ⟨Sentence.join ⟨term, []⟩ plus d, ?_, ?_⟩
      · rw [Sentence.trees_join, htrees]
        rfl
      · rw [printAll, Sentence.yield_join]
        simpa [Sentence.yield] using hterm

/-- A normal tree is read from its printed form. -/
theorem parse_print_of_normal (h : Normal e) (pick : List Nat → Quote) :
    Expr.parse (e.print pick) = .ok e := by
  cases hc : e.isConcat with
  | false => exact (spellsTerm_print h hc pick).parse
  | true =>
    cases h with
    | @concat operands hlength hnormal hconcat =>
      have hne : operands ≠ [] := by
        rintro rfl
        cases hlength
      obtain ⟨d, htrees, hd⟩ := exists_sentence_printAll hne hnormal hconcat 0 0 .nil
        (.endAt (printAll pick 0 operands))
      rw [List.append_nil] at hd
      have htree : d.tree = .concat operands := by
        rw [Sentence.tree_eq_concat (by rwa [htrees]), htrees]
      have hparse := parse_of_tokens (tokens_eq_ok_iff.mpr hd)
      rwa [htree] at hparse
    | _ => cases hc

/-! ## What is read is normal -/

theorem isIdent_of_mem_tokens (h : tokens s = .ok ts) {t : Token} (ht : t ∈ ts)
    (hkind : t.kind = .ident) : IsIdent t.value := by
  obtain ⟨before, tail, -, -, hstarts⟩ := (tokens_eq_ok_iff.mp h).exists_split ht
  cases hstarts with
  | finish hfinish =>
    rw [hkind] at hfinish
    cases hfinish
  | lexeme hx _ => exact hx.isIdent hkind

/-- Accesses keep a tree normal, and none of them is a concatenation. -/
theorem normal_accesses {accesses : List Access}
    (h : ∀ t ∈ accesses.flatMap Access.yield, t.kind = .ident → IsIdent t.value) (he : Normal e)
    (hc : e.isConcat = false) :
    Normal (accesses.foldl Access.apply e) ∧ (accesses.foldl Access.apply e).isConcat = false := by
  induction accesses generalizing e with
  | nil => exact ⟨he, hc⟩
  | cons access accesses ih =>
    rw [List.flatMap_cons] at h
    have haccess : Normal (access.apply e) ∧ (access.apply e).isConcat = false := by
      cases access with
      | property dot ident =>
        have hident := h ident.val (by simp [Access.yield]) ident.property
        exact ⟨.attr he hc hident, rfl⟩
      | method dot ident openParen closeParen =>
        have hident := h ident.val (by simp [Access.yield]) ident.property
        exact ⟨.call he hc hident, rfl⟩
    exact ih (fun t ht => h t (List.mem_append_right _ ht)) haccess.1 haccess.2

theorem normal_term {term : Term} (h : ∀ t ∈ term.yield, t.kind = .ident → IsIdent t.value) :
    Normal term.tree ∧ term.tree.isConcat = false := by
  obtain ⟨primary, accesses⟩ := term
  have haccesses : ∀ t ∈ accesses.flatMap Access.yield, t.kind = .ident → IsIdent t.value :=
    fun t ht => h t (List.mem_cons_of_mem _ ht)
  cases primary with
  | name ident =>
    have hident := h ident.val List.mem_cons_self ident.property
    exact normal_accesses haccesses (.name hident) rfl
  | text constant => exact normal_accesses haccesses (.text _) rfl

theorem mem_yield_of_mem_trees {d : Sentence} (he : e ∈ d.trees) :
    ∃ term : Term, term.tree = e ∧ ∀ t ∈ term.yield, t ∈ d.yield := by
  rcases List.mem_cons.mp he with rfl | he
  · exact ⟨d.first, rfl, fun t ht => List.mem_append_left _ ht⟩
  · obtain ⟨operand, hoperand, rfl⟩ := List.mem_map.mp he
    refine ⟨operand.2, rfl, fun t ht => List.mem_append_right _ ?_⟩
    exact List.mem_flatMap.mpr ⟨operand, hoperand, List.mem_cons_of_mem _ ht⟩

theorem normal_sentence {d : Sentence}
    (h : ∀ t ∈ d.yield, t.kind = .ident → IsIdent t.value) : Normal d.tree := by
  have htrees : ∀ e ∈ d.trees, Normal e ∧ e.isConcat = false := by
    intro e he
    obtain ⟨term, rfl, hmem⟩ := mem_yield_of_mem_trees he
    exact normal_term fun t ht => h t (hmem t ht)
  obtain ⟨first, more⟩ := d
  cases more with
  | nil => exact (htrees _ List.mem_cons_self).1
  | cons operand more =>
    exact .concat (by simp [Sentence.trees]) (fun e he => (htrees e he).1)
      fun e he => (htrees e he).2

/-- Only normal trees are read. -/
theorem normal_of_parse (h : Expr.parse s = .ok e) : Normal e := by
  obtain ⟨d, hd, rfl⟩ := exists_sentence_of_parse h
  exact normal_sentence fun t ht => isIdent_of_mem_tokens hd (List.mem_append_left _ ht)

/-- A normal tree is read from each of its printed forms, and every tree that is read is normal, so
that it is read again from what it is printed as. -/
theorem parse_print :
    (∀ e, Normal e → ∀ pick, Expr.parse (e.print pick) = .ok e) ∧
    ∀ s e, Expr.parse s = .ok e → Normal e ∧ ∀ pick, Expr.parse (e.print pick) = .ok e := by
  refine ⟨fun e he => parse_print_of_normal he, fun s e h => ?_⟩
  have hnormal := normal_of_parse h
  exact ⟨hnormal, parse_print_of_normal hnormal⟩

end TripleQuote
