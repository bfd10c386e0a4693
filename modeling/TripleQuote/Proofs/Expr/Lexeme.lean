import TripleQuote.Expr.Token
import TripleQuote.Proofs.Template.Quotes

/-! # Lexemes of expressions

`Lexeme` says which texts spell a token, `Tokenized` how a source is made of lexemes with white
space between them, and `BreaksOff` how a source goes on where it is not. The reader finds the
tokens of a source exactly if the source is made of them (`tokens_eq_ok_iff`), and fails at the
place where it breaks off otherwise (`Reader.readsTo_run`). -/

namespace TripleQuote

/-- A text that starts with one class of characters and goes on with another. -/
def Matches (start more : Char → Bool) (t : Text) : Prop :=
  ∃ c rest, t = c :: rest ∧ start c = true ∧ ∀ d ∈ rest, more d = true

/-- The identifiers. -/
abbrev IsIdent (t : Text) : Prop := Matches startsIdent isIdentChar t

/-- A text that cannot continue an identifier. -/
def EndsIdent (s : Text) : Prop := ∀ c, s.head? = some c → isIdentChar c = false

/-- What stands between the quotes of a constant, and the text that it means. -/
inductive ConstantBody (q : Quote) : Text → Text → Prop where
  | nil : ConstantBody q [] []
  | escape (c : Char) (h : ConstantBody q body value) :
      ConstantBody q ('\\' :: c :: body) (unescape c ++ value)
  | plain (hquote : c ≠ q.char) (hback : c ≠ '\\') (h : ConstantBody q body value) :
      ConstantBody q (c :: body) (c :: value)

/-- Whether a constant whose quote has been read ends. -/
def Closes (q : Quote) (s : Text) : Prop :=
  ∃ body value rest, ConstantBody q body value ∧ s = body ++ q.char :: rest

/-- What follows a body that is as long as possible. -/
inductive ConstantBody.Ends (q : Quote) : Text → Prop where
  | nil : Ends q []
  /-- A backslash that escapes nothing. -/
  | backslash : Ends q ['\\']
  | quote (rest : Text) : Ends q (q.char :: rest)

/-- The texts that spell a token of a kind and a value. -/
inductive Lexeme : Token.Kind → Text → Text → Prop where
  | punctuation (h : punctuation? c = some kind) : Lexeme kind [c] [c]
  | ident (h : IsIdent t) : Lexeme .ident t t
  | constant (q : Quote) (h : ConstantBody q body value) :
      Lexeme .string value (q.char :: (body ++ [q.char]))

/-- A source from `pos` on is made of the lexemes of the tokens, with white space between them. No
identifier can be continued. -/
inductive Tokenized : Nat → Text → List Token → Prop where
  | finish : Tokenized pos [] [⟨.finish, [], pos⟩]
  | blank (hc : isBlank c = true) (h : Tokenized (pos + 1) s ts) : Tokenized pos (c :: s) ts
  | token (hx : Lexeme kind value x) (hend : kind = .ident → EndsIdent s)
      (h : Tokenized (pos + x.length) s ts) : Tokenized pos (x ++ s) (⟨kind, value, pos⟩ :: ts)

/-- A character that neither is white space nor starts a token. -/
def StartsNothing (c : Char) : Prop :=
  isBlank c = false ∧ ∀ kind value x, ¬ Lexeme kind value (c :: x)

/-- What a source goes on with where its tokens go wrong. -/
inductive BreaksOff : TokenFault → Text → Prop where
  | unexpected (h : StartsNothing c) : BreaksOff (.unexpected c) (c :: s)
  | unterminated (q : Quote) (h : ¬ Closes q s) : BreaksOff .unterminated (q.char :: s)

/-- How a source from `pos` on is read: it is made of tokens up to its end, or up to the place where
it goes wrong. -/
inductive ReadsTo (pos : Nat) : Text → Except (TokenFault × Nat) (List Token) → Prop where
  | ok (h : Tokenized pos s ts) : ReadsTo pos s (.ok ts)
  | error (h : Tokenized pos before ts) (hbreak : BreaksOff fault tail) :
      ReadsTo pos (before ++ tail) (.error (fault, pos + before.length))

/-- How a source goes on where a token starts. -/
inductive Token.Starts (t : Token) : Text → Prop where
  | finish (h : t.kind = .finish) : Starts t []
  | lexeme (hx : Lexeme t.kind t.value x) (hend : t.kind = .ident → EndsIdent s) :
      Starts t (x ++ s)

/-! ## Classes of characters -/

theorem Ranges.exists_mem_of_contains {ranges : Ranges} {n : Nat} (h : ranges.contains n = true) :
    ∃ range ∈ ranges, range.1 ≤ n ∧ n ≤ range.2 := by
  induction ranges with
  | nil => cases h
  | cons range ranges ih =>
    obtain ⟨first, last⟩ := range
    simp only [Ranges.contains_cons, Bool.and_eq_true, Bool.or_eq_true, decide_eq_true_eq] at h
    obtain ⟨hfirst, hlast | hmore⟩ := h
    · exact ⟨(first, last), List.mem_cons_self, hfirst, hlast⟩
    · obtain ⟨range, hmem, hn⟩ := ih hmore
      exact ⟨range, List.mem_cons_of_mem _ hmem, hn⟩

/-- No letter and no number is white space. -/
theorem contains_blankRanges :
    ∀ range ∈ blankRanges, ∀ k ≤ range.2 - range.1,
      letterRanges.contains (range.1 + k) = false ∧
        numberRanges.contains (range.1 + k) = false := by
  decide +kernel

theorem isBlank_eq_false_of_isIdentChar {c : Char} (h : isIdentChar c = true) :
    isBlank c = false := by
  rw [Bool.eq_false_iff]
  intro hblank
  simp only [isIdentChar, isAlphanumeric, Bool.or_eq_true, beq_iff_eq] at h
  rcases h with (h | rfl) | rfl
  · obtain ⟨range, hmem, hfirst, hlast⟩ := Ranges.exists_mem_of_contains hblank
    obtain ⟨hletter, hnumber⟩ := contains_blankRanges range hmem (c.toNat - range.1) (by omega)
    rw [Nat.add_sub_cancel' hfirst] at hletter hnumber
    rcases h with h | h
    · exact Bool.false_ne_true (hletter.symm.trans h)
    · exact Bool.false_ne_true (hnumber.symm.trans h)
  · exact absurd hblank (by decide)
  · exact absurd hblank (by decide)

theorem isIdentChar_of_startsIdent {c : Char} (h : startsIdent c = true) :
    isIdentChar c = true := by
  simp only [startsIdent, Bool.or_eq_true] at h
  simp only [isIdentChar, isAlphanumeric, Bool.or_eq_true]
  rcases h with (h | h) | h
  · exact .inl (.inl (.inl h))
  · exact .inl (.inr h)
  · exact .inr h

/-- All characters of an identifier can stand in one. -/
theorem isIdentChar_of_mem {t : Text} (h : IsIdent t) : ∀ c ∈ t, isIdentChar c = true := by
  obtain ⟨c, rest, rfl, hc, hrest⟩ := h
  exact List.forall_mem_cons.mpr ⟨isIdentChar_of_startsIdent hc, hrest⟩

theorem isBlank_eq_false_of_startsIdent {c : Char} (h : startsIdent c = true) :
    isBlank c = false :=
  isBlank_eq_false_of_isIdentChar (isIdentChar_of_startsIdent h)

theorem punctuation?_eq_some {c : Char} {kind : Token.Kind} (h : punctuation? c = some kind) :
    (c, kind) ∈ [('.', Token.Kind.dot), ('+', .plus), ('(', .openParen), (')', .closeParen)] := by
  unfold punctuation? at h
  split at h
  · next hc => cases h; simp [hc]
  · split at h
    · next hc => cases h; simp [hc]
    · split at h
      · next hc => cases h; simp [hc]
      · split at h
        · next hc => cases h; simp [hc]
        · cases h

theorem punctuation?_ne_ident (c : Char) : punctuation? c ≠ some .ident := by
  intro h
  simpa using punctuation?_eq_some h

theorem punctuation?_ne_finish (c : Char) : punctuation? c ≠ some .finish := by
  intro h
  simpa using punctuation?_eq_some h

theorem isBlank_eq_false_of_punctuation {c : Char} {kind : Token.Kind}
    (h : punctuation? c = some kind) : isBlank c = false := by
  have hmem := punctuation?_eq_some h
  simp only [List.mem_cons, Prod.mk.injEq, List.not_mem_nil, or_false] at hmem
  rcases hmem with ⟨rfl, _⟩ | ⟨rfl, _⟩ | ⟨rfl, _⟩ | ⟨rfl, _⟩ <;> decide

theorem isIdentChar_eq_false_of_punctuation {c : Char} {kind : Token.Kind}
    (h : punctuation? c = some kind) : isIdentChar c = false := by
  have hmem := punctuation?_eq_some h
  simp only [List.mem_cons, Prod.mk.injEq, List.not_mem_nil, or_false] at hmem
  rcases hmem with ⟨rfl, _⟩ | ⟨rfl, _⟩ | ⟨rfl, _⟩ | ⟨rfl, _⟩ <;> decide

theorem isIdentChar_quote (q : Quote) : isIdentChar q.char = false := by
  cases q <;> decide

/-! ## Lexemes in front of a source -/

variable {pos : Nat} {s : Text} {ts : List Token}

theorem length_constant (q : Quote) (body : Text) :
    (q.char :: (body ++ [q.char])).length = 1 + (body.length + 1) := by
  rw [List.length_cons, List.length_append, List.length_singleton, Nat.add_comm]

namespace EndsIdent

theorem nil : EndsIdent [] := by
  intro c hc
  cases hc

theorem cons {c : Char} (s : Text) (h : isIdentChar c = false) : EndsIdent (c :: s) := by
  intro d hd
  cases hd
  exact h

theorem takeWhile (h : EndsIdent s) : s.takeWhile isIdentChar = [] := by
  cases s with
  | nil => rfl
  | cons c s => exact List.takeWhile_cons_of_neg (by simpa using h c rfl)

theorem of_dropWhile (s : Text) : EndsIdent (s.dropWhile isIdentChar) := by
  intro c hc
  have hhead := List.head?_dropWhile_not isIdentChar s
  rwa [hc] at hhead

theorem append {u v : Text} (hu : EndsIdent u) (hv : EndsIdent v) : EndsIdent (u ++ v) := by
  cases u with
  | nil => exact hv
  | cons c u => exact hu

theorem of_append {u v : Text} (h : EndsIdent (u ++ v)) : EndsIdent u := by
  cases u with
  | nil => exact .nil
  | cons c u => exact h

theorem dropWhile (h : EndsIdent s) : s.dropWhile isIdentChar = s := by
  cases s with
  | nil => rfl
  | cons c s => exact List.dropWhile_cons_of_neg (by simpa using h c rfl)

end EndsIdent

namespace Tokenized

theorem punctuation {c : Char} {kind : Token.Kind} (hc : punctuation? c = some kind)
    (h : Tokenized (pos + 1) s ts) : Tokenized pos (c :: s) (⟨kind, [c], pos⟩ :: ts) := by
  refine .token (.punctuation hc) (fun hkind => ?_) h
  subst hkind
  exact absurd hc (punctuation?_ne_ident c)

end Tokenized

namespace ReadsTo

variable {result : Except (TokenFault × Nat) (List Token)}

theorem blank {c : Char} (hc : isBlank c = true) (h : ReadsTo (pos + 1) s result) :
    ReadsTo pos (c :: s) result := by
  cases h with
  | ok h => exact .ok (.blank hc h)
  | @error before _ _ _ h hbreak =>
    have hread := error (.blank hc h) hbreak
    rwa [List.length_cons, Nat.add_comm _ 1, ← Nat.add_assoc] at hread

theorem token {kind : Token.Kind} {value x : Text} (hx : Lexeme kind value x)
    (hend : kind = .ident → EndsIdent s) (h : ReadsTo (pos + x.length) s result) :
    ReadsTo pos (x ++ s) (result.map (⟨kind, value, pos⟩ :: ·)) := by
  cases h with
  | ok h => exact .ok (.token hx hend h)
  | @error before _ _ _ h hbreak =>
    -- What ends an identifier before the break ends it also without what comes behind the break.
    have hread := error (.token hx (fun hkind => (hend hkind).of_append) h) hbreak
    rwa [List.append_assoc, List.length_append, ← Nat.add_assoc] at hread

/-- An identifier goes as far as its characters do. -/
theorem ident {c : Char} (hc : startsIdent c = true)
    (h : ReadsTo (pos + 1 + (s.takeWhile isIdentChar).length) (s.dropWhile isIdentChar) result) :
    ReadsTo pos (c :: s) (result.map (⟨.ident, c :: s.takeWhile isIdentChar, pos⟩ :: ·)) := by
  have hident : IsIdent (c :: s.takeWhile isIdentChar) :=
    ⟨c, _, rfl, hc, List.all_eq_true.mp List.all_takeWhile⟩
  rw [Nat.add_assoc, Nat.add_comm 1, ← List.length_cons] at h
  have hread := token (.ident hident) (fun _ => .of_dropWhile s) h
  rwa [List.cons_append, List.takeWhile_append_dropWhile] at hread

theorem constant {q : Quote} {body value : Text} (hbody : ConstantBody q body value)
    (h : ReadsTo (pos + 1 + (body.length + 1)) s result) :
    ReadsTo pos (q.char :: (body ++ q.char :: s)) (result.map (⟨.string, value, pos⟩ :: ·)) := by
  rw [Nat.add_assoc, ← length_constant q body] at h
  have hread := token (.constant q hbody) (fun hkind => by cases hkind) h
  rwa [List.cons_append, List.append_assoc, List.singleton_append] at hread

end ReadsTo

namespace ConstantBody

variable {q : Quote}

theorem append {body value more moreValue : Text} (h : ConstantBody q body value)
    (hmore : ConstantBody q more moreValue) :
    ConstantBody q (body ++ more) (value ++ moreValue) := by
  induction h with
  | nil => exact hmore
  | escape c _ ih =>
    rw [List.append_assoc]
    exact .escape c ih
  | plain hquote hback _ ih => exact .plain hquote hback ih

/-- A text starts with a body that is as long as possible. -/
theorem exists_longest (q : Quote) (s : Text) :
    ∃ body value tail, ConstantBody q body value ∧ s = body ++ tail ∧ Ends q tail := by
  induction hs : s.length using Nat.strongRecOn generalizing s with
  | _ n ih =>
    subst hs
    cases s with
    | nil => exact ⟨[], [], [], .nil, rfl, .nil⟩
    | cons c s =>
      by_cases hquote : c = q.char
      · subst hquote
        exact ⟨[], [], _, .nil, rfl, .quote s⟩
      · by_cases hback : c = '\\'
        · subst hback
          cases s with
          | nil => exact ⟨[], [], _, .nil, rfl, .backslash⟩
          | cons d s =>
            obtain ⟨body, value, tail, hbody, rfl, hend⟩ :=
              ih s.length (by simp only [List.length_cons]; omega) s rfl
            exact ⟨_, _, tail, .escape d hbody, rfl, hend⟩
        · obtain ⟨body, value, tail, hbody, rfl, hend⟩ := ih s.length (by simp) s rfl
          exact ⟨_, _, tail, .plain hquote hback hbody, rfl, hend⟩

end ConstantBody

/-! ## The reader -/

namespace Reader

variable {start : Nat} {read : Text}

theorem run_of_step {state next : State} {c : Char} {tokens : List Token}
    (h : step state pos c = .ok (tokens, next)) (s : Text) :
    run state pos (c :: s) = (run next (pos + 1) s).map (tokens ++ ·) := by
  rw [run, h]
  rfl

theorem run_of_silent_step {state next : State} {c : Char} (h : step state pos c = .ok ([], next))
    (s : Text) : run state pos (c :: s) = run next (pos + 1) s := by
  rw [run_of_step h]
  cases run next (pos + 1) s with
  | error e => rfl
  | ok ts => rfl

theorem begin_blank {c : Char} (h : isBlank c = true) : begin pos c = .ok ([], .between) :=
  if_pos h

theorem begin_punctuation {c : Char} {kind : Token.Kind} (h : punctuation? c = some kind) :
    begin pos c = .ok ([⟨kind, [c], pos⟩], .between) := by
  simp only [begin, isBlank_eq_false_of_punctuation h, h, Bool.false_eq_true, if_false]

theorem begin_ident {c : Char} (h : startsIdent c = true) :
    begin pos c = .ok ([], .ident pos [c]) := by
  have hpunctuation : punctuation? c = none := by
    cases hc : punctuation? c with
    | none => rfl
    | some kind =>
      have := isIdentChar_eq_false_of_punctuation hc
      rw [isIdentChar_of_startsIdent h] at this
      cases this
  simp only [begin, isBlank_eq_false_of_startsIdent h, hpunctuation, h, Bool.false_eq_true,
    if_false, if_true]

theorem of_begin_ok {c : Char} {tokens : List Token} {next : State}
    (h : begin pos c = .ok (tokens, next)) :
    (isBlank c = true ∧ tokens = [] ∧ next = .between) ∨
      (∃ kind, punctuation? c = some kind ∧ tokens = [⟨kind, [c], pos⟩] ∧ next = .between) ∨
      (startsIdent c = true ∧ tokens = [] ∧ next = .ident pos [c]) ∨
      ∃ q : Quote, q.char = c ∧ tokens = [] ∧ next = .constant q.char pos [] := by
  unfold begin at h
  split at h
  · next hc =>
    cases h
    exact .inl ⟨hc, rfl, rfl⟩
  · split at h
    · next kind hc =>
      cases h
      exact .inr (.inl ⟨kind, hc, rfl, rfl⟩)
    · split at h
      · next hc =>
        cases h
        exact .inr (.inr (.inl ⟨hc, rfl, rfl⟩))
      · split at h
        · next hc =>
          cases h
          simp only [Bool.or_eq_true, decide_eq_true_eq] at hc
          rcases hc with rfl | rfl
          · exact .inr (.inr (.inr ⟨.single, rfl, rfl, rfl⟩))
          · exact .inr (.inr (.inr ⟨.double, rfl, rfl, rfl⟩))
        · cases h

theorem of_begin_error {e : TokenFault × Nat} (h : begin pos c = .error e) :
    e = (.unexpected c, pos) ∧ StartsNothing c := by
  unfold begin at h
  split at h
  · cases h
  · next hblank =>
    split at h
    · cases h
    · next hpunctuation =>
      split at h
      · cases h
      · next hident =>
        split at h
        · cases h
        · next hquote =>
          cases h
          refine ⟨rfl, by simpa using hblank, fun kind value x hx => ?_⟩
          cases hx with
          | punctuation hc => rw [hc] at hpunctuation; cases hpunctuation
          | ident hx =>
            obtain ⟨_, _, heq, hc, _⟩ := hx
            cases heq
            exact hident hc
          | constant q _ => cases q <;> simp [Quote.char] at hquote

theorem begin_quote (q : Quote) : begin pos q.char = .ok ([], .constant q.char pos []) := by
  cases q <;> rfl

theorem step_between (pos : Nat) (c : Char) : step .between pos c = begin pos c := rfl

theorem step_ident {c : Char} (h : isIdentChar c = true) :
    step (.ident start read) pos c = .ok ([], .ident start (c :: read)) := if_pos h

theorem step_quote (q : Quote) : step (.constant q.char start read) pos q.char =
    .ok ([⟨.string, read.reverse, start⟩], .between) := if_pos rfl

theorem step_backslash (q : Quote) : step (.constant q.char start read) pos '\\' =
    .ok ([], .escape q.char start read) := (if_neg q.char_ne_backslash.symm).trans (if_pos rfl)

theorem step_plain {q : Quote} {c : Char} (hquote : c ≠ q.char) (hback : c ≠ '\\') :
    step (.constant q.char start read) pos c = .ok ([], .constant q.char start (c :: read)) :=
  (if_neg hquote).trans (if_neg hback)

theorem step_escape (q : Quote) (c : Char) : step (.escape q.char start read) pos c =
    .ok ([], .constant q.char start ((unescape c).reverse ++ read)) := rfl

/-- An identifier is read as far as its characters go. -/
theorem run_ident (start pos : Nat) (read s : Text) :
    run (.ident start read) pos s =
      (run .between (pos + (s.takeWhile isIdentChar).length) (s.dropWhile isIdentChar)).map
        (⟨.ident, read.reverse ++ s.takeWhile isIdentChar, start⟩ :: ·) := by
  induction s generalizing pos read with
  | nil => simp [run, finish, Except.map]
  | cons c s ih =>
    by_cases hc : isIdentChar c = true
    · rw [run_of_silent_step (step_ident hc), ih, List.takeWhile_cons_of_pos hc,
        List.dropWhile_cons_of_pos hc]
      simp only [List.reverse_cons, List.append_assoc, List.singleton_append, List.length_cons,
        Nat.add_assoc, Nat.add_comm 1]
    · rw [List.takeWhile_cons_of_neg hc, List.dropWhile_cons_of_neg hc]
      simp only [run, step, if_neg hc, List.length_nil, Nat.add_zero, List.append_nil]
      cases begin pos c with
      | error e => rfl
      | ok found =>
        obtain ⟨tokens, next⟩ := found
        simp only [Except.map, bind, Except.bind]
        cases run next (pos + 1) s with
        | error e => rfl
        | ok ts => rfl

/-- The characters of a body go into the constant. -/
theorem run_body {q : Quote} {body value : Text} (h : ConstantBody q body value)
    (start pos : Nat) (read s : Text) :
    run (.constant q.char start read) pos (body ++ s) =
      run (.constant q.char start (value.reverse ++ read)) (pos + body.length) s := by
  induction h generalizing pos read with
  | nil => rfl
  | @escape body value c h ih =>
    rw [List.cons_append, List.cons_append, run_of_silent_step (step_backslash q),
      run_of_silent_step (step_escape q c), ih]
    simp only [List.reverse_append, List.append_assoc, List.length_cons, Nat.add_assoc,
      Nat.add_comm body.length]
  | @plain c body value hquote hback h ih =>
    rw [List.cons_append, run_of_silent_step (step_plain hquote hback), ih]
    simp only [List.reverse_cons, List.append_assoc, List.singleton_append, List.length_cons,
      Nat.add_assoc, Nat.add_comm body.length]

/-- A constant is read up to its quote. -/
theorem run_constant {q : Quote} {body value : Text} (h : ConstantBody q body value)
    (start pos : Nat) (read s : Text) :
    run (.constant q.char start read) pos (body ++ q.char :: s) =
      (run .between (pos + (body.length + 1)) s).map
        (⟨.string, read.reverse ++ value, start⟩ :: ·) := by
  rw [run_body h, run_of_step (step_quote q), List.reverse_append, List.reverse_reverse,
    Nat.add_assoc]
  rfl

/-- A constant that does not end is read up to the end of the source. -/
theorem run_constant_of_not_closes {q : Quote} {s : Text} {start : Nat} {read : Text}
    (h : ¬ Closes q s) :
    run (.constant q.char start read) pos s = .error (.unterminated, start) := by
  obtain ⟨body, value, tail, hbody, rfl, hend⟩ := ConstantBody.exists_longest q s
  rw [run_body hbody]
  cases hend with
  | nil => rfl
  | backslash =>
    rw [run_of_silent_step (step_backslash q)]
    rfl
  | quote rest => exact absurd ⟨body, value, rest, hbody, rfl⟩ h

/-- The tokens of which a source is made are read. -/
theorem run_of_tokenized (h : Tokenized pos s ts) : run .between pos s = .ok ts := by
  induction h with
  | finish => rfl
  | blank hc _ ih => rw [run_of_silent_step (by rw [step_between, begin_blank hc]), ih]
  | @token kind value x s pos ts hx hend _ ih =>
    cases hx with
    | punctuation hc =>
      rw [List.singleton_append, run_of_step (by rw [step_between, begin_punctuation hc])]
      rw [List.length_singleton] at ih
      rw [ih]
      rfl
    | ident hx =>
      obtain ⟨c, rest, rfl, hc, hrest⟩ := hx
      rw [List.cons_append, run_of_silent_step (by rw [step_between, begin_ident hc]), run_ident,
        List.takeWhile_append_of_pos hrest, List.dropWhile_append_of_pos hrest,
        (hend rfl).takeWhile, (hend rfl).dropWhile, List.append_nil]
      rw [List.length_cons, Nat.add_comm _ 1, ← Nat.add_assoc] at ih
      rw [ih]
      rfl
    | @constant body value q hbody =>
      rw [length_constant, ← Nat.add_assoc] at ih
      rw [List.cons_append, run_of_silent_step (by rw [step_between, begin_quote]), List.append_assoc,
        List.singleton_append, run_constant hbody, ih]
      rfl

/-- A source is read as its lexemes say, whether it can be read to its end or not. -/
theorem readsTo_run (pos : Nat) (s : Text) : ReadsTo pos s (run .between pos s) := by
  induction hs : s.length using Nat.strongRecOn generalizing pos s with
  | _ n ih =>
    subst hs
    cases s with
    | nil => exact .ok .finish
    | cons c s =>
      cases hc : begin pos c with
      | error e =>
        obtain ⟨rfl, hnothing⟩ := of_begin_error hc
        rw [run, step_between, hc]
        exact .error .finish (.unexpected hnothing)
      | ok found =>
        obtain ⟨tokens, next⟩ := found
        have hstep : step .between pos c = .ok (tokens, next) := hc
        rcases of_begin_ok hc with ⟨hblank, rfl, rfl⟩ | ⟨kind, hkind, rfl, rfl⟩ |
          ⟨hident, rfl, rfl⟩ | ⟨q, rfl, rfl, rfl⟩
        · rw [run_of_silent_step hstep]
          exact .blank hblank (ih s.length (by simp) _ s rfl)
        · rw [run_of_step hstep]
          refine .token (.punctuation hkind) (fun hident => ?_) (ih s.length (by simp) _ s rfl)
          exact absurd (hident ▸ hkind) (punctuation?_ne_ident c)
        · rw [run_of_silent_step hstep, run_ident]
          have hlength := (List.dropWhile_sublist (l := s) isIdentChar).length_le
          exact .ident hident (ih _ (by simp only [List.length_cons]; omega) _ _ rfl)
        · rw [run_of_silent_step hstep]
          by_cases hclose : Closes q s
          · obtain ⟨body, value, rest, hbody, rfl⟩ := hclose
            rw [run_constant hbody]
            have hlength : rest.length < (q.char :: (body ++ q.char :: rest)).length := by
              simp only [List.length_cons, List.length_append]
              omega
            exact .constant hbody (ih rest.length hlength _ rest rfl)
          · rw [run_constant_of_not_closes hclose]
            exact .error .finish (.unterminated q hclose)

/-- A source whose tokens are read is made of them. -/
theorem tokenized_of_run (h : run .between pos s = .ok ts) : Tokenized pos s ts := by
  have hread := readsTo_run pos s
  rw [h] at hread
  cases hread with
  | ok h => exact h

/-- A source whose tokens cannot be read is made of tokens up to the place where it goes wrong. -/
theorem exists_breaksOff_of_run {fault : TokenFault} {p : Nat}
    (h : run .between pos s = .error (fault, p)) :
    ∃ before tail ts, s = before ++ tail ∧ p = pos + before.length ∧
      Tokenized pos before ts ∧ BreaksOff fault tail := by
  have hread := readsTo_run pos s
  rw [h] at hread
  cases hread with
  | error hbefore hbreak => exact ⟨_, _, _, rfl, rfl, hbefore, hbreak⟩

end Reader

/-- The tokens of a source are read exactly if it is made of them. -/
theorem tokens_eq_ok_iff : tokens s = .ok ts ↔ Tokenized 0 s ts :=
  ⟨Reader.tokenized_of_run, Reader.run_of_tokenized⟩

/-! ## Places of tokens -/

theorem Lexeme.kind_ne_finish {kind : Token.Kind} {value x : Text} (h : Lexeme kind value x) :
    kind ≠ .finish := by
  rintro rfl
  cases h with
  | punctuation h => exact punctuation?_ne_finish _ h

namespace Tokenized

variable {t : Token}

theorem exists_split (h : Tokenized pos s ts) (ht : t ∈ ts) :
    ∃ before tail, s = before ++ tail ∧ t.position = pos + before.length ∧ t.Starts tail := by
  induction h with
  | finish =>
    rw [List.mem_singleton] at ht
    subst ht
    exact ⟨[], [], rfl, rfl, .finish rfl⟩
  | @blank c pos s ts hc h ih =>
    obtain ⟨before, tail, rfl, hpos, hstarts⟩ := ih ht
    exact ⟨c :: before, tail, rfl, by rw [hpos, List.length_cons]; omega, hstarts⟩
  | @token kind value x s pos ts hx hend h ih =>
    rcases List.mem_cons.mp ht with rfl | ht
    · exact ⟨[], x ++ s, rfl, rfl, .lexeme hx hend⟩
    · obtain ⟨before, tail, rfl, hpos, hstarts⟩ := ih ht
      refine ⟨x ++ before, tail, (List.append_assoc ..).symm, ?_, hstarts⟩
      rw [hpos, List.length_append, Nat.add_assoc]

/-- The end is the last token, and no other token is an end. -/
theorem exists_init (h : Tokenized pos s ts) :
    ∃ init, ts = init ++ [⟨.finish, [], pos + s.length⟩] ∧ ∀ t ∈ init, t.kind ≠ .finish := by
  induction h with
  | finish => exact ⟨[], rfl, by simp⟩
  | @blank c pos s ts hc h ih =>
    obtain ⟨init, rfl, hinit⟩ := ih
    rw [List.length_cons, Nat.add_comm s.length 1, ← Nat.add_assoc]
    exact ⟨init, rfl, hinit⟩
  | @token kind value x s pos ts hx hend h ih =>
    obtain ⟨init, rfl, hinit⟩ := ih
    rw [List.length_append, ← Nat.add_assoc]
    refine ⟨⟨kind, value, pos⟩ :: init, rfl, fun t ht => ?_⟩
    rcases List.mem_cons.mp ht with rfl | ht
    · exact hx.kind_ne_finish
    · exact hinit t ht

end Tokenized

end TripleQuote
