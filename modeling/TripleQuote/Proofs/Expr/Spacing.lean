import TripleQuote.Expr.Eval
import TripleQuote.Proofs.Expr.Splicing

/-! # White space between tokens

White space can be put into a source at every place that is not inside a lexeme: the source keeps
its tokens, and those behind the place move (`Tokenized.insert`). So it spells the same expression,
or has the same syntax error at the place that has moved along. White space around a source does not
matter at all (`blanks_between_tokens`). -/

namespace TripleQuote

/-- Where place `p` of a text is when `k` characters have been put in at place `n`. -/
def Text.pushed (n k p : Nat) : Nat := if p < n then p else p + k

/-- A token of a source into which `k` characters have been put at place `n`. -/
def Token.pushed (n k : Nat) (t : Token) : Token := ⟨t.kind, t.value, Text.pushed n k t.position⟩

/-- Whether place `n` is strictly inside the lexeme of a token of the source `s`, which starts at
`pos`. -/
def Token.CutAt (t : Token) (pos : Nat) (s : Text) (n : Nat) : Prop :=
  ∃ before x after, s = before ++ (x ++ after) ∧ t.position = pos + before.length ∧
    Lexeme t.kind t.value x ∧ t.position < n ∧ n < t.position + x.length

variable {pos n k : Nat} {s u v w w' x : Text} {t : Token} {ts : List Token}

/-! ## Places -/

theorem Text.pushed_of_lt {p : Nat} (h : p < n) : pushed n k p = p := if_pos h

theorem Text.pushed_of_le {p : Nat} (h : n ≤ p) : pushed n k p = p + k := if_neg (Nat.not_lt.mpr h)

theorem Token.CutAt.append_left (h : t.CutAt (pos + x.length) s n) : t.CutAt pos (x ++ s) n := by
  obtain ⟨before, y, after, rfl, hposition, hy, hcut⟩ := h
  refine ⟨x ++ before, y, after, (List.append_assoc ..).symm, ?_, hy, hcut⟩
  rw [hposition, List.length_append, Nat.add_assoc]

theorem EndsIdent.insert (h : EndsIdent (u ++ v)) (hw : Text.blank w = true) :
    EndsIdent (u ++ (w ++ v)) := by
  cases u with
  | cons c u => exact h
  | nil =>
    cases w with
    | nil => exact h
    | cons c w =>
      apply EndsIdent.cons
      rw [Bool.eq_false_iff]
      intro hc
      simp [Text.blank, isBlank_eq_false_of_isIdentChar hc] at hw

/-! ## Tokens -/

namespace Tokenized

theorem blank_append (hw : Text.blank w = true) (h : Tokenized (pos + w.length) s ts) :
    Tokenized pos (w ++ s) ts := by
  induction w generalizing pos with
  | nil => exact h
  | cons c w ih =>
    simp only [Text.blank, List.all_cons, Bool.and_eq_true] at hw
    rw [List.length_cons, Nat.add_comm w.length 1, ← Nat.add_assoc] at h
    exact .blank hw.1 (ih hw.2 h)

/-- A source that starts later has its tokens later. -/
theorem pushed (h : Tokenized pos s ts) (hn : n ≤ pos) :
    Tokenized (pos + k) s (ts.map (Token.pushed n k)) := by
  induction h with
  | @finish pos =>
    have hfinish : Token.pushed n k ⟨.finish, [], pos⟩ = ⟨.finish, [], pos + k⟩ := by
      rw [Token.pushed, Text.pushed_of_le hn]
    rw [List.map_singleton, hfinish]
    exact .finish
  | @blank c pos s ts hc h ih =>
    apply Tokenized.blank hc
    rw [Nat.add_right_comm]
    exact ih (Nat.le_succ_of_le hn)
  | @token kind value x s pos ts hx hend h ih =>
    have htoken : Token.pushed n k ⟨kind, value, pos⟩ = ⟨kind, value, pos + k⟩ := by
      rw [Token.pushed, Text.pushed_of_le hn]
    rw [List.map_cons, htoken]
    apply Tokenized.token hx hend
    rw [Nat.add_right_comm]
    exact ih (Nat.le_trans hn (Nat.le_add_right ..))

theorem insert_start (h : Tokenized pos s ts) (hw : Text.blank w = true) :
    Tokenized pos (w ++ s) (ts.map (Token.pushed pos w.length)) :=
  blank_append hw (h.pushed (Nat.le_refl pos))

/-- White space between two tokens moves the tokens behind it. -/
theorem insert (h : Tokenized pos s ts) (hs : s = u ++ v) (hw : Text.blank w = true)
    (hcut : ∀ t ∈ ts, ¬ t.CutAt pos s (pos + u.length)) :
    Tokenized pos (u ++ (w ++ v)) (ts.map (Token.pushed (pos + u.length) w.length)) := by
  induction h generalizing u with
  | finish =>
    obtain ⟨rfl, rfl⟩ := List.append_eq_nil_iff.mp hs.symm
    exact insert_start .finish hw
  | @blank c pos s ts hc h ih =>
    rcases u with _ | ⟨d, u⟩
    · subst hs
      exact insert_start (.blank hc h) hw
    · obtain ⟨rfl, rfl⟩ := List.cons.inj hs
      have hplace : pos + (c :: u).length = pos + 1 + u.length := by
        rw [List.length_cons]
        omega
      rw [hplace] at hcut ⊢
      exact .blank hc (ih rfl fun t ht hinside => hcut t ht (hinside.append_left (x := [c])))
  | @token kind value x s pos ts hx hend h ih =>
    rcases u with _ | ⟨d, u⟩
    · subst hs
      exact insert_start (.token hx hend h) hw
    · have hpos : pos < pos + (d :: u).length := by
        rw [List.length_cons]
        omega
      generalize d :: u = front at *
      obtain ⟨hfirst, hmore⟩ := List.forall_mem_cons.mp hcut
      -- The place is behind the lexeme, since it is not inside it.
      have hlength : x.length ≤ front.length := by
        by_contra hlt
        apply hfirst
        exact ⟨[], x, s, rfl, rfl, hx, hpos, by simpa using hlt⟩
      obtain ⟨u, rfl⟩ : x <+: front :=
        List.prefix_of_prefix_length_le (List.prefix_append x s) ⟨v, hs.symm⟩ hlength
      rw [List.append_assoc] at hs
      obtain rfl := List.append_cancel_left hs
      rw [List.length_append, ← Nat.add_assoc] at hmore hpos ⊢
      have hread := ih rfl fun t ht hinside => hmore t ht hinside.append_left
      rw [List.map_cons, Token.pushed, Text.pushed_of_lt hpos, List.append_assoc]
      exact .token hx (fun hkind => (hend hkind).insert hw) hread

end Tokenized

/-! ## Trees -/

/-- The parser stops at the same token, wherever that is. -/
theorem Parser.run_pushed {state : State} (hlast : ∃ t ∈ ts, t.kind = .finish) :
    run state (ts.map (Token.pushed n k)) =
      (run state ts).mapError fun error => (error.1, Text.pushed n k error.2) := by
  induction ts generalizing state with
  | nil =>
    obtain ⟨t, ht, _⟩ := hlast
    cases ht
  | cons t ts ih =>
    have halike : (t.pushed n k).Alike t := ⟨rfl, rfl⟩
    rw [List.map_cons, run_cons, run_cons, halike.step]
    cases hstep : step state t with
    | error cause => rfl
    | ok next =>
      cases next with
      | inr e => rfl
      | inl next =>
        obtain ⟨last, hmem, hkind⟩ := hlast
        rcases List.mem_cons.mp hmem with rfl | hmem
        · exact absurd hkind (Grammar.kind_ne_finish_of_step hstep)
        · exact ih ⟨last, hmem, hkind⟩

/-- White space between tokens moves the place of a syntax error along with its token. -/
theorem parse_insert (h : tokens (u ++ v) = .ok ts)
    (hinsert : tokens (u ++ (w ++ v)) = .ok (ts.map (Token.pushed u.length w.length))) :
    Expr.parse (u ++ (w ++ v)) = (Expr.parse (u ++ v)).mapError fun error =>
      ⟨error.cause, Text.pushed u.length w.length error.position, u ++ (w ++ v)⟩ := by
  obtain ⟨init, hinit, _⟩ := exists_init_of_tokens h
  have hlast : ∃ t ∈ ts, t.kind = .finish := ⟨Token.endAt (u ++ v).length, by simp [hinit], rfl⟩
  rw [Expr.parse, Expr.parse, h, hinsert]
  simp only [Parser.run_pushed hlast]
  cases Parser.run (.operand []) ts with
  | error error => rfl
  | ok e => rfl

/-! ## Trimming -/

namespace Text

theorem trimEnd_append_of_blank (s : Text) (hw : blank w = true) :
    (s ++ w).trimEnd = s.trimEnd := by
  have hreverse : ∀ c ∈ w.reverse, isBlank c = true := by
    simpa [blank, List.all_eq_true] using hw
  rw [trimEnd, trimEnd, List.reverse_append, List.dropWhile_append_of_pos hreverse]

theorem trim_append_of_blank (s : Text) (hw : blank w = true) : (s ++ w).trim = s.trim := by
  rw [trim, trim, trimStart, List.dropWhile_append]
  split
  · next hblank =>
    -- Nothing but white space is trimmed to nothing.
    have hnil : (w ++ []).dropWhile isBlank = [] :=
      List.dropWhile_append_of_pos (List.all_eq_true.mp hw)
    rw [List.append_nil] at hnil
    rw [trimStart, List.isEmpty_iff.mp hblank, hnil]
  · exact trimEnd_append_of_blank s.trimStart hw

theorem trim_surrounded (s : Text) (hw : blank w = true) (hw' : blank w' = true) :
    (w ++ (s ++ w')).trim = s.trim := by
  rw [trim, trimStart_append_of_blank _ hw, ← trim, trim_append_of_blank s hw']

end Text

/-- A source spells what it spells without the white space around it. -/
theorem parse_of_trim {e : Expr} (h : Expr.parse s.trim = .ok e) : Expr.parse s = .ok e := by
  obtain ⟨after, hsplit, hafter⟩ := Text.exists_trim s
  have hend : EndsIdent after := by
    have hinsert := EndsIdent.insert (u := []) (v := []) .nil hafter
    rwa [List.nil_append, List.append_nil] at hinsert
  have hlength : 0 + (s.takeWhile isBlank).length + s.trim.length + after.length = s.length := by
    conv_rhs => rw [hsplit]
    simp only [List.length_append]
    omega
  have htail : Tokenized (0 + (s.takeWhile isBlank).length + s.trim.length) after
      [Token.endAt s.length] := by
    rw [← List.append_nil after]
    apply Tokenized.blank_append hafter
    rw [hlength]
    exact .finish
  obtain ⟨d, rfl, hd⟩ := exists_sentence_append_of_parse h hend htail
  have hsource := Tokenized.blank_append List.all_takeWhile hd
  rw [← hsplit] at hsource
  exact parse_of_tokens (tokens_eq_ok_iff.mpr hsource)

/-- White space between two tokens of a source moves the tokens behind it and changes nothing else.
So the source spells the same expression, or has the same syntax error at the place that has moved
along. White space around a source does not matter, not even to its errors. -/
theorem blanks_between_tokens :
    (∀ u v w ts, tokens (u ++ v) = .ok ts → (∀ t ∈ ts, ¬ t.CutAt 0 (u ++ v) u.length) →
      Text.blank w = true →
        tokens (u ++ (w ++ v)) = .ok (ts.map (Token.pushed u.length w.length)) ∧
        Expr.parse (u ++ (w ++ v)) = (Expr.parse (u ++ v)).mapError fun error =>
          ⟨error.cause, Text.pushed u.length w.length error.position, u ++ (w ++ v)⟩) ∧
    ∀ enabled env s w w', Text.blank w = true → Text.blank w' = true →
      Expr.evaluate enabled env (w ++ (s ++ w')) = Expr.evaluate enabled env s := by
  constructor
  · intro u v w ts h hcut hw
    have hread := (tokens_eq_ok_iff.mp h).insert rfl hw (by simpa using hcut)
    rw [Nat.zero_add] at hread
    have hinsert := tokens_eq_ok_iff.mpr hread
    exact ⟨hinsert, parse_insert h hinsert⟩
  · intro enabled env s w w' hw hw'
    rw [Expr.evaluate, Text.trim_surrounded s hw hw', Expr.evaluate]

/-- A line end and a blank are put behind a dot. -/
theorem blanks_between_dot_and_name :
    tokens "a.b+'x y'" = .ok [⟨.ident, ['a'], 0⟩, ⟨.dot, ['.'], 1⟩, ⟨.ident, ['b'], 2⟩,
      ⟨.plus, ['+'], 3⟩, ⟨.string, "x y", 4⟩, ⟨.finish, [], 9⟩] ∧
    tokens "a.\n b+'x y'" = .ok [⟨.ident, ['a'], 0⟩, ⟨.dot, ['.'], 1⟩, ⟨.ident, ['b'], 4⟩,
      ⟨.plus, ['+'], 5⟩, ⟨.string, "x y", 6⟩, ⟨.finish, [], 11⟩] := by
  have h : tokens ("a.".toList ++ "b+'x y'".toList) = .ok [⟨.ident, ['a'], 0⟩, ⟨.dot, ['.'], 1⟩,
      ⟨.ident, ['b'], 2⟩, ⟨.plus, ['+'], 3⟩, ⟨.string, "x y", 4⟩, ⟨.finish, [], 9⟩] := rfl
  refine ⟨h, (blanks_between_tokens.1 "a." "b+'x y'" ['\n', ' '] _ h ?_ rfl).1⟩
  rintro t ht ⟨before, x, after, _, _, hx, hlt, hgt⟩
  simp only [List.mem_cons, List.not_mem_nil, or_false] at ht
  rcases ht with rfl | rfl | rfl | rfl | rfl | rfl
  · cases hx with
    | punctuation | ident => simp at hgt
  · cases hx with
    | punctuation => simp at hgt
  all_goals simp at hlt

end TripleQuote
