import TripleQuote.Proofs.Expr.Spacing
import TripleQuote.Proofs.Template.Layout

/-! # Tokens tile their source

The lexemes of the tokens stand in the source where the positions of the tokens say, one behind the
other, and only white space is outside of them. A lexeme has no other token than its own
(`tokens_tile`).

The lexemes are not part of the tokens: the value of a constant can be shorter than the text that
spells it. `Tiling` says where each lexeme ends, and a source that is made of lexemes has one
(`Tokenized.exists_tiling`). -/

namespace TripleQuote

/-- Whether a token of `s` is spelled from its position up to `stop`. -/
structure Token.Spelled (s : Text) (t : Token) (stop : Nat) : Prop where
  lt : t.position < stop
  le : stop ≤ s.length
  value : t.kind ≠ .string → s.slice t.position stop = t.value
  quotes : t.kind = .string →
    ∃ (q : Quote) (body : Text), s.slice t.position stop = q.char :: (body ++ [q.char])
  ends : t.kind = .ident → EndsIdent (s.drop stop)
  alone : tokens (s.slice t.position stop) =
    .ok [⟨t.kind, t.value, 0⟩, Token.endAt (stop - t.position)]

/-- Tokens, each with the place where its lexeme ends, that tile the source `s` from `pos` on. -/
structure Tiling (s : Text) (pos : Nat) (tiles : List (Token × Nat)) : Prop where
  start : ∀ tile ∈ tiles, pos ≤ tile.1.position
  spelled : ∀ tile ∈ tiles, tile.1.Spelled s tile.2
  apart : tiles.Pairwise fun tile tile' => tile.2 ≤ tile'.1.position
  blank : ∀ i c, pos ≤ i → s[i]? = some c →
    (∀ tile ∈ tiles, ¬ (tile.1.position ≤ i ∧ i < tile.2)) → isBlank c = true

variable {pos : Nat} {c : Char} {s x before : Text} {kind : Token.Kind} {value : Text}
  {ts : List Token} {tiles : List (Token × Nat)}

/-! ## Lexemes -/

theorem Lexeme.tokens (h : Lexeme kind value x) :
    tokens x = .ok [⟨kind, value, 0⟩, Token.endAt x.length] := by
  apply tokens_eq_ok_iff.mpr
  have hx := Tokenized.token h (fun _ => .nil) (.endAt x)
  rwa [List.append_nil] at hx

theorem Lexeme.ne_nil (h : Lexeme kind value x) : x ≠ [] := by
  cases h with
  | punctuation | constant => exact List.cons_ne_nil _ _
  | ident h =>
    obtain ⟨c, rest, rfl, _⟩ := h
    exact List.cons_ne_nil c rest

/-- A lexeme spells its token in every source that does not continue it. -/
theorem Lexeme.spelled (h : Lexeme kind value x) (hend : kind = .ident → EndsIdent s)
    (before : Text) :
    Token.Spelled (before ++ (x ++ s)) ⟨kind, value, before.length⟩ (before.length + x.length) := by
  have hslice := Text.slice_append before x s
  refine ⟨?_, ?_, fun hkind => ?_, fun hkind => ?_, fun hkind => ?_, ?_⟩
  · exact Nat.lt_add_of_pos_right (List.length_pos_iff.mpr h.ne_nil)
  · simp only [List.length_append]
    omega
  · rw [hslice]
    cases h with
    | punctuation | ident => rfl
    | constant => exact absurd rfl hkind
  · rw [hslice]
    cases h with
    | punctuation hc =>
      subst hkind
      simpa using punctuation?_eq_some hc
    | ident => cases hkind
    | @constant body _ q => exact ⟨q, body, rfl⟩
  · rw [← List.length_append, ← List.append_assoc, List.drop_left]
    exact hend hkind
  · rw [hslice, Nat.add_sub_cancel_left, h.tokens]

/-! ## Sources -/

namespace Tiling

theorem nil (h : s.length ≤ pos) : Tiling s pos [] := by
  refine ⟨by simp, by simp, .nil, fun i c hpos hc _ => ?_⟩
  rw [List.getElem?_eq_none (Nat.le_trans h hpos)] at hc
  cases hc

/-- White space before the tiles. -/
theorem cons_blank (hc : s[pos]? = some c) (hblank : isBlank c = true)
    (h : Tiling s (pos + 1) tiles) : Tiling s pos tiles := by
  refine ⟨fun tile htile => Nat.le_of_succ_le (h.start tile htile), h.spelled, h.apart, ?_⟩
  intro i d hpos hd hout
  rcases Nat.eq_or_lt_of_le hpos with rfl | hlt
  · rw [hc, Option.some.injEq] at hd
    rwa [← hd]
  · exact h.blank i d hlt hd hout

/-- A token before the tiles. -/
theorem cons {t : Token} {stop : Nat} (ht : t.position = pos) (hspelled : t.Spelled s stop)
    (h : Tiling s stop tiles) : Tiling s pos ((t, stop) :: tiles) := by
  have hstop : pos ≤ stop := ht ▸ Nat.le_of_lt hspelled.lt
  refine ⟨?_, ?_, ?_, fun i d hpos hd hout => ?_⟩
  · rw [List.forall_mem_cons]
    exact ⟨Nat.le_of_eq ht.symm, fun tile htile => Nat.le_trans hstop (h.start tile htile)⟩
  · rw [List.forall_mem_cons]
    exact ⟨hspelled, h.spelled⟩
  · exact .cons h.start h.apart
  · obtain ⟨hhere, hout⟩ := List.forall_mem_cons.mp hout
    have hi : stop ≤ i := by
      by_contra hlt
      exact hhere ⟨ht ▸ hpos, Nat.lt_of_not_le hlt⟩
    exact h.blank i d hi hd hout

/-- Tiles come in the order of their positions. -/
theorem pairwise_position (h : Tiling s pos tiles) :
    (tiles.map Prod.fst ++ [Token.endAt s.length]).Pairwise
      fun t t' => t.position < t'.position := by
  rw [List.pairwise_append, List.pairwise_map]
  refine ⟨?_, List.pairwise_singleton _ _, fun t ht last hlast => ?_⟩
  · apply h.apart.imp_of_mem
    intro tile tile' htile _ hbehind
    exact Nat.lt_of_lt_of_le (h.spelled tile htile).lt hbehind
  · obtain ⟨tile, htile, rfl⟩ := List.mem_map.mp ht
    obtain rfl := List.mem_singleton.mp hlast
    have hspelled := h.spelled tile htile
    exact Nat.lt_of_lt_of_le hspelled.lt hspelled.le

end Tiling

/-- The tokens of a source before its end are those of a tiling. -/
theorem Tokenized.exists_tiling (h : Tokenized pos s ts) (hpos : before.length = pos) :
    ∃ tiles, ts = tiles.map Prod.fst ++ [Token.endAt (before ++ s).length] ∧
      Tiling (before ++ s) pos tiles := by
  induction h generalizing before with
  | @finish pos =>
    refine ⟨[], ?_, .nil ?_⟩
    · rw [List.append_nil, hpos]
      rfl
    · rw [List.append_nil]
      exact Nat.le_of_eq hpos
  | @blank c pos s ts hc h ih =>
    have hbehind : (before ++ [c]).length = pos + 1 := by simp [hpos]
    obtain ⟨tiles, hts, htiling⟩ := ih hbehind
    rw [List.append_assoc, List.singleton_append] at hts htiling
    refine ⟨tiles, hts, htiling.cons_blank ?_ hc⟩
    rw [← hpos, List.getElem?_append_right (Nat.le_refl _), Nat.sub_self]
    rfl
  | @token kind value x s pos ts hx hend h ih =>
    subst hpos
    have hbehind : (before ++ x).length = before.length + x.length := List.length_append
    obtain ⟨tiles, rfl, htiling⟩ := ih hbehind
    rw [List.append_assoc] at htiling ⊢
    exact ⟨(_, _) :: tiles, rfl, htiling.cons rfl (hx.spelled hend before)⟩

theorem tokens_of_blank (h : Text.blank s = true) : tokens s = .ok [Token.endAt s.length] := by
  apply tokens_eq_ok_iff.mpr
  have hs := Tokenized.blank_append h (.endAt s)
  rwa [List.append_nil] at hs

/-- The tokens of a source stand in it in the order of their positions, which increase up to the
end, and their lexemes tile it: no two of them overlap, and only white space is outside of them.
A lexeme has no token but its own. In white space there is no token but the end. -/
theorem tokens_tile (s : Text) :
    (Text.blank s = true → tokens s = .ok [Token.endAt s.length]) ∧
    ∀ ts, tokens s = .ok ts →
      ts.Pairwise (fun t t' => t.position < t'.position) ∧
      ∃ tiles, ts = tiles.map Prod.fst ++ [Token.endAt s.length] ∧ Tiling s 0 tiles := by
  refine ⟨tokens_of_blank, fun ts hts => ?_⟩
  obtain ⟨tiles, rfl, htiling⟩ :=
    (tokens_eq_ok_iff.mp hts).exists_tiling (show ([] : Text).length = 0 from rfl)
  exact ⟨htiling.pairwise_position, tiles, rfl, htiling⟩

/-- The constant `'\\'b'` has a value that is shorter than its lexeme. -/
theorem tokens_tile_constant :
    tokens " \n" = .ok [Token.endAt 2] ∧
    tokens " a+'\\'b'" = .ok [⟨.ident, ['a'], 1⟩, ⟨.plus, ['+'], 2⟩, ⟨.string, "'b", 3⟩,
      Token.endAt 8] ∧
    ∃ stop, Token.Spelled " a+'\\'b'" ⟨.string, "'b", 3⟩ stop := by
  have htokens : tokens " a+'\\'b'" = .ok [⟨.ident, ['a'], 1⟩, ⟨.plus, ['+'], 2⟩,
      ⟨.string, "'b", 3⟩, Token.endAt 8] := rfl
  obtain ⟨-, tiles, htiles, htiling⟩ := (tokens_tile " a+'\\'b'").2 _ htokens
  have hbefore : [⟨.ident, ['a'], 1⟩, ⟨.plus, ['+'], 2⟩, ⟨.string, "'b", 3⟩] =
      tiles.map Prod.fst := List.append_cancel_right htiles
  have hmem : ⟨.string, "'b", 3⟩ ∈ tiles.map Prod.fst := by
    rw [← hbefore]
    simp
  obtain ⟨⟨t, stop⟩, htile, rfl⟩ := List.mem_map.mp hmem
  exact ⟨(tokens_tile " \n").1 rfl, htokens, stop, htiling.spelled _ htile⟩

end TripleQuote
