import TripleQuote.Template.Assembly
import TripleQuote.Text.Blank

/-! # Contents of segments

What a template says, offsets aside, is a sequence of characters and expressions. Its segments are
the maximal parts of that sequence: `gather` makes literals of the characters between expressions,
and gives canonical lists only (`canonical_gather`), each of them from the items that it holds
(`gather_flatMap_items`).

The segments that are assembled from pieces are gathered from what the pieces say
(`Segment.map_content_assemble`). -/

namespace TripleQuote

/-- A segment without its offset. -/
inductive Segment.Content where
  | literal (text : Text)
  | interpolation (source : Text)
deriving DecidableEq, Repr

/-- One of the things that a template says. -/
inductive Segment.Item where
  | char (c : Char)
  | expression (source : Text)
deriving DecidableEq, Repr

open Segment (Content Item)

def Segment.content : Segment → Content
  | literal _ t => .literal t
  | interpolation _ e => .interpolation e

/-- What a piece of a template with quotes `q` says. A run of at least three quotes says three
fewer. -/
def Piece.items (q : Quote) : Piece → List Item
  | joined _ => []
  | opener => [.char '$', .char '{']
  | backslash => [.char '\\']
  | span source => [.expression source]
  | quotes n => (q.run (if n < 3 then n else n - 3)).map .char
  | char c => [.char c]

namespace Segment

def Content.items : Content → List Item
  | literal t => t.map .char
  | interpolation e => [.expression e]

/-- The segments that say the items: characters that follow each other are one literal. -/
def gather : List Item → List Content
  | [] => []
  | .expression e :: items => .interpolation e :: gather items
  | .char c :: items =>
    match gather items with
    | .literal t :: rest => .literal (c :: t) :: rest
    | rest => .literal [c] :: rest

/-- No literal is empty or next to another literal, and every interpolation can be written: its
source is not blank and holds no closing brace. -/
inductive Canonical : List Content → Prop where
  | nil : Canonical []
  | literal (ht : t ≠ []) (hnext : ∀ u, rest.head? ≠ some (.literal u)) (hrest : Canonical rest) :
      Canonical (.literal t :: rest)
  | interpolation (hclose : '}' ∉ e) (hblank : Text.blank e = false) (hrest : Canonical rest) :
      Canonical (.interpolation e :: rest)

/-! ## Gathering -/

theorem gather_cons_expression (e : Text) (items : List Item) :
    gather (.expression e :: items) = .interpolation e :: gather items := rfl

theorem gather_cons_char (c : Char) (items : List Item) :
    gather (.char c :: items) =
      match gather items with
      | .literal t :: rest => .literal (c :: t) :: rest
      | rest => .literal [c] :: rest := rfl

theorem gather_char_literal {items : List Item} (c : Char) {t : Text} {rest : List Content}
    (h : gather items = .literal t :: rest) :
    gather (.char c :: items) = .literal (c :: t) :: rest := by
  rw [gather_cons_char, h]

theorem gather_char {items : List Item} (c : Char)
    (h : ∀ u, (gather items).head? ≠ some (.literal u)) :
    gather (.char c :: items) = .literal [c] :: gather items := by
  rw [gather_cons_char]
  split
  · next t rest heq => exact absurd (by rw [heq]; rfl) (h t)
  · rfl

/-- Text before other segments. -/
theorem gather_chars {items : List Item} {t : Text} (ht : t ≠ [])
    (h : ∀ u, (gather items).head? ≠ some (.literal u)) :
    gather (t.map .char ++ items) = .literal t :: gather items := by
  induction t with
  | nil => exact absurd rfl ht
  | cons c t ih =>
    cases t with
    | nil => exact gather_char c h
    | cons d t => exact gather_char_literal c (ih (List.cons_ne_nil d t))

/-- Text before a literal. -/
theorem gather_chars_literal {items : List Item} {u : Text} {rest : List Content} (t : Text)
    (h : gather items = .literal u :: rest) :
    gather (t.map .char ++ items) = .literal (t ++ u) :: rest := by
  induction t with
  | nil => exact h
  | cons c t ih => exact gather_char_literal c ih

/-- A canonical list is what is gathered from its items. -/
theorem gather_flatMap_items {cs : List Content} (h : Canonical cs) :
    gather (cs.flatMap Content.items) = cs := by
  induction h with
  | nil => rfl
  | literal ht hnext _ ih =>
    rw [List.flatMap_cons, Content.items, gather_chars ht (by rwa [ih]), ih]
  | interpolation _ _ _ ih =>
    rw [List.flatMap_cons, Content.items, List.singleton_append, gather_cons_expression, ih]

/-- What is gathered is canonical, if the expressions can be written. -/
theorem canonical_gather {items : List Item}
    (h : ∀ e, .expression e ∈ items → '}' ∉ e ∧ Text.blank e = false) :
    Canonical (gather items) := by
  induction items with
  | nil => exact .nil
  | cons item items ih =>
    have hitems := ih fun e he => h e (List.mem_cons_of_mem _ he)
    cases item with
    | expression e =>
      obtain ⟨hclose, hblank⟩ := h e List.mem_cons_self
      exact .interpolation hclose hblank hitems
    | char c =>
      rw [gather_cons_char]
      split
      · next t rest heq =>
        rw [heq] at hitems
        cases hitems with
        | literal _ hnext hrest => exact .literal (List.cons_ne_nil c t) hnext hrest
      · next hliteral =>
        refine .literal (List.cons_ne_nil c []) (fun u hu => ?_) hitems
        obtain ⟨rest, hrest⟩ := List.head?_eq_some_iff.mp hu
        exact hliteral u rest hrest

/-! ## Assembling -/

theorem prependText_of_ne {after : List Segment} {t : Text} (pos : Nat) (ht : t ≠ [])
    (h : ∀ next u rest, after ≠ literal next u :: rest) :
    prependText pos t after = literal pos t :: after := by
  unfold prependText
  split
  · exact absurd rfl ht
  · exact absurd rfl (h _ _ _)
  · rfl

theorem map_content_prependText {after : List Segment} {items : List Item} (pos : Nat) (t : Text)
    (h : after.map content = gather items) :
    (prependText pos t after).map content = gather (t.map .char ++ items) := by
  by_cases ht : t = []
  · subst ht
    exact h
  · cases after with
    | nil =>
      rw [gather_chars ht (by simp [← h]), prependText_of_ne pos ht (by simp), ← h]
      rfl
    | cons s after =>
      cases s with
      | literal next u =>
        rw [prependText_literal pos next u after ht, gather_chars_literal t h.symm]
        rfl
      | interpolation next e =>
        rw [gather_chars ht (by simp [← h, content]), prependText_of_ne pos ht (by simp), ← h]
        rfl

theorem map_content_prepend {q : Quote} {after : List Segment} {items : List Item}
    (piece : Nat × Piece) (h : after.map content = gather items) :
    (prepend q piece after).map content = gather (piece.2.items q ++ items) := by
  obtain ⟨pos, p⟩ := piece
  cases p with
  | span e => simp [prepend, Piece.items, gather_cons_expression, content, h]
  | joined lineEnd => exact map_content_prependText pos [] h
  | opener => exact map_content_prependText pos ['$', '{'] h
  | backslash => exact map_content_prependText pos ['\\'] h
  | quotes n => exact map_content_prependText pos (q.run (if n < 3 then n else n - 3)) h
  | char c => exact map_content_prependText pos [c] h

/-- Assembled segments are gathered from what the pieces say. -/
theorem map_content_assemble {q : Quote} {last : List Segment} {items : List Item}
    (pieces : List (Nat × Piece)) (h : last.map content = gather items) :
    (assemble q pieces last).map content =
      gather ((pieces.map Prod.snd).flatMap (Piece.items q) ++ items) := by
  induction pieces with
  | nil => exact h
  | cons piece pieces ih =>
    rw [List.map_cons, List.flatMap_cons, List.append_assoc]
    exact map_content_prepend piece ih

theorem map_content_closing (q : Quote) (pos n : Nat) :
    (closing q pos n).map content = gather ((q.run (n - 3)).map .char) := by
  rw [← List.append_nil ((q.run (n - 3)).map Item.char)]
  exact map_content_prependText pos _ rfl

end Segment

end TripleQuote
