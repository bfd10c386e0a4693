import TripleQuote.Proofs.Template.Reading

/-! # Writing templates

Every canonical list of segments can be written as a template with either quote (`write`), and the
template is read back as that list (`read_write`).

A literal is not written character by character: a run of quotes is written as a whole, and what is
written for a backslash or for the last run of quotes depends on what follows. `Says` says of a
body what it is read as, from its end to its start, so that each character is written before a body
that is known. -/

namespace TripleQuote

open Segment (Content Item gather Canonical)
open Piece (AllFit spell)

/-- The text of a literal as it is written in a template with quotes `q`. An expression follows
unless the literal is the last segment. -/
def writeText (q : Quote) (isLast : Bool) : Text → Text
  | [] => []
  | '$' :: '{' :: rest => '\\' :: '$' :: '{' :: writeText q isLast rest
  | '\\' :: rest =>
    if rest.head? = some '\n' ∨ rest.head? = some '\r' ∨ (rest = [] ∧ !isLast) then
      '\\' :: '\\' :: '\n' :: writeText q isLast rest
    else '\\' :: writeText q isLast rest
  | c :: rest =>
    if c = q.char then
      let n := 1 + (rest.takeWhile (· == q.char)).length
      let after := rest.dropWhile (· == q.char)
      q.run (if n < 3 ∨ (after = [] ∧ isLast) then n else n + 3) ++ writeText q isLast after
    else c :: writeText q isLast rest
termination_by t => t.length
decreasing_by
  all_goals simp only [List.length_cons]
  · omega
  · omega
  · omega
  · have := (List.dropWhile_sublist (l := rest) (· == q.char)).length_le
    omega
  · omega

/-- Segments as they are written between the delimiters. -/
def writeBody (q : Quote) : List Content → Text
  | [] => []
  | .interpolation e :: rest => '$' :: '{' :: e ++ '}' :: writeBody q rest
  | .literal t :: rest => writeText q rest.isEmpty t ++ writeBody q rest

/-- The template of segments. -/
def write (q : Quote) (cs : List Content) : Text :=
  q.delimiter ++ (writeBody q cs ++ q.delimiter)

/-- A body with its closing delimiter says the items. -/
def Says (q : Quote) (body : Text) (items : List Item) : Prop :=
  ∃ ps m, AllFit q ps (q.run (m + 3)) ∧ body = spell q ps ++ q.run (m + 3) ∧
    items = ps.flatMap (Piece.items q) ++ (q.run m).map .char

/-- What follows a literal, and what it says. -/
inductive Follows (q : Quote) : Bool → Text → List Item → Prop where
  | delimiter : Follows q true q.delimiter []
  | span : Follows q false ('$' :: '{' :: rest) items

variable {q : Quote} {isLast : Bool} {body t : Text} {items : List Item}

namespace Says

/-- Quotes before the closing delimiter are a part of the closing run. -/
theorem closing (q : Quote) (m : Nat) : Says q (q.run m ++ q.delimiter) ((q.run m).map .char) :=
  ⟨[], m, trivial, q.run_append_run m 3, rfl⟩

theorem cons {p : Piece} (hp : p.Fits q body) (h : Says q body items) :
    Says q (p.spelling q ++ body) (p.items q ++ items) := by
  obtain ⟨ps, m, hps, rfl, rfl⟩ := h
  exact ⟨p :: ps, m, ⟨hp, hps⟩, (List.append_assoc ..).symm, (List.append_assoc ..).symm⟩

theorem exists_lex {required : Option Quote} (h : Says q body items) (hq : ∀ r ∈ required, q = r) :
    ∃ segments, lex required (q.delimiter ++ body) = .ok segments ∧
      segments.map Segment.content = gather items := by
  obtain ⟨ps, m, hps, rfl, rfl⟩ := h
  exact ⟨_, Decomposition.lex_ofPieces hq hps, Decomposition.map_content_segments _⟩

end Says

/-! ## Literals -/

theorem Follows.head? (h : Follows q isLast body items) :
    body.head? = some (if isLast then q.char else '$') := by
  cases h with
  | delimiter => rfl
  | span => rfl

/-- What is written for a text starts with the text or with a backslash. -/
theorem head?_writeText (q : Quote) (isLast : Bool) (ht : t ≠ []) :
    (writeText q isLast t).head? = some '\\' ∨ (writeText q isLast t).head? = t.head? := by
  fun_cases writeText q isLast t with
  | case1 => exact absurd rfl ht
  | case2 | case3 | case4 => exact .inl rfl
  | case5 rest n after =>
    refine .inr ?_
    split
    · simp [n, Nat.add_comm 1, Quote.run_succ]
    · rw [Quote.run_succ]
      rfl
  | case6 => exact .inr rfl

theorem head?_writeText_append_ne {c : Char} (hback : c ≠ '\\') (ht : t.head? ≠ some c)
    (hbody : t = [] → body.head? ≠ some c) :
    (writeText q isLast t ++ body).head? ≠ some c := by
  rw [List.head?_append]
  by_cases hnil : t = []
  · subst hnil
    simpa [writeText] using hbody rfl
  · rcases head?_writeText q isLast hnil with h | h
    · simpa [h] using hback.symm
    · obtain ⟨d, t, rfl⟩ := List.exists_cons_of_ne_nil hnil
      rw [h]
      exact ht

theorem Follows.head?_ne (h : Follows q isLast body items) {c : Char} (hquote : c ≠ q.char)
    (hdollar : c ≠ '$') : body.head? ≠ some c := by
  rw [h.head?]
  split
  · exact fun he => hquote (Option.some.inj he).symm
  · exact fun he => hdollar (Option.some.inj he).symm

theorem writeText_char {c : Char} {rest : Text} (hquote : c ≠ q.char) (hback : c ≠ '\\')
    (hopen : c = '$' → rest.head? ≠ some '{') :
    writeText q isLast (c :: rest) = c :: writeText q isLast rest := by
  rw [writeText]
  · rw [if_neg hquote]
  · rintro tail rfl rfl
    exact hopen rfl rfl
  · exact hback

/-- What is written for a text never starts an expression. -/
theorem not_opener_writeText (h : Follows q isLast body items) (hend : t = [] → isLast = true) :
    ¬ ['$', '{'] <+: writeText q isLast t ++ body := by
  rintro ⟨tail, htail⟩
  have hhead : (writeText q isLast t ++ body).head? = some '$' := by
    rw [← htail]
    rfl
  by_cases ht : t.head? = some '$'
  · obtain ⟨rest, rfl⟩ := List.head?_eq_some_iff.mp ht
    by_cases hrest : rest.head? = some '{'
    · obtain ⟨rest, rfl⟩ := List.head?_eq_some_iff.mp hrest
      simp [writeText] at htail
    · rw [writeText_char q.char_ne_dollar.symm (by decide) fun _ => hrest] at htail
      have hbrace := congrArg List.head? (List.cons.inj htail).2
      refine head?_writeText_append_ne (by decide) hrest (fun _ => ?_) hbrace.symm
      exact h.head?_ne (by cases q <;> decide) (by decide)
  · refine head?_writeText_append_ne (by decide) ht (fun hnil => ?_) hhead
    rw [h.head?, hend hnil]
    exact fun he => q.char_ne_dollar (Option.some.inj he)

/-- A run of quotes says as many quotes as the text has. -/
theorem says_run {n : Nat} {after : Text} (hn : 0 < n) (hafter : after.head? ≠ some q.char)
    (hnext : Follows q isLast body items)
    (h : Says q (writeText q isLast after ++ body) (after.map .char ++ items)) :
    Says q (q.run (if n < 3 ∨ (after = [] ∧ isLast) then n else n + 3) ++
        writeText q isLast after ++ body)
      ((q.run n ++ after).map .char ++ items) := by
  rw [List.append_assoc, List.map_append, List.append_assoc]
  by_cases hend : after = [] ∧ isLast
  · rw [if_pos (.inr hend)]
    obtain ⟨rfl, rfl⟩ := hend
    cases hnext with
    | delimiter => simpa [writeText] using Says.closing q n
  · -- What follows is no quote, so that the run is a piece of its own.
    have hrun : (writeText q isLast after ++ body).head? ≠ some q.char := by
      refine head?_writeText_append_ne q.char_ne_backslash hafter fun hnil => ?_
      rw [hnext.head?, if_neg fun hlast => hend ⟨hnil, hlast⟩]
      exact fun he => q.char_ne_dollar (Option.some.inj he).symm
    by_cases hshort : n < 3
    · have hpiece := h.cons (Piece.Fits.quotes (n := n) (by omega) hrun)
      rw [Piece.items, if_pos hshort, Piece.spelling] at hpiece
      rwa [if_pos (.inl hshort)]
    · have hpiece := h.cons (Piece.Fits.quotes (n := n + 3) (by omega) hrun)
      rw [Piece.items, if_neg (by omega), Piece.spelling, Nat.add_sub_cancel] at hpiece
      rwa [if_neg (by simp only [hshort, hend, or_self, not_false_eq_true])]

/-- A literal says its characters. -/
theorem says_writeText (t : Text) (h : Says q body items) (hnext : Follows q isLast body items) :
    Says q (writeText q isLast t ++ body) (t.map .char ++ items) := by
  fun_induction writeText q isLast t with
  | case1 => exact h
  | case2 rest ih => exact ih.cons .opener
  | case3 rest hjoin ih =>
    have hbackslash : Piece.Fits q .backslash ('\\' :: '\n' :: (writeText q isLast rest ++ body)) :=
      .backslash (by simp) (by simp) (by simp)
    exact (ih.cons .lf).cons hbackslash
  | case4 rest hjoin ih =>
    simp only [not_or, not_and] at hjoin
    obtain ⟨hlf, hcr, hend⟩ := hjoin
    refine ih.cons (.backslash ?_ ?_ ?_)
    · exact head?_writeText_append_ne (by decide) hlf fun _ =>
        hnext.head?_ne (by cases q <;> decide) (by decide)
    · exact head?_writeText_append_ne (by decide) hcr fun _ =>
        hnext.head?_ne (by cases q <;> decide) (by decide)
    · exact not_opener_writeText hnext (by simpa using hend)
  | case5 rest n after _ _ ih =>
    have hrest : q.char :: rest = q.run n ++ after := by
      rw [show n = (rest.takeWhile (· == q.char)).length + 1 from Nat.add_comm .., Quote.run_succ,
        List.cons_append, Piece.run_append_dropWhile]
    rw [hrest]
    exact says_run (by omega) (Piece.head?_dropWhile_ne q rest) hnext ih
  | case6 c rest hopen hback hquote ih =>
    refine ih.cons (.char hquote hback fun hc => ?_)
    refine head?_writeText_append_ne (by decide) (fun hbrace => ?_) fun _ =>
      hnext.head?_ne (by cases q <;> decide) (by decide)
    obtain ⟨tail, rfl⟩ := List.head?_eq_some_iff.mp hbrace
    exact hopen tail hc rfl

/-! ## Lists of segments -/

theorem says_writeBody {cs : List Content} (h : Canonical cs) :
    Says q (writeBody q cs ++ q.delimiter) (cs.flatMap Content.items) := by
  induction h with
  | nil => exact Says.closing q 0
  | @literal t rest ht hnext hrest ih =>
    rw [writeBody, List.append_assoc]
    refine says_writeText t ih ?_
    cases rest with
    | nil => exact .delimiter
    | cons c rest =>
      cases c with
      | literal u => exact absurd rfl (hnext u)
      | interpolation e => exact .span
  | @interpolation e rest hclose hblank hrest ih =>
    have hspan := ih.cons (Piece.Fits.span hclose hblank)
    simpa [writeBody, Piece.spelling, Piece.items, Content.items] using hspan

/-- Templates hold canonical lists of segments, and each of these is read back from the template
that is written for it. -/
theorem read_write :
    (∀ required s segments, lex required s = .ok segments →
      Canonical (segments.map Segment.content)) ∧
    ∀ q required cs, Canonical cs → (∀ r ∈ required, q = r) →
      ∃ segments, lex required (write q cs) = .ok segments ∧
        segments.map Segment.content = cs := by
  refine ⟨fun required s segments h => canonical_of_lex h, fun q required cs hcs hq => ?_⟩
  obtain ⟨segments, hlex, hsegments⟩ := (says_writeBody hcs).exists_lex hq
  exact ⟨segments, hlex, hsegments.trans (Segment.gather_flatMap_items hcs)⟩

example : write .double [.literal "a\"\"\"\\", .interpolation "x", .literal "\""] =
    "\"\"\"a\"\"\"\"\"\"\\\\\n$\x7bx\x7d\"\"\"\"" := by cbv

end TripleQuote
