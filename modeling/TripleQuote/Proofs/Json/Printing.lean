import TripleQuote.Proofs.Json.Reading
import TripleQuote.Proofs.Text.Digits
import TripleQuote.Proofs.Text.Escapes

/-! # Printed documents

Whatever is printed can be read: the text of a document, with any white space behind it, is read as
what the document says (`Json.read_text`). Each printed part is read before an arbitrary rest, and
leaves the parser in the state in which that rest is read. Controls are escaped in strings, so that
no escape character is printed (`Json.escapeFree_text`). -/

namespace TripleQuote

theorem Text.join_cons {ts : List Text} (sep : Text) (h : ts ≠ []) {t : Text} :
    join sep (t :: ts) = t ++ sep ++ join sep ts := by
  cases ts with
  | nil => exact absurd rfl h
  | cons u ts => rfl

namespace Json

variable {r r' : Reader.State} {p p' : Parser.State} {stack : List Parser.Frame} {first : Bool}
  {token : Token} {v : Value} {c : Char} {n : Nat} {s t w : Text} {codes : List Nat}

/-! ## Characters -/

theorem readFrom_silent (h : Reader.step r c = some ([], r')) :
    readFrom r p (c :: s) = readFrom r' p s := by
  rw [readFrom, h]
  rfl

theorem readFrom_token (h : Reader.step r c = some ([token], r'))
    (hp : Parser.step p token = some p') : readFrom r p (c :: s) = readFrom r' p' s := by
  rw [readFrom, h]
  simp [hp]

theorem step_mark (h : mark? c = some token) (hspace : isSpace c = false) :
    Reader.step .between c = some ([token], .between) := by
  simp [Reader.step, Reader.begin, h, hspace]

theorem readFrom_spaces (hw : w.all isSpace = true) :
    readFrom .between p (w ++ s) = readFrom .between p s := by
  induction w with
  | nil => rfl
  | cons c w ih =>
    rw [List.all_cons, Bool.and_eq_true] at hw
    rw [List.cons_append, readFrom_silent, ih hw.2]
    simp [Reader.step, Reader.begin, hw.1]

theorem all_isSpace_newLine (depth : Nat) : (newLine depth).all isSpace = true := by
  simp [newLine, isSpace]

/-! ## Strings -/

theorem characters_map_toNat (t : Text) : characters (t.map Char.toNat) = some t := by
  unfold characters
  induction t with
  | nil => rfl
  | cons c t ih =>
    -- The code of a character is no half of a surrogate pair.
    have hvalid : c.toNat < 0xD800 ∨ 0xE000 ≤ c.toNat := by
      rcases c.valid with h | ⟨h, -⟩
      · exact .inl h
      · exact .inr h
    have hhigh : isHigh c.toNat = false := by
      simp [isHigh]
      omega
    have hlow : isLow c.toNat = false := by
      simp [isLow]
      omega
    rw [List.map_cons, charactersFrom, hhigh, hlow, ih]
    simp

/-- Four hexadecimal digits after a backslash and `u` are a code. -/
theorem readFrom_code (hn : n < 0x10000) :
    readFrom (.escape codes) p ('u' :: (Text.hex 4 n ++ s)) =
      readFrom (.string (n :: codes)) p s := by
  have hlength := length_hex hn
  have hread := readNat?_hex 4 n
  obtain ⟨a, b, c, d, hdigits⟩ : ∃ a b c d, Text.hex 4 n = [a, b, c, d] := by
    match Text.hex 4 n, hlength with
    | [a, b, c, d], _ => exact ⟨a, b, c, d, rfl⟩
  rw [hdigits] at hread ⊢
  have hlast : Reader.step (.code codes [a, b, c]) d = some ([], .string (n :: codes)) := by
    simp [Reader.step, hread]
  rw [readFrom_silent rfl]
  exact readFrom_silent hlast

theorem readFrom_unescape (hc : c ≠ 'u') (h : unescape? c = some n) :
    readFrom (.string codes) p ('\\' :: c :: s) = readFrom (.string (n :: codes)) p s := by
  rw [readFrom_silent rfl, readFrom_silent]
  simp [Reader.step, hc, h]

/-- A character of a string is read as its code, however it is escaped. -/
theorem readFrom_escape (c : Char) :
    readFrom (.string codes) p (escape c ++ s) = readFrom (.string (c.toNat :: codes)) p s := by
  fun_cases escape c with
  | case1 hc =>
    rw [Bool.or_eq_true, decide_eq_true_eq, decide_eq_true_eq] at hc
    rcases hc with rfl | rfl
    · exact readFrom_unescape (by decide) rfl
    · exact readFrom_unescape (by decide) rfl
  | case2 hc hplain =>
    rw [Bool.or_eq_true, decide_eq_true_eq, decide_eq_true_eq, not_or] at hc
    rw [List.singleton_append, readFrom_silent]
    simp only [Reader.step, if_neg hc.1, if_neg hc.2, if_neg (Nat.not_lt.mpr hplain)]
  | case3 | case4 | case5 | case6 | case7 =>
    subst_vars
    exact readFrom_unescape (by decide) rfl
  | case8 _ hcontrol =>
    rw [List.cons_append, List.cons_append, readFrom_silent rfl]
    exact readFrom_code (by omega)

theorem readFrom_escapes (t : Text) :
    readFrom (.string codes) p (t.flatMap escape ++ s) =
      readFrom (.string ((t.map Char.toNat).reverse ++ codes)) p s := by
  induction t generalizing codes with
  | nil => rfl
  | cons c t ih =>
    rw [List.flatMap_cons, List.append_assoc, readFrom_escape, ih]
    simp

theorem readFrom_quoted (hp : Parser.step p (.scalar (.string t)) = some p') :
    readFrom .between p (quoted t ++ s) = readFrom .between p' s := by
  have hclose : Reader.step (.string (t.map Char.toNat).reverse) '"' =
      some ([.scalar (.string t)], .between) := by
    simp [Reader.step, characters_map_toNat]
  rw [quoted, List.cons_append, List.cons_append, readFrom_silent rfl, List.append_assoc,
    readFrom_escapes, List.append_nil]
  exact readFrom_token hclose hp

/-! ## Numbers -/

/-- Whether a text does not continue a word. -/
def EndsWord (s : Text) : Prop := ∀ c ∈ s.head?, isWordChar c = false

theorem endsWord_cons (hc : isWordChar c = false) : EndsWord (c :: s) := by
  simpa [EndsWord] using hc

theorem begin_word (hc : isWordChar c = true) : Reader.begin c = ([], .word [c]) := by
  simp only [isWordChar, Bool.and_eq_true, Bool.not_eq_true', Option.isNone_iff_eq_none, bne_iff_ne]
    at hc
  obtain ⟨⟨hspace, hmark⟩, hquote⟩ := hc
  simp [Reader.begin, hspace, hmark, hquote]

theorem readFrom_wordChars {read : Text} (ht : ∀ c ∈ t, isWordChar c = true) :
    readFrom (.word read) p (t ++ s) = readFrom (.word (t.reverse ++ read)) p s := by
  induction t generalizing read with
  | nil => rfl
  | cons c t ih =>
    obtain ⟨hc, ht⟩ := List.forall_mem_cons.mp ht
    have hstep : Reader.step (.word read) c = some ([], .word (c :: read)) := by
      simp [Reader.step, hc]
    rw [List.cons_append, readFrom_silent hstep, ih ht, List.reverse_cons, List.append_assoc]
    rfl

/-- A word is a token where it is not continued. -/
theorem readFrom_word (ht : t ≠ []) (hall : ∀ c ∈ t, isWordChar c = true)
    (hv : readWord? t = some v) (hp : Parser.step p (.scalar v) = some p') (hs : EndsWord s) :
    readFrom .between p (t ++ s) = readFrom .between p' s := by
  obtain ⟨c, t, rfl⟩ := List.exists_cons_of_ne_nil ht
  obtain ⟨hc, hall⟩ := List.forall_mem_cons.mp hall
  have hread : (t.reverse ++ [c]).reverse = c :: t := by simp
  rw [List.cons_append, readFrom_silent (by rw [Reader.step, begin_word hc]),
    readFrom_wordChars hall]
  cases s with
  | nil => simp [readFrom, Reader.finish, hread, hv, hp]
  | cons c s =>
    have hend : isWordChar c = false := hs c rfl
    simp [readFrom, Reader.step, hend, hread, hv, hp]

theorem isWordChar_of_isDigit (hc : isDigit c = true) : isWordChar c = true := by
  have hne (d : Char) (hd : isDigit d = false) : c ≠ d := ne_of_isDigit hc hd
  simp [isWordChar, isSpace, mark?, hne ' ' rfl, hne '\n' rfl, hne '\r' rfl, hne '\t' rfl,
    hne '[' rfl, hne ']' rfl, hne '{' rfl, hne '}' rfl, hne ',' rfl, hne ':' rfl, hne '"' rfl]

theorem readMagnitude?_ofNat (n : Nat) : readMagnitude? (Text.ofNat n) = some (n, 0) := by
  have hall : ∀ c ∈ Text.ofNat n, isDigit c = true := fun c => isDigit_of_mem_ofNat
  have hwhole : (Text.ofNat n ++ []).takeWhile isDigit = Text.ofNat n ++ [] :=
    List.takeWhile_append_of_pos hall
  have hrest : (Text.ofNat n ++ []).dropWhile isDigit = [] := List.dropWhile_append_of_pos hall
  rw [List.append_nil] at hwhole hrest
  have hread : readNat? 10 (Text.ofNat n) = some n :=
    readNat?_toDigits (by decide) (by decide) n
  have hzero : (Text.ofNat n).head? = some '0' → (Text.ofNat n).length = 1 := by
    intro hhead
    cases n with
    | zero => rfl
    | succ n => exact absurd hhead (head?_toDigits_ne (Nat.succ_pos n))
  have hne : Text.ofNat n ≠ [] := Nat.toDigits_ne_nil
  simpa [readMagnitude?, hwhole, hrest, readPlaces?, readExponent?, hread, hne] using hzero

theorem readWord?_ofNat (n : Nat) : readWord? (Text.ofNat n) = some (.number n 0) := by
  have hnull : Text.ofNat n ≠ "null".toList := ofNat_ne_cons (c := 'n') rfl
  have htrue : Text.ofNat n ≠ "true".toList := ofNat_ne_cons (c := 't') rfl
  have hfalse : Text.ofNat n ≠ "false".toList := ofNat_ne_cons (c := 'f') rfl
  rw [readWord?, if_neg hnull, if_neg htrue, if_neg hfalse, readNumber?, readMagnitude?_ofNat]
  · rfl
  · intro t
    exact ofNat_ne_cons rfl

theorem readFrom_ofNat (hp : Parser.step p (.scalar (.number n 0)) = some p') (hs : EndsWord s) :
    readFrom .between p (Text.ofNat n ++ s) = readFrom .between p' s :=
  readFrom_word Nat.toDigits_ne_nil (fun _ hc => isWordChar_of_isDigit (isDigit_of_mem_ofNat hc))
    (readWord?_ofNat n) hp hs

/-! ## Documents -/

mutual
/-- What a document says. -/
def value : Json → Value
  | number n => .number n 0
  | string t => .string t
  | array items => .array (values items)
  | object fields => .object (fieldValues fields)

def values : List Json → List Value
  | [] => []
  | item :: items => item.value :: values items

def fieldValues : List (Text × Json) → List (Text × Value)
  | [] => []
  | (name, item) :: fields => (name, item.value) :: fieldValues fields
end

theorem endsWord_newLine_append (depth : Nat) (s : Text) : EndsWord (newLine depth ++ s) :=
  endsWord_cons rfl

theorem readFrom_newLine (depth : Nat) :
    readFrom .between p (newLine depth ++ s) = readFrom .between p s :=
  readFrom_spaces (all_isSpace_newLine depth)

theorem endsWord_comma_append (depth : Nat) (s : Text) : EndsWord (',' :: newLine depth ++ s) :=
  endsWord_cons rfl

/-- A comma and a new line between items. -/
theorem readFrom_comma (depth : Nat) (hp : Parser.step p .comma = some p') :
    readFrom .between p (',' :: newLine depth ++ s) = readFrom .between p' s := by
  rw [List.cons_append, readFrom_token (step_mark rfl rfl) hp, readFrom_newLine]

theorem readFrom_name (first : Bool) (before : List (Text × Value)) (name : Text) :
    readFrom .between (.name first before stack) (quoted name ++ ": " ++ s) =
      readFrom .between (.value false (.object before name :: stack)) s := by
  rw [List.append_assoc, readFrom_quoted rfl]
  exact (readFrom_token rfl rfl).trans (readFrom_silent rfl)

/-- The bracket that opens items, with the line that it ends. -/
theorem readFrom_bracketed {opening closing : Char} {items : List Text} (depth : Nat)
    (hitems : items ≠ []) (hopening : mark? opening = some token)
    (hspace : isSpace opening = false) (hp : Parser.step p token = some p') :
    readFrom .between p (bracketed opening closing depth items ++ s) =
      readFrom .between p'
        (Text.join (',' :: newLine (depth + 1)) items ++ (newLine depth ++ closing :: s)) := by
  have hne : items.isEmpty = false := by simpa using hitems
  have hlines : bracketed opening closing depth items ++ s =
      opening :: (newLine (depth + 1) ++
        (Text.join (',' :: newLine (depth + 1)) items ++ (newLine depth ++ closing :: s))) := by
    simp [bracketed, hne]
  rw [hlines, readFrom_token (step_mark hopening hspace) hp, readFrom_newLine]

mutual
/-- A document inside of frames is read as a value that is done, where it is not continued. -/
theorem readFrom_pretty (j : Json) (depth : Nat) (first : Bool) (stack : List Parser.Frame)
    (s : Text) (hs : EndsWord s) :
    readFrom .between (.value first stack) (j.pretty depth ++ s) =
      readFrom .between (.done j.value stack) s := by
  match j with
  | number n =>
    rw [pretty, value]
    exact readFrom_ofNat rfl hs
  | string t =>
    rw [pretty, value]
    exact readFrom_quoted rfl
  | array [] =>
    exact (readFrom_token rfl rfl).trans (readFrom_token rfl rfl)
  | array (item :: items) =>
    rw [pretty, value, readFrom_bracketed depth (by simp [prettyItems]) rfl rfl rfl]
    exact readFrom_prettyItems (item :: items) (List.cons_ne_nil _ _) (depth + 1) true [] stack
      depth s
  | object [] =>
    exact (readFrom_token rfl rfl).trans (readFrom_token rfl rfl)
  | object (field :: fields) =>
    rw [pretty, value, readFrom_bracketed depth (by simp [prettyFields]) rfl rfl rfl]
    exact readFrom_prettyFields (field :: fields) (List.cons_ne_nil _ _) (depth + 1) true [] stack
      depth s

/-- The items of an array join those that stand before them, up to the bracket that closes it. -/
theorem readFrom_prettyItems (items : List Json) (hitems : items ≠ []) (depth : Nat) (first : Bool)
    (before : List Value) (stack : List Parser.Frame) (outer : Nat) (s : Text) :
    readFrom .between (.value first (.array before :: stack))
        (Text.join (',' :: newLine depth) (prettyItems depth items) ++
          (newLine outer ++ ']' :: s)) =
      readFrom .between (.done (.array (before ++ values items)) stack) s := by
  match items with
  | [item] =>
    rw [prettyItems, prettyItems, Text.join,
      readFrom_pretty item depth first _ _ (endsWord_newLine_append outer _), readFrom_newLine]
    exact readFrom_token (step_mark rfl rfl) rfl
  | item :: next :: items =>
    rw [prettyItems, Text.join_cons _ (by simp [prettyItems]), List.append_assoc, List.append_assoc,
      readFrom_pretty item depth first _ _ (endsWord_comma_append depth _),
      readFrom_comma depth rfl, values,
      List.append_cons before item.value (values (next :: items))]
    exact readFrom_prettyItems (next :: items) (List.cons_ne_nil _ _) depth false _ stack outer s

theorem readFrom_prettyFields (fields : List (Text × Json)) (hfields : fields ≠ []) (depth : Nat)
    (first : Bool) (before : List (Text × Value)) (stack : List Parser.Frame) (outer : Nat)
    (s : Text) :
    readFrom .between (.name first before stack)
        (Text.join (',' :: newLine depth) (prettyFields depth fields) ++
          (newLine outer ++ '}' :: s)) =
      readFrom .between (.done (.object (before ++ fieldValues fields)) stack) s := by
  match fields with
  | [(name, item)] =>
    rw [prettyFields, prettyFields, Text.join, List.append_assoc, readFrom_name,
      readFrom_pretty item depth false _ _ (endsWord_newLine_append outer _), readFrom_newLine]
    exact readFrom_token (step_mark rfl rfl) rfl
  | (name, item) :: next :: fields =>
    rw [prettyFields, Text.join_cons _ (by simp [prettyFields]), List.append_assoc,
      List.append_assoc, List.append_assoc, readFrom_name,
      readFrom_pretty item depth false _ _ (endsWord_comma_append depth _),
      readFrom_comma depth rfl, fieldValues,
      List.append_cons before (name, item.value) (fieldValues (next :: fields))]
    exact readFrom_prettyFields (next :: fields) (List.cons_ne_nil _ _) depth false _ stack outer s
end

/-- The text of a document is read as what the document says, with white space behind it. -/
theorem read_text (j : Json) (hw : w.all isSpace = true) : read (j.text ++ w) = some j.value := by
  have hend : EndsWord w := by
    intro c hc
    have hspace := List.all_eq_true.mp hw c (List.mem_of_head? hc)
    simp [isWordChar, hspace]
  rw [read, text, readFrom_pretty j 0 false [] w hend]
  have hdone := readFrom_spaces (p := .done j.value []) (s := []) hw
  rw [List.append_nil] at hdone
  rw [hdone]
  rfl

/-! ## Escape characters -/

open Text

theorem escapeFree_escape (c : Char) : EscapeFree (escape c) := by
  fun_cases escape c with
  | case1 hc =>
    rw [Bool.or_eq_true, decide_eq_true_eq, decide_eq_true_eq] at hc
    rcases hc with rfl | rfl
    · decide
    · decide
  | case2 _ hplain =>
    refine .cons ?_ .nil
    rintro rfl
    exact absurd hplain (by decide)
  | case3 | case4 | case5 | case6 | case7 => decide
  | case8 => exact .cons (by decide) (.cons (by decide) (escapeFree_hex 4 _))

theorem escapeFree_jsonQuoted (t : Text) : EscapeFree (quoted t) :=
  .append (.cons (by decide) (.flatMap escapeFree_escape t)) (.cons (by decide) .nil)

theorem escapeFree_newLine (depth : Nat) : EscapeFree (newLine depth) := by
  refine .cons (by decide) fun h => ?_
  exact absurd (List.eq_of_mem_replicate h) (by decide)

theorem escapeFree_bracketed {opening closing : Char} {items : List Text} (depth : Nat)
    (hopening : opening ≠ '\x1b') (hclosing : closing ≠ '\x1b')
    (hitems : ∀ item ∈ items, EscapeFree item) :
    EscapeFree (bracketed opening closing depth items) := by
  unfold bracketed
  split
  · exact .cons hopening (.cons hclosing .nil)
  · have hcomma : EscapeFree (',' :: newLine (depth + 1)) :=
      .cons (by decide) (escapeFree_newLine (depth + 1))
    have hopen := EscapeFree.cons hopening (escapeFree_newLine (depth + 1))
    exact ((hopen.append (.join hcomma hitems)).append (escapeFree_newLine depth)).append
      (.cons hclosing .nil)

mutual
theorem escapeFree_pretty (depth : Nat) (j : Json) : EscapeFree (j.pretty depth) := by
  match j with
  | number n => exact escapeFree_ofNat n
  | string t => exact escapeFree_jsonQuoted t
  | array items =>
    exact escapeFree_bracketed depth (by decide) (by decide)
      (escapeFree_prettyItems (depth + 1) items)
  | object fields =>
    exact escapeFree_bracketed depth (by decide) (by decide)
      (escapeFree_prettyFields (depth + 1) fields)

theorem escapeFree_prettyItems (depth : Nat) (items : List Json) :
    ∀ item ∈ prettyItems depth items, EscapeFree item := by
  match items with
  | [] => exact List.forall_mem_nil _
  | item :: items =>
    exact List.forall_mem_cons.mpr
      ⟨escapeFree_pretty depth item, escapeFree_prettyItems depth items⟩

theorem escapeFree_prettyFields (depth : Nat) (fields : List (Text × Json)) :
    ∀ field ∈ prettyFields depth fields, EscapeFree field := by
  match fields with
  | [] => exact List.forall_mem_nil _
  | (name, item) :: fields =>
    have hfield := ((escapeFree_jsonQuoted name).append
      (by decide : EscapeFree ": ")).append (escapeFree_pretty depth item)
    exact List.forall_mem_cons.mpr ⟨hfield, escapeFree_prettyFields depth fields⟩
end

theorem escapeFree_text (j : Json) : EscapeFree j.text := escapeFree_pretty 0 j

end Json

end TripleQuote
