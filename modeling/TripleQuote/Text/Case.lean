import TripleQuote.Text.Basic
import TripleQuote.Text.CaseTable

/-! # Upper and lower case

Full case mapping: a character may become several, and a capital sigma becomes the final sigma
where it ends a word. -/

namespace TripleQuote

/-- The upper-case form of a character. -/
def upperOf (c : Char) : Text :=
  match upperExpansions.lookup c.toNat with
  | some codes => codes.map Char.ofNat
  | none => [((upperRuns.find? c.toNat).map Char.ofNat).getD c]

/-- The lower-case form of a character away from the context of its word. A capital I with a dot
keeps the dot as a combining mark. -/
def lowerOf (c : Char) : Text :=
  if c = 'İ' then ['i', '\u0307']
  else [((lowerRuns.find? c.toNat).map Char.ofNat).getD c]

/-- Whether a text, past characters that do not matter for case, starts with one that has case. -/
def startsCased (t : Text) : Bool :=
  match t.dropWhile fun c => caseIgnorableRanges.contains c.toNat with
  | [] => false
  | c :: _ => casedRanges.contains c.toNat

/-- The lower-case form of a text that is read after `before`, given in reverse. -/
def lowerAfter (before : Text) : Text → Text
  | [] => []
  | c :: rest =>
    let here :=
      if c = 'Σ' then [if startsCased before && !startsCased rest then 'ς' else 'σ']
      else lowerOf c
    here ++ lowerAfter (c :: before) rest

namespace Text

/-- The text in upper case. -/
def toUpper (t : Text) : Text := t.flatMap upperOf

/-- The text in lower case. -/
def toLower (t : Text) : Text := lowerAfter [] t

end Text

end TripleQuote
