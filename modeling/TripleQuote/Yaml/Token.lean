import TripleQuote.Yaml.Property

/-! # Tokens of YAML documents

The tokens of a document, with the starts and ends of the collections that only the indentation
shows. A key is not marked before its colon is met, so the places where one could have started
are remembered, and its tokens are put in there (`Lexing.addValue`). Where the text cannot be cut
any further, a last token holds the fault (`Token.broken`): it counts only for a reader who gets
that far. -/

namespace TripleQuote.Yaml

inductive Token where
  | documentStart
  | documentEnd
  | finish
  | sequenceStart
  | mappingStart
  | blockEnd
  | flowSequenceStart
  | flowSequenceEnd
  | flowMappingStart
  | flowMappingEnd
  | dash
  | comma
  | key
  | value
  | directive (d : Directive)
  | anchor (name : Text)
  /-- An alias of the node that an anchor has named. -/
  | reference (name : Text)
  | tag (handle : Option Text) (suffix : Text)
  | scalar (plain : Bool) (text : Text)
  /-- The place where the document breaks off. -/
  | broken (fault : Fault)
deriving DecidableEq, Repr

/-- A place where a key may have started. -/
structure KeyPlace where
  /-- The depth of flow collections. -/
  depth : Nat
  /-- The number of tokens before it. -/
  tokens : Nat
  /-- Whether nothing but a key can stand there. -/
  required : Bool
  index : Nat
  line : Nat
  column : Nat
deriving Repr

/-- A document that is being cut into tokens. -/
structure Lexing where
  cursor : Cursor
  /-- The tokens so far, the last one first. -/
  tokens : List Token
  /-- The column of the innermost block collection, -1 outside of any. -/
  indent : Int
  /-- The columns of the collections around it. -/
  outer : List Int
  /-- The number of open flow collections. -/
  depth : Nat
  /-- Whether a key may start at the cursor. -/
  keyAllowed : Bool
  keys : List KeyPlace
deriving Repr

namespace Lexing

def start (t : Text) : Lexing := ⟨.start t, [], -1, [], 0, true, []⟩

/-- Add a token of `n` characters. -/
def add (s : Lexing) (t : Token) (n : Nat) : Lexing :=
  { s with tokens := t :: s.tokens, cursor := s.cursor.skip n }

/-- Put tokens in after the first `count`. -/
def insertAt (s : Lexing) (count : Nat) (ts : List Token) : Lexing :=
  let after := s.tokens.length - count
  { s with tokens := s.tokens.take after ++ ts.reverse ++ s.tokens.drop after }

/-- Forget the place of a key on the current depth. A key that was required is missing. -/
def dropKey (s : Lexing) : Except Fault Lexing :=
  if s.keys.any fun k => k.depth = s.depth && k.required then .error .malformed
  else .ok { s with keys := s.keys.filter (·.depth ≠ s.depth) }

/-- Whether the place of a key is too far back. A key must end on its line and within 1024
characters. -/
def isStale (s : Lexing) (k : KeyPlace) : Bool :=
  k.line ≠ s.cursor.line || 1024 < s.cursor.index - k.index

/-- Forget the places of keys that are too far back. -/
def dropStale (s : Lexing) : Except Fault Lexing :=
  if s.keys.any fun k => s.isStale k && k.required then .error .malformed
  else .ok { s with keys := s.keys.filter (!s.isStale ·) }

/-- Remember the cursor as the place of a key, if one may start there. -/
def saveKey (s : Lexing) : Except Fault Lexing :=
  if s.keyAllowed then do
    let s ← s.dropKey
    let place : KeyPlace :=
      ⟨s.depth, s.tokens.length, s.depth = 0 && s.indent = s.cursor.column, s.cursor.index,
        s.cursor.line, s.cursor.column⟩
    return { s with keys := place :: s.keys }
  else .ok s

/-- The tokens that end the collections indented by more than `column`. -/
def unwindTo (column : Int) : (indent : Int) → (outer : List Int) → Nat × Int × List Int
  | indent, [] => (0, indent, [])
  | indent, i :: outer =>
    if column < indent then
      let (n, indent, outer) := unwindTo column i outer
      (n + 1, indent, outer)
    else (0, indent, i :: outer)

/-- End the block collections indented by more than `column`. -/
def unwind (s : Lexing) (column : Int) : Lexing :=
  if s.depth ≠ 0 then s
  else
    let (n, indent, outer) := unwindTo column s.indent s.outer
    { s with
      tokens := List.replicate n .blockEnd ++ s.tokens, indent := indent, outer := outer }

/-- Start a block collection at a column, unless one has started there. -/
def indentTo (s : Lexing) (column : Int) : Bool × Lexing :=
  if s.indent < column then (true, { s with indent := column, outer := s.indent :: s.outer })
  else (false, s)

/-- Skip spaces, comments and line ends. Outside of flow collections a key may start on a new
line. -/
def skipBlank : (fuel : Nat) → Lexing → Lexing
  | 0, s => s
  | fuel + 1, s =>
    let c := skipComment s.cursor
    if c.at? isBreak then
      skipBlank fuel { s with cursor := c.lineBreak.2, keyAllowed := s.keyAllowed || s.depth = 0 }
    else { s with cursor := c }

/-- The line that separates documents. -/
def addSeparator (s : Lexing) (t : Token) : Except Fault Lexing := do
  let s ← (s.unwind (-1)).dropKey
  return { s with keyAllowed := false }.add t 3

def addOpening (s : Lexing) (t : Token) : Except Fault Lexing := do
  let s ← s.saveKey
  return { s with depth := s.depth + 1, keyAllowed := true }.add t 1

def addClosing (s : Lexing) (t : Token) : Except Fault Lexing := do
  let s ← s.dropKey
  if s.depth = 0 then .error .malformed
  else return { s with depth := s.depth - 1, keyAllowed := false }.add t 1

def addComma (s : Lexing) : Except Fault Lexing := do
  let s ← s.dropKey
  return { s with keyAllowed := true }.add .comma 1

/-- Start a block collection at the cursor for an indicator that needs one. -/
def openBlock (s : Lexing) (t : Token) : Except Fault Lexing :=
  if s.depth ≠ 0 then .ok s
  else if !s.keyAllowed then .error .malformed
  else
    let (new, s) := s.indentTo s.cursor.column
    .ok (if new then s.add t 0 else s)

def addDash (s : Lexing) : Except Fault Lexing := do
  let s ← s.openBlock .sequenceStart
  let s ← s.dropKey
  return { s with keyAllowed := true }.add .dash 1

def addKey (s : Lexing) : Except Fault Lexing := do
  let s ← s.openBlock .mappingStart
  let s ← s.dropKey
  return { s with keyAllowed := s.depth = 0 }.add .key 1

/-- The colon before a value. If a key may have started before it, it did. -/
def addValue (s : Lexing) : Except Fault Lexing := do
  match s.keys.find? (·.depth = s.depth) with
  | some place =>
    let s := { s with keys := s.keys.filter (·.depth ≠ s.depth), keyAllowed := false }
    let (new, s) := if s.depth = 0 then s.indentTo place.column else (false, s)
    let opening := if new then [.mappingStart, .key] else [.key]
    return (s.insertAt place.tokens opening).add .value 1
  | none =>
    let s ← s.openBlock .mappingStart
    let s ← s.dropKey
    return { s with keyAllowed := s.depth = 0 }.add .value 1

def addDirective (s : Lexing) : Except Fault Lexing := do
  let s ← (s.unwind (-1)).dropKey
  let (d, c) ← readDirective s.cursor
  return { s with cursor := c, tokens := .directive d :: s.tokens, keyAllowed := false }

def addAnchor (s : Lexing) : Except Fault Lexing := do
  let s ← s.saveKey
  let (name, c) ← readName s.cursor
  return { s with cursor := c, tokens := .anchor name :: s.tokens, keyAllowed := false }

def addReference (s : Lexing) : Except Fault Lexing := do
  let s ← s.saveKey
  let (name, c) ← readName s.cursor
  return { s with cursor := c, tokens := .reference name :: s.tokens, keyAllowed := false }

def addTag (s : Lexing) : Except Fault Lexing := do
  let s ← s.saveKey
  let (handle, suffix, c) ← readTag s.cursor
  return { s with cursor := c, tokens := .tag handle suffix :: s.tokens, keyAllowed := false }

/-- A scalar between quotes. -/
def addQuoted (s : Lexing) (double : Bool) : Except Fault Lexing := do
  let s ← s.saveKey
  let (text, c) ← readQuoted double s.cursor
  return { s with
    cursor := c, tokens := .scalar false text :: s.tokens, keyAllowed := false }

def addBlock (s : Lexing) (folded : Bool) : Except Fault Lexing := do
  let s ← s.dropKey
  let (text, c) ← readBlock folded s.indent s.cursor
  return { s with
    cursor := c, tokens := .scalar false text :: s.tokens, keyAllowed := true }

def addPlain (s : Lexing) : Except Fault Lexing := do
  let s ← s.saveKey
  let (text, broken, c) := readPlain (s.depth ≠ 0) (s.indent + 1) s.cursor
  return { s with
    cursor := c, tokens := .scalar true text :: s.tokens, keyAllowed := broken }

/-- Whether a plain scalar can start with a character before `after`. -/
def startsPlain (inFlow : Bool) (ch : Char) (after : Option Char) : Bool :=
  let indicators : Text := "-?:,[]\x7b\x7d#&*!|>'\"%@`"
  !(endsWord (some ch) || indicators.contains ch) ||
    (!endsWord after && (ch == '-' || (!inFlow && (ch == '?' || ch == ':'))))

/-- Go to the next token, and end the collections that it does not belong to. -/
def settle (s : Lexing) : Except Fault Lexing := do
  let s ← (skipBlank (s.cursor.rest.length + 1) s).dropStale
  return s.unwind s.cursor.column

/-- The token that starts with the character at the cursor. -/
def token (s : Lexing) (ch : Char) : Except Fault Lexing :=
  let after := s.cursor.peek 1
  let inFlow := s.depth ≠ 0
  if s.cursor.column = 0 && ch = '%' then s.addDirective
  else if s.cursor.column = 0 && ch = '-' && s.cursor.separates then
    s.addSeparator .documentStart
  else if s.cursor.column = 0 && ch = '.' && s.cursor.separates then
    s.addSeparator .documentEnd
  else if ch = '[' then s.addOpening .flowSequenceStart
  else if ch = '{' then s.addOpening .flowMappingStart
  else if ch = ']' then s.addClosing .flowSequenceEnd
  else if ch = '}' then s.addClosing .flowMappingEnd
  else if ch = ',' then s.addComma
  else if ch = '-' && endsWord after then s.addDash
  else if ch = '?' && (inFlow || endsWord after) then s.addKey
  else if ch = ':' && (inFlow || endsWord after) then s.addValue
  else if ch = '*' then s.addReference
  else if ch = '&' then s.addAnchor
  else if ch = '!' then s.addTag
  else if ch = '|' && !inFlow then s.addBlock false
  else if ch = '>' && !inFlow then s.addBlock true
  else if ch = '\'' then s.addQuoted false
  else if ch = '"' then s.addQuoted true
  else if startsPlain inFlow ch after then s.addPlain
  else .error .malformed

/-- The tokens that are certain: no key can be put in before any of them. -/
def certain (s : Lexing) : List Token :=
  let places := (s.keys.filter (!s.isStale ·)).map (·.tokens)
  s.tokens.reverse.take (places.foldl min s.tokens.length)

/-- All tokens if the document ends here. -/
def finish (s : Lexing) : Except Fault (List Token) := do
  let s ← (s.unwind (-1)).dropKey
  return (Token.finish :: s.tokens).reverse

/-- All tokens, those from here on included. At a fault the certain ones are left. -/
def run : (fuel : Nat) → Lexing → List Token
  | 0, s => s.certain ++ [.broken .malformed]
  | fuel + 1, s =>
    let next : Except Fault (List Token ⊕ Lexing) := do
      let s ← s.settle
      match s.cursor.rest with
      | [] => return .inl (← s.finish)
      | ch :: _ => return .inr (← s.token ch)
    match next with
    | .error fault => s.certain ++ [.broken fault]
    | .ok (.inl tokens) => tokens
    | .ok (.inr s) => run fuel s

end Lexing

/-- A character that a document may hold. -/
def isAllowed (c : Char) : Bool :=
  let n := c.toNat
  c == '\t' || c == '\n' || c == '\r' || (0x20 ≤ n && n ≤ 0x7E) || n = 0x85 ||
    (0xA0 ≤ n && n ≤ 0xD7FF) || (0xE000 ≤ n && n ≤ 0xFFFD) || 0x10000 ≤ n

/-- The tokens of a document, after a byte order mark if there is one. -/
def Token.ofText (t : Text) : List Token :=
  if !t.all isAllowed then [.broken .malformed]
  else
    let s := Lexing.start t
    let s := if s.cursor.at? (· == '\uFEFF') then { s with cursor := s.cursor.next } else s
    s.run (t.length + 2)

end TripleQuote.Yaml
