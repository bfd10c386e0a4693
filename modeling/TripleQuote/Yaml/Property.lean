import TripleQuote.Text.Utf8
import TripleQuote.Yaml.Scalar

/-! # Anchors, tags and directives

The marks of a YAML document that are no content themselves: an anchor names a node, an alias
stands for a named node, a tag gives the type of a node, and directives come before a
document. -/

namespace TripleQuote.Yaml

/-- A letter, a digit, a dash or an underscore. -/
def isWordChar (c : Char) : Bool :=
  isDigit c || ('A' ≤ c && c ≤ 'Z') || ('a' ≤ c && c ≤ 'z') || c == '-' || c == '_'

def isTagChar (c : Char) : Bool :=
  let others : Text := ";/?:@&=+$,.!~*'()[]%"
  isWordChar c || others.contains c

/-- A space, a line end or the end of the text. -/
def endsMark : Option Char → Bool
  | none => true
  | some c => c == ' ' || isBreak c

/-- The name of an anchor or alias, at its indicator. -/
def readName (c : Cursor) : Except Fault (Text × Cursor) :=
  let (name, c) := c.next.span isWordChar
  let indicators : Text := "?:,]\x7d%@`"
  let ends := endsWord c.rest.head? || c.at? fun ch => indicators.contains ch
  if name.isEmpty || !ends then .error .malformed else .ok (name, c)

/-! ### Tags -/

/-- The bytes of a run of escapes, each of which is a percent sign and two hexadecimal digits. -/
def escapedBytes : Text → Option (List UInt8 × Text)
  | '%' :: a :: b :: rest => do
    let byte ← readNat? 16 [a, b]
    let (bytes, rest) ← escapedBytes rest
    return (UInt8.ofNat byte :: bytes, rest)
  | '%' :: _ => none
  | t => some ([], t)

/-- The characters of a tag with its escapes resolved. -/
def resolveEscapes : (fuel : Nat) → Text → Option Text
  | 0, _ => none
  | _ + 1, [] => some []
  | fuel + 1, '%' :: t => do
    let (bytes, rest) ← escapedBytes ('%' :: t)
    let text ← (Utf8.decode bytes).toOption
    return text ++ (← resolveEscapes fuel rest)
  | fuel + 1, ch :: t => (resolveEscapes fuel t).map (ch :: ·)

def readTagText (c : Cursor) : Except Fault (Text × Cursor) :=
  let (t, c) := c.span isTagChar
  match resolveEscapes (t.length + 1) t with
  | some text => if text.isEmpty then .error .malformed else .ok (text, c)
  | none => .error .malformed

/-- The handle of a tag: an exclamation mark, or a word between two. -/
def readHandle (c : Cursor) : Except Fault (Text × Cursor) :=
  match c.rest with
  | '!' :: ' ' :: _ => .ok (['!'], c.next)
  | '!' :: _ =>
    let (word, c) := c.next.span isWordChar
    if c.at? (· == '!') then .ok ('!' :: word ++ ['!'], c.next) else .error .malformed
  | _ => .error .malformed

/-- The handle and the rest of a tag, at its exclamation mark. A tag that is given in full has no
handle, and an exclamation mark of its own is a full tag too. -/
def readTag (c : Cursor) : Except Fault (Option Text × Text × Cursor) := do
  let (handle, suffix, c) ←
    if c.peek 1 = some '<' then do
      let (tag, c) ← readTagText (c.skip 2)
      if c.at? (· == '>') then .ok (none, tag, c.next) else .error .malformed
    else if endsWord (c.peek 1) then .ok (none, ['!'], c.next)
    else if (c.rest.tail.takeWhile fun ch => !endsMark (some ch)).contains '!' then do
      let (handle, c) ← readHandle c
      let (suffix, c) ← readTagText c
      .ok (some handle, suffix, c)
    else do
      let (suffix, c) ← readTagText c.next
      .ok (some ['!'], suffix, c)
  if endsMark c.rest.head? then .ok (handle, suffix, c) else .error .malformed

/-! ### Directives -/

inductive Directive where
  /-- The version of the format, of which only the first number matters. -/
  | version (major : Nat)
  /-- The text that a handle stands for. -/
  | handle (handle expansion : Text)
  | unknown
deriving DecidableEq, Repr

/-- A number in decimal digits. -/
def readVersionPart (c : Cursor) : Except Fault (Nat × Cursor) :=
  let (digits, c) := c.span isDigit
  match readNat? 10 digits with
  | some n => .ok (n, c)
  | none => .error .malformed

/-- What follows the name of a directive. -/
def readDirectiveValue (name : Text) (c : Cursor) : Except Fault (Directive × Cursor) := do
  let spaces (c : Cursor) : Cursor := c.skipWhile (· == ' ')
  if name = "YAML".toList then
    let (major, c) ← readVersionPart (spaces c)
    if !c.at? (· == '.') then .error .malformed
    let (_, c) ← readVersionPart c.next
    if endsMark c.rest.head? then return (.version major, c) else .error .malformed
  else if name = "TAG".toList then
    let (handle, c) ← readHandle (spaces c)
    if !c.at? (· == ' ') then .error .malformed
    let (expansion, c) ← readTagText (spaces c)
    if endsMark c.rest.head? then return (.handle handle expansion, c) else .error .malformed
  else return (.unknown, c.skipWhile (!isBreak ·))

/-- A directive, at its percent sign, with the rest of its line. -/
def readDirective (c : Cursor) : Except Fault (Directive × Cursor) := do
  let (name, c) := c.next.span isWordChar
  if name.isEmpty || !endsMark c.rest.head? then .error .malformed
  let (directive, c) ← readDirectiveValue name c
  let c := skipComment c
  if c.at? (!isBreak ·) then .error .malformed
  return (directive, c.lineBreak.2)

end TripleQuote.Yaml
