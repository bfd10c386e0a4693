import TripleQuote.Decimal.Reading
import TripleQuote.Yaml.Cursor
import TripleQuote.Yaml.Fault

/-! # The text of scalars

A scalar is written plainly, between quotes, or as an indented block. Line ends inside it are
folded or kept, depending on how it is written. -/

namespace TripleQuote.Yaml

/-- The text of line ends of which all but the first are empty lines: a single line end is
folded into a space. -/
def fold (lineEnd breaks : Text) : Text :=
  if lineEnd ≠ ['\n'] then lineEnd ++ breaks
  else if breaks.isEmpty then [' ']
  else breaks

/-! ### Quoted scalars -/

/-- The empty lines at the cursor, as text. -/
def quotedBreaks : (fuel : Nat) → Cursor → Except Fault (Text × Cursor)
  | 0, _ => .error .malformed
  | fuel + 1, c =>
    if c.separates then .error .malformed
    else
      let c := c.skipWhile fun ch => ch == ' ' || ch == '\t'
      if c.at? isBreak then do
        let (lineEnd, c) := c.lineBreak
        let (more, c) ← quotedBreaks fuel c
        return (lineEnd ++ more, c)
      else .ok ([], c)

/-- The character that a letter after a backslash stands for. -/
def escapes : List (Char × Char) :=
  [('0', '\x00'), ('a', '\x07'), ('b', '\x08'), ('t', '\t'), ('\t', '\t'), ('n', '\n'),
   ('v', '\x0b'), ('f', '\x0c'), ('r', '\r'), ('e', '\x1b'), (' ', ' '), ('"', '"'),
   ('\\', '\\'), ('/', '/'), ('N', '\u0085'), ('_', '\u00a0'), ('L', '\u2028'), ('P', '\u2029')]

/-- The number of hexadecimal digits after a letter after a backslash. -/
def escapeDigits? : Char → Option Nat
  | 'x' => some 2
  | 'u' => some 4
  | 'U' => some 8
  | _ => none

/-- The text of an escape whose backslash has been read. -/
def readEscape (c : Cursor) : Except Fault (Text × Cursor) :=
  match c.rest with
  | [] => .error .malformed
  | ch :: _ =>
    match escapes.lookup ch, escapeDigits? ch with
    | some meant, _ => .ok ([meant], c.next)
    | none, some n =>
      let digits := c.next.rest.take n
      if digits.length < n then .error .malformed
      else match readNat? 16 digits with
        | none => .error .malformed
        | some code =>
          if code < 0x110000 then .ok ([Char.ofNat code], c.next.skip n)
          else if code < 0x80000000 then .error .codePoint
          else .error .wideCodePoint
    | none, none =>
      if isBreak ch then quotedBreaks (c.rest.length + 1) c.lineBreak.2 else .error .malformed

/-- White space inside quotes, as text. -/
def quotedSpaces (c : Cursor) : Except Fault (Text × Cursor) :=
  let (spaces, c) := c.span fun ch => ch == ' ' || ch == '\t'
  match c.rest with
  | [] => .error .malformed
  | ch :: _ =>
    if isBreak ch then do
      let (lineEnd, c) := c.lineBreak
      let (breaks, c) ← quotedBreaks (c.rest.length + 1) c
      return (fold lineEnd breaks, c)
    else .ok (spaces, c)

/-- The rest of a scalar between quotes. -/
def quotedRest (double : Bool) : (fuel : Nat) → Cursor → Except Fault (Text × Cursor)
  | 0, _ => .error .malformed
  | fuel + 1, c =>
    match c.rest with
    | [] => .error .malformed
    | '\'' :: '\'' :: _ =>
      if double then continueWith fuel ['\''] c.next
      else continueWith fuel ['\''] (c.skip 2)
    | ch :: _ =>
      if ch = (if double then '"' else '\'') then .ok ([], c.next)
      else if double && ch = '\\' then do
        let (t, c) ← readEscape c.next
        continueWith fuel t c
      else if ch = ' ' || ch = '\t' || isBreak ch then do
        let (t, c) ← quotedSpaces c
        continueWith fuel t c
      else continueWith fuel [ch] c.next
where
  continueWith (fuel : Nat) (t : Text) (c : Cursor) : Except Fault (Text × Cursor) := do
    let (more, c) ← quotedRest double fuel c
    return (t ++ more, c)

/-- A scalar between quotes, at its opening quote. -/
def readQuoted (double : Bool) (c : Cursor) : Except Fault (Text × Cursor) :=
  quotedRest double (c.rest.length + 1) c.next

/-! ### Plain scalars -/

/-- The empty lines and the indentation at the cursor, as text, unless a separator comes. -/
def plainBreaks : (fuel : Nat) → Cursor → Option Text × Cursor
  | 0, c => (some [], c)
  | fuel + 1, c =>
    let c := c.skipWhile (· == ' ')
    if c.at? isBreak then
      let (lineEnd, c) := c.lineBreak
      if c.separates then (none, c)
      else
        let (more, c) := plainBreaks fuel c
        (more.map (lineEnd ++ ·), c)
    else (some [], c)

/-- The white space after a part of a plain scalar, as text, and whether it holds a line end. It
is no text at all where a separator follows. -/
def plainSpaces (c : Cursor) : Text × Bool × Cursor :=
  let (spaces, c) := c.span (· == ' ')
  if c.at? isBreak then
    let (lineEnd, c) := c.lineBreak
    if c.separates then ([], true, c)
    else
      let (breaks, c) := plainBreaks (c.rest.length + 1) c
      (breaks.elim [] (fold lineEnd), true, c)
  else (spaces, false, c)

/-- The part of a plain scalar up to white space or an indicator. -/
def plainPart (inFlow : Bool) : Text → Text
  | [] => []
  | ch :: rest =>
    let after := rest.head?
    if endsWord (some ch) then []
    else if ch = ':' && (endsWord after ||
        (inFlow && after.any fun d => d == ',' || d == '[' || d == ']' || d == '{' || d == '}'))
      then []
    else if inFlow &&
        (ch == ',' || ch == '?' || ch == '[' || ch == ']' || ch == '{' || ch == '}')
      then []
    else ch :: plainPart inFlow rest

/-- A plain scalar, and whether its last part is followed by a line end, so that a key can start
there. `spaces` is the white space that would join the next part to it. -/
def plainRest (inFlow : Bool) (indent : Int) :
    (fuel : Nat) → (spaces : Text) → (broken : Bool) → Cursor → Text × Bool × Cursor
  | 0, _, broken, c => ([], broken, c)
  | fuel + 1, spaces, broken, c =>
    let part := if c.at? (· == '#') then [] else plainPart inFlow c.rest
    if part.isEmpty then ([], broken, c)
    else
      let (next, broken, c) := plainSpaces (c.skip part.length)
      if next.isEmpty || c.at? (· == '#') || (!inFlow && (c.column : Int) < indent) then
        (spaces ++ part, broken, c)
      else
        let (more, broken, c) := plainRest inFlow indent fuel next broken c
        (spaces ++ part ++ more, broken, c)

/-- A plain scalar whose lines are indented by at least `indent`. -/
def readPlain (inFlow : Bool) (indent : Int) (c : Cursor) : Text × Bool × Cursor :=
  plainRest inFlow indent (c.rest.length + 1) [] false c

/-! ### Block scalars -/

/-- What happens to the line ends at the end of a block. -/
inductive Chomping where
  | strip
  | clip
  | keep
deriving DecidableEq, Repr

/-- The marks after the indicator of a block: what happens at its end, and its indentation. -/
def blockMarks (c : Cursor) : Except Fault (Chomping × Option Nat × Cursor) := do
  let chomping (c : Cursor) : Option Chomping × Cursor :=
    match c.rest with
    | '+' :: _ => (some .keep, c.next)
    | '-' :: _ => (some .strip, c.next)
    | _ => (none, c)
  let increment (c : Cursor) : Except Fault (Option Nat × Cursor) :=
    match c.rest with
    | ch :: _ =>
      if ch = '0' then .error .malformed
      else if isDigit ch then .ok (digitValue? ch, c.next)
      else .ok (none, c)
    | [] => .ok (none, c)
  let (first, c) := chomping c
  let (indent, c) ← increment c
  let (second, c) := if first.isNone && indent.isSome then chomping c else (none, c)
  if c.at? fun ch => !(ch == ' ' || isBreak ch) then .error .malformed
  else .ok ((first <|> second).getD .clip, indent, c)

/-- The rest of a line that may only hold a comment. -/
def skipComment (c : Cursor) : Cursor :=
  let c := c.skipWhile (· == ' ')
  if c.at? (· == '#') then c.skipWhile (!isBreak ·) else c

/-- The empty lines at the start of a block, as text, and the column of its first line or of the
longest line before it. -/
def blockIndentation : (fuel : Nat) → (widest : Nat) → Cursor → Text × Nat × Cursor
  | 0, widest, c => ([], widest, c)
  | fuel + 1, widest, c =>
    let c := c.skipWhile (· == ' ')
    let widest := max widest c.column
    if c.at? isBreak then
      let (lineEnd, c) := c.lineBreak
      let (more, widest, c) := blockIndentation fuel widest c
      (lineEnd ++ more, widest, c)
    else ([], widest, c)

/-- The empty lines inside a block, as text, up to the indentation of the next line. -/
def blockBreaks (indent : Int) : (fuel : Nat) → Cursor → Text × Cursor
  | 0, c => ([], c)
  | fuel + 1, c =>
    let c := c.skipSpacesTo indent
    if c.at? isBreak then
      let (lineEnd, c) := c.lineBreak
      let (more, c) := blockBreaks indent fuel c
      (lineEnd ++ more, c)
    else ([], c)

/-- The lines of a block, from the one at the cursor on, after the empty lines `breaks`. The
result is the text up to the last line, its line end, and the empty lines after it. -/
def blockLines (folded : Bool) (indent : Int) :
    (fuel : Nat) → (lineEnd breaks : Text) → Cursor → Text × Text × Text × Cursor
  | 0, lineEnd, breaks, c => ([], lineEnd, breaks, c)
  | fuel + 1, lineEnd, breaks, c =>
    if (c.column : Int) = indent && !c.rest.isEmpty then
      let isSpace (ch : Char) : Bool := ch == ' ' || ch == '\t'
      let flush := !c.at? isSpace
      let (line, c) := c.span (!isBreak ·)
      let (lineEnd, c) := c.lineBreak
      let (after, c) := blockBreaks indent (c.rest.length + 1) c
      let goesOn := (c.column : Int) = indent && !c.rest.isEmpty
      let joint : Text :=
        if !goesOn then []
        else if folded && lineEnd = ['\n'] && flush && !c.at? isSpace then
          if after.isEmpty then [' '] else []
        else lineEnd
      let (more, lineEnd, last, c) := blockLines folded indent fuel lineEnd after c
      (breaks ++ line ++ joint ++ more, lineEnd, last, c)
    else ([], lineEnd, breaks, c)

/-- A block scalar, at its indicator, inside a collection with the given indentation. -/
def readBlock (folded : Bool) (outer : Int) (c : Cursor) : Except Fault (Text × Cursor) := do
  let (chomping, increment, c) ← blockMarks c.next
  let c := skipComment c
  if c.at? (!isBreak ·) then .error .malformed
  else
    let c := c.lineBreak.2
    let least := max 1 (outer + 1)
    let fuel := c.rest.length + 1
    let (breaks, indent, c) : Text × Int × Cursor := match increment with
      | none =>
        let (breaks, widest, c) := blockIndentation fuel 0 c
        (breaks, max least widest, c)
      | some n =>
        let indent := least + n - 1
        let (breaks, c) := blockBreaks indent fuel c
        (breaks, indent, c)
    let (text, lineEnd, last, c) := blockLines folded indent fuel [] breaks c
    let ending := match chomping with
      | .strip => []
      | .clip => lineEnd
      | .keep => lineEnd ++ last
    return (text ++ ending, c)

end TripleQuote.Yaml
