import TripleQuote.Decimal.Reading
import TripleQuote.Json

/-! # Reading JSON

What a JSON document says, for every document: the writer needs whole numbers and strings only, a
reader knows all of JSON. A state of the reader and a character give the tokens that the character
completes (`Reader.step`), and the parser takes them one by one (`Parser.step`). -/

namespace TripleQuote.Json

/-- What a document says. A number is its mantissa times ten to the exponent. -/
inductive Value where
  | null
  | bool (b : Bool)
  | number (mantissa exponent : Int)
  | string (t : Text)
  | array (items : List Value)
  | object (fields : List (Text × Value))
deriving Repr, Inhabited

inductive Token where
  | openArray
  | closeArray
  | openObject
  | closeObject
  | comma
  | colon
  /-- A value that is no array and no object. -/
  | scalar (v : Value)
deriving Repr

/-! ## Characters -/

def isSpace (c : Char) : Bool := c == ' ' || c == '\n' || c == '\r' || c == '\t'

/-- The token of one character. -/
def mark? (c : Char) : Option Token :=
  if c = '[' then some .openArray
  else if c = ']' then some .closeArray
  else if c = '{' then some .openObject
  else if c = '}' then some .closeObject
  else if c = ',' then some .comma
  else if c = ':' then some .colon
  else none

/-- A character of a literal or a number: any that does not end them. -/
def isWordChar (c : Char) : Bool := !isSpace c && (mark? c).isNone && c != '"'

/-- The first half of a surrogate pair. -/
def isHigh (n : Nat) : Bool := 0xD800 ≤ n && n < 0xDC00

/-- The second half of a surrogate pair. -/
def isLow (n : Nat) : Bool := 0xDC00 ≤ n && n < 0xE000

/-- The characters with the given codes, two halves being one character. `high?` is the half that
stands before the codes. -/
def charactersFrom : (high? : Option Nat) → List Nat → Option Text
  | none, [] => some []
  | some _, [] => none
  | none, n :: rest =>
    if isHigh n then charactersFrom (some n) rest
    else if isLow n then none
    else (charactersFrom none rest).map (Char.ofNat n :: ·)
  | some high, n :: rest =>
    if isLow n then
      (charactersFrom none rest).map
        (Char.ofNat (0x10000 + (high - 0xD800) * 0x400 + (n - 0xDC00)) :: ·)
    else none

def characters (codes : List Nat) : Option Text := charactersFrom none codes

/-- The code that a backslash and a character other than `u` stand for. -/
def unescape? (c : Char) : Option Nat :=
  if c = '"' || c = '\\' || c = '/' then some c.toNat
  else if c = 'b' then some 0x08
  else if c = 'f' then some 0x0c
  else if c = 'n' then some 0x0a
  else if c = 'r' then some 0x0d
  else if c = 't' then some 0x09
  else none

/-! ## Numbers and literals -/

/-- The digits after a point, if there is one, and the text after them. -/
def readPlaces? : Text → Option (Text × Text)
  | '.' :: t =>
    if t.takeWhile isDigit = [] then none else some (t.takeWhile isDigit, t.dropWhile isDigit)
  | t => some ([], t)

def readExponent? : Text → Option Int
  | [] => some 0
  | c :: t => if c = 'e' || c = 'E' then readInt? t else none

/-- The mantissa and the exponent of a number without a sign. A number starts with a zero only if
the zero is all there is before the point. -/
def readMagnitude? (t : Text) : Option (Nat × Int) := do
  let whole := t.takeWhile isDigit
  let (places, rest) ← readPlaces? (t.dropWhile isDigit)
  let exponent ← readExponent? rest
  let mantissa ← readNat? 10 (whole ++ places)
  if whole = [] || whole.head? = some '0' && whole.length != 1 then none
  else some (mantissa, exponent - places.length)

def readNumber? : Text → Option Value
  | '-' :: t => (readMagnitude? t).map fun (mantissa, exponent) => .number (-mantissa) exponent
  | t => (readMagnitude? t).map fun (mantissa, exponent) => .number mantissa exponent

/-- The value of a word. -/
def readWord? (t : Text) : Option Value :=
  if t = "null".toList then some .null
  else if t = "true".toList then some (.bool true)
  else if t = "false".toList then some (.bool false)
  else readNumber? t

/-! ## Tokens -/

namespace Reader

/-- What the reader is in the middle of. What is not complete is kept in reverse; of a string it is
the codes of the characters. -/
inductive State where
  | between
  | word (read : Text)
  | string (read : List Nat)
  /-- After a backslash in a string. -/
  | escape (read : List Nat)
  /-- After a backslash and `u` in a string, with the digits so far. -/
  | code (read : List Nat) (digits : Text)

/-- The tokens that a character gives between tokens, and the state after it. -/
def begin (c : Char) : List Token × State :=
  if isSpace c then ([], .between)
  else match mark? c with
    | some t => ([t], .between)
    | none => if c = '"' then ([], .string []) else ([], .word [c])

/-- The tokens that a character completes, and the state after it. -/
def step : State → Char → Option (List Token × State)
  | .between, c => some (begin c)
  | .word read, c =>
    if isWordChar c then some ([], .word (c :: read))
    else (readWord? read.reverse).map fun v => (.scalar v :: (begin c).1, (begin c).2)
  | .string read, c =>
    if c = '"' then (characters read.reverse).map fun t => ([.scalar (.string t)], .between)
    else if c = '\\' then some ([], .escape read)
    else if c.toNat < 0x20 then none
    else some ([], .string (c.toNat :: read))
  | .escape read, c =>
    if c = 'u' then some ([], .code read [])
    else (unescape? c).map fun n => ([], .string (n :: read))
  | .code read digits, c =>
    if digits.length < 3 then some ([], .code read (digits ++ [c]))
    else (readNat? 16 (digits ++ [c])).map fun n => ([], .string (n :: read))

/-- The tokens that the end of the text completes. -/
def finish : State → Option (List Token)
  | .between => some []
  | .word read => (readWord? read.reverse).map fun v => [.scalar v]
  | .string _ | .escape _ | .code _ _ => none

end Reader

/-! ## Values -/

namespace Parser

/-- An array or an object that is being read: what it holds before the value that is read now. -/
inductive Frame where
  | array (items : List Value)
  | object (fields : List (Text × Value)) (name : Text)

/-- What the parser expects next, inside of the frames, the innermost first. -/
inductive State where
  /-- A value, or the end of an array that has no items. -/
  | value (first : Bool) (stack : List Frame)
  /-- A name, or the end of an object that has no fields. -/
  | name (first : Bool) (fields : List (Text × Value)) (stack : List Frame)
  /-- A colon, after a name. -/
  | colon (fields : List (Text × Value)) (name : Text) (stack : List Frame)
  /-- A comma or an end, after a value. -/
  | done (v : Value) (stack : List Frame)

def step : State → Token → Option State
  | .value _ stack, .scalar v => some (.done v stack)
  | .value _ stack, .openArray => some (.value true (.array [] :: stack))
  | .value _ stack, .openObject => some (.name true [] stack)
  | .value true (.array [] :: stack), .closeArray => some (.done (.array []) stack)
  | .name _ fields stack, .scalar (.string name) => some (.colon fields name stack)
  | .name true [] stack, .closeObject => some (.done (.object []) stack)
  | .colon fields name stack, .colon => some (.value false (.object fields name :: stack))
  | .done v (.array items :: stack), .comma => some (.value false (.array (items ++ [v]) :: stack))
  | .done v (.array items :: stack), .closeArray => some (.done (.array (items ++ [v])) stack)
  | .done v (.object fields name :: stack), .comma =>
    some (.name false (fields ++ [(name, v)]) stack)
  | .done v (.object fields name :: stack), .closeObject =>
    some (.done (.object (fields ++ [(name, v)])) stack)
  | _, _ => none

/-- The value of a document that ends. -/
def finish : State → Option Value
  | .done v [] => some v
  | _ => none

end Parser

/-! ## Documents -/

/-- The value of a document whose rest is read by the reader and the parser in the given states. -/
def readFrom (r : Reader.State) (p : Parser.State) : Text → Option Value
  | [] => do
    let tokens ← Reader.finish r
    let last ← tokens.foldlM Parser.step p
    Parser.finish last
  | c :: rest => do
    let (tokens, r) ← Reader.step r c
    let p ← tokens.foldlM Parser.step p
    readFrom r p rest

/-- What a text says, if it is a document. -/
def read (t : Text) : Option Value := readFrom .between (.value false []) t

/-- Numbers, escapes and literals that the writer never uses are read too. -/
example : read "[-2.50e+3, \"\\ud83d\\ude00\", null]" =
    some (.array [.number (-250) 1, .string ['😀'], .null]) := rfl

/-- What is almost a document is none. -/
example : read "[1,]" = none := rfl

end TripleQuote.Json
