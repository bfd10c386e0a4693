import TripleQuote.Decimal.Reading
import TripleQuote.Text.Blank
import TripleQuote.Text.Case
import TripleQuote.Yaml.Fault

/-! # Numbers

Which texts spell a number (`isInteger`, `isFloat`), and which number they spell (`readInteger`,
`readFloat`). A tag can ask for the number of a text that spells none, so that reading can
fail. -/

namespace TripleQuote.Yaml

/-- A text of at least one character, all of a class or underscores. -/
def spelledBy (p : Char → Bool) (t : Text) : Bool :=
  !t.isEmpty && t.all fun c => p c || c == '_'

/-- A decimal digit first, then digits and underscores. -/
def isDigits (t : Text) : Bool := t.head?.any isDigit && t.all fun c => isDigit c || c == '_'

/-- The parts between colons. -/
def colonParts : Text → List Text
  | [] => [[]]
  | c :: rest =>
    if c = ':' then [] :: colonParts rest
    else match colonParts rest with
      | [] => [[c]]
      | part :: parts => (c :: part) :: parts

/-- A number below sixty in one or two digits. -/
def isSixtieth (t : Text) : Bool :=
  match t with
  | [a] => isDigit a
  | [a, b] => '0' ≤ a && a ≤ '5' && isDigit b
  | _ => false

/-- A text without underscores. -/
def squeeze (t : Text) : Text := t.filter (· != '_')

/-! ### Whole numbers -/

/-- Whether a text spells a whole number without a sign. -/
def isNatural (t : Text) : Bool :=
  match t with
  | '0' :: 'b' :: digits => spelledBy (fun c => c == '0' || c == '1') digits
  | '0' :: 'x' :: digits => spelledBy (fun c => (digitValue? c).isSome) digits
  | '0' :: digits => digits.all fun c => ('0' ≤ c && c ≤ '7') || c == '_'
  | t =>
    isDigits t ||
      match colonParts t with
      | first :: second :: parts => isDigits first && (second :: parts).all isSixtieth
      | _ => false

def isInteger (t : Text) : Bool := isNatural (readSign t).2

/-- A text without the letter of its base, which a zero comes before. -/
def dropBase (base : Nat) (t : Text) : Text :=
  let letter : Option Char :=
    if base = 2 then some 'b' else if base = 8 then some 'o' else if base = 16 then some 'x' else none
  match t with
  | '0' :: c :: rest => if some c.toLower = letter then rest else t
  | t => t

/-- The whole number that digits of a base spell, with a sign and with white space around them. -/
def readDigits (base : Nat) (t : Text) : Except Fault Int :=
  let (negative, digits) := readSign t.trim
  let digits := dropBase base digits
  let count := (digits.takeWhile isDigit).length
  if base = 10 && digitLimit < count then .error (.tooManyDigits count)
  else match readNat? base digits with
    | some n => .ok (if negative then -(n : Int) else n)
    | none => .error (.notNatural base t)

/-- The number that digits in base sixty make. -/
def ofSixties (parts : List Int) : Int := parts.foldl (fun n part => n * 60 + part) 0

/-- The whole number without a sign that a text spells. The start of the text gives the base;
between colons stand the digits of base sixty. -/
def readNatural (t : Text) : Except Fault Int :=
  match t with
  | [] => .error .noNumber
  | ['0'] => .ok 0
  | '0' :: 'b' :: digits => readDigits 2 digits
  | '0' :: 'x' :: digits => readDigits 16 digits
  | '0' :: _ => readDigits 8 t
  | t =>
    if t.contains ':' then ((colonParts t).mapM (readDigits 10)).map ofSixties
    else readDigits 10 t

def readInteger (t : Text) : Except Fault Int :=
  let (negative, digits) := readSign (squeeze t)
  (readNatural digits).map fun n => if negative then -n else n

/-! ### Decimal numbers -/

/-- An exponent with its sign, or nothing. -/
def isExponent : Text → Bool
  | [] => true
  | e :: sign :: digits =>
    (e == 'e' || e == 'E') && (sign == '+' || sign == '-') && !digits.isEmpty &&
      digits.all isDigit
  | _ => false

/-- Whether a text is a decimal number with a point. -/
def isDecimal (t : Text) : Bool :=
  let isPlace (c : Char) : Bool := isDigit c || c == '_'
  match t with
  | '.' :: places => isDigits (places.takeWhile isPlace) && isExponent (places.dropWhile isPlace)
  | t =>
    isDigits (t.takeWhile isPlace) &&
      match t.dropWhile isPlace with
      | '.' :: places => isExponent (places.dropWhile isPlace)
      | _ => false

/-- Whether a text is a number in base sixty with a point. -/
def isSixties (t : Text) : Bool :=
  match (colonParts t).reverse with
  | last :: middle :: parts =>
    let front := (middle :: parts).reverse
    let places := last.dropWhile (· != '.')
    isDigits (front.headD []) && front.tail.all isSixtieth &&
      isSixtieth (last.takeWhile (· != '.')) && !places.isEmpty &&
      places.tail.all fun c => isDigit c || c == '_'
  | _ => false

/-- Whether a text spells a decimal number. A number that starts with its point has no sign, and
neither has NaN. -/
def isFloat (t : Text) : Bool :=
  let digits := (readSign t).2
  let infinities : List Text := [".inf", ".Inf", ".INF"]
  let nans : List Text := [".nan", ".NaN", ".NAN"]
  infinities.contains digits || nans.contains t ||
    (isDecimal digits && (digits = t || digits.head? != some '.')) || isSixties digits

/-- The double that a text spells in base ten, with a sign and with white space around it. -/
def readPlaces (t : Text) : Except Fault Double :=
  let (negative, digits) := readSign t.trim
  let x? := if digits = "infinity".toList then some (.infinity negative) else readDouble? t.trim
  (x?.map .ok).getD (.error (.notDecimal t))

/-- The sum of the parts of a number in base sixty, from the last to the first. Every part is
rounded, multiplied by its power of sixty and added. -/
def sumSixties (power : Nat) (sum : Double) : List Double → Except Fault Double
  | [] => .ok sum
  | part :: parts =>
    if Double.ofNat power = .infinity false then .error .tooLarge
    else sumSixties (power * 60) (sum.addMagnitude (part.scale power)) parts

/-- The decimal number without a sign that a text in lower case spells. -/
def readUnsigned (t : Text) : Except Fault Double :=
  if t.isEmpty then .error .noNumber
  else if t = ".inf".toList then .ok (.infinity false)
  else if t = ".nan".toList then .ok .nan
  else if t.contains ':' then do
    let parts ← (colonParts t).mapM readPlaces
    sumSixties 1 (.ofNat 0) parts.reverse
  else readPlaces t

def readFloat (t : Text) : Except Fault Double :=
  let (negative, digits) := readSign (squeeze t).toLower
  (readUnsigned digits).map fun x => if negative then x.neg else x

end TripleQuote.Yaml
