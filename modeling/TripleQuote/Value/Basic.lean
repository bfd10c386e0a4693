import TripleQuote.Decimal.Double
import TripleQuote.Text.Basic
import TripleQuote.Value.Ordered

/-! # Values

What a name can be bound to: the data of a YAML document, and a few kinds that only a caller can
supply. -/

namespace TripleQuote

/-- A day of the calendar. -/
structure Date where
  year : Nat
  month : Nat
  day : Nat
deriving DecidableEq, Repr

/-- A day and a time of the day, and how many minutes the clock is ahead of universal time, if
that is known. -/
structure Moment where
  date : Date
  hour : Nat
  minute : Nat
  second : Nat
  microsecond : Nat
  zone : Option Int
deriving DecidableEq, Repr

/-- A value. The keys of a map are values too, in the order in which they came in. -/
inductive Value where
  | null
  | bool (b : Bool)
  | text (t : Text)
  | int (n : Int)
  | float (x : Double)
  | list (items : List Value)
  | tuple (items : List Value)
  | map (entries : List (Value × Value))
  | bytes (bytes : List UInt8)
  | date (day : Date)
  | moment (time : Moment)
  /-- Some other object, of which only the text it is shown as is known. -/
  | object (shown : Text)
deriving Repr, Inhabited

namespace Value

/-- The whole number that an integer or a truth value stands for as a key. -/
def asInt? : Value → Option Int
  | int n => some n
  | bool b => some (if b then 1 else 0)
  | _ => none

/-- Numbers are the same key if they are equal, whatever their kind: `1`, `1.0` and `true` are
one key. -/
def sameNumber (a b : Value) : Bool :=
  match a.asInt?, b.asInt?, a, b with
  | some m, some n, _, _ => m == n
  | some m, none, _, float y => y.isInt m
  | none, some n, float x, _ => x.isInt n
  | none, none, float x, float y => x.sameNumber y
  | _, _, _, _ => false

mutual
/-- Whether two values are the same key of a map. -/
def sameKey : Value → Value → Bool
  | null, null => true
  | text s, text t => s == t
  | bytes a, bytes b => a == b
  | date a, date b => a == b
  | moment a, moment b => a == b
  | tuple xs, tuple ys => sameKeys xs ys
  | a, b => sameNumber a b

/-- Whether two lists hold the same keys, item by item. -/
def sameKeys : List Value → List Value → Bool
  | [], [] => true
  | x :: xs, y :: ys => sameKey x y && sameKeys xs ys
  | _, _ => false
end

mutual
/-- The kind of the first list or map in a value, which therefore can be no key. -/
def notKey? : Value → Option Text
  | list _ => some "list"
  | map _ => some "dict"
  | tuple items => firstNotKey? items
  | _ => none

def firstNotKey? : List Value → Option Text
  | [] => none
  | item :: items => notKey? item <|> firstNotKey? items
end

/-- The map of a list of entries in which keys may come more than once. -/
def ofEntries (entries : List (Value × Value)) : Value := map (Ordered.ofList sameKey entries)

/-- The value under a text key. -/
def entry? (name : Text) (entries : List (Value × Value)) : Option Value :=
  Ordered.get? sameKey (text name) entries

end Value

end TripleQuote
