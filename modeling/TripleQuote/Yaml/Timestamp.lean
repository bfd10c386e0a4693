import TripleQuote.Decimal.Reading
import TripleQuote.Value.Display
import TripleQuote.Yaml.Fault

/-! # Dates and times -/

namespace TripleQuote.Yaml

/-- A time of the day as it is written, and the difference to universal time in minutes. -/
structure ClockTime where
  hour : Nat
  minute : Nat
  second : Nat
  microsecond : Nat
  zone : Option Int
deriving DecidableEq, Repr

/-- A date as it is written, with or without a time. -/
structure Timestamp where
  year : Nat
  month : Nat
  day : Nat
  time : Option ClockTime
deriving DecidableEq, Repr

/-! ### Reading -/

/-- The number at the start of a text, of at least `least` and at most `most` digits. -/
def leadingNumber (least most : Nat) (t : Text) : Option (Nat × Text) :=
  let digits := (t.take most).takeWhile isDigit
  if digits.length < least then none
  else (readNat? 10 digits).map fun n => (n, t.drop digits.length)

/-- The text after a character. -/
def after? (c : Char) : Text → Option Text
  | d :: t => if d = c then some t else none
  | [] => none

/-- The difference to universal time that the end of a timestamp gives, if it gives one. -/
def readZone? (t : Text) : Option (Option Int) :=
  if t.isEmpty then some none
  else match t.dropWhile fun c => c == ' ' || c == '\t' with
    | ['Z'] => some (some 0)
    | sign :: t =>
      if sign = '+' || sign = '-' then do
        let (hours, t) ← leadingNumber 1 2 t
        let minutes ← if t.isEmpty then some 0 else do
          let (minutes, t) ← leadingNumber 2 2 (← after? ':' t)
          if t.isEmpty then some minutes else none
        let difference : Int := hours * 60 + minutes
        return some (if sign = '-' then -difference else difference)
      else none
    | [] => none

/-- The time of a timestamp. Of the places of a second six are kept. -/
def readTime? (t : Text) : Option ClockTime := do
  let (hour, t) ← leadingNumber 1 2 t
  let (minute, t) ← leadingNumber 2 2 (← after? ':' t)
  let (second, t) ← leadingNumber 2 2 (← after? ':' t)
  let (places, t) := match t with
    | '.' :: t => (t.takeWhile isDigit, t.dropWhile isDigit)
    | t => ([], t)
  let kept := places.take 6
  let microsecond ← readNat? 10 (kept ++ List.replicate (6 - kept.length) '0')
  let zone ← readZone? t
  return ⟨hour, minute, second, microsecond, zone⟩

/-- The timestamp that a text spells: a date, and after `T` or white space a time. -/
def readTimestamp? (t : Text) : Option Timestamp := do
  let (year, t) ← leadingNumber 4 4 t
  let (month, t) ← leadingNumber 1 2 (← after? '-' t)
  let (day, t) ← leadingNumber 1 2 (← after? '-' t)
  match t with
  | [] => return ⟨year, month, day, none⟩
  | c :: rest =>
    if c = 'T' || c = 't' then return ⟨year, month, day, some (← readTime? rest)⟩
    else if c = ' ' || c = '\t' then
      let rest := rest.dropWhile fun c => c == ' ' || c == '\t'
      return ⟨year, month, day, some (← readTime? rest)⟩
    else none

/-- Whether a plain scalar is a timestamp: without a time, month and day need two digits. -/
def isTimestamp (t : Text) : Bool :=
  (readTimestamp? t).any fun s => s.time.isSome || t.length = 10

/-! ### Checking -/

def daysOf (year month : Nat) : Nat :=
  if month = 2 then
    if year % 4 = 0 && (year % 100 ≠ 0 || year % 400 = 0) then 29 else 28
  else if month = 4 || month = 6 || month = 9 || month = 11 then 30
  else 31

/-- The date of a year, a month and a day, if there is one. -/
def checkDate (year month day : Nat) : Except Fault Date :=
  if year = 0 then .error (.year year)
  else if month = 0 || 12 < month then .error .month
  else if day = 0 || daysOf year month < day then .error .day
  else .ok ⟨year, month, day⟩

/-- A time zone, which is less than a day away from universal time. -/
def checkZone : Option Int → Except Fault (Option Int)
  | none => .ok none
  | some minutes =>
    if minutes.natAbs < 1440 then .ok (some minutes)
    else .error (.zone (differenceShown minutes))

/-- The value of a timestamp, if there is such a day and such a time. -/
def Timestamp.value (s : Timestamp) : Except Fault Value :=
  match s.time with
  | none => (checkDate s.year s.month s.day).map .date
  | some time => do
    let zone ← checkZone time.zone
    let date ← checkDate s.year s.month s.day
    if 23 < time.hour then .error .hour
    else if 59 < time.minute then .error .minute
    else if 59 < time.second then .error .second
    else .ok (.moment ⟨date, time.hour, time.minute, time.second, time.microsecond, zone⟩)

def readTimestamp (t : Text) : Except Fault Value :=
  ((readTimestamp? t).map Timestamp.value).getD (.error .notTimestamp)

end TripleQuote.Yaml
