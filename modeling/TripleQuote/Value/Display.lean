import TripleQuote.Decimal.Layout
import TripleQuote.Decimal.Limit
import TripleQuote.Text.Quoted
import TripleQuote.Value.Basic

/-! # The text of values

`Value.shown` is how a value looks inside a container or a message, where texts are quoted;
`Value.plain` is how it looks in the output of a template. A value that holds a number with too
many digits has no text at all (`Value.writable`). -/

namespace TripleQuote

/-- A number with at least `width` digits. -/
def Text.padded (width n : Nat) : Text :=
  let digits := Text.ofNat n
  List.replicate (width - digits.length) '0' ++ digits

/-- Year, month and day with dashes, as in `2024-01-31`. -/
def Date.plain (d : Date) : Text :=
  Text.padded 4 d.year ++ "-" ++ Text.padded 2 d.month ++ "-" ++ Text.padded 2 d.day

/-- The date as a constructor call. -/
def Date.shown (d : Date) : Text :=
  "datetime.date(" ++ Text.join ", " [Text.ofNat d.year, Text.ofNat d.month, Text.ofNat d.day]
    ++ ")"

/-- The difference to universal time, as in `+05:30`. -/
def zoneText (minutes : Int) : Text :=
  (if minutes < 0 then '-' else '+') :: Text.padded 2 (minutes.natAbs / 60) ++ ":"
    ++ Text.padded 2 (minutes.natAbs % 60)

/-- Date and time with a space between them. Microseconds are left out if there are none. -/
def Moment.plain (m : Moment) : Text :=
  let micros : Text := if m.microsecond = 0 then [] else '.' :: Text.padded 6 m.microsecond
  m.date.plain ++ " " ++ Text.padded 2 m.hour ++ ":" ++ Text.padded 2 m.minute ++ ":"
    ++ Text.padded 2 m.second ++ micros ++ m.zone.elim [] zoneText

/-- A difference of minutes as a constructor call: whole days, and seconds that are not negative. -/
def differenceShown (minutes : Int) : Text :=
  let days := Int.fdiv minutes 1440
  let seconds := Int.fmod minutes 1440 * 60
  let part (name : Text) (n : Int) : List Text := if n = 0 then [] else [name ++ Text.ofInt n]
  "datetime.timedelta(" ++ Text.join ", " (part "days=" days ++ part "seconds=" seconds) ++ ")"

/-- A time zone, by its difference to universal time. -/
def zoneShown (minutes : Int) : Text :=
  if minutes = 0 then "datetime.timezone.utc"
  else "datetime.timezone(" ++ differenceShown minutes ++ ")"

/-- Date and time as a constructor call, without the zeros at its end. -/
def Moment.shown (m : Moment) : Text :=
  let last : List Nat :=
    if m.microsecond ≠ 0 then [m.second, m.microsecond]
    else if m.second ≠ 0 then [m.second]
    else []
  let numbers := [m.date.year, m.date.month, m.date.day, m.hour, m.minute] ++ last
  let zone := m.zone.elim [] fun minutes => ["tzinfo=" ++ zoneShown minutes]
  "datetime.datetime(" ++ Text.join ", " (numbers.map Text.ofNat ++ zone) ++ ")"

namespace Value

mutual
/-- The text of a value inside a container or a message. -/
def shown : Value → Text
  | null => "None"
  | bool b => if b then "True" else "False"
  | text t => t.quoted
  | int n => Text.ofInt n
  | float x => x.text
  | list items => '[' :: Text.join ", " (shownItems items) ++ [']']
  | tuple [item] => '(' :: shown item ++ [',', ')']
  | tuple items => '(' :: Text.join ", " (shownItems items) ++ [')']
  | map entries => '{' :: Text.join ", " (shownEntries entries) ++ ['}']
  | bytes b => quotedBytes b
  | date d => d.shown
  | moment m => m.shown
  | object t => t

def shownItems : List Value → List Text
  | [] => []
  | item :: items => shown item :: shownItems items

def shownEntries : List (Value × Value) → List Text
  | [] => []
  | (key, value) :: entries => (shown key ++ ": " ++ shown value) :: shownEntries entries
end

/-- The text of a value where a template prints it. -/
def plain : Value → Text
  | text t => t
  | null => "null"
  | bool b => if b then "true" else "false"
  | date d => d.plain
  | moment m => m.plain
  | v => v.shown

mutual
/-- Whether every number in the value can be written out. -/
def writable : Value → Bool
  | int n => isWritable n
  | list items => allWritable items
  | tuple items => allWritable items
  | map entries => entriesWritable entries
  | _ => true

def allWritable : List Value → Bool
  | [] => true
  | item :: items => writable item && allWritable items

def entriesWritable : List (Value × Value) → Bool
  | [] => true
  | (key, value) :: entries => writable key && writable value && entriesWritable entries
end

end Value

end TripleQuote
