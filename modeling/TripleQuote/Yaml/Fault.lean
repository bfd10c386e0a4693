import TripleQuote.Decimal.Limit
import TripleQuote.Text.Quoted

/-! # Faults of YAML documents -/

namespace TripleQuote.Yaml

inductive Fault where
  /-- It does not follow the rules of the format. -/
  | malformed
  /-- An escape gives a number that is no code point. -/
  | codePoint
  /-- An escape gives a number of more than 31 bits. -/
  | wideCodePoint
  /-- A text that is no whole number in the base. -/
  | notNatural (base : Nat) (text : Text)
  /-- A whole number of more digits than are read. -/
  | tooManyDigits (digits : Nat)
  /-- A text that is no decimal number. -/
  | notDecimal (text : Text)
  /-- A power of sixty that is no double. -/
  | tooLarge
  /-- A number without any character. -/
  | noNumber
  /-- A word that is no truth value. -/
  | notTruth (word : Text)
  /-- A text that is no date and no time. -/
  | notTimestamp
  | year (n : Nat)
  | month
  | day
  | hour
  | minute
  | second
  /-- A time zone a day or more away, by the text of the difference. -/
  | zone (difference : Text)
deriving DecidableEq, Repr

def Fault.message : Fault → Text
  | malformed => "malformed document"
  | codePoint => "chr() arg not in range(0x110000)"
  | wideCodePoint => "Python int too large to convert to C int"
  | notNatural base t =>
    "invalid literal for int() with base " ++ Text.ofNat base ++ ": " ++ t.quoted.take 200
  | tooManyDigits digits => limitMessage digits
  | notDecimal t => "could not convert string to float: " ++ t.quoted
  | tooLarge => "int too large to convert to float"
  | noNumber => "string index out of range"
  | notTruth word => word.quoted
  | notTimestamp => "'NoneType' object has no attribute 'groupdict'"
  | year n => "year " ++ Text.ofNat n ++ " is out of range"
  | month => "month must be in 1..12"
  | day => "day is out of range for month"
  | hour => "hour must be in 0..23"
  | minute => "minute must be in 0..59"
  | second => "second must be in 0..59"
  | zone difference =>
    "offset must be a timedelta strictly between -timedelta(hours=24) and timedelta(hours=24), not "
      ++ difference ++ "."

end TripleQuote.Yaml
