import TripleQuote.Text.Base64
import TripleQuote.Yaml.Number
import TripleQuote.Yaml.Timestamp

/-! # Tags

The tag of a node says of what type it is. A plain scalar that has none gets one by its
spelling: nothing, a truth value, a number, a date, or else a text. -/

namespace TripleQuote.Yaml

inductive Tag where
  | null
  | bool
  | int
  | float
  | binary
  | timestamp
  | text
  | sequence
  | mapping
  | set
  | pairs
  /-- The type of the key `<<`, whose value is merged into the mapping. -/
  | merge
  /-- The type of the sign `=`. -/
  | sign
  | unknown
deriving DecidableEq, Repr, Inhabited

/-- The spellings of nothing. -/
def nullWords : List Text := ["", "~", "null", "Null", "NULL"]

/-- A word in lower case, capitalized and in upper case. -/
def threeCases (word : String) : List Text :=
  [word.toList, word.capitalize.toList, word.toUpper.toList]

/-- The words for truth and falsehood. -/
def truthWords : List (String × Bool) :=
  [("yes", true), ("no", false), ("true", true), ("false", false), ("on", true), ("off", false)]

/-- The truth value of a word in any case. -/
def readTruth (t : Text) : Except Fault Bool :=
  match truthWords.find? (·.1.toList == t.toLower) with
  | some (_, b) => .ok b
  | none => .error (.notTruth t.toLower)

namespace Tag

/-- The type that a plain scalar has by its spelling. -/
def ofPlain (t : Text) : Tag :=
  if nullWords.contains t then null
  else if truthWords.any fun word => (threeCases word.1).contains t then bool
  else if isFloat t then float
  else if isInteger t then int
  else if isTimestamp t then timestamp
  else if t = ['<', '<'] then merge
  else if t = ['='] then sign
  else text

/-- The common start of the tags of the types above. -/
def common : Text := "tag:yaml.org,2002:"

/-- The types by the rest of their tags. -/
def names : List (Text × Tag) :=
  [("null", null), ("bool", bool), ("int", int), ("float", float), ("binary", binary),
   ("timestamp", timestamp), ("str", text), ("seq", sequence), ("map", mapping), ("set", set),
   ("omap", pairs), ("pairs", pairs), ("merge", merge), ("value", sign)]

/-- The type of a full tag. -/
def ofText (t : Text) : Tag :=
  if common.isPrefixOf t then (names.lookup (t.drop common.length)).getD unknown else unknown

def isScalar : Tag → Bool
  | null | bool | int | float | binary | timestamp | text => true
  | _ => false

/-- The value of a scalar of the type. -/
def read (tag : Tag) (t : Text) : Except Fault Value :=
  match tag with
  | null => .ok .null
  | bool => (readTruth t).map .bool
  | int => (readInteger t).map .int
  | float => (readFloat t).map .float
  | binary =>
    if t.any fun c => 0x7F < c.toNat then .error .malformed
    else ((Base64.decode t).map fun bytes => .ok (.bytes bytes)).getD (.error .malformed)
  | timestamp => readTimestamp t
  | text => .ok (.text t)
  | _ => .error .malformed

end Tag

end TripleQuote.Yaml
