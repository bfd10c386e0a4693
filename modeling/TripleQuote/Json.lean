import TripleQuote.Text.Basic
import TripleQuote.Template.Segment

/-! # JSON

Documents of whole numbers, strings, arrays and objects, and their text with an indentation of
two spaces. Of the characters in a string, only the quote, the backslash and the controls below
U+0020 are escaped. -/

namespace TripleQuote

inductive Json where
  | number (n : Nat)
  | string (t : Text)
  | array (items : List Json)
  | object (fields : List (Text × Json))
deriving Repr, Inhabited

namespace Json

/-- A character inside a JSON string. -/
def escape (c : Char) : Text :=
  if c = '"' || c = '\\' then ['\\', c]
  else if 0x20 ≤ c.toNat then [c]
  else if c = '\x08' then ['\\', 'b']
  else if c = '\x0c' then ['\\', 'f']
  else if c = '\n' then ['\\', 'n']
  else if c = '\r' then ['\\', 'r']
  else if c = '\t' then ['\\', 't']
  else '\\' :: 'u' :: Text.hex 4 c.toNat

def quoted (t : Text) : Text := '"' :: t.flatMap escape ++ ['"']

/-- A new line at a depth of nesting. -/
def newLine (depth : Nat) : Text := '\n' :: List.replicate (2 * depth) ' '

/-- The items between brackets, each on a line of its own. -/
def bracketed (opening closing : Char) (depth : Nat) (items : List Text) : Text :=
  if items.isEmpty then [opening, closing]
  else
    opening :: newLine (depth + 1) ++ Text.join (',' :: newLine (depth + 1)) items
      ++ newLine depth ++ [closing]

mutual
/-- The text of a document at a depth of nesting. -/
def pretty (depth : Nat) : Json → Text
  | number n => Text.ofNat n
  | string t => quoted t
  | array items => bracketed '[' ']' depth (prettyItems (depth + 1) items)
  | object fields => bracketed '{' '}' depth (prettyFields (depth + 1) fields)

def prettyItems (depth : Nat) : List Json → List Text
  | [] => []
  | item :: items => pretty depth item :: prettyItems depth items

def prettyFields (depth : Nat) : List (Text × Json) → List Text
  | [] => []
  | (name, value) :: fields =>
    (quoted name ++ ": " ++ pretty depth value) :: prettyFields depth fields
end

def text (j : Json) : Text := pretty 0 j

end Json

def Segment.toJson : Segment → Json
  | .literal offset text =>
    .object [("kind", .string "literal"), ("offset", .number offset), ("text", .string text)]
  | .interpolation offset source =>
    .object
      [("kind", .string "interpolation"), ("offset", .number offset), ("source", .string source)]

end TripleQuote
