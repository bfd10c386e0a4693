import TripleQuote.Text.Basic

/-! # Escape sequences of terminals

A program that does not print to a terminal leaves out the sequences that would set colours and
move the cursor: an escape character and an opening bracket, any digits, semicolons and question
marks, and a letter. -/

namespace TripleQuote

/-- A letter, which ends an escape sequence. -/
def endsEscape (c : Char) : Bool := ('a' ≤ c && c ≤ 'z') || ('A' ≤ c && c ≤ 'Z')

/-- A character inside an escape sequence. -/
def isEscapeParameter (c : Char) : Bool := ('0' ≤ c && c ≤ '9') || c == ';' || c == '?'

/-- The number of characters of an escape sequence after its escape character. -/
def escapeLength? : Text → Option Nat
  | '[' :: t =>
    match t.dropWhile isEscapeParameter with
    | c :: _ =>
      if endsEscape c then some ((t.takeWhile isEscapeParameter).length + 2) else none
    | [] => none
  | _ => none

/-- The text after `skip` more characters, without its escape sequences. -/
def stripEscapesFrom : (skip : Nat) → Text → Text
  | _, [] => []
  | skip + 1, _ :: rest => stripEscapesFrom skip rest
  | 0, c :: rest =>
    match if c = '\x1b' then escapeLength? rest else none with
    | some n => stripEscapesFrom n rest
    | none => c :: stripEscapesFrom 0 rest

/-- The text without its escape sequences. -/
def Text.stripEscapes (t : Text) : Text := stripEscapesFrom 0 t

end TripleQuote
