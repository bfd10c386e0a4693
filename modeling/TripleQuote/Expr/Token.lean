import TripleQuote.Text.Blank
import TripleQuote.Text.Letter

/-! # Tokens of expressions

The tokens of an expression are read one character at a time: a state of the reader and a
character give the tokens that the character completes and the next state (`Reader.step`). A run
of the reader over `u ++ v` is therefore its run over `u` followed by its run over `v`. -/

namespace TripleQuote

/-- The kinds of tokens. `finish` stands for the end of the expression. -/
inductive Token.Kind where
  | ident
  | string
  | dot
  | plus
  | openParen
  | closeParen
  | finish
deriving DecidableEq, Repr

def Token.Kind.name : Token.Kind → Text
  | .ident => "ident"
  | .string => "string"
  | .dot => "."
  | .plus => "+"
  | .openParen => "("
  | .closeParen => ")"
  | .finish => "end of expression"

/-- A token with the position of its first character. The value of a constant is its text with
the escapes resolved. -/
structure Token where
  kind : Token.Kind
  value : Text
  position : Nat
deriving DecidableEq, Repr

/-- A character an identifier can start with. -/
def startsIdent (c : Char) : Bool := isLetter c || c == '_' || c == '$'

def isIdentChar (c : Char) : Bool := isAlphanumeric c || c == '_' || c == '$'

/-- The kind of a token of one character. -/
def punctuation? (c : Char) : Option Token.Kind :=
  if c = '.' then some .dot
  else if c = '+' then some .plus
  else if c = '(' then some .openParen
  else if c = ')' then some .closeParen
  else none

/-- The text that a backslash and a character stand for in a constant: a backslash before any
other character stands for itself. -/
def unescape (c : Char) : Text :=
  if c = '\\' || c = '\'' || c = '"' then [c]
  else if c = 'n' then ['\n']
  else if c = 't' then ['\t']
  else ['\\', c]

inductive TokenFault where
  | unexpected (c : Char)
  | unterminated
deriving DecidableEq, Repr

namespace Reader

/-- What the reader is in the middle of. Texts that are not complete are kept in reverse. -/
inductive State where
  | between
  | ident (start : Nat) (read : Text)
  | constant (quote : Char) (start : Nat) (read : Text)
  /-- After a backslash in a constant. -/
  | escape (quote : Char) (start : Nat) (read : Text)
deriving DecidableEq, Repr

/-- The tokens that a character gives between tokens, and the state after it. -/
def begin (pos : Nat) (c : Char) : Except (TokenFault × Nat) (List Token × State) :=
  if isBlank c then .ok ([], .between)
  else match punctuation? c with
    | some kind => .ok ([⟨kind, [c], pos⟩], .between)
    | none =>
      if startsIdent c then .ok ([], .ident pos [c])
      else if c = '\'' || c = '"' then .ok ([], .constant c pos [])
      else .error (.unexpected c, pos)

/-- The tokens that a character completes, and the state after it. -/
def step (s : State) (pos : Nat) (c : Char) :
    Except (TokenFault × Nat) (List Token × State) :=
  match s with
  | .between => begin pos c
  | .ident start read =>
    if isIdentChar c then .ok ([], .ident start (c :: read))
    else (begin pos c).map fun (tokens, next) => (⟨.ident, read.reverse, start⟩ :: tokens, next)
  | .constant q start read =>
    if c = q then .ok ([⟨.string, read.reverse, start⟩], .between)
    else if c = '\\' then .ok ([], .escape q start read)
    else .ok ([], .constant q start (c :: read))
  | .escape q start read => .ok ([], .constant q start ((unescape c).reverse ++ read))

/-- The tokens that the end of the text at `pos` completes. -/
def finish (s : State) (pos : Nat) : Except (TokenFault × Nat) (List Token) :=
  match s with
  | .between => .ok [⟨.finish, [], pos⟩]
  | .ident start read => .ok [⟨.ident, read.reverse, start⟩, ⟨.finish, [], pos⟩]
  | .constant _ start _ | .escape _ start _ => .error (.unterminated, start)

/-- The tokens of a text that starts at `pos`. -/
def run (s : State) (pos : Nat) : Text → Except (TokenFault × Nat) (List Token)
  | [] => finish s pos
  | c :: rest => do
    let (tokens, next) ← step s pos c
    return tokens ++ (← run next (pos + 1) rest)

end Reader

/-- The tokens of an expression, the end included. A failure comes with its position. -/
def tokens (source : Text) : Except (TokenFault × Nat) (List Token) :=
  Reader.run .between 0 source

end TripleQuote
