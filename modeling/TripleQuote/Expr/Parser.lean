import TripleQuote.Expr.Basic
import TripleQuote.Expr.Token

/-! # Reading expressions

An expression is one or more terms with `+` between them. A term is a name or a constant followed
by any number of properties and method calls. The parser takes one token at a time: each of its
states says what has been read and what may come next (`Parser.step`). -/

namespace TripleQuote

inductive SyntaxError.Cause where
  | unexpected (c : Char)
  | unterminated
  | noOperand (got : Token.Kind)
  | mismatch (wanted got : Token.Kind)
  | arguments
  /-- The tokens end without a `finish`, which no source's tokens do. -/
  | noTokens
deriving DecidableEq, Repr

def SyntaxError.Cause.message : SyntaxError.Cause → Text
  | unexpected c => "unexpected character " ++ Text.quoted [c]
  | unterminated => "unterminated string constant"
  | noOperand got => "expected identifier or string, got " ++ got.name
  | mismatch wanted got => "expected " ++ wanted.name ++ ", got " ++ got.name
  | arguments => "methods take no arguments"
  | noTokens => "no tokens left"

/-- A source that is no expression, with the position at which it goes wrong. -/
structure SyntaxError where
  cause : SyntaxError.Cause
  position : Nat
  source : Text
deriving DecidableEq, Repr

namespace Parser

/-- What has been read: the operands before the last `+`, and the parts of the current term. -/
inductive State where
  | operand (done : List Expr)
  /-- After a name, a constant or a call. -/
  | term (done : List Expr) (node : Expr)
  | member (done : List Expr) (target : Expr)
  /-- After the name of a property or method. -/
  | named (done : List Expr) (target : Expr) (name : Text)
  | arguments (done : List Expr) (target : Expr) (name : Text)

/-- The tree of the operands: a single one stands for itself. -/
def tree : List Expr → Expr
  | [e] => e
  | es => .concat es

/-- The state after a token, or the tree if the token ends the expression. -/
abbrev Next := Except SyntaxError.Cause (State ⊕ Expr)

/-- What may follow a complete term. -/
def afterTerm (done : List Expr) (node : Expr) (t : Token) : Next :=
  match t.kind with
  | .dot => .ok (.inl (.member done node))
  | .plus => .ok (.inl (.operand (done ++ [node])))
  | .finish => .ok (.inr (tree (done ++ [node])))
  | kind => .error (.mismatch .finish kind)

def step (s : State) (t : Token) : Next :=
  match s with
  | .operand done =>
    match t.kind with
    | .ident => .ok (.inl (.term done (.name t.value)))
    | .string => .ok (.inl (.term done (.text t.value)))
    | kind => .error (.noOperand kind)
  | .term done node => afterTerm done node t
  | .member done target =>
    match t.kind with
    | .ident => .ok (.inl (.named done target t.value))
    | kind => .error (.mismatch .ident kind)
  | .named done target n =>
    if t.kind = .openParen then .ok (.inl (.arguments done target n))
    else afterTerm done (.attr target n) t
  | .arguments done target n =>
    if t.kind = .closeParen then .ok (.inl (.term done (.call target n)))
    else .error .arguments

/-- Read tokens up to the one that ends the expression. A failure comes with the position of the
token that does not fit. -/
def run : State → List Token → Except (SyntaxError.Cause × Nat) Expr
  | _, [] => .error (.noTokens, 0)
  | s, t :: ts =>
    match step s t with
    | .error cause => .error (cause, t.position)
    | .ok (.inl next) => run next ts
    | .ok (.inr e) => .ok e

theorem run_cons (s : State) (t : Token) (ts : List Token) :
    run s (t :: ts) =
      match step s t with
      | .error cause => .error (cause, t.position)
      | .ok (.inl next) => run next ts
      | .ok (.inr e) => .ok e := rfl

end Parser

def TokenFault.cause : TokenFault → SyntaxError.Cause
  | .unexpected c => .unexpected c
  | .unterminated => .unterminated

/-- The expression that a source spells. -/
def Expr.parse (source : Text) : Except SyntaxError Expr :=
  match tokens source with
  | .error (fault, position) => .error ⟨fault.cause, position, source⟩
  | .ok ts =>
    match Parser.run (.operand []) ts with
    | .error (cause, position) => .error ⟨cause, position, source⟩
    | .ok e => .ok e

end TripleQuote
