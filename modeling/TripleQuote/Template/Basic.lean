import TripleQuote.Config
import TripleQuote.Expr.Eval
import TripleQuote.Template.Lexer

/-! # Templates

A template is lexed once and can then be rendered any number of times. Rendering replaces each
interpolation by the text of its expression and stops at the first that has none. -/

namespace TripleQuote

structure Template where
  source : Text
  config : Config
  segments : List Segment
deriving Repr

/-- An expression of a template that has no value, with the offset of its source. -/
structure RenderError where
  error : EvalError
  offset : Nat
deriving DecidableEq, Repr

namespace Template

def ofSource (config : Config) (source : Text) : Except Malformed Template := do
  let segments ← lex config.quote source
  return ⟨source, config, segments⟩

/-- The names that the expressions read, in the order of their first use. -/
def identifiers (t : Template) : Except SyntaxError (List Text) := do
  let sources := t.segments.filterMap Segment.source?
  let names ← sources.mapM fun source => (Expr.parse source.trim).map Expr.roots
  return names.flatten.eraseDups

/-- The bindings of a render: the defaults, overridden by what the caller binds. -/
def scope (t : Template) (bindings : Bindings) : Bindings := t.config.vars.merge bindings

def renderSegment (methods : List Method) (env : Env) : Segment → Except RenderError Text
  | .literal _ text => .ok text
  | .interpolation offset source =>
    (Expr.evaluate methods env source).mapError fun e => ⟨e, offset⟩

/-- The texts of the segments one after the other. -/
def renderSegments (methods : List Method) (env : Env) :
    List Segment → Except RenderError Text
  | [] => .ok []
  | s :: rest => do
    let text ← renderSegment methods env s
    return text ++ (← renderSegments methods env rest)

def render (t : Template) (bindings : Bindings) : Except RenderError Text :=
  renderSegments t.config.methods (t.scope bindings).get? t.segments

/-- The expressions that a render evaluates, with their texts, up to the first that has none. -/
def evaluations (methods : List Method) (env : Env) : List Segment → List (Text × Text)
  | [] => []
  | .literal _ _ :: rest => evaluations methods env rest
  | .interpolation _ source :: rest =>
    match Expr.evaluate methods env source with
    | .ok text => (source, text) :: evaluations methods env rest
    | .error _ => []

def shown (t : Template) : Text := "Template(" ++ t.source.quoted ++ ")"

end Template

end TripleQuote
