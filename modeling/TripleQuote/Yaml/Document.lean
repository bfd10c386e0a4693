import TripleQuote.Yaml.Content

/-! # Values of YAML documents -/

namespace TripleQuote.Yaml

/-- The value of the document in a text. A text without a document holds nothing. -/
def load (t : Text) : Except Fault Value := do
  match ← Node.ofTokens (Token.ofText t) with
  | none => return .null
  | some node =>
    match node.content.firstFault with
    | some fault => .error fault
    | none => return node.content.value

end TripleQuote.Yaml
