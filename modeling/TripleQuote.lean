import TripleQuote.Files.Tree
import TripleQuote.Main
import TripleQuote.Expr.Descent
import TripleQuote.Template.Scanner
import TripleQuote.Proofs.Template.Content
import TripleQuote.Proofs.Template.Decomposition
import TripleQuote.Proofs.Template.Reading
import TripleQuote.Proofs.Template.Writing
import TripleQuote.Proofs.Expr.Lexeme
import TripleQuote.Proofs.Expr.Grammar
import TripleQuote.Proofs.Expr.Identifier
import TripleQuote.Proofs.Expr.Parsing
import TripleQuote.Proofs.Expr.Printing
import TripleQuote.Proofs.Sequence
import TripleQuote.Proofs.Expr.Nodes
import TripleQuote.Proofs.Expr.Evaluation
import TripleQuote.Proofs.Expr.Methods
import TripleQuote.Proofs.Expr.Paths
import TripleQuote.Proofs.Bindings.Lookup
import TripleQuote.Proofs.Template.Rendering
import TripleQuote.Proofs.Template.Names
import TripleQuote.Proofs.Template.Blame
import TripleQuote.Proofs.Expr.Writable
import TripleQuote.Proofs.Template.Validated
import TripleQuote.Proofs.Text.Utf8
import TripleQuote.Proofs.Yaml.Keys
import TripleQuote.Proofs.Command.Missing
import TripleQuote.Proofs.Command.Stages
import TripleQuote.Proofs.Command.Reports
import TripleQuote.Proofs.Command.Layers
import TripleQuote.Proofs.Command.Crashes
import TripleQuote.Proofs.Template.Endings
import TripleQuote.Proofs.Template.Layout
import TripleQuote.Proofs.Template.Extension
import TripleQuote.Proofs.Expr.Splicing
import TripleQuote.Proofs.Expr.Concatenation
import TripleQuote.Proofs.Expr.Viable
import TripleQuote.Proofs.Template.Adjacent
import TripleQuote.Proofs.Expr.Faults
import TripleQuote.Proofs.Expr.Spacing
import TripleQuote.Proofs.Template.Surroundings
import TripleQuote.Proofs.Template.Seam
import TripleQuote.Proofs.Template.Rescan
import TripleQuote.Proofs.Bindings.Merge
import TripleQuote.Proofs.Template.Overrides
import TripleQuote.Proofs.Expr.FreeNames
import TripleQuote.Proofs.Template.FirstUses
import TripleQuote.Proofs.Expr.Requoting
import TripleQuote.Proofs.Template.Exchange
import TripleQuote.Proofs.Expr.Exchange
import TripleQuote.Proofs.Expr.Tiling
import TripleQuote.Proofs.Expr.Descent
import TripleQuote.Proofs.Template.Progress
import TripleQuote.Proofs.Json.Reading
import TripleQuote.Proofs.Json.Printing
import TripleQuote.Proofs.Command.Tokens
