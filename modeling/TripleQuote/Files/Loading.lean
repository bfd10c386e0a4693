import TripleQuote.Config
import TripleQuote.Files.Disk
import TripleQuote.Template.Basic
import TripleQuote.Yaml.Document

/-! # Loading bindings, configurations and templates

Bindings and configurations are YAML documents with a mapping at the top level; an empty document
is an empty mapping. -/

namespace TripleQuote

inductive LoadError where
  | notFound (path : Path)
  | unreadable (error : ReadError)
  | malformed (path : Path)
  /-- A scalar of the document spells a value that does not exist. -/
  | badScalar (fault : Yaml.Fault)
  | notMapping (path : Path)
  | badConfig (path : Path) (issues : List Config.Issue)
deriving Repr

def LoadError.message : LoadError → Text
  | notFound path => "File not found: " ++ path.text
  | unreadable e => e.message
  | malformed path => "Failed to parse YAML in " ++ path.text
  | badScalar fault => fault.message
  | notMapping path => path.text ++ " must contain a mapping at the top level"
  | badConfig path issues =>
    "Invalid config " ++ path.text ++ ": " ++ Text.ofNat issues.length ++ " validation error"
      ++ (if issues.length = 1 then "" else "s") ++ " for TqsConfig"

namespace Disk

def loadMapping (disk : Disk) (p : Path) : Except LoadError (List (Value × Value)) :=
  if disk.lacks p then .error (.notFound p)
  else match disk.readText p with
    | .error e => .error (.unreadable e)
    | .ok text =>
      match Yaml.load text with
      | .error .malformed => .error (.malformed p)
      | .error fault => .error (.badScalar fault)
      | .ok .null => .ok []
      | .ok (.map entries) => .ok entries
      | .ok _ => .error (.notMapping p)

def loadConfig (disk : Disk) (p : Path) : Except LoadError Config := do
  let entries ← disk.loadMapping p
  (Config.ofValue (.map entries)).mapError (.badConfig p)

end Disk

end TripleQuote
