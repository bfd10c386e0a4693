import TripleQuote.Files.Disk

/-! # File trees

A file tree holds files under the working directory. A path is followed name by name; two dots
lead back to the directory before, and nothing is known outside the working directory. -/

namespace TripleQuote

/-- Files by the names that lead to them from the working directory. -/
structure FileTree where
  files : List (List Text × List UInt8)
deriving Repr

namespace FileTree

/-- What the names lead to, when two dots have been resolved. -/
def find (t : FileTree) (names : List Text) : Found :=
  match t.files.lookup names with
  | some bytes => .file bytes
  | none =>
    if names.isEmpty || t.files.any fun file => names.isPrefixOf file.1 then .directory
    else .missing

/-- What is found when names are followed from a directory, which is `none` outside the working
directory. -/
def follow (t : FileTree) : (place : Option (List Text)) → List Text → Found
  | none, [] => .directory
  | some names, [] => t.find names
  | none, name :: rest =>
    if name = Path.up then follow t none rest
    else if Path.isLongName name then .tooLong
    else .missing
  | some names, name :: rest =>
    if name = Path.up then follow t (if names.isEmpty then none else some names.dropLast) rest
    else if Path.isLongName name then .tooLong
    else
      let place := names ++ [name]
      match t.find place with
      | .directory => follow t (some place) rest
      | .file bytes => if rest.isEmpty then .file bytes else .blocked
      | found => found

def disk (t : FileTree) : Disk := fun p =>
  if p.isLong then .tooLong
  else if p.root.isEmpty then t.follow (some []) p.names
  else if p.names.isEmpty then .directory
  else .missing

/-- The names that a path leads to once the directories on its way have been made, if it stays
inside the working directory. -/
def resolve? (p : Path) : Option (List Text) :=
  if !p.root.isEmpty then none
  else p.names.foldlM (fun place name =>
    if name ≠ Path.up then some (place ++ [name])
    else if place.isEmpty then none
    else some place.dropLast) []

end FileTree

end TripleQuote
