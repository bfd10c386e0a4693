import TripleQuote.Files.Path
import TripleQuote.Text.Lines
import TripleQuote.Text.Utf8

/-! # Reading and writing files

What a program sees of the file system: for each path, whether a file or a directory is there.
From that follow the outcomes of reading a file and of preparing to write one. -/

namespace TripleQuote

/-- What is found at a path. -/
inductive Found where
  | file (bytes : List UInt8)
  | directory
  | missing
  /-- The path leads through a file. -/
  | blocked
  /-- The path or a name on its way is longer than file systems allow. -/
  | tooLong
deriving DecidableEq, Repr

/-- The view of a file system. -/
abbrev Disk := Path → Found

inductive FileError.Cause where
  | missing
  | exists
  | notDirectory
  | isDirectory
  | tooLong
  /-- The path holds a null character. -/
  | null
deriving DecidableEq, Repr

structure FileError where
  cause : FileError.Cause
  path : Path
deriving DecidableEq, Repr

def FileError.Cause.message : FileError.Cause → Text
  | .missing => "[Errno 2] No such file or directory"
  | .exists => "[Errno 17] File exists"
  | .notDirectory => "[Errno 20] Not a directory"
  | .isDirectory => "[Errno 21] Is a directory"
  | .tooLong => "[Errno 36] File name too long"
  | .null => "embedded null byte"

/-- The cause and the path. A path with a null character is not shown. -/
def FileError.message (e : FileError) : Text :=
  if e.cause = .null then e.cause.message else e.cause.message ++ ": " ++ e.path.text.quoted

inductive ReadError where
  | file (e : FileError)
  | encoding (e : Utf8.Fault)
deriving DecidableEq, Repr

def ReadError.message : ReadError → Text
  | file e => e.message
  | encoding e => e.message

namespace Disk

/-- Whether it is certain that nothing is at a path. -/
def lacks (disk : Disk) (p : Path) : Bool :=
  match disk p with
  | .missing | .blocked => true
  | .file _ | .directory | .tooLong => false

def readBytes (disk : Disk) (p : Path) : Except FileError (List UInt8) :=
  if p.isNull then .error ⟨.null, p⟩
  else match disk p with
    | .file bytes => .ok bytes
    | .directory => .error ⟨.isDirectory, p⟩
    | .missing => .error ⟨.missing, p⟩
    | .blocked => .error ⟨.notDirectory, p⟩
    | .tooLong => .error ⟨.tooLong, p⟩

/-- The text of a file, with its line ends normalized. -/
def readText (disk : Disk) (p : Path) : Except ReadError Text :=
  match disk.readBytes p with
  | .error e => .error (.file e)
  | .ok bytes =>
    match Utf8.decode bytes with
    | .error e => .error (.encoding e)
    | .ok t => .ok t.normalizeLines

/-- Make the directories of a path. `shown` are the names that have been dealt with, `place` is
where they lead, and `made` are the directories that did not exist before. A failure before any
directory is made concerns the whole path. -/
def makeFrom (disk : Disk) (p : Path) (shown place : List Text) (made : List (List Text)) :
    List Text → Except FileError (List Text × List (List Text))
  | [] => .ok (place, made)
  | name :: rest =>
    let shown := shown ++ [name]
    if name = Path.up && made.contains place then
      makeFrom disk p shown place.dropLast made rest
    else
      let place := place ++ [name]
      let prefixPath : Path := { p with names := shown }
      let failing := if made.isEmpty then p else prefixPath
      if made.contains place then makeFrom disk p shown place made rest
      else match disk { p with names := place } with
        | .directory => makeFrom disk p shown place made rest
        | .missing =>
          if Path.isLongName name then .error ⟨.tooLong, prefixPath⟩
          else makeFrom disk p shown place (place :: made) rest
        | .file _ =>
          if rest.isEmpty || !made.isEmpty then .error ⟨.exists, prefixPath⟩
          else .error ⟨.notDirectory, p⟩
        | .blocked => .error ⟨.notDirectory, failing⟩
        | .tooLong => .error ⟨.tooLong, failing⟩

/-- Whether a file can be written after the directories above it have been made. -/
def checkWrite (disk : Disk) (p : Path) : Except FileError Unit :=
  if p.parent.isLong then .error ⟨.tooLong, p.parent⟩
  else do
    let (place, made) ← disk.makeFrom p.parent [] [] [] p.parent.names
    let target := place ++ p.names.getLast?.toList
    if made.contains target || disk { p with names := target } = .directory ||
        p.names.getLast? = some Path.up then
      .error ⟨.isDirectory, p⟩
    else if p.isLong || p.names.getLast?.any Path.isLongName then .error ⟨.tooLong, p⟩
    else .ok ()

end Disk

end TripleQuote
