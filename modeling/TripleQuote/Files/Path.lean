import TripleQuote.Text.Quoted
import TripleQuote.Text.Utf8

/-! # Paths

A path is a list of names under a root. Empty names and single dots are dropped when a path is
read; two dots are kept, since what they mean depends on the directories. A file system allows
255 bytes for a name and 4095 bytes for a path. -/

namespace TripleQuote

/-- A path. The root is empty for a relative path. -/
structure Path where
  root : Text
  names : List Text
deriving DecidableEq, Repr

namespace Path

def slashParts : Text → List Text
  | [] => [[]]
  | c :: rest =>
    if c = '/' then [] :: slashParts rest
    else match slashParts rest with
      | [] => [[c]]
      | part :: parts => (c :: part) :: parts

/-- The path that a text spells. A root of exactly two slashes is a root of its own. -/
def ofText (t : Text) : Path where
  root := match (t.takeWhile (· == '/')).length with
    | 0 => []
    | 2 => ['/', '/']
    | _ => ['/']
  names := (slashParts t).filter fun name => !(name.isEmpty || name == ['.'])

def text (p : Path) : Text :=
  if p.root.isEmpty && p.names.isEmpty then ['.']
  else p.root ++ Text.join ['/'] p.names

/-- The path of the directory that a path is in. -/
def parent (p : Path) : Path := { p with names := p.names.dropLast }

/-- The paths that a path leads through, itself included. -/
def stages (p : Path) : List Path :=
  (List.range (p.names.length + 1)).map fun n => { p with names := p.names.take n }

/-- The two dots that lead out of a directory. -/
def up : Text := ['.', '.']

/-- A name of more bytes than a file system allows. -/
def isLongName (name : Text) : Bool := 255 < (Utf8.encode name).length

/-- A path of more bytes than a file system allows. -/
def isLong (p : Path) : Bool := 4095 < (Utf8.encode p.text).length

/-- A path with a null character names nothing. -/
def isNull (p : Path) : Bool := p.text.contains '\x00'

end Path

end TripleQuote
