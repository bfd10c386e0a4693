import TripleQuote.Command.Run

/-! # The command line

The program looks up every path that a request names, lets the request run on what it found, and
carries out the outcome. -/

namespace TripleQuote

/-- The paths at which a request can find something: those that it names, and those that they
lead through. -/
def Request.places : Request → List Path
  | .run _ task => task.paths.flatMap Path.stages
  | _ => []

/-- Look up a path. Opening a path that leads through a file fails with the name of the path;
reading a directory fails without one. -/
def lookUp (p : Path) : IO Found := do
  try
    return .file (← IO.FS.readBinFile (String.ofList p.text)).toList
  catch
    | .inappropriateType (some _) _ _ => return .blocked
    | .inappropriateType none _ _ => return .directory
    | .invalidArgument (some _) _ _ => return .tooLong
    | _ => return .missing

def lookUpAll : List Path → IO (List (Path × Found))
  | [] => return []
  | p :: ps => return (p, ← lookUp p) :: (← lookUpAll ps)

/-- The file system as far as it has been looked up. -/
def diskOf (found : List (Path × Found)) : Disk := fun p => (found.lookup p).getD .missing

/-- A record of the log as a line. -/
def Event.line (e : Event) : String := String.ofList (e.level.name ++ " " ++ e.message)

def Outcome.carryOut (o : Outcome) (least : Level) : IO Unit := do
  for e in o.log least do
    IO.eprintln e.line
  match o.written with
  | none => pure ()
  | some (p, t) =>
    IO.FS.createDirAll (String.ofList p.parent.text)
    IO.FS.writeFile (String.ofList p.text) (String.ofList t)
  IO.print (String.ofList o.stdout)
  match o.failure with
  | none => pure ()
  | some failure => IO.eprintln (String.ofList failure.text)

end TripleQuote

open TripleQuote in
def main (arguments : List String) : IO UInt32 := do
  let request := Request.ofWords (arguments.map String.toList)
  let found ← lookUpAll request.places
  let outcome := request.perform (diskOf found)
  let debugging := ((← IO.getEnv "TQS_DEBUG").getD "") != ""
  outcome.carryOut (request.threshold debugging)
  return UInt32.ofNat outcome.exitCode
