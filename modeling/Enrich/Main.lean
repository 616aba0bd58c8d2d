import Enrich.CommandLine.Run

/-!
# The program

Reads the files that a command may look at, runs the command on them and prints what comes of it.
-/

open Enrich

/-- What is found at a path on disk. -/
def Enrich.Found.onDisk (path : String) : IO Found := do
  try
    return .file (← IO.FS.readBinFile path)
  catch
    | .noFileOrDirectory .. => return .nothing
    | _ => return .unreadable

/-- The files on disk at some paths. -/
def Enrich.filesOnDisk (paths : List String) : IO Files := do
  let found ← paths.mapM fun path => return (path, ← Found.onDisk path)
  return fun path => (found.lookup path).getD .nothing

/-- Runs the program with the arguments it was given. -/
def main (arguments : List String) : IO UInt32 := do
  let paths :=
    match CommandLine.parse arguments with
    | .ok command => command.paths
    | .error _ => []
  let files ← filesOnDisk paths
  let outcome := CommandLine.run files arguments
  IO.print outcome.output
  if outcome.code = 0 then IO.eprint outcome.errors
  else IO.eprintln outcome.errors
  return outcome.code.toUInt32
