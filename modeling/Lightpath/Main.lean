import Lightpath.CommandLine

/-!
# The program

Reads the files that a command line names, carries it out, and prints what it reports.
-/

namespace Lightpath

/-- Why a file cannot be read, as it is shown to people. -/
def fileFault : IO.Error → String
  | .noFileOrDirectory .. => "No such file or directory (os error 2)"
  | e => toString e

/-- A file with its content, as far as it can be read. -/
def readFile (path : String) : IO (String × Except String String) := do
  try
    return (path, .ok (← IO.FS.readFile path))
  catch e => return (path, .error (fileFault e))

end Lightpath

open Lightpath

/-- Carries out the command line. -/
def main (words : List String) : IO UInt32 := do
  let names := ((CommandLine.read? words).map CommandLine.Command.files).getD []
  let known ← names.mapM readFile
  let files (path : String) : Except String String :=
    (Table.lookup path known).getD (.error "unknown file")
  let report := CommandLine.run files words
  IO.print report.output
  IO.eprint report.errors
  return UInt32.ofNat report.status
