import LetFn.Command.Run

/-!
# The executable

`main` runs the command on the files and the standard input of the machine and shows its outcome.
-/

namespace LetFn

open Command

/-- The content of a file of the machine. -/
def readFile (path : String) : IO (Except ReadFailure ByteArray) := do
  try
    return .ok (← IO.FS.readBinFile path)
  catch
    | .noFileOrDirectory .. => return .error .missing
    | .inappropriateType _ 21 _ => return .error .isFolder
    | .inappropriateType .. => return .error .notFolder
    | failure => return .error (.other (toString failure))

/-- Shows an outcome. -/
def Command.Outcome.show (outcome : Outcome) : IO UInt32 := do
  IO.print outcome.stdout
  IO.eprint outcome.stderr
  return outcome.exit.toUInt32

end LetFn

/-- Renders the file or the input that the arguments name. -/
def main (arguments : List String) : IO UInt32 := do
  let outcome ← LetFn.Command.run LetFn.readFile (do (← IO.getStdin).readBinToEnd) arguments
  outcome.show
