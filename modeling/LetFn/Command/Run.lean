import LetFn.Command.Arguments
import LetFn.Command.Session

/-!
# A run from its arguments

`run` is what the command does with its arguments, given how files and the standard input are
read.
-/

namespace LetFn.Command

/-- The name and version of the command. -/
def version : String := "aplusplus-runner 0.1.0"

/-- The outcome of the command. Only what the arguments ask for is read. -/
def run {m : Type → Type} [Monad m] (readFile : String → m (Except ReadFailure ByteArray))
    (readInput : m ByteArray) (arguments : List String) : m Outcome :=
  match parseArguments arguments with
  | .error mistake => pure ⟨2, "", "error: " ++ mistake.message ++ "\n"⟩
  | .ok .version => pure ⟨0, version ++ "\n", ""⟩
  | .ok (.run mode (some path)) => renderFile mode path <$> readFile path
  | .ok (.run mode none) => session mode <$> readInput

end LetFn.Command
