import LetFn.Command.Files
import LetFn.Render
import LetFn.Text.Backspace

/-!
# The command

The command renders one file, or each line of its standard input by itself. `Outcome` is what a
run leaves behind: the texts on both outputs and the exit code, 0 for success, 1 for a failure
and 2 for a mistake in the arguments.

The lines are taken as typed: a backspace in a line takes back what stands before it. A file is
taken as it is. What hands over the lines can be put in the place of `typedLines` (`sessionWith`);
where somebody types, a line can be interrupted.

With a file, errors go to the standard error output and nothing to the standard output. With
lines, the errors of one line go to the standard output and the next line follows, as it does after
an interruption; a line that is not text ends the run, and what was written before stays.
-/

namespace LetFn.Command

/-- What a run of the command leaves behind. -/
structure Outcome where
  exit : Nat
  stdout : String
  stderr : String
  deriving DecidableEq, Repr

/-- A run that fails with a message. -/
def Outcome.failure (message : String) : Outcome := ⟨1, "", message ++ "\n"⟩

/-- The run on the content of the file at a path. -/
def renderFile (mode : Mode) (path : String) (content : Except ReadFailure ByteArray) : Outcome :=
  match content.bind decode with
  | .error failure => .failure ("could not read " ++ path ++ ": " ++ failure.message)
  | .ok source =>
    match render mode source with
    | .ok text => ⟨0, text, ""⟩
    | .error errors => .failure (report errors)

/-- What a session writes for one line. -/
def answer (mode : Mode) (line : String) : String :=
  match render mode line with
  | .ok text => text
  | .error errors => report errors ++ "\n"

/-- A line without its ending: a line feed and a carriage return before it. The bytes of a line
come newest first. -/
def lineOf : List UInt8 → List UInt8
  | 13 :: reversed => reversed.reverse
  | reversed => reversed.reverse

/-- The lines of an input, without their endings. The last one need not be ended. The bytes of the
line so far come first, newest first. -/
def linesAfter : List UInt8 → List UInt8 → List (List UInt8)
  | [], [] => []
  | reversed, [] => [reversed.reverse]
  | reversed, 10 :: bytes => lineOf reversed :: linesAfter [] bytes
  | reversed, byte :: bytes => linesAfter (byte :: reversed) bytes

/-- The lines of an input, without their endings. -/
def inputLines (input : ByteArray) : List ByteArray :=
  (linesAfter [] input.data.toList).map fun line => ⟨line.toArray⟩

/-- What is handed over when a line is asked for. At the end of the input there is nothing more. -/
inductive Handover where
  | line (text : String)
  /-- The line was given up. -/
  | interrupted
  | failed (failure : ReadFailure)
  deriving DecidableEq, Repr

/-- A line as typed, or the reason why it is not text. -/
def Handover.typed : Except ReadFailure String → Handover
  | .ok text => line (Text.applyBackspaces text)
  | .error failure => failed failure

/-- The lines of an input as typed, one after the other. None is interrupted. -/
def typedLines (input : ByteArray) : List Handover :=
  (inputLines input).map fun line => .typed (decode line)

/-- The session over what is still handed over, after what is written already. -/
def sessionFrom (mode : Mode) (written : String) : List Handover → Outcome
  | [] => ⟨0, written ++ "CTRL-D\n", ""⟩
  | .line text :: more => sessionFrom mode (written ++ answer mode text) more
  | .interrupted :: more => sessionFrom mode (written ++ "CTRL-C\n") more
  | .failed failure :: _ => ⟨1, written, "readline failed: " ++ failure.message ++ "\n"⟩

/-- The run on what is handed over of an input. -/
def sessionWith (handOver : ByteArray → List Handover) (mode : Mode) (input : ByteArray) :
    Outcome :=
  sessionFrom mode "" (handOver input)

/-- The run on the lines of the standard input. -/
def session (mode : Mode) (input : ByteArray) : Outcome := sessionWith typedLines mode input

end LetFn.Command
