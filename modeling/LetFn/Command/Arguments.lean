import LetFn.Render

/-!
# Command-line arguments

The command takes an optional path and the option `-m` or `--mode` with a mode, and it can be
asked for its version with `-V` or `--version`. `parseArguments` reads the arguments from left to
right: the first mistake or the first request for the version decides.

The mode stands in the next argument (`-m tokens`, `--mode tokens`), after an equals sign
(`-m=tokens`, `--mode=tokens`), or directly after the letter (`-mtokens`). After the argument `--`
everything is a path. A dash alone is a path, too.
-/

namespace LetFn.Command

/-- A mistake in the arguments. -/
inductive UsageError where
  | unknownOption (argument : String)
  | missingMode
  | unknownMode (name : String)
  | repeatedMode
  | unexpectedValue (argument : String)
  | emptyPath
  | secondPath (argument : String)
  deriving DecidableEq, Repr

/-- The text shown for a mistake in the arguments. -/
def UsageError.message : UsageError → String
  | unknownOption argument => "unexpected argument " ++ argument
  | missingMode => "a mode is missing"
  | unknownMode name => "there is no mode " ++ name
  | repeatedMode => "the mode is given twice"
  | unexpectedValue argument => "unexpected value in " ++ argument
  | emptyPath => "the path is empty"
  | secondPath argument => "unexpected second path " ++ argument

/-- What was said in the arguments so far. -/
structure Settings where
  mode : Option Mode := none
  path : Option String := none
  deriving DecidableEq, Repr

/-- What the command is asked for. -/
inductive Request where
  | version
  | run (mode : Mode) (path : Option String)
  deriving DecidableEq, Repr

namespace Settings

/-- The settings with a mode of the given name. -/
def withMode (s : Settings) (name : String) : Except UsageError Settings :=
  match Mode.ofName? name, s.mode with
  | none, _ => .error (.unknownMode name)
  | some _, some _ => .error .repeatedMode
  | some mode, none => .ok { s with mode := some mode }

/-- The settings with a path. -/
def withPath (s : Settings) (path : String) : Except UsageError Settings :=
  if path = "" then .error .emptyPath
  else match s.path with
    | some _ => .error (.secondPath path)
    | none => .ok { s with path := some path }

/-- The request made by complete settings. -/
def request (s : Settings) : Request := .run (s.mode.getD .tree) s.path

end Settings

/-- The part an argument plays by its form. -/
inductive Argument where
  | endOfOptions
  | version
  /-- The mode is the next argument. -/
  | mode
  | modeIs (name : String)
  | versionIs
  | unknown
  | path
  deriving DecidableEq, Repr

/-- The part that the characters of an argument give it. -/
def Argument.ofChars : List Char → Argument
  | ['-', '-'] => .endOfOptions
  | '-' :: '-' :: name =>
    if name = "mode".toList then .mode
    else if name = "version".toList then .version
    else if "mode=".toList.isPrefixOf name then .modeIs (String.ofList (name.drop 5))
    else if "version=".toList.isPrefixOf name then .versionIs
    else .unknown
  | ['-', 'm'] => .mode
  | '-' :: 'm' :: '=' :: name => .modeIs (String.ofList name)
  | '-' :: 'm' :: name => .modeIs (String.ofList name)
  | '-' :: 'V' :: _ => .version
  | '-' :: _ :: _ => .unknown
  | _ => .path

/-- The request made by paths alone. -/
def parsePaths : Settings → List String → Except UsageError Request
  | s, [] => .ok s.request
  | s, path :: rest => do parsePaths (← s.withPath path) rest

/-- The request made by the arguments after those that led to the settings. -/
def parseFrom : Settings → List String → Except UsageError Request
  | s, [] => .ok s.request
  | s, argument :: rest =>
    match Argument.ofChars argument.toList with
    | .endOfOptions => parsePaths s rest
    | .version => .ok .version
    | .mode =>
      match rest with
      | [] => .error .missingMode
      | name :: rest => do parseFrom (← s.withMode name) rest
    | .modeIs name => do parseFrom (← s.withMode name) rest
    | .versionIs => .error (.unexpectedValue argument)
    | .unknown => .error (.unknownOption argument)
    | .path => do parseFrom (← s.withPath argument) rest

/-- The request made by the arguments of the command. -/
def parseArguments (arguments : List String) : Except UsageError Request :=
  parseFrom {} arguments

end LetFn.Command
