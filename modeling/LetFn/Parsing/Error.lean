import LetFn.Token.Basic

/-!
# Parse errors

The ways in which a source can fail to be a program. `ParseError.message` is the text shown for
one, `report` the text for all errors of a source, one indented line each under a heading.
-/

namespace LetFn

/-- A place at which a source is no program. -/
inductive ParseError where
  /-- The next token is not of the kind that has to follow. -/
  | unexpected (expected found : Kind)
  /-- An expression is due at a token that begins none. -/
  | noExpression (found : Kind)
  /-- The integer literal has no value. -/
  | badInteger (literal : String)
  deriving DecidableEq, Repr

/-- The text shown for an error. -/
def ParseError.message : ParseError → String
  | unexpected expected found =>
    "Expected next token to be " ++ expected.name ++ ", got " ++ found.name ++ " instead"
  | noExpression found => "no prefix parse function for " ++ found.name ++ " found"
  | badInteger literal => "could not parse " ++ Text.quote literal ++ " as integer"

/-- The messages of errors, one line each after a tab. -/
def errorLines (errors : List ParseError) : String :=
  String.intercalate "\n" (errors.map fun error => "\t" ++ error.message)

/-- The messages of errors under a heading. -/
def report (errors : List ParseError) : String :=
  "parser errors:\n" ++ errorLines errors

end LetFn
