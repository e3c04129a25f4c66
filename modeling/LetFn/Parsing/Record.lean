import LetFn.Parsing.Reader
import LetFn.Token.Scanner

/-!
# Records

A record tells of one thing that happened while a source was read: a token that was scanned, a step
over a token, a statement that begins or an error.
-/

namespace LetFn

/-- How loud a record is. -/
inductive Level where
  | trace
  | debug
  deriving DecidableEq, Repr

/-- The name of a level. -/
def Level.name : Level → String
  | trace => "TRACE"
  | debug => "DEBUG"

/-- A record of a trace. -/
inductive Record where
  /-- A token was scanned. -/
  | scanned (lexeme : Lexeme)
  /-- A step was taken. -/
  | event (event : Event)
  deriving DecidableEq, Repr

namespace Record

/-- Errors are louder than the rest. -/
def level : Record → Level
  | event (.failed _ _) => .debug
  | _ => .trace

/-- The text of a record. -/
def message : Record → String
  | scanned lexeme => "scanned " ++ lexeme.token.text ++ " at byte " ++ toString lexeme.start
  | event (.moved current peek) => "window: " ++ current.text ++ " " ++ peek.text
  | event (.statement current) => "statement at " ++ current.text
  | event (.failed current error) => "parse error at " ++ current.text ++ ": " ++ error.message

end Record

end LetFn
