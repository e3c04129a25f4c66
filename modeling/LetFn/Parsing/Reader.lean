import LetFn.Parsing.Window

/-!
# A reader of tokens

A `Reader` moves along a list of tokens and never goes back. Past the last token both tokens that it
shows are `Token.eof`. On its way it collects the errors it met and a log of its steps.
-/

namespace LetFn

/-- A step of a reader. -/
inductive Event where
  /-- The reader moved on, and shows these tokens now. -/
  | moved (current peek : Token)
  /-- A statement begins at the current token. -/
  | statement (current : Token)
  /-- An error was met while the reader showed the current token. -/
  | failed (current : Token) (error : ParseError)
  deriving DecidableEq, Repr

/-- The tokens that are left, the current one first, with the errors and the steps so far, newest
first, and whether a reading was cut short. -/
structure Reader where
  pending : List Token
  errors : List ParseError
  log : List Event
  exhausted : Bool
  deriving DecidableEq, Repr

/-- What was read and the reader after it. -/
abbrev Parsed (α : Type) := ParsedBy Reader α

namespace Reader

/-- A reader before the first of the tokens. -/
def ofTokens (ts : List Token) : Reader := ⟨ts, [], [], false⟩

/-- The token that the reader is on. -/
def current (r : Reader) : Token := r.pending.headD Token.eof

/-- The token after the current one. -/
def peek (r : Reader) : Token := r.pending.tail.headD Token.eof

/-- The reader one token further. -/
def advance (r : Reader) : Reader :=
  let moved : Reader := { r with pending := r.pending.tail }
  { moved with log := .moved moved.current moved.peek :: r.log }

/-- The reader at the beginning of a statement. -/
def enter (r : Reader) : Reader := { r with log := .statement r.current :: r.log }

/-- The reader with one more error. -/
def fail (r : Reader) (error : ParseError) : Reader :=
  { r with errors := error :: r.errors, log := .failed r.current error :: r.log }

/-- The reader after a reading that was cut short. -/
def exhaust (r : Reader) : Reader := { r with exhausted := true }

instance : Window Reader where
  current := current
  peek := peek
  advance := advance
  enter := enter
  fail := fail
  exhaust := exhaust

/-- The errors in the order in which they were met. -/
def errorList (r : Reader) : List ParseError := r.errors.reverse

/-- The steps in the order in which they were taken. -/
def eventList (r : Reader) : List Event := r.log.reverse

end Reader

/-- The errors met up to the end of what was read, in order. -/
def Parsed.errors {α : Type} (p : Parsed α) : List ParseError := p.after.errorList

end LetFn
