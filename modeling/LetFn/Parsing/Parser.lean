import LetFn.Parsing.Descent
import LetFn.Parsing.Record

/-!
# A parser of texts

A `Parser` scans a text while it reads. It holds a scanner and the last two tokens that it got from
it; each step asks the scanner for one more token. It collects the errors it met and the records of
what it did.

Programs, statements, blocks and expressions can be read with one parser in any order, each from
where the last one ended (`Parser.perform`).
-/

namespace LetFn

/-- A scanner and the two tokens before it, with the errors and the records so far, newest first,
and whether a reading was cut short. -/
structure Parser where
  scanner : Scanner
  current : Token
  peek : Token
  errors : List ParseError
  log : List Record
  exhausted : Bool
  deriving DecidableEq, Repr

namespace Parser

/-- The parser on the next token of the scanner. -/
def ofScanner (s : Scanner) : Parser :=
  let first := s.next
  let second := first.2.next
  ⟨second.2, first.1.token, second.1.token, [], [.scanned second.1, .scanned first.1], false⟩

/-- The parser on the first token of a text. -/
def ofText (source : String) : Parser := ofScanner (.ofText source)

/-- The parser one token further. -/
def advance (p : Parser) : Parser :=
  let found := p.scanner.next
  { p with
    scanner := found.2
    current := p.peek
    peek := found.1.token
    log := .event (.moved p.peek found.1.token) :: .scanned found.1 :: p.log }

/-- The parser at the beginning of a statement. -/
def enter (p : Parser) : Parser := { p with log := .event (.statement p.current) :: p.log }

/-- The parser with one more error. -/
def fail (p : Parser) (error : ParseError) : Parser :=
  { p with errors := error :: p.errors, log := .event (.failed p.current error) :: p.log }

/-- The parser after a reading that was cut short. -/
def exhaust (p : Parser) : Parser := { p with exhausted := true }

instance : Window Parser where
  current := current
  peek := peek
  advance := advance
  enter := enter
  fail := fail
  exhaust := exhaust

/-- The errors in the order in which they were met. -/
def errorList (p : Parser) : List ParseError := p.errors.reverse

/-- The records in the order in which they were made. -/
def recordList (p : Parser) : List Record := p.log.reverse

/-- A budget with which every descent from the parser's place comes to its end: a text has no more
tokens than bytes. -/
def budget (p : Parser) : Nat := 4 * (p.scanner.left + 2) + 8

/-- The statements up to the end of the text. -/
def program (p : Parser) : ParsedBy Parser Program :=
  let body := Descent.statements p.budget .program [] p
  ⟨⟨body.value⟩, body.after⟩

/-- The statement at the current token, nothing for a `let` without a name or without `=`. -/
def statement (p : Parser) : ParsedBy Parser (Option Stmt) := Descent.statement p.budget p

/-- The block that the current token opens, whatever its kind. -/
def block (p : Parser) : ParsedBy Parser Block := Descent.block p.budget p

/-- The expression at the current token, with the operators that bind more strongly than the
floor. -/
def expression (floor : Precedence) (p : Parser) : ParsedBy Parser Expr :=
  Descent.expression p.budget floor p

/-- What a parser can be asked to read. -/
inductive Step where
  | program
  | statement
  | block
  | expression (floor : Precedence)
  deriving DecidableEq, Repr

/-- What was read at a step. -/
inductive Answer where
  | program (program : Program)
  | statement (statement : Option Stmt)
  | block (block : Block)
  | expression (expression : Expr)

/-- What is read at the step, and the parser after it. -/
def perform (p : Parser) : Step → ParsedBy Parser Answer
  | .program => ⟨.program p.program.value, p.program.after⟩
  | .statement => ⟨.statement p.statement.value, p.statement.after⟩
  | .block => ⟨.block p.block.value, p.block.after⟩
  | .expression floor => ⟨.expression (p.expression floor).value, (p.expression floor).after⟩

/-- The parser after the steps. -/
def performAll (p : Parser) (steps : List Step) : Parser :=
  steps.foldl (fun p step => (p.perform step).after) p

/-- What is read at each of the steps, and the errors met up to its end. -/
def session (p : Parser) : List Step → List (Answer × List ParseError)
  | [] => []
  | step :: steps =>
    ((p.perform step).value, (p.perform step).after.errorList) ::
      session (p.perform step).after steps

end Parser

end LetFn
