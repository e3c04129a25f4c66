import LetFn.Parsing.Numeral
import LetFn.Parsing.Precedence
import LetFn.Parsing.Reader
import LetFn.Token.Scanner

/-!
# Reading programs

Programs are read by recursive descent, and the operators of an expression by climbing: an
expression is read with a `floor`, takes an operand, and goes on taking the operators that bind
more strongly than the floor. A binary operator reads its right operand with its own precedence
as floor, so operators of one precedence group to the left.

Nothing stops the reading. Where an expression cannot be read an error is noted and the tree gets
a hole. A `let` without a name or without `=` is left out of the tree. A block that the end of
the source leaves open counts as closed there.

The functions of `Descent` read through any window on tokens, and recurse on a budget that each call
lowers by one; one that is called with none left says so to the window. `Reader.budget`, four for
each token that is left and a little more, is always enough. The functions in the namespace `Reader`
take it and show no budget: `Reader.program`, `Reader.statement`, `Reader.block` and
`Reader.expression`, each from the current token on. `parse` reads a whole source.
-/

namespace LetFn

/-- Where statements stand, which says what ends them. -/
inductive Scope where
  | program
  | block
  deriving DecidableEq, Repr

/-- A token of the kind ends the statements of the scope. -/
def Scope.endsAt : Scope → Kind → Bool
  | _, .eof => true
  | .block, .rbrace => true
  | _, _ => false

namespace Descent

open Window

variable {ρ : Type} [Window ρ]

/-- The integer at the current token. -/
def integer (r : ρ) : ParsedBy ρ Expr :=
  match Numeral.value? (current r).literal with
  | some value => ⟨.int (current r) value, r⟩
  | none => ⟨.hole, fail r (.badInteger (current r).literal)⟩

/-- A closing parenthesis after the expression between parentheses. -/
-- Out of line, so that a level of parentheses takes little of the stack.
@[noinline]
def closeGroup (inner : ParsedBy ρ Expr) : ParsedBy ρ Expr :=
  if (peek inner.after).kind = .rparen then ⟨inner.value, advance inner.after⟩
  else ⟨.hole, missing inner.after .rparen⟩

/-- A closing parenthesis after the arguments of a call. -/
-- Out of line for the same reason.
@[noinline]
def closeCall (token : Token) (callee : Expr) (arguments : ParsedBy ρ (List Expr)) :
    ParsedBy ρ Expr :=
  if (peek arguments.after).kind = .rparen then
    ⟨.call token callee arguments.value, advance arguments.after⟩
  else ⟨.hole, missing arguments.after .rparen⟩

/-- The names up to a closing parenthesis, after those already found, newest first. The current
token is the parenthesis or the comma before a name. -/
def names : Nat → List Ident → ρ → ParsedBy ρ (Option (List Ident))
  | 0, _, r => ⟨none, exhaust r⟩
  | budget + 1, found, r =>
    if (peek r).kind = .ident then
      let r := advance r
      if (peek r).kind = .comma then names budget (ident r :: found) (advance r)
      else if (peek r).kind = .rparen then ⟨some (ident r :: found).reverse, advance r⟩
      else ⟨none, missing r .rparen⟩
    else ⟨none, missing r .ident⟩

/-- The parameters of a function, from the opening to the closing parenthesis. -/
def parameters (budget : Nat) (r : ρ) : ParsedBy ρ (Option (List Ident)) :=
  if (peek r).kind = .rparen then ⟨some [], advance r⟩ else names budget [] r

mutual

/-- The expression at the current token, with the operators that bind more strongly than the
floor. -/
def expression : Nat → Precedence → ρ → ParsedBy ρ Expr
  | 0, _, r => ⟨.hole, exhaust r⟩
  | budget + 1, floor, r =>
    match (current r).kind.start? with
    | none => ⟨.hole, fail r (.noExpression (current r).kind)⟩
    | some start =>
      let first := operand budget start r
      climb budget floor first.value first.after

/-- The operand that the current token begins. -/
def operand : Nat → Start → ρ → ParsedBy ρ Expr
  | 0, _, r => ⟨.hole, exhaust r⟩
  | budget + 1, start, r =>
    match start with
    | .name => ⟨.ident (ident r), r⟩
    | .integer => integer r
    | .boolean => ⟨.bool (current r) ((current r).kind = .true_), r⟩
    | .unary op =>
      let right := expression budget .unary (advance r)
      ⟨.unary (current r) op right.value, right.after⟩
    | .group => closeGroup (expression budget .lowest (advance r))
    | .conditional => conditional budget r
    | .function => function budget r

/-- The expression that begins with `left` and goes on after the current token. -/
def climb : Nat → Precedence → Expr → ρ → ParsedBy ρ Expr
  | 0, _, left, r => ⟨left, exhaust r⟩
  | budget + 1, floor, left, r =>
    match (peek r).kind.continuation? with
    | none => ⟨left, r⟩
    | some next =>
      if floor.rank < next.precedence.rank then
        let longer := continued budget next left (advance r)
        climb budget floor longer.value longer.after
      else ⟨left, r⟩

/-- The expression `left` continued by the operator or the call at the current token. -/
def continued : Nat → Continuation → Expr → ρ → ParsedBy ρ Expr
  | 0, _, left, r => ⟨left, exhaust r⟩
  | budget + 1, next, left, r =>
    match next with
    | .binary op =>
      let right := expression budget op.precedence (advance r)
      ⟨.binary (current r) op left right.value, right.after⟩
    | .call =>
      if (peek r).kind = .rparen then ⟨.call (current r) left [], advance r⟩
      else closeCall (current r) left (arguments budget [] (advance r))

/-- The arguments separated by commas from the current token on, after those already found,
newest first. -/
def arguments : Nat → List Expr → ρ → ParsedBy ρ (List Expr)
  | 0, found, r => ⟨found.reverse, exhaust r⟩
  | budget + 1, found, r =>
    let argument := expression budget .lowest r
    if (peek argument.after).kind = .comma then
      arguments budget (argument.value :: found) (advance (advance argument.after))
    else ⟨(argument.value :: found).reverse, argument.after⟩

/-- The conditional at the current token. -/
def conditional : Nat → ρ → ParsedBy ρ Expr
  | 0, r => ⟨.hole, exhaust r⟩
  | budget + 1, r =>
    if (peek r).kind = .lparen then
      let condition := expression budget .lowest (advance (advance r))
      if (peek condition.after).kind = .rparen then
        let closed := advance condition.after
        if (peek closed).kind = .lbrace then
          let consequence := block budget (advance closed)
          if (peek consequence.after).kind = .else_ then
            let otherwise := advance consequence.after
            if (peek otherwise).kind = .lbrace then
              let alternative := block budget (advance otherwise)
              ⟨.ifThenElse (current r) condition.value consequence.value alternative.value,
                alternative.after⟩
            else ⟨.hole, missing otherwise .lbrace⟩
          else ⟨.ifThen (current r) condition.value consequence.value, consequence.after⟩
        else ⟨.hole, missing closed .lbrace⟩
      else ⟨.hole, missing condition.after .rparen⟩
    else ⟨.hole, missing r .lparen⟩

/-- The function at the current token. -/
def function : Nat → ρ → ParsedBy ρ Expr
  | 0, r => ⟨.hole, exhaust r⟩
  | budget + 1, r =>
    if (peek r).kind = .lparen then
      let parameters := parameters budget (advance r)
      match parameters.value with
      | none => ⟨.hole, parameters.after⟩
      | some names =>
        if (peek parameters.after).kind = .lbrace then
          let body := block budget (advance parameters.after)
          ⟨.function (current r) names body.value, body.after⟩
        else ⟨.hole, missing parameters.after .lbrace⟩
    else ⟨.hole, missing r .lparen⟩

/-- The block that the current token opens. -/
def block : Nat → ρ → ParsedBy ρ Block
  | 0, r => ⟨⟨current r, []⟩, exhaust r⟩
  | budget + 1, r =>
    let body := statements budget .block [] (advance r)
    ⟨⟨current r, body.value⟩, body.after⟩

/-- The statements up to the end of the scope, after those already found, newest first. -/
def statements : Nat → Scope → List Stmt → ρ → ParsedBy ρ (List Stmt)
  | 0, _, found, r => ⟨found.reverse, exhaust r⟩
  | budget + 1, scope, found, r =>
    if scope.endsAt (current r).kind then ⟨found.reverse, r⟩
    else
      let one := statement budget r
      statements budget scope (one.value.toList ++ found) (advance one.after)

/-- The statement at the current token, nothing for a `let` without a name or without `=`. -/
def statement : Nat → ρ → ParsedBy ρ (Option Stmt)
  | 0, r => ⟨none, exhaust r⟩
  | budget + 1, r =>
    let r := enter r
    match (current r).kind with
    | .let_ =>
      if (peek r).kind = .ident then
        let name := advance r
        if (peek name).kind = .assign then
          let value := expression budget .lowest (advance (advance name))
          ⟨some (.let_ (current r) (ident name) value.value), skipSemicolon value.after⟩
        else ⟨none, missing name .assign⟩
      else ⟨none, missing r .ident⟩
    | .return_ =>
      let value := expression budget .lowest (advance r)
      ⟨some (.return_ (current r) value.value), skipSemicolon value.after⟩
    | _ =>
      let value := expression budget .lowest r
      ⟨some (.expr (current r) value.value), skipSemicolon value.after⟩

end

end Descent

namespace Reader

/-- A budget with which every descent from the reader's place comes to its end. -/
def budget (r : Reader) : Nat := 4 * r.pending.length + 8

/-- The statements up to the end of the source. -/
def program (r : Reader) : Parsed Program :=
  let body := Descent.statements r.budget .program [] r
  ⟨⟨body.value⟩, body.after⟩

/-- The statement at the current token, nothing for a `let` without a name or without `=`. -/
def statement (r : Reader) : Parsed (Option Stmt) := Descent.statement r.budget r

/-- The block that the current token opens, whatever its kind. -/
def block (r : Reader) : Parsed Block := Descent.block r.budget r

/-- The expression at the current token, with the operators that bind more strongly than the
floor. -/
def expression (floor : Precedence) (r : Reader) : Parsed Expr :=
  Descent.expression r.budget floor r

end Reader

/-- The tree of a list of tokens, and the reader at its end. -/
def parseTokens (ts : List Token) : Parsed Program := (Reader.ofTokens ts).program

/-- The tree of a source, and the reader at its end. -/
def parse (source : String) : Parsed Program := parseTokens (tokens source)

end LetFn
