import LetFn.Token.Basic
import LetFn.Tree.Operator

/-!
# Syntax trees

A program is a list of statements. Every node keeps a token of the source: the first of the
construct for statements, blocks, names, literals, conditionals and functions, the operator for
operators, and the opening parenthesis for calls.

Where the source holds no readable expression the tree has a `hole`, so every source has a tree.
-/

namespace LetFn

/-- A name and the token it was read from. -/
structure Ident where
  token : Token
  name : String
  deriving DecidableEq, Repr

mutual

/-- Expressions. -/
inductive Expr where
  /-- The place of an expression that could not be read. -/
  | hole
  | ident (ident : Ident)
  | int (token : Token) (value : Int)
  | bool (token : Token) (value : Bool)
  | unary (token : Token) (op : UnaryOp) (operand : Expr)
  | binary (token : Token) (op : BinaryOp) (left right : Expr)
  | ifThen (token : Token) (condition : Expr) (consequence : Block)
  | ifThenElse (token : Token) (condition : Expr) (consequence alternative : Block)
  | function (token : Token) (parameters : List Ident) (body : Block)
  | call (token : Token) (callee : Expr) (arguments : List Expr)

/-- Statements. -/
inductive Stmt where
  | let_ (token : Token) (name : Ident) (value : Expr)
  | return_ (token : Token) (value : Expr)
  | expr (token : Token) (value : Expr)

/-- Statements between braces. -/
structure Block where
  token : Token
  statements : List Stmt

end

/-- A whole source as a tree. -/
structure Program where
  statements : List Stmt

/-- The token a statement keeps. -/
def Stmt.token : Stmt → Token
  | .let_ token _ _ => token
  | .return_ token _ => token
  | .expr token _ => token

/-- The spelling of the first token of a program, empty when there is none. -/
def Program.tokenLiteral (p : Program) : String :=
  (p.statements.head?.map fun s => s.token.literal).getD ""

end LetFn
