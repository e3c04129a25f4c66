import LetFn.Token.Kind
import LetFn.Tree.Operator

/-!
# How tokens build expressions

Two tables say what a token does in an expression. `Kind.start?` is what a token of the kind
begins when an expression is due, and `Kind.continuation?` what it adds to an expression that
stands before it. Continuations bind with one of seven strengths, the levels of `Precedence`,
compared by `rank`. A kind that continues nothing has the lowest precedence (`Kind.precedence`).
-/

namespace LetFn

/-- The strengths with which operators hold their operands, weakest first. -/
inductive Precedence where
  | lowest
  | equality
  | comparison
  | sum
  | product
  | unary
  | call
  deriving DecidableEq, Repr

/-- The position among the precedences. -/
def Precedence.rank : Precedence → Nat
  | lowest => 0
  | equality => 1
  | comparison => 2
  | sum => 3
  | product => 4
  | unary => 5
  | call => 6

/-- Every precedence, weakest first. -/
def Precedence.all : List Precedence :=
  [lowest, equality, comparison, sum, product, unary, call]

/-- How strongly an operator holds its operands. -/
def BinaryOp.precedence : BinaryOp → Precedence
  | equal | notEqual => .equality
  | less | greater => .comparison
  | add | sub => .sum
  | mul | div => .product

/-- What begins with a token where an expression is due. -/
inductive Start where
  | name
  | integer
  | boolean
  | unary (op : UnaryOp)
  | group
  | conditional
  | function
  deriving DecidableEq, Repr

/-- What a token adds to the expression before it. -/
inductive Continuation where
  | binary (op : BinaryOp)
  | call
  deriving DecidableEq, Repr

/-- How strongly a continuation holds the expression before it. -/
def Continuation.precedence : Continuation → Precedence
  | binary op => op.precedence
  | call => .call

namespace Kind

/-- What a token of the kind begins where an expression is due. -/
def start? : Kind → Option Start
  | ident => some .name
  | int => some .integer
  | true_ | false_ => some .boolean
  | bang => some (.unary .not)
  | minus => some (.unary .neg)
  | lparen => some .group
  | if_ => some .conditional
  | function => some .function
  | _ => none

/-- What a token of the kind adds to the expression before it. -/
def continuation? : Kind → Option Continuation
  | plus => some (.binary .add)
  | minus => some (.binary .sub)
  | star => some (.binary .mul)
  | slash => some (.binary .div)
  | less => some (.binary .less)
  | greater => some (.binary .greater)
  | equal => some (.binary .equal)
  | notEqual => some (.binary .notEqual)
  | lparen => some .call
  | _ => none

/-- How strongly a token of the kind holds the expression before it, the lowest precedence when
it adds nothing. -/
def precedence (k : Kind) : Precedence :=
  (k.continuation?.map Continuation.precedence).getD .lowest

end Kind

end LetFn
