/-!
# Operators

The operators of expressions: two that stand before their operand and eight that stand between
two operands. `symbol` is the spelling of an operator, the same in a source and in a printed tree.
-/

namespace LetFn

/-- An operator that stands before its operand. -/
inductive UnaryOp where
  | neg
  | not
  deriving DecidableEq, Repr

/-- An operator that stands between its operands. -/
inductive BinaryOp where
  | add
  | sub
  | mul
  | div
  | less
  | greater
  | equal
  | notEqual
  deriving DecidableEq, Repr

/-- The spelling of the operator. -/
def UnaryOp.symbol : UnaryOp → String
  | neg => "-"
  | not => "!"

/-- Every operator that stands before its operand, once. -/
def UnaryOp.all : List UnaryOp := [neg, not]

/-- The spelling of the operator. -/
def BinaryOp.symbol : BinaryOp → String
  | add => "+"
  | sub => "-"
  | mul => "*"
  | div => "/"
  | less => "<"
  | greater => ">"
  | equal => "=="
  | notEqual => "!="

/-- Every operator that stands between its operands, once. -/
def BinaryOp.all : List BinaryOp := [add, sub, mul, div, less, greater, equal, notEqual]

/-- The operator with the given spelling that stands before its operand. -/
def UnaryOp.ofSymbol? (symbol : String) : Option UnaryOp := all.find? (·.symbol = symbol)

/-- The operator with the given spelling that stands between its operands. -/
def BinaryOp.ofSymbol? (symbol : String) : Option BinaryOp := all.find? (·.symbol = symbol)

theorem UnaryOp.ofSymbol?_symbol (op : UnaryOp) : ofSymbol? op.symbol = some op := by
  cases op <;> decide

theorem BinaryOp.ofSymbol?_symbol (op : BinaryOp) : ofSymbol? op.symbol = some op := by
  cases op <;> decide

end LetFn
