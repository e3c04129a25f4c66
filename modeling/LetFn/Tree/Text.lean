import LetFn.Tree.Basic

/-!
# Printed trees

A tree is printed fully parenthesised: every operator stands with its operands between
parentheses, every statement ends in a semicolon, and a block closes up to its braces. A whole
program has one statement a line. An integer is printed as it was spelled, and a hole as `?`,
which is no token of the language, so that a printed tree with holes is never read as a tree
without them.
-/

namespace LetFn

mutual

/-- The text of an expression. -/
def Expr.text : Expr → String
  | .hole => "?"
  | .ident ident => ident.name
  | .int token _ => token.literal
  | .bool _ true => "true"
  | .bool _ false => "false"
  | .unary _ op operand => "(" ++ op.symbol ++ operand.text ++ ")"
  | .binary _ op left right => "(" ++ left.text ++ " " ++ op.symbol ++ " " ++ right.text ++ ")"
  | .ifThen _ condition consequence => "if (" ++ condition.text ++ ") " ++ consequence.text
  | .ifThenElse _ condition consequence alternative =>
    "if (" ++ condition.text ++ ") " ++ consequence.text ++ " else " ++ alternative.text
  | .function _ parameters body =>
    "fn(" ++ String.intercalate ", " (parameters.map Ident.name) ++ ") " ++ body.text
  | .call _ callee arguments =>
    callee.text ++ "(" ++ String.intercalate ", " (Expr.texts arguments) ++ ")"

/-- The texts of expressions. -/
def Expr.texts : List Expr → List String
  | [] => []
  | e :: es => e.text :: Expr.texts es

/-- The text of a statement. -/
def Stmt.text : Stmt → String
  | .let_ _ name value => "let " ++ name.name ++ " = " ++ value.text ++ ";"
  | .return_ _ value => "return " ++ value.text ++ ";"
  | .expr _ value => value.text ++ ";"

/-- The texts of statements. -/
def Stmt.texts : List Stmt → List String
  | [] => []
  | s :: ss => s.text :: Stmt.texts ss

/-- The text of a block. -/
def Block.text : Block → String
  | ⟨_, statements⟩ => "\x7b" ++ String.join (Stmt.texts statements) ++ "\x7d"

end

theorem Expr.texts_eq_map (es : List Expr) : Expr.texts es = es.map Expr.text := by
  induction es with
  | nil => rfl
  | cons e es ih => simp [Expr.texts, ih]

theorem Stmt.texts_eq_map (ss : List Stmt) : Stmt.texts ss = ss.map Stmt.text := by
  induction ss with
  | nil => rfl
  | cons s ss ih => simp [Stmt.texts, ih]

/-- The text of a program: one statement a line. -/
def Program.text (p : Program) : String :=
  String.join (p.statements.map fun s => s.text ++ "\n")

end LetFn
