import LetFn.Parsing.Numeral
import LetFn.Proofs.Scanning.Basic
import LetFn.Tree.Text

/-!
# What a printed tree is made of

A printed tree is a list of tokens with blanks between some of them. `Expr.printed` and its
companions give this list, a hole being the illegal token `?`.

A tree can keep other tokens than those it is printed with. `Expr.respell` is the tree that keeps
the printed ones, the tree one hopes to read back, and `Expr.strip` the tree without any tokens.

Whether a text can be read back depends on its words and numbers only: names have to be words and
no keywords, and an integer has to be spelled by a numeral of its value (`Expr.Printable`). The
number of places that cannot be read back as they are is the number of holes (`Expr.holes`).
-/

namespace LetFn

/-- The token that spells the operator. -/
def UnaryOp.token : UnaryOp → Token
  | neg => .symbol '-'
  | not => .symbol '!'

/-- The token that spells the operator. -/
def BinaryOp.token : BinaryOp → Token
  | add => .symbol '+'
  | sub => .symbol '-'
  | mul => .symbol '*'
  | div => .symbol '/'
  | less => .symbol '<'
  | greater => .symbol '>'
  | equal => ⟨Kind.ofPair "==", "=="⟩
  | notEqual => ⟨Kind.ofPair "!=", "!="⟩

/-- The lists of tokens with commas between them. -/
def separated (lists : List (List Token)) : List Token := [Token.symbol ','].intercalate lists

/-! ## The tokens of a text -/

mutual

/-- The tokens of the text of an expression. -/
def Expr.printed : Expr → List Token
  | .hole => [.symbol '?']
  | .ident ident => [.word ident.name]
  | .int token _ => [.number token.literal]
  | .bool _ true => [.word "true"]
  | .bool _ false => [.word "false"]
  | .unary _ op operand => .symbol '(' :: op.token :: operand.printed ++ [.symbol ')']
  | .binary _ op left right =>
    .symbol '(' :: left.printed ++ op.token :: right.printed ++ [.symbol ')']
  | .ifThen _ condition consequence =>
    .word "if" :: .symbol '(' :: condition.printed ++ .symbol ')' :: consequence.printed
  | .ifThenElse _ condition consequence alternative =>
    .word "if" :: .symbol '(' :: condition.printed ++ .symbol ')' :: consequence.printed ++
      .word "else" :: alternative.printed
  | .function _ parameters body =>
    .word "fn" :: .symbol '(' :: separated (parameters.map fun i => [.word i.name]) ++
      .symbol ')' :: body.printed
  | .call _ callee arguments =>
    callee.printed ++ .symbol '(' :: separated (Expr.printedAll arguments) ++ [.symbol ')']

/-- The tokens of the texts of expressions. -/
def Expr.printedAll : List Expr → List (List Token)
  | [] => []
  | e :: es => e.printed :: Expr.printedAll es

/-- The tokens of the text of a statement. -/
def Stmt.printed : Stmt → List Token
  | .let_ _ name value =>
    .word "let" :: .word name.name :: .symbol '=' :: value.printed ++ [.symbol ';']
  | .return_ _ value => .word "return" :: value.printed ++ [.symbol ';']
  | .expr _ value => value.printed ++ [.symbol ';']

/-- The tokens of the texts of statements. -/
def Stmt.printedAll : List Stmt → List Token
  | [] => []
  | s :: ss => s.printed ++ Stmt.printedAll ss

/-- The tokens of the text of a block. -/
def Block.printed : Block → List Token
  | ⟨_, statements⟩ => .symbol '{' :: Stmt.printedAll statements ++ [.symbol '}']

end

theorem Expr.printedAll_eq_map (es : List Expr) : Expr.printedAll es = es.map Expr.printed := by
  induction es with
  | nil => rfl
  | cons e es ih => rw [Expr.printedAll, ih, List.map_cons]

/-- The tokens of the text of a program. -/
def Program.printed (p : Program) : List Token := Stmt.printedAll p.statements

/-! ## Trees with the printed tokens -/

/-- The name with the token it is printed with. -/
def Ident.respell (i : Ident) : Ident := ⟨.word i.name, i.name⟩

mutual

/-- The expression with the tokens it is printed with. -/
def Expr.respell : Expr → Expr
  | .hole => .hole
  | .ident ident => .ident ident.respell
  | .int token value => .int (.number token.literal) value
  | .bool _ true => .bool (.word "true") true
  | .bool _ false => .bool (.word "false") false
  | .unary _ op operand => .unary op.token op operand.respell
  | .binary _ op left right => .binary op.token op left.respell right.respell
  | .ifThen _ condition consequence =>
    .ifThen (.word "if") condition.respell consequence.respell
  | .ifThenElse _ condition consequence alternative =>
    .ifThenElse (.word "if") condition.respell consequence.respell alternative.respell
  | .function _ parameters body =>
    .function (.word "fn") (parameters.map Ident.respell) body.respell
  | .call _ callee arguments => .call (.symbol '(') callee.respell (Expr.respellAll arguments)

/-- The expressions with the tokens they are printed with. -/
def Expr.respellAll : List Expr → List Expr
  | [] => []
  | e :: es => e.respell :: Expr.respellAll es

/-- The statement with the tokens it is printed with. -/
def Stmt.respell : Stmt → Stmt
  | .let_ _ name value => .let_ (.word "let") name.respell value.respell
  | .return_ _ value => .return_ (.word "return") value.respell
  | .expr _ value => .expr (value.printed.headD Token.eof) value.respell

/-- The statements with the tokens they are printed with. -/
def Stmt.respellAll : List Stmt → List Stmt
  | [] => []
  | s :: ss => s.respell :: Stmt.respellAll ss

/-- The block with the tokens it is printed with. -/
def Block.respell : Block → Block
  | ⟨_, statements⟩ => ⟨.symbol '{', Stmt.respellAll statements⟩

end

/-- The program with the tokens it is printed with. -/
def Program.respell (p : Program) : Program := ⟨Stmt.respellAll p.statements⟩

/-! ## Trees without tokens -/

/-- The name without its token. -/
def Ident.strip (i : Ident) : Ident := ⟨Token.eof, i.name⟩

mutual

/-- The expression without its tokens. -/
def Expr.strip : Expr → Expr
  | .hole => .hole
  | .ident ident => .ident ident.strip
  | .int _ value => .int Token.eof value
  | .bool _ value => .bool Token.eof value
  | .unary _ op operand => .unary Token.eof op operand.strip
  | .binary _ op left right => .binary Token.eof op left.strip right.strip
  | .ifThen _ condition consequence => .ifThen Token.eof condition.strip consequence.strip
  | .ifThenElse _ condition consequence alternative =>
    .ifThenElse Token.eof condition.strip consequence.strip alternative.strip
  | .function _ parameters body =>
    .function Token.eof (parameters.map Ident.strip) body.strip
  | .call _ callee arguments => .call Token.eof callee.strip (Expr.stripAll arguments)

/-- The expressions without their tokens. -/
def Expr.stripAll : List Expr → List Expr
  | [] => []
  | e :: es => e.strip :: Expr.stripAll es

/-- The statement without its tokens. -/
def Stmt.strip : Stmt → Stmt
  | .let_ _ name value => .let_ Token.eof name.strip value.strip
  | .return_ _ value => .return_ Token.eof value.strip
  | .expr _ value => .expr Token.eof value.strip

/-- The statements without their tokens. -/
def Stmt.stripAll : List Stmt → List Stmt
  | [] => []
  | s :: ss => s.strip :: Stmt.stripAll ss

/-- The block without its tokens. -/
def Block.strip : Block → Block
  | ⟨_, statements⟩ => ⟨Token.eof, Stmt.stripAll statements⟩

end

/-- The program without its tokens. -/
def Program.strip (p : Program) : Program := ⟨Stmt.stripAll p.statements⟩

@[simp] theorem Ident.strip_respell (i : Ident) : i.respell.strip = i.strip := rfl

mutual

/-- Respelling changes nothing but tokens. -/
theorem Expr.strip_respell : ∀ e : Expr, e.respell.strip = e.strip
  | .hole | .ident _ | .int _ _ | .bool _ true | .bool _ false => rfl
  | .unary _ _ e => by simp [Expr.respell, Expr.strip, e.strip_respell]
  | .binary _ _ l r => by simp [Expr.respell, Expr.strip, l.strip_respell, r.strip_respell]
  | .ifThen _ c b => by simp [Expr.respell, Expr.strip, c.strip_respell, b.strip_respell]
  | .ifThenElse _ c b a => by
    simp [Expr.respell, Expr.strip, c.strip_respell, b.strip_respell, a.strip_respell]
  | .function _ ps b => by simp [Expr.respell, Expr.strip, b.strip_respell]
  | .call _ e as => by simp [Expr.respell, Expr.strip, e.strip_respell, Expr.stripAll_respellAll as]

theorem Expr.stripAll_respellAll : ∀ es : List Expr,
    Expr.stripAll (Expr.respellAll es) = Expr.stripAll es
  | [] => rfl
  | e :: es => by
    simp [Expr.respellAll, Expr.stripAll, e.strip_respell, Expr.stripAll_respellAll es]

theorem Stmt.strip_respell : ∀ s : Stmt, s.respell.strip = s.strip
  | .let_ _ _ v => by simp [Stmt.respell, Stmt.strip, v.strip_respell]
  | .return_ _ v => by simp [Stmt.respell, Stmt.strip, v.strip_respell]
  | .expr _ v => by simp [Stmt.respell, Stmt.strip, v.strip_respell]

theorem Stmt.stripAll_respellAll : ∀ ss : List Stmt,
    Stmt.stripAll (Stmt.respellAll ss) = Stmt.stripAll ss
  | [] => rfl
  | s :: ss => by
    simp [Stmt.respellAll, Stmt.stripAll, s.strip_respell, Stmt.stripAll_respellAll ss]

theorem Block.strip_respell : ∀ b : Block, b.respell.strip = b.strip
  | ⟨_, ss⟩ => by simp [Block.respell, Block.strip, Stmt.stripAll_respellAll ss]

end

theorem Program.strip_respell (p : Program) : p.respell.strip = p.strip :=
  congrArg Program.mk (Stmt.stripAll_respellAll p.statements)

/-! ## Trees that can be read back -/

/-- A word that is scanned as a name. -/
structure IsName (name : String) : Prop where
  nonempty : name.toList ≠ []
  letters : ∀ c ∈ name.toList, isLetter c = true
  ident : Kind.ofWord name = .ident

/-- A run of digits that spells the value. -/
structure IsNumeral (literal : String) (value : Int) : Prop where
  nonempty : literal.toList ≠ []
  digits : ∀ c ∈ literal.toList, c.isDigit = true
  value_eq : Numeral.value? literal = some value

mutual

/-- The names of the expression are names, and its integers are spelled by numerals. -/
def Expr.Printable : Expr → Prop
  | .hole | .bool _ _ => True
  | .ident ident => IsName ident.name
  | .int token value => IsNumeral token.literal value
  | .unary _ _ operand => operand.Printable
  | .binary _ _ left right => left.Printable ∧ right.Printable
  | .ifThen _ condition consequence => condition.Printable ∧ consequence.Printable
  | .ifThenElse _ condition consequence alternative =>
    condition.Printable ∧ consequence.Printable ∧ alternative.Printable
  | .function _ parameters body => (∀ i ∈ parameters, IsName i.name) ∧ body.Printable
  | .call _ callee arguments => callee.Printable ∧ Expr.AllPrintable arguments

/-- The same for all of the expressions. -/
def Expr.AllPrintable : List Expr → Prop
  | [] => True
  | e :: es => e.Printable ∧ Expr.AllPrintable es

/-- The same for a statement. -/
def Stmt.Printable : Stmt → Prop
  | .let_ _ name value => IsName name.name ∧ value.Printable
  | .return_ _ value | .expr _ value => value.Printable

/-- The same for all of the statements. -/
def Stmt.AllPrintable : List Stmt → Prop
  | [] => True
  | s :: ss => s.Printable ∧ Stmt.AllPrintable ss

/-- The same for a block. -/
def Block.Printable : Block → Prop
  | ⟨_, statements⟩ => Stmt.AllPrintable statements

end

/-- The same for a program. -/
def Program.Printable (p : Program) : Prop := Stmt.AllPrintable p.statements

mutual

/-- The number of holes in the expression. -/
def Expr.holes : Expr → Nat
  | .hole => 1
  | .ident _ | .int _ _ | .bool _ _ => 0
  | .unary _ _ operand => operand.holes
  | .binary _ _ left right => left.holes + right.holes
  | .ifThen _ condition consequence => condition.holes + consequence.holes
  | .ifThenElse _ condition consequence alternative =>
    condition.holes + consequence.holes + alternative.holes
  | .function _ _ body => body.holes
  | .call _ callee arguments => callee.holes + Expr.holesAll arguments

/-- The number of holes in the expressions. -/
def Expr.holesAll : List Expr → Nat
  | [] => 0
  | e :: es => e.holes + Expr.holesAll es

/-- The number of holes in the statement. -/
def Stmt.holes : Stmt → Nat
  | .let_ _ _ value | .return_ _ value | .expr _ value => value.holes

/-- The number of holes in the statements. -/
def Stmt.holesAll : List Stmt → Nat
  | [] => 0
  | s :: ss => s.holes + Stmt.holesAll ss

/-- The number of holes in the block. -/
def Block.holes : Block → Nat
  | ⟨_, statements⟩ => Stmt.holesAll statements

end

/-- The number of holes in the program. -/
def Program.holes (p : Program) : Nat := Stmt.holesAll p.statements

end LetFn
