import LetFn.Parsing.Numeral
import LetFn.Parsing.Precedence
import LetFn.Proofs.Reading.Basic

/-!
# The grammar

The programs of the language and their trees, said without the parser. `Derives phrase ts tree rest`
says that the tokens `ts` begin with the phrase, read as the tree, and go on with `rest`; a source
is a program when its tokens are statements and nothing else (`DerivesProgram`).

Expressions are layered. On each of the levels `equality`, `comparison`, `sum` and `product` stand
the operators of the level, grouped to the left, between operands of tighter levels; on the level
`unary` the operators before an operand, and on the level `call` the calls of a primary expression.
An expression is a phrase of the loosest of these levels.

Two rules look past the phrase. A statement may leave out its semicolon only where the next token
is neither `-` nor `(`, which would go on with it. And a block may leave out its closing brace only
where the tokens end.
-/

namespace LetFn

/-- The kind of the token that spells the operator. -/
def UnaryOp.kind : UnaryOp → Kind
  | neg => .minus
  | not => .bang

/-- The kind of the token that spells the operator. -/
def BinaryOp.kind : BinaryOp → Kind
  | add => .plus
  | sub => .minus
  | mul => .star
  | div => .slash
  | less => .less
  | greater => .greater
  | equal => .equal
  | notEqual => .notEqual

namespace Precedence

/-- The operators between two operands on a level. -/
def operators : Precedence → List BinaryOp
  | equality => [.equal, .notEqual]
  | comparison => [.less, .greater]
  | sum => [.add, .sub]
  | product => [.mul, .div]
  | _ => []

/-- The next level above. -/
def tighter : Precedence → Precedence
  | lowest => equality
  | equality => comparison
  | comparison => sum
  | sum => product
  | product => unary
  | unary | call => call

end Precedence

/-- The phrases of the language. -/
inductive Phrase where
  /-- An expression of the level. -/
  | level (k : Precedence)
  | primary
  /-- At least one expression, with commas between them. -/
  | arguments
  | block
  | statements
  | statement

namespace Phrase

/-- The type of the trees of a phrase. -/
abbrev Tree : Phrase → Type
  | level _ | primary => Expr
  | arguments => List Expr
  | block => Block
  | statements => List Stmt
  | statement => Stmt

/-- An expression of any level. -/
abbrev expression : Phrase := level .equality

end Phrase

/-- The tokens begin with at least one name, with commas between them, and go on with the rest. -/
inductive DerivesNames : List Token → List Ident → List Token → Prop
  | one {t : Token} {rest : List Token} (name : t.kind = .ident) :
      DerivesNames (t :: rest) [⟨t, t.literal⟩] rest
  | more {t comma : Token} {ts rest : List Token} {names : List Ident} (name : t.kind = .ident)
      (comma_kind : comma.kind = .comma) (names_derived : DerivesNames ts names rest) :
      DerivesNames (t :: comma :: ts) (⟨t, t.literal⟩ :: names) rest

/-- The tokens begin with the names of parameters between parentheses and go on with the rest. -/
inductive DerivesParameters : List Token → List Ident → List Token → Prop
  | empty {opening close : Token} {rest : List Token} (opening_kind : opening.kind = .lparen)
      (close_kind : close.kind = .rparen) :
      DerivesParameters (opening :: close :: rest) [] rest
  | list {opening close : Token} {ts rest : List Token} {names : List Ident}
      (opening_kind : opening.kind = .lparen)
      (names_derived : DerivesNames ts names (close :: rest)) (close_kind : close.kind = .rparen) :
      DerivesParameters (opening :: ts) names rest

/-- The first tokens end a statement and the second are what follows: a semicolon stands between
them, or it is left out where the next token does not go on with an expression. -/
inductive EndsStatement : List Token → List Token → Prop
  | semicolon {t : Token} {rest : List Token} (kind : t.kind = .semicolon) :
      EndsStatement (t :: rest) rest
  | omitted {rest : List Token} (minus : (first rest).kind ≠ .minus)
      (lparen : (first rest).kind ≠ .lparen) : EndsStatement rest rest

/-- The tokens begin with the phrase, of the given tree, and go on with the rest. -/
inductive Derives : (phrase : Phrase) → List Token → phrase.Tree → List Token → Prop
  | tighter {k : Precedence} {ts rest : List Token} {e : Expr}
      (derived : Derives (.level k.tighter) ts e rest) : Derives (.level k) ts e rest
  | binary {k : Precedence} {op : BinaryOp} {t : Token} {ts mid rest : List Token} {l r : Expr}
      (level : op ∈ k.operators) (kind : t.kind = op.kind)
      (left : Derives (.level k) ts l (t :: mid))
      (right : Derives (.level k.tighter) mid r rest) :
      Derives (.level k) ts (Expr.binary t op l r) rest
  | unary {op : UnaryOp} {t : Token} {ts rest : List Token} {e : Expr} (kind : t.kind = op.kind)
      (operand : Derives (.level .unary) ts e rest) :
      Derives (.level .unary) (t :: ts) (Expr.unary t op e) rest
  | primary {ts rest : List Token} {e : Expr} (derived : Derives .primary ts e rest) :
      Derives (.level .call) ts e rest
  | emptyCall {opening close : Token} {ts rest : List Token} {e : Expr}
      (callee : Derives (.level .call) ts e (opening :: close :: rest))
      (opening_kind : opening.kind = .lparen) (close_kind : close.kind = .rparen) :
      Derives (.level .call) ts (Expr.call opening e []) rest
  | call {opening close : Token} {ts mid rest : List Token} {e : Expr} {args : List Expr}
      (callee : Derives (.level .call) ts e (opening :: mid))
      (opening_kind : opening.kind = .lparen)
      (arguments : Derives .arguments mid args (close :: rest))
      (close_kind : close.kind = .rparen) :
      Derives (.level .call) ts (Expr.call opening e args) rest
  | oneArgument {ts rest : List Token} {e : Expr} (argument : Derives .expression ts e rest) :
      Derives .arguments ts [e] rest
  | moreArguments {comma : Token} {ts mid rest : List Token} {e : Expr} {args : List Expr}
      (argument : Derives .expression ts e (comma :: mid)) (kind : comma.kind = .comma)
      (arguments : Derives .arguments mid args rest) :
      Derives .arguments ts (e :: args) rest
  | name {t : Token} {rest : List Token} (kind : t.kind = .ident) :
      Derives .primary (t :: rest) (Expr.ident ⟨t, t.literal⟩) rest
  | integer {t : Token} {rest : List Token} {value : Int} (kind : t.kind = .int)
      (value_eq : Numeral.value? t.literal = some value) :
      Derives .primary (t :: rest) (Expr.int t value) rest
  | true_ {t : Token} {rest : List Token} (kind : t.kind = .true_) :
      Derives .primary (t :: rest) (Expr.bool t true) rest
  | false_ {t : Token} {rest : List Token} (kind : t.kind = .false_) :
      Derives .primary (t :: rest) (Expr.bool t false) rest
  | group {opening close : Token} {ts rest : List Token} {e : Expr}
      (opening_kind : opening.kind = .lparen) (inner : Derives .expression ts e (close :: rest))
      (close_kind : close.kind = .rparen) :
      Derives .primary (opening :: ts) e rest
  | ifThen {t opening close : Token} {ts mid rest : List Token} {e : Expr} {b : Block}
      (kind : t.kind = .if_) (opening_kind : opening.kind = .lparen)
      (condition : Derives .expression ts e (close :: mid)) (close_kind : close.kind = .rparen)
      (consequence : Derives .block mid b rest) :
      Derives .primary (t :: opening :: ts) (Expr.ifThen t e b) rest
  | ifThenElse {t opening close otherwise : Token} {ts mid mid' rest : List Token} {e : Expr}
      {b a : Block} (kind : t.kind = .if_) (opening_kind : opening.kind = .lparen)
      (condition : Derives .expression ts e (close :: mid)) (close_kind : close.kind = .rparen)
      (consequence : Derives .block mid b (otherwise :: mid'))
      (otherwise_kind : otherwise.kind = .else_) (alternative : Derives .block mid' a rest) :
      Derives .primary (t :: opening :: ts) (Expr.ifThenElse t e b a) rest
  | function {t : Token} {ts mid rest : List Token} {names : List Ident} {b : Block}
      (kind : t.kind = .function) (parameters : DerivesParameters ts names mid)
      (body : Derives .block mid b rest) :
      Derives .primary (t :: ts) (Expr.function t names b) rest
  | closedBlock {opening close : Token} {ts rest : List Token} {ss : List Stmt}
      (opening_kind : opening.kind = .lbrace) (body : Derives .statements ts ss (close :: rest))
      (close_kind : close.kind = .rbrace) :
      Derives .block (opening :: ts) ⟨opening, ss⟩ rest
  | openBlock {opening : Token} {ts : List Token} {ss : List Stmt}
      (opening_kind : opening.kind = .lbrace) (body : Derives .statements ts ss []) :
      Derives .block (opening :: ts) ⟨opening, ss⟩ []
  | noStatements {ts : List Token} : Derives .statements ts [] ts
  | moreStatements {ts mid rest : List Token} {s : Stmt} {ss : List Stmt}
      (statement : Derives .statement ts s mid) (statements : Derives .statements mid ss rest) :
      Derives .statements ts (s :: ss) rest
  | let_ {t name assign : Token} {ts mid rest : List Token} {e : Expr} (kind : t.kind = .let_)
      (name_kind : name.kind = .ident) (assign_kind : assign.kind = .assign)
      (value : Derives .expression ts e mid) (ends : EndsStatement mid rest) :
      Derives .statement (t :: name :: assign :: ts) (.let_ t ⟨name, name.literal⟩ e) rest
  | return_ {t : Token} {ts mid rest : List Token} {e : Expr} (kind : t.kind = .return_)
      (value : Derives .expression ts e mid) (ends : EndsStatement mid rest) :
      Derives .statement (t :: ts) (.return_ t e) rest
  | expr {t : Token} {ts mid rest : List Token} {e : Expr}
      (value : Derives .expression (t :: ts) e mid) (ends : EndsStatement mid rest) :
      Derives .statement (t :: ts) (.expr t e) rest

/-- The tokens are a program of the given tree. -/
def DerivesProgram (ts : List Token) (p : Program) : Prop :=
  Derives .statements ts p.statements []

/-! ## First tokens -/

/-- A token of the kind can begin the phrase. Statements may be none, and then anything follows. -/
def Phrase.Begins : Phrase → Kind → Prop
  | level _, k | primary, k | arguments, k => k.start?.isSome
  | block, k => k = .lbrace
  | statements, _ => True
  | statement, k => k = .let_ ∨ k = .return_ ∨ k.start?.isSome

namespace Derives

variable {phrase : Phrase} {ts rest : List Token} {v : phrase.Tree}

/-- A phrase begins with a token that can begin it. -/
theorem begins (h : Derives phrase ts v rest) : phrase.Begins (first ts).kind := by
  induction h with
  | tighter _ ih | primary _ ih | oneArgument _ ih => exact ih
  | binary _ _ _ _ ih | emptyCall _ _ _ ih | call _ _ _ _ ih | moreArguments _ _ _ ih => exact ih
  | @unary op _ _ _ _ kind => cases op <;> simp [Phrase.Begins, kind, UnaryOp.kind, Kind.start?]
  | name kind | integer kind | true_ kind | false_ kind | group kind | ifThen kind
  | ifThenElse kind | function kind => simp [Phrase.Begins, kind, Kind.start?]
  | closedBlock kind | openBlock kind => exact kind
  | noStatements | moreStatements => trivial
  | let_ kind => exact .inl kind
  | return_ kind => exact .inr (.inl kind)
  | expr _ _ ih => exact .inr (.inr ih)

/-- A phrase other than a list of statements takes a token. -/
theorem first_ne_eof (h : Derives phrase ts v rest) (hp : phrase ≠ .statements) :
    (first ts).kind ≠ .eof := by
  intro heof
  have := h.begins
  rw [heof] at this
  cases phrase <;> simp_all [Phrase.Begins, Kind.start?]

end Derives

end LetFn
