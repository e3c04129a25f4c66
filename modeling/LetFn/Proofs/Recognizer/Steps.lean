import LetFn.Proofs.Recognizer.Basic

/-!
# Single steps of the recognizer

What the machine does at a token of each kind, with any stack below: `Leads` where the token can
follow, and `Stuck` where a construct is not closed. The lemmas are named after the part of the
construct that is read.
-/

namespace LetFn

open Config

/-! ## Expected tokens and ends of expressions -/

theorem expect_of_eq {k : Kind} {after : Config} {t : Token} (h : t.kind = k) :
    expect k after t = some after := if_pos h

theorem expect_of_ne {k : Kind} {after : Config} {t : Token} (h : t.kind ≠ k) :
    expect k after t = none := if_neg h

/-- The stack of the machine where statements of the scope are due. -/
def Scope.Fits : Scope → List Frame → Prop
  | program, frames => frames = []
  | block, frames => ∃ thenBlock outer, frames = .block thenBlock :: outer

theorem nextStatement_of_more {scope : Scope} {frames : List Frame} {t : Token}
    (fits : scope.Fits frames) (more : scope.endsAt t.kind = false) :
    nextStatement frames t = beginStatement frames t := by
  cases scope with
  | program =>
    subst fits
    have : t.kind ≠ .eof := fun h => by simp [h, Scope.endsAt] at more
    simp [nextStatement, this]
  | block =>
    obtain ⟨thenBlock, outer, rfl⟩ := fits
    have hbrace : t.kind ≠ .rbrace := fun h => by simp [h, Scope.endsAt] at more
    have heof : t.kind ≠ .eof := fun h => by simp [h, Scope.endsAt] at more
    simp [nextStatement, hbrace, heof]

theorem beginStatement_of_ne {frames : List Frame} {t : Token} (hlet : t.kind ≠ .let_)
    (hreturn : t.kind ≠ .return_) : beginStatement frames t = beginOperand frames t := by
  unfold beginStatement
  split
  · contradiction
  · contradiction
  · rfl

/-- Among statements, an expression is followed by a semicolon or by what follows a semicolon. -/
theorem endExpression_of_fits {scope : Scope} {frames : List Frame} {t : Token}
    (fits : scope.Fits frames) : endExpression frames t =
      if t.kind = .semicolon then some ⟨.statement, frames⟩ else nextStatement frames t := by
  cases scope with
  | program =>
    subst fits
    rfl
  | block =>
    obtain ⟨thenBlock, outer, rfl⟩ := fits
    rfl

theorem step_operator_of_none {frames : List Frame} {t : Token} (h : t.kind.continuation? = none) :
    step ⟨.operator, frames⟩ t = endExpression frames t := by
  rw [step, afterOperand, h]

theorem Kind.continuation?_eq_none_of_le {k : Kind}
    (h : k.precedence.rank ≤ Precedence.lowest.rank) : k.continuation? = none := by
  cases k <;> first | rfl | exact absurd h (by decide)

/-! ## Constructs that are not closed -/

namespace Stuck

variable {frames : List Frame} {ts : List Token}

theorem group (stop : (first ts).kind.precedence.rank ≤ Precedence.lowest.rank)
    (close : (first ts).kind ≠ .rparen) : Stuck ⟨.operator, .group :: frames⟩ ts 0 := by
  refine .here ?_
  rw [step_operator_of_none (Kind.continuation?_eq_none_of_le stop)]
  exact expect_of_ne close

theorem condition (stop : (first ts).kind.precedence.rank ≤ Precedence.lowest.rank)
    (close : (first ts).kind ≠ .rparen) : Stuck ⟨.operator, .condition :: frames⟩ ts 0 := by
  refine .here ?_
  rw [step_operator_of_none (Kind.continuation?_eq_none_of_le stop)]
  exact expect_of_ne close

theorem call (stop : (first ts).kind.precedence.rank ≤ Precedence.lowest.rank)
    (comma : (first ts).kind ≠ .comma) (close : (first ts).kind ≠ .rparen) :
    Stuck ⟨.operator, .call :: frames⟩ ts 0 := by
  refine .here ?_
  rw [step_operator_of_none (Kind.continuation?_eq_none_of_le stop)]
  simp [endExpression, expect, comma, close]

end Stuck

/-! ## Tokens that can follow -/

namespace Leads

variable {frames : List Frame} {ts : List Token}

theorem unary {op : UnaryOp} (start : (first ts).kind.start? = some (.unary op)) :
    Leads ⟨.operand, frames⟩ ts 1 ⟨.operand, frames⟩ ts.tail := by
  refine .one ?_
  simp only [step, beginOperand, start]

theorem openGroup (start : (first ts).kind.start? = some .group) :
    Leads ⟨.operand, frames⟩ ts 1 ⟨.operand, .group :: frames⟩ ts.tail := by
  refine .one ?_
  simp only [step, beginOperand, start]

theorem closeGroup (close : (first ts).kind = .rparen) :
    Leads ⟨.operator, .group :: frames⟩ ts 1 ⟨.operator, frames⟩ ts.tail := by
  refine .one ?_
  rw [step_operator_of_none (by rw [close]; rfl)]
  exact expect_of_eq close

theorem conditional (start : (first ts).kind.start? = some .conditional) :
    Leads ⟨.operand, frames⟩ ts 1 ⟨.conditionOpening, frames⟩ ts.tail := by
  refine .one ?_
  simp only [step, beginOperand, start]

theorem closeCondition (close : (first ts).kind = .rparen) :
    Leads ⟨.operator, .condition :: frames⟩ ts 1 ⟨.blockOpening true, frames⟩ ts.tail := by
  refine .one ?_
  rw [step_operator_of_none (by rw [close]; rfl)]
  exact expect_of_eq close

theorem openBlock {thenBlock : Bool} (opening : (first ts).kind = .lbrace) :
    Leads ⟨.blockOpening thenBlock, frames⟩ ts 1 ⟨.statement, .block thenBlock :: frames⟩ ts.tail :=
  .one (expect_of_eq opening)

theorem closeBlock {thenBlock : Bool} (close : Scope.block.endsAt (first ts).kind = true) :
    Leads ⟨.statement, .block thenBlock :: frames⟩ ts 1 ⟨afterBlock thenBlock, frames⟩ ts.tail :=
  .one (if_pos (Scope.endsAt_block.mp close))

theorem otherwise (kind : (first ts).kind = .else_) :
    Leads ⟨.afterThen, frames⟩ ts 1 ⟨.blockOpening false, frames⟩ ts.tail := .one (if_pos kind)

theorem noElse (kind : (first ts).kind ≠ .else_) :
    Leads ⟨.afterThen, frames⟩ ts 0 ⟨.operator, frames⟩ ts := .of_step_eq (if_neg kind)

theorem function (start : (first ts).kind.start? = some .function) :
    Leads ⟨.operand, frames⟩ ts 1 ⟨.parametersOpening, frames⟩ ts.tail := by
  refine .one ?_
  simp only [step, beginOperand, start]

theorem openParameters (start : (first ts).kind.start? = some .function)
    (opening : (first ts.tail).kind = .lparen) :
    Leads ⟨.operand, frames⟩ ts 2 ⟨.firstParameter, frames⟩ ts.tail.tail :=
  (function start).trans (.one (expect_of_eq opening))

theorem parameter (name : (first ts).kind = .ident) :
    Leads ⟨.parameter, frames⟩ ts 1 ⟨.afterParameter, frames⟩ ts.tail := .one (expect_of_eq name)

theorem nextParameter (comma : (first ts).kind = .comma) :
    Leads ⟨.afterParameter, frames⟩ ts 1 ⟨.parameter, frames⟩ ts.tail := .one (if_pos comma)

theorem closeParameters (close : (first ts).kind = .rparen) :
    Leads ⟨.afterParameter, frames⟩ ts 1 ⟨.blockOpening false, frames⟩ ts.tail := by
  refine .one ?_
  simp [step, expect, close]

theorem someParameter (close : (first ts).kind ≠ .rparen) :
    Leads ⟨.firstParameter, frames⟩ ts 0 ⟨.parameter, frames⟩ ts := .of_step_eq (if_neg close)

theorem binary {op : BinaryOp} (next_eq : (first ts).kind.continuation? = some (.binary op)) :
    Leads ⟨.operator, frames⟩ ts 1 ⟨.operand, frames⟩ ts.tail := by
  refine .one ?_
  simp only [step, afterOperand, next_eq]

theorem openCall (next_eq : (first ts).kind.continuation? = some .call) :
    Leads ⟨.operator, frames⟩ ts 1 ⟨.firstArgument, frames⟩ ts.tail := by
  refine .one ?_
  simp only [step, afterOperand, next_eq]

theorem noArgument (close : (first ts).kind = .rparen) :
    Leads ⟨.firstArgument, frames⟩ ts 1 ⟨.operator, frames⟩ ts.tail := .one (if_pos close)

theorem someArgument (next_eq : (first ts).kind.continuation? = some .call)
    (nonempty : (first ts.tail).kind ≠ .rparen) :
    Leads ⟨.operator, frames⟩ ts 1 ⟨.operand, .call :: frames⟩ ts.tail := by
  have begun : step ⟨.firstArgument, frames⟩ (first ts.tail) =
      step ⟨.operand, .call :: frames⟩ (first ts.tail) := if_neg nonempty
  exact (openCall next_eq).trans (.of_step_eq begun)

theorem nextArgument (comma : (first ts).kind = .comma) :
    Leads ⟨.operator, .call :: frames⟩ ts 1 ⟨.operand, .call :: frames⟩ ts.tail := by
  refine .one ?_
  rw [step_operator_of_none (by rw [comma]; rfl)]
  exact if_pos comma

theorem closeCall (close : (first ts).kind = .rparen) :
    Leads ⟨.operator, .call :: frames⟩ ts 1 ⟨.operator, frames⟩ ts.tail := by
  refine .one ?_
  rw [step_operator_of_none (by rw [close]; rfl)]
  simp [endExpression, expect, close]

variable {scope : Scope}

theorem let_ (fits : scope.Fits frames) (kind : (first ts).kind = .let_) :
    Leads ⟨.statement, frames⟩ ts 1 ⟨.letName, frames⟩ ts.tail := by
  refine .one ?_
  simp only [step, nextStatement_of_more fits (Scope.endsAt_of_eq kind), beginStatement, kind]

theorem letName (name : (first ts).kind = .ident) :
    Leads ⟨.letName, frames⟩ ts 1 ⟨.letAssign, frames⟩ ts.tail := .one (expect_of_eq name)

theorem letAssign (assign : (first ts).kind = .assign) :
    Leads ⟨.letAssign, frames⟩ ts 1 ⟨.operand, frames⟩ ts.tail := .one (expect_of_eq assign)

theorem return_ (fits : scope.Fits frames) (kind : (first ts).kind = .return_) :
    Leads ⟨.statement, frames⟩ ts 1 ⟨.operand, frames⟩ ts.tail := by
  refine .one ?_
  simp only [step, nextStatement_of_more fits (Scope.endsAt_of_eq kind), beginStatement, kind]

theorem expr (fits : scope.Fits frames) (more : scope.endsAt (first ts).kind = false)
    (hlet : (first ts).kind ≠ .let_) (hreturn : (first ts).kind ≠ .return_) :
    Leads ⟨.statement, frames⟩ ts 0 ⟨.operand, frames⟩ ts := by
  refine .of_step_eq ?_
  simp only [step, nextStatement_of_more fits more, beginStatement_of_ne hlet hreturn]

/-- After an expression that goes no further the machine passes over an optional semicolon. -/
theorem afterSemicolon (fits : scope.Fits frames)
    (stop : (first ts.tail).kind.precedence.rank ≤ Precedence.lowest.rank) :
    Leads ⟨.operator, frames⟩ ts.tail (movesOf (semicolonMoves ts)) ⟨.statement, frames⟩
      (LetFn.afterSemicolon ts).tail := by
  have hstep : step ⟨.operator, frames⟩ (first ts.tail) = endExpression frames (first ts.tail) :=
    step_operator_of_none (Kind.continuation?_eq_none_of_le stop)
  rw [endExpression_of_fits fits] at hstep
  unfold LetFn.afterSemicolon semicolonMoves
  split
  · next kind =>
    rw [if_pos kind] at hstep
    exact .one hstep
  · next kind =>
    rw [if_neg kind] at hstep
    exact .of_step_eq hstep

end Leads

end LetFn
