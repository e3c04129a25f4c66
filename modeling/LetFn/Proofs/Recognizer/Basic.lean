import LetFn.Proofs.Reading.Basic

/-!
# A machine that recognizes programs

Whether tokens can be the beginning of a program is decided token by token. The machine here is in
a `Config`: a `Place` says what is due next, and a stack of `Frame`s which constructs are open.
`Config.step` reads one token, and fails at a token that cannot follow what was read before.

The machine builds no tree, so it needs no precedences: after an operand it goes on with any
operator. The end of the text closes a block like a closing brace, and can be read again and again.
So the machine reads a list of tokens as a reader does, with no end of the tokens after the last
one (`Config.feed`).

* `Leads c us n d vs`: from `c` the machine reads `n` tokens of `us`, has `vs` left and does then
  as if it were in `d`. Such runs compose (`Leads.trans`).
* `Stuck c us n`: from `c` it reads `n` tokens of `us` and fails at the next.
-/

namespace LetFn

/-- A construct that is open. -/
inductive Frame where
  /-- Parentheses around an expression. -/
  | group
  /-- The parentheses of a call. -/
  | call
  /-- The parentheses around the condition of a conditional. -/
  | condition
  /-- A block, after which an `else` may follow or not. -/
  | block (thenBlock : Bool)
  deriving DecidableEq, Repr

/-- What is due at the next token. -/
inductive Place where
  | operand
  /-- An operand was read. -/
  | operator
  /-- The block of a conditional was read, after which `else` may follow. -/
  | afterThen
  | statement
  /-- The first argument of a call, or a closing parenthesis. -/
  | firstArgument
  | conditionOpening
  /-- The opening brace of a block. -/
  | blockOpening (thenBlock : Bool)
  | letName
  | letAssign
  | parametersOpening
  /-- The first parameter of a function, or a closing parenthesis. -/
  | firstParameter
  | parameter
  | afterParameter
  deriving DecidableEq, Repr

/-- A configuration of the machine. -/
structure Config where
  place : Place
  frames : List Frame
  deriving DecidableEq, Repr

namespace Config

/-- The configuration before a program. -/
def start : Config := ⟨.statement, []⟩

/-- The configuration after a token of the kind that is due. -/
def expect (k : Kind) (after : Config) (t : Token) : Option Config :=
  if t.kind = k then some after else none

/-- The place after a block. -/
def afterBlock (thenBlock : Bool) : Place := if thenBlock then .afterThen else .operator

/-- The first token of an operand. -/
def beginOperand (frames : List Frame) (t : Token) : Option Config :=
  match t.kind.start? with
  | none => none
  | some .name | some .boolean => some ⟨.operator, frames⟩
  | some .integer => if (Numeral.value? t.literal).isSome then some ⟨.operator, frames⟩ else none
  | some (.unary _) => some ⟨.operand, frames⟩
  | some .group => some ⟨.operand, .group :: frames⟩
  | some .conditional => some ⟨.conditionOpening, frames⟩
  | some .function => some ⟨.parametersOpening, frames⟩

/-- The first token of a statement. -/
def beginStatement (frames : List Frame) (t : Token) : Option Config :=
  match t.kind with
  | .let_ => some ⟨.letName, frames⟩
  | .return_ => some ⟨.operand, frames⟩
  | _ => beginOperand frames t

/-- The first token of a statement, or the end of the statements. -/
def nextStatement (frames : List Frame) (t : Token) : Option Config :=
  match frames with
  | [] => if t.kind = .eof then some ⟨.statement, []⟩ else beginStatement [] t
  | .block thenBlock :: outer =>
    if t.kind = .rbrace ∨ t.kind = .eof then some ⟨afterBlock thenBlock, outer⟩
    else beginStatement frames t
  | _ => beginStatement frames t

/-- A token after an expression that does not go on with it. -/
def endExpression (frames : List Frame) (t : Token) : Option Config :=
  match frames with
  | .group :: outer => expect .rparen ⟨.operator, outer⟩ t
  | .call :: outer =>
    if t.kind = .comma then some ⟨.operand, frames⟩ else expect .rparen ⟨.operator, outer⟩ t
  | .condition :: outer => expect .rparen ⟨.blockOpening true, outer⟩ t
  | _ => if t.kind = .semicolon then some ⟨.statement, frames⟩ else nextStatement frames t

/-- A token after an operand. -/
def afterOperand (frames : List Frame) (t : Token) : Option Config :=
  match t.kind.continuation? with
  | some (.binary _) => some ⟨.operand, frames⟩
  | some .call => some ⟨.firstArgument, frames⟩
  | none => endExpression frames t

/-- The configuration after one more token. -/
def step : Config → Token → Option Config
  | ⟨.operand, frames⟩, t => beginOperand frames t
  | ⟨.operator, frames⟩, t => afterOperand frames t
  | ⟨.afterThen, frames⟩, t =>
    if t.kind = .else_ then some ⟨.blockOpening false, frames⟩ else afterOperand frames t
  | ⟨.statement, frames⟩, t => nextStatement frames t
  | ⟨.firstArgument, frames⟩, t =>
    if t.kind = .rparen then some ⟨.operator, frames⟩ else beginOperand (.call :: frames) t
  | ⟨.conditionOpening, frames⟩, t => expect .lparen ⟨.operand, .condition :: frames⟩ t
  | ⟨.blockOpening thenBlock, frames⟩, t =>
    expect .lbrace ⟨.statement, .block thenBlock :: frames⟩ t
  | ⟨.letName, frames⟩, t => expect .ident ⟨.letAssign, frames⟩ t
  | ⟨.letAssign, frames⟩, t => expect .assign ⟨.operand, frames⟩ t
  | ⟨.parametersOpening, frames⟩, t => expect .lparen ⟨.firstParameter, frames⟩ t
  | ⟨.firstParameter, frames⟩, t =>
    if t.kind = .rparen then some ⟨.blockOpening false, frames⟩
    else expect .ident ⟨.afterParameter, frames⟩ t
  | ⟨.parameter, frames⟩, t => expect .ident ⟨.afterParameter, frames⟩ t
  | ⟨.afterParameter, frames⟩, t =>
    if t.kind = .comma then some ⟨.parameter, frames⟩
    else expect .rparen ⟨.blockOpening false, frames⟩ t

/-- The configuration after as many of the tokens, followed by ends of the text. -/
def feed : Nat → Config → List Token → Option Config
  | 0, c, _ => some c
  | n + 1, c, ts => (c.step (first ts)).bind fun d => feed n d ts.tail

@[simp] theorem feed_zero (c : Config) (ts : List Token) : feed 0 c ts = some c := rfl

theorem feed_succ (n : Nat) (c : Config) (ts : List Token) :
    feed (n + 1) c ts = (c.step (first ts)).bind fun d => feed n d ts.tail := rfl

/-- Only the next token tells configurations apart. -/
theorem feed_congr {c d : Config} {ts : List Token} (h : c.step (first ts) = d.step (first ts))
    {n : Nat} (hn : n ≠ 0) : feed n c ts = feed n d ts := by
  cases n with
  | zero => exact absurd rfl hn
  | succ n => rw [feed_succ, feed_succ, h]

theorem feed_add (m n : Nat) (c : Config) (ts : List Token) :
    feed (m + n) c ts = (feed m c ts).bind fun d => feed n d (ts.drop m) := by
  induction m generalizing c ts with
  | zero => simp
  | succ m ih =>
    rw [Nat.add_right_comm, feed_succ, feed_succ, Option.bind_assoc]
    congr 1
    funext d
    rw [ih, List.drop_tail]

/-- What can be read in part can be read in smaller part. -/
theorem feed_isSome_of_le {m n : Nat} (h : m ≤ n) {c : Config} {ts : List Token}
    (hn : (feed n c ts).isSome) : (feed m c ts).isSome := by
  obtain ⟨k, rfl⟩ := Nat.exists_eq_add_of_le h
  rw [feed_add] at hn
  exact Option.isSome_of_isSome_bind hn

end Config

open Config

/-! ## Runs -/

/-- From `c` the machine reads `n` of the tokens `us`, has `vs` left, and reads the first of these
as it does from `d`. -/
def Leads (c : Config) (us : List Token) (n : Nat) (d : Config) (vs : List Token) : Prop :=
  us.drop n = vs ∧ ∃ e, feed n c us = some e ∧ e.step (first vs) = d.step (first vs)

/-- From `c` the machine reads `n` of the tokens `us` and fails at the next. -/
def Stuck (c : Config) (us : List Token) (n : Nat) : Prop :=
  ∃ e, feed n c us = some e ∧ e.step (first (us.drop n)) = none

variable {c d e : Config} {us vs ws : List Token} {m n : Nat}

namespace Leads

/-- Configurations that read the next token alike lead to each other. -/
theorem of_step_eq (h : c.step (first us) = d.step (first us)) : Leads c us 0 d us :=
  ⟨rfl, c, rfl, h⟩

theorem one (h : c.step (first us) = some d) : Leads c us 1 d us.tail :=
  ⟨by simp, d, by simp [feed_succ, h], rfl⟩

theorem trans (h : Leads c us m d vs) (h' : Leads d vs n e ws) : Leads c us (m + n) e ws := by
  obtain ⟨rfl, c', hc, hstep⟩ := h
  obtain ⟨rfl, d', hd, hstep'⟩ := h'
  refine ⟨by rw [List.drop_drop], ?_⟩
  rw [feed_add, hc, Option.bind_some]
  cases n with
  | zero =>
    obtain rfl := Option.some.inj hd
    exact ⟨c', rfl, hstep.trans hstep'⟩
  | succ n => exact ⟨d', (feed_congr hstep n.succ_ne_zero).trans hd, hstep'⟩

theorem stuck (h : Leads c us m d vs) (h' : Stuck d vs n) : Stuck c us (m + n) := by
  obtain ⟨rfl, c', hc, hstep⟩ := h
  obtain ⟨d', hd, hnone⟩ := h'
  rw [List.drop_drop] at hnone
  rw [Stuck, feed_add, hc, Option.bind_some]
  cases n with
  | zero =>
    obtain rfl := Option.some.inj hd
    exact ⟨c', rfl, hstep.trans hnone⟩
  | succ n => exact ⟨d', (feed_congr hstep n.succ_ne_zero).trans hd, hnone⟩

theorem of_eq (h : Leads c us m d vs) (hn : m = n) : Leads c us n d vs := hn ▸ h

end Leads

namespace Stuck

theorem here (h : c.step (first us) = none) : Stuck c us 0 := ⟨c, rfl, h⟩

/-- A stuck machine has read all but the next token. -/
theorem feed_isSome (h : Stuck c us n) : (feed n c us).isSome := by
  obtain ⟨e, he, -⟩ := h
  rw [he]
  rfl

theorem feed_eq_none (h : Stuck c us n) : feed (n + 1) c us = none := by
  obtain ⟨e, he, hstep⟩ := h
  rw [feed_add, he, Option.bind_some, feed_succ, hstep, Option.bind_none]

end Stuck

end LetFn
