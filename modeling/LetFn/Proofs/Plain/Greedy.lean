import LetFn.Proofs.Plain.Basic
import LetFn.Proofs.Recognizer.Completion

/-!
# The recognizer reads the plain grammar

The machine is greedy: after an operand it goes on with `-` and `(` wherever it can. Where the
plain grammar begins a new statement with such a token the machine goes on with the expression of
the statement before, and this is no loss: `-` takes the operand after it either way, and between
parentheses one expression can be a group and the only argument of a call. So an expression is read
from two configurations (`Enters`), and so are statements (`Between`).

Blocks that are closed at the end of the tokens may as well be left open (`feed_of_closingBraces`).
-/

namespace LetFn

open Config

/-- An expression that begins with the token can be read: an operand is due, or the token goes on
with the operand before. -/
def Enters (c : Config) (frames : List Frame) (t : Token) : Prop :=
  c = ⟨.operand, frames⟩ ∨ c = ⟨.operator, frames⟩ ∧ (t.kind = .minus ∨ t.kind = .lparen)

/-- The machine is among statements: a statement is due, or an expression could end one. -/
def Between (frames : List Frame) (c : Config) : Prop :=
  c = ⟨.statement, frames⟩ ∨ c = ⟨.operator, frames⟩

/-- The tokens `w` lead from `c` to `d` where `more` comes after them. -/
def Passes (c : Config) (w : List Token) (d : Config) (more : List Token) : Prop :=
  ∃ n, Leads c (w ++ more) n d more

namespace Passes

variable {c d e : Config} {v w more : List Token}

theorem nil : Passes c [] c more := ⟨0, .of_step_eq rfl⟩

theorem token {t : Token} (h : Leads c (t :: (w ++ more)) 1 d (w ++ more))
    (h' : Passes d w e more) : Passes c (t :: w) e more := by
  obtain ⟨n, run⟩ := h'
  exact ⟨1 + n, h.trans run⟩

theorem append (h : Passes c v d (w ++ more)) (h' : Passes d w e more) :
    Passes c (v ++ w) e more := by
  obtain ⟨m, run⟩ := h
  obtain ⟨n, run'⟩ := h'
  exact ⟨m + n, by rw [List.append_assoc]; exact run.trans run'⟩

/-- Before the tokens the machine does as if it were in another configuration. -/
theorem skip (h : Leads c (w ++ more) 0 d (w ++ more)) (h' : Passes d w e more) :
    Passes c w e more := by
  obtain ⟨n, run⟩ := h'
  exact ⟨0 + n, h.trans run⟩

/-- After the tokens the machine does as if it were in another configuration. -/
theorem settle (h : Passes c w d more) (h' : Leads d more 0 e more) : Passes c w e more := by
  obtain ⟨n, run⟩ := h
  exact ⟨n + 0, run.trans h'⟩

end Passes

/-- What the tokens of a phrase are for the machine, wherever they stand. -/
def PlainPhrase.Accepted (w : List Token) : PlainPhrase → Prop
  | expression => ∀ c frames more, Enters c frames (first w) → (first more).kind ≠ .else_ →
    Passes c w ⟨.operator, frames⟩ more
  | arguments => ∀ frames more, (first more).kind ≠ .else_ →
    Passes ⟨.operand, .call :: frames⟩ w ⟨.operator, .call :: frames⟩ more
  | block => ∀ thenBlock frames more,
    Passes ⟨.blockOpening thenBlock, frames⟩ w ⟨afterBlock thenBlock, frames⟩ more
  | statements | statement => ∀ (scope : Scope) (frames c more), scope.Fits frames →
    Between frames c → (first more).kind ≠ .else_ →
      ∃ d, Between frames d ∧ Passes c w d more

/-! ## Kinds -/

/-- What can begin an expression, other than `-` and `(`, adds nothing to one. -/
theorem Kind.continuation?_of_start {k : Kind} (start : k.start?.isSome) (minus : k ≠ .minus)
    (lparen : k ≠ .lparen) : k.continuation? = none := by
  cases k <;> first | rfl | contradiction

/-! ## Among statements -/

section

variable {scope : Scope} {frames : List Frame} {c : Config} {ts : List Token}

theorem Leads.between (fits : scope.Fits frames) (stop : (first ts).kind.continuation? = none)
    (semicolon : (first ts).kind ≠ .semicolon) :
    Leads ⟨.operator, frames⟩ ts 0 ⟨.statement, frames⟩ ts := by
  refine .of_step_eq ?_
  rw [step_operator_of_none stop, endExpression_of_fits fits, if_neg semicolon, step]

/-- Among statements, a token that adds nothing to an expression is read as in front of a
statement. -/
theorem Between.statement (h : Between frames c) (fits : scope.Fits frames)
    (stop : (first ts).kind.continuation? = none) (semicolon : (first ts).kind ≠ .semicolon) :
    Leads c ts 0 ⟨.statement, frames⟩ ts := by
  obtain rfl | rfl := h
  · exact .of_step_eq rfl
  · exact .between fits stop semicolon

/-- Among statements an expression can be read. -/
theorem Between.enters (h : Between frames c) (fits : scope.Fits frames)
    (start : (first ts).kind.start?.isSome) :
    ∃ d, Enters d frames (first ts) ∧ Leads c ts 0 d ts := by
  have more : scope.endsAt (first ts).kind = false := Scope.endsAt_of_begins (.inr (.inr start))
  have operand : Leads ⟨.statement, frames⟩ ts 0 ⟨.operand, frames⟩ ts :=
    .expr fits more (Kind.ne_of_start start rfl) (Kind.ne_of_start start rfl)
  by_cases goes : (first ts).kind = .minus ∨ (first ts).kind = .lparen
  · obtain rfl | rfl := h
    · exact ⟨_, .inl rfl, operand⟩
    · exact ⟨_, .inr ⟨rfl, goes⟩, .of_step_eq rfl⟩
  · rw [not_or] at goes
    have stop := Kind.continuation?_of_start start goes.1 goes.2
    have statement := h.statement fits stop (Kind.ne_of_start start rfl)
    exact ⟨_, .inl rfl, statement.trans operand⟩

/-- After the expression of a statement the machine is among statements. -/
theorem OptionalSemicolon.between {ends more : List Token} (h : OptionalSemicolon ends)
    (fits : scope.Fits frames) : ∃ d, Between frames d ∧
      Leads ⟨.operator, frames⟩ (ends ++ more) ends.length d more := by
  obtain rfl | ⟨t, kind, rfl⟩ := h
  · exact ⟨_, .inr rfl, .of_step_eq rfl⟩
  · refine ⟨_, .inl rfl, .one ?_⟩
    rw [List.cons_append, first_cons, step_operator_of_none (by rw [kind]; rfl),
      endExpression_of_fits fits, if_pos kind]

theorem OptionalSemicolon.first_ne_else {ends more : List Token} (h : OptionalSemicolon ends)
    (hmore : (first more).kind ≠ .else_) : (first (ends ++ more)).kind ≠ .else_ := by
  obtain rfl | ⟨t, kind, rfl⟩ := h
  · exact hmore
  · simp [kind]

end

/-! ## Phrases -/

namespace Enters

variable {frames : List Frame} {c : Config} {t : Token}

/-- A token that adds nothing to an expression begins one only where an operand is due. -/
theorem operand_of_none (h : Enters c frames t) (stop : t.kind.continuation? = none) :
    c = ⟨.operand, frames⟩ := by
  obtain rfl | ⟨rfl, kind | kind⟩ := h
  · rfl
  · simp [kind, Kind.continuation?] at stop
  · simp [kind, Kind.continuation?] at stop

/-- An operand of one token. -/
theorem single (h : Enters c frames t) (stop : t.kind.continuation? = none)
    (begun : beginOperand frames t = some ⟨.operator, frames⟩) (more : List Token) :
    Leads c (t :: more) 1 ⟨.operator, frames⟩ more := by
  obtain rfl := h.operand_of_none stop
  exact .one begun

/-- After an operator before an operand, or between two, an operand is due. -/
theorem unary {op : UnaryOp} (h : Enters c frames t) (kind : t.kind = op.kind)
    (more : List Token) : Leads c (t :: more) 1 ⟨.operand, frames⟩ more := by
  obtain rfl | ⟨rfl, minus | lparen⟩ := h
  · exact .unary (Kind.start?_eq_unary.mpr kind)
  · have next_eq : t.kind.continuation? = some (.binary .sub) :=
      Kind.continuation?_eq_binary.mpr minus
    exact .binary next_eq
  · rw [lparen] at kind
    cases op <;> cases kind

/-- After the parenthesis an operand is due, and after it the closing parenthesis can be read. -/
theorem opens (h : Enters c frames t) (kind : t.kind = .lparen) {more : List Token}
    (nonempty : (first more).kind ≠ .rparen) :
    ∃ frame, Leads c (t :: more) 1 ⟨.operand, frame :: frames⟩ more ∧
      ∀ us, (first us).kind = .rparen →
        Leads ⟨.operator, frame :: frames⟩ us 1 ⟨.operator, frames⟩ us.tail := by
  obtain rfl | ⟨rfl, -⟩ := h
  · exact ⟨.group, .openGroup (Kind.start?_eq_group.mpr kind), fun _ close => .closeGroup close⟩
  · exact ⟨.call, .someArgument (Kind.continuation?_eq_call.mpr kind) nonempty,
      fun _ close => .closeCall close⟩

end Enters

theorem PlainNames.leads {names : List Token} (h : PlainNames names) {close : Token}
    (kind : close.kind = .rparen) (frames : List Frame) (more : List Token) :
    Leads ⟨.parameter, frames⟩ (names ++ close :: more) (names.length + 1)
      ⟨.blockOpening false, frames⟩ more := by
  induction h with
  | @one t name =>
    have read : Leads ⟨.parameter, frames⟩ (t :: close :: more) 1 ⟨.afterParameter, frames⟩
      (close :: more) := .parameter name
    exact read.trans (.closeParameters kind)
  | @more t comma ts name comma_kind _ ih =>
    have read : Leads ⟨.parameter, frames⟩ (t :: comma :: (ts ++ close :: more)) 1
      ⟨.afterParameter, frames⟩ (comma :: (ts ++ close :: more)) := .parameter name
    have next : Leads ⟨.afterParameter, frames⟩ (comma :: (ts ++ close :: more)) 1
      ⟨.parameter, frames⟩ (ts ++ close :: more) := .nextParameter comma_kind
    exact ((read.trans next).trans ih).of_eq (by simp only [List.length_cons]; omega)

theorem parameters_leads {names : List Token} (h : names = [] ∨ PlainNames names) {close : Token}
    (kind : close.kind = .rparen) (frames : List Frame) (more : List Token) :
    Leads ⟨.firstParameter, frames⟩ (names ++ close :: more) (names.length + 1)
      ⟨.blockOpening false, frames⟩ more := by
  obtain rfl | h := h
  · exact .one (if_pos kind)
  · have some : (first (names ++ close :: more)).kind ≠ .rparen := by
      cases h with
      | one name | more name => simp [name]
    exact ((Leads.someParameter some).trans (h.leads kind frames more)).of_eq (Nat.zero_add _)

namespace PlainPhrase.Accepted

variable {e : List Token} {frames : List Frame}

/-- A conditional up to the end of its condition. -/
theorem condition (h : expression.Accepted e) {t opening : Token} (kind : t.kind = .if_)
    (opening_kind : opening.kind = .lparen) (frames : List Frame) {more : List Token}
    (close : (first more).kind = .rparen) :
    Passes ⟨.operand, frames⟩ (t :: opening :: e) ⟨.operator, .condition :: frames⟩ more := by
  have inner := h _ (.condition :: frames) more (.inl rfl) (by simp [close])
  refine .token (.conditional (Kind.start?_eq_conditional.mpr kind)) (.token (.one ?_) inner)
  exact expect_of_eq opening_kind

/-- A conditional up to the end of its first block. -/
theorem consequence {b : List Token} (h : expression.Accepted e) {t opening close : Token}
    (kind : t.kind = .if_) (opening_kind : opening.kind = .lparen)
    (close_kind : close.kind = .rparen) (h' : block.Accepted b) (frames : List Frame)
    (more : List Token) :
    Passes ⟨.operand, frames⟩ (t :: opening :: e ++ close :: b) ⟨.afterThen, frames⟩ more := by
  have head : Passes _ (t :: opening :: e) _ (close :: b ++ more) :=
    h.condition kind opening_kind frames close_kind
  exact head.append (.token (.closeCondition close_kind) (h' true frames more))

/-- An expression at the end of a statement. -/
theorem ended (h : expression.Accepted e) {ends more : List Token}
    (optional : OptionalSemicolon ends) {scope : Scope} (fits : scope.Fits frames) {c : Config}
    (begins : Enters c frames (first e)) (hmore : (first more).kind ≠ .else_) :
    ∃ d, Between frames d ∧ Passes c (e ++ ends) d more := by
  have value := h c frames (ends ++ more) begins (optional.first_ne_else hmore)
  obtain ⟨d, between, run⟩ := optional.between fits
  exact ⟨d, between, value.append ⟨_, run⟩⟩

end PlainPhrase.Accepted

namespace Plain

theorem first_append {phrase : PlainPhrase} {w : List Token} (h : Plain phrase w)
    (nonempty : phrase ≠ .statements) (more : List Token) : first (w ++ more) = first w := by
  refine LetFn.first_append ?_ more
  have begins := h.begins
  cases phrase with
  | expression | arguments => exact Kind.ne_of_start begins rfl
  | block =>
    intro heof
    rw [PlainPhrase.Begins, heof] at begins
    cases begins
  | statements => contradiction
  | statement => exact Phrase.ne_eof_of_begins_statement begins

/-- Whatever stands after an expression, its first token is the one it begins with. -/
theorem enters {w : List Token} (h : Plain .expression w) {c : Config} {frames : List Frame}
    {more : List Token} (begins : Enters c frames (first (w ++ more))) :
    Enters c frames (first w) := by
  rwa [h.first_append (by simp)] at begins

/-- A phrase is read wherever it stands. -/
theorem accepted {phrase : PlainPhrase} {w : List Token} (h : Plain phrase w) :
    phrase.Accepted w := by
  induction h with
  | name kind | true_ kind | false_ kind =>
    intro c frames more begins _
    exact .token (begins.single (by rw [first_cons, kind]; rfl)
      (by simp [beginOperand, kind, Kind.start?]) more) .nil
  | integer kind value =>
    intro c frames more begins _
    exact .token (begins.single (by rw [first_cons, kind]; rfl)
      (by simp [beginOperand, kind, Kind.start?, value]) more) .nil
  | unary kind _ ih =>
    intro c frames more begins hmore
    exact .token (begins.unary kind _) (ih _ frames more (.inl rfl) hmore)
  | @binary op t l r kind left _ ih ih' =>
    intro c frames more begins hmore
    have next_eq : t.kind.continuation? = some (.binary op) := Kind.continuation?_eq_binary.mpr kind
    have next : t.kind ≠ .else_ := Kind.ne_of_continuation next_eq rfl
    have operand := ih c frames (t :: r ++ more) (left.enters begins) next
    exact operand.append (.token (.binary next_eq) (ih' _ frames more (.inl rfl) hmore))
  | @emptyCall opening close e opening_kind close_kind callee ih =>
    intro c frames more begins hmore
    have operand := ih c frames (opening :: close :: more) (callee.enters begins)
      (by simp [opening_kind])
    exact operand.append (.token (.openCall (Kind.continuation?_eq_call.mpr opening_kind))
      (.token (.noArgument close_kind) .nil))
  | @call opening close e args opening_kind close_kind callee arguments ih ih' =>
    intro c frames more begins hmore
    rw [List.append_assoc] at begins
    have operand := ih c frames (opening :: args ++ ([close] ++ more)) (callee.enters begins)
      (by simp [opening_kind])
    have nonempty : (first (args ++ ([close] ++ more))).kind ≠ .rparen := by
      rw [arguments.first_append (by simp)]
      exact Kind.ne_of_start arguments.begins rfl
    have inner := ih' frames ([close] ++ more) (by simp [close_kind])
    have opened := operand.append
      (.token (.someArgument (Kind.continuation?_eq_call.mpr opening_kind) nonempty) inner)
    exact opened.append (.token (.closeCall close_kind) .nil)
  | @group opening close e opening_kind close_kind inner ih =>
    intro c frames more begins _
    have nonempty : (first (e ++ ([close] ++ more))).kind ≠ .rparen := by
      rw [inner.first_append (by simp)]
      exact Kind.ne_of_start inner.begins rfl
    obtain ⟨frame, opens, closes⟩ := begins.opens opening_kind nonempty
    have inner := ih _ (frame :: frames) ([close] ++ more) (.inl rfl) (by simp [close_kind])
    have opened : Passes c (opening :: e) _ ([close] ++ more) := .token opens inner
    exact opened.append (.token (closes (close :: more) close_kind) .nil)
  | ifThen kind opening_kind close_kind _ _ ih ih' =>
    intro c frames more begins hmore
    obtain rfl := begins.operand_of_none (by simp [kind, Kind.continuation?])
    have head := ih.consequence kind opening_kind close_kind ih' frames more
    exact head.settle (.noElse hmore)
  | @ifThenElse _ _ _ otherwise _ _ a kind opening_kind close_kind otherwise_kind _ _ _
      ih ih' ih'' =>
    intro c frames more begins _
    obtain rfl := begins.operand_of_none (by simp [kind, Kind.continuation?])
    have head := ih.consequence kind opening_kind close_kind ih' frames (otherwise :: a ++ more)
    exact head.append (.token (.otherwise otherwise_kind) (ih'' false frames more))
  | @function t opening close names b kind opening_kind close_kind parameters _ ih =>
    intro c frames more begins _
    obtain rfl := begins.operand_of_none (by simp [kind, Kind.continuation?])
    have head : Leads ⟨.operand, frames⟩ (t :: opening :: (names ++ close :: (b ++ more))) 2
        ⟨.firstParameter, frames⟩ (names ++ close :: (b ++ more)) :=
      .openParameters (Kind.start?_eq_function.mpr kind) opening_kind
    have hnames := parameters_leads parameters close_kind frames (b ++ more)
    obtain ⟨_, body⟩ := ih false frames more
    have run := (head.trans hnames).trans body
    exact ⟨_, by simp only [List.append_assoc, List.cons_append]; exact run⟩
  | oneArgument _ ih =>
    intro frames more hmore
    exact ih _ (.call :: frames) more (.inl rfl) hmore
  | @moreArguments comma e args kind _ _ ih ih' =>
    intro frames more hmore
    have one := ih _ (.call :: frames) (comma :: args ++ more) (.inl rfl) (by simp [kind])
    exact one.append (.token (.nextArgument kind) (ih' frames more hmore))
  | @block opening close ss opening_kind close_kind _ ih =>
    intro thenBlock frames more
    have fits : Scope.block.Fits (.block thenBlock :: frames) := ⟨thenBlock, frames, rfl⟩
    obtain ⟨d, between, body⟩ := ih _ _ _ ([close] ++ more) fits (.inl rfl) (by simp [close_kind])
    have last : Leads d (close :: more) 0 ⟨.statement, .block thenBlock :: frames⟩
        (close :: more) :=
      between.statement fits (by rw [first_cons, close_kind]; rfl) (by simp [close_kind])
    have opened : Passes _ (opening :: ss) _ ([close] ++ more) :=
      .token (.openBlock opening_kind) (body.settle last)
    exact opened.append (.token (.closeBlock (by rw [first_cons, close_kind]; rfl)) .nil)
  | noStatements => exact fun _ _ c _ _ between _ => ⟨c, between, .nil⟩
  | @moreStatements s ss _ statements ih ih' =>
    intro scope frames c more fits between hmore
    have next : (first (ss ++ more)).kind ≠ .else_ := by
      obtain rfl | begins := statements.begins
      · exact hmore
      · rw [LetFn.first_append (Phrase.ne_eof_of_begins_statement begins)]
        intro kind
        simp [kind, Phrase.Begins, Kind.start?] at begins
    obtain ⟨d, between', one⟩ := ih _ frames c (ss ++ more) fits between next
    obtain ⟨e, between'', others⟩ := ih' _ frames d more fits between' hmore
    exact ⟨e, between'', one.append others⟩
  | let_ kind name_kind assign_kind _ optional ih =>
    intro scope frames c more fits between hmore
    obtain ⟨d, between', value⟩ := ih.ended optional fits (.inl rfl) hmore
    refine ⟨d, between', .skip ?_ (.token (.let_ fits kind) ?_)⟩
    · exact between.statement fits (by simp [kind, Kind.continuation?]) (by simp [kind])
    · exact .token (.letName name_kind) (.token (.letAssign assign_kind) value)
  | return_ kind _ optional ih =>
    intro scope frames c more fits between hmore
    obtain ⟨d, between', value⟩ := ih.ended optional fits (.inl rfl) hmore
    refine ⟨d, between', .skip ?_ (.token (.return_ fits kind) value)⟩
    exact between.statement fits (by simp [kind, Kind.continuation?]) (by simp [kind])
  | @expr e ends value optional ih =>
    intro scope frames c more fits between hmore
    have start : (first (e ++ ends ++ more)).kind.start?.isSome := by
      rw [List.append_assoc, value.first_append (by simp)]
      exact value.begins
    obtain ⟨c', begins, head⟩ := between.enters fits start
    rw [List.append_assoc] at begins
    obtain ⟨d, between', run⟩ := ih.ended optional fits (value.enters begins) hmore
    exact ⟨d, between', .skip head run⟩

end Plain

/-! ## Programs -/

/-- Where a run ends at the end of a program, the machine is never stuck. -/
theorem Between.feed_isSome {d : Config} (h : Between [] d) (n : Nat) : (feed n d []).isSome := by
  obtain rfl | rfl := h
  · rw [← start, feed_start_nil]
    rfl
  · exact feed_end false n

theorem Leads.feed_isSome {c d : Config} {us : List Token} {m : Nat} (h : Leads c us m d [])
    (hd : ∀ n, (feed n d []).isSome) (n : Nat) : (feed n c us).isSome := by
  obtain ⟨hdrop, e, he, hstep⟩ := h
  refine feed_isSome_of_le (Nat.le_add_left n m) ?_
  rw [feed_add, he, hdrop, Option.bind_some]
  cases n with
  | zero => rfl
  | succ n =>
    rw [feed_congr hstep n.succ_ne_zero]
    exact hd (n + 1)

namespace Config

variable {c d : Config} {frames : List Frame} {t : Token}

theorem beginStatement_of_brace (kind : t.kind = .rbrace) : beginStatement frames t = none := by
  simp [beginStatement, beginOperand, kind, Kind.start?]

theorem nextStatement_eof_of_brace (kind : t.kind = .rbrace) (h : nextStatement frames t = some d) :
    nextStatement frames Token.eof = some d := by
  unfold nextStatement at h ⊢
  split at h
  · simp [kind, beginStatement_of_brace kind] at h
  · simpa [kind, Token.eof] using h
  · simp [beginStatement_of_brace kind] at h

theorem endExpression_eof_of_brace (kind : t.kind = .rbrace) (h : endExpression frames t = some d) :
    endExpression frames Token.eof = some d := by
  unfold endExpression at h ⊢
  split at h
  · simp [expect, kind] at h
  · simp [expect, kind] at h
  · simp [expect, kind] at h
  · rw [if_neg (by simp [kind])] at h
    exact nextStatement_eof_of_brace kind h

/-- The end of the text closes a block like a brace. -/
theorem step_eof_of_brace (kind : t.kind = .rbrace) (h : c.step t = some d) :
    c.step Token.eof = some d := by
  obtain ⟨place, frames⟩ := c
  have stop : t.kind.continuation? = none := by rw [kind]; rfl
  cases place with
  | operator =>
    rw [step_operator_of_none stop] at h
    exact endExpression_eof_of_brace kind h
  | afterThen =>
    have h' : step ⟨.operator, frames⟩ t = some d := by
      rwa [step, if_neg (by simp [kind])] at h
    rw [step_operator_of_none stop] at h'
    exact endExpression_eof_of_brace kind h'
  | statement => exact nextStatement_eof_of_brace kind h
  | operand | firstArgument => simp [step, beginOperand, kind, Kind.start?] at h
  | _ => simp [step, expect, kind] at h

/-- Braces can be left out at the end of the text. -/
theorem feed_of_closingBraces {n k : Nat} {ts : List Token}
    (h : feed n c (ts ++ closingBraces k) = some d) : feed n c ts = some d := by
  induction n generalizing c ts k with
  | zero => exact h
  | succ n ih =>
    cases ts with
    | cons t ts =>
      rw [List.cons_append, feed_succ, first_cons, List.tail_cons] at h
      obtain ⟨e, hstep, hrest⟩ := Option.bind_eq_some_iff.mp h
      rw [feed_succ, first_cons, hstep]
      exact ih hrest
    | nil =>
      cases k with
      | zero => exact h
      | succ k =>
        rw [List.nil_append, closingBraces_succ, feed_succ, first_cons, List.tail_cons] at h
        obtain ⟨e, hstep, hrest⟩ := Option.bind_eq_some_iff.mp h
        rw [feed_succ, first_nil, step_eof_of_brace rfl hstep]
        exact ih hrest

end Config

/-- A program of the plain grammar is read without errors, also when braces at its end are left
out. -/
theorem Plain.errors_eq_nil {ts : List Token} {k : Nat}
    (h : Plain .statements (ts ++ closingBraces k)) : (parseTokens ts).errors = [] := by
  refine errors_eq_nil_of_feed fun n => ?_
  have fits : Scope.program.Fits [] := rfl
  obtain ⟨d, between, _, run⟩ := h.accepted _ [] start [] fits (.inl rfl) (by decide)
  rw [List.append_nil] at run
  obtain ⟨e, he⟩ := Option.isSome_iff_exists.mp (run.feed_isSome between.feed_isSome n)
  rw [feed_of_closingBraces he]
  rfl

end LetFn
