import LetFn.Proofs.Reading.Total
import LetFn.Proofs.Reading.Log
import LetFn.Proofs.Recognizer.Steps

/-!
# The recognizer follows a reader

What a reader reads without an error the machine reads too, and at the first error of a reader the
machine is stuck. The token at which it is stuck is the offending one (`offending`): the current
token of the reader where an expression or an integer could not be read, and the token after it
where another one was expected.

The machine is never more than one token ahead of the reader: it has read the current token or has
not. `Tracks` says how the two stand before and after some steps, and composes. So each way to do a
task is a short run of the machine (`Task.Tracked`), and a reading is followed rule by rule
(`Reads.tracked`).
-/

namespace LetFn

open Config

/-! ## The machine beside a reader -/

/-- The machine keeps up with a reader that takes these steps. Before them it is in `c` and has read
`a` of the tokens `ts` of the reader, and after them it has read `b` of the tokens `rest`. If the
steps report no error it is then in `d`, and at their first error it is stuck. -/
structure Tracks (a : Nat) (c : Config) (ts : List Token) (events : List Event) (b : Nat)
    (d : Config) (rest : List Token) : Prop where
  follows : errorsOf events = [] →
    ∃ n, a + n = movesOf events + b ∧ Leads c (ts.drop a) n d (rest.drop b)
  sticks : ∀ j, offending events = some j → ∃ i, a + i = j ∧ Stuck c (ts.drop a) i

namespace Tracks

variable {a b k : Nat} {c d e : Config} {ts mid rest : List Token} {es fs : List Event}

theorem nil : Tracks a c ts [] a c ts where
  follows _ := ⟨0, by simp, .of_step_eq rfl⟩
  sticks := by simp

/-- Steps after each other. What comes after an error makes no difference. -/
theorem append (h : Tracks a c ts es b d mid)
    (h' : errorsOf es = [] → Tracks b d mid fs k e rest) : Tracks a c ts (es ++ fs) k e rest where
  follows clean := by
    rw [errorsOf_append, List.append_eq_nil_iff] at clean
    obtain ⟨m, hm, run⟩ := h.follows clean.1
    obtain ⟨n, hn, run'⟩ := (h' clean.1).follows clean.2
    exact ⟨m + n, by rw [movesOf_append]; omega, run.trans run'⟩
  sticks j first_error := by
    obtain h₁ | ⟨clean, i, h₂, rfl⟩ := offending_append_eq_some.mp first_error
    · exact h.sticks j h₁
    · obtain ⟨m, hm, run⟩ := h.follows clean
      obtain ⟨i, rfl, stuck⟩ := (h' clean).sticks i h₂
      exact ⟨m + i, by omega, run.stuck stuck⟩

/-- The machine reads the current token first. -/
theorem read (h : Leads c ts 1 d ts.tail) (h' : Tracks 1 d ts es b e rest) :
    Tracks 0 c ts es b e rest where
  follows clean := by
    obtain ⟨n, hn, run⟩ := h'.follows clean
    rw [List.drop_one] at run
    exact ⟨1 + n, by omega, h.trans run⟩
  sticks j first_error := by
    obtain ⟨i, rfl, stuck⟩ := h'.sticks j first_error
    rw [List.drop_one] at stuck
    exact ⟨1 + i, by omega, h.stuck stuck⟩

/-- The reader moves on to the token that the machine is at. -/
theorem move (h : Tracks 0 c ts.tail es b d rest) : Tracks 1 c ts (.move ts :: es) b d rest where
  follows clean := by
    obtain ⟨n, hn, run⟩ := h.follows clean
    rw [List.drop_zero, ← List.drop_one] at run
    exact ⟨n, by simp; omega, run⟩
  sticks j first_error := by
    obtain ⟨i, hi, rfl⟩ := offending_move_eq_some.mp first_error
    obtain ⟨i, rfl, stuck⟩ := h.sticks i hi
    rw [List.drop_zero, ← List.drop_one] at stuck
    exact ⟨i, by omega, stuck⟩

/-- That a statement begins is nothing to the machine. -/
theorem statement {t : Token} (h : Tracks a c ts es b d rest) :
    Tracks a c ts (.statement t :: es) b d rest where
  follows clean := by simpa using h.follows clean
  sticks j first_error := h.sticks j (by simpa using first_error)

/-- After the steps the machine does as if it were in another configuration. -/
theorem settle (h : Tracks a c ts es 1 d rest) (h' : Leads d rest.tail 0 e rest.tail) :
    Tracks a c ts es 1 e rest where
  follows clean := by
    obtain ⟨n, hn, run⟩ := h.follows clean
    rw [List.drop_one] at run ⊢
    exact ⟨n, hn, run.trans h'⟩
  sticks := h.sticks

/-- After the steps the machine reads the current token. -/
theorem finish (h : Tracks a c ts es 0 d rest) (h' : Leads d rest 1 e rest.tail) :
    Tracks a c ts es 1 e rest where
  follows clean := by
    obtain ⟨n, hn, run⟩ := h.follows clean
    exact ⟨n + 1, by omega, List.drop_one ▸ run.trans h'⟩
  sticks := h.sticks

/-- Before the steps the machine does as if it were in another configuration. -/
theorem skip {us : List Token} (hus : ts.drop a = us) (h : Leads c us 0 d us)
    (h' : Tracks a d ts es b e rest) : Tracks a c ts es b e rest where
  follows clean := by
    subst hus
    obtain ⟨n, hn, run⟩ := h'.follows clean
    exact ⟨0 + n, by omega, h.trans run⟩
  sticks j first_error := by
    subst hus
    obtain ⟨i, hi, stuck⟩ := h'.sticks j first_error
    exact ⟨0 + i, by omega, h.stuck stuck⟩

/-- After an error it is all the same where the machine would be without it. -/
theorem lost (h : Tracks a c ts es b d rest) (errors : errorsOf es ≠ []) :
    Tracks a c ts es k e mid where
  follows clean := absurd clean errors
  sticks := h.sticks

/-- The reader misses a token of a kind, and the machine is stuck at the token in its place. -/
theorem missing {kind : Kind} (h : Stuck c ts.tail 0) :
    Tracks 1 c ts [.missing ts kind] b d rest where
  follows clean := by simp at clean
  sticks := by
    rintro _ ⟨⟩
    exact ⟨0, rfl, List.drop_one ▸ h⟩

/-- The reader fails at the current token, and so does the machine. -/
theorem fail {error : ParseError} (h : Stuck c ts 0) (here : error.ahead = 0 := by rfl) :
    Tracks 0 c ts [.fail ts error] b d rest where
  follows clean := by simp at clean
  sticks j first_error := by
    rw [offending_fail, here] at first_error
    exact ⟨0, Option.some.inj first_error, h⟩

/-- After an expression that goes no further comes an optional semicolon. -/
theorem semicolon {scope : Scope} {frames : List Frame} (fits : scope.Fits frames)
    (stop : (first ts.tail).kind.precedence.rank ≤ Precedence.lowest.rank) :
    Tracks 1 ⟨.operator, frames⟩ ts (semicolonMoves ts) 1 ⟨.statement, frames⟩
      (afterSemicolon ts) where
  follows _ := by
    rw [List.drop_one, List.drop_one]
    exact ⟨_, Nat.add_comm _ _, .afterSemicolon fits stop⟩
  sticks := by simp

end Tracks

/-! ## Readings -/

/-- What the machine does beside a reader with the task. It has read the current token where the
task is given what that token began. -/
def Task.Tracked (ts rest : List Token) (events : List Event) : (task : Task) → task.Result → Prop
  | expression _, _ =>
    ∀ frames, Tracks 0 ⟨.operand, frames⟩ ts events 1 ⟨.operator, frames⟩ rest
  | operand start, _ => (first ts).kind.start? = some start →
    ∀ frames, Tracks 0 ⟨.operand, frames⟩ ts events 1 ⟨.operator, frames⟩ rest
  | climb _ _, _ => ∀ frames, Tracks 1 ⟨.operator, frames⟩ ts events 1 ⟨.operator, frames⟩ rest
  | continued next _, _ => (first ts).kind.continuation? = some next →
    ∀ frames, Tracks 0 ⟨.operator, frames⟩ ts events 1 ⟨.operator, frames⟩ rest
  | arguments, _ => ∀ frames,
    Tracks 0 ⟨.operand, .call :: frames⟩ ts events 1 ⟨.operator, .call :: frames⟩ rest
  | names, v => (v = none → errorsOf events ≠ []) ∧
    ∀ frames, Tracks 1 ⟨.parameter, frames⟩ ts events 1 ⟨.blockOpening false, frames⟩ rest
  | parameters, v => (v = none → errorsOf events ≠ []) ∧
    ∀ frames, Tracks 1 ⟨.firstParameter, frames⟩ ts events 1 ⟨.blockOpening false, frames⟩ rest
  | block, _ => ∀ thenBlock frames, Tracks 1 ⟨.statement, .block thenBlock :: frames⟩ ts events 1
    ⟨afterBlock thenBlock, frames⟩ rest
  | statements scope, _ => ∀ frames, scope.Fits frames →
    Tracks 0 ⟨.statement, frames⟩ ts events 0 ⟨.statement, frames⟩ rest
  | statement, _ => ∀ (scope : Scope) (frames), scope.Fits frames →
    scope.endsAt (first ts).kind = false →
      Tracks 0 ⟨.statement, frames⟩ ts events 1 ⟨.statement, frames⟩ rest

namespace Tracks

variable {ts mid rest : List Token} {es fs : List Event} {e : Expr}

/-- A conditional up to the end of its condition. -/
theorem condition (start : (first ts).kind.start? = some .conditional)
    (opening : (first ts.tail).kind = .lparen)
    (h : (Task.expression .lowest).Tracked ts.tail.tail rest es e) (frames : List Frame) :
    Tracks 0 ⟨.operand, frames⟩ ts (.move ts :: .move ts.tail :: es) 1
      ⟨.operator, .condition :: frames⟩ rest :=
  .read (.conditional start) (.move (.read (.one (expect_of_eq opening)) (.move (h _))))

/-- A conditional up to the end of its first block. -/
theorem consequence {b : Block} (start : (first ts).kind.start? = some .conditional)
    (opening : (first ts.tail).kind = .lparen)
    (h : (Task.expression .lowest).Tracked ts.tail.tail mid es e)
    (close : (first mid.tail).kind = .rparen) (brace : (first mid.tail.tail).kind = .lbrace)
    (h' : Task.block.Tracked mid.tail.tail rest fs b) (frames : List Frame) :
    Tracks 0 ⟨.operand, frames⟩ ts
      (.move ts :: .move ts.tail :: es ++ .move mid :: .move mid.tail :: fs) 1
      ⟨.afterThen, frames⟩ rest :=
  (condition start opening h frames).append fun _ =>
    .move (.read (.closeCondition close) (.move (.read (.openBlock brace) (h' true frames))))

/-- A function up to the end of its parameters. -/
theorem parameters {v : Option (List Ident)} (start : (first ts).kind.start? = some .function)
    (opening : (first ts.tail).kind = .lparen)
    (h : Task.parameters.Tracked ts.tail rest es v) (frames : List Frame) :
    Tracks 0 ⟨.operand, frames⟩ ts (.move ts :: es) 1 ⟨.blockOpening false, frames⟩ rest :=
  .read (.function start) (.move (.read (.one (expect_of_eq opening)) (h.2 frames)))

end Tracks

namespace Task.Tracked

variable {ts mid mid' rest : List Token} {es fs gs : List Event} {e v left : Expr} {b a : Block}

/-! ### Operands -/

theorem unary {op : UnaryOp} (right : (expression .unary).Tracked ts.tail rest es e) :
    (operand (.unary op)).Tracked ts rest (.move ts :: es) v :=
  fun start frames => .read (.unary start) (.move (right frames))

theorem group (inner : (expression .lowest).Tracked ts.tail rest es e)
    (close : (first rest.tail).kind = .rparen) :
    (operand .group).Tracked ts rest.tail (.move ts :: es ++ [.move rest]) v := by
  intro start frames
  have run := (inner (.group :: frames)).move
  exact .read (.openGroup start) (run.append fun _ => .move (.read (.closeGroup close) .nil))

theorem openGroup (inner : (expression .lowest).Tracked ts.tail rest es e)
    (stop : errorsOf es = [] → (first rest.tail).kind.precedence.rank ≤ Precedence.lowest.rank)
    (close : (first rest.tail).kind ≠ .rparen) :
    (operand .group).Tracked ts rest (.move ts :: es ++ [.missing rest .rparen]) v := by
  intro start frames
  have run := (inner (.group :: frames)).move
  exact .read (.openGroup start) (run.append fun clean => .missing (.group (stop clean) close))

/-! ### Conditionals -/

theorem openCondition (opening : (first ts.tail).kind = .lparen)
    (condition : (expression .lowest).Tracked ts.tail.tail rest es e)
    (stop : errorsOf es = [] → (first rest.tail).kind.precedence.rank ≤ Precedence.lowest.rank)
    (close : (first rest.tail).kind ≠ .rparen) :
    (operand .conditional).Tracked ts rest
      (.move ts :: .move ts.tail :: es ++ [.missing rest .rparen]) v := by
  intro start frames
  have run := Tracks.condition start opening condition frames
  exact run.append fun clean => .missing (.condition (stop clean) close)

theorem noConsequence (opening : (first ts.tail).kind = .lparen)
    (condition : (expression .lowest).Tracked ts.tail.tail rest es e)
    (close : (first rest.tail).kind = .rparen) (brace : (first rest.tail.tail).kind ≠ .lbrace) :
    (operand .conditional).Tracked ts rest.tail
      (.move ts :: .move ts.tail :: es ++ [.move rest, .missing rest.tail .lbrace]) v := by
  intro start frames
  have run := Tracks.condition start opening condition frames
  exact run.append fun _ =>
    .move (.read (.closeCondition close) (.missing (.here (expect_of_ne brace))))

section

variable (opening : (first ts.tail).kind = .lparen)
  (condition : (expression .lowest).Tracked ts.tail.tail mid es e)
  (close : (first mid.tail).kind = .rparen) (brace : (first mid.tail.tail).kind = .lbrace)
  (consequence : block.Tracked mid.tail.tail mid' fs b)

include opening condition close brace consequence

theorem ifThen (noElse : (first mid'.tail).kind ≠ .else_) :
    (operand .conditional).Tracked ts mid'
      (.move ts :: .move ts.tail :: es ++ .move mid :: .move mid.tail :: fs) v := by
  intro start frames
  have run := Tracks.consequence start opening condition close brace consequence frames
  exact run.settle (.noElse noElse)

theorem noAlternative (otherwise : (first mid'.tail).kind = .else_)
    (brace' : (first mid'.tail.tail).kind ≠ .lbrace) :
    (operand .conditional).Tracked ts mid'.tail
      (.move ts :: .move ts.tail :: es ++ .move mid :: .move mid.tail :: fs ++
        [.move mid', .missing mid'.tail .lbrace]) v := by
  intro start frames
  have run := Tracks.consequence start opening condition close brace consequence frames
  exact run.append fun _ =>
    .move (.read (.otherwise otherwise) (.missing (.here (expect_of_ne brace'))))

theorem ifThenElse (otherwise : (first mid'.tail).kind = .else_)
    (brace' : (first mid'.tail.tail).kind = .lbrace)
    (alternative : block.Tracked mid'.tail.tail rest gs a) :
    (operand .conditional).Tracked ts rest
      (.move ts :: .move ts.tail :: es ++ .move mid :: .move mid.tail :: fs ++
        .move mid' :: .move mid'.tail :: gs) v := by
  intro start frames
  have run := Tracks.consequence start opening condition close brace consequence frames
  refine run.append fun _ => .move (.read (.otherwise otherwise) (.move ?_))
  exact .read (.openBlock brace') (alternative false frames)

end

/-! ### Functions -/

theorem noBody {found : Option (List Ident)} (opening : (first ts.tail).kind = .lparen)
    (read : parameters.Tracked ts.tail rest es found) (brace : (first rest.tail).kind ≠ .lbrace) :
    (operand .function).Tracked ts rest (.move ts :: es ++ [.missing rest .lbrace]) v := by
  intro start frames
  have run := Tracks.parameters start opening read frames
  exact run.append fun _ => .missing (.here (expect_of_ne brace))

theorem function {found : Option (List Ident)} (opening : (first ts.tail).kind = .lparen)
    (read : parameters.Tracked ts.tail mid es found) (brace : (first mid.tail).kind = .lbrace)
    (body : block.Tracked mid.tail rest fs b) :
    (operand .function).Tracked ts rest (.move ts :: es ++ .move mid :: fs) v := by
  intro start frames
  have run := Tracks.parameters start opening read frames
  exact run.append fun _ => .move (.read (.openBlock brace) (body false frames))

theorem moreNames {more all : Option (List Ident)} (name : (first ts.tail).kind = .ident)
    (comma : (first ts.tail.tail).kind = .comma) (h : names.Tracked ts.tail.tail rest es more)
    (found : all = none → more = none) :
    names.Tracked ts rest (.move ts :: .move ts.tail :: es) all := by
  refine ⟨fun none => h.1 (found none), fun frames => ?_⟩
  exact .move (.read (.parameter name) (.move (.read (.nextParameter comma) (h.2 frames))))

theorem lastName {found : List Ident} (name : (first ts.tail).kind = .ident)
    (close : (first ts.tail.tail).kind = .rparen) :
    names.Tracked ts ts.tail.tail [.move ts, .move ts.tail] (some found) := by
  refine ⟨by simp, fun frames => ?_⟩
  exact .move (.read (.parameter name) (.move (.read (.closeParameters close) .nil)))

theorem openNames {found : Option (List Ident)} (name : (first ts.tail).kind = .ident)
    (comma : (first ts.tail.tail).kind ≠ .comma) (close : (first ts.tail.tail).kind ≠ .rparen) :
    names.Tracked ts ts.tail [.move ts, .missing ts.tail .rparen] found := by
  refine ⟨by simp, fun frames => ?_⟩
  exact .move (.read (.parameter name) (.missing (.here (by simp [step, expect, comma, close]))))

/-! ### Calls -/

theorem call {args : List Expr} (nonempty : (first ts.tail).kind ≠ .rparen)
    (inner : arguments.Tracked ts.tail rest es args) (close : (first rest.tail).kind = .rparen) :
    (continued .call left).Tracked ts rest.tail (.move ts :: es ++ [.move rest]) v := by
  intro next_eq frames
  exact .read (.someArgument next_eq nonempty) ((inner frames).move.append fun _ =>
    .move (.read (.closeCall close) .nil))

theorem openCall {args : List Expr} (nonempty : (first ts.tail).kind ≠ .rparen)
    (inner : arguments.Tracked ts.tail rest es args)
    (stop : errorsOf es = [] → (first rest.tail).kind.precedence.rank ≤ Precedence.lowest.rank ∧
      (first rest.tail).kind ≠ .comma)
    (close : (first rest.tail).kind ≠ .rparen) :
    (continued .call left).Tracked ts rest (.move ts :: es ++ [.missing rest .rparen]) v := by
  intro next_eq frames
  refine .read (.someArgument next_eq nonempty) ((inner frames).move.append fun clean => ?_)
  exact .missing (.call (stop clean).1 (stop clean).2 close)

theorem moreArguments {args all : List Expr} (argument : (expression .lowest).Tracked ts mid es e)
    (comma : (first mid.tail).kind = .comma) (more : arguments.Tracked mid.tail.tail rest fs args) :
    arguments.Tracked ts rest (es ++ .move mid :: .move mid.tail :: fs) all := by
  intro frames
  exact (argument _).append fun _ => .move (.read (.nextArgument comma) (.move (more frames)))

/-! ### Blocks and statements -/

theorem block_ {ss : List Stmt} (body : (statements .block).Tracked ts.tail rest es ss)
    (done : Scope.block.endsAt (first rest).kind = true) :
    block.Tracked ts rest (.move ts :: es) b := by
  intro thenBlock frames
  have inner := (body _ ⟨thenBlock, frames, rfl⟩).move
  exact inner.finish (.closeBlock done)

theorem noName {s : Option Stmt} (kind : (first ts).kind = .let_)
    (name : (first ts.tail).kind ≠ .ident) :
    statement.Tracked ts ts [.statement (first ts), .missing ts .ident] s := by
  intro scope frames fits _
  exact .statement (.read (.let_ fits kind) (.missing (.here (expect_of_ne name))))

theorem noAssign {s : Option Stmt} (kind : (first ts).kind = .let_)
    (name : (first ts.tail).kind = .ident) (assign : (first ts.tail.tail).kind ≠ .assign) :
    statement.Tracked ts ts.tail
      [.statement (first ts), .move ts, .missing ts.tail .assign] s := by
  intro scope frames fits _
  refine .statement (.read (.let_ fits kind) (.move (.read (.letName name) ?_)))
  exact .missing (.here (expect_of_ne assign))

section

variable {s : Option Stmt}
  (stop : errorsOf es = [] → (first rest.tail).kind.precedence.rank ≤ Precedence.lowest.rank)

include stop

theorem let_ (kind : (first ts).kind = .let_) (name : (first ts.tail).kind = .ident)
    (assign : (first ts.tail.tail).kind = .assign)
    (value : (expression .lowest).Tracked ts.tail.tail.tail rest es e) :
    statement.Tracked ts (afterSemicolon rest) (.statement (first ts) :: .move ts ::
      .move ts.tail :: .move ts.tail.tail :: es ++ semicolonMoves rest) s := by
  intro scope frames fits _
  have bound := Tracks.read (.letName name) (.move (.read (.letAssign assign) (value frames).move))
  exact (Tracks.statement (.read (.let_ fits kind) (.move bound))).append fun clean =>
    .semicolon fits (stop clean)

theorem return_ (kind : (first ts).kind = .return_)
    (value : (expression .lowest).Tracked ts.tail rest es e) :
    statement.Tracked ts (afterSemicolon rest)
      (.statement (first ts) :: .move ts :: es ++ semicolonMoves rest) s := by
  intro scope frames fits _
  exact (Tracks.statement (.read (.return_ fits kind) (value frames).move)).append fun clean =>
    .semicolon fits (stop clean)

theorem expr (kind : (first ts).kind ≠ .let_) (kind' : (first ts).kind ≠ .return_)
    (value : (expression .lowest).Tracked ts rest es e) :
    statement.Tracked ts (afterSemicolon rest)
      (.statement (first ts) :: es ++ semicolonMoves rest) s := by
  intro scope frames fits more
  have begun := Tracks.skip List.drop_zero (.expr fits more kind kind') (value frames)
  exact begun.statement.append fun clean => .semicolon fits (stop clean)

end

end Task.Tracked

/-- The machine keeps up with every reading. -/
theorem Reads.tracked {task : Task} {ts rest : List Token} {v : task.Result} {events : List Event}
    (h : Reads task ts v rest events) : task.Tracked ts rest events v := by
  induction h with
  | expression_none start =>
    exact fun frames => .fail (.here (by simp only [step, beginOperand, start]))
  | expression_some start_eq _ _ ih ih' =>
    exact fun frames => (ih start_eq frames).append fun _ => ih' frames
  | operand_name | operand_boolean =>
    exact fun start frames => .read (.one (by simp [step, beginOperand, start])) .nil
  | operand_integer value_eq =>
    exact fun start frames => .read (.one (by simp [step, beginOperand, start, value_eq])) .nil
  | operand_badInteger value_eq =>
    exact fun start frames => .fail (.here (by simp [step, beginOperand, start, value_eq]))
  | operand_unary _ ih => exact .unary ih
  | operand_group _ close ih => exact .group ih close
  | operand_openGroup inner close ih => exact .openGroup ih inner.expression_stops close
  | conditional_noCondition opening =>
    exact fun start frames => .read (.conditional start) (.missing (.here (expect_of_ne opening)))
  | conditional_openCondition opening condition close ih =>
    exact .openCondition opening ih condition.expression_stops close
  | conditional_noConsequence opening _ close brace ih =>
    exact .noConsequence opening ih close brace
  | conditional_ifThen opening _ close brace _ noElse ih ih' =>
    exact .ifThen opening ih close brace ih' noElse
  | conditional_noAlternative opening _ close brace _ otherwise brace' ih ih' =>
    exact .noAlternative opening ih close brace ih' otherwise brace'
  | conditional_ifThenElse opening _ close brace _ otherwise brace' _ ih ih' ih'' =>
    exact .ifThenElse opening ih close brace ih' otherwise brace' ih''
  | function_noParameters opening =>
    exact fun start frames => .read (.function start) (.missing (.here (expect_of_ne opening)))
  | function_badParameters opening _ ih =>
    exact fun start frames => (Tracks.parameters start opening ih frames).lost (ih.1 rfl)
  | function_noBody opening _ brace ih => exact .noBody opening ih brace
  | function_some opening _ brace _ ih ih' => exact .function opening ih brace ih'
  | names_noName name => exact ⟨by simp, fun frames => .missing (.here (expect_of_ne name))⟩
  | names_more name comma _ ih => exact .moreNames name comma ih (by simp)
  | names_last name close => exact .lastName name close
  | names_open name comma close => exact .openNames name comma close
  | parameters_none close =>
    exact ⟨by simp, fun frames => .move (.read (.one (if_pos close)) .nil)⟩
  | parameters_some close _ ih =>
    exact ⟨ih.1, fun frames => .skip List.drop_one (.someParameter close) (ih.2 frames)⟩
  | climb_stop => exact fun _ => .nil
  | climb_go next_eq _ _ _ ih ih' =>
    exact fun frames => (ih next_eq frames).move.append fun _ => ih' frames
  | continued_binary _ ih => exact fun next_eq frames => .read (.binary next_eq) (.move (ih frames))
  | continued_emptyCall close =>
    exact fun next_eq frames => .read (.openCall next_eq) (.move (.read (.noArgument close) .nil))
  | continued_call nonempty _ close ih => exact .call nonempty ih close
  | continued_openCall nonempty arguments close ih =>
    exact .openCall nonempty ih (arguments.arguments_stop rfl) close
  | arguments_last _ _ ih => exact fun frames => ih _
  | arguments_more _ comma _ ih ih' => exact .moreArguments ih comma ih'
  | block_some body ih => exact .block_ ih (body.endsAt rfl)
  | statements_done => exact fun _ _ => .nil
  | statements_more more _ _ ih ih' =>
    exact fun frames fits => (ih _ frames fits more).append fun _ => .move (ih' frames fits)
  | statement_noName kind name => exact .noName kind name
  | statement_noAssign kind name assign => exact .noAssign kind name assign
  | statement_let kind name assign value ih =>
    exact .let_ value.expression_stops kind name assign ih
  | statement_return kind value ih => exact .return_ value.expression_stops kind ih
  | statement_expr kind kind' value ih => exact .expr value.expression_stops kind kind' ih

/-! ## Programs -/

/-- At the first error of a program the machine is stuck. -/
theorem stuck_of_errors {ts : List Token} (h : (parseTokens ts).errors ≠ []) :
    ∃ j, offending (parseTokens ts).after.eventList = some j ∧ Stuck start ts j := by
  obtain ⟨rest, events, run⟩ := exists_reads_parseTokens ts
  rw [run.errors_parseTokens, ne_eq, ← offending_eq_none] at h
  obtain ⟨j, hj⟩ := Option.ne_none_iff_exists'.mp h
  obtain ⟨i, rfl, stuck⟩ := (run.tracked [] rfl).sticks j hj
  rw [run.eventList_parseTokens]
  exact ⟨_, hj, by rwa [Nat.zero_add]⟩

/-- Without an error the machine reads to the end of the tokens. -/
theorem feed_of_errors_eq_nil {ts : List Token} (h : (parseTokens ts).errors = []) :
    ∃ n, (feed n start ts).isSome ∧ (first (ts.drop n)).kind = .eof := by
  obtain ⟨rest, events, run⟩ := exists_reads_parseTokens ts
  rw [run.errors_parseTokens] at h
  obtain ⟨n, -, hrest, c, hc, -⟩ := (run.tracked [] rfl).follows h
  refine ⟨n, by rw [start, ← ts.drop_zero, hc]; rfl, ?_⟩
  rw [← ts.drop_zero, hrest]
  exact Scope.endsAt_program.mp (run.endsAt rfl)

/-- Where the machine is never stuck there are no errors. -/
theorem errors_eq_nil_of_feed {ts : List Token} (h : ∀ n, (feed n start ts).isSome) :
    (parseTokens ts).errors = [] := by
  refine Classical.byContradiction fun errors => ?_
  obtain ⟨j, -, stuck⟩ := stuck_of_errors errors
  have := h (j + 1)
  rw [stuck.feed_eq_none] at this
  cases this

end LetFn
