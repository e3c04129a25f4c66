import LetFn.Proofs.Reading.Budget

/-!
# Every task has one reading

* `Reads.total`: every task has a reading, whatever tokens are left. The recursion is on four units
  for each token left and the cost of the task, which is enough as a budget, too.
* `Reads.unique`: and it has only one.
* `Reads.parseTokens_eq`: so `parseTokens` is the reading of the statements of the program.
-/

namespace LetFn

/-! ## Existence -/

/-- There is a reading for the task. -/
def Task.Readable (task : Task) (ts : List Token) : Prop :=
  ∃ v rest events, Reads task ts v rest events

/-- Whatever takes less than this has a reading. -/
def ReadableBelow (bound : Nat) : Prop :=
  ∀ (task : Task) (ts : List Token), task.Ready ts → 4 * ts.length + task.cost < bound →
    task.Readable ts

namespace ReadableBelow

open Reads

variable {ts : List Token}

theorem expression (below : ReadableBelow (4 * ts.length + 3)) (floor : Precedence) :
    (Task.expression floor).Readable ts := by
  cases hstart : (first ts).kind.start? with
  | none => exact ⟨_, _, _, expression_none hstart⟩
  | some start =>
    obtain ⟨left, mid, es, operand⟩ := below (.operand start) ts hstart (by simp [Task.cost])
    have hmid := operand.length_le
    obtain ⟨v, rest, fs, climb⟩ := below (.climb floor left) mid trivial
      (by simp only [Task.cost]; omega)
    exact ⟨v, rest, _, expression_some hstart operand climb⟩

theorem conditional (below : ReadableBelow (4 * ts.length + 2)) (ready : (first ts).kind ≠ .eof) :
    (Task.operand .conditional).Readable ts := by
  have hlen := length_tail_of_first ready
  by_cases opening : (first ts.tail).kind = .lparen
  case neg => exact ⟨_, _, _, conditional_noCondition opening⟩
  obtain ⟨e, mid, es, condition⟩ := below (.expression .lowest) ts.tail.tail trivial
    (by simp only [Task.cost, List.length_tail] at hlen ⊢; omega)
  have hmid := condition.length_le
  by_cases close : (first mid.tail).kind = .rparen
  case neg => exact ⟨_, _, _, conditional_openCondition opening condition close⟩
  by_cases brace : (first mid.tail.tail).kind = .lbrace
  case neg => exact ⟨_, _, _, conditional_noConsequence opening condition close brace⟩
  have hlen' := length_tail_of_first (ne_eof_of_eq opening rfl)
  obtain ⟨b, mid', fs, consequence⟩ := below .block mid.tail.tail trivial
    (by simp only [Task.cost, List.length_tail] at hlen hlen' hmid ⊢; omega)
  have hmid' := consequence.length_le
  by_cases otherwise : (first mid'.tail).kind = .else_
  case neg =>
    exact ⟨_, _, _, conditional_ifThen opening condition close brace consequence otherwise⟩
  by_cases brace' : (first mid'.tail.tail).kind = .lbrace
  case neg => exact ⟨_, _, _,
    conditional_noAlternative opening condition close brace consequence otherwise brace'⟩
  obtain ⟨a, rest, gs, alternative⟩ := below .block mid'.tail.tail trivial
    (by simp only [Task.cost, List.length_tail] at hlen hlen' hmid hmid' ⊢; omega)
  exact ⟨_, _, _, conditional_ifThenElse opening condition close brace consequence otherwise
    brace' alternative⟩

theorem function (below : ReadableBelow (4 * ts.length + 2)) (ready : (first ts).kind ≠ .eof) :
    (Task.operand .function).Readable ts := by
  have hlen := length_tail_of_first ready
  by_cases opening : (first ts.tail).kind = .lparen
  case neg => exact ⟨_, _, _, function_noParameters opening⟩
  obtain ⟨names | names, mid, es, parameters⟩ := below .parameters ts.tail trivial
    (by simp only [Task.cost]; omega)
  · exact ⟨_, _, _, function_badParameters opening parameters⟩
  have hmid := parameters.length_le
  by_cases brace : (first mid.tail).kind = .lbrace
  case neg => exact ⟨_, _, _, function_noBody opening parameters brace⟩
  have hlen' := length_tail_of_first (ne_eof_of_eq brace rfl)
  obtain ⟨b, rest, fs, body⟩ := below .block mid.tail trivial
    (by simp only [Task.cost, List.length_tail] at hlen hlen' hmid ⊢; omega)
  exact ⟨_, _, _, function_some opening parameters brace body⟩

theorem operand (below : ReadableBelow (4 * ts.length + 2)) {start : Start}
    (ready : (first ts).kind.start? = some start) : (Task.operand start).Readable ts := by
  have hlen := length_tail_of_first (Kind.ne_eof_of_start ready)
  cases start with
  | name => exact ⟨_, _, _, operand_name⟩
  | integer =>
    cases hvalue : Numeral.value? (first ts).literal with
    | none => exact ⟨_, _, _, operand_badInteger hvalue⟩
    | some value => exact ⟨_, _, _, operand_integer hvalue⟩
  | boolean => exact ⟨_, _, _, operand_boolean⟩
  | unary op =>
    obtain ⟨e, rest, es, right⟩ := below (.expression .unary) ts.tail trivial
      (by simp only [Task.cost]; omega)
    exact ⟨_, rest, _, operand_unary right⟩
  | group =>
    obtain ⟨e, rest, es, inner⟩ := below (.expression .lowest) ts.tail trivial
      (by simp only [Task.cost]; omega)
    by_cases close : (first rest.tail).kind = .rparen
    · exact ⟨_, _, _, operand_group inner close⟩
    · exact ⟨_, _, _, operand_openGroup inner close⟩
  | conditional => exact below.conditional (Kind.ne_eof_of_start ready)
  | function => exact below.function (Kind.ne_eof_of_start ready)

theorem climb (below : ReadableBelow (4 * ts.length + 1)) (floor : Precedence) (left : Expr) :
    (Task.climb floor left).Readable ts := by
  by_cases tight : (first ts.tail).kind.precedence.rank ≤ floor.rank
  · exact ⟨_, _, _, climb_stop tight⟩
  cases hnext : (first ts.tail).kind.continuation? with
  | none =>
    rw [Kind.precedence, hnext] at tight
    exact absurd (Nat.zero_le _) tight
  | some next =>
    rw [Kind.precedence, hnext, Option.map_some, Option.getD_some, Nat.not_le] at tight
    have hlen := length_tail_of_first (Kind.ne_eof_of_continuation hnext)
    obtain ⟨longer, mid, es, continued⟩ := below (.continued next left) ts.tail hnext
      (by simp only [Task.cost, List.length_tail] at hlen ⊢; omega)
    have hmid := continued.length_le
    obtain ⟨v, rest, fs, climb⟩ := below (.climb floor longer) mid trivial
      (by simp only [Task.cost, List.length_tail] at hlen hmid ⊢; omega)
    exact ⟨_, _, _, climb_go hnext tight continued climb⟩

theorem continued (below : ReadableBelow (4 * ts.length + 1)) {next : Continuation}
    (ready : (first ts).kind.continuation? = some next) (left : Expr) :
    (Task.continued next left).Readable ts := by
  have hlen := length_tail_of_first (Kind.ne_eof_of_continuation ready)
  cases next with
  | binary op =>
    obtain ⟨e, rest, es, right⟩ := below (.expression op.precedence) ts.tail trivial
      (by simp only [Task.cost]; omega)
    exact ⟨_, _, _, continued_binary right⟩
  | call =>
    by_cases empty : (first ts.tail).kind = .rparen
    · exact ⟨_, _, _, continued_emptyCall empty⟩
    obtain ⟨args, rest, es, arguments⟩ := below .arguments ts.tail trivial
      (by simp only [Task.cost]; omega)
    by_cases close : (first rest.tail).kind = .rparen
    · exact ⟨_, _, _, continued_call empty arguments close⟩
    · exact ⟨_, _, _, continued_openCall empty arguments close⟩

theorem arguments (below : ReadableBelow (4 * ts.length + 4)) : Task.arguments.Readable ts := by
  obtain ⟨e, mid, es, argument⟩ := below (.expression .lowest) ts trivial (by simp [Task.cost])
  by_cases comma : (first mid.tail).kind = .comma
  case neg => exact ⟨_, _, _, arguments_last argument comma⟩
  have hmid := argument.length_le
  have hlen := length_tail_of_first (ne_eof_of_eq comma rfl)
  obtain ⟨args, rest, fs, arguments⟩ := below .arguments mid.tail.tail trivial
    (by simp only [Task.cost, List.length_tail] at hlen hmid ⊢; omega)
  exact ⟨_, _, _, arguments_more argument comma arguments⟩

theorem names (below : ReadableBelow (4 * ts.length + 1)) : Task.names.Readable ts := by
  by_cases name : (first ts.tail).kind = .ident
  case neg => exact ⟨_, _, _, names_noName name⟩
  by_cases comma : (first ts.tail.tail).kind = .comma
  · have hlen := length_tail_of_first (ne_eof_of_eq name rfl)
    obtain ⟨more, rest, es, names⟩ := below .names ts.tail.tail trivial
      (by simp only [Task.cost, List.length_tail] at hlen ⊢; omega)
    exact ⟨_, _, _, names_more name comma names⟩
  by_cases close : (first ts.tail.tail).kind = .rparen
  · exact ⟨_, _, _, names_last name close⟩
  · exact ⟨_, _, _, names_open name comma close⟩

theorem parameters (below : ReadableBelow (4 * ts.length + 2)) : Task.parameters.Readable ts := by
  by_cases close : (first ts.tail).kind = .rparen
  · exact ⟨_, _, _, parameters_none close⟩
  obtain ⟨names, rest, es, names_read⟩ := below .names ts trivial (by simp [Task.cost])
  exact ⟨_, _, _, parameters_some close names_read⟩

theorem block (below : ReadableBelow (4 * ts.length + 6)) : Task.block.Readable ts := by
  obtain ⟨ss, rest, es, body⟩ := below (.statements .block) ts.tail trivial
    (by simp only [Task.cost, List.length_tail]; omega)
  exact ⟨_, _, _, block_some body⟩

theorem statements (below : ReadableBelow (4 * ts.length + 5)) (scope : Scope) :
    (Task.statements scope).Readable ts := by
  cases done : scope.endsAt (first ts).kind with
  | true => exact ⟨_, _, _, statements_done done⟩
  | false =>
    have hlen := length_tail_of_first (ne_eof_of_endsAt done)
    obtain ⟨one, mid, es, statement⟩ := below .statement ts trivial (by simp [Task.cost])
    have hmid := statement.length_le
    obtain ⟨ss, rest, fs, statements⟩ := below (.statements scope) mid.tail trivial
      (by simp only [Task.cost, List.length_tail] at hlen hmid ⊢; omega)
    exact ⟨_, _, _, statements_more done statement statements⟩

theorem statement (below : ReadableBelow (4 * ts.length + 4)) : Task.statement.Readable ts := by
  by_cases hlet : (first ts).kind = .let_
  · by_cases name : (first ts.tail).kind = .ident
    case neg => exact ⟨_, _, _, statement_noName hlet name⟩
    by_cases assign : (first ts.tail.tail).kind = .assign
    case neg => exact ⟨_, _, _, statement_noAssign hlet name assign⟩
    obtain ⟨e, rest, es, value⟩ := below (.expression .lowest) ts.tail.tail.tail trivial
      (by simp only [Task.cost, List.length_tail]; omega)
    exact ⟨_, _, _, statement_let hlet name assign value⟩
  by_cases hreturn : (first ts).kind = .return_
  · obtain ⟨e, rest, es, value⟩ := below (.expression .lowest) ts.tail trivial
      (by simp only [Task.cost, List.length_tail]; omega)
    exact ⟨_, _, _, statement_return hreturn value⟩
  · obtain ⟨e, rest, es, value⟩ := below (.expression .lowest) ts trivial (by simp [Task.cost])
    exact ⟨_, _, _, statement_expr hlet hreturn value⟩

end ReadableBelow

/-- Whatever a task takes, it has a reading. -/
theorem readableBelow (bound : Nat) : ReadableBelow bound := by
  induction bound with
  | zero => exact fun _ _ _ hlt => absurd hlt (Nat.not_lt_zero _)
  | succ bound ih =>
    intro task ts ready hlt
    have below : ReadableBelow (4 * ts.length + task.cost) :=
      fun task' ts' ready' hlt' => ih task' ts' ready' (by omega)
    cases task with
    | expression floor => exact below.expression floor
    | operand start => exact below.operand ready
    | climb floor left => exact below.climb floor left
    | continued next left => exact below.continued ready left
    | arguments => exact below.arguments
    | names => exact below.names
    | parameters => exact below.parameters
    | block => exact below.block
    | statements scope => exact below.statements scope
    | statement => exact below.statement

namespace Reads

variable {task : Task} {ts rest : List Token} {v : task.Result} {events : List Event}

/-- Every task has a reading. -/
theorem total (task : Task) (ts : List Token) (ready : task.Ready ts) :
    ∃ v rest events, Reads task ts v rest events :=
  readableBelow _ task ts ready (Nat.lt_succ_self _)

/-! ## Uniqueness -/

/-- A task has one reading only. -/
theorem unique {v' : task.Result} {rest' : List Token} {events' : List Event}
    (ready : task.Ready ts) (h : Reads task ts v rest events)
    (h' : Reads task ts v' rest' events') : v = v' ∧ rest = rest' ∧ events = events' := by
  have run := h.performs ready _ (Reader.ofTokens ts) rfl (Nat.le_refl _)
  have run' := h'.performs ready _ (Reader.ofTokens ts) rfl (Nat.le_refl _)
  obtain ⟨rfl, after_eq⟩ := Task.Performs.unique run run'
  refine ⟨rfl, congrArg Reader.pending after_eq, ?_⟩
  simpa [Reader.resume] using congrArg Reader.log after_eq

/-- A reading of the statements of a program is what `parseTokens` finds. -/
theorem parseTokens_eq {ss : List Stmt} (h : Reads (.statements .program) ts ss rest events) :
    parseTokens ts = ⟨⟨ss⟩, (Reader.ofTokens ts).resume rest events⟩ := by
  have run := h.performs trivial (Reader.ofTokens ts).budget (Reader.ofTokens ts) rfl
    (by simp only [Task.cost, Reader.budget, Reader.ofTokens]; omega)
  rw [parseTokens, Reader.program, run []]
  rfl

/-- Its steps are the steps that `parseTokens` logs. -/
theorem eventList_parseTokens {ss : List Stmt}
    (h : Reads (.statements .program) ts ss rest events) :
    (parseTokens ts).after.eventList = events := by
  rw [h.parseTokens_eq]
  simp [Reader.eventList, Reader.resume, Reader.ofTokens]

/-- The errors that its steps report are the errors that `parseTokens` collects. -/
theorem errors_parseTokens {ss : List Stmt} (h : Reads (.statements .program) ts ss rest events) :
    (parseTokens ts).errors = errorsOf events := by
  rw [h.parseTokens_eq]
  simp [Parsed.errors, Reader.errorList, Reader.resume, Reader.ofTokens]

end Reads

/-- `parseTokens` reads the statements of the program. -/
theorem exists_reads_parseTokens (ts : List Token) :
    ∃ rest events,
      Reads (.statements .program) ts (parseTokens ts).value.statements rest events := by
  obtain ⟨ss, rest, events, h⟩ := Reads.total (.statements .program) ts trivial
  refine ⟨rest, events, ?_⟩
  rw [h.parseTokens_eq]
  exact h

end LetFn
