import LetFn.Proofs.Reading.Basic

/-!
# Every budget that is large enough gives the same reading

`Reads` mentions no budget, the functions of `Descent` do. What `Reads` says is what a descent does
with four units of budget for each token left and a constant more (`Reads.performs`). The constant
is the cost of the task (`Task.cost`): each call either takes a token or goes to a task of lower
cost.

The induction is on the budget, with one lemma for each function of the descent. `Descent.Obeys`
collects what is known of the calls with a smaller budget.
-/

namespace LetFn

/-- The reader after it took the steps and has these tokens left. -/
def Reader.resume (r : Reader) (rest : List Token) (events : List Event) : Reader :=
  { r with
    pending := rest
    errors := (errorsOf events).reverse ++ r.errors
    log := events.reverse ++ r.log }

namespace Task

/-- A descent does the task with this budget and reader, with this result. The tasks that collect
a list do so after any beginning already found. -/
def Performs : (task : Task) → Nat → Reader → task.Result → Reader → Prop
  | expression floor, budget, r, v, after => Descent.expression budget floor r = ⟨v, after⟩
  | operand start, budget, r, v, after => Descent.operand budget start r = ⟨v, after⟩
  | climb floor left, budget, r, v, after => Descent.climb budget floor left r = ⟨v, after⟩
  | continued next left, budget, r, v, after => Descent.continued budget next left r = ⟨v, after⟩
  | arguments, budget, r, v, after =>
    ∀ found, Descent.arguments budget found r = ⟨found.reverse ++ v, after⟩
  | names, budget, r, v, after =>
    ∀ found, Descent.names budget found r = ⟨v.map (found.reverse ++ ·), after⟩
  | parameters, budget, r, v, after => Descent.parameters budget r = ⟨v, after⟩
  | block, budget, r, v, after => Descent.block budget r = ⟨v, after⟩
  | statements scope, budget, r, v, after =>
    ∀ found, Descent.statements budget scope found r = ⟨found.reverse ++ v, after⟩
  | statement, budget, r, v, after => Descent.statement budget r = ⟨v, after⟩

/-- The budget that a task needs on top of four units for each token left. A task costs more than
the tasks it may call at the same token. -/
def cost : Task → Nat
  | climb _ _ | continued _ _ | names => 1
  | operand _ | parameters => 2
  | expression _ => 3
  | arguments | statement => 4
  | statements _ => 5
  | block => 6

/-- The current token calls for the task. An operand or a continuation is read only at the token
that begins it; the other tasks can be read anywhere. -/
def Ready : Task → List Token → Prop
  | operand start, ts => (first ts).kind.start? = some start
  | continued next _, ts => (first ts).kind.continuation? = some next
  | _, _ => True

/-- The current token calls for the task, also for a block or a statement. -/
def Due : Task → List Token → Prop
  | operand start, ts => (first ts).kind.start? = some start
  | continued next _, ts => (first ts).kind.continuation? = some next
  | block, ts => (first ts).kind = .lbrace
  | statement, ts => (first ts).kind ≠ .eof
  | _, _ => True

/-- A descent has one result. -/
theorem Performs.unique {task : Task} {budget : Nat} {r after after' : Reader}
    {v v' : task.Result} (h : task.Performs budget r v after)
    (h' : task.Performs budget r v' after') : v = v' ∧ after = after' := by
  cases task with
  | arguments | names | statements _ =>
    have := (h []).symm.trans (h' [])
    simpa using this
  | _ =>
    have := h.symm.trans h'
    simpa using this

end Task

theorem Kind.ne_eof_of_start {k : Kind} {start : Start} (h : k.start? = some start) : k ≠ .eof :=
  ne_of_start (by rw [h]; rfl) rfl

theorem Kind.ne_eof_of_continuation {k : Kind} {next : Continuation}
    (h : k.continuation? = some next) : k ≠ .eof :=
  ne_of_continuation h rfl

theorem ne_eof_of_eq {k k' : Kind} (h : k = k') (hk : (k' == .eof) = false) : k ≠ .eof := by
  rw [h]
  exact ne_of_beq_false hk

/-- Every scope ends at the end of the text. -/
theorem ne_eof_of_endsAt {scope : Scope} {k : Kind} (h : scope.endsAt k = false) : k ≠ .eof := by
  rintro rfl
  cases scope <;> cases h

section Resume

variable (r : Reader)

@[simp] theorem Reader.current_eq : Window.current r = first r.pending := rfl

@[simp] theorem Reader.peek_eq : Window.peek r = first r.pending.tail := rfl

@[simp] theorem Reader.resume_self : r.resume r.pending [] = r := rfl

@[simp] theorem Reader.pending_resume (rest : List Token) (es : List Event) :
    (r.resume rest es).pending = rest := by
  rw [Reader.resume]

@[simp] theorem Reader.resume_resume (mid rest : List Token) (es fs : List Event) :
    (r.resume mid es).resume rest fs = r.resume rest (es ++ fs) := by
  simp [Reader.resume, List.append_assoc]

@[simp] theorem Reader.advance_eq :
    Window.advance r = r.resume r.pending.tail [.move r.pending] := rfl

@[simp] theorem Reader.fail_eq (e : ParseError) :
    Window.fail r e = r.resume r.pending [.fail r.pending e] := rfl

@[simp] theorem Reader.missing_eq (k : Kind) :
    Window.missing r k = r.resume r.pending [.missing r.pending k] := rfl

@[simp] theorem Reader.enter_eq :
    Window.enter r = r.resume r.pending [.statement (first r.pending)] := rfl

@[simp] theorem Reader.ident_eq :
    Window.ident r = ⟨first r.pending, (first r.pending).literal⟩ := rfl

@[simp] theorem Reader.skipSemicolon_eq :
    Window.skipSemicolon r = r.resume (afterSemicolon r.pending) (semicolonMoves r.pending) := by
  unfold Window.skipSemicolon afterSemicolon semicolonMoves
  rw [Reader.peek_eq]
  split
  · rw [Reader.advance_eq]
  · rw [Reader.resume_self]

end Resume

namespace Descent

/-- Where a reader has the tokens `ts` left the function has this result, and leaves the reader with
these tokens after these steps. -/
abbrev Runs {α : Type} (f : Reader → Parsed α) (ts : List Token) (v : α) (rest : List Token)
    (events : List Event) : Prop :=
  ∀ r : Reader, r.pending = ts → f r = ⟨v, r.resume rest events⟩

/-! ## Functions that call no other -/

section

variable {ts rest : List Token} {events : List Event} {v : Option (List Ident)} {budget : Nat}

theorem runs_names (h : Reads .names ts v rest events) (enough : 4 * ts.length + 1 ≤ budget)
    (found : List Ident) :
    Runs (names budget found) ts (v.map (found.reverse ++ ·)) rest events := by
  induction budget generalizing ts v events found with
  | zero => omega
  | succ budget ih =>
    rintro r rfl
    cases h with
    | names_noName name => simp [names, name]
    | names_more name comma more =>
      have hlen := length_tail_of_first (ne_eof_of_eq name rfl)
      have hmore := ih more (by simp only [List.length_tail] at hlen ⊢; omega)
      simp [names, name, comma, hmore, Function.comp_def]
    | names_last name close => simp [names, name, close]
    | names_open name comma close => simp [names, name, comma, close]

theorem runs_parameters (h : Reads .parameters ts v rest events)
    (enough : 4 * ts.length + 1 ≤ budget) : Runs (parameters budget) ts v rest events := by
  rintro r rfl
  cases h with
  | parameters_none close => simp [parameters, close]
  | parameters_some close names_read =>
    have hnames := runs_names names_read enough []
    simp [parameters, close, hnames]

end

/-! ## Functions that call each other -/

/-- The functions do with the budget what `Reads` says, wherever it is enough for the tokens left.
A conditional and a function cost one unit less than the operands that they are. -/
structure Obeys (budget : Nat) : Prop where
  expression {floor : Precedence} {ts rest : List Token} {v : Expr} {events : List Event} :
    Reads (.expression floor) ts v rest events → 4 * ts.length + 3 ≤ budget →
      Runs (expression budget floor) ts v rest events
  operand {start : Start} {ts rest : List Token} {v : Expr} {events : List Event} :
    Reads (.operand start) ts v rest events → (first ts).kind.start? = some start →
      4 * ts.length + 2 ≤ budget → Runs (operand budget start) ts v rest events
  climb {floor : Precedence} {left v : Expr} {ts rest : List Token} {events : List Event} :
    Reads (.climb floor left) ts v rest events → 4 * ts.length + 1 ≤ budget →
      Runs (climb budget floor left) ts v rest events
  continued {next : Continuation} {left v : Expr} {ts rest : List Token} {events : List Event} :
    Reads (.continued next left) ts v rest events →
      (first ts).kind.continuation? = some next → 4 * ts.length + 1 ≤ budget →
        Runs (continued budget next left) ts v rest events
  arguments {ts rest : List Token} {v : List Expr} {events : List Event} :
    Reads .arguments ts v rest events → 4 * ts.length + 4 ≤ budget →
      ∀ found, Runs (arguments budget found) ts (found.reverse ++ v) rest events
  conditional {ts rest : List Token} {v : Expr} {events : List Event} :
    Reads (.operand .conditional) ts v rest events →
      4 * ts.length + 1 ≤ budget → Runs (conditional budget) ts v rest events
  function {ts rest : List Token} {v : Expr} {events : List Event} :
    Reads (.operand .function) ts v rest events → (first ts).kind ≠ .eof →
      4 * ts.length + 1 ≤ budget → Runs (function budget) ts v rest events
  block {ts rest : List Token} {v : Block} {events : List Event} :
    Reads .block ts v rest events → 4 * ts.length + 6 ≤ budget →
      Runs (block budget) ts v rest events
  statements {scope : Scope} {ts rest : List Token} {v : List Stmt} {events : List Event} :
    Reads (.statements scope) ts v rest events → 4 * ts.length + 5 ≤ budget →
      ∀ found, Runs (statements budget scope found) ts (found.reverse ++ v) rest events
  statement {ts rest : List Token} {v : Option Stmt} {events : List Event} :
    Reads .statement ts v rest events → 4 * ts.length + 4 ≤ budget →
      Runs (statement budget) ts v rest events

namespace Obeys

variable {ts rest : List Token} {v : Expr} {events : List Event} {budget : Nat}

theorem expression_succ (obeys : Obeys budget) {floor : Precedence}
    (h : Reads (.expression floor) ts v rest events) (enough : 4 * ts.length + 2 ≤ budget) :
    Runs (Descent.expression (budget + 1) floor) ts v rest events := by
  rintro r rfl
  cases h with
  | expression_none start => simp [Descent.expression, start]
  | expression_some start operand climb =>
    have hmid := operand.length_le
    have hoperand := obeys.operand operand start enough
    have hclimb := obeys.climb climb (by omega)
    simp [Descent.expression, start, hoperand, hclimb]

theorem operand_succ (obeys : Obeys budget) {start : Start}
    (h : Reads (.operand start) ts v rest events) (ready : (first ts).kind.start? = some start)
    (enough : 4 * ts.length + 1 ≤ budget) :
    Runs (Descent.operand (budget + 1) start) ts v rest events := by
  rintro r rfl
  have hne := Kind.ne_eof_of_start ready
  have hlen := length_tail_of_first hne
  cases start with
  | name => cases h with | operand_name => simp [Descent.operand]
  | integer =>
    cases h with
    | operand_integer value => simp [Descent.operand, integer, value]
    | operand_badInteger value => simp [Descent.operand, integer, value]
  | boolean => cases h with | operand_boolean => rfl
  | unary op =>
    cases h with
    | operand_unary right =>
      have hright := obeys.expression right (by omega)
      simp [Descent.operand, hright]
  | group =>
    cases h with
    | operand_group inner close | operand_openGroup inner close =>
      have hinner := obeys.expression inner (by omega)
      simp [Descent.operand, closeGroup, hinner, close]
  | conditional => exact obeys.conditional h enough r rfl
  | function => exact obeys.function h hne enough r rfl

theorem climb_succ (obeys : Obeys budget) {floor : Precedence} {left : Expr}
    (h : Reads (.climb floor left) ts v rest events) (enough : 4 * ts.length ≤ budget) :
    Runs (Descent.climb (budget + 1) floor left) ts v rest events := by
  rintro r rfl
  cases h with
  | climb_stop stop =>
    rw [Descent.climb, Reader.peek_eq]
    cases hnext : (first r.pending.tail).kind.continuation? with
    | none => simp
    | some next =>
      rw [Kind.precedence, hnext, Option.map_some, Option.getD_some] at stop
      simp [Nat.not_lt.mpr stop]
  | climb_go next_eq tight longer more =>
    have hlen := length_tail_of_first (Kind.ne_eof_of_continuation next_eq)
    have hmid := longer.length_le
    simp only [List.length_tail] at hlen hmid
    have hlonger := obeys.continued longer next_eq (by simp only [List.length_tail]; omega)
    have hmore := obeys.climb more (by omega)
    simp [Descent.climb, next_eq, tight, hlonger, hmore]

theorem continued_succ (obeys : Obeys budget) {next : Continuation} {left : Expr}
    (h : Reads (.continued next left) ts v rest events)
    (ready : (first ts).kind.continuation? = some next) (enough : 4 * ts.length ≤ budget) :
    Runs (Descent.continued (budget + 1) next left) ts v rest events := by
  rintro r rfl
  have hlen := length_tail_of_first (Kind.ne_eof_of_continuation ready)
  cases h with
  | continued_binary right =>
    have hright := obeys.expression right (by omega)
    simp [Descent.continued, hright]
  | continued_emptyCall close => simp [Descent.continued, close]
  | continued_call nonempty args close | continued_openCall nonempty args close =>
    have hargs := obeys.arguments args (by omega)
    simp [Descent.continued, closeCall, nonempty, close, hargs]

theorem arguments_succ (obeys : Obeys budget) {v : List Expr}
    (h : Reads .arguments ts v rest events) (enough : 4 * ts.length + 3 ≤ budget)
    (found : List Expr) :
    Runs (Descent.arguments (budget + 1) found) ts (found.reverse ++ v) rest events := by
  rintro r rfl
  cases h with
  | arguments_last argument comma =>
    have hargument := obeys.expression argument enough
    simp [Descent.arguments, comma, hargument]
  | arguments_more argument comma more =>
    have hlen := length_tail_of_first (ne_eof_of_eq comma rfl)
    have hmid := argument.length_le
    have hargument := obeys.expression argument enough
    have hmore := obeys.arguments more (by simp only [List.length_tail] at hlen ⊢; omega)
    simp [Descent.arguments, comma, hargument, hmore]

/-- The condition begins two tokens after the conditional. -/
theorem condition (obeys : Obeys budget) (opening : (first ts.tail).kind = .lparen)
    (h : Reads (.expression .lowest) ts.tail.tail v rest events)
    (enough : 4 * ts.length ≤ budget) :
    rest.length + 2 ≤ ts.length ∧
      Runs (Descent.expression budget .lowest) ts.tail.tail v rest events := by
  have hlen := length_tail_of_first (ne_eof_of_eq opening rfl)
  have hrest := h.length_le
  simp only [List.length_tail] at hlen hrest
  exact ⟨by omega, obeys.expression h (by simp only [List.length_tail]; omega)⟩

theorem conditional_succ (obeys : Obeys budget)
    (h : Reads (.operand .conditional) ts v rest events) (enough : 4 * ts.length ≤ budget) :
    Runs (Descent.conditional (budget + 1)) ts v rest events := by
  rintro r rfl
  cases h with
  | conditional_noCondition opening => simp [Descent.conditional, opening]
  | conditional_openCondition opening inner close =>
    obtain ⟨-, hinner⟩ := obeys.condition opening inner enough
    simp [Descent.conditional, opening, close, hinner]
  | conditional_noConsequence opening inner close brace =>
    obtain ⟨-, hinner⟩ := obeys.condition opening inner enough
    simp [Descent.conditional, opening, close, brace, hinner]
  | conditional_ifThen opening inner close brace consequence noElse =>
    obtain ⟨hmid, hinner⟩ := obeys.condition opening inner enough
    have hblock := obeys.block consequence (by simp only [List.length_tail]; omega)
    simp [Descent.conditional, opening, close, brace, noElse, hinner, hblock]
  | conditional_noAlternative opening inner close brace consequence otherwise brace' =>
    obtain ⟨hmid, hinner⟩ := obeys.condition opening inner enough
    have hblock := obeys.block consequence (by simp only [List.length_tail]; omega)
    simp [Descent.conditional, opening, close, brace, otherwise, brace', hinner, hblock]
  | conditional_ifThenElse opening inner close brace consequence otherwise brace' alternative =>
    obtain ⟨hmid, hinner⟩ := obeys.condition opening inner enough
    have hmid' := consequence.length_le
    simp only [List.length_tail] at hmid'
    have hblock := obeys.block consequence (by simp only [List.length_tail]; omega)
    have hblock' := obeys.block alternative (by simp only [List.length_tail]; omega)
    simp [Descent.conditional, opening, close, brace, otherwise, brace', hinner, hblock, hblock']

theorem function_succ (obeys : Obeys budget) (h : Reads (.operand .function) ts v rest events)
    (ready : (first ts).kind ≠ .eof) (enough : 4 * ts.length ≤ budget) :
    Runs (Descent.function (budget + 1)) ts v rest events := by
  rintro r rfl
  have hlen := length_tail_of_first ready
  cases h with
  | function_noParameters opening => simp [Descent.function, opening]
  | function_badParameters opening names =>
    have hnames : Runs (parameters budget) _ _ _ _ := runs_parameters names (by omega)
    simp [Descent.function, opening, hnames]
  | function_noBody opening names brace =>
    have hnames : Runs (parameters budget) _ _ _ _ := runs_parameters names (by omega)
    simp [Descent.function, opening, brace, hnames]
  | function_some opening names brace body =>
    have hmid := names.length_le
    have hlen' := length_tail_of_first (ne_eof_of_eq brace rfl)
    have hnames : Runs (parameters budget) _ _ _ _ := runs_parameters names (by omega)
    have hbody := obeys.block body (by simp only [List.length_tail] at hlen hlen' hmid ⊢; omega)
    simp [Descent.function, opening, brace, hnames, hbody]

theorem block_succ (obeys : Obeys budget) {v : Block} (h : Reads .block ts v rest events)
    (enough : 4 * ts.length + 5 ≤ budget) :
    Runs (Descent.block (budget + 1)) ts v rest events := by
  rintro r rfl
  cases h with
  | block_some body =>
    have hbody := obeys.statements body (by simp only [List.length_tail]; omega)
    simp [Descent.block, hbody]

theorem statements_succ (obeys : Obeys budget) {scope : Scope} {v : List Stmt}
    (h : Reads (.statements scope) ts v rest events) (enough : 4 * ts.length + 4 ≤ budget)
    (found : List Stmt) :
    Runs (Descent.statements (budget + 1) scope found) ts (found.reverse ++ v) rest events := by
  rintro r rfl
  cases h with
  | statements_done done => simp [Descent.statements, done]
  | @statements_more _ one _ _ _ _ _ _ more statement statements =>
    have hlen := length_tail_of_first (ne_eof_of_endsAt more)
    have hmid := statement.length_le
    have hstatement := obeys.statement statement enough
    have hstatements := obeys.statements statements
      (by simp only [List.length_tail] at hlen ⊢; omega)
    cases one <;> simp [Descent.statements, more, hstatement, hstatements]

theorem statement_succ (obeys : Obeys budget) {v : Option Stmt}
    (h : Reads .statement ts v rest events) (enough : 4 * ts.length + 3 ≤ budget) :
    Runs (Descent.statement (budget + 1)) ts v rest events := by
  rintro r rfl
  cases h with
  | statement_noName kind name => simp [Descent.statement, kind, name]
  | statement_noAssign kind name assign => simp [Descent.statement, kind, name, assign]
  | statement_let kind name assign value =>
    have hvalue := obeys.expression value (by simp only [List.length_tail]; omega)
    simp [Descent.statement, kind, name, assign, hvalue]
  | statement_return kind value =>
    have hvalue := obeys.expression value (by simp only [List.length_tail]; omega)
    simp [Descent.statement, kind, hvalue]
  | statement_expr kind kind' value =>
    have hvalue := obeys.expression value enough
    simp [Descent.statement, hvalue]

end Obeys

/-- Every budget that is enough for the tokens left does. -/
theorem obeys (budget : Nat) : Obeys budget := by
  induction budget with
  | zero =>
    constructor <;> intros <;> omega
  | succ budget ih =>
    exact {
      expression h enough := ih.expression_succ h (by omega)
      operand h ready enough := ih.operand_succ h ready (by omega)
      climb h enough := ih.climb_succ h (by omega)
      continued h ready enough := ih.continued_succ h ready (by omega)
      arguments h enough := ih.arguments_succ h (by omega)
      conditional h enough := ih.conditional_succ h (by omega)
      function h ready enough := ih.function_succ h ready (by omega)
      block h enough := ih.block_succ h (by omega)
      statements h enough := ih.statements_succ h (by omega)
      statement h enough := ih.statement_succ h (by omega) }

end Descent

namespace Reads

variable {task : Task} {ts rest : List Token} {v : task.Result} {events : List Event}

/-- A descent with enough budget reads what `Reads` says. -/
theorem performs (h : Reads task ts v rest events) (ready : task.Ready ts) (budget : Nat)
    (r : Reader) (hr : r.pending = ts) (enough : 4 * ts.length + task.cost ≤ budget) :
    task.Performs budget r v (r.resume rest events) := by
  have obeys := Descent.obeys budget
  cases task with
  | expression floor => exact obeys.expression h enough r hr
  | operand start => exact obeys.operand h ready enough r hr
  | climb floor left => exact obeys.climb h enough r hr
  | continued next left => exact obeys.continued h ready enough r hr
  | arguments => exact fun found => obeys.arguments h enough found r hr
  | names => exact fun found => Descent.runs_names h enough found r hr
  | parameters =>
    exact Descent.runs_parameters h (Nat.le_trans (Nat.add_le_add_left (by decide) _) enough) r hr
  | block => exact obeys.block h enough r hr
  | statements scope => exact fun found => obeys.statements h enough found r hr
  | statement => exact obeys.statement h enough r hr

end Reads

end LetFn
