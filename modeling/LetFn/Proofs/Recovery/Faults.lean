import LetFn.Proofs.Grammar.Sound
import LetFn.Proofs.Scanning.Spelling

/-!
# Faulty tokens are reported once

Some tokens are an error wherever they stand: illegal tokens, and integers that have no value
(`Token.fault?`). None of them is a delimiter that some construct waits for. So a reader can come
upon one only where an expression is due, and it reports the error there, whether it lost its way
before or not.

Each token is looked at by one task only. `Task.unread` are the tokens that a task and what is read
after it have yet to look at. Of a reading, then, the faults that it reports are those of the
tokens that were unread before it and are not after it (`Reads.faults`); and of a source the faults
that are reported are those of its tokens, in their order (`filter_isFault_errors`).
-/

namespace LetFn

/-! ## Faults -/

/-- The error that the token is wherever it stands. -/
def Token.fault? (t : Token) : Option ParseError :=
  match t.kind with
  | .illegal => some (.noExpression .illegal)
  | .int => if (Numeral.value? t.literal).isNone then some (.badInteger t.literal) else none
  | _ => none

/-- The error is one that a token is wherever it stands. -/
def ParseError.isFault : ParseError → Bool
  | noExpression .illegal | badInteger _ => true
  | _ => false

/-- The faults of tokens, in their order. -/
def faults (ts : List Token) : List ParseError := ts.filterMap Token.fault?

/-- The faults that steps report. -/
def faultsOf (events : List Event) : List ParseError :=
  (errorsOf events).filter ParseError.isFault

@[simp] theorem faultsOf_append (es fs : List Event) :
    faultsOf (es ++ fs) = faultsOf es ++ faultsOf fs := by
  simp [faultsOf]

@[simp] theorem faultsOf_semicolonMoves (ts : List Token) : faultsOf (semicolonMoves ts) = [] := by
  rw [faultsOf, errorsOf_semicolonMoves]
  rfl

theorem faults_eq (ts : List Token) : faults ts = (first ts).fault?.toList ++ faults ts.tail := by
  cases ts with
  | nil => rfl
  | cons t ts =>
    rw [faults, List.filterMap_cons, first_cons, List.tail_cons]
    cases t.fault? <;> rfl

/-- Only illegal tokens and integers have faults. -/
theorem faults_eq_tail {ts : List Token} (illegal : (first ts).kind ≠ .illegal)
    (int : (first ts).kind ≠ .int) : faults ts = faults ts.tail := by
  have none : (first ts).fault? = none := by
    unfold Token.fault?
    split <;> first | rfl | contradiction
  rw [faults_eq, none]
  rfl

theorem faults_eq_tail_of_eq {ts : List Token} {k : Kind} (h : (first ts).kind = k)
    (illegal : k ≠ .illegal := by decide) (int : k ≠ .int := by decide) :
    faults ts = faults ts.tail :=
  faults_eq_tail (h ▸ illegal) (h ▸ int)

theorem faults_eq_tail_of_start {ts : List Token} {start : Start}
    (h : (first ts).kind.start? = some start) (integer : start ≠ .integer := by simp) :
    faults ts = faults ts.tail := by
  refine faults_eq_tail (Kind.ne_of_start (by rw [h]; rfl) rfl) fun kind => integer ?_
  exact Option.some.inj (h.symm.trans (Kind.start?_eq_integer.mpr kind))

theorem faults_eq_tail_of_continuation {ts : List Token} {next : Continuation}
    (h : (first ts).kind.continuation? = some next) : faults ts = faults ts.tail :=
  faults_eq_tail (Kind.ne_of_continuation h rfl) (Kind.ne_of_continuation h rfl)

theorem faults_afterSemicolon (ts : List Token) :
    faults (afterSemicolon ts).tail = faults ts.tail := by
  unfold afterSemicolon
  split
  · next kind => rw [faults_eq_tail_of_eq kind]
  · rfl

/-! ## Steps -/

/-- The steps report the faults of the tokens from `before` up to `after`. -/
def Reports (before : List Token) (events : List Event) (after : List Token) : Prop :=
  faultsOf events ++ faults after = faults before

namespace Reports

variable {ts mid rest : List Token} {es fs : List Event}

theorem nil : Reports ts [] ts := rfl

theorem append (h : Reports ts es mid) (h' : Reports mid fs rest) : Reports ts (es ++ fs) rest := by
  rw [Reports, faultsOf_append, List.append_assoc, h', h]

theorem move {us : List Token} (h : Reports ts es rest) : Reports ts (.move us :: es) rest := h

theorem missing {us : List Token} {k : Kind} : Reports ts [.missing us k] ts := rfl

theorem statement {t : Token} (h : Reports ts es rest) : Reports ts (.statement t :: es) rest := h

/-- An optional semicolon is no fault. -/
theorem semicolon : Reports ts.tail (semicolonMoves ts) (afterSemicolon ts).tail := by
  rw [Reports, faultsOf_semicolonMoves, faults_afterSemicolon]
  rfl

/-- A token of a kind that is no fault is passed over. -/
theorem token {k : Kind} (kind : (first ts).kind = k) (h : Reports ts.tail es rest)
    (illegal : k ≠ .illegal := by decide) (int : k ≠ .int := by decide) : Reports ts es rest :=
  h.trans (faults_eq_tail_of_eq kind illegal int).symm

theorem start {start : Start} (start_eq : (first ts).kind.start? = some start)
    (h : Reports ts.tail es rest) (integer : start ≠ .integer := by simp) : Reports ts es rest :=
  h.trans (faults_eq_tail_of_start start_eq integer).symm

theorem continuation {next : Continuation} (next_eq : (first ts).kind.continuation? = some next)
    (h : Reports ts.tail es rest) : Reports ts es rest :=
  h.trans (faults_eq_tail_of_continuation next_eq).symm

end Reports

/-! ## Readings -/

/-- The tokens that the task and what is read after it have yet to look at. -/
def Task.unread : Task → List Token → List Token
  | expression _, ts | operand _, ts | arguments, ts | statements _, ts | statement, ts => ts
  | climb _ _, ts | continued _ _, ts | names, ts | parameters, ts | block, ts => ts.tail

/-- The error at a token that begins no expression is a fault exactly when the token has it. -/
theorem Token.fault?_of_start_eq_none {t : Token} (start : t.kind.start? = none) :
    [ParseError.noExpression t.kind].filter ParseError.isFault = t.fault?.toList := by
  unfold fault?
  cases kind : t.kind
  case int =>
    rw [kind] at start
    cases start
  all_goals rfl

/-- An integer is a fault exactly when it has no value. -/
theorem Token.fault?_of_int {t : Token} (kind : t.kind = .int) : t.fault? =
    if (Numeral.value? t.literal).isNone then some (.badInteger t.literal) else none := by
  rw [fault?, kind]

/-- The faults that a reading reports are those of the tokens that it looks at. -/
theorem Reads.faults {task : Task} {ts rest : List Token} {v : task.Result} {events : List Event}
    (h : Reads task ts v rest events) : task.Ready ts →
      Reports (task.unread ts) events rest.tail := by
  induction h with
  | @expression_none _ ts start =>
    intro _
    rw [Task.unread, Reports, faults_eq ts, ← Token.fault?_of_start_eq_none start]
    rfl
  | expression_some start_eq _ _ ih ih' => exact fun _ => (ih start_eq).append (ih' trivial)
  | operand_name | operand_boolean => exact fun ready => .start ready .nil
  | @operand_integer ts _ value_eq =>
    intro ready
    have none := Token.fault?_of_int (Kind.start?_eq_integer.mp ready)
    rw [value_eq] at none
    rw [Task.unread, Reports, faults_eq ts, none]
    rfl
  | @operand_badInteger ts value_eq =>
    intro ready
    have some := Token.fault?_of_int (Kind.start?_eq_integer.mp ready)
    rw [value_eq] at some
    rw [Task.unread, Reports, faults_eq ts, some]
    rfl
  | operand_unary _ ih => exact fun ready => .start ready (ih trivial).move
  | operand_group _ close ih =>
    intro ready
    refine .start ready ?_
    exact (ih trivial).move.append (.token close (.move .nil))
  | operand_openGroup _ _ ih =>
    exact fun ready => .start ready ((ih trivial).move.append .missing)
  | conditional_noCondition | function_noParameters => exact fun ready => .start ready .missing
  | conditional_openCondition opening _ _ ih =>
    intro ready
    refine .start ready (.token opening ?_)
    exact (ih trivial).move.move.append .missing
  | conditional_noConsequence opening _ close _ ih =>
    intro ready
    refine .start ready (.token opening ?_)
    exact (ih trivial).move.move.append (.token close (.move .missing))
  | conditional_ifThen opening _ close brace _ _ ih ih' =>
    intro ready
    refine .start ready (.token opening ((ih trivial).move.move.append ?_))
    exact .token close (.move (.token brace (ih' trivial).move))
  | @conditional_noAlternative _ mid rest _ _ _ fs opening _ close brace _ otherwise _ ih ih' =>
    intro ready
    have consequence : Reports mid.tail (.move mid :: .move mid.tail :: fs) rest.tail :=
      .token close (.move (.token brace (ih' trivial).move))
    refine .start ready (.token opening (((ih trivial).move.move.append consequence).append ?_))
    exact .token otherwise (.move .missing)
  | @conditional_ifThenElse _ mid mid' _ _ _ _ _ fs _ opening _ close brace _ otherwise brace' _
      ih ih' ih'' =>
    intro ready
    have consequence : Reports mid.tail (.move mid :: .move mid.tail :: fs) mid'.tail :=
      .token close (.move (.token brace (ih' trivial).move))
    refine .start ready (.token opening (((ih trivial).move.move.append consequence).append ?_))
    exact .token otherwise (.move (.token brace' (ih'' trivial).move))
  | function_badParameters opening _ ih =>
    exact fun ready => .start ready (.token opening (ih trivial).move)
  | function_noBody opening _ _ ih =>
    intro ready
    refine .start ready (.token opening ?_)
    exact (ih trivial).move.append .missing
  | function_some opening _ brace _ ih ih' =>
    intro ready
    refine .start ready (.token opening ?_)
    exact (ih trivial).move.append (.token brace (ih' trivial).move)
  | names_noName => exact fun _ => .missing
  | names_more name comma _ ih => exact fun _ => .token name (.token comma (ih trivial).move.move)
  | names_last name close => exact fun _ => .token name (.token close (.move (.move .nil)))
  | names_open name => exact fun _ => .token name (.move .missing)
  | parameters_none close => exact fun _ => .token close (.move .nil)
  | parameters_some _ _ ih | arguments_last _ _ ih => exact ih
  | climb_stop => exact fun _ => .nil
  | climb_go next_eq _ _ _ ih ih' =>
    exact fun _ => .continuation next_eq ((ih next_eq).move.append (ih' trivial))
  | continued_binary _ ih | block_some _ ih => exact fun _ => (ih trivial).move
  | continued_emptyCall close => exact fun _ => .token close (.move .nil)
  | continued_call _ _ close ih =>
    exact fun _ => (ih trivial).move.append (.token close (.move .nil))
  | continued_openCall _ _ _ ih => exact fun _ => (ih trivial).move.append .missing
  | arguments_more _ comma _ ih ih' =>
    exact fun _ => (ih trivial).append (.token comma (ih' trivial).move.move)
  | statements_done done =>
    intro _
    refine (faults_eq_tail ?_ ?_).symm <;>
    · intro kind
      rw [Scope.endsAt_of_eq kind] at done
      cases done
  | statements_more _ _ _ ih ih' => exact fun _ => (ih trivial).append (ih' trivial).move
  | statement_noName kind => exact fun _ => .token kind (.statement .missing)
  | statement_noAssign kind name =>
    exact fun _ => .token kind (.token name (.statement (.move .missing)))
  | statement_let kind name assign _ ih =>
    intro _
    refine .token kind (.token name (.token assign ?_))
    exact (ih trivial).move.move.move.statement.append .semicolon
  | statement_return kind _ ih =>
    intro _
    refine .token kind ?_
    exact (ih trivial).move.statement.append .semicolon
  | statement_expr _ _ _ ih => exact fun _ => (ih trivial).statement.append .semicolon

/-! ## Sources -/

/-- The faults that are reported are those of the tokens. -/
theorem filter_isFault_errors {ts : List Token} (eofless : Eofless ts) :
    (parseTokens ts).errors.filter ParseError.isFault = faults ts := by
  obtain ⟨events, run, errors⟩ := eofless.exists_reads
  have reported : faultsOf events ++ faults [] = faults ts := run.faults trivial
  rw [errors, ← reported]
  exact (List.append_nil _).symm

theorem count_illegal_faults (ts : List Token) :
    (faults ts).count (.noExpression .illegal) = countKind .illegal ts := by
  have at_token (t : Token) : t.fault?.toList.count (.noExpression .illegal) =
      if t.kind = .illegal then 1 else 0 := by
    unfold Token.fault?
    split
    · next kind => simp [kind]
    · next kind => split <;> simp [kind]
    · next illegal _ => simp [show t.kind ≠ .illegal from illegal]
  induction ts with
  | nil => rfl
  | cons t ts ih =>
    rw [faults_eq, first_cons, List.tail_cons, List.count_append, at_token, ih, countKind_cons]

/-- Every illegal token is reported, once. -/
theorem count_illegal_errors {ts : List Token} (eofless : Eofless ts) :
    (parseTokens ts).errors.count (.noExpression .illegal) = countKind .illegal ts := by
  rw [← count_illegal_faults, ← filter_isFault_errors eofless]
  exact (List.count_filter rfl).symm

end LetFn
