import LetFn.Proofs.Grammar.Complete
import LetFn.Proofs.Printing.Basic
import LetFn.Proofs.Recovery.Faults

/-!
# Errors and holes

Where a reader reports an error it gives up an expression, and a hole takes its place. The hole goes
up into the tree, or is lost with what it is part of, but only when a hole takes the place of that.
So a reading leaves no more holes than it reports errors (`Reads.holes_le`), and it leaves none only
when none of its errors gave up an expression (`Reads.errors_of_complete`).

The other errors are those of a `let` without a name or without `=`, which is left out of the tree.
In a tree without holes the errors are just the `let`s that are missing from it: together with those
that it holds they are the `let`s of the source (`Reads.lets_eq`).
-/

namespace LetFn

/-! ## Results -/

mutual

/-- The number of `let` statements in the expression. -/
@[simp] def Expr.lets : Expr → Nat
  | .hole | .ident _ | .int _ _ | .bool _ _ => 0
  | .unary _ _ operand => operand.lets
  | .binary _ _ left right => left.lets + right.lets
  | .ifThen _ condition consequence => condition.lets + consequence.lets
  | .ifThenElse _ condition consequence alternative =>
    condition.lets + consequence.lets + alternative.lets
  | .function _ _ body => body.lets
  | .call _ callee arguments => callee.lets + Expr.letsAll arguments

/-- The number of `let` statements in the expressions. -/
@[simp] def Expr.letsAll : List Expr → Nat
  | [] => 0
  | e :: es => e.lets + Expr.letsAll es

/-- The number of `let` statements in the statement. -/
@[simp] def Stmt.lets : Stmt → Nat
  | .let_ _ _ value => 1 + value.lets
  | .return_ _ value | .expr _ value => value.lets

/-- The number of `let` statements in the statements. -/
@[simp] def Stmt.letsAll : List Stmt → Nat
  | [] => 0
  | s :: ss => s.lets + Stmt.letsAll ss

/-- The number of `let` statements in the block. -/
@[simp] def Block.lets : Block → Nat
  | ⟨_, statements⟩ => Stmt.letsAll statements

end

/-- The number of `let` statements in the program. -/
def Program.lets (p : Program) : Nat := Stmt.letsAll p.statements

namespace Task

/-- The number of holes in a result. Names that could not be read leave one, since a hole takes the
place of their function. -/
@[simp] def holes : (task : Task) → task.Result → Nat
  | expression _, e | operand _, e | climb _ _, e | continued _ _, e => Expr.holes e
  | arguments, es => Expr.holesAll es
  | names, found | parameters, found => if found.isNone then 1 else 0
  | block, b => Block.holes b
  | statements _, ss => Stmt.holesAll ss
  | statement, s => Stmt.holesAll s.toList

/-- The number of holes in what the task goes on with. -/
@[simp] def holesBefore : Task → Nat
  | climb _ left | continued _ left => left.holes
  | _ => 0

/-- The number of `let` statements in a result. -/
@[simp] def lets : (task : Task) → task.Result → Nat
  | expression _, e | operand _, e | climb _ _, e | continued _ _, e => Expr.lets e
  | arguments, es => Expr.letsAll es
  | names, _ | parameters, _ => 0
  | block, b => Block.lets b
  | statements _, ss => Stmt.letsAll ss
  | statement, s => Stmt.letsAll s.toList

/-- The number of `let` statements in what the task goes on with. -/
@[simp] def letsBefore : Task → Nat
  | climb _ left | continued _ left => left.lets
  | _ => 0

end Task

theorem Stmt.holesAll_append (ss ts : List Stmt) :
    holesAll (ss ++ ts) = holesAll ss + holesAll ts := by
  induction ss with
  | nil => exact (Nat.zero_add _).symm
  | cons s ss ih => rw [List.cons_append, holesAll, holesAll, ih, Nat.add_assoc]

theorem Stmt.letsAll_append (ss ts : List Stmt) :
    letsAll (ss ++ ts) = letsAll ss + letsAll ts := by
  induction ss with
  | nil => exact (Nat.zero_add _).symm
  | cons s ss ih => rw [List.cons_append, letsAll, letsAll, ih, Nat.add_assoc]

/-- The error of a `let` without a name or without `=`. A parameter that is no name has the same
error as a missing name. -/
def ParseError.isLet : ParseError → Bool
  | unexpected .ident _ | unexpected .assign _ => true
  | _ => false

theorem countLets_eq_tail {ts : List Token} (h : (first ts).kind ≠ .let_) :
    countKind .let_ ts = countKind .let_ ts.tail := by
  cases ts with
  | nil => rfl
  | cons t ts => simpa using h

theorem countLets_eq_tail_of_eq {ts : List Token} {k : Kind} (h : (first ts).kind = k)
    (hk : (k == .let_) = false) : countKind .let_ ts = countKind .let_ ts.tail :=
  countLets_eq_tail (h ▸ ne_of_beq_false hk)

theorem countLets_eq_tail_of_start {ts : List Token} {start : Start}
    (h : (first ts).kind.start? = some start) : countKind .let_ ts = countKind .let_ ts.tail :=
  countLets_eq_tail (Kind.ne_of_start (by rw [h]; rfl) rfl)

theorem countLets_eq_tail_of_continuation {ts : List Token} {next : Continuation}
    (h : (first ts).kind.continuation? = some next) :
    countKind .let_ ts = countKind .let_ ts.tail :=
  countLets_eq_tail (Kind.ne_of_continuation h rfl)

theorem countLets_eq_succ {ts : List Token} (h : (first ts).kind = .let_) :
    countKind .let_ ts = 1 + countKind .let_ ts.tail := by
  rw [eq_first_cons (ne_eof_of_eq h rfl), countKind_cons, if_pos h, List.tail_cons]

theorem countLets_afterSemicolon (ts : List Token) :
    countKind .let_ (afterSemicolon ts).tail = countKind .let_ ts.tail := by
  unfold afterSemicolon
  split
  · next kind => rw [countLets_eq_tail_of_eq kind rfl]
  · rfl

namespace Task

/-- With as many errors as missing `let`s, the task found the `let`s that it looks at. -/
def Counted (ts : List Token) (missing : Nat) (rest : List Token) (task : Task) (v : task.Result) :
    Prop :=
  missing + task.lets v + countKind .let_ rest.tail =
    task.letsBefore + countKind .let_ (task.unread ts)

namespace Counted

variable {ts mid rest : List Token} {e : Expr} {b : Block} {m n k : Nat}

/-! ### Operands -/

theorem unary {op : UnaryOp} (start : (first ts).kind.start? = some (.unary op))
    (right : (expression .unary).Counted ts.tail n rest e) :
    (operand (.unary op)).Counted ts n rest (.unary (first ts) op e) := by
  simpa [Counted, unread, countLets_eq_tail_of_start start] using right

theorem group (start : (first ts).kind.start? = some .group)
    (inner : (expression .lowest).Counted ts.tail n rest e)
    (close : (first rest.tail).kind = .rparen) :
    (operand .group).Counted ts n rest.tail e := by
  simpa [Counted, unread, countLets_eq_tail_of_start start,
    countLets_eq_tail_of_eq close rfl] using inner

theorem ifThen (start : (first ts).kind.start? = some .conditional)
    (opening : (first ts.tail).kind = .lparen)
    (condition : (expression .lowest).Counted ts.tail.tail m mid e)
    (close : (first mid.tail).kind = .rparen) (brace : (first mid.tail.tail).kind = .lbrace)
    (consequence : block.Counted mid.tail.tail n rest b) :
    (operand .conditional).Counted ts (m + n) rest (.ifThen (first ts) e b) := by
  simp only [Counted, unread, lets, letsBefore, Expr.lets] at condition consequence ⊢
  have := countLets_eq_tail_of_start start
  have := countLets_eq_tail_of_eq opening rfl
  have := countLets_eq_tail_of_eq close rfl
  have := countLets_eq_tail_of_eq brace rfl
  omega

theorem ifThenElse {mid' : List Token} {a : Block}
    (start : (first ts).kind.start? = some .conditional) (opening : (first ts.tail).kind = .lparen)
    (condition : (expression .lowest).Counted ts.tail.tail m mid e)
    (close : (first mid.tail).kind = .rparen) (brace : (first mid.tail.tail).kind = .lbrace)
    (consequence : block.Counted mid.tail.tail n mid' b)
    (otherwise : (first mid'.tail).kind = .else_) (brace' : (first mid'.tail.tail).kind = .lbrace)
    (alternative : block.Counted mid'.tail.tail k rest a) :
    (operand .conditional).Counted ts (m + (n + k)) rest (.ifThenElse (first ts) e b a) := by
  have before := ifThen start opening condition close brace consequence
  simp only [Counted, unread, lets, letsBefore, Expr.lets] at before alternative ⊢
  have := countLets_eq_tail_of_eq otherwise rfl
  have := countLets_eq_tail_of_eq brace' rfl
  omega

theorem function {names : Option (List Ident)} {found : List Ident}
    (start : (first ts).kind.start? = some .function) (opening : (first ts.tail).kind = .lparen)
    (read : parameters.Counted ts.tail m mid names) (brace : (first mid.tail).kind = .lbrace)
    (body : block.Counted mid.tail n rest b) :
    (operand .function).Counted ts (m + n) rest (.function (first ts) found b) := by
  simp only [Counted, unread, lets, letsBefore, Expr.lets] at read body ⊢
  have := countLets_eq_tail_of_start start
  have := countLets_eq_tail_of_eq opening rfl
  have := countLets_eq_tail_of_eq brace rfl
  omega

/-! ### Operators and calls -/

theorem further {floor : Precedence} {next : Continuation} {left longer : Expr}
    (next_eq : (first ts.tail).kind.continuation? = some next)
    (one : (continued next left).Counted ts.tail m mid longer)
    (more : (climb floor longer).Counted mid n rest e) :
    (climb floor left).Counted ts (m + n) rest e := by
  simp only [Counted, unread, lets, letsBefore] at one more ⊢
  have := countLets_eq_tail_of_continuation next_eq
  omega

theorem binary {op : BinaryOp} {left : Expr}
    (right : (expression op.precedence).Counted ts.tail n rest e) :
    (continued (.binary op) left).Counted ts n rest (.binary (first ts) op left e) := by
  simp only [Counted, unread, lets, letsBefore, Expr.lets] at right ⊢
  omega

theorem call {callee : Expr} {args : List Expr} (inner : arguments.Counted ts.tail n rest args)
    (close : (first rest.tail).kind = .rparen) :
    (continued .call callee).Counted ts n rest.tail (.call (first ts) callee args) := by
  simp only [Counted, unread, lets, letsBefore, Expr.lets] at inner ⊢
  have := countLets_eq_tail_of_eq close rfl
  omega

theorem moreArguments {args : List Expr} (argument : (expression .lowest).Counted ts m mid e)
    (comma : (first mid.tail).kind = .comma) (more : arguments.Counted mid.tail.tail n rest args) :
    arguments.Counted ts (m + n) rest (e :: args) := by
  simp only [Counted, unread, lets, letsBefore, Expr.letsAll] at argument more ⊢
  have := countLets_eq_tail_of_eq comma rfl
  omega

/-! ### Statements -/

theorem noStatements {scope : Scope} (done : scope.endsAt (first ts).kind = true) :
    (statements scope).Counted ts 0 ts [] := by
  have noLet : (first ts).kind ≠ .let_ := by
    intro kind
    rw [Scope.endsAt_of_eq kind] at done
    cases done
  simp [Counted, unread, countLets_eq_tail noLet]

theorem moreStatements {scope : Scope} {s : Option Stmt} {ss : List Stmt}
    (first : statement.Counted ts m mid s) (more : (statements scope).Counted mid.tail n rest ss) :
    (statements scope).Counted ts (m + n) rest (s.toList ++ ss) := by
  simp only [Counted, unread, lets, letsBefore, Stmt.letsAll_append] at first more ⊢
  omega

/-- A `let` without a name is missing. -/
theorem noName (kind : (first ts).kind = .let_) : statement.Counted ts 1 ts none := by
  simp [Counted, unread, countLets_eq_succ kind]

/-- A `let` without `=` is missing. -/
theorem noAssign (kind : (first ts).kind = .let_) (name : (first ts.tail).kind = .ident) :
    statement.Counted ts 1 ts.tail none := by
  simp [Counted, unread, countLets_eq_succ kind, countLets_eq_tail_of_eq name rfl]

theorem let_ {name : Ident} (kind : (first ts).kind = .let_)
    (name_kind : (first ts.tail).kind = .ident) (assign : (first ts.tail.tail).kind = .assign)
    (value : (expression .lowest).Counted ts.tail.tail.tail n rest e) :
    statement.Counted ts n (afterSemicolon rest) (some (.let_ (first ts) name e)) := by
  simp only [Counted, unread, lets, letsBefore, Stmt.lets, Stmt.letsAll, Option.toList_some,
    countLets_afterSemicolon] at value ⊢
  have := countLets_eq_succ kind
  have := countLets_eq_tail_of_eq name_kind rfl
  have := countLets_eq_tail_of_eq assign rfl
  omega

theorem return_ (kind : (first ts).kind = .return_)
    (value : (expression .lowest).Counted ts.tail n rest e) :
    statement.Counted ts n (afterSemicolon rest) (some (.return_ (first ts) e)) := by
  simpa [Counted, unread, countLets_afterSemicolon, countLets_eq_tail_of_eq kind rfl] using value

theorem expr (value : (expression .lowest).Counted ts n rest e) :
    statement.Counted ts n (afterSemicolon rest) (some (.expr (first ts) e)) := by
  simpa [Counted, unread, countLets_afterSemicolon]
    using value

end Counted

end Task

namespace Reads

variable {task : Task} {ts rest : List Token} {v : task.Result} {events : List Event}

/-- A reading leaves no more holes than it finds and reports errors. -/
theorem holes_le (h : Reads task ts v rest events) :
    task.holes v ≤ task.holesBefore + (errorsOf events).length := by
  induction h with
  | expression_none | operand_badInteger | conditional_noCondition | function_noParameters
  | names_noName | names_open => simp [Expr.holes]
  | operand_openGroup | conditional_openCondition | conditional_noConsequence
  | conditional_noAlternative | function_noBody | continued_openCall =>
    simp only [Task.holes, Expr.holes, errorsOf_append, errorsOf_missing, errorsOf_move,
      List.length_append, List.length_cons]
    omega
  | operand_name | operand_integer | operand_boolean | names_last | parameters_none
  | statements_done | statement_noName | statement_noAssign => exact Nat.zero_le _
  | climb_stop => exact Nat.le_refl _
  | operand_unary _ ih | operand_group _ _ ih | function_badParameters _ _ ih
  | arguments_last _ _ ih | block_some _ ih | parameters_some _ _ ih =>
    simpa [Expr.holes, Expr.holesAll, Block.holes] using ih
  | names_more _ _ _ ih => simpa using ih
  | continued_emptyCall => simp [Expr.holes, Expr.holesAll]
  | continued_binary _ ih | continued_call _ _ _ ih =>
    simp only [Task.holes, Task.holesBefore, Expr.holes, List.cons_append, errorsOf_append,
      errorsOf_move, errorsOf_nil, List.append_nil] at ih ⊢
    omega
  | expression_some _ _ _ ih ih' | conditional_ifThen _ _ _ _ _ _ ih ih'
  | function_some _ _ _ _ ih ih' | climb_go _ _ _ _ ih ih' | arguments_more _ _ _ ih ih' =>
    simp only [Task.holes, Task.holesBefore, Expr.holes, Expr.holesAll, List.cons_append,
      errorsOf_append, errorsOf_move, List.length_append] at ih ih' ⊢
    omega
  | conditional_ifThenElse _ _ _ _ _ _ _ _ ih ih' ih'' =>
    simp only [Task.holes, Task.holesBefore, Expr.holes, List.cons_append, errorsOf_append,
      errorsOf_move, List.length_append] at ih ih' ih'' ⊢
    omega
  | statements_more _ _ _ ih ih' =>
    simp only [Task.holes, Task.holesBefore, Stmt.holesAll_append, errorsOf_append, errorsOf_move,
      List.length_append] at ih ih' ⊢
    omega
  | statement_let _ _ _ _ ih | statement_return _ _ ih | statement_expr _ _ _ ih =>
    simpa [Stmt.holes, Stmt.holesAll] using ih

/-- A reading that leaves no hole found none, and its errors are those of `let`s. -/
theorem errors_of_complete (h : Reads task ts v rest events) : task.holes v = 0 →
    task.holesBefore = 0 ∧ ∀ error ∈ errorsOf events, error.isLet = true := by
  induction h with
  | expression_none | operand_badInteger | operand_openGroup | conditional_noCondition
  | conditional_openCondition | conditional_noConsequence | conditional_noAlternative
  | function_noParameters | function_badParameters | function_noBody | names_noName | names_open
  | continued_openCall => simp [Expr.holes]
  | operand_name | operand_integer | operand_boolean | names_last | parameters_none
  | statements_done => exact fun _ => ⟨rfl, by simp⟩
  | statement_noName | statement_noAssign =>
    exact fun _ => ⟨rfl, by simp [ParseError.isLet]⟩
  | climb_stop => exact fun complete => ⟨complete, by simp⟩
  | operand_unary _ ih | operand_group _ _ ih | arguments_last _ _ ih | block_some _ ih
  | parameters_some _ _ ih =>
    simpa [Expr.holes, Expr.holesAll, Block.holes] using ih
  | names_more _ _ _ ih => simpa using ih
  | continued_emptyCall => simp [Expr.holes, Expr.holesAll]
  | continued_binary _ ih | continued_call _ _ _ ih =>
    intro complete
    obtain ⟨left, right⟩ := Nat.add_eq_zero_iff.mp complete
    exact ⟨left, by simpa using (ih right).2⟩
  | expression_some _ _ _ ih ih' =>
    intro complete
    obtain ⟨left, climb⟩ := ih' complete
    exact ⟨rfl, by simpa [or_imp, forall_and] using ⟨(ih left).2, climb⟩⟩
  | climb_go _ _ _ _ ih ih' =>
    intro complete
    obtain ⟨longer, climb⟩ := ih' complete
    obtain ⟨left, continued⟩ := ih longer
    exact ⟨left, by simpa [or_imp, forall_and] using ⟨continued, climb⟩⟩
  | conditional_ifThen _ _ _ _ _ _ ih ih' | arguments_more _ _ _ ih ih' =>
    intro complete
    obtain ⟨before, after⟩ := Nat.add_eq_zero_iff.mp complete
    exact ⟨rfl, by simpa [or_imp, forall_and] using ⟨(ih before).2, (ih' after).2⟩⟩
  | function_some _ _ _ _ ih ih' =>
    intro complete
    exact ⟨rfl, by simpa [or_imp, forall_and] using ⟨(ih rfl).2, (ih' complete).2⟩⟩
  | conditional_ifThenElse _ _ _ _ _ _ _ _ ih ih' ih'' =>
    intro complete
    obtain ⟨before, alternative⟩ := Nat.add_eq_zero_iff.mp complete
    obtain ⟨condition, consequence⟩ := Nat.add_eq_zero_iff.mp before
    exact ⟨rfl, by simpa [or_imp, forall_and] using
      ⟨(ih condition).2, (ih' consequence).2, (ih'' alternative).2⟩⟩
  | statements_more _ _ _ ih ih' =>
    intro complete
    rw [Task.holes, Stmt.holesAll_append] at complete
    obtain ⟨one, more⟩ := Nat.add_eq_zero_iff.mp complete
    exact ⟨rfl, by simpa [or_imp, forall_and] using ⟨(ih one).2, (ih' more).2⟩⟩
  | statement_let _ _ _ _ ih | statement_return _ _ ih | statement_expr _ _ _ ih =>
    simpa [Stmt.holes, Stmt.holesAll] using ih

/-- Of a reading that leaves no hole, the errors and the `let`s of the result are the `let`s that it
looks at. -/
theorem lets_eq (h : Reads task ts v rest events) : task.Ready ts → task.holes v = 0 →
    task.Counted ts (errorsOf events).length rest v := by
  induction h with
  | expression_none | operand_badInteger | operand_openGroup | conditional_noCondition
  | conditional_openCondition | conditional_noConsequence | conditional_noAlternative
  | function_noParameters | function_badParameters | function_noBody | names_noName | names_open
  | continued_openCall => simp [Expr.holes]
  | expression_some start_eq _ climb ih ih' =>
    intro _ complete
    have left := ih start_eq (climb.errors_of_complete complete).1
    have climb := ih' trivial complete
    simp only [Task.Counted, Task.unread, Task.lets, Task.letsBefore, errorsOf_append,
      List.length_append] at left climb ⊢
    omega
  | operand_name | operand_integer | operand_boolean =>
    intro ready _
    simp [Task.Counted, Task.unread, countLets_eq_tail_of_start ready]
  | operand_unary _ ih => exact fun ready complete => .unary ready (ih trivial complete)
  | operand_group _ close ih =>
    intro ready complete
    simpa using Task.Counted.group ready (ih trivial complete) close
  | conditional_ifThen opening _ close brace _ _ ih ih' =>
    intro ready complete
    obtain ⟨before, after⟩ := Nat.add_eq_zero_iff.mp complete
    have counted := Task.Counted.ifThen ready opening (ih trivial before) close brace
      (ih' trivial after)
    simpa using counted
  | conditional_ifThenElse opening _ close brace _ otherwise brace' _ ih ih' ih'' =>
    intro ready complete
    obtain ⟨before, after'⟩ := Nat.add_eq_zero_iff.mp complete
    obtain ⟨before, after⟩ := Nat.add_eq_zero_iff.mp before
    simpa using Task.Counted.ifThenElse ready opening (ih trivial before) close brace
      (ih' trivial after) otherwise brace' (ih'' trivial after')
  | function_some opening _ brace _ ih ih' =>
    intro ready complete
    simpa using Task.Counted.function ready opening (ih trivial rfl) brace (ih' trivial complete)
  | names_more name comma _ ih =>
    intro _ complete
    have names := ih trivial (by simpa using complete)
    simpa [Task.Counted, Task.unread, countLets_eq_tail_of_eq name rfl,
      countLets_eq_tail_of_eq comma rfl] using names
  | names_last name close =>
    intro _ _
    simp [Task.Counted, Task.unread, countLets_eq_tail_of_eq name rfl,
      countLets_eq_tail_of_eq close rfl]
  | parameters_none close =>
    intro _ _
    simp [Task.Counted, Task.unread, countLets_eq_tail_of_eq close rfl]
  | parameters_some _ _ ih => exact ih
  | climb_stop =>
    intro _ _
    simp [Task.Counted, Task.unread]
  | climb_go next_eq _ _ climb ih ih' =>
    intro _ complete
    have continued := ih next_eq (climb.errors_of_complete complete).1
    simpa using Task.Counted.further next_eq continued (ih' trivial complete)
  | continued_binary _ ih =>
    exact fun _ complete => .binary (ih trivial (Nat.add_eq_zero_iff.mp complete).2)
  | continued_emptyCall close =>
    intro _ _
    simp [Task.Counted, Task.unread, countLets_eq_tail_of_eq close rfl]
  | continued_call _ _ close ih =>
    intro _ complete
    simpa using Task.Counted.call (ih trivial (Nat.add_eq_zero_iff.mp complete).2) close
  | arguments_last _ _ ih =>
    intro _ complete
    have argument := ih trivial (Nat.add_eq_zero_iff.mp complete).1
    simpa [Task.Counted, Task.unread] using argument
  | arguments_more _ comma _ ih ih' =>
    intro _ complete
    obtain ⟨one, more⟩ := Nat.add_eq_zero_iff.mp complete
    simpa using Task.Counted.moreArguments (ih trivial one) comma (ih' trivial more)
  | block_some _ ih =>
    intro _ complete
    simpa [Task.Counted, Task.unread] using ih trivial complete
  | statements_done done => exact fun _ _ => .noStatements done
  | statements_more _ _ _ ih ih' =>
    intro _ complete
    rw [Task.holes, Stmt.holesAll_append] at complete
    obtain ⟨one, more⟩ := Nat.add_eq_zero_iff.mp complete
    simpa using Task.Counted.moreStatements (ih trivial one) (ih' trivial more)
  | statement_noName kind => exact fun _ _ => .noName kind
  | statement_noAssign kind name => exact fun _ _ => .noAssign kind name
  | statement_let kind name assign _ ih =>
    intro _ complete
    simpa using Task.Counted.let_ kind name assign (ih trivial complete)
  | statement_return kind _ ih =>
    intro _ complete
    simpa using Task.Counted.return_ kind (ih trivial complete)
  | statement_expr _ _ _ ih =>
    intro _ complete
    simpa using Task.Counted.expr (ih trivial complete)

end Reads

/-! ## Sources -/

/-- A source has at most as many holes as errors. -/
theorem holes_le_errors (source : String) :
    (parse source).value.holes ≤ (parse source).errors.length := by
  obtain ⟨events, run, errors⟩ := (eofless_tokens source).exists_reads
  have bound : (parse source).value.holes ≤ 0 + (errorsOf events).length := run.holes_le
  rwa [Nat.zero_add, ← errors] at bound

/-- A source has at most as many holes as errors. An error leaves a hole, unless a name or `=` was
expected; and where there are no holes, as many `let`s are missing as there are errors. -/
theorem holes_errors_parse (source : String) :
    (parse source).value.holes ≤ (parse source).errors.length ∧
      ((parse source).errors ≠ [] →
        (∀ found, .unexpected .ident found ∉ (parse source).errors ∧
          .unexpected .assign found ∉ (parse source).errors) →
        0 < (parse source).value.holes) ∧
      ((parse source).value.holes = 0 →
        (parse source).errors.length + (parse source).value.lets =
          countKind .let_ (tokens source)) := by
  obtain ⟨events, run, errors⟩ := (eofless_tokens source).exists_reads
  rw [← parse] at run errors
  refine ⟨holes_le_errors source, fun failed others => Nat.pos_of_ne_zero fun complete => ?_,
    fun complete => ?_⟩
  · obtain ⟨error, found⟩ := List.exists_mem_of_ne_nil _ failed
    have isLet := (run.errors_of_complete complete).2 error (errors ▸ found)
    unfold ParseError.isLet at isLet
    split at isLet
    · exact (others _).1 found
    · exact (others _).2 found
    · cases isLet
  · have lets : (errorsOf events).length + (parse source).value.lets + 0 =
        0 + countKind .let_ (tokens source) := run.lets_eq trivial complete
    rwa [Nat.add_zero, Nat.zero_add, ← errors] at lets

/-- A group that is not closed. -/
def openGroup : List Token := [.symbol '(', .word "x"]

theorem tokens_openGroup : tokens (spell openGroup) = openGroup :=
  tokens_spell_of_whole (by decide)

theorem holes_errors_openGroup :
    (parse (spell openGroup)).errors = [.unexpected .rparen .eof] ∧
      0 < (parse (spell openGroup)).value.holes := by
  have errors : (parse (spell openGroup)).errors = [.unexpected .rparen .eof] := by
    rw [parse, tokens_openGroup]
    decide
  have failed : (parse (spell openGroup)).errors ≠ [] := by simp [errors]
  exact ⟨errors, (holes_errors_parse (spell openGroup)).2.1 failed (by simp [errors])⟩

end LetFn
