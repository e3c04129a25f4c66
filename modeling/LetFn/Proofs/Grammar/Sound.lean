import LetFn.Proofs.Grammar.Basic
import LetFn.Proofs.Reading.Total

/-!
# What is read without an error is in the grammar

`Reads.sound`: a reading that reports no error derives its result in the grammar, from the tokens
it took. What it says of each task is `Task.Sound`, with one lemma for each way to do a task.

The operators need an invariant that looks one token ahead. What stands to the left of an operator
is an expression of a level at least as tight as the operator that follows: a reading above a floor
goes on until the next token binds no more strongly than the floor, so the operand of a tighter
operator never stops before a looser one that it could have taken.
-/

namespace LetFn

/-! ## Kinds and operators -/

theorem Kind.start?_eq_name {k : Kind} : k.start? = some .name ↔ k = .ident := by
  cases k <;> simp [Kind.start?]

theorem Kind.start?_eq_integer {k : Kind} : k.start? = some .integer ↔ k = .int := by
  cases k <;> simp [Kind.start?]

theorem Kind.start?_eq_boolean {k : Kind} :
    k.start? = some .boolean ↔ k = .true_ ∨ k = .false_ := by
  cases k <;> simp [Kind.start?]

theorem Kind.start?_eq_unary {k : Kind} {op : UnaryOp} :
    k.start? = some (.unary op) ↔ k = op.kind := by
  cases k <;> cases op <;> simp [Kind.start?, UnaryOp.kind]

theorem Kind.start?_eq_group {k : Kind} : k.start? = some .group ↔ k = .lparen := by
  cases k <;> simp [Kind.start?]

theorem Kind.start?_eq_conditional {k : Kind} : k.start? = some .conditional ↔ k = .if_ := by
  cases k <;> simp [Kind.start?]

theorem Kind.start?_eq_function {k : Kind} : k.start? = some .function ↔ k = .function := by
  cases k <;> simp [Kind.start?]

theorem Kind.continuation?_eq_binary {k : Kind} {op : BinaryOp} :
    k.continuation? = some (.binary op) ↔ k = op.kind := by
  cases k <;> cases op <;> simp [Kind.continuation?, BinaryOp.kind]

theorem Kind.continuation?_eq_call {k : Kind} : k.continuation? = some .call ↔ k = .lparen := by
  cases k <;> simp [Kind.continuation?]

theorem BinaryOp.mem_operators {op : BinaryOp} {k : Precedence} :
    op ∈ k.operators ↔ op.precedence = k := by
  cases op <;> cases k <;> simp [Precedence.operators, BinaryOp.precedence]

namespace Precedence

/-- The level of what is read above a floor. -/
def above : Precedence → Precedence
  | lowest => equality
  | equality => comparison
  | comparison => sum
  | sum => product
  | product | unary | call => unary

theorem above_of_binary (op : BinaryOp) : op.precedence.above = op.precedence.tighter := by
  cases op <;> rfl

theorem rank_injective {k k' : Precedence} (h : k.rank = k'.rank) : k = k' := by
  cases k <;> cases k' <;> first | rfl | cases h

theorem rank_tighter {k : Precedence} (h : k.rank < Precedence.call.rank) :
    k.tighter.rank = k.rank + 1 := by
  cases k <;> first | rfl | simp [rank] at h

theorem rank_le_call (k : Precedence) : k.rank ≤ Precedence.call.rank := by
  cases k <;> decide

/-- Reading goes on with a tighter operator only from a level that is tight enough. -/
theorem above_le_of_lt {floor k : Precedence} (h : floor.rank < k.rank) :
    floor.above.rank ≤ k.rank := by
  cases floor <;> cases k <;> simp_all [rank, above]

theorem above_le_unary (floor : Precedence) : floor.above.rank ≤ unary.rank := by
  cases floor <;> decide

theorem above_le_of_le {floor : Precedence} {k : Precedence} (h : unary.rank ≤ k.rank) :
    floor.above.rank ≤ k.rank := Nat.le_trans floor.above_le_unary h

end Precedence

/-- An expression is one of every looser level. -/
theorem Derives.loosen {k k' : Precedence} {ts rest : List Token} {e : Expr}
    (h : Derives (.level k) ts e rest) (hk : k'.rank ≤ k.rank) : Derives (.level k') ts e rest := by
  obtain ⟨n, hn⟩ := Nat.exists_eq_add_of_le hk
  induction n generalizing k' with
  | zero => rwa [← Precedence.rank_injective hn]
  | succ n ih =>
    have htight : k'.tighter.rank = k'.rank + 1 :=
      Precedence.rank_tighter (by have := k.rank_le_call; omega)
    exact .tighter (ih (by omega) (by omega))

/-! ## Tokens without an end -/

/-- None of the tokens is the end of a text. -/
def Eofless (ts : List Token) : Prop := ∀ t ∈ ts, t.kind ≠ .eof

namespace Eofless

variable {ts : List Token}

theorem tail (h : Eofless ts) : Eofless ts.tail := fun t ht => h t (List.mem_of_mem_tail ht)

theorem eq_nil (h : Eofless ts) (heof : (first ts).kind = .eof) : ts = [] := by
  cases ts with
  | nil => rfl
  | cons t ts => exact absurd heof (h t (by simp))

theorem of_reads {task : Task} {rest : List Token} {v : task.Result} {events : List Event}
    (h : Eofless ts) (run : Reads task ts v rest events) : Eofless rest := by
  rw [run.rest_eq_drop]
  exact fun t ht => h t (List.mem_of_mem_drop ht)

/-- `parseTokens` reads the statements of the program up to the last token. -/
theorem exists_reads (h : Eofless ts) :
    ∃ events, Reads (.statements .program) ts (parseTokens ts).value.statements [] events ∧
      (parseTokens ts).errors = errorsOf events := by
  obtain ⟨rest, events, run⟩ := exists_reads_parseTokens ts
  obtain rfl := (h.of_reads run).eq_nil (Scope.endsAt_program.mp (run.endsAt rfl))
  exact ⟨events, run, run.errors_parseTokens⟩

end Eofless

/-! ## Soundness -/

/-- After an expression that stops above the lowest floor a statement ends, with a semicolon or
without. -/
theorem endsStatement_afterSemicolon {ts : List Token}
    (h : (first ts.tail).kind.precedence.rank ≤ Precedence.lowest.rank) :
    EndsStatement ts.tail (afterSemicolon ts).tail := by
  unfold afterSemicolon
  split
  case isTrue hkind =>
    rw [eq_first_cons (ne_eof_of_eq hkind rfl)]
    exact .semicolon hkind
  case isFalse =>
    refine .omitted ?_ ?_ <;> (intro hkind; rw [hkind] at h; exact absurd h (by decide))

/-- The result of the task is derived from the tokens it took. -/
def Task.Sound : (task : Task) → List Token → task.Result → List Token → Prop
  | expression floor, ts, e, rest => Derives (.level floor.above) ts e rest.tail
  | operand start, ts, e, rest => (first ts).kind.start? = some start →
    ∃ k : Precedence, Precedence.unary.rank ≤ k.rank ∧ Derives (.level k) ts e rest.tail ∧
      (first rest.tail).kind.precedence.rank ≤ k.rank
  | climb floor left, ts, e, rest => ∀ (k : Precedence) (ts₀ : List Token),
    floor.above.rank ≤ k.rank → Derives (.level k) ts₀ left ts.tail →
      (first ts.tail).kind.precedence.rank ≤ k.rank →
        Derives (.level floor.above) ts₀ e rest.tail
  | continued next left, ts, e, rest => (first ts).kind.continuation? = some next →
    ∀ ts₀, Derives (.level next.precedence) ts₀ left ts →
      Derives (.level next.precedence) ts₀ e rest.tail ∧
        (first rest.tail).kind.precedence.rank ≤ next.precedence.rank
  | arguments, ts, args, rest => Derives .arguments ts args rest.tail
  | names, ts, v, rest =>
    ∃ names, v = some names ∧ DerivesNames ts.tail names rest ∧ (first rest).kind = .rparen
  | parameters, ts, v, rest => (first ts).kind = .lparen →
    ∃ names, v = some names ∧ DerivesParameters ts names rest.tail
  | block, ts, b, rest => (first ts).kind = .lbrace → Derives .block ts b rest.tail
  | statements _, ts, ss, rest => Derives .statements ts ss rest
  | statement, ts, v, rest => ∃ s, v = some s ∧ Derives .statement ts s rest.tail

namespace Task.Sound

variable {ts mid rest : List Token} {e : Expr} {b : Block}

theorem expression_iff {floor : Precedence} : (expression floor).Sound ts e rest ↔
    Derives (.level floor.above) ts e rest.tail := .rfl

theorem arguments_iff {args : List Expr} :
    arguments.Sound ts args rest ↔ Derives .arguments ts args rest.tail := .rfl

theorem statements_iff {scope : Scope} {ss : List Stmt} :
    (statements scope).Sound ts ss rest ↔ Derives .statements ts ss rest := .rfl

/-! ### Operands -/

/-- A primary expression is tight enough for every token that follows it. -/
theorem primary {start : Start}
    (h : (first ts).kind.start? = some start → Derives .primary ts e rest.tail) :
    (operand start).Sound ts e rest := fun ready =>
  ⟨.call, by decide, .primary (h ready), Precedence.rank_le_call _⟩

theorem name : (operand .name).Sound ts (.ident ⟨first ts, (first ts).literal⟩) ts := by
  refine primary fun ready => ?_
  have kind := Kind.start?_eq_name.mp ready
  rw [eq_first_cons (ne_eof_of_eq kind rfl)]
  exact .name kind

theorem integer {value : Int} (value_eq : Numeral.value? (first ts).literal = some value) :
    (operand .integer).Sound ts (.int (first ts) value) ts := by
  refine primary fun ready => ?_
  have kind := Kind.start?_eq_integer.mp ready
  rw [eq_first_cons (ne_eof_of_eq kind rfl)]
  exact .integer kind value_eq

theorem boolean :
    (operand .boolean).Sound ts (.bool (first ts) ((first ts).kind = .true_)) ts := by
  refine primary fun ready => ?_
  obtain kind | kind := Kind.start?_eq_boolean.mp ready
  · rw [eq_first_cons (ne_eof_of_eq kind rfl)]
    simp only [first_cons, kind, decide_true]
    exact .true_ kind
  · rw [eq_first_cons (ne_eof_of_eq kind rfl)]
    simp only [first_cons, kind, reduceCtorEq, decide_false]
    exact .false_ kind

theorem unary {op : UnaryOp} (right : (expression .unary).Sound ts.tail e rest)
    (stop : (first rest.tail).kind.precedence.rank ≤ Precedence.unary.rank) :
    (operand (.unary op)).Sound ts (.unary (first ts) op e) rest := by
  intro ready
  rw [eq_first_cons (Kind.ne_eof_of_start ready)]
  exact ⟨.unary, Nat.le_refl _, .unary (Kind.start?_eq_unary.mp ready) right, stop⟩

theorem group (inner : (expression .lowest).Sound ts.tail e rest)
    (close : (first rest.tail).kind = .rparen) : (operand .group).Sound ts e rest.tail := by
  refine primary fun ready => ?_
  have kind := Kind.start?_eq_group.mp ready
  rw [expression_iff, eq_first_cons (ne_eof_of_eq close rfl)] at inner
  rw [eq_first_cons (ne_eof_of_eq kind rfl)]
  exact .group kind inner close

theorem ifThen (opening : (first ts.tail).kind = .lparen)
    (condition : (expression .lowest).Sound ts.tail.tail e mid)
    (close : (first mid.tail).kind = .rparen) (brace : (first mid.tail.tail).kind = .lbrace)
    (consequence : block.Sound mid.tail.tail b rest) :
    (operand .conditional).Sound ts (.ifThen (first ts) e b) rest := by
  refine primary fun ready => ?_
  have kind := Kind.start?_eq_conditional.mp ready
  rw [expression_iff, eq_first_cons (ne_eof_of_eq close rfl)] at condition
  rw [eq_first_cons (ne_eof_of_eq kind rfl), eq_first_cons (ne_eof_of_eq opening rfl)]
  exact .ifThen kind opening condition close (consequence brace)

theorem ifThenElse {mid' : List Token} {a : Block} (opening : (first ts.tail).kind = .lparen)
    (condition : (expression .lowest).Sound ts.tail.tail e mid)
    (close : (first mid.tail).kind = .rparen) (brace : (first mid.tail.tail).kind = .lbrace)
    (consequence : block.Sound mid.tail.tail b mid')
    (otherwise : (first mid'.tail).kind = .else_) (brace' : (first mid'.tail.tail).kind = .lbrace)
    (alternative : block.Sound mid'.tail.tail a rest) :
    (operand .conditional).Sound ts (.ifThenElse (first ts) e b a) rest := by
  refine primary fun ready => ?_
  have kind := Kind.start?_eq_conditional.mp ready
  have derived := consequence brace
  rw [expression_iff, eq_first_cons (ne_eof_of_eq close rfl)] at condition
  rw [eq_first_cons (ne_eof_of_eq otherwise rfl)] at derived
  rw [eq_first_cons (ne_eof_of_eq kind rfl), eq_first_cons (ne_eof_of_eq opening rfl)]
  exact .ifThenElse kind opening condition close derived otherwise (alternative brace')

theorem function {found : List Ident} (opening : (first ts.tail).kind = .lparen)
    (names : parameters.Sound ts.tail (some found) mid) (brace : (first mid.tail).kind = .lbrace)
    (body : block.Sound mid.tail b rest) :
    (operand .function).Sound ts (.function (first ts) found b) rest := by
  refine primary fun ready => ?_
  have kind := Kind.start?_eq_function.mp ready
  obtain ⟨_, ⟨⟩, derived⟩ := names opening
  rw [eq_first_cons (ne_eof_of_eq kind rfl)]
  exact .function kind derived (body brace)

/-! ### Parameters -/

theorem moreNames {more : Option (List Ident)} (name : (first ts.tail).kind = .ident)
    (comma : (first ts.tail.tail).kind = .comma) (h : names.Sound ts.tail.tail more rest) :
    names.Sound ts (more.map (⟨first ts.tail, (first ts.tail).literal⟩ :: ·)) rest := by
  obtain ⟨found, rfl, derived, close⟩ := h
  refine ⟨_, rfl, ?_, close⟩
  rw [eq_first_cons (ne_eof_of_eq name rfl), eq_first_cons (ne_eof_of_eq comma rfl)]
  exact .more name comma derived

theorem lastName (name : (first ts.tail).kind = .ident)
    (close : (first ts.tail.tail).kind = .rparen) :
    names.Sound ts (some [⟨first ts.tail, (first ts.tail).literal⟩]) ts.tail.tail := by
  refine ⟨_, rfl, ?_, close⟩
  rw [eq_first_cons (ne_eof_of_eq name rfl)]
  exact .one name

theorem noParameters (close : (first ts.tail).kind = .rparen) :
    parameters.Sound ts (some []) ts.tail := by
  intro opening
  refine ⟨[], rfl, ?_⟩
  rw [eq_first_cons (ne_eof_of_eq opening rfl), eq_first_cons (ne_eof_of_eq close rfl)]
  exact .empty opening close

theorem someParameters {v : Option (List Ident)} (h : names.Sound ts v rest) :
    parameters.Sound ts v rest := by
  intro opening
  obtain ⟨found, rfl, derived, close⟩ := h
  refine ⟨found, rfl, ?_⟩
  rw [eq_first_cons (ne_eof_of_eq close rfl)] at derived
  rw [eq_first_cons (ne_eof_of_eq opening rfl)]
  exact .list opening derived close

/-! ### Operators and calls -/

/-- An operator that is read on is no tighter than what stands before it, so that this is an
expression of the operator's level. -/
theorem further {floor : Precedence} {next : Continuation} {left longer : Expr}
    (next_eq : (first ts.tail).kind.continuation? = some next)
    (tight : floor.rank < next.precedence.rank)
    (continued : (continued next left).Sound ts.tail longer mid)
    (more : (climb floor longer).Sound mid e rest) : (climb floor left).Sound ts e rest := by
  intro k ts₀ hk derived hfirst
  rw [Kind.precedence, next_eq, Option.map_some, Option.getD_some] at hfirst
  obtain ⟨derived', stop⟩ := continued next_eq ts₀ (derived.loosen hfirst)
  exact more _ ts₀ (Precedence.above_le_of_lt tight) derived' stop

theorem binary {op : BinaryOp} {left : Expr}
    (right : (expression op.precedence).Sound ts.tail e rest)
    (stop : (first rest.tail).kind.precedence.rank ≤ op.precedence.rank) :
    (continued (.binary op) left).Sound ts (.binary (first ts) op left e) rest := by
  intro next_eq ts₀ derived
  have kind := Kind.continuation?_eq_binary.mp next_eq
  rw [expression_iff, Precedence.above_of_binary] at right
  rw [eq_first_cons (Kind.ne_eof_of_continuation next_eq)] at derived
  exact ⟨.binary (BinaryOp.mem_operators.mpr rfl) kind derived right, stop⟩

theorem emptyCall {callee : Expr} (close : (first ts.tail).kind = .rparen) :
    (continued .call callee).Sound ts (.call (first ts) callee []) ts.tail := by
  intro next_eq ts₀ derived
  have kind := Kind.continuation?_eq_call.mp next_eq
  rw [eq_first_cons (ne_eof_of_eq kind rfl), eq_first_cons (ne_eof_of_eq close rfl)] at derived
  exact ⟨.emptyCall derived kind close, Precedence.rank_le_call _⟩

theorem call {callee : Expr} {args : List Expr} (inner : arguments.Sound ts.tail args rest)
    (close : (first rest.tail).kind = .rparen) :
    (continued .call callee).Sound ts (.call (first ts) callee args) rest.tail := by
  intro next_eq ts₀ derived
  have kind := Kind.continuation?_eq_call.mp next_eq
  rw [arguments_iff, eq_first_cons (ne_eof_of_eq close rfl)] at inner
  rw [eq_first_cons (ne_eof_of_eq kind rfl)] at derived
  exact ⟨.call derived kind inner close, Precedence.rank_le_call _⟩

theorem moreArguments {args : List Expr} (argument : (expression .lowest).Sound ts e mid)
    (comma : (first mid.tail).kind = .comma) (more : arguments.Sound mid.tail.tail args rest) :
    arguments.Sound ts (e :: args) rest := by
  rw [expression_iff, eq_first_cons (ne_eof_of_eq comma rfl)] at argument
  exact Derives.moreArguments argument comma more

/-! ### Blocks and statements -/

/-- A block ends at its brace or at the end of the text. -/
theorem block_ {ss : List Stmt} (hrest : Eofless rest)
    (body : (statements .block).Sound ts.tail ss rest)
    (done : Scope.block.endsAt (first rest).kind = true) :
    block.Sound ts ⟨first ts, ss⟩ rest := by
  intro brace
  rw [statements_iff] at body
  rw [eq_first_cons (ne_eof_of_eq brace rfl)]
  obtain close | heof := Scope.endsAt_block.mp done
  · rw [eq_first_cons (ne_eof_of_eq close rfl)] at body
    exact .closedBlock brace body close
  · obtain rfl := hrest.eq_nil heof
    exact .openBlock brace body

theorem let_ (kind : (first ts).kind = .let_) (name : (first ts.tail).kind = .ident)
    (assign : (first ts.tail.tail).kind = .assign)
    (value : (expression .lowest).Sound ts.tail.tail.tail e rest)
    (stop : (first rest.tail).kind.precedence.rank ≤ Precedence.lowest.rank) :
    statement.Sound ts (some (.let_ (first ts) ⟨first ts.tail, (first ts.tail).literal⟩ e))
      (afterSemicolon rest) := by
  refine ⟨_, rfl, ?_⟩
  rw [eq_first_cons (ne_eof_of_eq kind rfl), eq_first_cons (ne_eof_of_eq name rfl),
    eq_first_cons (ne_eof_of_eq assign rfl)]
  exact .let_ kind name assign value (endsStatement_afterSemicolon stop)

theorem return_ (kind : (first ts).kind = .return_)
    (value : (expression .lowest).Sound ts.tail e rest)
    (stop : (first rest.tail).kind.precedence.rank ≤ Precedence.lowest.rank) :
    statement.Sound ts (some (.return_ (first ts) e)) (afterSemicolon rest) := by
  refine ⟨_, rfl, ?_⟩
  rw [eq_first_cons (ne_eof_of_eq kind rfl)]
  exact .return_ kind value (endsStatement_afterSemicolon stop)

theorem expr (value : (expression .lowest).Sound ts e rest)
    (stop : (first rest.tail).kind.precedence.rank ≤ Precedence.lowest.rank) :
    statement.Sound ts (some (.expr (first ts) e)) (afterSemicolon rest) := by
  refine ⟨_, rfl, ?_⟩
  rw [expression_iff] at value
  have hne : (first ts).kind ≠ .eof := value.first_ne_eof (by simp)
  rw [eq_first_cons hne] at value ⊢
  exact .expr value (endsStatement_afterSemicolon stop)

end Task.Sound

/-- A reading that reports no error derives its result. -/
theorem Reads.sound {task : Task} {ts rest : List Token} {v : task.Result} {events : List Event}
    (h : Reads task ts v rest events) :
    errorsOf events = [] → Eofless ts → task.Sound ts v rest := by
  induction h with
  | expression_none | operand_badInteger | operand_openGroup | conditional_noCondition
  | conditional_openCondition | conditional_noConsequence | conditional_noAlternative
  | function_noParameters | function_noBody | names_noName | names_open | continued_openCall
  | statement_noName | statement_noAssign => simp
  | expression_some start_eq operand _ ih ih' =>
    intro clean hts
    rw [errorsOf_append, List.append_eq_nil_iff] at clean
    obtain ⟨k, hk, derived, hfirst⟩ := ih clean.1 hts start_eq
    exact ih' clean.2 (hts.of_reads operand) k _ (Precedence.above_le_of_le hk) derived hfirst
  | operand_name => exact fun _ _ => .name
  | operand_integer value_eq => exact fun _ _ => .integer value_eq
  | operand_boolean => exact fun _ _ => .boolean
  | operand_unary right ih =>
    exact fun clean hts => .unary (ih clean hts.tail) (right.expression_stops clean)
  | operand_group _ close ih =>
    exact fun clean hts => .group (ih (by simpa using clean) hts.tail) close
  | conditional_ifThen opening condition close brace _ _ ih ih' =>
    intro clean hts
    simp only [List.cons_append, errorsOf_move, errorsOf_append, List.append_eq_nil_iff] at clean
    have hmid := (hts.tail.tail.of_reads condition).tail.tail
    exact .ifThen opening (ih clean.1 hts.tail.tail) close brace (ih' clean.2 hmid)
  | conditional_ifThenElse opening condition close brace consequence otherwise brace' _
      ih ih' ih'' =>
    intro clean hts
    simp only [List.cons_append, errorsOf_move, errorsOf_append, List.append_eq_nil_iff] at clean
    obtain ⟨⟨condition_clean, consequence_clean⟩, alternative_clean⟩ := clean
    have hmid := (hts.tail.tail.of_reads condition).tail.tail
    have hmid' := (hmid.of_reads consequence).tail.tail
    exact .ifThenElse opening (ih condition_clean hts.tail.tail) close brace
      (ih' consequence_clean hmid) otherwise brace' (ih'' alternative_clean hmid')
  | function_badParameters opening _ ih =>
    intro clean hts
    obtain ⟨_, ⟨⟩, -⟩ := ih clean hts.tail opening
  | function_some opening parameters brace _ ih ih' =>
    intro clean hts
    simp only [List.cons_append, errorsOf_move, errorsOf_append, List.append_eq_nil_iff] at clean
    have hmid := (hts.tail.of_reads parameters).tail
    exact .function opening (ih clean.1 hts.tail) brace (ih' clean.2 hmid)
  | names_more name comma _ ih =>
    exact fun clean hts => .moreNames name comma (ih clean hts.tail.tail)
  | names_last name close => exact fun _ _ => .lastName name close
  | parameters_none close => exact fun _ _ => .noParameters close
  | parameters_some _ _ ih => exact fun clean hts => .someParameters (ih clean hts)
  | climb_stop => exact fun _ _ k ts₀ hk left _ => left.loosen hk
  | climb_go next_eq tight continued _ ih ih' =>
    intro clean hts
    simp only [List.cons_append, errorsOf_move, errorsOf_append, List.append_eq_nil_iff] at clean
    exact .further next_eq tight (ih clean.1 hts.tail) (ih' clean.2 (hts.tail.of_reads continued))
  | continued_binary right ih =>
    exact fun clean hts => .binary (ih clean hts.tail) (right.expression_stops clean)
  | continued_emptyCall close => exact fun _ _ => .emptyCall close
  | continued_call _ _ close ih =>
    exact fun clean hts => .call (ih (by simpa using clean) hts.tail) close
  | arguments_last _ _ ih => exact fun clean hts => .oneArgument (ih clean hts)
  | arguments_more argument comma _ ih ih' =>
    intro clean hts
    simp only [errorsOf_move, errorsOf_append, List.append_eq_nil_iff] at clean
    exact .moreArguments (ih clean.1 hts) comma (ih' clean.2 (hts.of_reads argument).tail.tail)
  | block_some body ih =>
    exact fun clean hts => .block_ (hts.tail.of_reads body) (ih clean hts.tail) (body.endsAt rfl)
  | statements_done => exact fun _ _ => .noStatements
  | statements_more _ statement _ ih ih' =>
    intro clean hts
    simp only [errorsOf_move, errorsOf_append, List.append_eq_nil_iff] at clean
    obtain ⟨one, rfl, derived⟩ := ih clean.1 hts
    exact .moreStatements derived (ih' clean.2 (hts.of_reads statement).tail)
  | statement_let kind name assign value ih =>
    intro clean hts
    rw [errorsOf_then_semicolon] at clean
    exact .let_ kind name assign (ih clean hts.tail.tail.tail) (value.expression_stops clean)
  | statement_return kind value ih =>
    intro clean hts
    rw [errorsOf_then_semicolon] at clean
    exact .return_ kind (ih clean hts.tail) (value.expression_stops clean)
  | statement_expr _ _ value ih =>
    intro clean hts
    rw [errorsOf_then_semicolon] at clean
    exact .expr (ih clean hts) (value.expression_stops clean)

end LetFn
