import LetFn.Proofs.Grammar.Sound
import LetFn.Proofs.Scanning.Basic

/-!
# The grammar is read without an error

`Derives.complete`: what the grammar derives is read, with the derived tree and without an error.
What it says of each phrase is `Phrase.Complete`.

An expression of a level is read above any looser floor, but the reading may not stop at its end:
it stops where the floor says. So the statement is about what follows. To read above the floor the
expression and what comes after it is to go on climbing from the expression.

With soundness this gives the parser as a decision procedure for the grammar: a source has a tree
without errors exactly when it is a program of that tree (`parse_eq_iff_derivesProgram`).
-/

namespace LetFn

/-- The task is read without an error, with the given tokens after what was read. -/
def ReadsTo (task : Task) (ts : List Token) (v : task.Result) (rest : List Token) : Prop :=
  ∃ mid events, Reads task ts v mid events ∧ mid.tail = rest ∧ errorsOf events = []

theorem exists_eq_cons_of_tail {ts mid : List Token} {t : Token} (h : ts.tail = t :: mid) :
    ∃ x, ts = x :: t :: mid := by
  cases ts with
  | nil => cases h
  | cons x ts => exact ⟨x, congrArg (x :: ·) h⟩

namespace Precedence

theorem rank_le_tighter (k : Precedence) : k.rank ≤ k.tighter.rank := by
  cases k <;> decide

theorem lt_call {floor : Precedence} (h : floor ≠ call) : floor.rank < call.rank := by
  cases floor <;> first | decide | exact absurd rfl h

theorem lt_of_above_le {floor : Precedence} {op : BinaryOp}
    (h : floor.above.rank ≤ op.precedence.rank) : floor.rank < op.precedence.rank := by
  cases floor <;> cases op <;> simp_all [rank, above, BinaryOp.precedence]

end Precedence

/-- A token of the kind goes on with no expression. -/
def Kind.Stops (k : Kind) : Prop := k.precedence.rank ≤ Precedence.lowest.rank ∧ k ≠ .else_

instance (k : Kind) : Decidable k.Stops := inferInstanceAs (Decidable (_ ∧ _))

theorem Kind.stops_of_eq {k k' : Kind} (h : k = k') (hk : k'.Stops := by decide) : k.Stops :=
  h ▸ hk

/-- The kinds of token that can come after a statement. -/
def Kind.FollowsStatement (k : Kind) : Prop :=
  k = .eof ∨ k = .rbrace ∨ Phrase.statement.Begins k

theorem Kind.FollowsStatement.of_endsAt {scope : Scope} {k : Kind} (h : scope.endsAt k = true) :
    k.FollowsStatement := by
  cases scope with
  | program => exact .inl (Scope.endsAt_program.mp h)
  | block => exact (Scope.endsAt_block.mp h).symm.imp_right .inl

/-- What can come after a statement without a semicolon neither ends it nor goes on with it. -/
theorem Kind.FollowsStatement.stops {k : Kind} (h : k.FollowsStatement) (minus : k ≠ .minus)
    (lparen : k ≠ .lparen) : k.Stops ∧ k ≠ .semicolon := by
  cases k <;> first | decide | simp_all [FollowsStatement, Phrase.Begins, start?]

theorem Scope.endsAt_of_begins {scope : Scope} {k : Kind} (h : Phrase.statement.Begins k) :
    scope.endsAt k = false := by
  cases scope <;> cases k <;> simp_all [Phrase.Begins, Kind.start?, endsAt]

namespace EndsStatement

variable {mid rest : List Token}

/-- The expression at the end of a statement stops there. -/
theorem stops (h : EndsStatement mid rest) (follows : (first rest).kind.FollowsStatement) :
    (first mid).kind.Stops := by
  cases h with
  | semicolon kind => exact Kind.stops_of_eq kind
  | omitted minus lparen => exact (follows.stops minus lparen).1

/-- After it, what follows the statement is what follows an optional semicolon. -/
theorem afterSemicolon_tail (h : EndsStatement mid rest)
    (follows : (first rest).kind.FollowsStatement) {ts : List Token} (hts : ts.tail = mid) :
    (afterSemicolon ts).tail = rest := by
  unfold afterSemicolon
  rw [hts]
  cases h with
  | semicolon kind => rw [first_cons, if_pos kind, List.tail_cons]
  | omitted minus lparen => rw [if_neg (follows.stops minus lparen).2, hts]

end EndsStatement

/-- To read above the floor is to go on climbing from the expression, which is read without an
error, with the given tokens after it. -/
def ClimbsFrom (floor : Precedence) (ts : List Token) (e : Expr) (rest : List Token) : Prop :=
  ∃ mid events, mid.tail = rest ∧ errorsOf events = [] ∧
    ∀ {v : Expr} {stop : List Token} {events' : List Event},
      Reads (.climb floor e) mid v stop events' →
        Reads (.expression floor) ts v stop (events ++ events')

/-- The phrase is read with its tree and without an error. -/
def Phrase.Complete : (phrase : Phrase) → List Token → phrase.Tree → List Token → Prop
  | level k, ts, e, rest => ∀ floor : Precedence, floor.above.rank ≤ k.rank → floor ≠ .call →
    (first rest).kind.precedence.rank ≤ k.rank → (first rest).kind ≠ .else_ →
      ClimbsFrom floor ts e rest
  | primary, ts, e, rest => (first rest).kind ≠ .else_ →
    ∃ start, (first ts).kind.start? = some start ∧ ReadsTo (.operand start) ts e rest
  | arguments, ts, args, rest => (first rest).kind = .rparen → ReadsTo .arguments ts args rest
  | block, ts, b, rest => ReadsTo .block ts b rest
  | statements, ts, ss, rest => ∀ scope : Scope, scope.endsAt (first rest).kind = true →
    (first ts).kind.FollowsStatement ∧
      ∃ events, Reads (.statements scope) ts ss rest events ∧ errorsOf events = []
  | statement, ts, s, rest => (first rest).kind.FollowsStatement →
    ReadsTo .statement ts (some s) rest

/-- An expression is read to its end when what follows binds no more strongly than the floor. -/
theorem Phrase.Complete.readsTo {k floor : Precedence} {ts rest : List Token} {e : Expr}
    (h : (level k).Complete ts e rest) (hk : floor.above.rank ≤ k.rank) (hfloor : floor ≠ .call)
    (hle : floor.rank ≤ k.rank) (stop : (first rest).kind.precedence.rank ≤ floor.rank)
    (noElse : (first rest).kind ≠ .else_) : ReadsTo (.expression floor) ts e rest := by
  obtain ⟨mid, events, rfl, clean, run⟩ := h floor hk hfloor (Nat.le_trans stop hle) noElse
  exact ⟨mid, _, run (.climb_stop stop), rfl, by simpa using clean⟩

/-- An expression between delimiters is read to its end. -/
theorem Phrase.Complete.readsTo_lowest {ts rest : List Token} {e : Expr}
    (h : expression.Complete ts e rest)
    (stop : (first rest).kind.Stops) : ReadsTo (.expression .lowest) ts e rest :=
  h.readsTo (by decide) (by decide) (by decide) stop.1 stop.2

theorem DerivesNames.first_kind {ts rest : List Token} {names : List Ident}
    (h : DerivesNames ts names rest) : (first ts).kind = .ident := by
  cases h with
  | one name | more name => exact name

/-- The names are read from the token before them on. -/
theorem DerivesNames.reads {ts rest : List Token} {names : List Ident}
    (h : DerivesNames ts names rest) (close : (first rest).kind = .rparen) (t : Token) :
    ∃ events, Reads .names (t :: ts) (some names) rest events ∧ errorsOf events = [] := by
  induction h generalizing t with
  | @one u rest name => exact ⟨_, @Reads.names_last (t :: u :: rest) name close, rfl⟩
  | @more u comma ts rest names name comma_kind _ ih =>
    obtain ⟨events, run, clean⟩ := ih close comma
    exact ⟨_, @Reads.names_more (t :: u :: comma :: ts) _ _ _ name comma_kind run, clean⟩

theorem DerivesParameters.first_kind {ts rest : List Token} {names : List Ident}
    (h : DerivesParameters ts names rest) : (first ts).kind = .lparen := by
  cases h with
  | empty opening_kind | list opening_kind => exact opening_kind

theorem DerivesParameters.readsTo {ts rest : List Token} {names : List Ident}
    (h : DerivesParameters ts names rest) : ReadsTo .parameters ts (some names) rest := by
  cases h with
  | @empty opening close rest _ close_kind =>
    exact ⟨_, _, @Reads.parameters_none (opening :: close :: rest) close_kind, rfl, rfl⟩
  | @list opening close ts rest names _ derived close_kind =>
    obtain ⟨events, run, clean⟩ := derived.reads close_kind opening
    have nonempty : (first ts).kind ≠ .rparen := by simp [derived.first_kind]
    exact ⟨_, _, .parameters_some nonempty run, rfl, clean⟩

/-! ## Readings without an error

The rules of `Reads` for what reports no error, with the tokens written out that a rule looks at. -/

namespace ClimbsFrom

variable {floor : Precedence} {ts mid rest : List Token} {e longer : Expr}

/-- Climbing begins at an operand. -/
theorem operand {start : Start} (start_eq : (first ts).kind.start? = some start)
    (h : ReadsTo (.operand start) ts e rest) : ClimbsFrom floor ts e rest := by
  obtain ⟨mid, events, operand, hmid, clean⟩ := h
  exact ⟨mid, events, hmid, clean, .expression_some start_eq operand⟩

/-- Climbing goes on with an operator or a call that is tighter than the floor. -/
theorem further {t : Token} {next : Continuation} (h : ClimbsFrom floor ts e (t :: mid))
    (next_eq : t.kind.continuation? = some next) (tight : floor.rank < next.precedence.rank)
    (more : ReadsTo (.continued next e) (t :: mid) longer rest) :
    ClimbsFrom floor ts longer rest := by
  obtain ⟨mid₁, es, hmid₁, clean, run⟩ := h
  obtain ⟨x, rfl⟩ := exists_eq_cons_of_tail hmid₁
  obtain ⟨mid₂, fs, continued, rfl, clean'⟩ := more
  refine ⟨mid₂, es ++ .move (x :: t :: mid) :: fs, rfl, by simp [clean, clean'], fun climb => ?_⟩
  simpa using run (@Reads.climb_go _ _ _ _ _ (x :: t :: mid) _ _ _ _ next_eq tight continued climb)

end ClimbsFrom

namespace ReadsTo

variable {t opening close : Token} {ts mid rest : List Token} {e : Expr} {b : Block}

theorem unary {op : UnaryOp} (h : ReadsTo (.expression .unary) ts e rest) :
    ReadsTo (.operand (.unary op)) (t :: ts) (.unary t op e) rest := by
  obtain ⟨mid, es, right, hmid, clean⟩ := h
  exact ⟨mid, _, @Reads.operand_unary op (t :: ts) _ _ _ right, hmid, by simpa using clean⟩

theorem group (h : ReadsTo (.expression .lowest) ts e (close :: rest))
    (close_kind : close.kind = .rparen) : ReadsTo (.operand .group) (opening :: ts) e rest := by
  obtain ⟨mid, es, inner, hmid, clean⟩ := h
  obtain ⟨x, rfl⟩ := exists_eq_cons_of_tail hmid
  exact ⟨close :: rest, _,
    @Reads.operand_group (opening :: ts) (x :: close :: rest) _ _ inner close_kind, rfl,
    by simp [clean]⟩

theorem ifThen (opening_kind : opening.kind = .lparen)
    (condition : ReadsTo (.expression .lowest) ts e (close :: mid))
    (close_kind : close.kind = .rparen) (brace : (first mid).kind = .lbrace)
    (consequence : ReadsTo .block mid b rest) (noElse : (first rest).kind ≠ .else_) :
    ReadsTo (.operand .conditional) (t :: opening :: ts) (.ifThen t e b) rest := by
  obtain ⟨mid₁, es, condition, hmid₁, clean⟩ := condition
  obtain ⟨x, rfl⟩ := exists_eq_cons_of_tail hmid₁
  obtain ⟨mid₂, fs, consequence, rfl, clean'⟩ := consequence
  exact ⟨mid₂, _, @Reads.conditional_ifThen (t :: opening :: ts) (x :: close :: mid) _ _ _ _ _
    opening_kind condition close_kind brace consequence noElse, rfl, by simp [clean, clean']⟩

theorem ifThenElse {otherwise : Token} {mid' : List Token} {a : Block}
    (opening_kind : opening.kind = .lparen)
    (condition : ReadsTo (.expression .lowest) ts e (close :: mid))
    (close_kind : close.kind = .rparen) (brace : (first mid).kind = .lbrace)
    (consequence : ReadsTo .block mid b (otherwise :: mid'))
    (otherwise_kind : otherwise.kind = .else_) (brace' : (first mid').kind = .lbrace)
    (alternative : ReadsTo .block mid' a rest) :
    ReadsTo (.operand .conditional) (t :: opening :: ts) (.ifThenElse t e b a) rest := by
  obtain ⟨mid₁, es, condition, hmid₁, clean⟩ := condition
  obtain ⟨x, rfl⟩ := exists_eq_cons_of_tail hmid₁
  obtain ⟨mid₂, fs, consequence, hmid₂, clean'⟩ := consequence
  obtain ⟨y, rfl⟩ := exists_eq_cons_of_tail hmid₂
  obtain ⟨mid₃, gs, alternative, rfl, clean''⟩ := alternative
  exact ⟨mid₃, _, @Reads.conditional_ifThenElse (t :: opening :: ts) (x :: close :: mid)
    (y :: otherwise :: mid') _ _ _ _ _ _ _ opening_kind condition close_kind brace consequence
    otherwise_kind brace' alternative, rfl, by simp [clean, clean', clean'']⟩

theorem function {names : List Ident} (opening : (first ts).kind = .lparen)
    (parameters : ReadsTo .parameters ts (some names) mid) (brace : (first mid).kind = .lbrace)
    (body : ReadsTo .block mid b rest) :
    ReadsTo (.operand .function) (t :: ts) (.function t names b) rest := by
  obtain ⟨mid₁, es, parameters, rfl, clean⟩ := parameters
  obtain ⟨mid₂, fs, body, rfl, clean'⟩ := body
  exact ⟨mid₂, _, @Reads.function_some (t :: ts) mid₁ mid₂ names b es fs opening parameters brace
    body, rfl, by simp [clean, clean']⟩

theorem binary {op : BinaryOp} {left right : Expr}
    (h : ReadsTo (.expression op.precedence) ts right rest) :
    ReadsTo (.continued (.binary op) left) (t :: ts) (.binary t op left right) rest := by
  obtain ⟨mid, es, right, hmid, clean⟩ := h
  exact ⟨mid, _, @Reads.continued_binary op _ _ (t :: ts) _ _ right, hmid, by simpa using clean⟩

theorem emptyCall {callee : Expr} (close_kind : close.kind = .rparen) :
    ReadsTo (.continued .call callee) (opening :: close :: rest) (.call opening callee []) rest :=
  ⟨close :: rest, _, @Reads.continued_emptyCall callee (opening :: close :: rest) close_kind, rfl,
    rfl⟩

theorem call {callee : Expr} {args : List Expr} (nonempty : (first ts).kind ≠ .rparen)
    (h : ReadsTo .arguments ts args (close :: rest)) (close_kind : close.kind = .rparen) :
    ReadsTo (.continued .call callee) (opening :: ts) (.call opening callee args) rest := by
  obtain ⟨mid, es, arguments, hmid, clean⟩ := h
  obtain ⟨x, rfl⟩ := exists_eq_cons_of_tail hmid
  exact ⟨close :: rest, _, @Reads.continued_call callee args (opening :: ts) (x :: close :: rest)
    es nonempty arguments close_kind, rfl, by simp [clean]⟩

theorem oneArgument (h : ReadsTo (.expression .lowest) ts e rest)
    (comma : (first rest).kind ≠ .comma) : ReadsTo .arguments ts [e] rest := by
  obtain ⟨mid, es, argument, rfl, clean⟩ := h
  exact ⟨mid, es, .arguments_last argument comma, rfl, clean⟩

theorem moreArguments {comma : Token} {args : List Expr}
    (argument : ReadsTo (.expression .lowest) ts e (comma :: mid)) (kind : comma.kind = .comma)
    (more : ReadsTo .arguments mid args rest) : ReadsTo .arguments ts (e :: args) rest := by
  obtain ⟨mid₁, es, argument, hmid₁, clean⟩ := argument
  obtain ⟨x, rfl⟩ := exists_eq_cons_of_tail hmid₁
  obtain ⟨mid₂, fs, arguments, rfl, clean'⟩ := more
  exact ⟨mid₂, _, .arguments_more argument kind arguments, rfl, by simp [clean, clean']⟩

theorem let_ {name assign : Token} (kind : t.kind = .let_) (name_kind : name.kind = .ident)
    (assign_kind : assign.kind = .assign) (value : ReadsTo (.expression .lowest) ts e mid)
    (ends : EndsStatement mid rest) (follows : (first rest).kind.FollowsStatement) :
    ReadsTo .statement (t :: name :: assign :: ts) (some (.let_ t ⟨name, name.literal⟩ e))
      rest := by
  obtain ⟨mid₁, es, value, hmid₁, clean⟩ := value
  exact ⟨_, _, @Reads.statement_let (t :: name :: assign :: ts) mid₁ e es kind name_kind
    assign_kind value, ends.afterSemicolon_tail follows hmid₁, by simp [clean]⟩

theorem return_ (kind : t.kind = .return_) (value : ReadsTo (.expression .lowest) ts e mid)
    (ends : EndsStatement mid rest) (follows : (first rest).kind.FollowsStatement) :
    ReadsTo .statement (t :: ts) (some (.return_ t e)) rest := by
  obtain ⟨mid₁, es, value, hmid₁, clean⟩ := value
  exact ⟨_, _, @Reads.statement_return (t :: ts) mid₁ e es kind value,
    ends.afterSemicolon_tail follows hmid₁, by simp [clean]⟩

theorem expr (start : t.kind.start?.isSome) (value : ReadsTo (.expression .lowest) (t :: ts) e mid)
    (ends : EndsStatement mid rest) (follows : (first rest).kind.FollowsStatement) :
    ReadsTo .statement (t :: ts) (some (.expr t e)) rest := by
  obtain ⟨mid₁, es, value, hmid₁, clean⟩ := value
  exact ⟨_, _, @Reads.statement_expr (t :: ts) mid₁ e es (Kind.ne_of_start start rfl)
    (Kind.ne_of_start start rfl) value, ends.afterSemicolon_tail follows hmid₁, by simp [clean]⟩

end ReadsTo

/-! ## Completeness -/

/-- What is derived is read, with its tree and without an error. -/
theorem Derives.complete {phrase : Phrase} {ts rest : List Token} {v : phrase.Tree}
    (h : Derives phrase ts v rest) : phrase.Complete ts v rest := by
  induction h with
  | @tighter k ts rest e _ ih =>
    intro floor hk hfloor stop noElse
    have htight := k.rank_le_tighter
    exact ih floor (by omega) hfloor (by omega) noElse
  | @binary k op t _ _ _ _ _ level kind _ _ ih ih' =>
    intro floor hk hfloor stop noElse
    obtain rfl := BinaryOp.mem_operators.mp level
    have next_eq : t.kind.continuation? = some (.binary op) :=
      Kind.continuation?_eq_binary.mpr kind
    have hfirst : t.kind.precedence = op.precedence := by
      rw [Kind.precedence, next_eq]
      rfl
    have left := ih floor hk hfloor (by simp [hfirst])
      (by rw [first_cons, kind]; cases op <;> decide)
    have right := ih'.readsTo
      (Nat.le_of_eq (congrArg Precedence.rank (Precedence.above_of_binary op)))
      (by cases op <;> decide) (Precedence.rank_le_tighter _) stop noElse
    exact left.further next_eq (Precedence.lt_of_above_le hk) right.binary
  | unary kind _ ih =>
    intro floor hk hfloor stop noElse
    have right := ih.readsTo (by decide) (by decide) (Nat.le_refl _) stop noElse
    exact .operand (Kind.start?_eq_unary.mpr kind) right.unary
  | primary _ ih =>
    intro floor hk hfloor stop noElse
    obtain ⟨start, start_eq, operand⟩ := ih noElse
    exact .operand start_eq operand
  | emptyCall _ opening_kind close_kind ih =>
    intro floor hk hfloor _ _
    have callee := ih floor hk hfloor (Precedence.rank_le_call _) (by simp [opening_kind])
    exact callee.further (Kind.continuation?_eq_call.mpr opening_kind) (Precedence.lt_call hfloor)
      (.emptyCall close_kind)
  | call _ opening_kind derived close_kind ih ih' =>
    intro floor hk hfloor _ _
    have callee := ih floor hk hfloor (Precedence.rank_le_call _) (by simp [opening_kind])
    have nonempty : (first _).kind ≠ .rparen := Kind.ne_of_start derived.begins rfl
    exact callee.further (Kind.continuation?_eq_call.mpr opening_kind) (Precedence.lt_call hfloor)
      (.call nonempty (ih' close_kind) close_kind)
  | oneArgument _ ih =>
    exact fun close => (ih.readsTo_lowest (Kind.stops_of_eq close)).oneArgument (by simp [close])
  | moreArguments _ kind _ ih ih' =>
    exact fun close => (ih.readsTo_lowest (Kind.stops_of_eq kind)).moreArguments kind (ih' close)
  | @name t rest kind =>
    intro _
    exact ⟨.name, Kind.start?_eq_name.mpr kind, t :: rest, [], .operand_name, rfl, rfl⟩
  | @integer t rest value kind value_eq =>
    intro _
    exact ⟨.integer, Kind.start?_eq_integer.mpr kind, t :: rest, [],
      @Reads.operand_integer (t :: rest) _ value_eq, rfl, rfl⟩
  | @true_ t rest kind =>
    intro _
    refine ⟨.boolean, Kind.start?_eq_boolean.mpr (.inl kind), t :: rest, [], ?_, rfl, rfl⟩
    simpa [kind] using @Reads.operand_boolean (t :: rest)
  | @false_ t rest kind =>
    intro _
    refine ⟨.boolean, Kind.start?_eq_boolean.mpr (.inr kind), t :: rest, [], ?_, rfl, rfl⟩
    simpa [kind] using @Reads.operand_boolean (t :: rest)
  | group opening_kind _ close_kind ih =>
    intro _
    have inner := ih.readsTo_lowest (Kind.stops_of_eq close_kind)
    exact ⟨.group, Kind.start?_eq_group.mpr opening_kind, inner.group close_kind⟩
  | ifThen kind opening_kind _ close_kind derived ih ih' =>
    intro noElse
    have condition := ih.readsTo_lowest (Kind.stops_of_eq close_kind)
    exact ⟨.conditional, Kind.start?_eq_conditional.mpr kind,
      .ifThen opening_kind condition close_kind derived.begins ih' noElse⟩
  | ifThenElse kind opening_kind _ close_kind derived otherwise_kind derived' ih ih' ih'' =>
    intro _
    have condition := ih.readsTo_lowest (Kind.stops_of_eq close_kind)
    exact ⟨.conditional, Kind.start?_eq_conditional.mpr kind,
      .ifThenElse opening_kind condition close_kind derived.begins ih' otherwise_kind
        derived'.begins ih''⟩
  | function kind parameters derived ih =>
    intro _
    exact ⟨.function, Kind.start?_eq_function.mpr kind,
      .function parameters.first_kind parameters.readsTo derived.begins ih⟩
  | @closedBlock opening close ts rest ss opening_kind _ close_kind ih =>
    obtain ⟨-, es, body, clean⟩ := ih .block (by rw [first_cons, close_kind]; rfl)
    exact ⟨close :: rest, _, @Reads.block_some (opening :: ts) _ ss es body, rfl, clean⟩
  | @openBlock opening ts ss opening_kind _ ih =>
    obtain ⟨-, es, body, clean⟩ := ih .block rfl
    exact ⟨[], _, @Reads.block_some (opening :: ts) _ ss es body, rfl, clean⟩
  | noStatements =>
    intro scope done
    exact ⟨.of_endsAt done, [], .statements_done done, rfl⟩
  | moreStatements derived _ ih ih' =>
    intro scope done
    obtain ⟨follows, fs, statements, clean'⟩ := ih' scope done
    obtain ⟨mid₁, es, statement, rfl, clean⟩ := ih follows
    refine ⟨.inr (.inr derived.begins), _,
      .statements_more (Scope.endsAt_of_begins derived.begins) statement statements, ?_⟩
    simp [clean, clean']
  | let_ kind name_kind assign_kind _ ends ih =>
    intro follows
    have value := ih.readsTo_lowest (ends.stops follows)
    exact value.let_ kind name_kind assign_kind ends follows
  | return_ kind _ ends ih =>
    intro follows
    have value := ih.readsTo_lowest (ends.stops follows)
    exact value.return_ kind ends follows
  | expr derived ends ih =>
    intro follows
    have value := ih.readsTo_lowest (ends.stops follows)
    exact value.expr derived.begins ends follows

/-! ## The parser decides the grammar -/

/-- Tokens have a tree and no errors exactly when they are a program of that tree. -/
theorem parseTokens_eq_iff {ts : List Token} (eofless : Eofless ts) (p : Program) :
    (parseTokens ts).value = p ∧ (parseTokens ts).errors = [] ↔ DerivesProgram ts p := by
  constructor
  · rintro ⟨rfl, clean⟩
    obtain ⟨rest, events, run⟩ := exists_reads_parseTokens ts
    rw [run.errors_parseTokens] at clean
    have derived := run.sound clean eofless
    obtain rfl := (eofless.of_reads run).eq_nil (Scope.endsAt_program.mp (run.endsAt rfl))
    exact derived
  · intro derived
    obtain ⟨-, events, run, clean⟩ := derived.complete .program rfl
    rw [run.errors_parseTokens, run.parseTokens_eq]
    exact ⟨rfl, clean⟩

/-- The grammar is unambiguous. -/
theorem DerivesProgram.unique {ts : List Token} {p q : Program} (eofless : Eofless ts)
    (hp : DerivesProgram ts p) (hq : DerivesProgram ts q) : p = q := by
  have hp := (parseTokens_eq_iff eofless p).mpr hp
  have hq := (parseTokens_eq_iff eofless q).mpr hq
  exact hp.1.symm.trans hq.1

/-- Scanning gives no token for the end of the text. -/
theorem eofless_tokens (source : String) : Eofless (tokens source) := by
  intro t ht
  rw [tokens_eq_scan] at ht
  exact kind_ne_eof_of_mem_scan ht

/-- A source without errors is a program of its tree. -/
theorem derivesProgram_parse {source : String} (clean : (parse source).errors = []) :
    DerivesProgram (tokens source) (parse source).value :=
  (parseTokens_eq_iff (eofless_tokens source) _).mp ⟨rfl, clean⟩

/-- A source has a tree and no errors exactly when it is a program of that tree. -/
theorem parse_eq_iff_derivesProgram (source : String) (p : Program) :
    (parse source).value = p ∧ (parse source).errors = [] ↔ DerivesProgram (tokens source) p :=
  parseTokens_eq_iff (eofless_tokens source) p

end LetFn
