import LetFn.Parsing.Descent

/-!
# What a descent reads

`Reads task ts v rest events` says that a reader with the tokens `ts` left, given the `task`, reads
the value `v`, has the tokens `rest` left afterwards and takes the steps `events` on its way. The
rules follow the functions of `Descent`, one for each path through them, and mention neither the
budget nor what the reader met before.

As for a reader, the first of the tokens left is the current one, and `rest` begins with the last
token of what was read. `first` is the current token, `Token.eof` past the end.

* `Reads.rest_eq_drop`: what is left is what was there without one token for each move.
* `Reads.length_le`: nothing is put back.
-/

namespace LetFn

/-- The first of the tokens, the end of the text when there is none. -/
def first (ts : List Token) : Token := ts.headD Token.eof

@[simp] theorem first_nil : first [] = Token.eof := rfl

@[simp] theorem first_cons (t : Token) (ts : List Token) : first (t :: ts) = t := rfl

/-- The token of the given number, the end of the text past the last one. -/
theorem first_drop (ts : List Token) (n : Nat) : first (ts.drop n) = ts.getD n Token.eof := by
  simp [first, List.headD_eq_head?_getD, List.getD_eq_getElem?_getD]

/-- Tokens that do not begin with the end of the text begin with a token. -/
theorem eq_first_cons {ts : List Token} (h : (first ts).kind ≠ .eof) :
    ts = first ts :: ts.tail := by
  cases ts with
  | nil => exact absurd rfl h
  | cons t ts => rfl

theorem first_append {ts : List Token} (h : (first ts).kind ≠ .eof) (more : List Token) :
    first (ts ++ more) = first ts := by
  cases ts with
  | nil => exact absurd rfl h
  | cons t ts => rfl

theorem length_tail_of_first {ts : List Token} (h : (first ts).kind ≠ .eof) :
    ts.tail.length + 1 = ts.length := by
  cases ts with
  | nil => exact absurd rfl h
  | cons t ts => rfl

/-- What can begin an expression is none of the kinds that cannot. -/
theorem Kind.ne_of_start {k k' : Kind} (start : k.start?.isSome) (h : k'.start? = none) :
    k ≠ k' := by
  rintro rfl
  rw [h] at start
  cases start

/-- What can continue an expression is none of the kinds that cannot. -/
theorem Kind.ne_of_continuation {k k' : Kind} {next : Continuation}
    (continued : k.continuation? = some next) (h : k'.continuation? = none) : k ≠ k' := by
  rintro rfl
  rw [h] at continued
  cases continued

theorem Scope.endsAt_program {k : Kind} : program.endsAt k = true ↔ k = .eof := by
  cases k <;> simp [endsAt]

theorem Scope.endsAt_block {k : Kind} : block.endsAt k = true ↔ k = .rbrace ∨ k = .eof := by
  cases k <;> simp [endsAt]

/-- A scope ends at a closing brace or at the end of the text only. -/
theorem Scope.endsAt_of_eq {scope : Scope} {k k' : Kind} (h : k = k')
    (other : k' ≠ .rbrace ∧ k' ≠ .eof := by decide) : scope.endsAt k = false := by
  subst h
  rw [Bool.eq_false_iff]
  intro ends
  cases scope with
  | program => exact other.2 (endsAt_program.mp ends)
  | block => exact (endsAt_block.mp ends).elim other.1 other.2

/-! ## Steps -/

namespace Event

/-- The step of moving on from the first of the tokens. -/
def move (ts : List Token) : Event := .moved (first ts.tail) (first ts.tail.tail)

/-- The error met at the first of the tokens. -/
def fail (ts : List Token) (error : ParseError) : Event := .failed (first ts) error

/-- The error that the second of the tokens is not of the kind. -/
def missing (ts : List Token) (kind : Kind) : Event :=
  fail ts (.unexpected kind (first ts.tail).kind)

/-- The error that a step reports. -/
def error? : Event → Option ParseError
  | .failed _ error => some error
  | _ => none

/-- The number of tokens that a step moves over. -/
def width : Event → Nat
  | .moved _ _ => 1
  | _ => 0

@[simp] theorem error?_move (ts : List Token) : (move ts).error? = none := rfl

@[simp] theorem error?_fail (ts : List Token) (e : ParseError) : (fail ts e).error? = some e := rfl

@[simp] theorem error?_missing (ts : List Token) (k : Kind) :
    (missing ts k).error? = some (.unexpected k (first ts.tail).kind) := rfl

@[simp] theorem error?_statement (t : Token) : (Event.statement t).error? = none := rfl

@[simp] theorem width_move (ts : List Token) : (move ts).width = 1 := rfl

@[simp] theorem width_fail (ts : List Token) (e : ParseError) : (fail ts e).width = 0 := rfl

@[simp] theorem width_missing (ts : List Token) (k : Kind) : (missing ts k).width = 0 := rfl

@[simp] theorem width_statement (t : Token) : (Event.statement t).width = 0 := rfl

end Event

/-- The errors that steps report. -/
def errorsOf (events : List Event) : List ParseError := events.filterMap Event.error?

/-- The number of tokens that steps move over. -/
def movesOf (events : List Event) : Nat := events.foldr (fun e n => e.width + n) 0

@[simp] theorem errorsOf_nil : errorsOf [] = [] := rfl

@[simp] theorem errorsOf_append (es fs : List Event) :
    errorsOf (es ++ fs) = errorsOf es ++ errorsOf fs := List.filterMap_append

@[simp] theorem errorsOf_move (ts : List Token) (es : List Event) :
    errorsOf (.move ts :: es) = errorsOf es := rfl

@[simp] theorem errorsOf_fail (ts : List Token) (e : ParseError) (es : List Event) :
    errorsOf (.fail ts e :: es) = e :: errorsOf es := rfl

@[simp] theorem errorsOf_missing (ts : List Token) (k : Kind) (es : List Event) :
    errorsOf (.missing ts k :: es) = .unexpected k (first ts.tail).kind :: errorsOf es := rfl

@[simp] theorem errorsOf_statement (t : Token) (es : List Event) :
    errorsOf (.statement t :: es) = errorsOf es := rfl

@[simp] theorem movesOf_nil : movesOf [] = 0 := rfl

@[simp] theorem movesOf_cons (e : Event) (es : List Event) :
    movesOf (e :: es) = e.width + movesOf es := rfl

@[simp] theorem movesOf_append (es fs : List Event) :
    movesOf (es ++ fs) = movesOf es + movesOf fs := by
  induction es with
  | nil => exact (Nat.zero_add _).symm
  | cons e es ih => rw [List.cons_append, movesOf_cons, movesOf_cons, ih, Nat.add_assoc]

theorem movesOf_reverse (es : List Event) : movesOf es.reverse = movesOf es := by
  induction es with
  | nil => rfl
  | cons e es ih =>
    rw [List.reverse_cons, movesOf_append, ih, movesOf_cons, movesOf_cons, movesOf_nil]
    omega

/-! ## Tasks -/

/-- What a descent can be asked to read. -/
inductive Task where
  /-- An expression with the operators that bind more strongly than the floor. -/
  | expression (floor : Precedence)
  | operand (start : Start)
  /-- The rest of an expression that begins with `left`. -/
  | climb (floor : Precedence) (left : Expr)
  /-- One operator or call after `left`. -/
  | continued (next : Continuation) (left : Expr)
  | arguments
  /-- The names up to a closing parenthesis, at the token before the first of them. -/
  | names
  | parameters
  | block
  | statements (scope : Scope)
  | statement

/-- The type of what is read. -/
abbrev Task.Result : Task → Type
  | expression _ | operand _ | climb _ _ | continued _ _ => Expr
  | arguments => List Expr
  | names | parameters => Option (List Ident)
  | block => Block
  | statements _ => List Stmt
  | statement => Option Stmt

/-- The tokens after an optional semicolon. -/
def afterSemicolon (ts : List Token) : List Token :=
  if (first ts.tail).kind = .semicolon then ts.tail else ts

/-- The step over an optional semicolon. -/
def semicolonMoves (ts : List Token) : List Event :=
  if (first ts.tail).kind = .semicolon then [.move ts] else []

@[simp] theorem errorsOf_semicolonMoves (ts : List Token) : errorsOf (semicolonMoves ts) = [] := by
  unfold semicolonMoves
  split <;> rfl

theorem errorsOf_then_semicolon (es : List Event) (ts : List Token) :
    errorsOf (es ++ semicolonMoves ts) = errorsOf es := by
  rw [errorsOf_append, errorsOf_semicolonMoves, List.append_nil]

theorem afterSemicolon_eq_drop (ts : List Token) :
    afterSemicolon ts = ts.drop (movesOf (semicolonMoves ts)) := by
  unfold afterSemicolon semicolonMoves
  split <;> simp

/-- The task given to a reader with these tokens left has this result, these tokens left after it
and these steps. -/
inductive Reads : (task : Task) → List Token → task.Result → List Token → List Event → Prop
  | expression_none {floor : Precedence} {ts : List Token}
      (start : (first ts).kind.start? = none) :
      Reads (.expression floor) ts Expr.hole ts [.fail ts (.noExpression (first ts).kind)]
  | expression_some {floor : Precedence} {ts : List Token} {start : Start} {left v : Expr}
      {mid rest : List Token} {es fs : List Event}
      (start_eq : (first ts).kind.start? = some start)
      (operand : Reads (.operand start) ts left mid es)
      (climb : Reads (.climb floor left) mid v rest fs) :
      Reads (.expression floor) ts v rest (es ++ fs)
  | operand_name {ts : List Token} :
      Reads (.operand .name) ts (Expr.ident ⟨first ts, (first ts).literal⟩) ts []
  | operand_integer {ts : List Token} {value : Int}
      (value_eq : Numeral.value? (first ts).literal = some value) :
      Reads (.operand .integer) ts (Expr.int (first ts) value) ts []
  | operand_badInteger {ts : List Token} (value_eq : Numeral.value? (first ts).literal = none) :
      Reads (.operand .integer) ts Expr.hole ts [.fail ts (.badInteger (first ts).literal)]
  | operand_boolean {ts : List Token} :
      Reads (.operand .boolean) ts (Expr.bool (first ts) ((first ts).kind = .true_)) ts []
  | operand_unary {op : UnaryOp} {ts rest : List Token} {e : Expr} {es : List Event}
      (right : Reads (.expression .unary) ts.tail e rest es) :
      Reads (.operand (.unary op)) ts (Expr.unary (first ts) op e) rest (.move ts :: es)
  | operand_group {ts rest : List Token} {e : Expr} {es : List Event}
      (inner : Reads (.expression .lowest) ts.tail e rest es)
      (close : (first rest.tail).kind = .rparen) :
      Reads (.operand .group) ts e rest.tail (.move ts :: es ++ [.move rest])
  | operand_openGroup {ts rest : List Token} {e : Expr} {es : List Event}
      (inner : Reads (.expression .lowest) ts.tail e rest es)
      (close : (first rest.tail).kind ≠ .rparen) :
      Reads (.operand .group) ts Expr.hole rest (.move ts :: es ++ [.missing rest .rparen])
  | conditional_noCondition {ts : List Token} (opening : (first ts.tail).kind ≠ .lparen) :
      Reads (.operand .conditional) ts Expr.hole ts [.missing ts .lparen]
  | conditional_openCondition {ts rest : List Token} {e : Expr} {es : List Event}
      (opening : (first ts.tail).kind = .lparen)
      (condition : Reads (.expression .lowest) ts.tail.tail e rest es)
      (close : (first rest.tail).kind ≠ .rparen) :
      Reads (.operand .conditional) ts Expr.hole rest
        (.move ts :: .move ts.tail :: es ++ [.missing rest .rparen])
  | conditional_noConsequence {ts rest : List Token} {e : Expr} {es : List Event}
      (opening : (first ts.tail).kind = .lparen)
      (condition : Reads (.expression .lowest) ts.tail.tail e rest es)
      (close : (first rest.tail).kind = .rparen)
      (brace : (first rest.tail.tail).kind ≠ .lbrace) :
      Reads (.operand .conditional) ts Expr.hole rest.tail
        (.move ts :: .move ts.tail :: es ++ [.move rest, .missing rest.tail .lbrace])
  | conditional_ifThen {ts mid rest : List Token} {e : Expr} {b : Block} {es fs : List Event}
      (opening : (first ts.tail).kind = .lparen)
      (condition : Reads (.expression .lowest) ts.tail.tail e mid es)
      (close : (first mid.tail).kind = .rparen)
      (brace : (first mid.tail.tail).kind = .lbrace)
      (consequence : Reads .block mid.tail.tail b rest fs)
      (noElse : (first rest.tail).kind ≠ .else_) :
      Reads (.operand .conditional) ts (Expr.ifThen (first ts) e b) rest
        (.move ts :: .move ts.tail :: es ++ .move mid :: .move mid.tail :: fs)
  | conditional_noAlternative {ts mid rest : List Token} {e : Expr} {b : Block}
      {es fs : List Event}
      (opening : (first ts.tail).kind = .lparen)
      (condition : Reads (.expression .lowest) ts.tail.tail e mid es)
      (close : (first mid.tail).kind = .rparen)
      (brace : (first mid.tail.tail).kind = .lbrace)
      (consequence : Reads .block mid.tail.tail b rest fs)
      (otherwise : (first rest.tail).kind = .else_)
      (brace' : (first rest.tail.tail).kind ≠ .lbrace) :
      Reads (.operand .conditional) ts Expr.hole rest.tail
        (.move ts :: .move ts.tail :: es ++ .move mid :: .move mid.tail :: fs ++
          [.move rest, .missing rest.tail .lbrace])
  | conditional_ifThenElse {ts mid mid' rest : List Token} {e : Expr} {b a : Block}
      {es fs gs : List Event}
      (opening : (first ts.tail).kind = .lparen)
      (condition : Reads (.expression .lowest) ts.tail.tail e mid es)
      (close : (first mid.tail).kind = .rparen)
      (brace : (first mid.tail.tail).kind = .lbrace)
      (consequence : Reads .block mid.tail.tail b mid' fs)
      (otherwise : (first mid'.tail).kind = .else_)
      (brace' : (first mid'.tail.tail).kind = .lbrace)
      (alternative : Reads .block mid'.tail.tail a rest gs) :
      Reads (.operand .conditional) ts (Expr.ifThenElse (first ts) e b a) rest
        (.move ts :: .move ts.tail :: es ++ .move mid :: .move mid.tail :: fs ++
          .move mid' :: .move mid'.tail :: gs)
  | function_noParameters {ts : List Token} (opening : (first ts.tail).kind ≠ .lparen) :
      Reads (.operand .function) ts Expr.hole ts [.missing ts .lparen]
  | function_badParameters {ts rest : List Token} {es : List Event}
      (opening : (first ts.tail).kind = .lparen)
      (parameters : Reads .parameters ts.tail none rest es) :
      Reads (.operand .function) ts Expr.hole rest (.move ts :: es)
  | function_noBody {ts rest : List Token} {names : List Ident} {es : List Event}
      (opening : (first ts.tail).kind = .lparen)
      (parameters : Reads .parameters ts.tail (some names) rest es)
      (brace : (first rest.tail).kind ≠ .lbrace) :
      Reads (.operand .function) ts Expr.hole rest (.move ts :: es ++ [.missing rest .lbrace])
  | function_some {ts mid rest : List Token} {names : List Ident} {b : Block}
      {es fs : List Event}
      (opening : (first ts.tail).kind = .lparen)
      (parameters : Reads .parameters ts.tail (some names) mid es)
      (brace : (first mid.tail).kind = .lbrace)
      (body : Reads .block mid.tail b rest fs) :
      Reads (.operand .function) ts (Expr.function (first ts) names b) rest
        (.move ts :: es ++ .move mid :: fs)
  | names_noName {ts : List Token} (name : (first ts.tail).kind ≠ .ident) :
      Reads .names ts none ts [.missing ts .ident]
  | names_more {ts rest : List Token} {more : Option (List Ident)} {es : List Event}
      (name : (first ts.tail).kind = .ident) (comma : (first ts.tail.tail).kind = .comma)
      (names : Reads .names ts.tail.tail more rest es) :
      Reads .names ts (more.map (⟨first ts.tail, (first ts.tail).literal⟩ :: ·)) rest
        (.move ts :: .move ts.tail :: es)
  | names_last {ts : List Token} (name : (first ts.tail).kind = .ident)
      (close : (first ts.tail.tail).kind = .rparen) :
      Reads .names ts (some [⟨first ts.tail, (first ts.tail).literal⟩]) ts.tail.tail
        [.move ts, .move ts.tail]
  | names_open {ts : List Token} (name : (first ts.tail).kind = .ident)
      (comma : (first ts.tail.tail).kind ≠ .comma) (close : (first ts.tail.tail).kind ≠ .rparen) :
      Reads .names ts none ts.tail [.move ts, .missing ts.tail .rparen]
  | parameters_none {ts : List Token} (close : (first ts.tail).kind = .rparen) :
      Reads .parameters ts (some []) ts.tail [.move ts]
  | parameters_some {ts rest : List Token} {names : Option (List Ident)} {es : List Event}
      (close : (first ts.tail).kind ≠ .rparen) (names_read : Reads .names ts names rest es) :
      Reads .parameters ts names rest es
  | climb_stop {floor : Precedence} {left : Expr} {ts : List Token}
      (stop : (first ts.tail).kind.precedence.rank ≤ floor.rank) :
      Reads (.climb floor left) ts left ts []
  | climb_go {floor : Precedence} {next : Continuation} {left longer v : Expr}
      {ts mid rest : List Token} {es fs : List Event}
      (next_eq : (first ts.tail).kind.continuation? = some next)
      (tight : floor.rank < next.precedence.rank)
      (continued : Reads (.continued next left) ts.tail longer mid es)
      (climb : Reads (.climb floor longer) mid v rest fs) :
      Reads (.climb floor left) ts v rest (.move ts :: es ++ fs)
  | continued_binary {op : BinaryOp} {left e : Expr} {ts rest : List Token} {es : List Event}
      (right : Reads (.expression op.precedence) ts.tail e rest es) :
      Reads (.continued (.binary op) left) ts (Expr.binary (first ts) op left e) rest
        (.move ts :: es)
  | continued_emptyCall {left : Expr} {ts : List Token} (close : (first ts.tail).kind = .rparen) :
      Reads (.continued .call left) ts (Expr.call (first ts) left []) ts.tail [.move ts]
  | continued_call {left : Expr} {args : List Expr} {ts rest : List Token} {es : List Event}
      (nonempty : (first ts.tail).kind ≠ .rparen)
      (arguments : Reads .arguments ts.tail args rest es)
      (close : (first rest.tail).kind = .rparen) :
      Reads (.continued .call left) ts (Expr.call (first ts) left args) rest.tail
        (.move ts :: es ++ [.move rest])
  | continued_openCall {left : Expr} {args : List Expr} {ts rest : List Token} {es : List Event}
      (nonempty : (first ts.tail).kind ≠ .rparen)
      (arguments : Reads .arguments ts.tail args rest es)
      (close : (first rest.tail).kind ≠ .rparen) :
      Reads (.continued .call left) ts Expr.hole rest
        (.move ts :: es ++ [.missing rest .rparen])
  | arguments_last {e : Expr} {ts rest : List Token} {es : List Event}
      (argument : Reads (.expression .lowest) ts e rest es)
      (comma : (first rest.tail).kind ≠ .comma) :
      Reads .arguments ts [e] rest es
  | arguments_more {e : Expr} {args : List Expr} {ts mid rest : List Token} {es fs : List Event}
      (argument : Reads (.expression .lowest) ts e mid es)
      (comma : (first mid.tail).kind = .comma)
      (arguments : Reads .arguments mid.tail.tail args rest fs) :
      Reads .arguments ts (e :: args) rest (es ++ .move mid :: .move mid.tail :: fs)
  | block_some {ts rest : List Token} {ss : List Stmt} {es : List Event}
      (body : Reads (.statements .block) ts.tail ss rest es) :
      Reads .block ts ⟨first ts, ss⟩ rest (.move ts :: es)
  | statements_done {scope : Scope} {ts : List Token}
      (done : scope.endsAt (first ts).kind = true) :
      Reads (.statements scope) ts [] ts []
  | statements_more {scope : Scope} {one : Option Stmt} {ss : List Stmt}
      {ts mid rest : List Token} {es fs : List Event}
      (more : scope.endsAt (first ts).kind = false)
      (statement : Reads .statement ts one mid es)
      (statements : Reads (.statements scope) mid.tail ss rest fs) :
      Reads (.statements scope) ts (one.toList ++ ss) rest (es ++ .move mid :: fs)
  | statement_noName {ts : List Token} (kind : (first ts).kind = .let_)
      (name : (first ts.tail).kind ≠ .ident) :
      Reads .statement ts none ts [.statement (first ts), .missing ts .ident]
  | statement_noAssign {ts : List Token} (kind : (first ts).kind = .let_)
      (name : (first ts.tail).kind = .ident) (assign : (first ts.tail.tail).kind ≠ .assign) :
      Reads .statement ts none ts.tail
        [.statement (first ts), .move ts, .missing ts.tail .assign]
  | statement_let {ts rest : List Token} {e : Expr} {es : List Event}
      (kind : (first ts).kind = .let_) (name : (first ts.tail).kind = .ident)
      (assign : (first ts.tail.tail).kind = .assign)
      (value : Reads (.expression .lowest) ts.tail.tail.tail e rest es) :
      Reads .statement ts
        (some (.let_ (first ts) ⟨first ts.tail, (first ts.tail).literal⟩ e)) (afterSemicolon rest)
        (.statement (first ts) :: .move ts :: .move ts.tail :: .move ts.tail.tail :: es ++
          semicolonMoves rest)
  | statement_return {ts rest : List Token} {e : Expr} {es : List Event}
      (kind : (first ts).kind = .return_)
      (value : Reads (.expression .lowest) ts.tail e rest es) :
      Reads .statement ts (some (.return_ (first ts) e)) (afterSemicolon rest)
        (.statement (first ts) :: .move ts :: es ++ semicolonMoves rest)
  | statement_expr {ts rest : List Token} {e : Expr} {es : List Event}
      (kind : (first ts).kind ≠ .let_) (kind' : (first ts).kind ≠ .return_)
      (value : Reads (.expression .lowest) ts e rest es) :
      Reads .statement ts (some (.expr (first ts) e)) (afterSemicolon rest)
        (.statement (first ts) :: es ++ semicolonMoves rest)

namespace Reads

variable {task : Task} {ts rest : List Token} {v : task.Result} {events : List Event}

/-- Each move takes one token away, and nothing else does. -/
theorem rest_eq_drop (h : Reads task ts v rest events) : rest = ts.drop (movesOf events) := by
  induction h <;>
    simp_all [afterSemicolon_eq_drop, -List.drop_one, ← List.drop_one, List.drop_drop] <;>
    congr 1 <;> omega

/-- Nothing is put back. -/
theorem length_le (h : Reads task ts v rest events) : rest.length ≤ ts.length := by
  rw [h.rest_eq_drop, List.length_drop]
  omega

/-- Statements are read up to the end of their scope. -/
theorem endsAt (h : Reads task ts v rest events) {scope : Scope} (ht : task = .statements scope) :
    scope.endsAt (first rest).kind = true := by
  induction h with
  | statements_done done =>
    cases ht
    exact done
  | statements_more _ _ _ _ ih => exact ih ht
  | _ => cases ht

/-- Climbing goes on until the next token binds no more strongly than the floor. -/
theorem climb_stops (h : Reads task ts v rest events) {floor : Precedence} {left : Expr}
    (ht : task = .climb floor left) : (first rest.tail).kind.precedence.rank ≤ floor.rank := by
  induction h generalizing left with
  | climb_stop stop =>
    cases ht
    exact stop
  | climb_go _ _ _ _ _ ih =>
    cases ht
    exact ih rfl
  | _ => cases ht

/-- So does an expression that was read without an error. -/
theorem expression_stops {floor : Precedence} {e : Expr}
    (h : Reads (.expression floor) ts e rest events) (clean : errorsOf events = []) :
    (first rest.tail).kind.precedence.rank ≤ floor.rank := by
  cases h with
  | expression_none => cases clean
  | expression_some _ _ climb => exact climb.climb_stops rfl

/-- After arguments that were read without an error neither an operator nor a comma follows. -/
theorem arguments_stop (h : Reads task ts v rest events) (ht : task = .arguments)
    (clean : errorsOf events = []) :
    (first rest.tail).kind.precedence.rank ≤ Precedence.lowest.rank ∧
      (first rest.tail).kind ≠ .comma := by
  induction h with
  | arguments_last argument comma => exact ⟨argument.expression_stops clean, comma⟩
  | arguments_more _ _ _ _ ih =>
    rw [errorsOf_append, List.append_eq_nil_iff] at clean
    exact ih rfl clean.2
  | _ => cases ht

end Reads

end LetFn
