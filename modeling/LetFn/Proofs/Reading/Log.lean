import LetFn.Proofs.Reading.Basic

/-!
# Where the first error is

The steps of a reader tell at which token it is. `offending` is the place of the token that the
first error is about: the current token where an expression or an integer could not be read, and
the token after it where another one was expected. Places are counted from the first token that was
left before the steps, and places past the last token are the end of the text.

That the steps are in step with the tokens is `Reads.logged`; so the first error names the
offending token (`Logged.blames_offending`).
-/

namespace LetFn

/-! ## The offending token -/

/-- How far after the current token the error is. -/
def ParseError.ahead : ParseError → Nat
  | unexpected _ _ => 1
  | noExpression _ | badInteger _ => 0

/-- The place of the offending token of the first error, counted from the current token. -/
def offending : List Event → Option Nat
  | [] => none
  | e :: es =>
    match e.error? with
    | some error => some error.ahead
    | none => (offending es).map (e.width + ·)

@[simp] theorem offending_nil : offending [] = none := rfl

@[simp] theorem offending_move (ts : List Token) (es : List Event) :
    offending (.move ts :: es) = (offending es).map (1 + ·) := rfl

@[simp] theorem offending_fail (ts : List Token) (error : ParseError) (es : List Event) :
    offending (.fail ts error :: es) = some error.ahead := rfl

@[simp] theorem offending_missing (ts : List Token) (k : Kind) (es : List Event) :
    offending (.missing ts k :: es) = some 1 := rfl

@[simp] theorem offending_statement (t : Token) (es : List Event) :
    offending (.statement t :: es) = offending es := by
  simp [offending]

/-- The first error of two runs is in the first of them, or else in the second. -/
theorem offending_append (es fs : List Event) :
    offending (es ++ fs) = (offending es).or ((offending fs).map (movesOf es + ·)) := by
  induction es with
  | nil => simp
  | cons e es ih =>
    rw [List.cons_append, offending, offending, ih]
    cases e.error? with
    | some error => rfl
    | none =>
      cases offending es with
      | some i => rfl
      | none => cases offending fs <;> simp [Nat.add_assoc]

theorem offending_eq_none {events : List Event} :
    offending events = none ↔ errorsOf events = [] := by
  induction events with
  | nil => simp
  | cons e es ih =>
    rw [offending, errorsOf, List.filterMap_cons]
    cases e.error? with
    | some error => simp
    | none => rwa [Option.map_eq_none_iff]

@[simp] theorem offending_semicolonMoves (ts : List Token) : offending (semicolonMoves ts) = none :=
  offending_eq_none.mpr (errorsOf_semicolonMoves ts)

theorem offending_move_eq_some {ts : List Token} {es : List Event} {j : Nat} :
    offending (.move ts :: es) = some j ↔ ∃ i, offending es = some i ∧ 1 + i = j := by
  simp

theorem offending_append_eq_some {es fs : List Event} {j : Nat} :
    offending (es ++ fs) = some j ↔ offending es = some j ∨
      errorsOf es = [] ∧ ∃ i, offending fs = some i ∧ movesOf es + i = j := by
  rw [offending_append, ← offending_eq_none]
  cases offending es <;> simp

/-! ## Steps and tokens -/

/-- What the error says of a token is true of this one. -/
def ParseError.Blames (t : Token) : ParseError → Prop
  | unexpected _ found | noExpression found => found = t.kind
  | badInteger literal => literal = t.literal

/-- The step is one of a reader with these tokens left. -/
def Event.At (ts : List Token) : Event → Prop
  | .moved current peek => current = first ts.tail ∧ peek = first ts.tail.tail
  | .statement current => current = first ts
  | .failed current error => current = first ts ∧ error.Blames (first (ts.drop error.ahead))

/-- The steps lead a reader from the first tokens to the second. -/
def Logged : List Token → List Event → List Token → Prop
  | ts, [], rest => ts = rest
  | ts, e :: es, rest => e.At ts ∧ Logged (ts.drop e.width) es rest

namespace Logged

variable {ts mid rest : List Token} {es fs : List Event}

theorem nil : Logged ts [] ts := rfl

theorem move (h : Logged ts.tail es rest) : Logged ts (.move ts :: es) rest := by
  refine ⟨⟨rfl, rfl⟩, ?_⟩
  rwa [Event.width_move, List.drop_one]

theorem statement (h : Logged ts es rest) : Logged ts (.statement (first ts) :: es) rest := ⟨rfl, h⟩

theorem missing {k : Kind} : Logged ts [.missing ts k] ts := by
  refine ⟨⟨rfl, ?_⟩, rfl⟩
  simp [ParseError.Blames, ParseError.ahead]

theorem append (h : Logged ts es mid) (h' : Logged mid fs rest) : Logged ts (es ++ fs) rest := by
  induction es generalizing ts with
  | nil =>
    obtain rfl : ts = mid := h
    exact h'
  | cons e es ih => exact ⟨h.1, ih h.2⟩

theorem afterSemicolon : Logged ts (semicolonMoves ts) (afterSemicolon ts) := by
  unfold semicolonMoves LetFn.afterSemicolon
  split
  · exact nil.move
  · exact nil

/-- The first error names the offending token. -/
theorem blames_offending {j : Nat} (h : Logged ts es rest) (first_error : offending es = some j) :
    ∃ error more, errorsOf es = error :: more ∧ error.Blames (first (ts.drop j)) := by
  induction es generalizing ts j with
  | nil => cases first_error
  | cons e es ih =>
    obtain ⟨he, hes⟩ := h
    rw [offending] at first_error
    cases e with
    | failed current error =>
      obtain rfl := Option.some.inj first_error
      exact ⟨error, errorsOf es, rfl, he.2⟩
    | moved | statement =>
      obtain ⟨i, hi, rfl⟩ := Option.map_eq_some_iff.mp first_error
      obtain ⟨error, more, hmore, blames⟩ := ih hes hi
      rw [List.drop_drop] at blames
      exact ⟨error, more, hmore, blames⟩

end Logged

/-- The steps of a reader are in step with the tokens. -/
theorem Reads.logged {task : Task} {ts rest : List Token} {v : task.Result} {events : List Event}
    (h : Reads task ts v rest events) : Logged ts events rest := by
  induction h with
  | expression_none | operand_badInteger => exact ⟨⟨rfl, rfl⟩, rfl⟩
  | operand_name | operand_integer | operand_boolean | climb_stop | statements_done => exact .nil
  | conditional_noCondition | function_noParameters | names_noName => exact .missing
  | operand_unary _ ih | function_badParameters _ _ ih | continued_binary _ ih
  | block_some _ ih => exact ih.move
  | parameters_some _ _ ih | arguments_last _ _ ih => exact ih
  | parameters_none | continued_emptyCall => exact Logged.nil.move
  | names_more _ _ _ ih => exact ih.move.move
  | names_last => exact Logged.nil.move.move
  | names_open => exact Logged.missing.move
  | expression_some _ _ _ ih ih' => exact ih.append ih'
  | operand_group _ _ ih | continued_call _ _ _ ih => exact ih.move.append Logged.nil.move
  | operand_openGroup _ _ ih | function_noBody _ _ _ ih | continued_openCall _ _ _ ih =>
    exact ih.move.append .missing
  | conditional_openCondition _ _ _ ih => exact ih.move.move.append .missing
  | conditional_noConsequence _ _ _ _ ih => exact ih.move.move.append Logged.missing.move
  | conditional_ifThen _ _ _ _ _ _ ih ih' => exact ih.move.move.append ih'.move.move
  | conditional_noAlternative _ _ _ _ _ _ _ ih ih' =>
    exact (ih.move.move.append ih'.move.move).append Logged.missing.move
  | conditional_ifThenElse _ _ _ _ _ _ _ _ ih ih' ih'' =>
    exact (ih.move.move.append ih'.move.move).append ih''.move.move
  | function_some _ _ _ _ ih ih' => exact ih.move.append ih'.move
  | climb_go _ _ _ _ ih ih' => exact ih.move.append ih'
  | arguments_more _ _ _ ih ih' => exact ih.append ih'.move.move
  | statements_more _ _ _ ih ih' => exact ih.append ih'.move
  | statement_noName => exact Logged.missing.statement
  | statement_noAssign => exact Logged.missing.move.statement
  | statement_let _ _ _ _ ih => exact ih.move.move.move.statement.append .afterSemicolon
  | statement_return _ _ ih => exact ih.move.statement.append .afterSemicolon
  | statement_expr _ _ _ ih => exact ih.statement.append .afterSemicolon

end LetFn
