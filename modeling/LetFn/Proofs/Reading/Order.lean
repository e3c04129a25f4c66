import LetFn.Proofs.Grammar.Sound
import LetFn.Proofs.Reading.Log

/-!
# Every token is begun once

A reader that has come to a token begins at most one statement at it, and after that at most one
expression. Then the token is read, and nothing begins at it any more. `Stage` says how far that has
come, and `InOrder stage events` that the steps keep to it. They do in every reading
(`Reads.inOrder`); so statements begin at different tokens, and errors name tokens in their order.

What the steps tell is warranted: a statement begins at a token, and an error is one
(`Reads.warranted`).
-/

namespace LetFn

/-! ## Stages -/

/-- What can begin at the current token. -/
inductive Stage where
  /-- A statement or an expression. -/
  | fresh
  /-- An expression only. -/
  | entered
  /-- Nothing, since the token is read. -/
  | read
  deriving DecidableEq, Repr

/-- The steps begin nothing at the current token that cannot begin there, and nothing twice at any
other. -/
def InOrder : Stage → List Event → Prop
  | _, [] => True
  | _, .moved _ _ :: es => InOrder .fresh es
  | stage, .statement _ :: es => stage = .fresh ∧ InOrder .entered es
  | stage, .failed _ error :: es => (error.ahead = 0 → stage ≠ .read) ∧ InOrder .read es

namespace InOrder

variable {stage : Stage} {ts : List Token} {es fs : List Event}

theorem nil : InOrder stage [] := trivial

/-- What is in order at a token that is read is in order at any. -/
theorem of_read (h : InOrder .read es) : InOrder stage es := by
  cases es with
  | nil => exact nil
  | cons e es =>
    cases e with
    | moved => exact h
    | statement => cases h.1
    | failed => exact ⟨fun ahead => absurd rfl (h.1 ahead), h.2⟩

/-- What is in order at any token is in order at a fresh one. -/
theorem fresh (h : InOrder stage es) : InOrder .fresh es := by
  cases es with
  | nil => exact nil
  | cons e es =>
    cases e with
    | moved => exact h
    | statement => exact ⟨rfl, h.2⟩
    | failed => exact ⟨fun _ => by decide, h.2⟩

theorem move (h : InOrder .fresh es) : InOrder stage (.move ts :: es) := h

theorem statement (h : InOrder .entered es) {t : Token} : InOrder .fresh (.statement t :: es) :=
  ⟨rfl, h⟩

theorem missing {k : Kind} : InOrder stage [.missing ts k] := by
  refine ⟨fun ahead => ?_, nil⟩
  cases ahead

/-- The error of a token at which an expression can begin. -/
theorem fail {error : ParseError} : InOrder .entered [.fail ts error] := ⟨fun _ => by decide, nil⟩

theorem append (h : InOrder stage es) (h' : InOrder .read fs) : InOrder stage (es ++ fs) := by
  induction es generalizing stage with
  | nil => exact h'.of_read
  | cons e es ih =>
    cases e with
    | moved => exact @ih .fresh h
    | statement => exact ⟨h.1, ih h.2⟩
    | failed => exact ⟨h.1, ih h.2⟩

theorem semicolon : InOrder stage (semicolonMoves ts) := by
  unfold semicolonMoves
  split
  · exact nil.move
  · exact nil

end InOrder

/-- What can begin at the token at which the task begins. -/
def Task.stage : Task → Stage
  | statements _ | statement => .fresh
  | expression _ | operand _ | arguments => .entered
  | climb _ _ | continued _ _ | names | parameters | block => .read

/-- The steps of a reading begin nothing twice. -/
theorem Reads.inOrder {task : Task} {ts rest : List Token} {v : task.Result} {events : List Event}
    (h : Reads task ts v rest events) : InOrder task.stage events := by
  induction h with
  | expression_none | operand_badInteger => exact .fail
  | operand_name | operand_integer | operand_boolean | climb_stop | statements_done => exact .nil
  | conditional_noCondition | function_noParameters | names_noName => exact .missing
  | operand_unary _ ih | function_badParameters _ _ ih | continued_binary _ ih
  | block_some _ ih => exact ih.fresh.move
  | parameters_some _ _ ih | arguments_last _ _ ih => exact ih
  | parameters_none | continued_emptyCall => exact InOrder.nil.move
  | names_more _ _ _ ih => exact ih.fresh.move.move
  | names_last => exact InOrder.nil.move.move
  | names_open => exact InOrder.missing.move
  | expression_some _ _ _ ih ih' => exact ih.append ih'
  | operand_group _ _ ih | continued_call _ _ _ ih =>
    exact ih.fresh.move.append InOrder.nil.move
  | operand_openGroup _ _ ih | function_noBody _ _ _ ih | continued_openCall _ _ _ ih =>
    exact ih.fresh.move.append .missing
  | conditional_openCondition _ _ _ ih => exact ih.fresh.move.move.append .missing
  | conditional_noConsequence _ _ _ _ ih =>
    exact ih.fresh.move.move.append InOrder.missing.move
  | conditional_ifThen _ _ _ _ _ _ ih ih' => exact ih.fresh.move.move.append ih'.fresh.move.move
  | conditional_noAlternative _ _ _ _ _ _ _ ih ih' =>
    exact (ih.fresh.move.move.append ih'.fresh.move.move).append InOrder.missing.move
  | conditional_ifThenElse _ _ _ _ _ _ _ _ ih ih' ih'' =>
    exact (ih.fresh.move.move.append ih'.fresh.move.move).append ih''.fresh.move.move
  | function_some _ _ _ _ ih ih' => exact ih.fresh.move.append ih'.fresh.move
  | climb_go _ _ _ _ ih ih' => exact ih.fresh.move.append ih'
  | arguments_more _ _ _ ih ih' => exact ih.append ih'.fresh.move.move
  | statements_more _ _ _ ih ih' => exact ih.append ih'.fresh.move
  | statement_noName => exact InOrder.missing.statement
  | statement_noAssign => exact InOrder.missing.move.statement
  | statement_let _ _ _ _ ih => exact ih.fresh.move.move.move.statement.append .semicolon
  | statement_return _ _ ih => exact ih.fresh.move.statement.append .semicolon
  | statement_expr _ _ _ ih => exact ih.statement.append .semicolon

/-! ## What the steps tell -/

/-- A statement begins at a token, and what is called an error is one: the token found is not the
one expected, or begins no expression, or is an integer without a value. -/
def Event.Warranted : Event → Prop
  | moved _ _ => True
  | statement current => current.kind ≠ .eof
  | failed _ (.unexpected expected found) => found ≠ expected
  | failed _ (.noExpression found) => found.start? = none
  | failed current (.badInteger literal) =>
    current.kind = .int ∧ Numeral.value? literal = none

/-- All the steps are warranted. -/
def Warranted (events : List Event) : Prop := ∀ e ∈ events, e.Warranted

namespace Warranted

variable {ts : List Token} {es fs : List Event}

theorem nil : Warranted [] := by simp [Warranted]

theorem cons {e : Event} (h : e.Warranted) (h' : Warranted es) : Warranted (e :: es) :=
  List.forall_mem_cons.mpr ⟨h, h'⟩

theorem move (h : Warranted es) : Warranted (.move ts :: es) := cons trivial h

theorem missing {k : Kind} (h : (first ts.tail).kind ≠ k) : Warranted [.missing ts k] := cons h nil

theorem statement {t : Token} (h : t.kind ≠ .eof) (h' : Warranted es) :
    Warranted (.statement t :: es) := cons h h'

theorem append (h : Warranted es) (h' : Warranted fs) : Warranted (es ++ fs) :=
  List.forall_mem_append.mpr ⟨h, h'⟩

theorem semicolon : Warranted (semicolonMoves ts) := by
  unfold semicolonMoves
  split
  · exact nil.move
  · exact nil

end Warranted

/-- The steps of a reading are warranted. -/
theorem Reads.warranted {task : Task} {ts rest : List Token} {v : task.Result}
    {events : List Event} (h : Reads task ts v rest events) :
    task.Due ts → Warranted events := by
  induction h with
  | expression_none start => exact fun _ => .cons start .nil
  | operand_badInteger value_eq =>
    exact fun due => .cons ⟨Kind.start?_eq_integer.mp due, value_eq⟩ .nil
  | operand_name | operand_integer | operand_boolean | climb_stop | statements_done =>
    exact fun _ => .nil
  | conditional_noCondition other | function_noParameters other | names_noName other =>
    exact fun _ => .missing other
  | parameters_none | continued_emptyCall => exact fun _ => Warranted.nil.move
  | names_last => exact fun _ => Warranted.nil.move.move
  | names_open _ _ other => exact fun _ => (Warranted.missing other).move
  | operand_unary _ ih | function_badParameters _ _ ih | continued_binary _ ih
  | block_some _ ih => exact fun _ => (ih trivial).move
  | names_more _ _ _ ih => exact fun _ => (ih trivial).move.move
  | parameters_some _ _ ih | arguments_last _ _ ih => exact ih
  | operand_group _ _ ih | continued_call _ _ _ ih =>
    exact fun _ => (ih trivial).move.append Warranted.nil.move
  | operand_openGroup _ other ih | function_noBody _ _ other ih
  | continued_openCall _ _ other ih =>
    exact fun _ => (ih trivial).move.append (.missing other)
  | conditional_openCondition _ _ other ih =>
    exact fun _ => (ih trivial).move.move.append (.missing other)
  | conditional_noConsequence _ _ _ other ih =>
    exact fun _ => (ih trivial).move.move.append (Warranted.missing other).move
  | conditional_ifThen _ _ _ brace _ _ ih ih' =>
    exact fun _ => (ih trivial).move.move.append (ih' brace).move.move
  | conditional_noAlternative _ _ _ brace _ _ other ih ih' =>
    exact fun _ => ((ih trivial).move.move.append (ih' brace).move.move).append
      (Warranted.missing other).move
  | conditional_ifThenElse _ _ _ brace _ _ brace' _ ih ih' ih'' =>
    exact fun _ => ((ih trivial).move.move.append (ih' brace).move.move).append
      (ih'' brace').move.move
  | function_some _ _ brace _ ih ih' =>
    exact fun _ => (ih trivial).move.append (ih' brace).move
  | expression_some start_eq _ _ ih ih' => exact fun _ => (ih start_eq).append (ih' trivial)
  | climb_go next_eq _ _ _ ih ih' => exact fun _ => (ih next_eq).move.append (ih' trivial)
  | arguments_more _ _ _ ih ih' =>
    exact fun _ => (ih trivial).append (ih' trivial).move.move
  | statements_more more _ _ ih ih' =>
    exact fun _ => (ih (ne_eof_of_endsAt more)).append (ih' trivial).move
  | statement_noName _ other => exact fun due => Warranted.statement due (.missing other)
  | statement_noAssign _ _ other =>
    exact fun due => Warranted.statement due (Warranted.missing other).move
  | statement_let _ _ _ _ ih =>
    exact fun due => (Warranted.statement due (ih trivial).move.move.move).append .semicolon
  | statement_return _ _ ih =>
    exact fun due => (Warranted.statement due (ih trivial).move).append .semicolon
  | statement_expr _ _ _ ih =>
    exact fun due => (Warranted.statement due (ih trivial)).append .semicolon

end LetFn
