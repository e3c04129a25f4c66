import LetFn.Proofs.Grammar.Complete
import LetFn.Proofs.Reading.Order
import LetFn.Proofs.Recovery.Faults

/-!
# Errors do not cascade

One failure can make a reader give up many constructs, but each of them reports one error at most,
and has a token of its own that pays for it: the one that opened it. A token that begins no
expression pays for the error that it is, and opens nothing. So there are no more errors than
tokens (`Reads.pays`), but for the error that an expression was due at the end of the text.
That one is met once (`Reads.endsOnce`), since nothing is read at the end of the text after it.

Errors name the tokens in their order (`Reads.inOrder`). The end of the text comes after all of
them, and so do the errors that name it (`Logged.pairwise_atEnd`).
-/

namespace LetFn

/-- The error names the end of the text. -/
def ParseError.atEnd : ParseError → Bool
  | unexpected _ .eof | noExpression .eof => true
  | _ => false

/-! ## Each token pays for one error -/

/-- The number of errors that steps report, without those that an expression was due at the end of
the text. -/
def chargesOf (events : List Event) : Nat :=
  (errorsOf events).countP fun error => decide (error ≠ .noExpression .eof)

theorem length_errorsOf (events : List Event) :
    (errorsOf events).length = chargesOf events + (errorsOf events).count (.noExpression .eof) := by
  rw [chargesOf, List.length_eq_countP_add_countP fun error => decide (error ≠ .noExpression .eof)]
  congr 1
  refine List.countP_congr fun error _ => ?_
  simp

@[simp] theorem chargesOf_nil : chargesOf [] = 0 := rfl

@[simp] theorem chargesOf_append (es fs : List Event) :
    chargesOf (es ++ fs) = chargesOf es + chargesOf fs := by
  simp [chargesOf]

@[simp] theorem chargesOf_missing (ts : List Token) (k : Kind) (es : List Event) :
    chargesOf (.missing ts k :: es) = chargesOf es + 1 := by
  simp [chargesOf]

@[simp] theorem chargesOf_semicolonMoves (ts : List Token) : chargesOf (semicolonMoves ts) = 0 := by
  simp [chargesOf]

/-- The tokens from `before` up to `after` pay for the errors that the steps report, but for `n`
errors that are paid already. -/
def Pays (n : Nat) (before : List Token) (events : List Event) (after : List Token) : Prop :=
  chargesOf events + after.length ≤ n + before.length

namespace Pays

variable {n : Nat} {ts us mid rest : List Token} {es fs : List Event} {k : Kind}

theorem nil : Pays n ts [] ts := by simp [Pays]

theorem move (h : Pays n ts es rest) : Pays n ts (.move us :: es) rest := h

theorem statement {t : Token} (h : Pays n ts es rest) : Pays n ts (.statement t :: es) rest := h

theorem missing : Pays 1 ts [.missing us k] ts := Nat.le_refl _

theorem badInteger {literal : String} : Pays 1 ts [.fail us (.badInteger literal)] ts := by
  simp [Pays, chargesOf]

/-- A token pays for the error that it begins no expression. -/
theorem noExpression : Pays 0 ts [.fail ts (.noExpression (first ts).kind)] ts.tail := by
  by_cases heof : (first ts).kind = .eof
  · simp [Pays, chargesOf, heof]
  · have here := length_tail_of_first heof
    simp only [Pays, chargesOf, errorsOf_fail, errorsOf_nil, List.countP_singleton]
    split <;> omega

theorem append (h : Pays n ts es mid) (h' : Pays 0 mid fs rest) : Pays n ts (es ++ fs) rest := by
  rw [Pays] at h h' ⊢
  rw [chargesOf_append]
  omega

theorem append_missing (h : Pays n ts es rest) : Pays (n + 1) ts (es ++ [.missing us k]) rest := by
  rw [Pays] at h ⊢
  simp only [chargesOf_append, chargesOf_missing, chargesOf_nil]
  omega

/-- What is paid already need not be used. -/
theorem spare (h : Pays n ts es rest) : Pays (n + 1) ts es rest := by
  rw [Pays] at h ⊢
  omega

/-- A token that is there pays for one error. -/
theorem token (here : (first ts).kind ≠ .eof) (h : Pays (n + 1) ts.tail es rest) :
    Pays n ts es rest := by
  have shorter := length_tail_of_first here
  rw [Pays] at h ⊢
  omega

/-- A token that pays for nothing. -/
theorem next (h : Pays n ts.tail es rest) : Pays n ts es rest := by
  rw [Pays, List.length_tail] at h
  rw [Pays]
  omega

theorem semicolon : Pays 0 ts.tail (semicolonMoves ts) (afterSemicolon ts).tail := by
  rw [Pays, chargesOf_semicolonMoves]
  unfold afterSemicolon
  split <;> simp

end Pays

/-- The errors of the task that a token before the unread ones pays for: the operator or the
parenthesis that the task stands at. -/
def Task.prepaid : Task → Nat
  | continued _ _ | names | parameters => 1
  | _ => 0

/-- The errors of a reading are paid for by the tokens that it looks at, except for those at the end
of the text. -/
theorem Reads.pays {task : Task} {ts rest : List Token} {v : task.Result} {events : List Event}
    (h : Reads task ts v rest events) : task.Due ts →
      Pays task.prepaid (task.unread ts) events rest.tail := by
  induction h with
  | expression_none => exact fun _ => .noExpression
  | expression_some start_eq _ _ ih ih' => exact fun _ => (ih start_eq).append (ih' trivial)
  | operand_name | operand_integer | operand_boolean | statements_done => exact fun _ => .next .nil
  | operand_badInteger => exact fun due => .token (Kind.ne_eof_of_start due) .badInteger
  | operand_unary _ ih => exact fun _ => .next (ih trivial).move
  | operand_group _ _ ih => exact fun _ => .next ((ih trivial).move.append (.next (.move .nil)))
  | operand_openGroup _ _ ih =>
    exact fun due => .token (Kind.ne_eof_of_start due) (ih trivial).move.append_missing
  | conditional_noCondition | function_noParameters =>
    exact fun due => .token (Kind.ne_eof_of_start due) .missing
  | conditional_openCondition _ _ _ ih =>
    intro due
    exact .token (Kind.ne_eof_of_start due) (.next (ih trivial).move.move.append_missing)
  | conditional_noConsequence _ _ close _ ih =>
    intro _
    refine .next (.next ((ih trivial).move.move.append ?_))
    exact .token (ne_eof_of_eq close rfl) (.move .missing)
  | conditional_ifThen _ _ _ brace _ _ ih ih' =>
    intro _
    refine .next (.next ((ih trivial).move.move.append ?_))
    exact .next (.move (.next (ih' brace).move))
  | @conditional_noAlternative _ mid mid' _ _ _ fs _ _ _ brace _ otherwise _ ih ih' =>
    intro _
    have consequence : Pays 0 mid.tail (.move mid :: .move mid.tail :: fs) mid'.tail :=
      .next (.move (.next (ih' brace).move))
    refine .next (.next (((ih trivial).move.move.append consequence).append ?_))
    exact .token (ne_eof_of_eq otherwise rfl) (.move .missing)
  | @conditional_ifThenElse _ mid mid' _ _ _ _ _ fs _ _ _ _ brace _ _ brace' _ ih ih' ih'' =>
    intro _
    have consequence : Pays 0 mid.tail (.move mid :: .move mid.tail :: fs) mid'.tail :=
      .next (.move (.next (ih' brace).move))
    refine .next (.next (((ih trivial).move.move.append consequence).append ?_))
    exact .next (.move (.next (ih'' brace').move))
  | function_badParameters _ _ ih =>
    exact fun due => .token (Kind.ne_eof_of_start due) (.next (ih trivial).move)
  | function_noBody opening _ _ ih =>
    intro due
    refine .token (Kind.ne_eof_of_start due) (.token (ne_eof_of_eq opening rfl) ?_)
    exact (ih trivial).move.append_missing
  | function_some _ _ brace _ ih ih' =>
    intro due
    refine .token (Kind.ne_eof_of_start due) (.next ((ih trivial).move.append ?_))
    exact .next (ih' brace).move
  | names_noName => exact fun _ => .missing
  | names_more _ _ _ ih => exact fun _ => .next (.next (ih trivial).move.move)
  | names_last => exact fun _ => .next (.next (.move (.move .nil)))
  | names_open => exact fun _ => .next (.move .missing)
  | parameters_none | continued_emptyCall => exact fun _ => .next (.move .nil)
  | parameters_some _ _ ih | arguments_last _ _ ih => exact ih
  | climb_stop => exact fun _ => .nil
  | climb_go next_eq _ _ _ ih ih' =>
    intro _
    have here := Kind.ne_eof_of_continuation next_eq
    exact .token here ((ih next_eq).move.append (ih' trivial))
  | continued_binary _ ih => exact fun _ => (ih trivial).move.spare
  | continued_call _ _ _ ih =>
    exact fun _ => ((ih trivial).move.append (.next (.move .nil))).spare
  | continued_openCall _ _ _ ih => exact fun _ => (ih trivial).move.append_missing
  | arguments_more _ _ _ ih ih' =>
    exact fun _ => (ih trivial).append (.next (ih' trivial).move.move)
  | block_some _ ih => exact fun _ => (ih trivial).move
  | statements_more more _ _ ih ih' =>
    exact fun _ => (ih (ne_eof_of_endsAt more)).append (ih' trivial).move
  | statement_noName => exact fun due => .token due (.statement .missing)
  | statement_noAssign => exact fun due => .token due (.next (.statement (.move .missing)))
  | statement_let _ _ _ _ ih =>
    intro _
    exact .next (.next (.next ((ih trivial).move.move.move.statement.append .semicolon)))
  | statement_return _ _ ih => exact fun _ => .next ((ih trivial).move.statement.append .semicolon)
  | statement_expr _ _ _ ih => exact fun _ => (ih trivial).statement.append .semicolon

/-! ## The end of the text is met once -/

/-- The steps report at most once that an expression was due at the end of the text, and only if
nothing is left after them. -/
def EndsOnce (events : List Event) (rest : List Token) : Prop :=
  (errorsOf events).count (.noExpression .eof) ≤ if rest = [] then 1 else 0

/-- Where a token comes next, there are tokens left. -/
theorem ne_nil_of_next {ts : List Token} {k : Kind} (h : (first ts.tail).kind = k)
    (hk : k ≠ .eof := by decide) : ts ≠ [] := by
  rintro rfl
  exact hk h.symm

namespace EndsOnce

variable {ts mid rest : List Token} {es fs : List Event}

theorem nil : EndsOnce [] rest := Nat.zero_le _

theorem move (h : EndsOnce es rest) : EndsOnce (.move ts :: es) rest := h

theorem statement {t : Token} (h : EndsOnce es rest) : EndsOnce (.statement t :: es) rest := h

theorem missing {k : Kind} : EndsOnce [.missing ts k] rest := by simp [EndsOnce]

theorem append (h : EndsOnce es mid) (left : mid ≠ []) (h' : EndsOnce fs rest) :
    EndsOnce (es ++ fs) rest := by
  rw [EndsOnce, if_neg left] at h
  rw [EndsOnce, errorsOf_append, List.count_append, Nat.le_zero.mp h, Nat.zero_add]
  exact h'

theorem append_missing {k : Kind} (h : EndsOnce es rest) :
    EndsOnce (es ++ [.missing ts k]) rest := by
  simpa [EndsOnce] using h

/-- Steps that report nothing at the end of the text can follow any. -/
theorem append_of_quiet (h : EndsOnce es mid) (quiet : mid = [] → errorsOf fs = [] ∧ rest = [])
    (h' : EndsOnce fs rest) : EndsOnce (es ++ fs) rest := by
  by_cases left : mid = []
  · obtain ⟨none, rfl⟩ := quiet left
    subst left
    rwa [EndsOnce, errorsOf_append, none, List.append_nil]
  · exact h.append left h'

theorem afterSemicolon (h : EndsOnce es rest) :
    EndsOnce (es ++ semicolonMoves rest) (afterSemicolon rest) := by
  rw [EndsOnce, errorsOf_append, errorsOf_semicolonMoves, List.append_nil]
  refine Nat.le_trans h ?_
  cases rest with
  | nil => exact Nat.le_refl _
  | cons t rest => simp

end EndsOnce

namespace Reads

variable {task : Task} {ts rest : List Token} {v : task.Result} {events : List Event}

/-- Nothing continues an expression at the end of the text. -/
theorem climb_nil {floor : Precedence} {left e : Expr}
    (h : Reads (.climb floor left) [] e rest events) : errorsOf events = [] ∧ rest = [] := by
  cases h with
  | climb_stop => exact ⟨rfl, rfl⟩
  | climb_go next_eq => cases next_eq

/-- No statement begins at the end of the text. -/
theorem statements_nil {scope : Scope} {ss : List Stmt}
    (h : Reads (.statements scope) [] ss rest events) : errorsOf events = [] ∧ rest = [] := by
  cases h with
  | statements_done => exact ⟨rfl, rfl⟩
  | statements_more more => cases scope <;> cases more

/-- At the end of the text an expression is due once, and then nothing is left. -/
theorem endsOnce (h : Reads task ts v rest events) : Eofless ts → EndsOnce events rest := by
  induction h with
  | @expression_none _ ts =>
    intro eofless
    by_cases heof : (first ts).kind = .eof
    · rw [eofless.eq_nil heof]
      exact Nat.le_refl 1
    · simp [EndsOnce, heof]
  | operand_badInteger => exact fun _ => by simp [EndsOnce]
  | operand_name | operand_integer | operand_boolean | climb_stop | statements_done =>
    exact fun _ => .nil
  | conditional_noCondition | function_noParameters | names_noName => exact fun _ => .missing
  | parameters_none | continued_emptyCall => exact fun _ => EndsOnce.nil.move
  | names_last => exact fun _ => EndsOnce.nil.move.move
  | names_open => exact fun _ => EndsOnce.missing.move
  | statement_noName => exact fun _ => EndsOnce.missing.statement
  | statement_noAssign => exact fun _ => EndsOnce.missing.move.statement
  | operand_unary _ ih | function_badParameters _ _ ih | continued_binary _ ih
  | block_some _ ih => exact fun eofless => (ih eofless.tail).move
  | names_more _ _ _ ih => exact fun eofless => (ih eofless.tail.tail).move.move
  | parameters_some _ _ ih | arguments_last _ _ ih => exact ih
  | operand_group _ close ih | continued_call _ _ close ih =>
    exact fun eofless => (ih eofless.tail).move.append (ne_nil_of_next close) EndsOnce.nil.move
  | operand_openGroup _ _ ih | function_noBody _ _ _ ih | continued_openCall _ _ _ ih =>
    exact fun eofless => (ih eofless.tail).move.append_missing
  | conditional_openCondition _ _ _ ih =>
    exact fun eofless => (ih eofless.tail.tail).move.move.append_missing
  | conditional_noConsequence _ _ close _ ih =>
    exact fun eofless => (ih eofless.tail.tail).move.move.append (ne_nil_of_next close)
      EndsOnce.missing.move
  | conditional_ifThen _ condition close _ _ _ ih ih' =>
    intro eofless
    have after := (eofless.tail.tail.of_reads condition).tail.tail
    exact (ih eofless.tail.tail).move.move.append (ne_nil_of_next close) (ih' after).move.move
  | conditional_noAlternative _ condition close _ _ otherwise _ ih ih' =>
    intro eofless
    have after := (eofless.tail.tail.of_reads condition).tail.tail
    exact ((ih eofless.tail.tail).move.move.append (ne_nil_of_next close)
      (ih' after).move.move).append (ne_nil_of_next otherwise) EndsOnce.missing.move
  | conditional_ifThenElse _ condition close _ consequence otherwise _ _ ih ih' ih'' =>
    intro eofless
    have after := (eofless.tail.tail.of_reads condition).tail.tail
    have after' := (after.of_reads consequence).tail.tail
    exact ((ih eofless.tail.tail).move.move.append (ne_nil_of_next close)
      (ih' after).move.move).append (ne_nil_of_next otherwise) (ih'' after').move.move
  | function_some _ parameters brace _ ih ih' =>
    intro eofless
    have after := (eofless.tail.of_reads parameters).tail
    exact (ih eofless.tail).move.append (ne_nil_of_next brace) (ih' after).move
  | expression_some _ operand climb ih ih' =>
    intro eofless
    have left := ih' (eofless.of_reads operand)
    exact (ih eofless).append_of_quiet (fun hmid => (hmid ▸ climb).climb_nil) left
  | climb_go _ _ continued climb ih ih' =>
    intro eofless
    have left := ih' (eofless.tail.of_reads continued)
    exact (ih eofless.tail).move.append_of_quiet
      (fun hmid => (hmid ▸ climb).climb_nil) left
  | arguments_more argument comma _ ih ih' =>
    intro eofless
    have after := (eofless.of_reads argument).tail.tail
    exact (ih eofless).append (ne_nil_of_next comma) (ih' after).move.move
  | @statements_more _ _ _ _ mid _ _ _ _ statement statements ih ih' =>
    intro eofless
    have left := ih' (eofless.of_reads statement).tail
    refine (ih eofless).append_of_quiet (fun hmid => ?_) left.move
    have hmid : mid.tail = [] := congrArg List.tail hmid
    exact (hmid ▸ statements).statements_nil
  | statement_let _ _ _ _ ih =>
    exact fun eofless => (ih eofless.tail.tail.tail).move.move.move.statement.afterSemicolon
  | statement_return _ _ ih => exact fun eofless => (ih eofless.tail).move.statement.afterSemicolon
  | statement_expr _ _ _ ih => exact fun eofless => (ih eofless).statement.afterSemicolon

end Reads

/-! ## Errors name the tokens in their order -/

/-- The tokens that errors can still name. -/
def Stage.nameable : Stage → List Token → List Token
  | read, ts => ts.tail
  | _, ts => ts

theorem Stage.tail_eq_nil {stage : Stage} {ts : List Token} (h : stage.nameable ts = []) :
    ts.tail = [] := by
  cases stage with
  | read => exact h
  | fresh | entered => exact congrArg List.tail h

theorem Stage.eq_nil {stage : Stage} {ts : List Token} (h : stage.nameable ts = [])
    (unread : stage ≠ .read) : ts = [] := by
  cases stage with
  | read => exact absurd rfl unread
  | fresh | entered => exact h

namespace Logged

variable {ts rest : List Token} {es : List Event} {stage : Stage}

/-- Where no tokens are left to be named, errors name the end of the text. -/
theorem atEnd_of_nameable (h : Logged ts es rest) (order : InOrder stage es)
    (warranted : Warranted es) (gone : stage.nameable ts = []) :
    ∀ error ∈ errorsOf es, error.atEnd = true := by
  induction es generalizing ts stage with
  | nil => simp
  | cons e es ih =>
    obtain ⟨place, more⟩ := h
    obtain ⟨own, others⟩ := List.forall_mem_cons.mp warranted
    have tail := Stage.tail_eq_nil gone
    cases e with
    | moved current peek =>
      rw [Event.width, List.drop_one] at more
      exact ih more order others tail
    | statement current =>
      obtain ⟨rfl, order⟩ := order
      exact ih more order others gone
    | failed current error =>
      obtain ⟨unread, order⟩ := order
      refine List.forall_mem_cons.mpr ⟨?_, ih more order others tail⟩
      obtain ⟨rfl, blames⟩ := place
      cases error with
      | unexpected expected found =>
        rw [ParseError.ahead, List.drop_one, tail] at blames
        obtain rfl : found = .eof := blames
        rfl
      | noExpression found =>
        rw [ParseError.ahead, List.drop_zero, Stage.eq_nil gone (unread rfl)] at blames
        obtain rfl : found = .eof := blames
        rfl
      | badInteger literal =>
        rw [Stage.eq_nil gone (unread rfl)] at own
        cases own.1

/-- After the token that an error about the end of the text was met at there is no other. -/
theorem tail_eq_nil_of_atEnd {error : ParseError} (eofless : Eofless ts)
    (blames : error.Blames (first (ts.drop error.ahead))) (atEnd : error.atEnd = true) :
    ts.tail = [] := by
  unfold ParseError.atEnd at atEnd
  split at atEnd
  · rw [ParseError.ahead, List.drop_one] at blames
    exact eofless.tail.eq_nil blames.symm
  · rw [ParseError.ahead, List.drop_zero] at blames
    rw [eofless.eq_nil blames.symm]
    rfl
  · cases atEnd

/-- No error about a token follows one about the end of the text. -/
theorem pairwise_atEnd (h : Logged ts es rest) (order : InOrder stage es)
    (warranted : Warranted es) (eofless : Eofless ts) :
    (errorsOf es).Pairwise fun error later => error.atEnd = true → later.atEnd = true := by
  induction es generalizing ts stage with
  | nil => exact .nil
  | cons e es ih =>
    obtain ⟨place, more⟩ := h
    obtain ⟨-, others⟩ := List.forall_mem_cons.mp warranted
    cases e with
    | moved current peek =>
      rw [Event.width, List.drop_one] at more
      exact ih more order others eofless.tail
    | statement current => exact ih more order.2 others eofless
    | failed current error =>
      refine List.pairwise_cons.mpr ⟨fun later hlater atEnd => ?_, ih more order.2 others eofless⟩
      have gone := tail_eq_nil_of_atEnd eofless place.2 atEnd
      exact more.atEnd_of_nameable order.2 others gone later hlater

end Logged

theorem filter_suffix_of_pairwise {α : Type} {p : α → Bool} {l : List α}
    (h : l.Pairwise fun a b => p a = true → p b = true) : l.filter p <:+ l := by
  induction l with
  | nil => exact List.suffix_refl []
  | cons a l ih =>
    obtain ⟨later, rest⟩ := List.pairwise_cons.mp h
    cases ha : p a with
    | true =>
      have all : ∀ b ∈ a :: l, p b = true := by
        simpa [ha] using fun b hb => later b hb ha
      exact ⟨[], List.filter_eq_self.mpr all⟩
    | false =>
      rw [List.filter_cons_of_neg (by simp [ha])]
      exact (ih rest).trans (List.suffix_cons a l)

/-- A source has at most one error more than tokens. That an expression was due at the end of the
text is reported once, and the errors that name the end of the text are the last ones. -/
theorem errors_do_not_cascade (source : String) :
    (parse source).errors.length ≤ (tokens source).length + 1 ∧
      (parse source).errors.count (.noExpression .eof) ≤ 1 ∧
      (parse source).errors.filter ParseError.atEnd <:+ (parse source).errors := by
  have eofless := eofless_tokens source
  obtain ⟨events, run, errors⟩ := eofless.exists_reads
  rw [← parse] at errors
  have charges : chargesOf events + 0 ≤ 0 + (tokens source).length := run.pays trivial
  have once : (errorsOf events).count (.noExpression .eof) ≤ 1 := run.endsOnce eofless
  rw [errors]
  refine ⟨?_, once, ?_⟩
  · rw [length_errorsOf]
    omega
  · exact filter_suffix_of_pairwise
      (run.logged.pairwise_atEnd run.inOrder (run.warranted trivial) eofless)

end LetFn
