import LetFn.Proofs.Plain.Seam

/-!
# Nested parentheses

An expression between parentheses is read as the expression, however many there are. Each one that
is not closed is reported at the end of the text, and a hole takes the place of the expression; each
one that closes nothing is reported where it stands, and is a statement with a hole in it
(`parseTokens_parentheses`).

The expression is read the same whatever closes it (`Closes.balanced`), so it can stand in a group,
and the group again. A group that is not closed leaves its reader at the end of the text, where
there is nothing to go on with, so the groups around it are not closed either.
-/

namespace LetFn

/-! ## Parentheses -/

/-- `n` parentheses that open. -/
def lparens (n : Nat) : List Token := List.replicate n (.symbol '(')

/-- `k` parentheses that close. -/
def rparens (k : Nat) : List Token := List.replicate k (.symbol ')')

/-- The tokens after `n` parentheses that open and before `k` that close. -/
def parenthesized (n : Nat) (ts : List Token) (k : Nat) : List Token :=
  lparens n ++ ts ++ rparens k

theorem lparens_succ (n : Nat) : lparens (n + 1) = .symbol '(' :: lparens n := rfl

theorem lparens_add (m n : Nat) : lparens (m + n) = lparens m ++ lparens n :=
  List.replicate_add m n _

theorem rparens_add (m n : Nat) : rparens (m + n) = rparens m ++ rparens n :=
  List.replicate_add m n _

theorem Kind.not_mem_of_start {k : Kind} (start : k.start?.isSome) :
    k ∉ [.let_, .return_, .eof] := by
  cases k <;> first | decide | cases start

/-- Neither a parenthesis that closes nor the end of the text goes on with a statement. -/
theorem first_rparens (k : Nat) : (first (rparens k)).kind ∉ Kind.continuing := by
  cases k with
  | zero => decide
  | succ k =>
    show Kind.rparen ∉ Kind.continuing
    decide

/-! ## Groups -/

/-- An expression that can stand before any closer can do so between parentheses. The induction is
on the number of parentheses, with what comes after them as the next one that closes. -/
theorem Derives.grouped {ts : List Token} {e : Expr}
    (derived : ∀ more, Closer more → Derives .expression (ts ++ more) e more) (n : Nat)
    {more : List Token} (closer : Closer more) :
    Derives .expression (lparens n ++ ts ++ (rparens n ++ more)) e more := by
  induction n generalizing more with
  | zero => simpa [lparens, rparens] using derived more closer
  | succ n ih =>
    have kind : (Token.symbol ')').kind = .rparen := rfl
    have inner := @ih (.symbol ')' :: more) ⟨by simp [kind], by simp [kind]⟩
    have group := @Derives.group (.symbol '(') _ _ _ _ rfl inner kind
    have whole : Derives .expression _ e more := Derives.loosen (.primary group) (by decide)
    have split : rparens (n + 1) = rparens n ++ [.symbol ')'] := List.replicate_succ'
    rw [lparens_succ, split]
    simpa using whole

namespace Reads

variable {us mid : List Token} {v : Expr} {es : List Event}

/-- An expression up to the end of the text is not closed, and a group of it is given up. -/
theorem unclosed_group (run : Reads (.expression .lowest) us v mid es) (done : mid.tail = []) :
    ∃ fs, Reads (.expression .lowest) (.symbol '(' :: us) .hole mid fs ∧
      errorsOf fs = errorsOf es ++ [.unexpected .rparen .eof] := by
  have last : (first mid.tail).kind = .eof := by rw [done]; rfl
  have group := @operand_openGroup (.symbol '(' :: us) mid v es run (by simp [last])
  have stop : (first mid.tail).kind.precedence.rank ≤ Precedence.lowest.rank := by
    rw [last]
    decide
  exact ⟨_, .expression_some rfl group (.climb_stop stop), by simp [last]⟩

/-- Of parentheses that open before an expression up to the end of the text, each is reported. -/
theorem unclosed (run : Reads (.expression .lowest) us v mid es) (done : mid.tail = []) (n : Nat) :
    ∃ fs, Reads (.expression .lowest) (lparens (n + 1) ++ us) .hole mid fs ∧
      errorsOf fs = errorsOf es ++ List.replicate (n + 1) (.unexpected .rparen .eof) := by
  induction n with
  | zero => exact run.unclosed_group done
  | succ n ih =>
    obtain ⟨fs, inner, errors⟩ := ih
    obtain ⟨gs, outer, errors'⟩ := inner.unclosed_group done
    refine ⟨gs, outer, ?_⟩
    rw [errors', errors, List.append_assoc, ← List.replicate_succ']

/-- An expression before what does not go on with it is a statement of a program. -/
theorem statement_first {ss : List Stmt} {rest : List Token} {fs : List Event}
    (run : Reads (.expression .lowest) us v mid es)
    (begins : (first us).kind ∉ [.let_, .return_, .eof])
    (semicolon : (first mid.tail).kind ≠ .semicolon)
    (statements : Reads (.statements .program) mid.tail ss rest fs) :
    ∃ gs, Reads (.statements .program) us (.expr (first us) v :: ss) rest gs ∧
      errorsOf gs = errorsOf es ++ errorsOf fs := by
  simp only [List.mem_cons, List.not_mem_nil, or_false, not_or] at begins
  obtain ⟨noLet, noReturn, noEnd⟩ := begins
  have unfinished : Scope.program.endsAt (first us).kind = false :=
    Bool.eq_false_iff.mpr fun done => noEnd (Scope.endsAt_program.mp done)
  have statement := statement_expr noLet noReturn run
  have skipped : afterSemicolon mid = mid := if_neg semicolon
  rw [skipped] at statement
  exact ⟨_, statements_more unfinished statement statements, by simp⟩

/-- What is read of a program, and its errors. -/
theorem outcome {ts rest : List Token} {ss : List Stmt} {errors : List ParseError}
    (run : Reads (.statements .program) ts ss rest es) (found : errorsOf es = errors) :
    (parseTokens ts).errors = errors ∧ (parseTokens ts).value = ⟨ss⟩ :=
  ⟨run.errors_parseTokens.trans found, congrArg (·.value) run.parseTokens_eq⟩

/-- Parentheses that open before an expression up to the end of the text are a statement with a
hole. -/
theorem unclosed_statement (run : Reads (.expression .lowest) us v mid es) (done : mid.tail = [])
    (n : Nat) :
    (parseTokens (lparens (n + 1) ++ us)).errors =
        errorsOf es ++ List.replicate (n + 1) (.unexpected .rparen .eof) ∧
      (parseTokens (lparens (n + 1) ++ us)).value = ⟨[.expr (.symbol '(') .hole]⟩ := by
  obtain ⟨fs, hole, errors⟩ := run.unclosed done n
  have nothing : Reads (.statements .program) mid.tail [] [] [] := by
    rw [done]
    exact .statements_done rfl
  have semicolon : (first mid.tail).kind ≠ .semicolon := by
    rw [done]
    decide
  have begins : (first (lparens (n + 1) ++ us)).kind ∉ [.let_, .return_, .eof] :=
    Kind.not_mem_of_start (k := .lparen) rfl
  obtain ⟨gs, whole, errors'⟩ := hole.statement_first begins semicolon nothing
  exact whole.outcome (by rw [errors', errors, errorsOf_nil, List.append_nil])

end Reads

/-- Parentheses that close nothing are statements with a hole. -/
theorem reads_rparens (k : Nat) : ∃ es,
    Reads (.statements .program) (rparens k)
      (List.replicate k (.expr (.symbol ')') .hole)) [] es ∧
      errorsOf es = List.replicate k (.noExpression .rparen) := by
  induction k with
  | zero => exact ⟨[], .statements_done rfl, rfl⟩
  | succ k ih =>
    obtain ⟨es, run, errors⟩ := ih
    have semicolon := (Kind.stops_of_not_mem (first_rparens k)).2.1
    have kind : (first (rparens (k + 1))).kind = .rparen := rfl
    obtain ⟨fs, run', errors'⟩ := @Reads.statement_first (rparens (k + 1)) _ _ _ _ _ _
      (.expression_none rfl) (by simp [kind]) semicolon run
    refine ⟨fs, run', errors'.trans ?_⟩
    rw [errors]
    rfl

/-! ## Programs -/

/-- The tokens, none of which is the end of a text, are read without an error as one expression
statement. It does not end with a semicolon, and no block in it is left open. -/
structure ReadsAsExpression (ts : List Token) (e : Expr) : Prop where
  eofless : Eofless ts
  clean : (parseTokens ts).errors = []
  single : ∃ t, (parseTokens ts).value = ⟨[.expr t e]⟩
  unended : Unended ts
  balanced : countKind .lbrace ts = countKind .rbrace ts

/-- Such an expression is one of the grammar, before any closer. -/
theorem ReadsAsExpression.derives {ts : List Token} {e : Expr} (h : ReadsAsExpression ts e) :
    ∀ more, Closer more → Derives .expression (ts ++ more) e more := by
  obtain ⟨t, single⟩ := h.single
  have program := (parseTokens_eq_iff h.eofless _).mp ⟨single, h.clean⟩
  cases program with
  | moreStatements statement others =>
  cases others
  cases statement with
  | expr value ends =>
  obtain ⟨k, w, closes⟩ := value.closes
  cases ends with
  | @semicolon t _ kind =>
    obtain ⟨-, text, -⟩ := closes.before
    have last : t ∈ (w ++ [t]).getLast? := by simp
    exact absurd kind (h.unended t (text ▸ last))
  | omitted => exact (closes.balanced h.balanced).2

namespace ReadsAsExpression

variable {ts : List Token} {e : Expr} (h : ReadsAsExpression ts e) (n k : Nat)

include h

/-- In as many parentheses that close as that open the expression is read up to what follows, if
that does not go on with it. -/
theorem readsTo {more : List Token} (fresh : (first more).kind ∉ Kind.continuing) :
    (first (lparens n ++ ts ++ (rparens n ++ more))).kind ∉ [.let_, .return_, .eof] ∧
      ReadsTo (.expression .lowest) (lparens n ++ ts ++ (rparens n ++ more)) e more := by
  obtain ⟨stops, semicolon, minus, lparen⟩ := Kind.stops_of_not_mem fresh
  have derived := Derives.grouped h.derives n ⟨minus, lparen⟩
  exact ⟨Kind.not_mem_of_start derived.begins, derived.complete.readsTo_lowest stops⟩

/-- `k` of the parentheses close nothing. -/
theorem surplus :
    (parseTokens (parenthesized n ts (n + k))).errors = List.replicate k (.noExpression .rparen) ∧
      (parseTokens (parenthesized n ts (n + k))).value =
        ⟨.expr (first (parenthesized n ts (n + k))) e ::
          List.replicate k (.expr (.symbol ')') .hole)⟩ := by
  obtain ⟨begins, mid, es, run, hmid, clean⟩ := h.readsTo n (first_rparens k)
  obtain ⟨fs, statements, errors⟩ := reads_rparens k
  have semicolon := (Kind.stops_of_not_mem (first_rparens k)).2.1
  rw [← hmid] at semicolon statements
  obtain ⟨gs, whole, errors'⟩ := run.statement_first begins semicolon statements
  rw [parenthesized, rparens_add]
  exact whole.outcome (by rw [errors', clean, errors, List.nil_append])

/-- `n + 1` of the parentheses are not closed. -/
theorem missing :
    (parseTokens (parenthesized (n + 1 + k) ts k)).errors =
        List.replicate (n + 1) (.unexpected .rparen .eof) ∧
      (parseTokens (parenthesized (n + 1 + k) ts k)).value = ⟨[.expr (.symbol '(') .hole]⟩ := by
  obtain ⟨-, mid, es, run, done, clean⟩ := @readsTo ts e h k [] (by decide)
  have unclosed := run.unclosed_statement done n
  rw [clean, List.nil_append] at unclosed
  simpa [parenthesized, lparens_add] using unclosed

end ReadsAsExpression

/-- An expression in `n` parentheses that open and `k` that close is read as the expression, if they
are as many. Each that is not closed is reported at the end of the text, and each that closes
nothing where it stands. -/
theorem parseTokens_parentheses :
    (∀ {ts : List Token} {e : Expr}, ReadsAsExpression ts e → ∀ n k : Nat,
      (n = k → (parseTokens (parenthesized n ts k)).errors = [] ∧
        (parseTokens (parenthesized n ts k)).value =
          ⟨[.expr (first (parenthesized n ts k)) e]⟩) ∧
      (k < n → (parseTokens (parenthesized n ts k)).errors =
          List.replicate (n - k) (.unexpected .rparen .eof) ∧
        (parseTokens (parenthesized n ts k)).value = ⟨[.expr (.symbol '(') .hole]⟩) ∧
      (n < k → (parseTokens (parenthesized n ts k)).errors =
          List.replicate (k - n) (.noExpression .rparen) ∧
        (parseTokens (parenthesized n ts k)).value =
          ⟨.expr (first (parenthesized n ts k)) e ::
            List.replicate (k - n) (.expr (.symbol ')') .hole)⟩)) ∧
    ∀ n : Nat, 0 < n →
      (parseTokens (lparens n)).errors =
          .noExpression .eof :: List.replicate n (.unexpected .rparen .eof) ∧
        (parseTokens (lparens n)).value = ⟨[.expr (.symbol '(') .hole]⟩ := by
  constructor
  · intro ts e h n k
    refine ⟨?_, fun less => ?_, fun less => ?_⟩
    · rintro rfl
      exact h.surplus n 0
    · obtain ⟨m, rfl⟩ : ∃ m, n = m + 1 + k := ⟨n - k - 1, by omega⟩
      rw [Nat.add_sub_cancel]
      exact h.missing m k
    · obtain ⟨m, rfl⟩ := Nat.exists_eq_add_of_le (Nat.le_of_lt less)
      rw [Nat.add_sub_cancel_left]
      exact h.surplus n m
  · intro n positive
    obtain ⟨m, rfl⟩ := Nat.exists_eq_add_of_lt positive
    -- at the end of the text there is no expression to begin with
    have nothing : Reads (.expression .lowest) [] .hole [] [.fail [] (.noExpression .eof)] :=
      .expression_none rfl
    have unclosed := nothing.unclosed_statement rfl m
    rw [List.append_nil] at unclosed
    rw [Nat.zero_add]
    exact unclosed

/-- A sum with a call in it. -/
def sumWithCall : List Token :=
  [.word "a", .symbol '+', .word "f", .symbol '(', .word "x", .symbol ')']

/-- The tree of the sum. -/
def treeOfSum : Expr :=
  .binary (.symbol '+') .add (.ident ⟨.word "a", "a"⟩)
    (.call (.symbol '(') (.ident ⟨.word "f", "f"⟩) [.ident ⟨.word "x", "x"⟩])

theorem readsAsExpression_sumWithCall : ReadsAsExpression sumWithCall treeOfSum where
  eofless := by simp only [Eofless]; decide
  clean := by decide
  single := ⟨.word "a", rfl⟩
  unended := by simp only [Unended]; decide
  balanced := rfl

/-- Two parentheses more than needed, on each side. -/
theorem parseTokens_parentheses_sumWithCall : ReadsAsExpression sumWithCall treeOfSum ∧
    (parseTokens (parenthesized 5 sumWithCall 3)).errors =
      [.unexpected .rparen .eof, .unexpected .rparen .eof] ∧
    (parseTokens (parenthesized 3 sumWithCall 5)).value = ⟨[.expr (.symbol '(') treeOfSum,
      .expr (.symbol ')') .hole, .expr (.symbol ')') .hole]⟩ := by
  have h := readsAsExpression_sumWithCall
  obtain ⟨-, missing, -⟩ := parseTokens_parentheses.1 h 5 3
  obtain ⟨-, -, surplus⟩ := parseTokens_parentheses.1 h 3 5
  exact ⟨h, (missing (by decide)).1, (surplus (by decide)).2⟩

end LetFn
