import LetFn.Proofs.Plain.Closing

/-!
# Programs one after the other

Two sources one after the other, on lines of their own, have the trees and the errors that they have
by themselves, if the first is read without an error and no statement goes on over the seam
(`parse_append`).

Inside the first source every statement stands before another one, and there it is read as before
whatever comes after (`Closes.before`). The last statement stands before the second source. It ends
with a semicolon, or with its value; and a value without open blocks goes on only with an operator,
an argument list or an alternative (`Derives.readsTo_seam`).
-/

namespace LetFn

/-! ## The seam -/

/-- The kinds of token that can go on with a statement at its end: the operators between two
operands, and what begins arguments, ends a statement or begins an alternative. -/
def Kind.continuing : List Kind :=
  [.plus, .minus, .star, .slash, .less, .greater, .equal, .notEqual, .lparen, .semicolon, .else_]

theorem Kind.stops_of_not_mem {k : Kind} (h : k ∉ continuing) :
    k.Stops ∧ k ≠ .semicolon ∧ k ≠ .minus ∧ k ≠ .lparen := by
  cases k <;> first | decide | exact absurd (by decide) h

/-- No statement at the end of the first tokens goes on with the second ones. -/
def Seam (ts us : List Token) : Prop :=
  ts = [] ∨ us = [] ∨ (∃ t ∈ ts.getLast?, t.kind = .semicolon) ∨ (first us).kind ∉ Kind.continuing

theorem Seam.of_append {w ts us : List Token} (h : Seam (w ++ ts) us) : Seam ts us := by
  cases ts with
  | nil => exact .inl rfl
  | cons t ts =>
    rw [Seam, List.getLast?_append_of_ne_nil _ (List.cons_ne_nil t ts)] at h
    exact h.imp_left fun empty => absurd empty (by simp)

/-! ## Last tokens -/

/-- The tokens do not end with a semicolon. -/
def Unended (ts : List Token) : Prop := ∀ t ∈ ts.getLast?, t.kind ≠ .semicolon

theorem unended_cons {t : Token} {k : Kind} {ts : List Token} (kind : t.kind = k) (h : Unended ts)
    (other : k ≠ .semicolon := by decide) : Unended (t :: ts) := by
  cases ts with
  | nil => simpa [Unended, kind] using other
  | cons u ts => rwa [Unended, List.getLast?_cons_cons]

theorem unended_append_cons {t : Token} {ts : List Token} (h : Unended (t :: ts))
    (w : List Token) : Unended (w ++ t :: ts) := by
  rwa [Unended, List.getLast?_append_of_ne_nil _ (List.cons_ne_nil t ts)]

theorem unended_nil : Unended [] := by simp [Unended]

/-- Only statements end with a semicolon. -/
theorem Plain.unended {phrase : PlainPhrase} {ts : List Token} (h : Plain phrase ts) :
    phrase ≠ .statements → phrase ≠ .statement → Unended ts := by
  induction h with
  | name kind | integer kind | true_ kind | false_ kind =>
    exact fun _ _ => unended_cons kind unended_nil
  | @unary op _ _ kind _ ih =>
    exact fun _ _ => unended_cons kind (ih (by simp) (by simp)) (by cases op <;> decide)
  | @binary op _ _ _ kind _ _ _ ih =>
    refine fun _ _ => unended_append_cons (unended_cons kind (ih (by simp) (by simp)) ?_) _
    cases op <;> decide
  | emptyCall opening_kind close_kind =>
    have last := unended_cons close_kind unended_nil
    exact fun _ _ => unended_append_cons (unended_cons opening_kind last) _
  | call _ close_kind | group _ close_kind | block _ close_kind =>
    exact fun _ _ => unended_append_cons (unended_cons close_kind unended_nil) _
  | ifThen _ _ kind _ _ _ ih | function _ _ kind _ _ ih =>
    exact fun _ _ => unended_append_cons (unended_cons kind (ih (by simp) (by simp))) _
  | ifThenElse _ _ _ kind _ _ _ _ _ ih =>
    exact fun _ _ => unended_append_cons (unended_cons kind (ih (by simp) (by simp))) _
  | oneArgument _ ih => exact fun _ _ => ih (by simp) (by simp)
  | moreArguments kind _ _ _ ih =>
    exact fun _ _ => unended_append_cons (unended_cons kind (ih (by simp) (by simp))) _
  | noStatements | moreStatements => exact fun other _ => absurd rfl other
  | let_ | return_ | expr => exact fun _ other => absurd rfl other

/-! ## The last statement -/

/-- A statement ends with its value and an optional semicolon. Where the value is read, the
statement is. -/
theorem Derives.exists_value {ts rest : List Token} {s : Stmt}
    (h : Derives .statement ts s rest) : ∃ w vs e mid, ts = w ++ vs ∧
      countKind .lbrace w = countKind .rbrace w ∧ Derives .expression vs e mid ∧
      EndsStatement mid rest ∧
      ∀ {more mid' : List Token} {es : List Event},
        Reads (.expression .lowest) (vs ++ more) e mid' es → ∃ fs,
          Reads .statement (ts ++ more) (some s) (afterSemicolon mid') fs ∧
            errorsOf fs = errorsOf es := by
  cases h with
  | @let_ t name assign ts _ _ e kind name_kind assign_kind value ends =>
    refine ⟨[t, name, assign], ts, e, _, rfl, by simp [kind, name_kind, assign_kind], value, ends,
      ?_⟩
    intro more mid' es run
    refine ⟨_, @Reads.statement_let (t :: name :: assign :: (ts ++ more)) _ e _ kind name_kind
      assign_kind run, ?_⟩
    simp
  | @return_ t ts _ _ e kind value ends =>
    refine ⟨[t], ts, e, _, rfl, by simp [kind], value, ends, ?_⟩
    intro more mid' es run
    refine ⟨_, @Reads.statement_return (t :: (ts ++ more)) _ e _ kind run, ?_⟩
    simp
  | @expr t ts _ _ e value ends =>
    have begins := value.begins
    refine ⟨[], t :: ts, e, _, rfl, rfl, value, ends, ?_⟩
    intro more mid' es run
    refine ⟨_, @Reads.statement_expr (t :: (ts ++ more)) _ e _ (Kind.ne_of_start begins rfl)
      (Kind.ne_of_start begins rfl) run, ?_⟩
    simp

/-- A phrase at the end of tokens that leave no block open needs no braces. -/
theorem Closes.balanced {phrase : Phrase} {ts w : List Token} {v : phrase.Tree} {k : Nat}
    (h : Closes phrase ts v [] k w) (balanced : countKind .lbrace ts = countKind .rbrace ts) :
    Plain phrase.plain ts ∧ ∀ more, Closer more → Derives phrase (ts ++ more) v more := by
  obtain ⟨-, plain, text, derived⟩ := h
  have none : k = 0 := by
    have paired := plain.braces
    have braces := countKind_closingBraces k
    rw [List.append_nil] at text
    rw [← text, countKind_append, countKind_append] at paired
    omega
  subst none
  rw [closingBraces, List.replicate_zero, List.append_nil, List.append_nil] at text
  subst text
  exact ⟨plain, fun more closer => derived more fun _ => closer⟩

/-- The value at the end of a source without open blocks is read as before, where no statement goes
on over the seam, and after it the statement is at its end. -/
theorem Derives.value_over_seam {ts us mid : List Token} {e : Expr}
    (h : Derives .expression ts e mid) (ends : EndsStatement mid [])
    (balanced : countKind .lbrace ts = countKind .rbrace ts) (seam : Seam ts us) :
    ∃ mid', Derives .expression (ts ++ us) e mid' ∧ (first mid').kind.Stops ∧
      ∀ x : List Token, x.tail = mid' → (afterSemicolon x).tail = us := by
  obtain ⟨k, w, closes⟩ := h.closes
  cases ends with
  | @semicolon t _ kind =>
    obtain ⟨-, -, derived⟩ := closes.before
    refine ⟨t :: us, derived us, Kind.stops_of_eq kind, fun x hx => ?_⟩
    rw [afterSemicolon, hx, first_cons, if_pos kind, List.tail_cons]
  | omitted =>
    obtain ⟨plain, derived⟩ := closes.balanced balanced
    have fresh : (first us).kind ∉ Kind.continuing := by
      obtain rfl | rfl | ⟨t, ht, kind⟩ | fresh := seam
      · exact absurd rfl (h.first_ne_eof (by simp))
      · decide
      · exact absurd kind (plain.unended (by simp [Phrase.plain]) (by simp [Phrase.plain]) t ht)
      · exact fresh
    obtain ⟨stops, semicolon, minus, lparen⟩ := Kind.stops_of_not_mem fresh
    refine ⟨us, derived us ⟨minus, lparen⟩, stops, fun x hx => ?_⟩
    rw [afterSemicolon, hx, if_neg semicolon, hx]

/-- The last statement of a source without open blocks is read as before, where no statement goes
on over the seam. -/
theorem Derives.readsTo_seam {ts us : List Token} {s : Stmt} (h : Derives .statement ts s [])
    (balanced : countKind .lbrace ts = countKind .rbrace ts) (seam : Seam ts us) :
    ReadsTo .statement (ts ++ us) (some s) us := by
  obtain ⟨w, vs, e, mid, rfl, braces, value, ends, statement⟩ := h.exists_value
  rw [countKind_append, countKind_append] at balanced
  obtain ⟨mid', derived, stops, after⟩ := value.value_over_seam ends (by omega) seam.of_append
  obtain ⟨x, es, run, hx, clean⟩ := derived.complete.readsTo_lowest stops
  obtain ⟨fs, read, same⟩ := statement run
  exact ⟨_, fs, read, after x hx, same.trans clean⟩

/-! ## Programs -/

/-- A statement before another one is read as before, whatever comes after them. -/
theorem Derives.readsTo_before {ts mid us : List Token} {s : Stmt} {ss : List Stmt}
    (h : Derives .statement ts s mid) (more : Derives .statements mid ss []) (nonempty : mid ≠ []) :
    ReadsTo .statement (ts ++ us) (some s) (mid ++ us) := by
  obtain ⟨k, w, closes⟩ := h.closes
  obtain ⟨t, mid, rfl⟩ := List.exists_cons_of_ne_nil nonempty
  obtain ⟨-, -, derived⟩ := closes.before
  exact (derived us).complete (more.complete .program rfl).1

/-- The statements of a source without open blocks are read before those of another one. -/
theorem Derives.reads_append {ts us rest : List Token} {ss ss' : List Stmt} {events : List Event}
    (h : Derives .statements ts ss []) (balanced : countKind .lbrace ts = countKind .rbrace ts)
    (seam : Seam ts us) (run : Reads (.statements .program) us ss' rest events) :
    ∃ es, errorsOf es = [] ∧
      Reads (.statements .program) (ts ++ us) (ss ++ ss') rest (es ++ events) := by
  induction ss generalizing ts with
  | nil =>
    cases h with
    | noStatements => exact ⟨[], rfl, run⟩
  | cons s ss ih =>
    cases h with
    | @moreStatements _ mid _ _ _ statement statements =>
    -- the statement is read up to those after it, which are as balanced as all of them
    have split : ReadsTo .statement (ts ++ us) (some s) (mid ++ us) ∧
        countKind .lbrace mid = countKind .rbrace mid ∧ Seam mid us := by
      cases mid with
      | nil => exact ⟨statement.readsTo_seam balanced seam, rfl, .inl rfl⟩
      | cons t mid =>
        obtain ⟨k, w, closes⟩ := statement.closes
        obtain ⟨plain, rfl, -⟩ := closes.before
        have paired := plain.braces
        rw [countKind_append, countKind_append] at balanced
        exact ⟨statement.readsTo_before statements (by simp), by omega, seam.of_append⟩
    obtain ⟨⟨x, es, read, hx, clean⟩, balanced', seam'⟩ := split
    obtain ⟨fs, clean', reads⟩ := ih statements balanced' seam'
    have begins := statement.begins
    have unfinished : Scope.program.endsAt (first (ts ++ us)).kind = false := by
      rw [first_append (Phrase.ne_eof_of_begins_statement begins)]
      exact Scope.endsAt_of_begins begins
    rw [← hx] at reads
    have whole := Reads.statements_more unfinished read reads
    refine ⟨es ++ .move x :: fs, by simp [clean, clean'], ?_⟩
    simpa using whole

theorem tokens_append_line (a b : String) :
    tokens (a ++ "\n" ++ b) = tokens a ++ tokens b := by
  have text : (a ++ "\n" ++ b).toList = a.toList ++ '\n' :: b.toList := by
    simp
  rw [tokens_eq_scan, text, scan_append_blank rfl, tokens_eq_scan, tokens_eq_scan]

/-- A source that is read without an error and leaves no block open can be put before any other,
where no statement goes on over the seam. The statements of both are read, and the errors are those
of the second. -/
theorem parse_append (a b : String) (clean : (parse a).errors = [])
    (balanced : countKind .lbrace (tokens a) = countKind .rbrace (tokens a))
    (seam : Seam (tokens a) (tokens b)) :
    (parse (a ++ "\n" ++ b)).value.statements =
        (parse a).value.statements ++ (parse b).value.statements ∧
      (parse (a ++ "\n" ++ b)).errors = (parse b).errors := by
  have derived := derivesProgram_parse clean
  obtain ⟨rest, events, run⟩ := exists_reads_parseTokens (tokens b)
  obtain ⟨es, none, whole⟩ := Derives.reads_append derived balanced seam run
  rw [parse, tokens_append_line, whole.errors_parseTokens, whole.parseTokens_eq, parse, parse,
    run.errors_parseTokens, errorsOf_append, none]
  exact ⟨rfl, rfl⟩

/-- A name, and before another one a parenthesis that closes nothing. -/
def strayClose : List Token := [.symbol ')', nameX]

theorem tokens_name_and_strayClose :
    tokens (spell [nameX]) = [nameX] ∧ tokens (spell strayClose) = strayClose :=
  ⟨tokens_spell_of_whole (by decide), tokens_spell_of_whole (by decide)⟩

theorem parse_append_strayClose : (parse (spell [nameX])).errors = [] ∧
    countKind .lbrace (tokens (spell [nameX])) = countKind .rbrace (tokens (spell [nameX])) ∧
    Seam (tokens (spell [nameX])) (tokens (spell strayClose)) ∧
    (parse (spell [nameX] ++ "\n" ++ spell strayClose)).value.statements =
      (parse (spell [nameX])).value.statements ++ (parse (spell strayClose)).value.statements ∧
    (parse (spell [nameX] ++ "\n" ++ spell strayClose)).errors = [.noExpression .rparen] := by
  obtain ⟨first_tokens, second_tokens⟩ := tokens_name_and_strayClose
  have clean : (parse (spell [nameX])).errors = [] := by
    rw [parse, first_tokens]
    decide
  have balanced : countKind .lbrace (tokens (spell [nameX])) =
      countKind .rbrace (tokens (spell [nameX])) := by
    rw [first_tokens]
    rfl
  have seam : Seam (tokens (spell [nameX])) (tokens (spell strayClose)) := by
    rw [second_tokens]
    exact .inr (.inr (.inr (by decide)))
  have faulty : (parse (spell strayClose)).errors = [.noExpression .rparen] := by
    rw [parse, second_tokens]
    decide
  obtain ⟨statements, errors⟩ := parse_append _ _ clean balanced seam
  exact ⟨clean, balanced, seam, statements, errors.trans faulty⟩

end LetFn
