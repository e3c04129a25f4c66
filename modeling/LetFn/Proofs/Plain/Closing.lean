import LetFn.Proofs.Plain.Greedy

/-!
# Programs of the plain grammar

A source is read without errors exactly when its tokens, with braces appended for the blocks that it
leaves open, are statements of the plain grammar, and the braces do not change its tree
(`errors_eq_nil_iff_plain`).

One direction is the greedy machine. For the other every derivation is closed, by an induction in
which the braces are collected (`Derives.closes`): only a phrase at the end of the tokens can need
any.
-/

namespace LetFn

/-- The phrase of the plain grammar, where all levels are the same. -/
def Phrase.plain : Phrase → PlainPhrase
  | level _ | primary => .expression
  | arguments => .arguments
  | block => .block
  | statements => .statements
  | statement => .statement

/-- The tokens begin with none that goes on with a statement without a semicolon. -/
def Closer (ts : List Token) : Prop := (first ts).kind ≠ .minus ∧ (first ts).kind ≠ .lparen

/-- With `k` braces after `ts` the tokens are the phrase, written as `w`, and the rest. Its tree is
the same, whatever closes what stands around it. -/
structure Closes (phrase : Phrase) (ts : List Token) (v : phrase.Tree) (rest : List Token)
    (k : Nat) (w : List Token) : Prop where
  closed : rest ≠ [] → k = 0
  plain : Plain phrase.plain w
  text : ts ++ closingBraces k = w ++ rest
  derived : ∀ more, (rest = [] → Closer more) →
    Derives phrase (ts ++ (closingBraces k ++ more)) v (rest ++ more)

namespace Closes

variable {phrase : Phrase} {ts w rest : List Token} {v : phrase.Tree} {k : Nat} {t : Token}

/-- A phrase before a token needs no braces, and anything can follow the token. -/
theorem before (h : Closes phrase ts v (t :: rest) k w) : Plain phrase.plain w ∧
    ts = w ++ t :: rest ∧ ∀ more, Derives phrase (ts ++ more) v (t :: (rest ++ more)) := by
  obtain ⟨closed, plain, text, derived⟩ := h
  obtain rfl := closed (by simp)
  rw [closingBraces, List.replicate_zero, List.append_nil] at text
  exact ⟨plain, text, fun more => derived more (by simp)⟩

/-- A phrase that needs no braces. -/
theorem whole (text : ts = w ++ rest) (plain : Plain phrase.plain w)
    (derived : ∀ more, Derives phrase (ts ++ more) v (rest ++ more)) :
    Closes phrase ts v rest 0 w where
  closed _ := rfl
  plain := plain
  text := by rw [← text, closingBraces, List.replicate_zero, List.append_nil]
  derived more _ := derived more

/-- A phrase that ends with another and needs the same braces. -/
theorem extend {phrase' : Phrase} {v' : phrase'.Tree} {ts' w' : List Token}
    (h : Closes phrase ts v rest k w) (before : List Token) (text : ts' = before ++ ts)
    (written : w' = before ++ w) (plain : Plain phrase'.plain w')
    (derive : ∀ more rest', Derives phrase (ts ++ more) v rest' →
      Derives phrase' (ts' ++ more) v' rest') : Closes phrase' ts' v' rest k w' where
  closed := h.closed
  plain := plain
  text := by rw [text, written, List.append_assoc, h.text, List.append_assoc]
  derived more closer := derive _ _ (h.derived more closer)

end Closes

/-! ## Parameters -/

theorem DerivesNames.plain {ts rest : List Token} {names : List Ident}
    (h : DerivesNames ts names rest) : ∃ w, PlainNames w ∧ ts = w ++ rest ∧
      ∀ more, DerivesNames (ts ++ more) names (rest ++ more) := by
  induction h with
  | one name => exact ⟨_, .one name, rfl, fun more => .one name⟩
  | more name comma_kind _ ih =>
    obtain ⟨w, plain, rfl, derived⟩ := ih
    exact ⟨_, .more name comma_kind plain, rfl, fun more => .more name comma_kind (derived more)⟩

theorem DerivesParameters.plain {ts rest : List Token} {names : List Ident}
    (h : DerivesParameters ts names rest) : ∃ opening w close, opening.kind = .lparen ∧
      close.kind = .rparen ∧ (w = [] ∨ PlainNames w) ∧ ts = opening :: (w ++ close :: rest) ∧
      ∀ more, DerivesParameters (ts ++ more) names (rest ++ more) := by
  cases h with
  | empty opening_kind close_kind =>
    exact ⟨_, [], _, opening_kind, close_kind, .inl rfl, rfl,
      fun more => .empty opening_kind close_kind⟩
  | list opening_kind names close_kind =>
    obtain ⟨w, plain, rfl, derived⟩ := names.plain
    exact ⟨_, w, _, opening_kind, close_kind, .inr plain, rfl,
      fun more => .list opening_kind (derived more) close_kind⟩

/-! ## Ends of statements -/

/-- A statement that ends with an expression and an optional semicolon. -/
theorem Closes.ended {ts ts' w mid rest : List Token} {e : Expr} {s : Stmt} {k : Nat}
    (h : Closes .expression ts e mid k w) (ends : EndsStatement mid rest) (before : List Token)
    (text : ts' = before ++ ts)
    (plain : ∀ semicolon, OptionalSemicolon semicolon →
      Plain .statement (before ++ w ++ semicolon))
    (derive : ∀ more mid' rest', Derives .expression (ts ++ more) e mid' →
      EndsStatement mid' rest' → Derives .statement (ts' ++ more) s rest') :
    ∃ w', Closes .statement ts' s rest k w' := by
  cases ends with
  | @semicolon t _ kind =>
    obtain ⟨_, rfl, derived⟩ := h.before
    obtain rfl := h.closed (by simp)
    refine ⟨before ++ w ++ [t], .whole (by simp [text]) (plain [t] (.inr ⟨t, kind, rfl⟩)) ?_⟩
    exact fun more => derive more _ _ (derived more) (.semicolon kind)
  | omitted minus lparen =>
    refine ⟨before ++ w ++ [], h.closed, plain [] (.inl rfl), ?_, fun more closer => ?_⟩
    · rw [text, List.append_assoc, h.text, List.append_nil, List.append_assoc]
    · refine derive _ _ _ (h.derived more closer) ?_
      cases mid with
      | nil => exact .omitted (closer rfl).1 (closer rfl).2
      | cons t mid => exact .omitted minus lparen

/-! ## Derivations -/

/-- Statements of no tokens are none. -/
theorem Derives.statements_nil {ss : List Stmt} {rest : List Token}
    (h : Derives .statements [] ss rest) : ss = [] ∧ rest = [] := by
  cases h with
  | noStatements => exact ⟨rfl, rfl⟩
  | moreStatements statement _ => exact absurd rfl (statement.first_ne_eof (by simp))

/-- Every derivation can be closed by braces. -/
theorem Derives.closes {phrase : Phrase} {ts rest : List Token} {v : phrase.Tree}
    (h : Derives phrase ts v rest) : ∃ k w, Closes phrase ts v rest k w := by
  induction h with
  | tighter _ ih =>
    obtain ⟨k, w, h⟩ := ih
    exact ⟨k, w, h.extend [] rfl rfl h.plain fun _ _ => .tighter⟩
  | primary _ ih =>
    obtain ⟨k, w, h⟩ := ih
    exact ⟨k, w, h.extend [] rfl rfl h.plain fun _ _ => .primary⟩
  | @binary _ op t _ _ _ _ _ level kind _ _ ih ih' =>
    obtain ⟨_, l, left⟩ := ih
    obtain ⟨k, r, right⟩ := ih'
    obtain ⟨plain, rfl, derived⟩ := left.before
    exact ⟨k, l ++ t :: r, right.extend (l ++ [t]) (by simp) (by simp)
      (.binary kind plain right.plain) fun _ _ => .binary level kind (derived _)⟩
  | @unary op t _ _ _ kind _ ih =>
    obtain ⟨k, w, h⟩ := ih
    exact ⟨k, t :: w, h.extend [t] rfl rfl (.unary kind h.plain) fun _ _ => .unary kind⟩
  | @emptyCall opening close _ _ _ _ opening_kind close_kind ih =>
    obtain ⟨_, e, callee⟩ := ih
    obtain ⟨plain, rfl, derived⟩ := callee.before
    exact ⟨0, e ++ [opening, close], .whole (by simp) (.emptyCall opening_kind close_kind plain)
      fun more => .emptyCall (derived more) opening_kind close_kind⟩
  | @call opening close _ _ _ _ _ _ opening_kind _ close_kind ih ih' =>
    obtain ⟨_, e, callee⟩ := ih
    obtain ⟨_, args, arguments⟩ := ih'
    obtain ⟨plain, rfl, derived⟩ := callee.before
    obtain ⟨plain', rfl, derived'⟩ := arguments.before
    exact ⟨0, e ++ opening :: args ++ [close], .whole (by simp)
      (.call opening_kind close_kind plain plain')
      fun more => .call (derived more) opening_kind (derived' more) close_kind⟩
  | oneArgument _ ih =>
    obtain ⟨k, w, h⟩ := ih
    exact ⟨k, w, h.extend [] rfl rfl (.oneArgument h.plain) fun _ _ => .oneArgument⟩
  | @moreArguments comma _ _ _ _ _ _ kind _ ih ih' =>
    obtain ⟨_, e, argument⟩ := ih
    obtain ⟨k, args, arguments⟩ := ih'
    obtain ⟨plain, rfl, derived⟩ := argument.before
    exact ⟨k, e ++ comma :: args, arguments.extend (e ++ [comma]) (by simp) (by simp)
      (.moreArguments kind plain arguments.plain) fun _ _ => .moreArguments (derived _) kind⟩
  | name kind => exact ⟨0, [_], .whole rfl (.name kind) fun more => .name kind⟩
  | integer kind value_eq =>
    exact ⟨0, [_], .whole rfl (.integer kind (by rw [value_eq]; rfl))
      fun more => .integer kind value_eq⟩
  | true_ kind => exact ⟨0, [_], .whole rfl (.true_ kind) fun more => .true_ kind⟩
  | false_ kind => exact ⟨0, [_], .whole rfl (.false_ kind) fun more => .false_ kind⟩
  | @group opening close _ _ _ opening_kind _ close_kind ih =>
    obtain ⟨_, e, inner⟩ := ih
    obtain ⟨plain, rfl, derived⟩ := inner.before
    exact ⟨0, opening :: e ++ [close], .whole (by simp) (.group opening_kind close_kind plain)
      fun more => .group opening_kind (derived more) close_kind⟩
  | @ifThen t opening close _ _ _ _ _ kind opening_kind _ close_kind _ ih ih' =>
    obtain ⟨_, e, condition⟩ := ih
    obtain ⟨k, b, consequence⟩ := ih'
    obtain ⟨plain, rfl, derived⟩ := condition.before
    exact ⟨k, t :: opening :: e ++ close :: b, consequence.extend (t :: opening :: e ++ [close])
      (by simp) (by simp) (.ifThen kind opening_kind close_kind plain consequence.plain)
      fun _ _ => .ifThen kind opening_kind (derived _) close_kind⟩
  | @ifThenElse t opening close otherwise _ _ _ _ _ _ _ kind opening_kind _ close_kind _
      otherwise_kind _ ih ih' ih'' =>
    obtain ⟨_, e, condition⟩ := ih
    obtain ⟨_, b, consequence⟩ := ih'
    obtain ⟨k, a, alternative⟩ := ih''
    obtain ⟨plain, rfl, derived⟩ := condition.before
    obtain ⟨plain', rfl, derived'⟩ := consequence.before
    exact ⟨k, t :: opening :: e ++ close :: b ++ otherwise :: a,
      alternative.extend (t :: opening :: e ++ close :: b ++ [otherwise]) (by simp) (by simp)
      (.ifThenElse kind opening_kind close_kind otherwise_kind plain plain' alternative.plain)
      fun _ _ => .ifThenElse kind opening_kind (derived _) close_kind (derived' _) otherwise_kind⟩
  | @function t _ _ _ _ _ kind parameters _ ih =>
    obtain ⟨k, b, body⟩ := ih
    obtain ⟨opening, names, close, opening_kind, close_kind, plain, rfl, derived⟩ :=
      parameters.plain
    exact ⟨k, t :: opening :: names ++ close :: b, body.extend (t :: opening :: names ++ [close])
      (by simp) (by simp) (.function kind opening_kind close_kind plain body.plain)
      fun _ _ => .function kind (derived _)⟩
  | @closedBlock opening close _ _ _ opening_kind _ close_kind ih =>
    obtain ⟨_, ss, body⟩ := ih
    obtain ⟨plain, rfl, derived⟩ := body.before
    exact ⟨0, opening :: ss ++ [close], .whole (by simp) (.block opening_kind close_kind plain)
      fun more => .closedBlock opening_kind (derived more) close_kind⟩
  | @openBlock opening ts _ opening_kind _ ih =>
    -- one more brace, behind those of the body
    obtain ⟨k, ss, body⟩ := ih
    have brace : (Token.symbol '}').kind = .rbrace := rfl
    refine ⟨k + 1, opening :: ss ++ [.symbol '}'], absurd rfl,
      .block opening_kind brace body.plain, ?_, fun more _ => ?_⟩
    · have text := body.text
      rw [List.append_nil] at text
      rw [closingBraces_succ', ← text]
      simp
    · rw [closingBraces_succ', List.append_assoc]
      have closer : Closer (.symbol '}' :: more) := ⟨by simp [brace], by simp [brace]⟩
      exact .closedBlock opening_kind (body.derived _ fun _ => closer) brace
  | @noStatements ts => exact ⟨0, [], .whole rfl .noStatements fun more => .noStatements⟩
  | @moreStatements ts mid rest s ss _ statements ih ih' =>
    obtain ⟨k, w, statement⟩ := ih
    cases mid with
    | nil =>
      -- the braces are those of the last statement
      obtain ⟨rfl, rfl⟩ := statements.statements_nil
      refine ⟨k, w ++ [], statement.closed, .moreStatements statement.plain .noStatements, ?_,
        fun more closer => ?_⟩
      · rw [statement.text, List.append_nil, List.append_nil]
      · exact .moreStatements (statement.derived more closer) .noStatements
    | cons t mid =>
      obtain ⟨k', w', more_statements⟩ := ih'
      obtain ⟨plain, rfl, derived⟩ := statement.before
      exact ⟨k', w ++ w', more_statements.extend w rfl rfl
        (.moreStatements plain more_statements.plain) fun _ _ => .moreStatements (derived _)⟩
  | @let_ t name assign _ _ _ _ kind name_kind assign_kind _ ends ih =>
    obtain ⟨k, w, value⟩ := ih
    exact ⟨k, value.ended ends [t, name, assign] rfl
      (fun _ => .let_ kind name_kind assign_kind value.plain)
      fun _ _ _ => .let_ kind name_kind assign_kind⟩
  | @return_ t _ _ _ _ kind _ ends ih =>
    obtain ⟨k, w, value⟩ := ih
    exact ⟨k, value.ended ends [t] rfl (fun _ => .return_ kind value.plain)
      fun _ _ _ => .return_ kind⟩
  | expr _ ends ih =>
    obtain ⟨k, w, value⟩ := ih
    exact ⟨k, value.ended ends [] rfl (fun _ => .expr value.plain) fun _ _ _ => .expr⟩

/-! ## Programs -/

theorem eofless_append_closingBraces {ts : List Token} (eofless : Eofless ts) (k : Nat) :
    Eofless (ts ++ closingBraces k) := by
  intro t ht
  obtain ht | ht := List.mem_append.mp ht
  · exact eofless t ht
  · obtain rfl := List.eq_of_mem_replicate ht
    decide

/-- A program can be closed by braces to one of the same tree, in both grammars. -/
theorem DerivesProgram.closes {ts : List Token} {p : Program} (h : DerivesProgram ts p) :
    ∃ k, Plain .statements (ts ++ closingBraces k) ∧ DerivesProgram (ts ++ closingBraces k) p := by
  obtain ⟨k, w, closes⟩ := Derives.closes h
  have text := closes.text
  have derived := closes.derived [] fun _ => ⟨by decide, by decide⟩
  rw [List.append_nil] at text derived
  exact ⟨k, text ▸ closes.plain, derived⟩

/-- A source has no errors exactly when its tokens, with some braces after them, are statements of
the plain grammar. With these braces it has the same tree and no errors. -/
theorem errors_eq_nil_iff_plain (source : String) :
    ((parse source).errors = [] ↔ ∃ k, Plain .statements (tokens source ++ closingBraces k)) ∧
      ∀ k, Plain .statements (tokens source ++ closingBraces k) →
        (parse (appendBraces source k)).errors = [] ∧
          (parse (appendBraces source k)).value = (parse source).value := by
  have eofless := eofless_tokens source
  have closes : (parse source).errors = [] → ∃ k,
      Plain .statements (tokens source ++ closingBraces k) ∧
        DerivesProgram (tokens source ++ closingBraces k) (parse source).value := fun clean =>
    ((parseTokens_eq_iff eofless _).mp ⟨rfl, clean⟩).closes
  refine ⟨⟨fun clean => ?_, fun ⟨_, plain⟩ => plain.errors_eq_nil⟩, fun k plain => ?_⟩
  · obtain ⟨k, plain, -⟩ := closes clean
    exact ⟨k, plain⟩
  · obtain ⟨k', plain', derived⟩ := closes plain.errors_eq_nil
    -- the braces of the derivation are the given ones
    obtain rfl := plain.closingBraces_unique plain'
    rw [parse, tokens_appendBraces]
    exact ((parseTokens_eq_iff (eofless_append_closingBraces eofless k) _).mpr derived).symm

/-- A name, a name in parentheses and a conditional that is not closed. -/
def openConditional : List Token :=
  [nameX, .symbol '(', nameX, .symbol ')', .word "if", .symbol '(', nameX, .symbol ')',
    .symbol '{', nameX]

theorem tokens_openConditional : tokens (spell openConditional) = openConditional :=
  tokens_spell_of_whole (by decide)

/-- In the plain grammar these can be three statements, though a reader finds a call and a
conditional. -/
theorem plain_openConditional : Plain .statements (openConditional ++ closingBraces 1) := by
  have name : Plain .expression [nameX] := .name rfl
  have group : Plain .expression [.symbol '(', nameX, .symbol ')'] := .group rfl rfl name
  have body : Plain .block [.symbol '{', nameX, .symbol '}'] :=
    .block rfl rfl (.moreStatements (.expr name (.inl rfl)) .noStatements)
  have conditional : Plain .expression [.word "if", .symbol '(', nameX, .symbol ')', .symbol '{',
      nameX, .symbol '}'] := .ifThen rfl rfl rfl name body
  have last := Plain.moreStatements (.expr conditional (.inl rfl)) .noStatements
  have parenthesized := Plain.moreStatements (.expr group (.inl rfl)) last
  have statements := Plain.moreStatements (.expr name (.inl rfl)) parenthesized
  exact statements

theorem errors_eq_nil_openConditional :
    Plain .statements (tokens (spell openConditional) ++ closingBraces 1) ∧
      (parse (spell openConditional)).errors = [] ∧
      (parse (appendBraces (spell openConditional) 1)).errors = [] ∧
      (parse (appendBraces (spell openConditional) 1)).value =
        (parse (spell openConditional)).value := by
  have plain : Plain .statements (tokens (spell openConditional) ++ closingBraces 1) := by
    rw [tokens_openConditional]
    exact plain_openConditional
  obtain ⟨accepts, closes⟩ := errors_eq_nil_iff_plain (spell openConditional)
  exact ⟨plain, accepts.mpr ⟨1, plain⟩, closes 1 plain⟩

end LetFn
