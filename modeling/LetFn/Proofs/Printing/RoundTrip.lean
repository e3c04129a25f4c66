import LetFn.Proofs.Grammar.Complete
import LetFn.Proofs.Printing.Scan

/-!
# Reading a printed tree back

A printed tree without holes is read back without an error, as the same tree up to the tokens it
keeps (`parse_text`).

By scanning, the text is the list of printed tokens; by completeness of the parser for the grammar
it is enough to derive this list. A printed expression is a call, an operand or something between
parentheses, so it derives on the tightest level, from where it goes wherever an expression can
stand. Every printed statement has its semicolon and every printed block its closing brace, so
nothing depends on what follows.
-/

namespace LetFn

@[simp] theorem UnaryOp.kind_token (op : UnaryOp) : op.token.kind = op.kind := by
  cases op <;> rfl

@[simp] theorem BinaryOp.kind_token (op : BinaryOp) : op.token.kind = op.kind := by
  cases op <;> rfl

theorem separated_cons_cons (a b : List Token) (lists : List (List Token)) :
    separated (a :: b :: lists) = a ++ .symbol ',' :: separated (b :: lists) := by
  simp [separated, List.intercalate_cons_cons]

/-- Where commas are left out the lists follow each other. -/
theorem filter_separated {p : Token → Bool} (comma : p (.symbol ',') = false)
    (lists : List (List Token)) : (separated lists).filter p = lists.flatten.filter p := by
  induction lists with
  | nil => rfl
  | cons a lists ih =>
    cases lists with
    | nil => simp [separated]
    | cons b lists =>
      rw [List.flatten_cons, separated_cons_cons, List.filter_append, List.filter_append,
        List.filter_cons_of_neg (by simp [comma]), ih]

theorem derivesNames_printed : ∀ {i : Ident} {is : List Ident}, (∀ j ∈ i :: is, IsName j.name) →
    ∀ rest, DerivesNames (separated ((i :: is).map fun j => [.word j.name]) ++ rest)
      ((i :: is).map Ident.respell) rest
  | i, [], names => by
    intro rest
    have name := (names i (by simp)).ident
    exact .one name
  | i, j :: is, names => by
    intro rest
    have name := (names i (by simp)).ident
    have more := derivesNames_printed (fun k hk => names k (List.mem_cons_of_mem i hk)) rest
    simp only [List.map_cons, separated_cons_cons] at more ⊢
    exact .more name rfl more

theorem derivesParameters_printed {is : List Ident} (names : ∀ i ∈ is, IsName i.name)
    (rest : List Token) :
    DerivesParameters (.symbol '(' :: (separated (is.map fun i => [.word i.name]) ++
      .symbol ')' :: rest)) (is.map Ident.respell) rest := by
  cases is with
  | nil => exact .empty rfl rfl
  | cons i is => exact .list rfl (derivesNames_printed names _) rfl

theorem Expr.printed_ne_nil : ∀ e : Expr, e.printed ≠ []
  | .bool _ true | .bool _ false => by simp [printed]
  | .hole | .ident _ | .int _ _ | .unary .. | .binary .. => by simp [printed]
  | .ifThen .. | .ifThenElse .. | .function .. | .call .. => by simp [printed]

/-- Something between parentheses is an operand. -/
theorem Derives.parenthesized {k : Precedence} {ts rest : List Token} {e : Expr}
    (h : Derives (.level k) ts e (.symbol ')' :: rest)) (hk : Precedence.equality.rank ≤ k.rank) :
    Derives (.level .call) (.symbol '(' :: ts) e rest :=
  .primary (.group rfl (h.loosen hk) rfl)

mutual

/-- A printed expression without holes is one of the tightest level. -/
theorem Expr.derives_printed : ∀ e : Expr, e.Printable → e.holes = 0 → ∀ rest,
    Derives (.level .call) (e.printed ++ rest) e.respell rest
  | .ident _, printable, _ => fun _ => .primary (.name printable.ident)
  | .int _ _, printable, _ => fun _ => .primary (.integer rfl printable.value_eq)
  | .bool _ true, _, _ => fun _ => .primary (.true_ rfl)
  | .bool _ false, _, _ => fun _ => .primary (.false_ rfl)
  | .unary _ op e, printable, complete => by
    intro rest
    have operand := e.derives_printed printable complete (.symbol ')' :: rest)
    have inner := Derives.unary op.kind_token (operand.loosen (by decide))
    simpa [Expr.printed, Expr.respell] using inner.parenthesized (by decide)
  | .binary _ op l r, printable, complete => by
    intro rest
    obtain ⟨hl, hr⟩ := Nat.add_eq_zero_iff.mp complete
    have right := r.derives_printed printable.2 hr (.symbol ')' :: rest)
    have left := l.derives_printed printable.1 hl
      (op.token :: (r.printed ++ .symbol ')' :: rest))
    have inner := Derives.binary (BinaryOp.mem_operators.mpr rfl) op.kind_token
      (left.loosen (Precedence.rank_le_call _)) (right.loosen (Precedence.rank_le_call _))
    have tight : Precedence.equality.rank ≤ op.precedence.rank := by cases op <;> decide
    simpa [Expr.printed, Expr.respell] using inner.parenthesized tight
  | .ifThen _ c b, printable, complete => by
    intro rest
    obtain ⟨hc, hb⟩ := Nat.add_eq_zero_iff.mp complete
    have consequence := b.derives_printed printable.2 hb rest
    have condition := c.derives_printed printable.1 hc (.symbol ')' :: (b.printed ++ rest))
    have whole := @Derives.ifThen (.word "if") (.symbol '(') _ _ _ _ _ _ rfl rfl
      (condition.loosen (by decide)) rfl consequence
    simpa [Expr.printed, Expr.respell] using Derives.primary whole
  | .ifThenElse _ c b a, printable, complete => by
    intro rest
    obtain ⟨hcb, ha⟩ := Nat.add_eq_zero_iff.mp complete
    obtain ⟨hc, hb⟩ := Nat.add_eq_zero_iff.mp hcb
    have alternative := a.derives_printed printable.2.2 ha rest
    have consequence := b.derives_printed printable.2.1 hb (.word "else" :: (a.printed ++ rest))
    have condition := c.derives_printed printable.1 hc
      (.symbol ')' :: (b.printed ++ .word "else" :: (a.printed ++ rest)))
    have whole := @Derives.ifThenElse (.word "if") (.symbol '(') _ _ _ _ _ _ _ _ _ rfl rfl
      (condition.loosen (by decide)) rfl consequence rfl alternative
    simpa [Expr.printed, Expr.respell] using Derives.primary whole
  | .function _ ps b, printable, complete => by
    intro rest
    have body := b.derives_printed printable.2 complete rest
    have parameters := derivesParameters_printed printable.1 (b.printed ++ rest)
    have whole := Derives.function (t := .word "fn") rfl parameters body
    simpa [Expr.printed, Expr.respell] using Derives.primary whole
  | .call _ f [], printable, complete => by
    intro rest
    have callee := f.derives_printed printable.1 complete (.symbol '(' :: .symbol ')' :: rest)
    simpa [Expr.printed, Expr.printedAll, separated, Expr.respell, Expr.respellAll]
      using callee.emptyCall rfl rfl
  | .call _ f (e :: es), printable, complete => by
    intro rest
    obtain ⟨hf, he⟩ := Nat.add_eq_zero_iff.mp complete
    have arguments :=
      Expr.derives_printedAll (e :: es) (by simp) printable.2 he (.symbol ')' :: rest)
    have callee := f.derives_printed printable.1 hf
      (.symbol '(' :: (separated (Expr.printedAll (e :: es)) ++ .symbol ')' :: rest))
    simpa [Expr.printed, Expr.respell] using callee.call rfl arguments rfl

/-- Printed expressions with commas between them are the arguments of a call. -/
theorem Expr.derives_printedAll : ∀ es : List Expr, es ≠ [] → Expr.AllPrintable es →
    Expr.holesAll es = 0 → ∀ rest, Derives .arguments
      (separated (Expr.printedAll es) ++ rest) (Expr.respellAll es) rest
  | [], nonempty, _, _ => absurd rfl nonempty
  | [e], _, printable, complete => by
    intro rest
    have argument := e.derives_printed printable.1 complete rest
    simpa [Expr.printedAll, separated, Expr.respellAll]
      using Derives.oneArgument (argument.loosen (by decide))
  | e :: f :: es, _, printable, complete => by
    intro rest
    obtain ⟨he, hes⟩ := Nat.add_eq_zero_iff.mp complete
    have arguments := Expr.derives_printedAll (f :: es) (by simp) printable.2 hes rest
    have argument := e.derives_printed printable.1 he
      (.symbol ',' :: (separated (Expr.printedAll (f :: es)) ++ rest))
    rw [Expr.printedAll, Expr.printedAll, separated_cons_cons, List.append_assoc, List.cons_append]
    exact .moreArguments (argument.loosen (by decide)) rfl arguments

theorem Stmt.derives_printed : ∀ s : Stmt, s.Printable → s.holes = 0 → ∀ rest,
    Derives .statement (s.printed ++ rest) s.respell rest
  | .let_ _ n v, printable, complete => by
    intro rest
    have value := v.derives_printed printable.2 complete (.symbol ';' :: rest)
    have whole := @Derives.let_ (.word "let") (.word n.name) (.symbol '=') _ _ _ _ rfl
      printable.1.ident rfl (value.loosen (by decide)) (.semicolon rfl)
    simpa [Stmt.printed, Stmt.respell, Ident.respell, Token.word] using whole
  | .return_ _ v, printable, complete => by
    intro rest
    have value := v.derives_printed printable complete (.symbol ';' :: rest)
    have whole := Derives.return_ (t := .word "return") rfl (value.loosen (by decide))
      (.semicolon rfl)
    simpa [Stmt.printed, Stmt.respell] using whole
  | .expr _ v, printable, complete => by
    intro rest
    have value := v.derives_printed printable complete (.symbol ';' :: rest)
    obtain ⟨t, ts, hts⟩ := List.exists_cons_of_ne_nil v.printed_ne_nil
    rw [hts] at value
    have whole := Derives.expr (value.loosen (by decide)) (.semicolon rfl)
    simpa [Stmt.printed, Stmt.respell, hts] using whole

theorem Stmt.derives_printedAll : ∀ ss : List Stmt, Stmt.AllPrintable ss → Stmt.holesAll ss = 0 →
    ∀ rest, Derives .statements (Stmt.printedAll ss ++ rest) (Stmt.respellAll ss) rest
  | [], _, _ => fun _ => .noStatements
  | s :: ss, printable, complete => by
    intro rest
    obtain ⟨hs, hss⟩ := Nat.add_eq_zero_iff.mp complete
    have statements := Stmt.derives_printedAll ss printable.2 hss rest
    have statement := s.derives_printed printable.1 hs (Stmt.printedAll ss ++ rest)
    rw [Stmt.printedAll, List.append_assoc]
    exact .moreStatements statement statements

theorem Block.derives_printed : ∀ b : Block, b.Printable → b.holes = 0 → ∀ rest,
    Derives .block (b.printed ++ rest) b.respell rest
  | ⟨_, ss⟩, printable, complete => by
    intro rest
    have body := Stmt.derives_printedAll ss printable complete (.symbol '}' :: rest)
    simpa [Block.printed, Block.respell]
      using @Derives.closedBlock (.symbol '{') _ _ _ _ rfl body rfl

end

/-! ## Programs -/

/-- The tokens of a printed program without holes are a program of the tree with these tokens. -/
theorem Program.derives_printed (p : Program) (printable : p.Printable) (complete : p.holes = 0) :
    DerivesProgram p.printed p.respell := by
  have statements := Stmt.derives_printedAll p.statements printable complete []
  rwa [List.append_nil] at statements

/-- The text of a program without holes is read back without an error, as the tree with the printed
tokens. -/
theorem parse_text_eq (p : Program) (printable : p.Printable) (complete : p.holes = 0) :
    (parse p.text).value = p.respell ∧ (parse p.text).errors = [] := by
  refine (parseTokens_eq_iff (eofless_tokens p.text) p.respell).mpr ?_
  rw [p.tokens_text printable]
  exact p.derives_printed printable complete

/-- The text of a program without holes is read back without an error, as the same tree up to
tokens. -/
theorem parse_text (p : Program) (printable : p.Printable) (complete : p.holes = 0) :
    (parse p.text).errors = [] ∧ (parse p.text).value.strip = p.strip := by
  obtain ⟨value, errors⟩ := parse_text_eq p printable complete
  exact ⟨errors, by rw [value, p.strip_respell]⟩

/-- A call of a sum, made without a source. -/
def callOfSum : Program :=
  ⟨[.expr Token.eof (.call Token.eof
    (.binary Token.eof .add (.ident ⟨Token.eof, "a"⟩) (.int (.number "07") 7))
    [.bool Token.eof true])]⟩

theorem parse_text_callOfSum :
    callOfSum.Printable ∧ callOfSum.holes = 0 ∧ (parse callOfSum.text).errors = [] ∧
      (parse callOfSum.text).value.strip = callOfSum.strip := by
  have name : IsName "a" := ⟨by simp, by simp [isLetter], rfl⟩
  have numeral : IsNumeral "07" 7 := ⟨by simp, by simp, rfl⟩
  have printable : callOfSum.Printable := ⟨⟨⟨name, numeral⟩, trivial, trivial⟩, trivial⟩
  exact ⟨printable, rfl, parse_text callOfSum printable rfl⟩

end LetFn
