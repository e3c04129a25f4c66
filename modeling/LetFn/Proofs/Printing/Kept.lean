import LetFn.Proofs.Plain.Closing
import LetFn.Proofs.Printing.RoundTrip
import LetFn.Proofs.Reading.Nodes
import LetFn.Render

/-!
# What printing keeps of a source

A printed program has other parentheses and semicolons than its source, and no block of it is open.
All other tokens are those of the source, in the order of the source (`kept_tokens_text`).

For a phrase before another token this is an induction on its derivation, one case a rule: the
tokens of the phrase are the printed ones, those apart that are not kept (`Derives.kept_printed`).
A whole program need not stand before a token. So its blocks are closed first, by braces that the
printed program has too.
-/

namespace LetFn

/-- Parentheses and semicolons, which print sets where it needs them. -/
def Kind.isLoose : Kind → Bool
  | lparen | rparen | semicolon => true
  | _ => false

/-- The tokens without parentheses and semicolons. -/
def kept (ts : List Token) : List Token := ts.filter fun t => !t.kind.isLoose

@[simp] theorem kept_nil : kept [] = [] := rfl

@[simp] theorem kept_append (ts us : List Token) : kept (ts ++ us) = kept ts ++ kept us :=
  List.filter_append ts us

theorem kept_cons {t : Token} {k : Kind} {ts : List Token} (kind : t.kind = k)
    (strict : k.isLoose = false := by rfl) : kept (t :: ts) = t :: kept ts :=
  List.filter_cons_of_pos (by simp [kind, strict])

theorem kept_cons_of_loose {t : Token} {k : Kind} {ts : List Token} (kind : t.kind = k)
    (loose : k.isLoose = true := by rfl) : kept (t :: ts) = kept ts :=
  List.filter_cons_of_neg (by simp [kind, loose])

@[simp] theorem kept_lparen (ts : List Token) : kept (.symbol '(' :: ts) = kept ts :=
  kept_cons_of_loose rfl rfl

@[simp] theorem kept_rparen (ts : List Token) : kept (.symbol ')' :: ts) = kept ts :=
  kept_cons_of_loose rfl rfl

@[simp] theorem kept_semicolon (ts : List Token) : kept (.symbol ';' :: ts) = kept ts :=
  kept_cons_of_loose rfl rfl

@[simp] theorem kept_lbrace (ts : List Token) :
    kept (.symbol '{' :: ts) = .symbol '{' :: kept ts := kept_cons (k := .lbrace) rfl rfl

@[simp] theorem kept_rbrace (ts : List Token) :
    kept (.symbol '}' :: ts) = .symbol '}' :: kept ts := kept_cons (k := .rbrace) rfl rfl

@[simp] theorem kept_assign (ts : List Token) :
    kept (.symbol '=' :: ts) = .symbol '=' :: kept ts := kept_cons (k := .assign) rfl rfl

theorem kept_closingBraces (k : Nat) : kept (closingBraces k) = closingBraces k := by
  induction k with
  | zero => rfl
  | succ k ih => rw [closingBraces_succ, kept_rbrace, ih]

/-! ## Tokens and their spellings -/

@[simp] theorem Spelt.nil : Spelt [] := by simp [Spelt]

@[simp] theorem spelt_cons {t : Token} {ts : List Token} :
    Spelt (t :: ts) ↔ t.Spelled ∧ Spelt ts := List.forall_mem_cons

@[simp] theorem spelt_append {ts us : List Token} : Spelt (ts ++ us) ↔ Spelt ts ∧ Spelt us :=
  List.forall_mem_append

theorem spelt_closingBraces (k : Nat) : Spelt (closingBraces k) := by
  intro t ht
  obtain rfl := List.eq_of_mem_replicate ht
  exact .symbol rfl rfl rfl

namespace Token.Spelled

variable {t : Token}

theorem word_literal (h : t.Spelled) (kind : t.kind = .ident) : .word t.literal = t :=
  (h.agrees kind).1.symm

theorem unary_token (h : t.Spelled) {op : UnaryOp} (kind : t.kind = op.kind) : op.token = t := by
  cases op <;> exact (h.eq_of_kind kind).symm

theorem binary_token (h : t.Spelled) {op : BinaryOp} (kind : t.kind = op.kind) :
    op.token = t := by
  cases op <;> exact (h.eq_of_kind kind).symm

end Token.Spelled

@[simp] theorem kept_word (w : String) (ts : List Token) :
    kept (.word w :: ts) = .word w :: kept ts := by
  refine kept_cons (k := Kind.ofWord w) rfl ?_
  unfold Kind.ofWord
  split <;> rfl

@[simp] theorem kept_unary (op : UnaryOp) (ts : List Token) :
    kept (op.token :: ts) = op.token :: kept ts :=
  kept_cons op.kind_token (by cases op <;> rfl)

@[simp] theorem kept_binary (op : BinaryOp) (ts : List Token) :
    kept (op.token :: ts) = op.token :: kept ts :=
  kept_cons op.kind_token (by cases op <;> rfl)

/-! ## Pieces of a phrase -/

/-- The tokens before the rest are the printed ones, those apart that are not kept. -/
def KeptBefore (ts printed rest : List Token) : Prop :=
  ∃ w, ts = w ++ rest ∧ (Spelt w → kept printed = kept w)

namespace KeptBefore

variable {ts mid rest p q : List Token} {t u : Token}

theorem nil : KeptBefore rest [] rest := ⟨[], rfl, fun _ => rfl⟩

theorem append (h : KeptBefore ts p mid) (h' : KeptBefore mid q rest) :
    KeptBefore ts (p ++ q) rest := by
  obtain ⟨w, rfl, first⟩ := h
  obtain ⟨w', rfl, second⟩ := h'
  refine ⟨w ++ w', (List.append_assoc w w' rest).symm, fun spelt => ?_⟩
  obtain ⟨hw, hw'⟩ := spelt_append.mp spelt
  rw [kept_append, kept_append, first hw, second hw']

/-- A token that is printed as it is. -/
theorem token (h : KeptBefore ts p rest) (same : t.Spelled → u = t) :
    KeptBefore (t :: ts) (u :: p) rest := by
  obtain ⟨w, rfl, printed⟩ := h
  refine ⟨t :: w, rfl, fun spelt => ?_⟩
  obtain ⟨ht, hw⟩ := spelt_cons.mp spelt
  rw [same ht, ← List.singleton_append, ← @List.singleton_append _ t w, kept_append, kept_append,
    printed hw]

/-- A keyword is printed as it is. -/
theorem word {k : Kind} (w : String) (h : KeptBefore ts p rest) (kind : t.kind = k)
    (spelling : k.spelling? = some w := by rfl) (ofWord : Kind.ofWord w = k := by rfl) :
    KeptBefore (t :: ts) (.word w :: p) rest := by
  refine h.token fun ht => ?_
  rw [ht.eq_of_kind kind spelling, Token.word, ofWord]

/-- A mark is printed as it is. -/
theorem mark {k : Kind} (c : Char) (h : KeptBefore ts p rest) (kind : t.kind = k)
    (spelling : k.spelling? = some (String.singleton c) := by rfl)
    (ofChar : Kind.ofChar c = k := by rfl) : KeptBefore (t :: ts) (.symbol c :: p) rest := by
  refine h.token fun ht => ?_
  rw [ht.eq_of_kind kind spelling, Token.symbol, ofChar]

/-- A token that is not kept. -/
theorem loose {k : Kind} (h : KeptBefore ts p rest) (kind : t.kind = k)
    (loose : k.isLoose = true := by rfl) : KeptBefore (t :: ts) p rest := by
  obtain ⟨w, rfl, printed⟩ := h
  refine ⟨t :: w, rfl, fun spelt => ?_⟩
  rw [kept_cons_of_loose kind loose, printed (spelt_cons.mp spelt).2]

theorem congr (h : KeptBefore ts p rest) (same : kept q = kept p) : KeptBefore ts q rest := by
  obtain ⟨w, text, printed⟩ := h
  exact ⟨w, text, fun spelt => same.trans (printed spelt)⟩

end KeptBefore

open KeptBefore

theorem separated_cons {a : List Token} {lists : List (List Token)} (h : lists ≠ []) :
    separated (a :: lists) = a ++ .symbol ',' :: separated lists := by
  obtain ⟨b, lists, rfl⟩ := List.exists_cons_of_ne_nil h
  exact separated_cons_cons a b lists

theorem DerivesNames.ne_nil {ts rest : List Token} {names : List Ident}
    (h : DerivesNames ts names rest) : names ≠ [] := by
  cases h <;> exact List.cons_ne_nil _ _

theorem DerivesNames.kept_printed {ts rest : List Token} {names : List Ident}
    (h : DerivesNames ts names rest) :
    KeptBefore ts (separated (names.map fun i => [.word i.name])) rest := by
  induction h with
  | one name => exact nil.token fun ht => ht.word_literal name
  | more name comma_kind derived ih =>
    refine ((ih.mark ',' comma_kind).token fun ht => ht.word_literal name).congr ?_
    rw [List.map_cons, separated_cons (by simpa using derived.ne_nil)]
    rfl

theorem DerivesParameters.kept_printed {ts rest : List Token} {names : List Ident}
    (h : DerivesParameters ts names rest) :
    KeptBefore ts (separated (names.map fun i => [.word i.name])) rest := by
  cases h with
  | empty opening_kind close_kind => exact (nil.loose close_kind).loose opening_kind
  | list opening_kind names close_kind =>
    refine ((names.kept_printed.append (nil.loose close_kind)).loose opening_kind).congr ?_
    rw [List.append_nil]

/-- A semicolon is not kept. -/
theorem EndsStatement.kept {mid rest : List Token} (h : EndsStatement mid rest) :
    KeptBefore mid [] rest := by
  cases h with
  | semicolon kind => exact nil.loose kind
  | omitted => exact nil

theorem EndsStatement.ne_nil {mid rest : List Token} (h : EndsStatement mid rest)
    (some : rest ≠ []) : mid ≠ [] := by
  cases h with
  | semicolon => exact List.cons_ne_nil _ _
  | omitted => exact some

/-! ## Phrases -/

/-- The tokens that the tree of a phrase is printed with. -/
def Phrase.printed : (phrase : Phrase) → phrase.Tree → List Token
  | level _, e | primary, e => Expr.printed e
  | arguments, es => separated (Expr.printedAll es)
  | block, b => Block.printed b
  | statements, ss => Stmt.printedAll ss
  | statement, s => Stmt.printed s

variable {phrase : Phrase} {ts rest : List Token} {v : phrase.Tree}

theorem Derives.arguments_ne_nil {args : List Expr} (h : Derives .arguments ts args rest) :
    args ≠ [] := by
  cases h <;> exact List.cons_ne_nil _ _

theorem Derives.mid_ne_nil {mid : List Token} {ss : List Stmt}
    (h : Derives .statements mid ss rest) (some : rest ≠ []) : mid ≠ [] := by
  rintro rfl
  exact some h.statements_nil.2

/-- A phrase before a token is printed with its own tokens, as far as they are kept. -/
theorem Derives.kept_printed (h : Derives phrase ts v rest) : rest ≠ [] →
    KeptBefore ts (phrase.printed v) rest := by
  induction h with
  | tighter _ ih | primary _ ih => exact ih
  | binary _ kind _ _ ih ih' =>
    intro some
    refine ((ih (by simp)).append ((ih' some).token fun ht => ht.binary_token kind)).congr ?_
    simp [Phrase.printed, Expr.printed]
  | unary kind _ ih =>
    intro some
    refine ((ih some).token fun ht => ht.unary_token kind).congr ?_
    simp [Phrase.printed, Expr.printed]
  | emptyCall _ opening_kind close_kind ih =>
    intro _
    refine ((ih (by simp)).append ((nil.loose close_kind).loose opening_kind)).congr ?_
    simp [Phrase.printed, Expr.printed, Expr.printedAll, separated]
  | call _ opening_kind _ close_kind ih ih' =>
    intro _
    have arguments := (ih' (by simp)).append (nil.loose close_kind)
    refine ((ih (by simp)).append (arguments.loose opening_kind)).congr ?_
    simp [Phrase.printed, Expr.printed]
  | oneArgument _ ih =>
    intro some
    refine (ih some).congr ?_
    simp [Phrase.printed, Expr.printedAll, separated]
  | @moreArguments _ _ _ _ _ args _ kind arguments ih ih' =>
    intro some
    refine ((ih (by simp)).append ((ih' some).mark ',' kind)).congr ?_
    have some_printed : Expr.printedAll args ≠ [] := by
      simpa [Expr.printedAll_eq_map] using arguments.arguments_ne_nil
    simp only [Phrase.printed, Expr.printedAll, separated_cons some_printed]
  | name kind => exact fun _ => nil.token fun ht => ht.word_literal kind
  | integer kind => exact fun _ => nil.token fun _ => congrArg (Token.mk · _) kind.symm
  | true_ kind => exact fun _ => nil.word "true" kind
  | false_ kind => exact fun _ => nil.word "false" kind
  | group opening_kind _ close_kind ih =>
    intro _
    refine (((ih (by simp)).append (nil.loose close_kind)).loose opening_kind).congr ?_
    simp [Phrase.printed]
  | ifThen kind opening_kind _ close_kind _ ih ih' =>
    intro some
    have condition := (ih (by simp)).append ((ih' some).loose close_kind)
    refine ((condition.loose opening_kind).word "if" kind).congr ?_
    simp [Phrase.printed, Expr.printed]
  | ifThenElse kind opening_kind _ close_kind _ otherwise_kind _ ih ih' ih'' =>
    intro some
    have alternative := (ih'' some).word "else" otherwise_kind
    have consequence := ((ih' (by simp)).append alternative).loose close_kind
    refine ((((ih (by simp)).append consequence).loose opening_kind).word "if" kind).congr ?_
    simp [Phrase.printed, Expr.printed]
  | function kind parameters _ ih =>
    intro some
    refine ((parameters.kept_printed.append (ih some)).word "fn" kind).congr ?_
    simp [Phrase.printed, Expr.printed]
  | closedBlock opening_kind _ close_kind ih =>
    intro _
    have body := (ih (by simp)).append (nil.mark '}' close_kind)
    refine (body.mark '{' opening_kind).congr ?_
    simp [Phrase.printed, Block.printed]
  | openBlock => exact fun some => absurd rfl some
  | noStatements => exact fun _ => nil
  | moreStatements _ statements ih ih' =>
    intro some
    exact (ih (statements.mid_ne_nil some)).append (ih' some)
  | let_ kind name_kind assign_kind _ ends ih =>
    intro some
    have value := ((ih (ends.ne_nil some)).append ends.kept).mark '=' assign_kind
    refine ((value.token fun ht => ht.word_literal name_kind).word "let" kind).congr ?_
    simp [Phrase.printed, Stmt.printed]
  | return_ kind _ ends ih =>
    intro some
    refine (((ih (ends.ne_nil some)).append ends.kept).word "return" kind).congr ?_
    simp [Phrase.printed, Stmt.printed]
  | expr _ ends ih =>
    intro some
    refine ((ih (ends.ne_nil some)).append ends.kept).congr ?_
    simp [Phrase.printed, Stmt.printed]

/-! ## Programs -/

/-- A rendered program has the tokens of its source, parentheses and semicolons apart, and at its
end the braces of the blocks that the source leaves open. -/
theorem kept_tokens_text (source : String) (clean : (parse source).errors = []) :
    ∃ out unclosed, render .tree source = .ok out ∧ out = (parse source).value.text ∧
      countKind .lbrace (tokens source) = countKind .rbrace (tokens source) + unclosed ∧
      kept (tokens out) = kept (tokens source) ++ closingBraces unclosed := by
  have derived := derivesProgram_parse clean
  obtain ⟨unclosed, w, closes⟩ := Derives.closes derived
  have text := closes.text
  rw [List.append_nil] at text
  subst text
  refine ⟨_, unclosed, if_pos clean, rfl, ?_, ?_⟩
  · have braces := closes.plain.braces
    simp only [countKind_append, countKind_closingBraces] at braces
    omega
  · -- closed, the statements stand before any further brace
    have derived := closes.derived [.symbol '}'] fun _ => ⟨by decide, by decide⟩
    obtain ⟨w, text, printed⟩ := derived.kept_printed (by simp)
    rw [← List.append_assoc, List.nil_append] at text
    obtain rfl := List.append_cancel_right text
    have spelt : Spelt (tokens source ++ closingBraces unclosed) :=
      spelt_append.mpr ⟨spelt_tokens source, spelt_closingBraces unclosed⟩
    have same := printed spelt
    rw [kept_append, kept_closingBraces] at same
    rw [(parse source).value.tokens_text (printable_parse source)]
    exact same

theorem kept_tokens_openConditional : (parse (spell openConditional)).errors = [] ∧
    ∃ out unclosed, render .tree (spell openConditional) = .ok out ∧
      out = (parse (spell openConditional)).value.text ∧
      countKind .lbrace (tokens (spell openConditional)) =
        countKind .rbrace (tokens (spell openConditional)) + unclosed ∧
      kept (tokens out) = kept (tokens (spell openConditional)) ++ closingBraces unclosed := by
  have clean : (parse (spell openConditional)).errors = [] := by
    rw [parse, tokens_openConditional]
    decide
  exact ⟨clean, kept_tokens_text (spell openConditional) clean⟩

end LetFn
