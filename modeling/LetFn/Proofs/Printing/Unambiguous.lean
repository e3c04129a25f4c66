import LetFn.Proofs.Printing.Partial
import LetFn.Proofs.Printing.Reread

/-!
# Printed trees are unambiguous

The text of a tree with holes is not read without an error, but it still tells the tree: trees with
the same text are the same up to tokens, and their integers are spelled in the same way
(`text_unambiguous`).

The parser reads a tree back when its holes are filled with names. A hole becomes the name `hole`,
and every other name gets an underscore in front, so that it is another one (`Expr.fill`). Filling
goes through the printed tokens one by one (`Token.fill`), so it can be done to a text whose tree is
not known; and in the tree that is read the names become holes again (`Expr.unfill`). Together this
is a reader for all printed trees (`Program.readFilled_text`).
-/

namespace LetFn

/-! ## Filling holes -/

/-- The text without its first character. -/
def withoutFirst (s : String) : String := String.ofList s.toList.tail

@[simp] theorem withoutFirst_underscore (s : String) : withoutFirst ("_" ++ s) = s := by
  simp [withoutFirst]

theorem underscore_ne_hole (s : String) : "_" ++ s ≠ "hole" := by
  intro h
  have first := congrArg (·.toList.head?) h
  simp at first

/-- The token with the name `hole` for a hole, and with an underscore before another name. -/
def Token.fill (t : Token) : Token :=
  if t.kind = .ident then ⟨.ident, "_" ++ t.literal⟩
  else if t = .symbol '?' then ⟨.ident, "hole"⟩
  else t

/-- The token that was filled. -/
def Token.unfill (t : Token) : Token :=
  if t.kind ≠ .ident then t
  else if t.literal = "hole" then .symbol '?'
  else ⟨.ident, withoutFirst t.literal⟩

/-- The name with an underscore in front. -/
def Ident.fill (i : Ident) : Ident := ⟨i.token, "_" ++ i.name⟩

/-- The name without its first character. -/
def Ident.unfill (i : Ident) : Ident := ⟨.word (withoutFirst i.name), withoutFirst i.name⟩

mutual

/-- The expression with the name `hole` for its holes, and with an underscore before other names. -/
def Expr.fill : Expr → Expr
  | .hole => .ident ⟨.word "hole", "hole"⟩
  | .ident ident => .ident ident.fill
  | .int token value => .int token value
  | .bool token value => .bool token value
  | .unary token op operand => .unary token op operand.fill
  | .binary token op left right => .binary token op left.fill right.fill
  | .ifThen token condition consequence => .ifThen token condition.fill consequence.fill
  | .ifThenElse token condition consequence alternative =>
    .ifThenElse token condition.fill consequence.fill alternative.fill
  | .function token parameters body => .function token (parameters.map Ident.fill) body.fill
  | .call token callee arguments => .call token callee.fill (Expr.fillAll arguments)

/-- The expressions with the name `hole` for their holes. -/
def Expr.fillAll : List Expr → List Expr
  | [] => []
  | e :: es => e.fill :: Expr.fillAll es

/-- The statement with the name `hole` for its holes. -/
def Stmt.fill : Stmt → Stmt
  | .let_ token name value => .let_ token name.fill value.fill
  | .return_ token value => .return_ token value.fill
  | .expr token value => .expr token value.fill

/-- The statements with the name `hole` for their holes. -/
def Stmt.fillAll : List Stmt → List Stmt
  | [] => []
  | s :: ss => s.fill :: Stmt.fillAll ss

/-- The block with the name `hole` for its holes. -/
def Block.fill : Block → Block
  | ⟨token, statements⟩ => ⟨token, Stmt.fillAll statements⟩

end

/-- The program with the name `hole` for its holes, and with an underscore before other names. -/
def Program.fill (p : Program) : Program := ⟨Stmt.fillAll p.statements⟩

mutual

/-- The expression that was filled. -/
def Expr.unfill : Expr → Expr
  | .hole => .hole
  | .ident ident => if ident.name = "hole" then .hole else .ident ident.unfill
  | .int token value => .int token value
  | .bool token value => .bool token value
  | .unary token op operand => .unary token op operand.unfill
  | .binary token op left right => .binary token op left.unfill right.unfill
  | .ifThen token condition consequence => .ifThen token condition.unfill consequence.unfill
  | .ifThenElse token condition consequence alternative =>
    .ifThenElse token condition.unfill consequence.unfill alternative.unfill
  | .function token parameters body => .function token (parameters.map Ident.unfill) body.unfill
  | .call token callee arguments => .call token callee.unfill (Expr.unfillAll arguments)

/-- The expressions that were filled. -/
def Expr.unfillAll : List Expr → List Expr
  | [] => []
  | e :: es => e.unfill :: Expr.unfillAll es

/-- The statement that was filled. -/
def Stmt.unfill : Stmt → Stmt
  | .let_ token name value => .let_ token name.unfill value.unfill
  | .return_ token value => .return_ token value.unfill
  | .expr token value => .expr token.unfill value.unfill

/-- The statements that were filled. -/
def Stmt.unfillAll : List Stmt → List Stmt
  | [] => []
  | s :: ss => s.unfill :: Stmt.unfillAll ss

/-- The block that was filled. -/
def Block.unfill : Block → Block
  | ⟨token, statements⟩ => ⟨token, Stmt.unfillAll statements⟩

end

/-- The program that was filled. -/
def Program.unfill (p : Program) : Program := ⟨Stmt.unfillAll p.statements⟩

/-! ## Filled tokens -/

@[simp] theorem Token.unfill_fill (t : Token) : t.fill.unfill = t := by
  obtain ⟨k, literal⟩ := t
  unfold fill
  split
  · next name =>
    obtain rfl : k = .ident := name
    simp [unfill, underscore_ne_hole]
  · next other =>
    split
    · next hole => rw [hole]; rfl
    · exact if_pos other

/-- Only names and holes are filled. -/
theorem Token.fill_of_ne {t : Token} (name : t.kind ≠ .ident) (hole : t.kind ≠ .illegal) :
    t.fill = t := by
  rw [fill, if_neg name, if_neg]
  rintro rfl
  exact hole rfl

theorem Token.fill_mark : ∀ c ∈ ['(', ')', '{', '}', ',', ';', '='],
    (Token.symbol c).fill = .symbol c := by
  simp [Token.fill, Token.symbol, Kind.ofChar]

theorem Token.fill_keyword : ∀ w ∈ ["if", "else", "fn", "let", "return", "true", "false"],
    (Token.word w).fill = .word w := by
  simp [Token.fill, Token.word, Token.symbol, Kind.ofWord]

@[simp] theorem Token.fill_number (s : String) : (Token.number s).fill = .number s :=
  fill_of_ne nofun nofun

@[simp] theorem UnaryOp.fill_token (op : UnaryOp) : op.token.fill = op.token := by
  cases op <;> rfl

@[simp] theorem BinaryOp.fill_token (op : BinaryOp) : op.token.fill = op.token := by
  cases op <;> rfl

/-- No keyword begins with an underscore. -/
theorem Kind.ofWord_underscore (s : String) : ofWord ("_" ++ s) = .ident := by
  unfold ofWord
  split
  case h_8 => rfl
  all_goals
    next keyword =>
    have first := congrArg (·.toList.head?) keyword
    simp at first

theorem IsName.fill {name : String} (h : IsName name) : IsName ("_" ++ name) where
  nonempty := by simp
  letters := by simpa [isLetter] using h.letters
  ident := Kind.ofWord_underscore name

theorem isName_hole : IsName "hole" := ⟨by simp, by simp [isLetter], rfl⟩

theorem IsName.fill_word {name : String} (h : IsName name) :
    (Token.word name).fill = .word ("_" ++ name) := by
  rw [Token.fill, Token.word, if_pos h.ident, Token.word, h.fill.ident]

/-- Commas are not filled. -/
theorem map_fill_separated (lists : List (List Token)) :
    (separated lists).map Token.fill = separated (lists.map (List.map Token.fill)) := by
  induction lists with
  | nil => rfl
  | cons a lists ih =>
    cases lists with
    | nil => simp [separated]
    | cons b lists =>
      have comma := Token.fill_mark ',' (by simp)
      simp [separated_cons_cons, ih, comma]

theorem map_fill_parameters {ps : List Ident} (names : ∀ i ∈ ps, IsName i.name) :
    (ps.map Ident.fill).map (fun i => [Token.word i.name]) =
      (ps.map fun i => [Token.word i.name]).map (List.map Token.fill) := by
  rw [List.map_map, List.map_map]
  refine List.map_congr_left fun i hi => ?_
  simp [Ident.fill, (names i hi).fill_word]

/-! ## Filled trees -/

mutual

/-- The tokens of a filled tree are filled one by one. -/
theorem Expr.printed_fill : ∀ e : Expr, e.Printable → e.fill.printed = e.printed.map Token.fill
  | .hole, _ => rfl
  | .ident _, printable => by simp [Expr.fill, Expr.printed, Ident.fill, printable.fill_word]
  | .int _ _, _ => by simp [Expr.fill, Expr.printed]
  | .bool _ true, _ | .bool _ false, _ => by simp [Expr.fill, Expr.printed, Token.fill_keyword]
  | .unary _ op e, printable => by
    have operand := e.printed_fill printable
    simp [Expr.fill, Expr.printed, operand, Token.fill_mark]
  | .binary _ op l r, printable => by
    have left := l.printed_fill printable.1
    have right := r.printed_fill printable.2
    simp [Expr.fill, Expr.printed, left, right, Token.fill_mark]
  | .ifThen _ c b, printable => by
    have condition := c.printed_fill printable.1
    have consequence := b.printed_fill printable.2
    simp [Expr.fill, Expr.printed, condition, consequence, Token.fill_mark, Token.fill_keyword]
  | .ifThenElse _ c b a, printable => by
    have condition := c.printed_fill printable.1
    have consequence := b.printed_fill printable.2.1
    have alternative := a.printed_fill printable.2.2
    simp [Expr.fill, Expr.printed, condition, consequence, alternative, Token.fill_mark,
      Token.fill_keyword]
  | .function _ ps b, printable => by
    have body := b.printed_fill printable.2
    have parameters := map_fill_parameters printable.1
    simp only [Expr.fill, Expr.printed, body, parameters]
    simp [map_fill_separated, Token.fill_mark, Token.fill_keyword]
  | .call _ f as, printable => by
    have callee := f.printed_fill printable.1
    have arguments := Expr.printedAll_fillAll as printable.2
    simp [Expr.fill, Expr.printed, callee, arguments, map_fill_separated, Token.fill_mark]

theorem Expr.printedAll_fillAll : ∀ es : List Expr, Expr.AllPrintable es →
    Expr.printedAll (Expr.fillAll es) = (Expr.printedAll es).map (List.map Token.fill)
  | [], _ => rfl
  | e :: es, printable => by
    simp [Expr.fillAll, Expr.printedAll, e.printed_fill printable.1,
      Expr.printedAll_fillAll es printable.2]

theorem Stmt.printed_fill : ∀ s : Stmt, s.Printable → s.fill.printed = s.printed.map Token.fill
  | .let_ _ _ v, printable => by
    have value := v.printed_fill printable.2
    simp [Stmt.fill, Stmt.printed, Ident.fill, printable.1.fill_word, value, Token.fill_mark,
      Token.fill_keyword]
  | .return_ _ v, printable => by
    have value := v.printed_fill printable
    simp [Stmt.fill, Stmt.printed, value, Token.fill_mark, Token.fill_keyword]
  | .expr _ v, printable => by
    have value := v.printed_fill printable
    simp [Stmt.fill, Stmt.printed, value, Token.fill_mark]

theorem Stmt.printedAll_fillAll : ∀ ss : List Stmt, Stmt.AllPrintable ss →
    Stmt.printedAll (Stmt.fillAll ss) = (Stmt.printedAll ss).map Token.fill
  | [], _ => rfl
  | s :: ss, printable => by
    simp [Stmt.fillAll, Stmt.printedAll, s.printed_fill printable.1,
      Stmt.printedAll_fillAll ss printable.2]

theorem Block.printed_fill : ∀ b : Block, b.Printable →
    b.fill.printed = b.printed.map Token.fill
  | ⟨_, ss⟩, printable => by
    have body := Stmt.printedAll_fillAll ss printable
    simp [Block.fill, Block.printed, body, Token.fill_mark]

end

mutual

/-- A filled tree can be read back: it has no holes. -/
theorem Expr.holes_fill : ∀ e : Expr, e.fill.holes = 0
  | .hole | .ident _ | .int _ _ | .bool _ _ => rfl
  | .unary _ _ e => by simp [Expr.fill, Expr.holes, e.holes_fill]
  | .binary _ _ l r => by simp [Expr.fill, Expr.holes, l.holes_fill, r.holes_fill]
  | .ifThen _ c b => by simp [Expr.fill, Expr.holes, c.holes_fill, b.holes_fill]
  | .ifThenElse _ c b a => by
    simp [Expr.fill, Expr.holes, c.holes_fill, b.holes_fill, a.holes_fill]
  | .function _ _ b => by simp [Expr.fill, Expr.holes, b.holes_fill]
  | .call _ f as => by simp [Expr.fill, Expr.holes, f.holes_fill, Expr.holesAll_fillAll as]

theorem Expr.holesAll_fillAll : ∀ es : List Expr, Expr.holesAll (Expr.fillAll es) = 0
  | [] => rfl
  | e :: es => by simp [Expr.fillAll, Expr.holesAll, e.holes_fill, Expr.holesAll_fillAll es]

theorem Stmt.holes_fill : ∀ s : Stmt, s.fill.holes = 0
  | .let_ _ _ v | .return_ _ v | .expr _ v => v.holes_fill

theorem Stmt.holesAll_fillAll : ∀ ss : List Stmt, Stmt.holesAll (Stmt.fillAll ss) = 0
  | [] => rfl
  | s :: ss => by simp [Stmt.fillAll, Stmt.holesAll, s.holes_fill, Stmt.holesAll_fillAll ss]

theorem Block.holes_fill : ∀ b : Block, b.fill.holes = 0
  | ⟨_, ss⟩ => Stmt.holesAll_fillAll ss

end

mutual

/-- The names of a filled tree are names. -/
theorem Expr.printable_fill : ∀ e : Expr, e.Printable → e.fill.Printable
  | .hole, _ => isName_hole
  | .ident _, printable => printable.fill
  | .int _ _, printable => printable
  | .bool _ _, _ => trivial
  | .unary _ _ e, printable => e.printable_fill printable
  | .binary _ _ l r, printable => ⟨l.printable_fill printable.1, r.printable_fill printable.2⟩
  | .ifThen _ c b, printable => ⟨c.printable_fill printable.1, b.printable_fill printable.2⟩
  | .ifThenElse _ c b a, printable =>
    ⟨c.printable_fill printable.1, b.printable_fill printable.2.1, a.printable_fill printable.2.2⟩
  | .function _ _ b, printable =>
    ⟨List.forall_mem_map.mpr fun i hi => (printable.1 i hi).fill, b.printable_fill printable.2⟩
  | .call _ f as, printable =>
    ⟨f.printable_fill printable.1, Expr.allPrintable_fillAll as printable.2⟩

theorem Expr.allPrintable_fillAll : ∀ es : List Expr, Expr.AllPrintable es →
    Expr.AllPrintable (Expr.fillAll es)
  | [], _ => trivial
  | e :: es, printable =>
    ⟨e.printable_fill printable.1, Expr.allPrintable_fillAll es printable.2⟩

theorem Stmt.printable_fill : ∀ s : Stmt, s.Printable → s.fill.Printable
  | .let_ _ _ v, printable => ⟨printable.1.fill, v.printable_fill printable.2⟩
  | .return_ _ v, printable | .expr _ v, printable => v.printable_fill printable

theorem Stmt.allPrintable_fillAll : ∀ ss : List Stmt, Stmt.AllPrintable ss →
    Stmt.AllPrintable (Stmt.fillAll ss)
  | [], _ => trivial
  | s :: ss, printable =>
    ⟨s.printable_fill printable.1, Stmt.allPrintable_fillAll ss printable.2⟩

theorem Block.printable_fill : ∀ b : Block, b.Printable → b.fill.Printable
  | ⟨_, ss⟩, printable => Stmt.allPrintable_fillAll ss printable

end

/-! ## The way back -/

/-- The first of the tokens of an expression is filled with the others. -/
theorem Expr.unfill_head_printed (e : Expr) (printable : e.Printable) :
    (e.fill.printed.headD Token.eof).unfill = e.printed.headD Token.eof := by
  obtain ⟨t, ts, hts⟩ := List.exists_cons_of_ne_nil e.printed_ne_nil
  simp [e.printed_fill printable, hts]

theorem Ident.unfill_respell_fill (i : Ident) : i.fill.respell.unfill = i.respell := by
  simp [fill, respell, unfill]

theorem Ident.map_unfill_respell_fill (is : List Ident) :
    ((is.map fill).map respell).map unfill = is.map respell := by
  simp [Ident.unfill_respell_fill]

mutual

/-- A tree that was filled can be got back, but for the tokens that are not printed. -/
theorem Expr.unfill_respell_fill : ∀ e : Expr, e.Printable → e.fill.respell.unfill = e.respell
  | .hole, _ => rfl
  | .ident i, _ => by
    have other : i.fill.respell.name ≠ "hole" := underscore_ne_hole i.name
    simp [Expr.fill, Expr.respell, Expr.unfill, other, i.unfill_respell_fill]
  | .int _ _, _ | .bool _ true, _ | .bool _ false, _ => rfl
  | .unary _ _ e, printable => by
    simp [Expr.fill, Expr.respell, Expr.unfill, e.unfill_respell_fill printable]
  | .binary _ _ l r, printable => by
    simp [Expr.fill, Expr.respell, Expr.unfill, l.unfill_respell_fill printable.1,
      r.unfill_respell_fill printable.2]
  | .ifThen _ c b, printable => by
    simp [Expr.fill, Expr.respell, Expr.unfill, c.unfill_respell_fill printable.1,
      b.unfill_respell_fill printable.2]
  | .ifThenElse _ c b a, printable => by
    simp [Expr.fill, Expr.respell, Expr.unfill, c.unfill_respell_fill printable.1,
      b.unfill_respell_fill printable.2.1, a.unfill_respell_fill printable.2.2]
  | .function _ ps b, printable => by
    rw [Expr.fill, Expr.respell, Expr.unfill, Ident.map_unfill_respell_fill,
      b.unfill_respell_fill printable.2, Expr.respell]
  | .call _ f as, printable => by
    simp [Expr.fill, Expr.respell, Expr.unfill, f.unfill_respell_fill printable.1,
      Expr.unfillAll_respellAll_fillAll as printable.2]

theorem Expr.unfillAll_respellAll_fillAll : ∀ es : List Expr, Expr.AllPrintable es →
    Expr.unfillAll (Expr.respellAll (Expr.fillAll es)) = Expr.respellAll es
  | [], _ => rfl
  | e :: es, printable => by
    simp [Expr.fillAll, Expr.respellAll, Expr.unfillAll, e.unfill_respell_fill printable.1,
      Expr.unfillAll_respellAll_fillAll es printable.2]

theorem Stmt.unfill_respell_fill : ∀ s : Stmt, s.Printable → s.fill.respell.unfill = s.respell
  | .let_ _ i v, printable => by
    simp [Stmt.fill, Stmt.respell, Stmt.unfill, i.unfill_respell_fill,
      v.unfill_respell_fill printable.2]
  | .return_ _ v, printable => by
    simp [Stmt.fill, Stmt.respell, Stmt.unfill, v.unfill_respell_fill printable]
  | .expr _ v, printable => by
    rw [Stmt.fill, Stmt.respell, Stmt.unfill, v.unfill_head_printed printable,
      v.unfill_respell_fill printable, Stmt.respell]

theorem Stmt.unfillAll_respellAll_fillAll : ∀ ss : List Stmt, Stmt.AllPrintable ss →
    Stmt.unfillAll (Stmt.respellAll (Stmt.fillAll ss)) = Stmt.respellAll ss
  | [], _ => rfl
  | s :: ss, printable => by
    simp [Stmt.fillAll, Stmt.respellAll, Stmt.unfillAll, s.unfill_respell_fill printable.1,
      Stmt.unfillAll_respellAll_fillAll ss printable.2]

theorem Block.unfill_respell_fill : ∀ b : Block, b.Printable →
    b.fill.respell.unfill = b.respell
  | ⟨_, ss⟩, printable => by
    simp [Block.fill, Block.respell, Block.unfill, Stmt.unfillAll_respellAll_fillAll ss printable]

end

/-! ## Reading printed trees -/

/-- The tree of the text, read with its holes filled. -/
def readFilled (source : String) : Program :=
  (parseTokens ((tokens source).map Token.fill)).value.unfill

/-- A printed tree is read with its holes filled as the tree with the printed tokens. -/
theorem Program.readFilled_text (p : Program) (printable : p.Printable) :
    readFilled p.text = p.respell := by
  have filled : p.fill.Printable := Stmt.allPrintable_fillAll p.statements printable
  have complete : p.fill.holes = 0 := Stmt.holesAll_fillAll p.statements
  have printed : p.fill.printed = p.printed.map Token.fill :=
    Stmt.printedAll_fillAll p.statements printable
  have read : (parseTokens (p.printed.map Token.fill)).value = p.fill.respell := by
    rw [← printed, ← p.fill.tokens_text filled]
    exact (parse_text_eq p.fill filled complete).1
  rw [readFilled, p.tokens_text printable, read]
  exact congrArg Program.mk (Stmt.unfillAll_respellAll_fillAll p.statements printable)

/-- Two printed programs have the same text exactly if they are the same with the printed tokens. -/
theorem Program.text_eq_iff {p q : Program} (hp : p.Printable) (hq : q.Printable) :
    p.text = q.text ↔ p.respell = q.respell := by
  constructor
  · intro same
    rw [← p.readFilled_text hp, same, q.readFilled_text hq]
  · intro same
    rw [← p.text_respell, same, q.text_respell]

/-- Two printed expressions have the same text exactly if they are the same with the printed
tokens. -/
theorem Expr.text_eq_iff {e f : Expr} (he : e.Printable) (hf : f.Printable) :
    e.text = f.text ↔ e.respell = f.respell := by
  constructor
  · intro same
    -- an expression is the value of a statement, and a statement a program
    let statement (e : Expr) : Program := ⟨[.expr Token.eof e]⟩
    have text : (statement e).text = (statement f).text := by
      simp [statement, Program.text, Stmt.text, same]
    have respelled := (@Program.text_eq_iff (statement e) (statement f) ⟨he, trivial⟩
      ⟨hf, trivial⟩).mp text
    have statements := List.head_eq_of_cons_eq (congrArg Program.statements respelled)
    exact (Stmt.expr.inj statements).2
  · intro same
    rw [← e.text_respell, same, f.text_respell]

/-- An operand is smaller than the expression. -/
theorem Expr.binary_ne_left (t : Token) (op : BinaryOp) (l r : Expr) : binary t op l r ≠ l := by
  intro same
  have size := congrArg sizeOf same
  simp only [binary.sizeOf_spec] at size
  omega

/-- Programs of the same text, with holes or without, are the same but for the tokens that they
keep, and their integers are spelled in the same way. -/
theorem text_unambiguous :
    (∀ p q : Program, p.Printable → q.Printable → p.text = q.text →
      p.strip = q.strip ∧ p.respell = q.respell) ∧
    (∀ e f : Expr, e.Printable → f.Printable → e.text = f.text →
      e.strip = f.strip ∧ e.respell = f.respell) ∧
    (∀ (t u : Token) (e : Expr), e.Printable →
      (Expr.call t e [.hole]).text ≠ (Expr.call u e []).text) ∧
    (∀ (t u v : Token) (e : Expr) (b : Block), e.Printable → b.Printable →
      (Expr.ifThen t e b).text ≠ (Expr.ifThenElse u e b ⟨v, []⟩).text) ∧
    ∀ (t u v w : Token) (op op' : BinaryOp) (a b c : Expr), a.Printable → b.Printable →
      c.Printable → (Expr.binary t op (.binary u op' a b) c).text ≠
        (Expr.binary v op' a (.binary w op b c)).text := by
  refine ⟨fun p q hp hq same => ?_, fun e f he hf same => ?_, fun t u e he same => ?_,
    fun t u v e b he hb same => ?_, fun t u v w op op' a b c ha hb hc same => ?_⟩
  · have respelled := (Program.text_eq_iff hp hq).mp same
    exact ⟨by rw [← p.strip_respell, respelled, q.strip_respell], respelled⟩
  · have respelled := (Expr.text_eq_iff he hf).mp same
    exact ⟨by rw [← e.strip_respell, respelled, f.strip_respell], respelled⟩
  · have respelled := (@Expr.text_eq_iff (.call t e [.hole]) (.call u e [])
      ⟨he, trivial, trivial⟩ ⟨he, trivial⟩).mp same
    simp [Expr.respell, Expr.respellAll] at respelled
  · have respelled := (@Expr.text_eq_iff (.ifThen t e b) (.ifThenElse u e b ⟨v, []⟩)
      ⟨he, hb⟩ ⟨he, hb, trivial⟩).mp same
    simp [Expr.respell] at respelled
  · -- the left operand would be a part of itself
    have respelled := (@Expr.text_eq_iff (.binary t op (.binary u op' a b) c)
      (.binary v op' a (.binary w op b c)) ⟨⟨ha, hb⟩, hc⟩ ⟨ha, hb, hc⟩).mp same
    simp only [Expr.respell, Expr.binary.injEq] at respelled
    exact Expr.binary_ne_left _ _ _ _ respelled.2.2.1

/-- A program that is printed like the call of a hole is this call. -/
theorem text_unambiguous_callOfHole : callOfHole.Printable ∧ callOfHole.text = "?(?, a);\n" ∧
    ∀ p : Program, p.Printable → p.text = "?(?, a);\n" → p.strip = callOfHole.strip := by
  have name : IsName "a" := ⟨by simp, by simp [isLetter], rfl⟩
  have printable : callOfHole.Printable := ⟨⟨trivial, trivial, name, trivial⟩, trivial⟩
  have text : callOfHole.text = "?(?, a);\n" := by decide
  exact ⟨printable, text, fun p hp same =>
    (text_unambiguous.1 p callOfHole hp printable (same.trans text.symm)).1⟩

end LetFn
