import LetFn.Proofs.Printing.RoundTrip
import LetFn.Proofs.Reading.Nodes
import LetFn.Proofs.Recovery.Faults

/-!
# Reading a printed tree with holes

A hole is printed as a foreign character, so a printed tree has as many illegal tokens as the tree
has holes (`Program.countKind_illegal_printed`). Of the text, each is reported once: what the reader
makes of the tokens around the hole may be another tree, but never one without an error
(`count_illegal_errors_text`).
-/

namespace LetFn

@[simp] theorem UnaryOp.kind_ne_illegal (op : UnaryOp) : op.kind ≠ .illegal := by
  cases op <;> decide

@[simp] theorem BinaryOp.kind_ne_illegal (op : BinaryOp) : op.kind ≠ .illegal := by
  cases op <;> decide

/-- The marks of a printed tree, a hole apart, are not illegal. -/
theorem kind_mark_ne_illegal : ∀ c ∈ ['(', ')', '{', '}', ',', ';', '='],
    (Token.symbol c).kind ≠ .illegal := by
  simp [Token.symbol, Kind.ofChar]

/-- Nor are its keywords. -/
theorem kind_keyword_ne_illegal : ∀ w ∈ ["if", "else", "fn", "let", "return"],
    (Token.word w).kind ≠ .illegal := by
  simp [Token.word, Kind.ofWord]

theorem IsName.countKind_illegal {name : String} (h : IsName name) :
    countKind .illegal [.word name] = 0 := by
  simp [Token.word, h.ident]

/-- Commas between tokens add no illegal ones. -/
theorem countKind_illegal_separated (lists : List (List Token)) :
    countKind .illegal (separated lists) = countKind .illegal lists.flatten := by
  simp only [countKind, List.countP_eq_length_filter]
  rw [filter_separated (by decide) lists]

theorem countKind_illegal_parameters {ps : List Ident} (names : ∀ i ∈ ps, IsName i.name) :
    countKind .illegal (separated (ps.map fun i => [.word i.name])) = 0 := by
  rw [countKind_illegal_separated]
  induction ps with
  | nil => rfl
  | cons i ps ih =>
    rw [List.map_cons, List.flatten_cons, countKind_append, ih fun j hj => names j (.tail i hj),
      (names i (.head ps)).countKind_illegal]

/-! ## The illegal tokens of printed trees -/

mutual

theorem Expr.countKind_illegal_printed : ∀ e : Expr, e.Printable →
    countKind .illegal e.printed = e.holes
  | .hole, _ => rfl
  | .ident _, printable => printable.countKind_illegal
  | .int _ _, _ => rfl
  | .bool _ true, _ => rfl
  | .bool _ false, _ => rfl
  | .unary _ op e, printable => by
    have operand := e.countKind_illegal_printed printable
    simp [Expr.printed, Expr.holes, operand, kind_mark_ne_illegal]
  | .binary _ op l r, printable => by
    have left := l.countKind_illegal_printed printable.1
    have right := r.countKind_illegal_printed printable.2
    simp [Expr.printed, Expr.holes, left, right, kind_mark_ne_illegal]
  | .ifThen _ c b, printable => by
    have condition := c.countKind_illegal_printed printable.1
    have consequence := b.countKind_illegal_printed printable.2
    simp [Expr.printed, Expr.holes, condition, consequence, kind_mark_ne_illegal,
      kind_keyword_ne_illegal]
  | .ifThenElse _ c b a, printable => by
    have condition := c.countKind_illegal_printed printable.1
    have consequence := b.countKind_illegal_printed printable.2.1
    have alternative := a.countKind_illegal_printed printable.2.2
    simp [Expr.printed, Expr.holes, condition, consequence, alternative, kind_mark_ne_illegal,
      kind_keyword_ne_illegal]
    omega
  | .function _ ps b, printable => by
    have body := b.countKind_illegal_printed printable.2
    have parameters := countKind_illegal_parameters printable.1
    simp [Expr.printed, Expr.holes, body, parameters, kind_mark_ne_illegal,
      kind_keyword_ne_illegal]
  | .call _ f as, printable => by
    have callee := f.countKind_illegal_printed printable.1
    have arguments := Expr.countKind_illegal_printedAll as printable.2
    simp [Expr.printed, Expr.holes, callee, countKind_illegal_separated, arguments,
      kind_mark_ne_illegal]

theorem Expr.countKind_illegal_printedAll : ∀ es : List Expr, Expr.AllPrintable es →
    countKind .illegal (Expr.printedAll es).flatten = Expr.holesAll es
  | [], _ => rfl
  | e :: es, printable => by
    have one := e.countKind_illegal_printed printable.1
    have more := Expr.countKind_illegal_printedAll es printable.2
    rw [Expr.printedAll, List.flatten_cons, countKind_append, one, more, Expr.holesAll]

theorem Stmt.countKind_illegal_printed : ∀ s : Stmt, s.Printable →
    countKind .illegal s.printed = s.holes
  | .let_ _ n v, printable => by
    have name : (Token.word n.name).kind ≠ .illegal := by
      simp [Token.word, printable.1.ident]
    have value := v.countKind_illegal_printed printable.2
    simp [Stmt.printed, Stmt.holes, name, value, kind_mark_ne_illegal, kind_keyword_ne_illegal]
  | .return_ _ v, printable => by
    have value := v.countKind_illegal_printed printable
    simp [Stmt.printed, Stmt.holes, value, kind_mark_ne_illegal, kind_keyword_ne_illegal]
  | .expr _ v, printable => by
    have value := v.countKind_illegal_printed printable
    simp [Stmt.printed, Stmt.holes, value, kind_mark_ne_illegal]

theorem Stmt.countKind_illegal_printedAll : ∀ ss : List Stmt, Stmt.AllPrintable ss →
    countKind .illegal (Stmt.printedAll ss) = Stmt.holesAll ss
  | [], _ => rfl
  | s :: ss, printable => by
    have one := s.countKind_illegal_printed printable.1
    have more := Stmt.countKind_illegal_printedAll ss printable.2
    rw [Stmt.printedAll, countKind_append, one, more, Stmt.holesAll]

theorem Block.countKind_illegal_printed : ∀ b : Block, b.Printable →
    countKind .illegal b.printed = b.holes
  | ⟨_, ss⟩, printable => by
    have body := Stmt.countKind_illegal_printedAll ss printable
    simp [Block.printed, Block.holes, body, kind_mark_ne_illegal]

end

/-! ## Programs -/

/-- As many illegal tokens are reported of a printed tree as the tree has holes. -/
theorem Program.count_illegal_reported (p : Program) (printable : p.Printable) :
    (parse p.text).errors.count (.noExpression .illegal) = p.holes := by
  rw [parse, count_illegal_errors (eofless_tokens p.text), p.tokens_text printable]
  exact Stmt.countKind_illegal_printedAll p.statements printable

/-- As many illegal tokens are reported of a printed tree as the tree has holes, and a tree with
holes is never read back without an error. The tree of any source can be printed so. -/
theorem count_illegal_errors_text :
    (∀ p : Program, p.Printable →
      (parse p.text).errors.count (.noExpression .illegal) = p.holes ∧
        ((parse p.text).errors = [] ↔ p.holes = 0)) ∧
      ∀ source : String, (parse source).value.Printable := by
  refine ⟨fun p printable => ?_, printable_parse⟩
  refine ⟨p.count_illegal_reported printable, fun clean => ?_, fun complete => ?_⟩
  · rw [← p.count_illegal_reported printable, clean, List.count_nil]
  · exact (parse_text_eq p printable complete).2

/-- A call of a hole, with a hole and a name for arguments. -/
def callOfHole : Program :=
  ⟨[.expr Token.eof (.call Token.eof .hole [.hole, .ident ⟨Token.eof, "a"⟩])]⟩

theorem count_illegal_errors_callOfHole :
    callOfHole.Printable ∧
      (parse callOfHole.text).errors.count (.noExpression .illegal) = 2 ∧
      (parse callOfHole.text).errors ≠ [] := by
  have name : IsName "a" := ⟨by simp, by simp [isLetter], rfl⟩
  have printable : callOfHole.Printable := ⟨⟨trivial, trivial, name, trivial⟩, trivial⟩
  obtain ⟨counted, clean⟩ := count_illegal_errors_text.1 callOfHole printable
  exact ⟨printable, counted, fun errors => absurd (clean.mp errors) (by decide)⟩

end LetFn
