import LetFn.Proofs.Printing.Basic
import LetFn.Proofs.Scanning.Basic

/-!
# Scanning a printed tree

The text of a tree scans to the tokens it was printed with (`Program.tokens_text`): printing puts a
blank, a parenthesis or another mark wherever two words or two numbers could run together, and a
blank after every `=` that could become a pair.

The text of an expression can be followed by anything that goes on with neither a word nor a number
(`Stops`). A statement and a block end in a mark, and can be followed by anything.
-/

namespace LetFn

/-- The characters go on with neither a word nor a number. -/
def Stops (cs : List Char) : Prop := ∀ c ∈ cs.head?, isLetter c = false ∧ c.isDigit = false

@[simp] theorem stops_cons {c : Char} {cs : List Char} :
    Stops (c :: cs) ↔ isLetter c = false ∧ c.isDigit = false := by
  simp [Stops]

/-! ## The fixed pieces of a text -/

@[simp] theorem scan_space (cs : List Char) : scan (' ' :: cs) = scan cs := scan_blank rfl cs

@[simp] theorem scan_newline (cs : List Char) : scan ('\n' :: cs) = scan cs := scan_blank rfl cs

/-- The marks of a printed tree other than operators. -/
abbrev marks : List Char := ['(', ')', '{', '}', ',', ';', '?']

theorem marks_spec : ∀ c ∈ marks, c.isWhitespace = false ∧ isLetter c = false ∧
    c.isDigit = false ∧ c ≠ '=' ∧ c ≠ '!' := by
  intro c hc
  simp only [marks, List.mem_cons, List.not_mem_nil, or_false] at hc
  obtain rfl | rfl | rfl | rfl | rfl | rfl | rfl := hc <;> decide

/-- A mark is a token whatever follows. -/
theorem scan_mark {c : Char} (h : c ∈ marks) (cs : List Char) :
    scan (c :: cs) = .symbol c :: scan cs := by
  obtain ⟨blank, letter, digit, equal, bang⟩ := marks_spec c h
  exact scan_symbol blank letter digit (not_beginsPair_of_ne equal bang cs)

/-- A word before a blank or a mark is a token. -/
theorem scan_word_stop {w : String} (hw : w.toList ≠ [])
    (letters : ∀ c ∈ w.toList, isLetter c = true) {cs : List Char} (stop : Stops cs) :
    scan (w.toList ++ cs) = .word w :: scan cs := by
  have h := scan_word hw letters fun c hc => (stop c hc).1
  rwa [String.ofList_toList] at h

/-- A number before a blank or a mark is a token. -/
theorem scan_number_stop {w : String} (hw : w.toList ≠ [])
    (digits : ∀ c ∈ w.toList, c.isDigit = true) {cs : List Char} (stop : Stops cs) :
    scan (w.toList ++ cs) = .number w :: scan cs := by
  have h := scan_number hw digits fun c hc => (stop c hc).2
  rwa [String.ofList_toList] at h

/-- A keyword before a blank or a mark is a token. -/
theorem scan_keyword {w : String} (hw : w ∈ ["if", "else", "fn", "let", "return", "true", "false"])
    {cs : List Char} (stop : Stops cs) : scan (w.toList ++ cs) = .word w :: scan cs := by
  simp only [List.mem_cons, List.not_mem_nil, or_false] at hw
  obtain rfl | rfl | rfl | rfl | rfl | rfl | rfl := hw <;>
    exact scan_word_stop (by simp) (by simp [isLetter]) stop

@[simp] theorem scan_if (cs : List Char) :
    scan ('i' :: 'f' :: ' ' :: cs) = .word "if" :: scan cs := by
  rw [← scan_space cs]
  exact scan_keyword (w := "if") (by simp) (by simp [isLetter])

@[simp] theorem scan_else (cs : List Char) :
    scan ('e' :: 'l' :: 's' :: 'e' :: ' ' :: cs) = .word "else" :: scan cs := by
  rw [← scan_space cs]
  exact scan_keyword (w := "else") (by simp) (by simp [isLetter])

@[simp] theorem scan_fn (cs : List Char) :
    scan ('f' :: 'n' :: '(' :: cs) = .word "fn" :: .symbol '(' :: scan cs := by
  rw [← scan_mark (by decide) cs]
  exact scan_keyword (w := "fn") (by simp) (by simp [isLetter])

@[simp] theorem scan_let (cs : List Char) :
    scan ('l' :: 'e' :: 't' :: ' ' :: cs) = .word "let" :: scan cs := by
  rw [← scan_space cs]
  exact scan_keyword (w := "let") (by simp) (by simp [isLetter])

@[simp] theorem scan_return (cs : List Char) :
    scan ('r' :: 'e' :: 't' :: 'u' :: 'r' :: 'n' :: ' ' :: cs) = .word "return" :: scan cs := by
  rw [← scan_space cs]
  exact scan_keyword (w := "return") (by simp) (by simp [isLetter])

@[simp] theorem scan_assign (cs : List Char) :
    scan ('=' :: ' ' :: cs) = .symbol '=' :: scan cs := by
  rw [← scan_space cs]
  exact scan_symbol rfl rfl rfl (by simp [BeginsPair])

/-- A binary operator stands before a blank. -/
@[simp] theorem scan_binary (op : BinaryOp) (cs : List Char) :
    scan (op.symbol.toList ++ ' ' :: cs) = op.token :: scan cs := by
  rw [← scan_space cs]
  cases op with
  | equal | notEqual => exact scan_pair (by decide) _
  | _ => exact scan_symbol rfl rfl rfl (by simp [BeginsPair])

/-- A unary operator stands before an operand that does not begin with `=`. -/
theorem scan_unary (op : UnaryOp) {cs : List Char} (h : cs.head? ≠ some '=') :
    scan (op.symbol.toList ++ cs) = op.token :: scan cs := by
  cases op with
  | neg => exact scan_symbol rfl rfl rfl (not_beginsPair_of_ne (by decide) (by decide) cs)
  | not => exact scan_symbol rfl rfl rfl fun pair => h pair.2

/-! ## Trees -/

/-- No expression begins with `=`. -/
theorem Expr.head?_text : ∀ (e : Expr) (_ : e.Printable) (rest : List Char),
    rest.head? ≠ some '=' → (e.text.toList ++ rest).head? ≠ some '='
  | .hole, _, _, _ | .bool _ true, _, _, _ | .bool _ false, _, _, _ => by simp [Expr.text]
  | .unary .., _, _, _ | .binary .., _, _, _ => by simp [Expr.text]
  | .ifThen .., _, _, _ | .ifThenElse .., _, _, _ | .function .., _, _, _ => by simp [Expr.text]
  | .ident i, printable, rest, _ => by
    obtain ⟨c, cs, h⟩ := List.exists_cons_of_ne_nil printable.nonempty
    have letter := printable.letters c (by simp [h])
    simp only [Expr.text, h, List.cons_append, List.head?_cons, ne_eq, Option.some.injEq]
    rintro rfl
    cases letter
  | .int t _, printable, rest, _ => by
    obtain ⟨c, cs, h⟩ := List.exists_cons_of_ne_nil printable.nonempty
    have digit := printable.digits c (by simp [h])
    simp only [Expr.text, h, List.cons_append, List.head?_cons, ne_eq, Option.some.injEq]
    rintro rfl
    cases digit
  | .call _ f _, printable, rest, _ => by
    simp only [Expr.text, String.toList_append, List.append_assoc]
    exact f.head?_text printable.1 _ (by simp)

/-- The text scans to the tokens where neither a word nor a number goes on. -/
def Scans (text : String) (ts : List Token) : Prop :=
  ∀ cs, Stops cs → scan (text.toList ++ cs) = ts ++ scan cs

theorem Scans.scan {text : String} {ts : List Token} (h : Scans text ts) {cs : List Char}
    (stop : Stops cs) : scan (text.toList ++ cs) = ts ++ LetFn.scan cs :=
  h cs stop

theorem IsName.scans {name : String} (h : IsName name) : Scans name [.word name] :=
  fun _ stop => scan_word_stop h.nonempty h.letters stop

/-- Texts with commas between them scan to their tokens with commas between them. -/
theorem scans_separated {α : Type} {text : α → String} {printed : α → List Token} :
    ∀ {xs : List α}, (∀ x ∈ xs, Scans (text x) (printed x)) →
      Scans (String.intercalate ", " (xs.map text)) (separated (xs.map printed))
  | [], _ => fun cs _ => by simp [separated]
  | [x], h => by simpa [separated] using h x
  | x :: y :: xs, h => by
    intro cs stop
    have hx := h x (by simp)
    have hxs : Scans (String.intercalate ", " ((y :: xs).map text))
        (separated ((y :: xs).map printed)) :=
      scans_separated fun z hz => h z (List.mem_cons_of_mem x hz)
    have after := hxs.scan stop
    simp only [List.map_cons, separated, List.intercalate_cons_cons, String.intercalate_cons_cons,
      String.toList_append, List.append_assoc] at after ⊢
    rw [hx.scan (by simp [isLetter]), ← after]
    simp [scan_mark, -String.toList_intercalate]

mutual

theorem Expr.scans_text : ∀ e : Expr, e.Printable → Scans e.text e.printed
  | .hole, _ => fun cs _ => scan_mark (by decide) cs
  | .ident _, printable => printable.scans
  | .int _ _, printable => fun _ stop => scan_number_stop printable.nonempty printable.digits stop
  | .bool _ true, _ => fun _ stop => scan_keyword (w := "true") (by simp) stop
  | .bool _ false, _ => fun _ stop => scan_keyword (w := "false") (by simp) stop
  | .unary _ op e, printable => by
    intro cs _
    have first := e.head?_text printable (')' :: cs) (by simp)
    have operand := e.scans_text printable
    simp [Expr.text, Expr.printed, scan_mark, scan_unary op first, operand.scan, isLetter]
  | .binary _ op l r, printable => by
    intro cs _
    have left := l.scans_text printable.1
    have right := r.scans_text printable.2
    simp [Expr.text, Expr.printed, scan_mark, left.scan, right.scan, isLetter]
  | .ifThen _ c b, printable => by
    intro cs _
    have condition := c.scans_text printable.1
    have consequence := b.scan_text printable.2
    simp [Expr.text, Expr.printed, scan_mark, condition.scan, consequence, isLetter]
  | .ifThenElse _ c b a, printable => by
    intro cs _
    have condition := c.scans_text printable.1
    have consequence := b.scan_text printable.2.1
    have alternative := a.scan_text printable.2.2
    simp [Expr.text, Expr.printed, scan_mark, condition.scan, consequence, alternative,
      isLetter]
  | .function _ ps b, printable => by
    intro cs _
    have parameters := scans_separated fun i hi => (printable.1 i hi).scans
    have body := b.scan_text printable.2
    simp [Expr.text, Expr.printed, scan_mark, parameters.scan, body, isLetter,
      -String.toList_intercalate]
  | .call _ f as, printable => by
    intro cs _
    have callee := f.scans_text printable.1
    have arguments := scans_separated (Expr.scans_texts as printable.2)
    rw [← Expr.texts_eq_map, ← Expr.printedAll_eq_map] at arguments
    simp [Expr.text, Expr.printed, scan_mark, callee.scan, arguments.scan, isLetter,
      -String.toList_intercalate]

theorem Expr.scans_texts : ∀ es : List Expr, Expr.AllPrintable es →
    ∀ e ∈ es, Scans e.text e.printed
  | [], _ => fun _ hf => absurd hf List.not_mem_nil
  | e :: es, printable => by
    intro f hf
    cases hf with
    | head => exact e.scans_text printable.1
    | tail _ hf => exact Expr.scans_texts es printable.2 f hf

/-- A statement ends in a mark, so anything can follow. -/
theorem Stmt.scan_text : ∀ s : Stmt, s.Printable → ∀ cs,
    scan (s.text.toList ++ cs) = s.printed ++ scan cs
  | .let_ _ n v, printable => by
    intro cs
    have name := printable.1.scans
    have value := v.scans_text printable.2
    simp [Stmt.text, Stmt.printed, scan_mark, name.scan, value.scan, isLetter]
  | .return_ _ v, printable => by
    intro cs
    have value := v.scans_text printable
    simp [Stmt.text, Stmt.printed, scan_mark, value.scan, isLetter]
  | .expr _ v, printable => by
    intro cs
    have value := v.scans_text printable
    simp [Stmt.text, Stmt.printed, scan_mark, value.scan, isLetter]

theorem Stmt.scan_texts : ∀ ss : List Stmt, Stmt.AllPrintable ss → ∀ cs,
    scan ((String.join (Stmt.texts ss)).toList ++ cs) = Stmt.printedAll ss ++ scan cs
  | [], _ => by simp [Stmt.texts, Stmt.printedAll]
  | s :: ss, printable => by
    intro cs
    rw [Stmt.texts, String.join_cons, String.toList_append, List.append_assoc,
      s.scan_text printable.1, Stmt.scan_texts ss printable.2, Stmt.printedAll, List.append_assoc]

/-- A block ends in a mark, so anything can follow. -/
theorem Block.scan_text : ∀ b : Block, b.Printable → ∀ cs,
    scan (b.text.toList ++ cs) = b.printed ++ scan cs
  | ⟨_, ss⟩, printable => by
    intro cs
    have body := Stmt.scan_texts ss printable
    simp [Block.text, Block.printed, scan_mark, body, -String.toList_join]

end

/-- The text of a program scans to the tokens it was printed with. -/
theorem Program.tokens_text (p : Program) (printable : p.Printable) :
    tokens p.text = p.printed := by
  obtain ⟨ss⟩ := p
  rw [tokens_eq_scan, Program.text, Program.printed]
  simp only [Program.Printable] at printable ⊢
  induction ss with
  | nil => simp [Stmt.printedAll]
  | cons s ss ih =>
    have rest := ih printable.2
    rw [List.map_cons, String.join_cons, String.toList_append, String.toList_append,
      List.append_assoc, s.scan_text printable.1, Stmt.printedAll]
    exact congrArg _ ((scan_newline _).trans rest)

end LetFn
