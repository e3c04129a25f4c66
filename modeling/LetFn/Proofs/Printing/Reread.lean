import LetFn.Proofs.Printing.RoundTrip
import LetFn.Proofs.Reading.Nodes
import LetFn.Proofs.Recovery.Holes
import LetFn.Render

/-!
# Printing once more

The tokens that the tree of a source keeps are those that it is printed with, but for one kind: an
expression statement keeps the token at which it began in the source, and in print it begins with a
parenthesis wherever there is an operator. So a tree without holes, printed and read again, is the
same but for these tokens (`Program.forgetStarts_respell`), also when the source it came from had
errors.

Its text does not show the tokens of expression statements, and is the same again. So the second
tree does not change any more, and a rendered source is rendered as itself (`reread_parse`).
-/

namespace LetFn

/-! ## Trees without the tokens of expression statements -/

mutual

/-- The expression without the tokens of its expression statements. -/
def Expr.forgetStarts : Expr → Expr
  | .hole => .hole
  | .ident ident => .ident ident
  | .int token value => .int token value
  | .bool token value => .bool token value
  | .unary token op operand => .unary token op operand.forgetStarts
  | .binary token op left right => .binary token op left.forgetStarts right.forgetStarts
  | .ifThen token condition consequence =>
    .ifThen token condition.forgetStarts consequence.forgetStarts
  | .ifThenElse token condition consequence alternative =>
    .ifThenElse token condition.forgetStarts consequence.forgetStarts alternative.forgetStarts
  | .function token parameters body => .function token parameters body.forgetStarts
  | .call token callee arguments =>
    .call token callee.forgetStarts (Expr.forgetStartsAll arguments)

/-- The expressions without the tokens of their expression statements. -/
def Expr.forgetStartsAll : List Expr → List Expr
  | [] => []
  | e :: es => e.forgetStarts :: Expr.forgetStartsAll es

/-- The statement without the tokens of expression statements, its own included. -/
def Stmt.forgetStarts : Stmt → Stmt
  | .let_ token name value => .let_ token name value.forgetStarts
  | .return_ token value => .return_ token value.forgetStarts
  | .expr _ value => .expr Token.eof value.forgetStarts

/-- The statements without the tokens of expression statements. -/
def Stmt.forgetStartsAll : List Stmt → List Stmt
  | [] => []
  | s :: ss => s.forgetStarts :: Stmt.forgetStartsAll ss

/-- The block without the tokens of its expression statements. -/
def Block.forgetStarts : Block → Block
  | ⟨token, statements⟩ => ⟨token, Stmt.forgetStartsAll statements⟩

end

/-- The program without the tokens of its expression statements. -/
def Program.forgetStarts (p : Program) : Program := ⟨Stmt.forgetStartsAll p.statements⟩

/-! ## Respelling -/

theorem Ident.Agrees.respell_eq {i : Ident} (agrees : i.Agrees) : i.respell = i := by
  cases i
  simpa [Ident.respell] using agrees.1.symm

theorem Ident.map_respell_eq {is : List Ident} (agree : ∀ i ∈ is, i.Agrees) :
    is.map Ident.respell = is := by
  calc is.map Ident.respell
    _ = is.map id := List.map_congr_left fun i hi => (agree i hi).respell_eq
    _ = is := List.map_id is

mutual

/-- Respelling a tree that agrees with its tokens changes those of expression statements only. -/
theorem Expr.forgetStarts_respell : ∀ e : Expr, e.Agrees →
    e.respell.forgetStarts = e.forgetStarts
  | .hole, _ => rfl
  | .ident _, agrees => by
    rw [Expr.respell, agrees.respell_eq]
  | .int _ _, agrees => by
    rw [Expr.respell, ← agrees.1]
  | .bool _ true, agrees | .bool _ false, agrees => congrArg (Expr.bool · _) agrees.symm
  | .unary _ _ e, agrees => by
    obtain ⟨rfl, operand⟩ := agrees
    simp [Expr.respell, Expr.forgetStarts, e.forgetStarts_respell operand]
  | .binary _ _ l r, agrees => by
    obtain ⟨rfl, left, right⟩ := agrees
    simp [Expr.respell, Expr.forgetStarts, l.forgetStarts_respell left,
      r.forgetStarts_respell right]
  | .ifThen _ c b, agrees => by
    obtain ⟨rfl, condition, consequence⟩ := agrees
    simp [Expr.respell, Expr.forgetStarts, c.forgetStarts_respell condition,
      b.forgetStarts_respell consequence]
  | .ifThenElse _ c b a, agrees => by
    obtain ⟨rfl, condition, consequence, alternative⟩ := agrees
    simp [Expr.respell, Expr.forgetStarts, c.forgetStarts_respell condition,
      b.forgetStarts_respell consequence, a.forgetStarts_respell alternative]
  | .function _ ps b, agrees => by
    obtain ⟨rfl, parameters, body⟩ := agrees
    simp [Expr.respell, Expr.forgetStarts, Ident.map_respell_eq parameters,
      b.forgetStarts_respell body]
  | .call _ f as, agrees => by
    obtain ⟨rfl, callee, arguments⟩ := agrees
    simp [Expr.respell, Expr.forgetStarts, f.forgetStarts_respell callee,
      Expr.forgetStartsAll_respellAll as arguments]

theorem Expr.forgetStartsAll_respellAll : ∀ es : List Expr, Expr.AllAgree es →
    Expr.forgetStartsAll (Expr.respellAll es) = Expr.forgetStartsAll es
  | [], _ => rfl
  | e :: es, agree => by
    simp [Expr.respellAll, Expr.forgetStartsAll, e.forgetStarts_respell agree.1,
      Expr.forgetStartsAll_respellAll es agree.2]

theorem Stmt.forgetStarts_respell : ∀ s : Stmt, s.Agrees →
    s.respell.forgetStarts = s.forgetStarts
  | .let_ _ _ v, agrees => by
    obtain ⟨rfl, name, value⟩ := agrees
    simp [Stmt.respell, Stmt.forgetStarts, name.respell_eq, v.forgetStarts_respell value]
  | .return_ _ v, agrees => by
    obtain ⟨rfl, value⟩ := agrees
    simp [Stmt.respell, Stmt.forgetStarts, v.forgetStarts_respell value]
  | .expr _ v, agrees => by
    simp [Stmt.respell, Stmt.forgetStarts, v.forgetStarts_respell agrees.2]

theorem Stmt.forgetStartsAll_respellAll : ∀ ss : List Stmt, Stmt.AllAgree ss →
    Stmt.forgetStartsAll (Stmt.respellAll ss) = Stmt.forgetStartsAll ss
  | [], _ => rfl
  | s :: ss, agree => by
    simp [Stmt.respellAll, Stmt.forgetStartsAll, s.forgetStarts_respell agree.1,
      Stmt.forgetStartsAll_respellAll ss agree.2]

theorem Block.forgetStarts_respell : ∀ b : Block, b.Agrees →
    b.respell.forgetStarts = b.forgetStarts
  | ⟨_, ss⟩, agrees => by
    obtain ⟨rfl, body⟩ := agrees
    simp [Block.respell, Block.forgetStarts, Stmt.forgetStartsAll_respellAll ss body]

end

theorem Program.forgetStarts_respell (p : Program) (agrees : p.Agrees) :
    p.respell.forgetStarts = p.forgetStarts :=
  congrArg Program.mk (Stmt.forgetStartsAll_respellAll p.statements agrees)

theorem Ident.map_name_respell (is : List Ident) :
    (is.map Ident.respell).map Ident.name = is.map Ident.name := by
  simp [Ident.respell]

mutual

/-- A text shows the spelling of integers, and of no other token. -/
theorem Expr.text_respell : ∀ e : Expr, e.respell.text = e.text
  | .hole | .ident _ | .int _ _ | .bool _ true | .bool _ false => rfl
  | .unary _ _ e => by simp [Expr.respell, Expr.text, e.text_respell]
  | .binary _ _ l r => by simp [Expr.respell, Expr.text, l.text_respell, r.text_respell]
  | .ifThen _ c b => by simp [Expr.respell, Expr.text, c.text_respell, b.text_respell]
  | .ifThenElse _ c b a => by
    simp [Expr.respell, Expr.text, c.text_respell, b.text_respell, a.text_respell]
  | .function _ ps b => by
    rw [Expr.respell, Expr.text, Ident.map_name_respell, b.text_respell, Expr.text]
  | .call _ f as => by simp [Expr.respell, Expr.text, f.text_respell, Expr.texts_respellAll as]

theorem Expr.texts_respellAll : ∀ es : List Expr, Expr.texts (Expr.respellAll es) = Expr.texts es
  | [] => rfl
  | e :: es => by simp [Expr.respellAll, Expr.texts, e.text_respell, Expr.texts_respellAll es]

theorem Stmt.text_respell : ∀ s : Stmt, s.respell.text = s.text
  | .let_ _ _ v => by simp [Stmt.respell, Stmt.text, Ident.respell, v.text_respell]
  | .return_ _ v => by simp [Stmt.respell, Stmt.text, v.text_respell]
  | .expr _ v => by simp [Stmt.respell, Stmt.text, v.text_respell]

theorem Stmt.texts_respellAll : ∀ ss : List Stmt, Stmt.texts (Stmt.respellAll ss) = Stmt.texts ss
  | [] => rfl
  | s :: ss => by simp [Stmt.respellAll, Stmt.texts, s.text_respell, Stmt.texts_respellAll ss]

theorem Block.text_respell : ∀ b : Block, b.respell.text = b.text
  | ⟨_, ss⟩ => by simp [Block.respell, Block.text, Stmt.texts_respellAll ss]

end

/-- The text of a program joins the texts of its statements. -/
theorem Program.text_eq (p : Program) :
    p.text = String.join ((Stmt.texts p.statements).map (· ++ "\n")) := by
  rw [Program.text, Stmt.texts_eq_map, List.map_map]
  rfl

/-- Respelling a program does not change its text. -/
theorem Program.text_respell (p : Program) : p.respell.text = p.text := by
  rw [Program.text_eq, Program.text_eq, Program.respell, Stmt.texts_respellAll]

/-! ## Reading again -/

/-- What is read of the text of the program. -/
def Program.reread (p : Program) : Parsed Program := parse p.text

/-- A program without holes is read again as the program with the printed tokens, which is read
again as itself. -/
theorem Program.reread_eq (p : Program) (printable : p.Printable) (complete : p.holes = 0) :
    p.reread.errors = [] ∧ p.reread.value = p.respell ∧ p.reread.value.reread = p.reread := by
  obtain ⟨value, errors⟩ := parse_text_eq p printable complete
  refine ⟨errors, value, ?_⟩
  rw [Program.reread, Program.reread, value, p.text_respell]

/-- The text of a program without holes is rendered as itself. -/
theorem Program.render_text (p : Program) (printable : p.Printable) (complete : p.holes = 0) :
    render .tree p.text = .ok p.text := by
  obtain ⟨errors, value, -⟩ := p.reread_eq printable complete
  rw [Program.reread] at errors value
  simp only [render]
  rw [if_pos errors, value, p.text_respell]

/-- A source without holes, printed and read again, has no errors and is the same program but for
the tokens of expression statements. Its text is the same, and so is the program that is read from
that text. So what a source is rendered as is rendered as itself. -/
theorem reread_parse (source : String) :
    ((parse source).value.holes = 0 →
      (parse source).value.reread.errors = [] ∧
      (parse source).value.reread.value.forgetStarts = (parse source).value.forgetStarts ∧
      (parse source).value.reread.value.text = (parse source).value.text ∧
      (parse source).value.reread.value.reread.value = (parse source).value.reread.value) ∧
      ∀ out, render .tree source = .ok out → render .tree out = .ok out := by
  refine ⟨fun complete => ?_, fun out rendered => ?_⟩
  · obtain ⟨errors, value, stable⟩ :=
      (parse source).value.reread_eq (printable_parse source) complete
    refine ⟨errors, ?_, ?_, by rw [stable]⟩
    · rw [value, Program.forgetStarts_respell _ (agrees_parse source)]
    · rw [value, Program.text_respell]
  · simp only [render] at rendered
    split at rendered
    · next clean =>
      obtain rfl := Except.ok.inj rendered
      have bound := holes_le_errors source
      rw [clean, List.length_nil, Nat.le_zero] at bound
      exact Program.render_text _ (printable_parse source) bound
    · cases rendered

/-- The source `let 007 + x`, a `let` without a name before a sum. -/
def namelessLet : List Token := [.word "let", .number "007", .symbol '+', .word "x"]

theorem tokens_namelessLet : tokens (spell namelessLet) = namelessLet :=
  tokens_spell_of_whole (by decide)

theorem reread_namelessLet :
    (parse (spell namelessLet)).errors ≠ [] ∧ (parse (spell namelessLet)).value.holes = 0 ∧
      (parse (spell namelessLet)).value.reread.errors = [] ∧
      (parse (spell namelessLet)).value.reread.value.forgetStarts =
        (parse (spell namelessLet)).value.forgetStarts ∧
      (parse (spell namelessLet)).value.reread.value.text =
        (parse (spell namelessLet)).value.text ∧
      (parse (spell namelessLet)).value.reread.value.reread.value =
        (parse (spell namelessLet)).value.reread.value := by
  have incomplete : (parse (spell namelessLet)).errors ≠ [] := by
    rw [parse, tokens_namelessLet]
    decide
  have complete : (parse (spell namelessLet)).value.holes = 0 := by
    rw [parse, tokens_namelessLet]
    rfl
  exact ⟨incomplete, complete, (reread_parse (spell namelessLet)).1 complete⟩

end LetFn
