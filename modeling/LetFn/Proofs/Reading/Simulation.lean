import LetFn.Parsing.Descent

/-!
# Windows that cannot be told apart

What a descent reads depends on the tokens that the window shows only. Two windows are alike if a
relation between their states says that they show the same tokens, and holds again after each of
their steps (`Window.Simulation`). A descent with the same budget then reads the same through both
of them, and leaves them related (`Descent.agree`).

The induction is on the budget, with one lemma for each function of the descent. `Descent.Agree`
collects what is known of the calls with a smaller budget.
-/

namespace LetFn

/-- Related windows show the same tokens, and stay related. -/
structure Window.Simulation {ρ σ : Type} [Window ρ] [Window σ] (R : ρ → σ → Prop) : Prop where
  current {r : ρ} {s : σ} : R r s → Window.current r = Window.current s
  peek {r : ρ} {s : σ} : R r s → Window.peek r = Window.peek s
  advance {r : ρ} {s : σ} : R r s → R (Window.advance r) (Window.advance s)
  enter {r : ρ} {s : σ} : R r s → R (Window.enter r) (Window.enter s)
  fail {r : ρ} {s : σ} (error : ParseError) : R r s → R (Window.fail r error) (Window.fail s error)
  exhaust {r : ρ} {s : σ} : R r s → R (Window.exhaust r) (Window.exhaust s)

/-- The same was read, and the windows after it are related. -/
structure ParsedBy.Alike {ρ σ α : Type} (R : ρ → σ → Prop) (p : ParsedBy ρ α) (q : ParsedBy σ α) :
    Prop where
  value : p.value = q.value
  after : R p.after q.after

open Window ParsedBy

variable {ρ σ : Type} [Window ρ] [Window σ] {R : ρ → σ → Prop} {r : ρ} {s : σ}

namespace Window.Simulation

theorem missing (sim : Simulation R) (h : R r s) (kind : Kind) :
    R (Window.missing r kind) (Window.missing s kind) := by
  rw [Window.missing, Window.missing, sim.peek h]
  exact sim.fail _ h

theorem ident (sim : Simulation R) (h : R r s) : Window.ident r = Window.ident s := by
  rw [Window.ident, Window.ident, sim.current h]

theorem skipSemicolon (sim : Simulation R) (h : R r s) :
    R (Window.skipSemicolon r) (Window.skipSemicolon s) := by
  rw [Window.skipSemicolon, Window.skipSemicolon, sim.peek h]
  split
  · exact sim.advance h
  · exact h

end Window.Simulation

namespace Descent

/-! ## Functions that call no other -/

theorem alike_integer (sim : Simulation R) (h : R r s) : Alike R (integer r) (integer s) := by
  rw [integer, integer, sim.current h]
  split
  · exact ⟨rfl, h⟩
  · exact ⟨rfl, sim.fail _ h⟩

theorem alike_closeGroup (sim : Simulation R) {inner : ParsedBy ρ Expr} {inner' : ParsedBy σ Expr}
    (h : Alike R inner inner') : Alike R (closeGroup inner) (closeGroup inner') := by
  rw [closeGroup, closeGroup, sim.peek h.after]
  split
  · exact ⟨h.value, sim.advance h.after⟩
  · exact ⟨rfl, sim.missing h.after _⟩

theorem alike_closeCall (sim : Simulation R) (token : Token) (callee : Expr)
    {arguments : ParsedBy ρ (List Expr)} {arguments' : ParsedBy σ (List Expr)}
    (h : Alike R arguments arguments') :
    Alike R (closeCall token callee arguments) (closeCall token callee arguments') := by
  rw [closeCall, closeCall, sim.peek h.after, h.value]
  split
  · exact ⟨rfl, sim.advance h.after⟩
  · exact ⟨rfl, sim.missing h.after _⟩

theorem alike_names (sim : Simulation R) (budget : Nat) (found : List Ident) (h : R r s) :
    Alike R (names budget found r) (names budget found s) := by
  induction budget generalizing found r s with
  | zero => exact ⟨rfl, sim.exhaust h⟩
  | succ budget ih =>
    have name := sim.advance h
    simp only [names, sim.peek h, sim.peek name, sim.ident name]
    split
    · split
      · exact ih _ (sim.advance name)
      · split
        · exact ⟨rfl, sim.advance name⟩
        · exact ⟨rfl, sim.missing name _⟩
    · exact ⟨rfl, sim.missing h _⟩

theorem alike_parameters (sim : Simulation R) (budget : Nat) (h : R r s) :
    Alike R (parameters budget r) (parameters budget s) := by
  rw [parameters, parameters, sim.peek h]
  split
  · exact ⟨rfl, sim.advance h⟩
  · exact alike_names sim budget [] h

/-! ## Functions that call each other -/

/-- A descent with the budget reads the same through both windows. -/
structure Agree (R : ρ → σ → Prop) (budget : Nat) : Prop where
  expression (floor : Precedence) {r : ρ} {s : σ} :
    R r s → Alike R (expression budget floor r) (expression budget floor s)
  operand (start : Start) {r : ρ} {s : σ} :
    R r s → Alike R (operand budget start r) (operand budget start s)
  climb (floor : Precedence) (left : Expr) {r : ρ} {s : σ} :
    R r s → Alike R (climb budget floor left r) (climb budget floor left s)
  continued (next : Continuation) (left : Expr) {r : ρ} {s : σ} :
    R r s → Alike R (continued budget next left r) (continued budget next left s)
  arguments (found : List Expr) {r : ρ} {s : σ} :
    R r s → Alike R (arguments budget found r) (arguments budget found s)
  conditional {r : ρ} {s : σ} : R r s → Alike R (conditional budget r) (conditional budget s)
  function {r : ρ} {s : σ} : R r s → Alike R (function budget r) (function budget s)
  block {r : ρ} {s : σ} : R r s → Alike R (block budget r) (block budget s)
  statements (scope : Scope) (found : List Stmt) {r : ρ} {s : σ} :
    R r s → Alike R (statements budget scope found r) (statements budget scope found s)
  statement {r : ρ} {s : σ} : R r s → Alike R (statement budget r) (statement budget s)

variable {budget : Nat}

namespace Agree

theorem expression_succ (sim : Simulation R) (agree : Agree R budget) (floor : Precedence)
    (h : R r s) :
    Alike R (Descent.expression (budget + 1) floor r)
      (Descent.expression (budget + 1) floor s) := by
  simp only [Descent.expression, sim.current h]
  split
  · exact ⟨rfl, sim.fail _ h⟩
  · next start _ =>
    have first := agree.operand start h
    rw [first.value]
    exact agree.climb floor _ first.after

theorem operand_succ (sim : Simulation R) (agree : Agree R budget) (start : Start) (h : R r s) :
    Alike R (Descent.operand (budget + 1) start r) (Descent.operand (budget + 1) start s) := by
  cases start with
  | name => exact ⟨congrArg Expr.ident (sim.ident h), h⟩
  | integer => exact alike_integer sim h
  | boolean =>
    simp only [Descent.operand, sim.current h]
    exact ⟨rfl, h⟩
  | unary op =>
    have right := agree.expression .unary (sim.advance h)
    simp only [Descent.operand, sim.current h, right.value]
    exact ⟨rfl, right.after⟩
  | group => exact alike_closeGroup sim (agree.expression .lowest (sim.advance h))
  | conditional => exact agree.conditional h
  | function => exact agree.function h

theorem climb_succ (sim : Simulation R) (agree : Agree R budget) (floor : Precedence) (left : Expr)
    (h : R r s) :
    Alike R (Descent.climb (budget + 1) floor left r)
      (Descent.climb (budget + 1) floor left s) := by
  simp only [Descent.climb, sim.peek h]
  split
  · exact ⟨rfl, h⟩
  · next next _ =>
    split
    · have longer := agree.continued next left (sim.advance h)
      rw [longer.value]
      exact agree.climb floor _ longer.after
    · exact ⟨rfl, h⟩

theorem continued_succ (sim : Simulation R) (agree : Agree R budget) (next : Continuation)
    (left : Expr) (h : R r s) :
    Alike R (Descent.continued (budget + 1) next left r)
      (Descent.continued (budget + 1) next left s) := by
  cases next with
  | binary op =>
    have right := agree.expression op.precedence (sim.advance h)
    simp only [Descent.continued, sim.current h, right.value]
    exact ⟨rfl, right.after⟩
  | call =>
    simp only [Descent.continued, sim.current h, sim.peek h]
    split
    · exact ⟨rfl, sim.advance h⟩
    · exact alike_closeCall sim _ left (agree.arguments [] (sim.advance h))

theorem arguments_succ (sim : Simulation R) (agree : Agree R budget) (found : List Expr)
    (h : R r s) :
    Alike R (Descent.arguments (budget + 1) found r)
      (Descent.arguments (budget + 1) found s) := by
  have argument := agree.expression .lowest h
  simp only [Descent.arguments, argument.value, sim.peek argument.after]
  split
  · exact agree.arguments _ (sim.advance (sim.advance argument.after))
  · exact ⟨rfl, argument.after⟩

theorem conditional_succ (sim : Simulation R) (agree : Agree R budget) (h : R r s) :
    Alike R (Descent.conditional (budget + 1) r) (Descent.conditional (budget + 1) s) := by
  have condition := agree.expression .lowest (sim.advance (sim.advance h))
  have closed := sim.advance condition.after
  have consequence := agree.block (sim.advance closed)
  have otherwise := sim.advance consequence.after
  have alternative := agree.block (sim.advance otherwise)
  simp only [Descent.conditional, sim.current h, sim.peek h, sim.peek condition.after,
    sim.peek closed, sim.peek consequence.after, sim.peek otherwise, condition.value,
    consequence.value, alternative.value]
  split
  · split
    · split
      · split
        · split
          · exact ⟨rfl, alternative.after⟩
          · exact ⟨rfl, sim.missing otherwise _⟩
        · exact ⟨rfl, consequence.after⟩
      · exact ⟨rfl, sim.missing closed _⟩
    · exact ⟨rfl, sim.missing condition.after _⟩
  · exact ⟨rfl, sim.missing h _⟩

theorem function_succ (sim : Simulation R) (agree : Agree R budget) (h : R r s) :
    Alike R (Descent.function (budget + 1) r) (Descent.function (budget + 1) s) := by
  have parameters := alike_parameters sim budget (sim.advance h)
  have body := agree.block (sim.advance parameters.after)
  simp only [Descent.function, sim.current h, sim.peek h, sim.peek parameters.after,
    parameters.value, body.value]
  split
  · split
    · exact ⟨rfl, parameters.after⟩
    · split
      · exact ⟨rfl, body.after⟩
      · exact ⟨rfl, sim.missing parameters.after _⟩
  · exact ⟨rfl, sim.missing h _⟩

theorem block_succ (sim : Simulation R) (agree : Agree R budget) (h : R r s) :
    Alike R (Descent.block (budget + 1) r) (Descent.block (budget + 1) s) := by
  have body := agree.statements .block [] (sim.advance h)
  simp only [Descent.block, sim.current h, body.value]
  exact ⟨rfl, body.after⟩

theorem statements_succ (sim : Simulation R) (agree : Agree R budget) (scope : Scope)
    (found : List Stmt) (h : R r s) :
    Alike R (Descent.statements (budget + 1) scope found r)
      (Descent.statements (budget + 1) scope found s) := by
  have one := agree.statement h
  simp only [Descent.statements, sim.current h, one.value]
  split
  · exact ⟨rfl, h⟩
  · exact agree.statements scope _ (sim.advance one.after)

theorem statement_succ (sim : Simulation R) (agree : Agree R budget) (h : R r s) :
    Alike R (Descent.statement (budget + 1) r) (Descent.statement (budget + 1) s) := by
  replace h := sim.enter h
  simp only [Descent.statement, sim.current h]
  split
  · have name := sim.advance h
    have value := agree.expression .lowest (sim.advance (sim.advance name))
    simp only [sim.peek h, sim.peek name, sim.ident name, value.value]
    split
    · split
      · exact ⟨rfl, sim.skipSemicolon value.after⟩
      · exact ⟨rfl, sim.missing name _⟩
    · exact ⟨rfl, sim.missing h _⟩
  · have value := agree.expression .lowest (sim.advance h)
    rw [value.value]
    exact ⟨rfl, sim.skipSemicolon value.after⟩
  · have value := agree.expression .lowest h
    rw [value.value]
    exact ⟨rfl, sim.skipSemicolon value.after⟩

end Agree

/-- A descent reads the same through related windows. -/
theorem agree (sim : Simulation R) (budget : Nat) : Agree R budget := by
  induction budget with
  | zero =>
    exact {
      expression _ _ _ h := ⟨rfl, sim.exhaust h⟩
      operand _ _ _ h := ⟨rfl, sim.exhaust h⟩
      climb _ _ _ _ h := ⟨rfl, sim.exhaust h⟩
      continued _ _ _ _ h := ⟨rfl, sim.exhaust h⟩
      arguments _ _ _ h := ⟨rfl, sim.exhaust h⟩
      conditional h := ⟨rfl, sim.exhaust h⟩
      function h := ⟨rfl, sim.exhaust h⟩
      block h := ⟨by rw [block, block, sim.current h], sim.exhaust h⟩
      statements _ _ _ _ h := ⟨rfl, sim.exhaust h⟩
      statement h := ⟨rfl, sim.exhaust h⟩ }
  | succ budget ih =>
    exact {
      expression floor _ _ h := ih.expression_succ sim floor h
      operand start _ _ h := ih.operand_succ sim start h
      climb floor left _ _ h := ih.climb_succ sim floor left h
      continued next left _ _ h := ih.continued_succ sim next left h
      arguments found _ _ h := ih.arguments_succ sim found h
      conditional h := ih.conditional_succ sim h
      function h := ih.function_succ sim h
      block h := ih.block_succ sim h
      statements scope found _ _ h := ih.statements_succ sim scope found h
      statement h := ih.statement_succ sim h }

end Descent

end LetFn
