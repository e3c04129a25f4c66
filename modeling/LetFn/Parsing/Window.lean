import LetFn.Parsing.Error
import LetFn.Tree.Basic

/-!
# Windows on tokens

A program is read through a window that shows two tokens, the current one and the one after it, and
that moves forward only. On its way it is told of the statements that begin and of the errors that
are met, and also of a reading that is cut short, should the budget for it run out. `Window` is what
reading asks of a window; where the tokens come from is left to it. There are two windows: `Reader`
moves along a list of tokens, and `Parser` scans a text as it goes.

Every function that reads leaves the current token on the last token of the construct it read, so
that the first token after it is `peek`.
-/

namespace LetFn

/-- What reading asks of a window on tokens. -/
class Window (ρ : Type) where
  /-- The token that the window is on. -/
  current : ρ → Token
  /-- The token after the current one. -/
  peek : ρ → Token
  /-- The window one token further. -/
  advance : ρ → ρ
  /-- The window at the beginning of a statement. -/
  enter : ρ → ρ
  /-- The window with one more error. -/
  fail : ρ → ParseError → ρ
  /-- The window after a reading that was cut short. -/
  exhaust : ρ → ρ

/-- What was read and the window after it. -/
structure ParsedBy (ρ α : Type) where
  value : α
  after : ρ

namespace Window

variable {ρ : Type} [Window ρ]

/-- The window after it found another token than one of the kind. -/
def missing (r : ρ) (kind : Kind) : ρ := fail r (.unexpected kind (peek r).kind)

/-- The window after an optional semicolon. -/
def skipSemicolon (r : ρ) : ρ := if (peek r).kind = .semicolon then advance r else r

/-- The current token as a name. -/
def ident (r : ρ) : Ident := ⟨current r, (current r).literal⟩

end Window

end LetFn
