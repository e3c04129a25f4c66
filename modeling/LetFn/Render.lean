import LetFn.Parsing.Descent
import LetFn.Tree.Text

/-!
# Rendering a source

A source is rendered as the listing of its tokens or as its printed tree. Every source has a
listing. A printed tree is given only when the source has no errors, and the errors otherwise.
-/

namespace LetFn

/-- What a source is rendered as. -/
inductive Mode where
  | tokens
  | tree
  deriving DecidableEq, Repr

namespace Mode

/-- The name by which a mode is asked for. -/
def name : Mode → String
  | tokens => "tokens"
  | tree => "ast"

/-- The mode of the given name. -/
def ofName? (name : String) : Option Mode :=
  [tokens, tree].find? (·.name = name)

theorem ofName?_name (m : Mode) : ofName? m.name = some m := by cases m <;> decide

end Mode

/-- The rendered source, or its errors. -/
def render (mode : Mode) (source : String) : Except (List ParseError) String :=
  match mode with
  | .tokens => .ok (Token.listing (tokens source))
  | .tree =>
    let parsed := parse source
    if parsed.errors = [] then .ok parsed.value.text else .error parsed.errors

end LetFn
