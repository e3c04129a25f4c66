import LetFn.Text.Quoted
import LetFn.Token.Kind

/-!
# Tokens

A token is a kind and the characters it was spelled with. `Token.text` shows both: the name of
the kind, and the quoted spelling in parentheses.
-/

namespace LetFn

/-- A token: its kind and its spelling. -/
structure Token where
  kind : Kind
  literal : String
  deriving DecidableEq, Repr

namespace Token

/-- The token at the end of every text. -/
def eof : Token := ⟨.eof, ""⟩

/-- A token as listings show it, with the characters of `escaped` written as code points. -/
def textWith (escaped : Char → Bool) (t : Token) : String :=
  t.kind.name ++ "(" ++ Text.quoteWith escaped t.literal ++ ")"

/-- A token as listings and the trace show it. -/
def text (t : Token) : String := t.textWith Text.isUnprintable

/-- A listing: one token a line. -/
def listingWith (escaped : Char → Bool) (ts : List Token) : String :=
  String.join (ts.map fun t => t.textWith escaped ++ "\n")

/-- One token a line, with the characters that cannot be seen written as code points. -/
def listing (ts : List Token) : String := listingWith Text.isUnprintable ts

end Token

end LetFn
