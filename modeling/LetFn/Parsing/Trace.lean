import LetFn.Parsing.Parser

/-!
# The trace of a parse

The trace tells what happened while a source was read, record by record: each token when it is
scanned, each step of the parser, each statement that begins and each error.
-/

namespace LetFn

/-- The trace of a source. -/
def trace (source : String) : List Record := (Parser.ofText source).program.after.recordList

end LetFn
