import LetFn.Text.Bytes
import LetFn.Text.Cluster.Basic

/-!
# Backspaces in a typed line

A line that comes from a keyboard or its like may hold backspaces. Each takes back the grapheme
cluster that was written last, if there is one, and is not written itself.

What a backspace takes back is counted in bytes, and the count of a cluster is kept in a single
byte: of a cluster of 256 bytes or more only the remainder is taken back.
-/

namespace LetFn.Text

/-- The character that takes back what was written last. -/
def backspace : Char := '\x08'

/-- A line while it is written: its characters, and for each cluster that can be taken back the
number of bytes that go with it, both newest first. -/
structure Draft where
  written : List Char
  sizes : List Nat
  deriving DecidableEq, Repr

namespace Draft

/-- The empty line. -/
def empty : Draft := ⟨[], []⟩

/-- The line with one more cluster. -/
def write (d : Draft) (cluster : List Char) : Draft :=
  ⟨cluster.reverse ++ d.written, byteLength cluster % 256 :: d.sizes⟩

/-- The line without what was written last. -/
def takeBack (d : Draft) : Draft :=
  match d.sizes with
  | [] => d
  | size :: sizes => ⟨dropBytes size d.written, sizes⟩

/-- The line after a cluster was typed. -/
def type (d : Draft) (cluster : List Char) : Draft :=
  if cluster = [backspace] then d.takeBack else d.write cluster

end Draft

/-- The line that is left when the backspaces in it have taken effect. -/
def applyBackspaces (line : String) : String :=
  String.ofList ((clusters line.toList).foldl Draft.type Draft.empty).written.reverse

end LetFn.Text
