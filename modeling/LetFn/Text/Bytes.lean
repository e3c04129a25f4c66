/-!
# Texts as bytes

Offsets and sizes of texts count the bytes of their UTF-8 form.
-/

namespace LetFn.Text

/-- The number of bytes of a text in UTF-8. -/
def byteLength (s : List Char) : Nat := (String.ofList s).utf8ByteSize

@[simp] theorem byteLength_nil : byteLength [] = 0 := rfl

@[simp] theorem byteLength_append (s t : List Char) :
    byteLength (s ++ t) = byteLength s + byteLength t := by
  simp [byteLength]

/-- The text without its first characters, as many as fit into the given number of bytes. -/
def dropBytes : Nat → List Char → List Char
  | _, [] => []
  | n, c :: s => if c.utf8Size ≤ n then dropBytes (n - c.utf8Size) s else c :: s

end LetFn.Text
