import LetFn.Text.Unprintable

/-!
# Quoted texts

A quoted text stands between double quotation marks on one line. Inside it

* a quotation mark and a backslash follow a backslash;
* NUL, tab, line feed and carriage return are `\0`, `\t`, `\n` and `\r`;
* a character of a given set is `\u`, its code point in lower-case hexadecimal digits without
  leading zeros between braces;
* every other character stands for itself.

`quoteWith` takes the set as a parameter, `quote` takes the characters that cannot be seen.
-/

namespace LetFn.Text

/-- One character of a quoted text. -/
def encodeChar (escaped : Char → Bool) (c : Char) : List Char :=
  if c = '"' then ['\\', '"']
  else if c = '\\' then ['\\', '\\']
  else if c = '\x00' then ['\\', '0']
  else if c = '\t' then ['\\', 't']
  else if c = '\n' then ['\\', 'n']
  else if c = '\r' then ['\\', 'r']
  else if escaped c then ['\\', 'u', '{'] ++ Nat.toDigits 16 c.toNat ++ ['}']
  else [c]

/-- The characters of a text as they stand between quotation marks. -/
def encode (escaped : Char → Bool) (s : List Char) : List Char :=
  s.flatMap (encodeChar escaped)

@[simp] theorem encode_nil (escaped : Char → Bool) : encode escaped [] = [] := rfl

@[simp] theorem encode_cons (escaped : Char → Bool) (c : Char) (s : List Char) :
    encode escaped (c :: s) = encodeChar escaped c ++ encode escaped s := by
  simp [encode]

/-- The text between quotation marks, with the characters of `escaped` written as code points. -/
def quoteWith (escaped : Char → Bool) (s : String) : String :=
  "\"" ++ String.ofList (encode escaped s.toList) ++ "\""

/-- The text between quotation marks, with the characters that cannot be seen written as code
points. -/
def quote (s : String) : String := quoteWith isUnprintable s

end LetFn.Text
