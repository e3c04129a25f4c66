/-!
# Values of integer literals

A numeral of at least two digits that begins with `0` is octal, any other is decimal. Its value
is built digit by digit and has to stay below `2 ^ 63` all the way, so the digits of a rejected
numeral are never summed up.
-/

namespace LetFn.Numeral

/-- The largest value of a literal, one below `2 ^ 63`. -/
def maxValue : Nat := 9223372036854775807

/-- The value of a character as a digit of the base. -/
def digit? (base : Nat) (c : Char) : Option Nat :=
  if c.isDigit && c.toNat - '0'.toNat < base then some (c.toNat - '0'.toNat) else none

/-- The value of the digits after a beginning of value `acc`, if each is a digit of the base and
no value on the way exceeds `maxValue`. -/
def extend? (base : Nat) : Nat → List Char → Option Nat
  | acc, [] => some acc
  | acc, c :: cs =>
    match digit? base c with
    | none => none
    | some d => if acc * base + d ≤ maxValue then extend? base (acc * base + d) cs else none

/-- The value of a non-empty numeral in the base. -/
def inBase? (base : Nat) (cs : List Char) : Option Nat :=
  if cs.isEmpty then none else extend? base 0 cs

/-- The value of an integer literal. -/
def value? (literal : String) : Option Int :=
  match literal.toList with
  | '0' :: c :: cs => (inBase? 8 (c :: cs)).map Int.ofNat
  | cs => (inBase? 10 cs).map Int.ofNat

end LetFn.Numeral
