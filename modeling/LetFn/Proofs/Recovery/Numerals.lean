import LetFn.Proofs.Grammar.Complete
import LetFn.Proofs.Recovery.Faults
import Mathlib.Data.Nat.Digits.Defs

/-!
# Integer literals have a value or are reported

A literal is read digit by digit into a number that is checked at each digit. What comes out is the
number for which the digits stand by their positions (`Numeral.positional`):

* in base eight if the literal has two or more digits and the first is `0`, provided that neither
  `8` nor `9` is among the others (`Numeral.value?_octal_iff`);
* in base ten otherwise (`Numeral.value?_decimal_iff`);
* and only as long as this number is at most `2 ^ 63 - 1`. A number that is too large once stays so
  with more digits, so it does not matter where the check fails (`Numeral.extend?_eq_some_iff`).

A literal without a value is a fault of its token alone, and faults are found wherever the tokens
stand (`filter_isFault_errors`). So of all literals of a source exactly those without a value are
reported, in their order (`integers_valued_or_reported`).
-/

namespace LetFn

namespace Numeral

/-! ## Positions -/

/-- The value of a digit. -/
def digit (c : Char) : Nat := c.toNat - '0'.toNat

/-- The number that digits stand for by their positions. -/
def positional (base : Nat) (cs : List Char) : Nat := Nat.ofDigits base (cs.map digit).reverse

variable {base acc : Nat} {c : Char} {cs : List Char}

@[simp] theorem positional_nil (base : Nat) : positional base [] = 0 := rfl

theorem positional_cons (base : Nat) (c : Char) (cs : List Char) :
    positional base (c :: cs) = digit c * base ^ cs.length + positional base cs := by
  rw [positional, List.map_cons, List.reverse_cons, Nat.ofDigits_append, Nat.ofDigits_singleton,
    List.length_reverse, List.length_map, Nat.add_comm, Nat.mul_comm]
  rfl

theorem digit?_eq (h : c.isDigit = true) :
    digit? base c = if digit c < base then some (digit c) else none := by
  simp only [digit?, h, Bool.true_and, decide_eq_true_eq]
  rfl

/-- Going on digit by digit gives the number that the digits stand for, and nothing if this number
or one of the digits is too large. -/
theorem extend?_eq_some_iff {v : Nat} (positive : 0 < base) (bounded : acc ≤ maxValue)
    (digits : ∀ c ∈ cs, c.isDigit = true) :
    extend? base acc cs = some v ↔ (∀ c ∈ cs, digit c < base) ∧
      acc * base ^ cs.length + positional base cs = v ∧ v ≤ maxValue := by
  induction cs generalizing acc with
  | nil =>
    rw [extend?, Option.some.injEq, List.length_nil, pow_zero, mul_one, positional_nil, add_zero]
    constructor
    · rintro rfl
      exact ⟨List.forall_mem_nil _, rfl, bounded⟩
    · exact fun h => h.2.1
  | cons c cs ih =>
    have ⟨digit_c, digits_cs⟩ := List.forall_mem_cons.mp digits
    have shift : acc * base ^ (cs.length + 1) + (digit c * base ^ cs.length + positional base cs) =
        (acc * base + digit c) * base ^ cs.length + positional base cs := by ring
    rw [List.forall_mem_cons, positional_cons, List.length_cons, shift, extend?,
      digit?_eq digit_c]
    by_cases small : digit c < base
    · by_cases fits : acc * base + digit c ≤ maxValue
      · simp only [small, if_true, fits, true_and]
        exact ih fits digits_cs
      · -- the number does not get smaller with more digits
        have grows : acc * base + digit c ≤ (acc * base + digit c) * base ^ cs.length :=
          Nat.le_mul_of_pos_right _ (Nat.pow_pos positive)
        simp only [small, if_true, fits, if_false, reduceCtorEq, false_iff]
        rintro ⟨-, h, le⟩
        omega
    · simp [small]

theorem inBase?_eq_some_iff {v : Nat} (positive : 0 < base) (nonempty : cs ≠ [])
    (digits : ∀ c ∈ cs, c.isDigit = true) :
    inBase? base cs = some v ↔
      (∀ c ∈ cs, digit c < base) ∧ positional base cs = v ∧ v ≤ maxValue := by
  have empty : cs.isEmpty = false := List.isEmpty_eq_false_iff.mpr nonempty
  rw [inBase?, empty, if_neg Bool.false_ne_true,
    extend?_eq_some_iff positive (Nat.zero_le _) digits, Nat.zero_mul, Nat.zero_add]

/-- Zeros at the beginning change nothing. -/
theorem inBase?_zeros (n : Nat) (positive : 0 < base) (nonempty : cs ≠ []) :
    inBase? base (List.replicate n '0' ++ cs) = inBase? base cs := by
  have zero : digit? base '0' = some 0 := by
    rw [digit?_eq rfl]
    exact if_pos positive
  have extended : extend? base 0 (List.replicate n '0' ++ cs) = extend? base 0 cs := by
    induction n with
    | zero => rfl
    | succ n ih => simp [List.replicate_succ, extend?, zero, ih]
  simp [inBase?, nonempty, extended]

/-! ## The two bases -/

theorem maxValue_eq : maxValue = 2 ^ 63 - 1 := rfl

theorem toNat_of_isDigit (h : c.isDigit = true) : 48 ≤ c.toNat ∧ c.toNat ≤ 57 := by
  simp only [Char.isDigit, Bool.and_eq_true, decide_eq_true_eq, UInt32.le_iff_toNat_le] at h
  exact h

theorem digit_lt_ten (h : c.isDigit = true) : digit c < 10 := by
  have bounds := toNat_of_isDigit h
  have zero : '0'.toNat = 48 := rfl
  rw [digit]
  omega

/-- All digits but two are octal. -/
theorem digit_lt_eight_iff (h : c.isDigit = true) : digit c < 8 ↔ c ≠ '8' ∧ c ≠ '9' := by
  have bounds := toNat_of_isDigit h
  have zero : '0'.toNat = 48 := rfl
  have eight : '8'.toNat = 56 := rfl
  have nine : '9'.toNat = 57 := rfl
  rw [digit, Ne, Ne, ← Char.toNat_inj, ← @Char.toNat_inj c]
  omega

/-- A literal is octal if it has at least two digits and the first is `0`. -/
def IsOctal (cs : List Char) : Prop := ∃ rest, rest ≠ [] ∧ cs = '0' :: rest

variable {literal : String} {rest : List Char} {value : Int}

theorem value?_octal (octal : literal.toList = '0' :: rest) (nonempty : rest ≠ []) :
    value? literal = (inBase? 8 rest).map Int.ofNat := by
  obtain ⟨c, cs, rfl⟩ := List.exists_cons_of_ne_nil nonempty
  rw [value?, octal]
  rfl

theorem value?_decimal (decimal : ¬IsOctal literal.toList) :
    value? literal = (inBase? 10 literal.toList).map Int.ofNat := by
  rw [value?]
  split
  · next c cs octal => exact absurd ⟨c :: cs, List.cons_ne_nil c cs, octal⟩ decimal
  · rfl

/-- An octal literal has a value if no digit is too large for the base and the number not too
large for the type. -/
theorem value?_octal_iff (octal : literal.toList = '0' :: rest) (nonempty : rest ≠ [])
    (digits : ∀ c ∈ literal.toList, c.isDigit = true) :
    value? literal = some value ↔ '8' ∉ rest ∧ '9' ∉ rest ∧
      value = positional 8 rest ∧ positional 8 rest ≤ 2 ^ 63 - 1 := by
  rw [octal, List.forall_mem_cons] at digits
  rw [value?_octal octal nonempty, Option.map_eq_some_iff]
  constructor
  · rintro ⟨n, hn, rfl⟩
    obtain ⟨small, rfl, bounded⟩ := (inBase?_eq_some_iff (by decide) nonempty digits.2).mp hn
    exact ⟨fun mem => absurd (small _ mem) (by decide),
      fun mem => absurd (small _ mem) (by decide), rfl, maxValue_eq ▸ bounded⟩
  · rintro ⟨eight, nine, rfl, bounded⟩
    have small : ∀ c ∈ rest, digit c < 8 := fun c mem =>
      (digit_lt_eight_iff (digits.2 c mem)).mpr
        ⟨ne_of_mem_of_not_mem mem eight, ne_of_mem_of_not_mem mem nine⟩
    exact ⟨_, (inBase?_eq_some_iff (by decide) nonempty digits.2).mpr
      ⟨small, rfl, maxValue_eq ▸ bounded⟩, rfl⟩

/-- Any other literal has a value if the number is not too large for the type. -/
theorem value?_decimal_iff (decimal : ¬IsOctal literal.toList) (nonempty : literal.toList ≠ [])
    (digits : ∀ c ∈ literal.toList, c.isDigit = true) :
    value? literal = some value ↔
      value = positional 10 literal.toList ∧ positional 10 literal.toList ≤ 2 ^ 63 - 1 := by
  have small : ∀ c ∈ literal.toList, digit c < 10 := fun c mem => digit_lt_ten (digits c mem)
  rw [value?_decimal decimal, Option.map_eq_some_iff]
  constructor
  · rintro ⟨n, hn, rfl⟩
    obtain ⟨-, rfl, bounded⟩ := (inBase?_eq_some_iff (by decide) nonempty digits).mp hn
    exact ⟨rfl, maxValue_eq ▸ bounded⟩
  · rintro ⟨rfl, bounded⟩
    exact ⟨_, (inBase?_eq_some_iff (by decide) nonempty digits).mpr
      ⟨small, rfl, maxValue_eq ▸ bounded⟩, rfl⟩

/-- A value is a number below `2 ^ 63`. -/
theorem value?_bounds (nonempty : literal.toList ≠ [])
    (digits : ∀ c ∈ literal.toList, c.isDigit = true) (h : value? literal = some value) :
    0 ≤ value ∧ value < 2 ^ 63 := by
  by_cases octal : IsOctal literal.toList
  · obtain ⟨rest, rest_nonempty, octal⟩ := octal
    obtain ⟨-, -, rfl, bounded⟩ := (value?_octal_iff octal rest_nonempty digits).mp h
    omega
  · obtain ⟨rfl, bounded⟩ := (value?_decimal_iff octal nonempty digits).mp h
    omega

/-- After one zero any number of further zeros change nothing. -/
theorem value?_zeros (n : Nat) (nonempty : cs ≠ []) :
    value? (String.ofList (List.replicate (n + 1) '0' ++ cs)) =
      value? (String.ofList ('0' :: cs)) := by
  have all : List.replicate n '0' ++ cs ≠ [] := List.append_ne_nil_of_right_ne_nil _ nonempty
  rw [List.replicate_succ, List.cons_append, value?_octal String.toList_ofList all,
    value?_octal String.toList_ofList nonempty, inBase?_zeros n (by decide) nonempty]

end Numeral

/-! ## Reports -/

/-- The literal that an error reports as one without a value. -/
def ParseError.badLiteral? : ParseError → Option String
  | badInteger literal => some literal
  | _ => none

/-- The integer literals among the tokens that have no value, in their order. -/
def badLiterals (ts : List Token) : List String :=
  (ts.filter fun t => t.kind = .int ∧ Numeral.value? t.literal = none).map Token.literal

/-- Among the faults of tokens those of integer literals are the ones without a value. -/
theorem badLiterals_eq (ts : List Token) :
    (faults ts).filterMap ParseError.badLiteral? = badLiterals ts := by
  induction ts with
  | nil => rfl
  | cons t ts ih =>
    rw [faults_eq, first_cons, List.tail_cons, List.filterMap_append, ih, badLiterals, badLiterals,
      List.filter_cons, Token.fault?]
    split
    · next kind => simp [kind, ParseError.badLiteral?]
    · next kind =>
      cases value : Numeral.value? t.literal <;> simp [kind, ParseError.badLiteral?]
    · next int => simp [show t.kind ≠ .int from int]

/-- Only faults report literals. -/
theorem filterMap_badLiteral? (errors : List ParseError) :
    (errors.filter ParseError.isFault).filterMap ParseError.badLiteral? =
      errors.filterMap ParseError.badLiteral? := by
  rw [List.filterMap_filter]
  refine List.filterMap_congr fun error _ => ?_
  cases error with
  | unexpected => rfl
  | noExpression k => cases k <;> rfl
  | badInteger => rfl

/-- A literal has the value of its digits in its base, as long as this is below `2 ^ 63` and, in
base eight, all digits are octal. The literals of a source that have no value are reported, each
once and in the order of the source. -/
theorem integers_valued_or_reported (literal : String) (nonempty : literal.toList ≠ [])
    (digits : ∀ c ∈ literal.toList, c.isDigit = true) (source : String) :
    (∀ rest, rest ≠ [] → literal.toList = '0' :: rest → ∀ value,
      Numeral.value? literal = some value ↔ '8' ∉ rest ∧ '9' ∉ rest ∧
        value = Numeral.positional 8 rest ∧ Numeral.positional 8 rest ≤ 2 ^ 63 - 1) ∧
    (¬Numeral.IsOctal literal.toList → ∀ value,
      Numeral.value? literal = some value ↔
        value = Numeral.positional 10 literal.toList ∧
          Numeral.positional 10 literal.toList ≤ 2 ^ 63 - 1) ∧
    (∀ value, Numeral.value? literal = some value → 0 ≤ value ∧ value < 2 ^ 63) ∧
    (∀ n, Numeral.value? (String.ofList (List.replicate (n + 1) '0' ++ literal.toList)) =
      Numeral.value? (String.ofList ('0' :: literal.toList))) ∧
    (parse source).errors.filterMap ParseError.badLiteral? = badLiterals (tokens source) := by
  refine ⟨fun rest some octal value => Numeral.value?_octal_iff octal some digits,
    fun decimal value => Numeral.value?_decimal_iff decimal nonempty digits,
    fun value h => Numeral.value?_bounds nonempty digits h,
    fun n => Numeral.value?_zeros n nonempty, ?_⟩
  rw [← badLiterals_eq, ← filter_isFault_errors (eofless_tokens source), filterMap_badLiteral?,
    parse]

/-- The tokens of a group that is not closed, around two integers without a value. -/
def badGroup : List Token :=
  [.symbol '(', .number "09", .symbol '+', .number "9223372036854775808"]

/-- The group is what its spelling is scanned to. -/
theorem tokens_badGroup : tokens (spell badGroup) = badGroup := tokens_spell_of_whole (by decide)

theorem integers_badGroup :
    "0777".toList ≠ [] ∧ (∀ c ∈ "0777".toList, c.isDigit = true) ∧
      Numeral.value? "0777" = some 511 ∧
      (parse (spell badGroup)).errors.filterMap ParseError.badLiteral? =
        ["09", "9223372036854775808"] := by
  have nonempty : "0777".toList ≠ [] := by simp
  have digits : ∀ c ∈ "0777".toList, c.isDigit = true := by simp
  obtain ⟨octal, -, -, -, reported⟩ :=
    integers_valued_or_reported "0777" nonempty digits (spell badGroup)
  refine ⟨nonempty, digits, ?_, ?_⟩
  · exact (octal ['7', '7', '7'] (by decide) rfl 511).mpr (by decide)
  · rw [reported, tokens_badGroup]
    decide

end LetFn
