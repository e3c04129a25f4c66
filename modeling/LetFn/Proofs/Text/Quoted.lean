import LetFn.Text.Quoted

/-!
# Reading quoted texts

A quoted text is one line (`oneLine_quoteWith`) and says which text it quotes
(`quoteWith_injective`), whatever set of characters is written as code points.

A character can be written in three ways, alone, after a backslash or as a code point, and each way
tells where it ends: a code point goes up to the closing brace. So the first character can be read
off the front of what is written, and what was written after it is left (`readChar?_encodeChar`).
The way back does not depend on the set.
-/

namespace LetFn.Text

/-! ## Hexadecimal numbers -/

/-- The value of a hexadecimal digit. -/
def hexValue (c : Char) : Nat := if c.isDigit then c.toNat - '0'.toNat else c.toNat - 'a'.toNat + 10

/-- The number that hexadecimal digits stand for, the most significant one first. -/
def ofHex (cs : List Char) : Nat := cs.foldl (fun n c => n * 16 + hexValue c) 0

theorem hexValue_digitChar : ∀ d < 16, hexValue d.digitChar = d := by decide

theorem ofHex_concat (cs : List Char) (c : Char) :
    ofHex (cs ++ [c]) = ofHex cs * 16 + hexValue c := by
  rw [ofHex, List.foldl_append]
  rfl

theorem ofHex_toDigits (n : Nat) : ofHex (Nat.toDigits 16 n) = n := by
  induction n using Nat.strongRecOn with
  | ind n ih =>
  rw [Nat.toDigits_eq_if (by decide)]
  split
  · next h =>
    have value := hexValue_digitChar n h
    rw [← List.nil_append [_], ofHex_concat, value]
    exact Nat.zero_add n
  · next h =>
    rw [ofHex_concat, ih (n / 16) (by omega), hexValue_digitChar _ (Nat.mod_lt n (by decide))]
    omega

theorem mem_toDigits {n : Nat} {c : Char} (h : c ∈ Nat.toDigits 16 n) :
    ∃ d < 16, c = d.digitChar := by
  induction n using Nat.strongRecOn with
  | ind n ih =>
  rw [Nat.toDigits_eq_if (by decide)] at h
  split at h
  · next small => exact ⟨n, small, List.mem_singleton.mp h⟩
  · next large =>
    obtain h | h := List.mem_append.mp h
    · exact ih (n / 16) (by omega) h
    · exact ⟨n % 16, Nat.mod_lt n (by decide), List.mem_singleton.mp h⟩

/-- No digit closes a code point or ends a line. -/
theorem not_mem_toDigits {c : Char} (h : c ∈ ['}', '\n', '\r']) (n : Nat) :
    c ∉ Nat.toDigits 16 n := by
  have digits : ∀ d < 16, d.digitChar ∉ ['}', '\n', '\r'] := by decide
  intro mem
  obtain ⟨d, hd, rfl⟩ := mem_toDigits mem
  exact digits d hd h

/-! ## Reading characters back -/

/-- The first character that is written, and what is written after it. -/
def readChar? : List Char → Option (Char × List Char)
  | '\\' :: '0' :: cs => some ('\x00', cs)
  | '\\' :: 't' :: cs => some ('\t', cs)
  | '\\' :: 'n' :: cs => some ('\n', cs)
  | '\\' :: 'r' :: cs => some ('\r', cs)
  | '\\' :: 'u' :: '{' :: cs =>
    some (Char.ofNat (ofHex (cs.takeWhile (· ≠ '}'))), (cs.dropWhile (· ≠ '}')).tail)
  | '\\' :: c :: cs => some (c, cs)
  | c :: cs => some (c, cs)
  | [] => none

theorem readChar?_codePoint (c : Char) (cs : List Char) :
    readChar? ('\\' :: 'u' :: '{' :: (Nat.toDigits 16 c.toNat ++ '}' :: cs)) = some (c, cs) := by
  have digits : ∀ d ∈ Nat.toDigits 16 c.toNat, decide (d ≠ '}') = true := by
    rintro d hd
    refine decide_eq_true ?_
    rintro rfl
    exact not_mem_toDigits (by decide) _ hd
  rw [readChar?, List.takeWhile_append_of_pos digits, List.dropWhile_append_of_pos digits]
  simp [ofHex_toDigits]

/-- The three ways to write a character. -/
theorem encodeChar_cases (escaped : Char → Bool) (c : Char) :
    (∃ d ∈ ['"', '\\', '0', 't', 'n', 'r'], encodeChar escaped c = ['\\', d] ∧
      ∀ cs, readChar? ('\\' :: d :: cs) = some (c, cs)) ∨
    encodeChar escaped c = '\\' :: 'u' :: '{' :: (Nat.toDigits 16 c.toNat ++ ['}']) ∨
    encodeChar escaped c = [c] ∧ c ∉ ['"', '\\', '\n', '\r'] := by
  by_cases short : c ∈ ['"', '\\', '\x00', '\t', '\n', '\r']
  · simp only [List.mem_cons, List.not_mem_nil, or_false] at short
    obtain rfl | rfl | rfl | rfl | rfl | rfl := short <;>
      exact .inl ⟨_, by decide, rfl, fun _ => rfl⟩
  · simp only [List.mem_cons, List.not_mem_nil, or_false, not_or] at short
    right
    by_cases point : escaped c
    · left
      simp [encodeChar, short, point]
    · right
      simp [encodeChar, short, point]

/-- What is written for a character is read back, whatever is written after it. -/
theorem readChar?_encodeChar (escaped : Char → Bool) (c : Char) (cs : List Char) :
    readChar? (encodeChar escaped c ++ cs) = some (c, cs) := by
  obtain ⟨d, -, code, read⟩ | code | ⟨code, plain⟩ := encodeChar_cases escaped c
  · rw [code]
    exact read cs
  · rw [code]
    simpa using readChar?_codePoint c cs
  · rw [code, List.singleton_append]
    cases cs <;> simp_all [readChar?]

/-- What is written for two characters can be told apart, whatever is written after them. -/
theorem encodeChar_append_inj {escaped : Char → Bool} {c d : Char} {cs ds : List Char}
    (h : encodeChar escaped c ++ cs = encodeChar escaped d ++ ds) : c = d ∧ cs = ds := by
  have read := readChar?_encodeChar escaped c cs
  rw [h, readChar?_encodeChar, Option.some.injEq, Prod.mk.injEq] at read
  exact ⟨read.1.symm, read.2.symm⟩

/-- What is written for a character does not begin with the closing quotation mark. -/
theorem encodeChar_append_ne (escaped : Char → Bool) (c : Char) (cs ds : List Char) :
    encodeChar escaped c ++ cs ≠ '"' :: ds := by
  obtain ⟨d, -, code, -⟩ | code | ⟨code, plain⟩ := encodeChar_cases escaped c
  · simp [code]
  · simp [code]
  · rw [code, List.singleton_append]
    rintro h
    obtain rfl := (List.cons.inj h).1
    exact plain (by decide)

/-! ## Reading texts back -/

/-- A text and what stands after its closing quotation mark can be read back. -/
theorem encode_append_inj {escaped : Char → Bool} {s t cs ds : List Char}
    (h : encode escaped s ++ '"' :: cs = encode escaped t ++ '"' :: ds) : s = t ∧ cs = ds := by
  induction s generalizing t with
  | nil =>
    cases t with
    | nil => exact ⟨rfl, (List.cons.inj h).2⟩
    | cons d t =>
      rw [encode_cons, List.append_assoc] at h
      exact absurd h.symm (encodeChar_append_ne escaped d _ _)
  | cons c s ih =>
    cases t with
    | nil =>
      rw [encode_cons, List.append_assoc] at h
      exact absurd h (encodeChar_append_ne escaped c _ _)
    | cons d t =>
      rw [encode_cons, encode_cons, List.append_assoc, List.append_assoc] at h
      obtain ⟨rfl, rest⟩ := encodeChar_append_inj h
      obtain ⟨rfl, after⟩ := ih rest
      exact ⟨rfl, after⟩

theorem toList_quoteWith (escaped : Char → Bool) (s : String) :
    (quoteWith escaped s).toList = '"' :: (encode escaped s.toList ++ ['"']) := by
  simp [quoteWith]

theorem quoteWith_injective (escaped : Char → Bool) : Function.Injective (quoteWith escaped) := by
  intro s t h
  replace h := congrArg String.toList h
  rw [toList_quoteWith, toList_quoteWith] at h
  exact String.toList_inj.mp (encode_append_inj (List.cons.inj h).2).1

/-! ## Lines -/

/-- The text is one line: neither a line feed nor a carriage return is in it. -/
def OneLine (s : String) : Prop := ∀ c ∈ ['\n', '\r'], c ∉ s.toList

@[simp] theorem oneLine_append {s t : String} : OneLine (s ++ t) ↔ OneLine s ∧ OneLine t := by
  simp [OneLine, and_and_and_comm]

theorem not_mem_encodeChar {d : Char} (h : d ∈ ['\n', '\r']) (escaped : Char → Bool) (c : Char) :
    d ∉ encodeChar escaped c := by
  obtain ⟨e, he, code, -⟩ | code | ⟨code, plain⟩ := encodeChar_cases escaped c <;> rw [code]
  · have other : ∀ e ∈ ['"', '\\', '0', 't', 'n', 'r'], ∀ d ∈ ['\n', '\r'], d ∉ ['\\', e] := by
      simp
    exact other e he d h
  · have digits : d ∉ Nat.toDigits 16 c.toNat := not_mem_toDigits (List.mem_cons_of_mem _ h) _
    have marks : ∀ d ∈ ['\n', '\r'], d ∉ ['\\', 'u', '{', '}'] := by simp
    have other := marks d h
    simp_all
  · rintro mem
    obtain rfl := List.mem_singleton.mp mem
    exact plain (List.mem_cons_of_mem _ (List.mem_cons_of_mem _ h))

theorem not_mem_encode {d : Char} (h : d ∈ ['\n', '\r']) (escaped : Char → Bool) (s : List Char) :
    d ∉ encode escaped s := by
  intro mem
  obtain ⟨c, -, hc⟩ := List.mem_flatMap.mp mem
  exact not_mem_encodeChar h escaped c hc

/-- A quoted text is one line. -/
theorem oneLine_quoteWith (escaped : Char → Bool) (s : String) : OneLine (quoteWith escaped s) := by
  have inner : OneLine (String.ofList (encode escaped s.toList)) := fun d hd => by
    rw [String.toList_ofList]
    exact not_mem_encode hd escaped s.toList
  have mark : OneLine "\"" := by simp [OneLine]
  rw [quoteWith, oneLine_append, oneLine_append]
  exact ⟨⟨mark, inner⟩, mark⟩

end LetFn.Text
