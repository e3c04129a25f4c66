import LetFn.Proofs.Scanning.Rule
import LetFn.Text.Bytes
import Mathlib.Data.String.Basic

/-!
# Offsets and characters

A scanner knows its text by byte offsets. `Scanner.At` says which characters are before it and which
are left, the current one first. Where it holds, the offsets are boundaries of characters and
everything cut out between two of them is a run of characters (`slice_eq`).

It holds at the beginning of a text (`ofText_at`), after each character (`At.readChar`) and after
each loop (`At.skipWhile`). So it holds after each token, and the token is the one that the rule of
the longest match gives (`At.token`, `At.next`). What a scanner has left to give is what `scan`
makes of the characters that are left (`At.tokens_eq`), and the tokens of a text are those of its
characters (`tokens_eq_scan`).
-/

namespace LetFn

open Text

namespace Text

theorem byteLength_eq_utf8Len (cs : List Char) : byteLength cs = String.utf8Len cs :=
  String.utf8ByteSize_ofList cs

theorem byteLength_cons (c : Char) (cs : List Char) :
    byteLength (c :: cs) = c.utf8Size + byteLength cs := by
  rw [byteLength_eq_utf8Len, byteLength_eq_utf8Len, String.utf8Len_cons, Nat.add_comm]

theorem byteLength_toList (s : String) : byteLength s.toList = s.utf8ByteSize := by
  rw [byteLength, String.ofList_toList]

end Text

namespace Scanner

/-- The characters before the scanner and those that are left, the current one first. -/
structure At (s : Scanner) (before rest : List Char) : Prop where
  input : s.input = String.ofList (before ++ rest)
  position : s.position = byteLength before
  readPosition : s.readPosition = byteLength before + byteLength (rest.take 1)
  char : s.char = rest.head?

variable {s : Scanner} {before rest : List Char}

/-! ## One character -/

/-- The character at an offset between two characters. -/
theorem peekChar_eq (input : s.input = String.ofList (before ++ rest))
    (readPosition : s.readPosition = byteLength before) : s.peekChar = rest.head? := by
  have size : s.input.utf8ByteSize = byteLength before + byteLength rest := by
    rw [input, ← byteLength_append]
    rfl
  rw [peekChar, size, readPosition]
  cases rest with
  | nil => exact if_neg (by simp)
  | cons c rest =>
    have some : byteLength before < byteLength before + byteLength (c :: rest) := by
      have := c.utf8Size_pos
      rw [byteLength_cons]
      omega
    rw [if_pos some, input, byteLength_eq_utf8Len, String.get_of_valid]
    rfl

/-- A scanner takes the character at an offset between two characters. -/
theorem readChar_at (input : s.input = String.ofList (before ++ rest))
    (readPosition : s.readPosition = byteLength before) : s.readChar.At before rest where
  input := input
  position := readPosition
  readPosition := by
    rw [readChar, peekChar_eq input readPosition, readPosition]
    cases rest with
    | nil => rfl
    | cons c rest => simp [byteLength_cons]
  char := peekChar_eq input readPosition

theorem ofText_at (source : String) : (ofText source).At [] source.toList :=
  readChar_at (by simp) rfl

/-- What is cut out between two boundaries of characters. -/
theorem slice_eq {mid after : List Char}
    (input : s.input = String.ofList (before ++ mid ++ after)) :
    s.slice (byteLength before) (byteLength (before ++ mid)) = String.ofList mid := by
  rw [slice, input, byteLength_append, byteLength_eq_utf8Len, byteLength_eq_utf8Len,
    String.extract_of_valid]

namespace At

theorem input_cons {c : Char} (h : s.At before (c :: rest)) :
    s.input = String.ofList (before ++ [c] ++ rest) := by
  rw [h.input, List.append_cons]

theorem readPosition_cons {c : Char} (h : s.At before (c :: rest)) :
    s.readPosition = byteLength (before ++ [c]) := by
  rw [h.readPosition, byteLength_append]
  rfl

theorem peekChar_cons {c : Char} (h : s.At before (c :: rest)) : s.peekChar = rest.head? :=
  peekChar_eq h.input_cons h.readPosition_cons

theorem readChar {c : Char} (h : s.At before (c :: rest)) : s.readChar.At (before ++ [c]) rest :=
  readChar_at h.input_cons h.readPosition_cons

/-- A loop takes the longest run of characters of the class. -/
theorem skipWhile (p : Char → Bool) (h : s.At before rest) :
    (s.skipWhile p).At (before ++ rest.takeWhile p) (rest.dropWhile p) := by
  induction rest generalizing s before with
  | nil =>
    rw [Scanner.skipWhile, h.char]
    simpa using h
  | cons c rest ih =>
    rw [Scanner.skipWhile, h.char]
    by_cases hc : p c = true
    · simpa [hc] using ih h.readChar
    · simpa [hc] using h

theorem skipBlanks (h : s.At before rest) :
    s.skipBlanks.At (before ++ rest.takeWhile Char.isWhitespace)
      (rest.dropWhile Char.isWhitespace) :=
  h.skipWhile Char.isWhitespace

/-! ## One token -/

theorem single {c : Char} (h : s.At before (c :: rest)) (kind : Kind) :
    s.single kind = ⟨kind, String.singleton c⟩ := by
  rw [Scanner.single, h.position, h.readPosition_cons, slice_eq h.input_cons]
  rfl

/-- What is cut out from the current character to the end of a run. -/
theorem slice_skipWhile (p : Char → Bool) (h : s.At before rest) :
    s.slice s.position (s.skipWhile p).position = String.ofList (rest.takeWhile p) := by
  have input : s.input = String.ofList (before ++ rest.takeWhile p ++ rest.dropWhile p) := by
    rw [h.input, List.append_assoc, List.takeWhile_append_dropWhile]
  rw [h.position, (h.skipWhile p).position, slice_eq input]

theorem word (h : s.At before rest) :
    s.word = (.word (String.ofList (rest.takeWhile isLetter)), s.skipWhile isLetter) := by
  rw [Scanner.word, h.slice_skipWhile]
  rfl

theorem number (h : s.At before rest) :
    s.number =
      (.number (String.ofList (rest.takeWhile Char.isDigit)), s.skipWhile Char.isDigit) := by
  rw [Scanner.number, h.slice_skipWhile]
  rfl

/-- An operator of two characters is cut out whole. -/
theorem operator_pair {c : Char} (h : s.At before (c :: '=' :: rest)) (kind : Kind) :
    s.operator kind =
      (⟨Kind.ofPair (String.ofList [c, '=']), String.ofList [c, '=']⟩, s.readChar) := by
  have input : s.input = String.ofList (before ++ [c, '='] ++ rest) := by
    rw [h.input, List.append_assoc]
    rfl
  have literal : s.slice s.position s.readChar.readPosition = String.ofList [c, '='] := by
    rw [h.position, h.readChar.readPosition_cons, List.append_assoc]
    exact slice_eq input
  rw [operator, h.peekChar_cons, List.head?_cons, if_pos rfl]
  simp only [literal]

theorem operator_single {c : Char} (h : s.At before (c :: rest)) (kind : Kind)
    (single : rest.head? ≠ some '=') : s.operator kind = (⟨kind, String.singleton c⟩, s) := by
  rw [operator, h.peekChar_cons, if_neg single, h.single]

/-- The scanner takes the first token of what is left. -/
theorem token (h : s.At before rest) :
    s.token.1 = (firstToken rest).1 ∧
      s.token.2.At (before ++ (firstToken rest).1.literal.toList) (firstToken rest).2 := by
  cases rest with
  | nil =>
    rw [Scanner.token, h.char]
    exact ⟨rfl, by simpa [firstToken, Token.eof] using h⟩
  | cons c rest =>
    have current : s.char = some c := h.char
    rw [Scanner.token, current]
    by_cases pair : BeginsPair c rest
    · obtain ⟨hc, hrest⟩ := pair
      obtain ⟨rest, rfl⟩ := List.head?_eq_some_iff.mp hrest
      simp only [hc, if_true, h.operator_pair, firstToken_pair hc, String.toList_ofList, true_and]
      simpa using h.readChar.readChar
    · rw [firstToken_eq pair]
      by_cases operator : c = '=' ∨ c = '!'
      · have single : rest.head? ≠ some '=' := fun next => pair ⟨operator, next⟩
        have letter : isLetter c = false := by obtain rfl | rfl := operator <;> rfl
        have digit : c.isDigit = false := by obtain rfl | rfl := operator <;> rfl
        simpa [operator, h.operator_single _ single, letter, digit, Token.symbol] using h.readChar
      · simp only [operator, if_false]
        split
        · next letter =>
          simpa [h.word, letter, Token.word] using h.skipWhile isLetter
        · split
          · next digit =>
            simpa [h.number, digit, Token.number] using h.skipWhile Char.isDigit
          · simpa [h.single, Token.symbol] using h.readChar

/-- The scanner passes over the blanks and takes the first token after them. -/
theorem next (h : s.At before rest) :
    s.next.1.token = (firstToken (rest.dropWhile Char.isWhitespace)).1 ∧
      s.next.1.start = byteLength (before ++ rest.takeWhile Char.isWhitespace) ∧
      s.next.2.At
        (before ++ rest.takeWhile Char.isWhitespace ++
          (firstToken (rest.dropWhile Char.isWhitespace)).1.literal.toList)
        (firstToken (rest.dropWhile Char.isWhitespace)).2 :=
  ⟨h.skipBlanks.token.1, h.skipBlanks.position, h.skipBlanks.token.2⟩

end At

/-! ## All tokens -/

theorem tokens_eq (s : Scanner) :
    s.tokens = if s.next.1.token.kind = .eof then [] else s.next.1.token :: s.next.2.tokens := by
  rw [tokens, lexemes_eq]
  split
  · rfl
  · rfl

/-- What the scanner has left to give depends on the characters that are left only. -/
theorem At.tokens_eq (h : s.At before rest) : s.tokens = scan rest := by
  induction hn : rest.length using Nat.strongRecOn generalizing s before rest with
  | ind n ih =>
  subst hn
  obtain ⟨token, -, after⟩ := h.next
  rw [Scanner.tokens_eq, token, scan]
  cases hrest : rest.dropWhile Char.isWhitespace with
  | nil => rfl
  | cons c cs =>
    have blanks := (List.dropWhile_sublist Char.isWhitespace (l := rest)).length_le
    have taken := firstToken_rest_length_lt c cs
    rw [hrest] at after blanks
    rw [if_neg (kind_firstToken_ne_eof c cs), if_neg (List.cons_ne_nil c cs),
      ih _ (by omega) after rfl]

end Scanner

theorem tokens_eq_scan (source : String) : tokens source = scan source.toList :=
  (Scanner.ofText_at source).tokens_eq

end LetFn
