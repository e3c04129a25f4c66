import LetFn.Token.Basic

/-!
# Scanning

A `Scanner` stands before a character of a text. It keeps the byte offset of the character, the
offset right after it, and the character itself; at the end of the text there is none, and both
offsets are the length of the text. It goes on by one character at a time (`Scanner.readChar`) and
cuts the spelling of a token out of the text between two of its offsets (`Scanner.slice`).

`Scanner.next` passes over blanks and takes the token that begins after them:

* `==` and `!=`;
* a run of letters, a keyword or an identifier;
* a run of digits;
* otherwise a single character, an operator, a delimiter or illegal.

At the end of the text it gives the token `eof`, however often it is asked. `tokens` lists the
tokens of a text up to that point; the list is finite because every other token moves the scanner
on (`Scanner.left_next_lt`).
-/

namespace LetFn

/-- A letter of a word: an ASCII letter or the underscore. -/
def isLetter (c : Char) : Bool := c.isAlpha || c == '_'

/-- A token and the byte offset at which it begins. -/
@[ext]
structure Lexeme where
  token : Token
  start : Nat
  deriving DecidableEq, Repr

/-- A place before a character of a text: the byte offsets before and after the character, and the
character, none at the end. -/
structure Scanner where
  input : String
  position : Nat
  readPosition : Nat
  char : Option Char
  deriving DecidableEq, Repr

namespace Scanner

/-- The character after the current one. -/
def peekChar (s : Scanner) : Option Char :=
  if s.readPosition < s.input.utf8ByteSize then
    some (String.Pos.Raw.get s.input ⟨s.readPosition⟩)
  else none

/-- The scanner at the character after the current one. -/
def readChar (s : Scanner) : Scanner :=
  { s with
    position := s.readPosition
    readPosition := s.readPosition + (s.peekChar.map Char.utf8Size).getD 0
    char := s.peekChar }

/-- The scanner at the first character. -/
def ofText (text : String) : Scanner := (Scanner.mk text 0 0 none).readChar

/-- The text between two byte offsets. -/
def slice (s : Scanner) (start stop : Nat) : String :=
  String.Pos.Raw.extract s.input ⟨start⟩ ⟨stop⟩

/-! ## Moving on -/

/-- What the scanner has left, which gets less with each character. -/
def left (s : Scanner) : Nat :=
  s.input.utf8ByteSize - s.readPosition + if s.char.isSome then 1 else 0

theorem left_readChar_le (s : Scanner) :
    s.readChar.left ≤ s.input.utf8ByteSize - s.readPosition := by
  simp only [left, readChar, peekChar]
  split
  · next h =>
    have hc := Char.utf8Size_pos (String.Pos.Raw.get s.input ⟨s.readPosition⟩)
    simp only [Option.map_some, Option.getD_some, Option.isSome_some, if_true]
    omega
  · simp

theorem left_readChar_lt {s : Scanner} (h : s.char.isSome) : s.readChar.left < s.left := by
  have left_eq : s.left = s.input.utf8ByteSize - s.readPosition + 1 := by rw [left, if_pos h]
  have := s.left_readChar_le
  omega

theorem left_readChar_le_left (s : Scanner) : s.readChar.left ≤ s.left :=
  Nat.le_trans s.left_readChar_le (Nat.le_add_right _ _)

/-- The scanner at the first character from the current one on that is not in the class. -/
def skipWhile (p : Char → Bool) (s : Scanner) : Scanner :=
  if s.char.any p then skipWhile p s.readChar else s
termination_by s.left
decreasing_by
  rename_i h
  exact left_readChar_lt (Option.isSome_of_any h)

theorem left_skipWhile_le (p : Char → Bool) (s : Scanner) : (s.skipWhile p).left ≤ s.left := by
  fun_induction skipWhile p s with
  | case1 s _ ih => exact Nat.le_trans ih s.left_readChar_le_left
  | case2 => exact Nat.le_refl _

/-- A class that has the current character in it takes the scanner on. -/
theorem left_skipWhile_lt {p : Char → Bool} {s : Scanner} (h : s.char.any p = true) :
    (s.skipWhile p).left < s.left := by
  rw [skipWhile, if_pos h]
  exact Nat.lt_of_le_of_lt (left_skipWhile_le p _)
    (left_readChar_lt (Option.isSome_of_any h))

/-- The scanner after the blanks that follow. -/
def skipBlanks (s : Scanner) : Scanner := s.skipWhile Char.isWhitespace

/-! ## Tokens -/

/-- The current character as a token of the kind. -/
def single (s : Scanner) (kind : Kind) : Token := ⟨kind, s.slice s.position s.readPosition⟩

/-- The operator that the current character begins, at its last character: of the kind, or one of
two characters when `=` comes next. -/
def operator (s : Scanner) (kind : Kind) : Token × Scanner :=
  if s.peekChar = some '=' then
    let last := s.readChar
    let literal := s.slice s.position last.readPosition
    (⟨Kind.ofPair literal, literal⟩, last)
  else (s.single kind, s)

/-- The run of letters from the current character on, and the scanner after it. -/
def word (s : Scanner) : Token × Scanner :=
  let after := s.skipWhile isLetter
  let literal := s.slice s.position after.position
  (⟨Kind.ofWord literal, literal⟩, after)

/-- The run of digits from the current character on, and the scanner after it. -/
def number (s : Scanner) : Token × Scanner :=
  let after := s.skipWhile Char.isDigit
  (⟨.int, s.slice s.position after.position⟩, after)

/-- The token that begins at the current character, and the scanner after it. -/
def token (s : Scanner) : Token × Scanner :=
  match s.char with
  | none => (Token.eof, s)
  | some c =>
    if c = '=' ∨ c = '!' then
      let found := s.operator (Kind.ofChar c)
      (found.1, found.2.readChar)
    else if isLetter c then s.word
    else if c.isDigit then s.number
    else (s.single (Kind.ofChar c), s.readChar)

/-- The next token with its offset, and the scanner after it. -/
def next (s : Scanner) : Lexeme × Scanner :=
  let start := s.skipBlanks
  let found := start.token
  (⟨found.1, start.position⟩, found.2)

theorem left_token_lt {s : Scanner} (h : s.token.1.kind ≠ .eof) : s.token.2.left < s.left := by
  unfold token at h ⊢
  split
  · next hc =>
    rw [hc] at h
    exact absurd rfl h
  · next c hc =>
    have forward : s.readChar.left < s.left := left_readChar_lt (by rw [hc]; rfl)
    split
    · unfold operator
      split
      · exact Nat.lt_of_le_of_lt s.readChar.left_readChar_le_left forward
      · exact forward
    · split
      · exact left_skipWhile_lt (by simpa [hc])
      · split
        · exact left_skipWhile_lt (by simpa [hc])
        · exact forward

/-- A token other than the end of the text moves the scanner on. -/
theorem left_next_lt {s : Scanner} (h : s.next.1.token.kind ≠ .eof) : s.next.2.left < s.left :=
  Nat.lt_of_lt_of_le (left_token_lt h) (left_skipWhile_le _ s)

/-- The lexemes up to the end of the text, after those already found, newest first. -/
def lexemesAfter (found : List Lexeme) (s : Scanner) : List Lexeme :=
  let step := s.next
  if step.1.token.kind = .eof then found.reverse
  else lexemesAfter (step.1 :: found) step.2
termination_by s.left
decreasing_by exact left_next_lt ‹_›

/-- The lexemes up to the end of the text. -/
def lexemes (s : Scanner) : List Lexeme := s.lexemesAfter []

theorem lexemesAfter_eq (found : List Lexeme) (s : Scanner) :
    s.lexemesAfter found = found.reverse ++ s.lexemes := by
  rw [lexemes, lexemesAfter, lexemesAfter.eq_def []]
  by_cases h : s.next.1.token.kind = .eof
  · simp [h]
  · simp only [h, if_false]
    rw [lexemesAfter_eq (_ :: found), lexemesAfter_eq [_]]
    simp
termination_by s.left
decreasing_by all_goals exact left_next_lt h

/-- The lexemes begin with the next one, unless it is the end of the text. -/
theorem lexemes_eq (s : Scanner) :
    s.lexemes = if s.next.1.token.kind = .eof then [] else s.next.1 :: s.next.2.lexemes := by
  rw [lexemes, lexemesAfter]
  split
  · rfl
  · rw [lexemesAfter_eq]
    rfl

/-- The tokens up to the end of the text. -/
def tokens (s : Scanner) : List Token := s.lexemes.map Lexeme.token

/-- The scanner after the given number of tokens. -/
def skip : Nat → Scanner → Scanner
  | 0, s => s
  | n + 1, s => skip n s.next.2

end Scanner

/-- The tokens of a text. -/
def tokens (source : String) : List Token := (Scanner.ofText source).tokens

end LetFn
