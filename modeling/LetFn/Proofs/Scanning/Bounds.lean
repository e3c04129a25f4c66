import LetFn.Proofs.Scanning.Munch

/-!
# A scanner stays inside its text

A scanner cuts spellings out of its text between two byte offsets. There is something to cut out
only where the offsets are in order and each of them is between two characters of the text or at
one of its ends. `Checked` is the scanner with these conditions checked at every cut, so that it
gives nothing where one of them fails.

It never does. Whatever a scanner of a text was asked for, also after the end of the text,

* its offsets are in order, inside the text and between characters, and its character is the one
  between them (`InBounds`);
* the checked scanner finds what the scanner finds;
* a token other than the end of the text takes the scanner on.

All three follow from the place of the scanner (`At`), and `scanner_in_bounds` puts them together.
-/

namespace LetFn

open Text

/-! ## Boundaries of characters -/

namespace Text

/-- The byte offset is between two characters of the text or at one of its ends. -/
def IsBoundary (text : String) (offset : Nat) : Prop := String.Pos.Raw.IsValid text ⟨offset⟩

instance (text : String) (offset : Nat) : Decidable (IsBoundary text offset) :=
  inferInstanceAs (Decidable (String.Pos.Raw.IsValid text ⟨offset⟩))

/-- A boundary takes the text apart into the characters before and after it. -/
theorem isBoundary_iff {text : String} {offset : Nat} :
    IsBoundary text offset ↔
      ∃ before after, text = String.ofList (before ++ after) ∧ offset = byteLength before := by
  rw [IsBoundary, String.Pos.Raw.isValid_iff_exists_append]
  constructor
  · rintro ⟨front, back, rfl, position⟩
    refine ⟨front.toList, back.toList, by simp, ?_⟩
    rw [byteLength_toList]
    exact congrArg String.Pos.Raw.byteIdx position
  · rintro ⟨before, after, rfl, rfl⟩
    exact ⟨String.ofList before, String.ofList after, by simp, rfl⟩

theorem isBoundary_byteLength {text : String} {before after : List Char}
    (h : text = String.ofList (before ++ after)) : IsBoundary text (byteLength before) :=
  isBoundary_iff.mpr ⟨before, after, h, rfl⟩

theorem isBoundary_utf8ByteSize (text : String) : IsBoundary text text.utf8ByteSize := by
  have input : text = String.ofList (text.toList ++ []) := by simp
  rw [← byteLength_toList]
  exact isBoundary_byteLength input

theorem IsBoundary.le {text : String} {offset : Nat} (h : IsBoundary text offset) :
    offset ≤ text.utf8ByteSize := h.le_utf8ByteSize

theorem byteLength_pos {cs : List Char} (h : cs ≠ []) : 0 < byteLength cs := by
  obtain ⟨c, cs, rfl⟩ := List.exists_cons_of_ne_nil h
  have := c.utf8Size_pos
  rw [byteLength_cons]
  omega

end Text

namespace Scanner

/-! ## Asking a scanner -/

/-- A scanner is asked for the next token, or for the next one before the end of the text. -/
inductive Request where
  | token
  | item
  deriving DecidableEq, Repr

/-- What is answered where the token comes next. -/
def Request.answer : Request → Token → Option Token
  | token, t => some t
  | item, t => if t.kind = .eof then none else some t

/-- The answer to a request, and the scanner after it. -/
def ask (s : Scanner) (request : Request) : Option Token × Scanner :=
  let found := s.next
  (request.answer found.1.token, found.2)

/-- The scanner after the requests. -/
def askAll (s : Scanner) (requests : List Request) : Scanner :=
  requests.foldl (fun s request => (s.ask request).2) s

/-! ## A scanner that checks every cut -/

namespace Checked

/-- The text between two byte offsets that are boundaries in order. -/
def slice (s : Scanner) (start stop : Nat) : Option String :=
  if start ≤ stop ∧ IsBoundary s.input start ∧ IsBoundary s.input stop then
    some (s.slice start stop)
  else none

/-- The first character of what is cut out after the current one. -/
def peekChar (s : Scanner) : Option (Option Char) := do
  let rest ← slice s s.readPosition s.input.utf8ByteSize
  return rest.toList.head?

/-- The scanner at the character after the current one. -/
def readChar (s : Scanner) : Option Scanner := do
  let char ← peekChar s
  return { s with
    position := s.readPosition
    readPosition := s.readPosition + (char.map Char.utf8Size).getD 0
    char := char }

/-- The scanner at the first character. -/
def ofText (text : String) : Option Scanner := readChar ⟨text, 0, 0, none⟩

/-- The next character can be looked at exactly where it begins at a boundary. -/
theorem peekChar_eq_ite (s : Scanner) :
    peekChar s = if IsBoundary s.input s.readPosition then some s.peekChar else none := by
  split
  · next boundary =>
    obtain ⟨before, rest, input, readPosition⟩ := isBoundary_iff.mp boundary
    have cut : s.slice s.readPosition s.input.utf8ByteSize = String.ofList rest := by
      have whole := @slice_eq s before rest [] (by rwa [List.append_nil])
      have size : s.input.utf8ByteSize = byteLength (before ++ rest) := by
        rw [input]
        rfl
      rw [readPosition, size, whole]
    rw [peekChar, slice, if_pos ⟨boundary.le, boundary, isBoundary_utf8ByteSize _⟩, cut,
      Scanner.peekChar_eq input readPosition]
    simp
  · next boundary =>
    rw [peekChar, slice, if_neg fun h => boundary h.2.1]
    rfl

theorem readChar_eq_ite (s : Scanner) :
    readChar s = if IsBoundary s.input s.readPosition then some s.readChar else none := by
  rw [readChar, peekChar_eq_ite]
  split <;> rfl

/-- From inside of a character nothing is read. -/
example : readChar ⟨"é", 0, 1, none⟩ = none := by decide

theorem eq_readChar {s t : Scanner} (h : readChar s = some t) : t = s.readChar := by
  rw [readChar_eq_ite] at h
  split at h
  · exact (Option.some.inj h).symm
  · contradiction

/-- The scanner at the first character from the current one on that is not in the class. -/
def skipWhile (p : Char → Bool) (s : Scanner) : Option Scanner :=
  if s.char.any p then
    match _ : readChar s with
    | none => none
    | some t => skipWhile p t
  else some s
termination_by s.left
decreasing_by
  rename_i current read
  rw [eq_readChar read]
  exact left_readChar_lt (Option.isSome_of_any current)

/-- The scanner after the blanks that follow. -/
def skipBlanks (s : Scanner) : Option Scanner := skipWhile Char.isWhitespace s

/-- The current character as a token of the kind. -/
def single (s : Scanner) (kind : Kind) : Option Token := do
  let literal ← slice s s.position s.readPosition
  return ⟨kind, literal⟩

/-- The operator that the current character begins, at its last character: of the kind, or one of
two characters when `=` comes next. -/
def operator (s : Scanner) (kind : Kind) : Option (Token × Scanner) := do
  if (← peekChar s) = some '=' then
    let last ← readChar s
    let literal ← slice s s.position last.readPosition
    return (⟨Kind.ofPair literal, literal⟩, last)
  else
    return (← single s kind, s)

/-- The run of letters from the current character on, and the scanner after it. -/
def word (s : Scanner) : Option (Token × Scanner) := do
  let after ← skipWhile isLetter s
  let literal ← slice s s.position after.position
  return (⟨Kind.ofWord literal, literal⟩, after)

/-- The run of digits from the current character on, and the scanner after it. -/
def number (s : Scanner) : Option (Token × Scanner) := do
  let after ← skipWhile Char.isDigit s
  let literal ← slice s s.position after.position
  return (⟨.int, literal⟩, after)

/-- The token that begins at the current character, and the scanner after it. -/
def token (s : Scanner) : Option (Token × Scanner) :=
  match s.char with
  | none => some (Token.eof, s)
  | some c =>
    if c = '=' ∨ c = '!' then do
      let found ← operator s (Kind.ofChar c)
      return (found.1, ← readChar found.2)
    else if isLetter c then word s
    else if c.isDigit then number s
    else do
      let found ← single s (Kind.ofChar c)
      return (found, ← readChar s)

/-- The next token with its offset, and the scanner after it. -/
def next (s : Scanner) : Option (Lexeme × Scanner) := do
  let start ← skipBlanks s
  let found ← token start
  return (⟨found.1, start.position⟩, found.2)

/-- The answer to a request, and the scanner after it. -/
def ask (s : Scanner) (request : Request) : Option (Option Token × Scanner) := do
  let found ← next s
  return (request.answer found.1.token, found.2)

end Checked

/-! ## No check fails -/

/-- The offsets are in order, inside the text and between characters. The character is the one that
begins at the first of them and ends at the second; there is none at the end of the text, where
both of them are. -/
structure InBounds (s : Scanner) : Prop where
  le : s.position ≤ s.readPosition
  le_size : s.readPosition ≤ s.input.utf8ByteSize
  position : IsBoundary s.input s.position
  readPosition : IsBoundary s.input s.readPosition
  char (more : s.position < s.input.utf8ByteSize) : ∃ before c after,
    s.input.toList = before ++ c :: after ∧ s.position = byteLength before ∧
      s.char = some c ∧ s.readPosition = s.position + c.utf8Size
  atEnd (ended : ¬s.position < s.input.utf8ByteSize) :
    s.char = none ∧ s.position = s.input.utf8ByteSize ∧ s.readPosition = s.input.utf8ByteSize

variable {s : Scanner} {before rest : List Char}

namespace At

theorem utf8ByteSize_input (h : s.At before rest) :
    s.input.utf8ByteSize = byteLength before + byteLength rest := by
  rw [h.input, ← byteLength_append]
  rfl

theorem isBoundary_position (h : s.At before rest) : IsBoundary s.input s.position := by
  rw [h.position]
  exact isBoundary_byteLength h.input

theorem isBoundary_readPosition (h : s.At before rest) : IsBoundary s.input s.readPosition := by
  have input : s.input = String.ofList (before ++ rest.take 1 ++ rest.drop 1) := by
    rw [h.input, List.append_assoc, List.take_append_drop]
  rw [h.readPosition, ← byteLength_append]
  exact isBoundary_byteLength input

theorem position_le (h : s.At before rest) : s.position ≤ s.readPosition := by
  rw [h.position, h.readPosition]
  exact Nat.le_add_right _ _

theorem inBounds (h : s.At before rest) : s.InBounds where
  le := h.position_le
  le_size := h.isBoundary_readPosition.le
  position := h.isBoundary_position
  readPosition := h.isBoundary_readPosition
  char more := by
    cases rest with
    | nil =>
      rw [h.utf8ByteSize_input, h.position] at more
      exact absurd more (Nat.lt_irrefl _)
    | cons c rest =>
      refine ⟨before, c, rest, ?_, h.position, h.char, ?_⟩
      · rw [h.input, String.toList_ofList]
      · rw [h.readPosition_cons, h.position, byteLength_append, byteLength_cons, byteLength_nil,
          Nat.add_zero]
  atEnd ended := by
    cases rest with
    | nil =>
      rw [h.utf8ByteSize_input, h.position, h.readPosition]
      exact ⟨h.char, rfl, rfl⟩
    | cons c rest =>
      have := byteLength_pos (List.cons_ne_nil c rest)
      rw [h.utf8ByteSize_input, h.position] at ended
      omega

/-- What is cut out from the current character on, up to a later boundary, passes the check. -/
theorem checked_slice (h : s.At before rest) {stop : Nat} (le : s.position ≤ stop)
    (boundary : IsBoundary s.input stop) :
    Checked.slice s s.position stop = some (s.slice s.position stop) :=
  if_pos ⟨le, h.isBoundary_position, boundary⟩

theorem checked_peekChar (h : s.At before rest) : Checked.peekChar s = some s.peekChar := by
  rw [Checked.peekChar_eq_ite, if_pos h.isBoundary_readPosition]

theorem checked_readChar (h : s.At before rest) : Checked.readChar s = some s.readChar := by
  rw [Checked.readChar_eq_ite, if_pos h.isBoundary_readPosition]

theorem checked_skipWhile (p : Char → Bool) (h : s.At before rest) :
    Checked.skipWhile p s = some (s.skipWhile p) := by
  induction rest generalizing s before with
  | nil =>
    rw [Checked.skipWhile, Scanner.skipWhile, h.char]
    rfl
  | cons c rest ih =>
    rw [Checked.skipWhile, Scanner.skipWhile]
    split
    · split
      · next none => rw [h.checked_readChar] at none; contradiction
      · next t some =>
        rw [h.checked_readChar] at some
        rw [← Option.some.inj some]
        exact ih h.readChar
    · rfl

theorem checked_single (h : s.At before rest) (kind : Kind) :
    Checked.single s kind = some (s.single kind) := by
  rw [Checked.single, h.checked_slice h.position_le h.isBoundary_readPosition]
  rfl

theorem checked_operator {c : Char} (h : s.At before (c :: rest)) (kind : Kind) :
    Checked.operator s kind = some (s.operator kind) := by
  have le : s.position ≤ s.readChar.readPosition :=
    Nat.le_trans h.position_le h.readChar.position_le
  rw [Checked.operator, Scanner.operator, h.checked_peekChar, h.checked_readChar]
  simp only [Option.bind_eq_bind, Option.bind_some]
  split
  · rw [h.checked_slice le h.readChar.isBoundary_readPosition]
    rfl
  · rw [h.checked_single]
    rfl

/-- What is cut out from the current character to the end of a run passes the check. -/
theorem checked_slice_skipWhile (p : Char → Bool) (h : s.At before rest) :
    Checked.slice s s.position (s.skipWhile p).position =
      some (s.slice s.position (s.skipWhile p).position) := by
  have input : s.input = String.ofList (before ++ rest.takeWhile p ++ rest.dropWhile p) := by
    rw [h.input, List.append_assoc, List.takeWhile_append_dropWhile]
  have stop : (s.skipWhile p).position = byteLength (before ++ rest.takeWhile p) :=
    (h.skipWhile p).position
  have le : s.position ≤ (s.skipWhile p).position := by
    rw [stop, h.position, byteLength_append]
    exact Nat.le_add_right _ _
  refine h.checked_slice le ?_
  rw [stop]
  exact isBoundary_byteLength input

theorem checked_word (h : s.At before rest) : Checked.word s = some s.word := by
  rw [Checked.word, h.checked_skipWhile]
  simp only [Option.bind_eq_bind, Option.bind_some]
  rw [h.checked_slice_skipWhile]
  rfl

theorem checked_number (h : s.At before rest) : Checked.number s = some s.number := by
  rw [Checked.number, h.checked_skipWhile]
  simp only [Option.bind_eq_bind, Option.bind_some]
  rw [h.checked_slice_skipWhile]
  rfl

/-- An operator is found with its last character the current one. -/
theorem operator_at {c : Char} (h : s.At before (c :: rest)) (kind : Kind) :
    ∃ before d rest, (s.operator kind).2.At before (d :: rest) := by
  unfold operator
  split
  · next pair =>
    rw [h.peekChar_cons] at pair
    obtain ⟨rest, rfl⟩ := List.head?_eq_some_iff.mp pair
    exact ⟨_, _, _, h.readChar⟩
  · exact ⟨_, _, _, h⟩

theorem checked_token (h : s.At before rest) : Checked.token s = some s.token := by
  rw [Checked.token, Scanner.token]
  cases rest with
  | nil =>
    rw [h.char]
    rfl
  | cons c rest =>
    have current : s.char = some c := h.char
    simp only [current]
    split
    · obtain ⟨_, _, _, last⟩ := h.operator_at (Kind.ofChar c)
      rw [h.checked_operator]
      simp only [Option.bind_eq_bind, Option.bind_some]
      rw [last.checked_readChar]
      rfl
    · split
      · exact h.checked_word
      · split
        · exact h.checked_number
        · rw [h.checked_single, h.checked_readChar]
          rfl

/-- Where a scanner stands between characters, none of its cuts is refused. -/
theorem checked_next (h : s.At before rest) : Checked.next s = some s.next := by
  rw [Checked.next, Checked.skipBlanks, h.checked_skipWhile]
  simp only [Option.bind_eq_bind, Option.bind_some]
  have start : (s.skipWhile Char.isWhitespace).At _ _ := h.skipBlanks
  rw [start.checked_token]
  rfl

theorem checked_ask (h : s.At before rest) (request : Request) :
    Checked.ask s request = some (s.ask request) := by
  rw [Checked.ask, h.checked_next]
  rfl

/-- A token other than the end of the text begins at or after the scanner and ends behind it. -/
theorem position_lt (h : s.At before rest) (more : s.next.1.token.kind ≠ .eof) :
    s.position < s.next.2.position := by
  obtain ⟨token, -, after⟩ := h.next
  rw [token] at more
  rw [h.position, after.position, byteLength_append, byteLength_append]
  cases hrest : rest.dropWhile Char.isWhitespace with
  | nil =>
    rw [hrest] at more
    exact absurd rfl more
  | cons c cs =>
    have := byteLength_pos (literal_firstToken_ne_nil c cs)
    omega

end At

theorem askAll_eq_skip (s : Scanner) (requests : List Request) :
    s.askAll requests = skip requests.length s := by
  induction requests generalizing s with
  | nil => rfl
  | cons request requests ih => exact ih s.next.2

theorem checked_ofText (source : String) : Checked.ofText source = some (ofText source) := by
  have input : source = String.ofList ([] ++ source.toList) := by simp
  have beginning : IsBoundary source 0 := @isBoundary_byteLength source [] source.toList input
  rw [Checked.ofText, Checked.readChar_eq_ite]
  exact if_pos beginning

end Scanner

/-- Whatever a scanner of a text was asked for, its offsets are in bounds and between characters,
no cut that the next request takes is refused, and a token other than the end of the text takes it
on. -/
theorem scanner_in_bounds (source : String) :
    Scanner.Checked.ofText source = some (.ofText source) ∧
    ∀ requests : List Scanner.Request,
      let s := (Scanner.ofText source).askAll requests
      s.input = source ∧ s.InBounds ∧
        (∀ request, Scanner.Checked.ask s request = some (s.ask request)) ∧
        (s.next.1.token.kind ≠ .eof → s.position < s.next.2.position) := by
  refine ⟨Scanner.checked_ofText source, fun requests => ?_⟩
  simp only [Scanner.askAll_eq_skip]
  have place := Scanner.skip_at source requests.length
  refine ⟨?_, place.inBounds, place.checked_ask, place.position_lt⟩
  rw [place.input, passed_append_remaining, String.ofList_toList]

/-- A character of two bytes does not keep a scanner from the operator after it. -/
theorem scanner_in_bounds_afterTwoBytes :
    let s := (Scanner.ofText "é=").askAll [.token]
    s.next.1.token.kind ≠ .eof ∧ s.position < s.next.2.position := by
  intro s
  have token : s.next.1.token = _ := (Scanner.skip_at "é=" 1).next.1
  have more : s.next.1.token.kind ≠ .eof := by
    rw [token]
    decide
  exact ⟨more, ((scanner_in_bounds "é=").2 [.token]).2.2.2 more⟩

end LetFn
