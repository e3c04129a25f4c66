import LetFn.Token.Scanner

/-!
# The rule of the longest match

`firstToken` says which token a list of characters begins with and what is left after it:

* `==` and `!=` wherever they stand;
* otherwise all letters that follow each other, a keyword or an identifier;
* otherwise all digits that follow each other;
* otherwise one character.

`scan` applies the rule again and again and drops the blanks in between. It knows of no offsets and
of no current character.
-/

namespace LetFn

namespace Token

/-- The token of a run of letters. -/
def word (w : String) : Token := ⟨Kind.ofWord w, w⟩

/-- The token of a run of digits. -/
def number (literal : String) : Token := ⟨.int, literal⟩

/-- The token of a character that is a token by itself. -/
def symbol (c : Char) : Token := ⟨Kind.ofChar c, String.singleton c⟩

end Token

/-! ## The first token -/

/-- The first token of a text that begins with no blank, and the characters after it. -/
def firstToken : List Char → Token × List Char
  | [] => (Token.eof, [])
  | '=' :: '=' :: rest => (⟨Kind.ofPair "==", "=="⟩, rest)
  | '!' :: '=' :: rest => (⟨Kind.ofPair "!=", "!="⟩, rest)
  | c :: rest =>
    if isLetter c then
      (.word (String.ofList (c :: rest.takeWhile isLetter)), rest.dropWhile isLetter)
    else if c.isDigit then
      (.number (String.ofList (c :: rest.takeWhile Char.isDigit)), rest.dropWhile Char.isDigit)
    else (.symbol c, rest)

/-- The characters begin with an operator of two characters. -/
def BeginsPair (c : Char) (cs : List Char) : Prop := (c = '=' ∨ c = '!') ∧ cs.head? = some '='

instance (c : Char) (cs : List Char) : Decidable (BeginsPair c cs) :=
  inferInstanceAs (Decidable (_ ∧ _))

/-- Where no operator of two characters begins, the first character says how long the token is. -/
theorem firstToken_eq {c : Char} {cs : List Char} (h : ¬BeginsPair c cs) :
    firstToken (c :: cs) =
      if isLetter c then
        (.word (String.ofList (c :: cs.takeWhile isLetter)), cs.dropWhile isLetter)
      else if c.isDigit then
        (.number (String.ofList (c :: cs.takeWhile Char.isDigit)), cs.dropWhile Char.isDigit)
      else (.symbol c, cs) := by
  rw [firstToken]
  · rintro rest rfl rfl
    exact h ⟨.inl rfl, rfl⟩
  · rintro rest rfl rfl
    exact h ⟨.inr rfl, rfl⟩

theorem not_beginsPair_of_ne {c : Char} (h : c ≠ '=') (h' : c ≠ '!') (cs : List Char) :
    ¬BeginsPair c cs := fun pair => pair.1.elim h h'

/-- An operator of two characters is the first token wherever it stands. -/
theorem firstToken_pair {c : Char} (h : c = '=' ∨ c = '!') (rest : List Char) :
    firstToken (c :: '=' :: rest) =
      (⟨Kind.ofPair (String.ofList [c, '=']), String.ofList [c, '=']⟩, rest) := by
  obtain rfl | rfl := h <;> rfl

/-- The first token takes the characters of its spelling. -/
theorem literal_firstToken_append (c : Char) (cs : List Char) :
    (firstToken (c :: cs)).1.literal.toList ++ (firstToken (c :: cs)).2 = c :: cs := by
  by_cases pair : BeginsPair c cs
  · obtain ⟨hc, hcs⟩ := pair
    obtain ⟨cs, rfl⟩ := List.head?_eq_some_iff.mp hcs
    obtain rfl | rfl := hc <;> simp [firstToken]
  · rw [firstToken_eq pair]
    split
    · simp [Token.word]
    · split
      · simp [Token.number]
      · simp [Token.symbol]

/-- A token has at least one character. -/
theorem literal_firstToken_ne_nil (c : Char) (cs : List Char) :
    (firstToken (c :: cs)).1.literal.toList ≠ [] := by
  by_cases pair : BeginsPair c cs
  · obtain ⟨hc, hcs⟩ := pair
    obtain ⟨cs, rfl⟩ := List.head?_eq_some_iff.mp hcs
    simp [firstToken_pair hc]
  · rw [firstToken_eq pair]
    split
    · simp [Token.word]
    · split
      · simp [Token.number]
      · simp [Token.symbol]

theorem firstToken_rest_length_lt (c : Char) (cs : List Char) :
    (firstToken (c :: cs)).2.length < (c :: cs).length := by
  have whole := congrArg List.length (literal_firstToken_append c cs)
  have some := List.length_pos_iff.mpr (literal_firstToken_ne_nil c cs)
  rw [List.length_append] at whole
  omega

/-- Letters are a keyword or a name. -/
theorem Kind.ofWord_ne (w : String) {k : Kind} (other : k ∈ [illegal, eof, int] := by decide) :
    ofWord w ≠ k := by
  unfold ofWord
  split <;>
  · rintro rfl
    simp at other

/-- A single character is an operator, a delimiter or illegal. -/
theorem Kind.ofChar_ne (c : Char) {k : Kind} (other : k ∈ [eof, ident, int] := by decide) :
    ofChar c ≠ k := by
  unfold ofChar
  split <;>
  · rintro rfl
    simp at other

/-- A character begins a token other than the end of the text. -/
theorem kind_firstToken_ne_eof (c : Char) (cs : List Char) :
    (firstToken (c :: cs)).1.kind ≠ .eof := by
  unfold firstToken
  split
  · contradiction
  · simp [Kind.ofPair]
  · simp [Kind.ofPair]
  · split
    · exact Kind.ofWord_ne _
    · split
      · simp [Token.number]
      · exact Kind.ofChar_ne _

/-! ## All tokens -/

/-- The tokens of the characters. -/
def scan (cs : List Char) : List Token :=
  if cs.dropWhile Char.isWhitespace = [] then []
  else
    (firstToken (cs.dropWhile Char.isWhitespace)).1 ::
      scan (firstToken (cs.dropWhile Char.isWhitespace)).2
termination_by cs.length
decreasing_by
  rename_i h
  have blanks := (List.dropWhile_sublist Char.isWhitespace (l := cs)).length_le
  obtain ⟨c, rest, hrest⟩ := List.exists_cons_of_ne_nil h
  have taken := firstToken_rest_length_lt c rest
  rw [hrest] at blanks ⊢
  omega

@[simp] theorem scan_nil : scan [] = [] := by
  rw [scan]
  rfl

theorem scan_blank {c : Char} (h : c.isWhitespace = true) (cs : List Char) :
    scan (c :: cs) = scan cs := by
  have drop : (c :: cs).dropWhile Char.isWhitespace = cs.dropWhile Char.isWhitespace :=
    List.dropWhile_cons_of_pos h
  rw [scan, scan.eq_def cs, drop]

theorem scan_cons {c : Char} (h : c.isWhitespace = false) (cs : List Char) :
    scan (c :: cs) = (firstToken (c :: cs)).1 :: scan (firstToken (c :: cs)).2 := by
  have keep : (c :: cs).dropWhile Char.isWhitespace = c :: cs :=
    List.dropWhile_cons_of_neg (by simp [h])
  rw [scan, keep, if_neg (List.cons_ne_nil c cs)]

/-- After the blanks comes the first of the tokens. -/
theorem firstToken_dropWhile (cs : List Char) :
    (firstToken (cs.dropWhile Char.isWhitespace)).1 = (scan cs).headD Token.eof := by
  rw [scan]
  split
  · next h =>
    rw [h]
    rfl
  · rfl

theorem scan_firstToken_dropWhile (cs : List Char) :
    scan (firstToken (cs.dropWhile Char.isWhitespace)).2 = (scan cs).tail := by
  rw [scan.eq_def cs]
  split
  · next h =>
    rw [h]
    exact scan_nil
  · rfl

end LetFn
