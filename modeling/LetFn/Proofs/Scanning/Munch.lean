import LetFn.Proofs.Scanning.Basic

/-!
# A scanner follows the rule of the longest match

`remaining n` is what the rule of the longest match leaves of a text after `n` tokens, and `passed`
is what it passes over: blanks and spellings in turn. A scanner that was asked for `n` tokens stands
between the two (`Scanner.skip_at`), whatever characters the text is made of. So

* the tokens that it gives are those of the rule, and then the end of the text forever;
* the text consists of the blanks and the spellings, and nothing else;
* a token begins at the byte offset that it is given with, and its spelling stands there;
* what a scanner gives from its place on is what a scanner of the rest of the text gives.

`scanner_follows_rule` puts these together.
-/

namespace LetFn

open Text

/-! ## Applying the rule -/

/-- What the rule leaves of the characters after the given number of tokens. -/
def remaining : Nat → List Char → List Char
  | 0, cs => cs
  | n + 1, cs => (firstToken ((remaining n cs).dropWhile Char.isWhitespace)).2

/-- The tokens of what is left are the tokens without those that were taken. -/
theorem scan_remaining (n : Nat) (cs : List Char) : scan (remaining n cs) = (scan cs).drop n := by
  induction n with
  | zero => rfl
  | succ n ih => rw [remaining, scan_firstToken_dropWhile, ih, List.tail_drop]

theorem firstToken_remaining (n : Nat) (cs : List Char) :
    (firstToken ((remaining n cs).dropWhile Char.isWhitespace)).1 = (scan cs).getD n Token.eof := by
  rw [firstToken_dropWhile, scan_remaining]
  simp [List.headD_eq_head?_getD, List.getD_eq_getElem?_getD]

/-- Blanks and spellings in turn, the given number of them. -/
def passed (blanks : Nat → List Char) (ts : List Token) (n : Nat) : List Char :=
  (List.range n).flatMap fun i => blanks i ++ (ts.getD i Token.eof).literal.toList

theorem passed_succ (blanks : Nat → List Char) (ts : List Token) (n : Nat) :
    passed blanks ts (n + 1) =
      passed blanks ts n ++ blanks n ++ (ts.getD n Token.eof).literal.toList := by
  simp [passed, List.range_succ]

/-- The blanks that the rule drops before the token of the given number. -/
def blanksOf (cs : List Char) (n : Nat) : List Char :=
  (remaining n cs).takeWhile Char.isWhitespace

theorem isWhitespace_of_mem_blanksOf {cs : List Char} {n : Nat} {c : Char}
    (h : c ∈ blanksOf cs n) : c.isWhitespace = true :=
  List.all_eq_true.mp List.all_takeWhile c h

theorem literal_firstToken_append' (cs : List Char) :
    (firstToken cs).1.literal.toList ++ (firstToken cs).2 = cs := by
  cases cs with
  | nil => rfl
  | cons c cs => exact literal_firstToken_append c cs

/-- What is passed over and what is left are the text. -/
theorem passed_append_remaining (n : Nat) (cs : List Char) :
    passed (blanksOf cs) (scan cs) n ++ remaining n cs = cs := by
  induction n with
  | zero => rfl
  | succ n ih =>
    rw [passed_succ, ← firstToken_remaining, List.append_assoc, remaining,
      literal_firstToken_append', List.append_assoc, blanksOf, List.takeWhile_append_dropWhile, ih]

/-- From the last token on there is nothing but blanks. -/
theorem passed_append_blanksOf_of_le {cs : List Char} {n : Nat} (h : (scan cs).length ≤ n) :
    passed (blanksOf cs) (scan cs) n ++ blanksOf cs n = cs := by
  have none : (remaining n cs).dropWhile Char.isWhitespace = [] := by
    have empty : scan (remaining n cs) = [] := by
      rw [scan_remaining, List.drop_eq_nil_of_le h]
    rw [scan] at empty
    split at empty
    · assumption
    · cases empty
  have last := List.takeWhile_append_dropWhile (p := Char.isWhitespace) (l := remaining n cs)
  rw [none, List.append_nil] at last
  rw [blanksOf, last, passed_append_remaining]

/-- After the last token there is nothing but blanks. -/
theorem passed_append_blanksOf (cs : List Char) :
    passed (blanksOf cs) (scan cs) (scan cs).length ++ blanksOf cs (scan cs).length = cs :=
  passed_append_blanksOf_of_le (Nat.le_refl _)

/-! ## Scanners -/

namespace Scanner

theorem skip_succ (n : Nat) (s : Scanner) : skip (n + 1) s = (skip n s).next.2 := by
  induction n generalizing s with
  | zero => rfl
  | succ n ih =>
    rw [skip, ih]
    rfl

/-- The scanner has these tokens left to give, and then the end of the text forever. -/
def Gives (s : Scanner) (ts : List Token) : Prop := ∃ before rest, s.At before rest ∧ scan rest = ts

namespace Gives

variable {s : Scanner} {ts : List Token}

theorem tokens_eq (h : s.Gives ts) : s.tokens = ts := by
  obtain ⟨before, rest, place, rfl⟩ := h
  exact place.tokens_eq

theorem token (h : s.Gives ts) : s.next.1.token = ts.headD Token.eof := by
  obtain ⟨before, rest, place, rfl⟩ := h
  rw [place.next.1, firstToken_dropWhile]

theorem next (h : s.Gives ts) : s.next.2.Gives ts.tail := by
  obtain ⟨before, rest, place, rfl⟩ := h
  exact ⟨_, _, place.next.2.2, scan_firstToken_dropWhile rest⟩

theorem skip (h : s.Gives ts) (n : Nat) : (Scanner.skip n s).Gives (ts.drop n) := by
  induction n with
  | zero => exact h
  | succ n ih =>
    rw [skip_succ, ← List.tail_drop]
    exact ih.next

end Gives

theorem gives_ofText (source : String) : (ofText source).Gives (LetFn.tokens source) :=
  ⟨_, _, ofText_at source, (tokens_eq_scan source).symm⟩

/-- Every token takes something of what is left. -/
theorem length_tokens_le (s : Scanner) : s.tokens.length ≤ s.left := by
  induction hn : s.left using Nat.strongRecOn generalizing s with
  | ind n ih =>
  subst hn
  rw [tokens_eq]
  split
  · exact Nat.zero_le _
  · next h => exact Nat.lt_of_le_of_lt (ih _ (left_next_lt h) _ rfl) (left_next_lt h)

/-- A scanner that gave some tokens stands after what the rule passed over for them. -/
theorem skip_at (source : String) (n : Nat) :
    (skip n (ofText source)).At (passed (blanksOf source.toList) (scan source.toList) n)
      (remaining n source.toList) := by
  induction n with
  | zero => exact ofText_at source
  | succ n ih =>
    rw [skip_succ, passed_succ, ← firstToken_remaining]
    exact ih.next.2.2

variable {source : String} {before mid after : List Char}

/-- What is cut out of a text between two boundaries of its characters. -/
theorem slice_ofText (h : source.toList = before ++ mid ++ after) :
    (ofText source).slice (byteLength before) (byteLength before + byteLength mid) =
      String.ofList mid := by
  have input : (ofText source).input = String.ofList (before ++ mid ++ after) := by
    rw [← h, String.ofList_toList]
    rfl
  rw [← byteLength_append, slice_eq input]

/-- What a scanner gives from its place on is what a scanner of the rest of the text gives. -/
theorem tokens_skip (source : String) (n : Nat) :
    let s := skip n (ofText source)
    s.tokens = LetFn.tokens ((ofText source).slice s.position source.utf8ByteSize) := by
  intro s
  have place : s.At _ _ := skip_at source n
  have whole := passed_append_remaining n source.toList
  have rest := slice_ofText ((List.append_nil _).trans whole).symm
  rw [← byteLength_append, whole, byteLength_toList] at rest
  rw [place.tokens_eq, place.position, rest, tokens_eq_scan, String.toList_ofList]

end Scanner

/-- A scanner gives the tokens of the rule and then the end of the text, each with the offset at
which it stands. Between the tokens there is nothing but blanks. -/
theorem scanner_follows_rule (source : String) :
    tokens source = scan source.toList ∧
    ∃ blanks : Nat → List Char, (∀ n, ∀ c ∈ blanks n, c.isWhitespace = true) ∧
      source.toList =
        passed blanks (tokens source) (tokens source).length ++ blanks (tokens source).length ∧
      ∀ n,
        let s := Scanner.skip n (.ofText source)
        let found := s.next.1
        let before := passed blanks (tokens source) n ++ blanks n
        found.token = (scan source.toList).getD n Token.eof ∧
        found.start = byteLength before ∧
        (∃ after, source.toList = before ++ found.token.literal.toList ++ after) ∧
        (Scanner.ofText source).slice found.start
          (found.start + found.token.literal.utf8ByteSize) = found.token.literal ∧
        s.tokens = tokens ((Scanner.ofText source).slice s.position source.utf8ByteSize) := by
  refine ⟨tokens_eq_scan source, blanksOf source.toList,
    fun n c hc => isWhitespace_of_mem_blanksOf hc, ?_, fun n => ?_⟩
  · rw [tokens_eq_scan, passed_append_blanksOf]
  obtain ⟨token, start, -⟩ := (Scanner.skip_at source n).next
  rw [firstToken_remaining] at token
  have taken := (passed_append_remaining (n + 1) source.toList).symm
  rw [passed_succ] at taken
  have cut := Scanner.slice_ofText taken
  rw [byteLength_toList, String.ofList_toList] at cut
  simp only [token, start, tokens_eq_scan source]
  exact ⟨trivial, rfl, ⟨_, taken⟩, cut, Scanner.tokens_skip source n⟩

end LetFn
