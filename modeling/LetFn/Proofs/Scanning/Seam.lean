import LetFn.Proofs.Scanning.Spelling

/-!
# Texts one after the other

The tokens of two texts, one written after the other, are the tokens of the first and those of the
second, unless the last token of the first goes on into the second (`Fuses`). This is the only way
in which the seam is seen (`scan_append_iff`):

* a single token is followed by the tokens of a text exactly if the two do not fuse
  (`Token.Spelled.scan_append_iff`), by cases on how a token is spelled;
* a token that ends before its text does is the same before a longer text
  (`firstToken_append_of_ne_nil`), so by induction only the last token counts.

Blanks do not fuse with anything (`scan_append_blanks`).
-/

namespace LetFn

/-- The first characters, whose tokens are given, and the second ones have a token in common: a word
or a number goes on, or a `=` or `!` that ends the first characters as a token by itself is completed
to a pair. -/
def Fuses (cs : List Char) (ts : List Token) (ds : List Char) : Prop :=
  ∃ c ∈ cs.getLast?, ∃ d ∈ ds.head?,
    (isLetter c = true ∧ isLetter d = true) ∨ (c.isDigit = true ∧ d.isDigit = true) ∨
      ((c = '=' ∨ c = '!') ∧ ts.getLast? = some (.symbol c) ∧ d = '=')

/-! ## One token -/

/-- A run of characters of a class is a token together with what follows, unless none of the class
follows. -/
theorem scan_run_append_iff {p : Char → Bool} {token : String → Token}
    (literal : ∀ w, (token w).literal = w)
    (scan_run : ∀ {w : List Char}, w ≠ [] → (∀ c ∈ w, p c = true) →
      ∀ {rest : List Char}, (∀ c ∈ rest.head?, p c = false) →
        scan (w ++ rest) = token (String.ofList w) :: scan rest)
    {w : List Char} (nonempty : w ≠ []) (all : ∀ c ∈ w, p c = true) (ds : List Char) :
    scan (w ++ ds) = token (String.ofList w) :: scan ds ↔ ∀ d ∈ ds.head?, p d = false := by
  refine ⟨fun same d hd => ?_, scan_run nonempty all⟩
  obtain ⟨ds, rfl⟩ := List.head?_eq_some_iff.mp hd
  have run : ∀ c ∈ w ++ (d :: ds).takeWhile p, p c = true :=
    List.forall_mem_append.mpr ⟨all, List.all_eq_true.mp List.all_takeWhile⟩
  have stop : ∀ c ∈ ((d :: ds).dropWhile p).head?, p c = false := by
    intro c hc
    have outside := List.head?_dropWhile_not p (d :: ds)
    rwa [hc] at outside
  have longer := scan_run (List.append_ne_nil_of_left_ne_nil nonempty _) run stop
  rw [List.append_assoc, List.takeWhile_append_dropWhile, same, List.cons.injEq] at longer
  have none : (d :: ds).takeWhile p = [] := by
    simpa [literal] using congrArg (fun t => t.literal.toList) longer.1
  simpa [List.takeWhile_cons] using none

/-- A word fuses with letters only. -/
theorem fuses_word_iff {w : List Char} (nonempty : w ≠ []) (letters : ∀ c ∈ w, isLetter c = true)
    (ts : List Token) (ds : List Char) :
    Fuses w ts ds ↔ ∃ d ∈ ds.head?, isLetter d = true := by
  obtain ⟨c, last⟩ : ∃ c, w.getLast? = some c := ⟨_, List.getLast?_eq_some_getLast nonempty⟩
  have letter : isLetter c = true := letters c (List.mem_of_getLast? last)
  have digit : c.isDigit = false := by
    by_contra digit
    rw [not_isLetter_of_isDigit (by simpa using digit)] at letter
    cases letter
  have mark : ¬(c = '=' ∨ c = '!') := by
    rintro (rfl | rfl) <;> cases letter
  simp [Fuses, last, letter, digit, mark]

/-- A number fuses with digits only. -/
theorem fuses_number_iff {w : List Char} (nonempty : w ≠ []) (digits : ∀ c ∈ w, c.isDigit = true)
    (ts : List Token) (ds : List Char) :
    Fuses w ts ds ↔ ∃ d ∈ ds.head?, d.isDigit = true := by
  obtain ⟨c, last⟩ : ∃ c, w.getLast? = some c := ⟨_, List.getLast?_eq_some_getLast nonempty⟩
  have digit : c.isDigit = true := digits c (List.mem_of_getLast? last)
  have mark : ¬(c = '=' ∨ c = '!') := by
    rintro (rfl | rfl) <;> cases digit
  simp [Fuses, last, digit, not_isLetter_of_isDigit digit, mark]

/-- A single character fuses if it begins a pair. -/
theorem fuses_symbol_iff {c : Char} (letter : isLetter c = false) (digit : c.isDigit = false)
    (ds : List Char) : Fuses [c] [.symbol c] ds ↔ BeginsPair c ds := by
  simp [Fuses, BeginsPair, letter, digit, and_comm]

/-- A pair is complete. -/
theorem not_fuses_pair (c : Char) (k : Kind) (ds : List Char) :
    ¬Fuses [c, '='] [⟨k, String.ofList [c, '=']⟩] ds := by
  have letter : isLetter '=' = false := rfl
  have digit : '='.isDigit = false := rfl
  simp [Fuses, letter, digit, Token.symbol]

/-- A token and a text after it are scanned one after the other exactly if they do not fuse. -/
theorem Token.Spelled.scan_append_iff {t : Token} (h : t.Spelled) (ds : List Char) :
    scan (t.literal.toList ++ ds) = t :: scan ds ↔ ¬Fuses t.literal.toList [t] ds := by
  cases h with
  | @word w nonempty letters =>
    have run := scan_run_append_iff (fun _ => rfl) scan_word nonempty letters ds
    rw [Token.word, fuses_word_iff nonempty letters]
    simpa [Token.word] using run
  | @number w nonempty digits =>
    have run := scan_run_append_iff (fun _ => rfl) scan_number nonempty digits ds
    rw [Token.number, fuses_number_iff nonempty digits]
    simpa [Token.number] using run
  | @symbol c blank letter digit =>
    have literal : (Token.symbol c).literal.toList = [c] := String.toList_singleton c
    rw [literal, fuses_symbol_iff letter digit, List.singleton_append]
    refine ⟨?_, scan_symbol blank letter digit⟩
    rintro same ⟨first, head⟩
    obtain ⟨ds, rfl⟩ := List.head?_eq_some_iff.mp head
    rw [scan_pair first, List.cons.injEq] at same
    simpa [Token.symbol] using congrArg (fun t => t.literal.toList) same.1
  | @pair c first =>
    rw [String.toList_ofList]
    exact iff_of_true (scan_pair first ds) (not_fuses_pair c _ ds)

/-! ## The last token -/

/-- A character that is no blank is part of a token. -/
theorem scan_ne_nil {c : Char} {cs : List Char} (mem : c ∈ cs) (h : c.isWhitespace = false) :
    scan cs ≠ [] := by
  intro none
  have spellings := flatMap_literal_scan cs
  rw [none, List.flatMap_nil] at spellings
  exact List.filter_eq_nil_iff.mp spellings.symm c mem (by rw [h]; rfl)

/-- Whether characters fuse with what follows is decided by their end. -/
theorem fuses_append_iff {cs : List Char} (nonempty : cs ≠ []) (before : List Char)
    (ts : List Token) (ds : List Char) :
    Fuses (before ++ cs) (ts ++ scan cs) ds ↔ Fuses cs (scan cs) ds := by
  rw [Fuses, Fuses, List.getLast?_append_of_ne_nil _ nonempty]
  refine exists_congr fun c => and_congr_right fun last => exists_congr fun d =>
    and_congr_right fun _ => or_congr_right (or_congr_right (and_congr_right fun mark => ?_))
  have blank : c.isWhitespace = false := by obtain rfl | rfl := mark <;> rfl
  rw [List.getLast?_append_of_ne_nil _ (scan_ne_nil (List.mem_of_getLast? last) blank)]

/-- A blank does not fuse. -/
theorem not_fuses_blank {c : Char} (blank : c.isWhitespace = true) (ts : List Token)
    (ds : List Char) : ¬Fuses [c] ts ds := by
  have digit : c.isDigit = false := by
    by_contra digit
    rw [not_isWhitespace_of_isDigit (by simpa using digit)] at blank
    cases blank
  have mark : ¬(c = '=' ∨ c = '!') := by
    rintro (rfl | rfl) <;> cases blank
  simp [Fuses, not_isLetter_of_isWhitespace blank, digit, mark]

/-- A run that ends before the text does is not longer in a longer text. -/
theorem span_append_of_ne_nil {p : Char → Bool} {cs : List Char} (more : cs.dropWhile p ≠ [])
    (ds : List Char) :
    (cs ++ ds).takeWhile p = cs.takeWhile p ∧ (cs ++ ds).dropWhile p = cs.dropWhile p ++ ds := by
  have drop : (cs ++ ds).dropWhile p = cs.dropWhile p ++ ds := by
    rw [List.dropWhile_append, if_neg (by simpa using more)]
  have whole : (cs ++ ds).takeWhile p ++ (cs.dropWhile p ++ ds) =
      cs.takeWhile p ++ (cs.dropWhile p ++ ds) := by
    rw [← drop, List.takeWhile_append_dropWhile, drop, ← List.append_assoc,
      List.takeWhile_append_dropWhile]
  exact ⟨List.append_cancel_right whole, drop⟩

/-- A token that ends before the text does is the first token whatever comes after the text. -/
theorem firstToken_append_of_ne_nil {c : Char} {cs : List Char}
    (more : (firstToken (c :: cs)).2 ≠ []) (ds : List Char) :
    firstToken (c :: (cs ++ ds)) = ((firstToken (c :: cs)).1, (firstToken (c :: cs)).2 ++ ds) := by
  cases cs with
  | nil =>
    have taken := firstToken_rest_length_lt c []
    exact absurd (List.length_eq_zero_iff.mp (Nat.lt_one_iff.mp taken)) more
  | cons d cs =>
    by_cases pair : BeginsPair c (d :: cs)
    · obtain ⟨hc, hd⟩ := pair
      obtain rfl := Option.some.inj hd
      obtain rfl | rfl := hc <;> rfl
    · have pair' : ¬BeginsPair c (d :: cs ++ ds) := pair
      rw [firstToken_eq pair] at more
      rw [firstToken_eq pair, firstToken_eq pair']
      split
      · next letter =>
        rw [if_pos letter] at more
        obtain ⟨take, drop⟩ := span_append_of_ne_nil more ds
        rw [take, drop]
      · next letter =>
        rw [if_neg letter] at more
        split
        · next digit =>
          rw [if_pos digit] at more
          obtain ⟨take, drop⟩ := span_append_of_ne_nil more ds
          rw [take, drop]
        · rfl

/-- Texts are scanned one after the other exactly if they do not fuse. -/
theorem scan_append_iff (cs ds : List Char) :
    scan (cs ++ ds) = scan cs ++ scan ds ↔ ¬Fuses cs (scan cs) ds := by
  induction cs using scan_induction with
  | nil => simp [Fuses]
  | blank c cs hc ih =>
    rw [List.cons_append, scan_blank hc, scan_blank hc, ih]
    cases cs with
    | nil => exact iff_of_true (by simp [Fuses]) (not_fuses_blank hc _ ds)
    | cons d cs => exact not_congr (fuses_append_iff (List.cons_ne_nil d cs) [c] [] ds).symm
  | token c cs hc ih =>
    have text := literal_firstToken_append c cs
    by_cases more : (firstToken (c :: cs)).2 = []
    · -- the text is a single token
      have single : scan (c :: cs) = [(firstToken (c :: cs)).1] := by
        rw [scan_cons hc, more, scan_nil]
      rw [more, List.append_nil] at text
      rw [single, List.singleton_append]
      have one := (spelled_firstToken hc cs).scan_append_iff ds
      rwa [text] at one
    · rw [List.cons_append, scan_cons hc, scan_cons hc, firstToken_append_of_ne_nil more,
        List.cons_append, List.cons_inj_right, ih]
      have end_decides := fuses_append_iff more (firstToken (c :: cs)).1.literal.toList
        [(firstToken (c :: cs)).1] ds
      rw [text] at end_decides
      exact not_congr end_decides.symm

/-- Blanks separate what stands before and after them. -/
theorem scan_append_blanks {w : List Char} (nonempty : w ≠ [])
    (blanks : ∀ c ∈ w, c.isWhitespace = true) (cs ds : List Char) :
    scan (cs ++ w ++ ds) = scan cs ++ scan ds := by
  obtain ⟨c, w, rfl⟩ := List.exists_cons_of_ne_nil nonempty
  have ⟨blank, more⟩ := List.forall_mem_cons.mp blanks
  have passed : scan (w ++ ds) = scan ds := by
    clear blanks nonempty
    induction w with
    | nil => rfl
    | cons d w ih =>
      have ⟨blank, more⟩ := List.forall_mem_cons.mp more
      rw [List.cons_append, scan_blank blank, ih more]
  rw [List.append_assoc, List.cons_append, scan_append_blank blank, passed]

/-- Spellings with blanks between them are spellings with a blank before each, the first blank
apart. -/
theorem toList_spell (t : Token) (ts : List Token) :
    (spell (t :: ts)).toList =
      ' ' :: (String.intercalate " " ((t :: ts).map Token.literal)).toList := by
  rw [spell, String.toList_ofList]
  induction ts generalizing t with
  | nil => simp
  | cons u ts ih =>
    rw [List.flatMap_cons, ih]
    simp [String.intercalate_cons_cons]

/-- Texts are scanned one after the other exactly if they do not fuse, so in particular with blanks
between them. Nor do the spellings of tokens with blanks between them. -/
theorem tokens_append_iff (a b : String) :
    (tokens (a ++ b) = tokens a ++ tokens b ↔ ¬Fuses a.toList (tokens a) b.toList) ∧
      (∀ w : String, w ≠ "" → (∀ c ∈ w.toList, c.isWhitespace = true) →
        tokens (a ++ w ++ b) = tokens a ++ tokens b) ∧
      tokens (String.intercalate " " ((tokens a).map Token.literal)) = tokens a := by
  refine ⟨?_, fun w nonempty blanks => ?_, ?_⟩
  · rw [tokens_eq_scan, tokens_eq_scan a, tokens_eq_scan b, String.toList_append]
    exact scan_append_iff a.toList b.toList
  · rw [tokens_eq_scan, tokens_eq_scan a, tokens_eq_scan b, String.toList_append,
      String.toList_append]
    exact scan_append_blanks (by simpa using nonempty) blanks a.toList b.toList
  · have spelled : tokens (spell (tokens a)) = tokens a := by
      refine tokens_spell fun t ht => ?_
      rw [tokens_eq_scan] at ht
      exact scanned_of_mem_scan ht
    cases ts : tokens a with
    | nil => rw [List.map_nil, tokens_eq_scan]; exact scan_nil
    | cons t rest =>
      rw [ts, tokens_eq_scan, toList_spell, scan_blank rfl, ← tokens_eq_scan] at spelled
      exact spelled

end LetFn
