import LetFn.Proofs.Scanning.Offsets

/-!
# Scanning token by token

A text can be taken apart from its front:

* a blank is passed over (`scan_blank`);
* a word, a number, a symbol or a pair is taken whole when the character after it does not belong
  to it (`scan_word`, `scan_number`, `scan_symbol`, `scan_pair`).

So what holds of a text can be shown blank by blank and token by token (`scan_induction`), and what
holds of every first token holds of every token (`eq_firstToken_of_mem_scan`). No token of a text is
the end of a text (`kind_ne_eof_of_mem_scan`).

Two texts are scanned one after the other where no token can reach from the first into the second
(`scan_append`). In particular tokens can be spelled one after the other with blanks between them,
and scanned back (`tokens_spell`). Whether a token is scanned back by itself can be computed
(`Token.Whole`).
-/

namespace LetFn

/-! ## Characters -/

theorem not_isLetter_of_isWhitespace {c : Char} (h : c.isWhitespace = true) :
    isLetter c = false := by
  simp only [Char.isWhitespace, Bool.or_eq_true, decide_eq_true_eq] at h
  rcases h with ((rfl | rfl) | rfl) | rfl <;> rfl

theorem not_isWhitespace_of_isLetter {c : Char} (h : isLetter c = true) :
    c.isWhitespace = false := by
  cases hc : c.isWhitespace with
  | false => rfl
  | true => rw [not_isLetter_of_isWhitespace hc] at h; cases h

theorem not_isWhitespace_of_isDigit {c : Char} (h : c.isDigit = true) :
    c.isWhitespace = false := by
  cases hc : c.isWhitespace with
  | false => rfl
  | true =>
    simp only [Char.isWhitespace, Bool.or_eq_true, decide_eq_true_eq] at hc
    rcases hc with ((rfl | rfl) | rfl) | rfl <;> cases h

/-- Letters are given by two ranges and the underscore. -/
theorem isLetter_eq (c : Char) :
    isLetter c = ((decide (c.val ≥ 'A'.val ∧ c.val ≤ 'Z'.val) ||
      decide (c.val ≥ 'a'.val) && decide (c.val ≤ 'z'.val)) || c == '_') := rfl

theorem not_isLetter_of_isDigit {c : Char} (h : c.isDigit = true) : isLetter c = false := by
  have hne : c ≠ '_' := by
    rintro rfl
    cases h
  simp only [Char.isDigit, Bool.and_eq_true, decide_eq_true_eq, UInt32.le_iff_toNat_le] at h
  simp only [isLetter_eq, Bool.or_eq_false_iff, Bool.and_eq_false_imp, decide_eq_true_eq,
    decide_eq_false_iff_not, UInt32.le_iff_toNat_le, beq_eq_false_iff_ne, ne_eq, hne,
    not_false_eq_true, and_true, ge_iff_le]
  have : '9'.val.toNat = 57 := rfl
  have : 'A'.val.toNat = 65 := rfl
  have : 'a'.val.toNat = 97 := rfl
  omega

/-! ## Words and numbers -/

theorem takeWhile_append_of_head {p : Char → Bool} {cs ds : List Char}
    (stop : ∀ d ∈ ds.head?, p d = false) : (cs ++ ds).takeWhile p = cs.takeWhile p := by
  induction cs with
  | nil =>
    cases ds with
    | nil => rfl
    | cons d ds => simp [stop d rfl]
  | cons c cs ih => simp only [List.cons_append, List.takeWhile_cons, ih]

theorem dropWhile_append_of_head {p : Char → Bool} {cs ds : List Char}
    (stop : ∀ d ∈ ds.head?, p d = false) : (cs ++ ds).dropWhile p = cs.dropWhile p ++ ds := by
  induction cs with
  | nil =>
    cases ds with
    | nil => rfl
    | cons d ds => simp [stop d rfl]
  | cons c cs ih =>
    simp only [List.cons_append, List.dropWhile_cons, ih]
    split <;> rfl

theorem takeWhile_append_of_stop {p : Char → Bool} {w rest : List Char}
    (all : ∀ c ∈ w, p c = true) (stop : ∀ c ∈ rest.head?, p c = false) :
    (w ++ rest).takeWhile p = w := by
  have whole := @List.takeWhile_append_of_pos _ p w [] all
  rw [List.append_nil, List.takeWhile_nil, List.append_nil] at whole
  rw [takeWhile_append_of_head stop, whole]

theorem dropWhile_append_of_stop {p : Char → Bool} {w rest : List Char}
    (all : ∀ c ∈ w, p c = true) (stop : ∀ c ∈ rest.head?, p c = false) :
    (w ++ rest).dropWhile p = rest := by
  have whole := @List.dropWhile_append_of_pos _ p w [] all
  rw [List.append_nil, List.dropWhile_nil] at whole
  rw [dropWhile_append_of_head stop, whole, List.nil_append]

/-- A word is taken whole where no letter follows. -/
theorem scan_word {w : List Char} (hw : w ≠ []) (letters : ∀ c ∈ w, isLetter c = true)
    {rest : List Char} (stop : ∀ c ∈ rest.head?, isLetter c = false) :
    scan (w ++ rest) = .word (String.ofList w) :: scan rest := by
  obtain ⟨c, w, rfl⟩ := List.exists_cons_of_ne_nil hw
  have hc : isLetter c = true := letters c (by simp)
  have hw : ∀ d ∈ w, isLetter d = true := fun d hd => letters d (by simp [hd])
  have pair : ¬BeginsPair c (w ++ rest) := by
    refine not_beginsPair_of_ne ?_ ?_ _ <;>
    · rintro rfl
      cases hc
  rw [List.cons_append, scan_cons (not_isWhitespace_of_isLetter hc), firstToken_eq pair, if_pos hc,
    takeWhile_append_of_stop hw stop, dropWhile_append_of_stop hw stop]

/-- A number is taken whole where no digit follows. -/
theorem scan_number {w : List Char} (hw : w ≠ []) (digits : ∀ c ∈ w, c.isDigit = true)
    {rest : List Char} (stop : ∀ c ∈ rest.head?, c.isDigit = false) :
    scan (w ++ rest) = .number (String.ofList w) :: scan rest := by
  obtain ⟨c, w, rfl⟩ := List.exists_cons_of_ne_nil hw
  have hc : c.isDigit = true := digits c (by simp)
  have hw : ∀ d ∈ w, d.isDigit = true := fun d hd => digits d (by simp [hd])
  have pair : ¬BeginsPair c (w ++ rest) := by
    refine not_beginsPair_of_ne ?_ ?_ _ <;>
    · rintro rfl
      cases hc
  rw [List.cons_append, scan_cons (not_isWhitespace_of_isDigit hc), firstToken_eq pair,
    if_neg (by simp [not_isLetter_of_isDigit hc]), if_pos hc,
    takeWhile_append_of_stop hw stop, dropWhile_append_of_stop hw stop]

/-- A character that is a token by itself is one where it does not begin a pair. -/
theorem scan_symbol {c : Char} {rest : List Char} (blank : c.isWhitespace = false)
    (letter : isLetter c = false) (digit : c.isDigit = false) (pair : ¬BeginsPair c rest) :
    scan (c :: rest) = .symbol c :: scan rest := by
  rw [scan_cons blank, firstToken_eq pair, if_neg (by simp [letter]), if_neg (by simp [digit])]

/-- An operator of two characters is taken whole, whatever follows. -/
theorem scan_pair {c : Char} (h : c = '=' ∨ c = '!') (rest : List Char) :
    scan (c :: '=' :: rest) =
      ⟨Kind.ofPair (String.ofList [c, '=']), String.ofList [c, '=']⟩ :: scan rest := by
  have blank : c.isWhitespace = false := by obtain rfl | rfl := h <;> rfl
  rw [scan_cons blank, firstToken_pair h]

/-! ## Token by token -/

/-- What holds of no characters, and goes over from what follows a blank or a token to the whole,
holds of every text. -/
@[elab_as_elim]
theorem scan_induction {motive : List Char → Prop} (cs : List Char) (nil : motive [])
    (blank : ∀ c cs, c.isWhitespace = true → motive cs → motive (c :: cs))
    (token : ∀ c cs, c.isWhitespace = false → motive (firstToken (c :: cs)).2 → motive (c :: cs)) :
    motive cs := by
  induction hn : cs.length using Nat.strongRecOn generalizing cs with
  | ind n ih =>
  subst hn
  cases cs with
  | nil => exact nil
  | cons c cs =>
    cases hc : c.isWhitespace with
    | true => exact blank c cs hc (ih _ (Nat.lt_succ_self _) cs rfl)
    | false => exact token c cs hc (ih _ (firstToken_rest_length_lt c cs) _ rfl)

/-- Every token of a text is the first one of what is left at some place. -/
theorem eq_firstToken_of_mem_scan {t : Token} {cs : List Char} (h : t ∈ scan cs) :
    ∃ c ds, c.isWhitespace = false ∧ t = (firstToken (c :: ds)).1 := by
  induction cs using scan_induction with
  | nil => simp at h
  | blank c cs hc ih =>
    rw [scan_blank hc] at h
    exact ih h
  | token c cs hc ih =>
    rw [scan_cons hc, List.mem_cons] at h
    obtain rfl | h := h
    · exact ⟨c, cs, hc, rfl⟩
    · exact ih h

/-- No token of a text is the end of a text. -/
theorem kind_ne_eof_of_mem_scan {t : Token} {cs : List Char} (h : t ∈ scan cs) :
    t.kind ≠ .eof := by
  obtain ⟨c, ds, -, rfl⟩ := eq_firstToken_of_mem_scan h
  exact kind_firstToken_ne_eof c ds

/-! ## Texts one after the other -/

/-- No token that began before the characters goes on with them. -/
def Separates (cs : List Char) : Prop :=
  ∀ c ∈ cs.head?, isLetter c = false ∧ c.isDigit = false ∧ c ≠ '='

/-- The first token does not reach into a separate text. -/
theorem firstToken_append {ds : List Char} (separates : Separates ds) (c : Char) (cs : List Char) :
    firstToken (c :: (cs ++ ds)) = ((firstToken (c :: cs)).1, (firstToken (c :: cs)).2 ++ ds) := by
  by_cases pair : BeginsPair c cs
  · obtain ⟨hc, hcs⟩ := pair
    obtain ⟨cs, rfl⟩ := List.head?_eq_some_iff.mp hcs
    obtain rfl | rfl := hc <;> rfl
  · have pair' : ¬BeginsPair c (cs ++ ds) := by
      rintro ⟨hc, hcs⟩
      cases cs with
      | nil => exact (separates _ hcs).2.2 rfl
      | cons d cs => exact pair ⟨hc, hcs⟩
    have letter : ∀ d ∈ ds.head?, isLetter d = false := fun d hd => (separates d hd).1
    have digit : ∀ d ∈ ds.head?, d.isDigit = false := fun d hd => (separates d hd).2.1
    rw [firstToken_eq pair, firstToken_eq pair', takeWhile_append_of_head letter,
      dropWhile_append_of_head letter, takeWhile_append_of_head digit,
      dropWhile_append_of_head digit]
    split
    · rfl
    · split <;> rfl

theorem scan_append {ds : List Char} (separates : Separates ds) (cs : List Char) :
    scan (cs ++ ds) = scan cs ++ scan ds := by
  induction cs using scan_induction with
  | nil => rw [scan_nil, List.nil_append, List.nil_append]
  | blank c cs hc ih => rw [List.cons_append, scan_blank hc, scan_blank hc, ih]
  | token c cs hc ih =>
    rw [List.cons_append, scan_cons hc, scan_cons hc, firstToken_append separates, ih,
      List.cons_append]

/-- A blank separates what stands before and after it. -/
theorem scan_append_blank {c : Char} (blank : c.isWhitespace = true) (cs ds : List Char) :
    scan (cs ++ c :: ds) = scan cs ++ scan ds := by
  have separates : Separates (c :: ds) := by
    intro d hd
    obtain rfl := Option.some.inj hd
    refine ⟨not_isLetter_of_isWhitespace blank, ?_, ?_⟩
    · cases digit : c.isDigit with
      | false => rfl
      | true => rw [not_isWhitespace_of_isDigit digit] at blank; cases blank
    · rintro rfl
      cases blank
  rw [scan_append separates, scan_blank blank]

/-- A token that is scanned by itself from its spelling. -/
def Token.Scanned (t : Token) : Prop := scan t.literal.toList = [t]

theorem scanned_word {w : String} (hw : w.toList ≠ [])
    (letters : ∀ c ∈ w.toList, isLetter c = true) : (Token.word w).Scanned := by
  have h := @scan_word _ hw letters [] (by simp)
  rwa [List.append_nil, String.ofList_toList, scan_nil] at h

theorem scanned_number {w : String} (hw : w.toList ≠ [])
    (digits : ∀ c ∈ w.toList, c.isDigit = true) : (Token.number w).Scanned := by
  have h := @scan_number _ hw digits [] (by simp)
  rwa [List.append_nil, String.ofList_toList, scan_nil] at h

theorem scanned_symbol {c : Char} (blank : c.isWhitespace = false) (letter : isLetter c = false)
    (digit : c.isDigit = false) : (Token.symbol c).Scanned := by
  have h := @scan_symbol c [] blank letter digit (by simp [BeginsPair])
  rw [scan_nil] at h
  simpa [Token.Scanned, Token.symbol] using h

theorem scanned_pair {c : Char} (h : c = '=' ∨ c = '!') :
    Token.Scanned ⟨Kind.ofPair (String.ofList [c, '=']), String.ofList [c, '=']⟩ := by
  have pair := scan_pair h []
  rw [scan_nil] at pair
  simpa [Token.Scanned] using pair

/-- A token that a text can have. -/
inductive Token.Spelled : Token → Prop
  | word {w : String} (nonempty : w.toList ≠ []) (letters : ∀ c ∈ w.toList, isLetter c = true) :
      Spelled (.word w)
  | number {w : String} (nonempty : w.toList ≠ [])
      (digits : ∀ c ∈ w.toList, c.isDigit = true) : Spelled (.number w)
  | symbol {c : Char} (blank : c.isWhitespace = false) (letter : isLetter c = false)
      (digit : c.isDigit = false) : Spelled (.symbol c)
  | pair {c : Char} (first : c = '=' ∨ c = '!') :
      Spelled ⟨Kind.ofPair (String.ofList [c, '=']), String.ofList [c, '=']⟩

theorem Token.Spelled.scanned {t : Token} (h : t.Spelled) : t.Scanned := by
  cases h with
  | word nonempty letters => exact scanned_word nonempty letters
  | number nonempty digits => exact scanned_number nonempty digits
  | symbol blank letter digit => exact scanned_symbol blank letter digit
  | pair first => exact scanned_pair first

theorem spelled_firstToken {c : Char} (blank : c.isWhitespace = false) (cs : List Char) :
    (firstToken (c :: cs)).1.Spelled := by
  by_cases pair : BeginsPair c cs
  · obtain ⟨hc, hcs⟩ := pair
    obtain ⟨cs, rfl⟩ := List.head?_eq_some_iff.mp hcs
    obtain rfl | rfl := hc
    · exact .pair (.inl rfl)
    · exact .pair (.inr rfl)
  · have run (p : Char → Bool) (hc : p c = true) : ∀ d ∈ c :: cs.takeWhile p, p d = true :=
      List.forall_mem_cons.mpr ⟨hc, List.all_eq_true.mp List.all_takeWhile⟩
    rw [firstToken_eq pair]
    split
    · next letter => exact .word (by simp) (by simpa using run isLetter letter)
    · next letter =>
      split
      · next digit => exact .number (by simp) (by simpa using run Char.isDigit digit)
      · next digit => exact .symbol blank (by simpa using letter) (by simpa using digit)

theorem spelled_of_mem_scan {t : Token} {cs : List Char} (h : t ∈ scan cs) : t.Spelled := by
  obtain ⟨c, ds, hc, rfl⟩ := eq_firstToken_of_mem_scan h
  exact spelled_firstToken hc ds

/-- Every token of a text is scanned by itself. -/
theorem scanned_of_mem_scan {t : Token} {cs : List Char} (h : t ∈ scan cs) : t.Scanned :=
  (spelled_of_mem_scan h).scanned

/-- The spellings of the tokens, each after a blank. -/
def spell (ts : List Token) : String :=
  String.ofList (ts.flatMap fun t => ' ' :: t.literal.toList)

/-- Tokens that are scanned by themselves are scanned from their spellings. -/
theorem tokens_spell {ts : List Token} (h : ∀ t ∈ ts, t.Scanned) : tokens (spell ts) = ts := by
  rw [tokens_eq_scan, spell, String.toList_ofList]
  induction ts with
  | nil => exact scan_nil
  | cons t ts ih =>
    have separates : Separates (ts.flatMap fun t => ' ' :: t.literal.toList) := by
      cases ts with
      | nil => simp [Separates]
      | cons u ts => simp [Separates, isLetter]
    rw [List.flatMap_cons, List.cons_append, scan_blank rfl, scan_append separates,
      ih fun u hu => h u (List.mem_cons_of_mem t hu), h t List.mem_cons_self, List.singleton_append]

/-- The rule of the longest match takes the token whole from its spelling. -/
def Token.Whole (t : Token) : Prop :=
  t.kind ≠ .eof ∧ t.literal.toList.head?.any Char.isWhitespace = false ∧
    firstToken t.literal.toList = (t, [])

instance (t : Token) : Decidable t.Whole := inferInstanceAs (Decidable (_ ∧ _))

theorem Token.Whole.scanned {t : Token} (h : t.Whole) : t.Scanned := by
  obtain ⟨ne_eof, blank, whole⟩ := h
  rw [Scanned]
  cases spelling : t.literal.toList with
  | nil =>
    rw [spelling] at whole
    exact absurd (congrArg (·.1.kind) whole).symm ne_eof
  | cons c cs =>
    rw [spelling] at blank whole
    rw [scan_cons blank, whole, scan_nil]

/-- Tokens that are taken whole are scanned from their spellings. -/
theorem tokens_spell_of_whole {ts : List Token} (h : ∀ t ∈ ts, t.Whole) :
    tokens (spell ts) = ts := tokens_spell fun t ht => (h t ht).scanned

end LetFn
