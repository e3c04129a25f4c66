import LetFn.Proofs.Scanning.Basic

/-!
# How tokens are spelled

A token of a text is a word, a number, a symbol or a pair (`Token.Spelled`), so its kind says how it
is spelled. Names are words that are no keywords, integers are runs of digits, and each of the other
kinds, illegal tokens apart, has one spelling (`Kind.spelling?`).

Scanning drops nothing but blanks: the spellings of the tokens, one after the other, are the text
without its blanks (`flatMap_literal_scan`). The characters that the language has no use for are the
foreign ones (`isForeign`). Each of them is an illegal token by itself, and no other token is
illegal (`countKind_illegal_scan`).
-/

namespace LetFn

/-! ## Kinds with one spelling -/

/-- The spelling that all tokens of the kind have in common, if they have one. -/
def Kind.spelling? : Kind → Option String
  | illegal | eof | ident | int | string => none
  | assign => some "="
  | plus => some "+"
  | minus => some "-"
  | bang => some "!"
  | star => some "*"
  | slash => some "/"
  | less => some "<"
  | greater => some ">"
  | equal => some "=="
  | notEqual => some "!="
  | comma => some ","
  | semicolon => some ";"
  | lparen => some "("
  | rparen => some ")"
  | lbrace => some "\x7b"
  | rbrace => some "\x7d"
  | function => some "fn"
  | let_ => some "let"
  | true_ => some "true"
  | false_ => some "false"
  | if_ => some "if"
  | else_ => some "else"
  | return_ => some "return"

theorem Kind.spelling?_ofWord {w s : String} (h : (ofWord w).spelling? = some s) : w = s := by
  unfold ofWord at h
  split at h
  case h_8 => cases h
  all_goals exact Option.some.inj h

theorem Kind.spelling?_ofChar {c : Char} {s : String} (h : (ofChar c).spelling? = some s) :
    String.singleton c = s := by
  unfold ofChar at h
  split at h
  case h_15 => cases h
  all_goals exact Option.some.inj h

namespace Token.Spelled

variable {t : Token}

theorem literal_eq (h : t.Spelled) {s : String} (spelling : t.kind.spelling? = some s) :
    t.literal = s := by
  cases h with
  | word => exact Kind.spelling?_ofWord spelling
  | number => cases spelling
  | symbol => exact Kind.spelling?_ofChar spelling
  | pair first =>
    obtain rfl | rfl := first <;> exact Option.some.inj spelling

/-- The kind of a token with one spelling says which token it is. -/
theorem eq_of_kind (h : t.Spelled) {k : Kind} {s : String} (kind : t.kind = k)
    (spelling : k.spelling? = some s := by rfl) : t = ⟨k, s⟩ := by
  subst kind
  rw [← h.literal_eq spelling]

end Token.Spelled

/-! ## Texts without their blanks -/

/-- There are no blanks in a token. -/
theorem Token.Spelled.isWhitespace_eq_false {t : Token} (h : t.Spelled) :
    ∀ c ∈ t.literal.toList, c.isWhitespace = false := by
  cases h with
  | word _ letters => exact fun c hc => not_isWhitespace_of_isLetter (letters c hc)
  | number _ digits => exact fun c hc => not_isWhitespace_of_isDigit (digits c hc)
  | symbol blank => simpa [Token.symbol] using blank
  | pair first => obtain rfl | rfl := first <;> simp

/-- The spellings of the tokens are the text without its blanks. -/
theorem flatMap_literal_scan (cs : List Char) :
    (scan cs).flatMap (fun t => t.literal.toList) = cs.filter fun c => !c.isWhitespace := by
  induction cs using scan_induction with
  | nil => simp
  | blank c cs hc ih => rw [scan_blank hc, ih, List.filter_cons_of_neg (by simp [hc])]
  | token c cs hc ih =>
    have spelled := spelled_firstToken hc cs
    have keep : (firstToken (c :: cs)).1.literal.toList.filter (fun c => !c.isWhitespace) =
        (firstToken (c :: cs)).1.literal.toList :=
      List.filter_eq_self.mpr fun d hd => by simp [spelled.isWhitespace_eq_false d hd]
    rw [scan_cons hc, List.flatMap_cons, ih, ← keep, ← List.filter_append,
      literal_firstToken_append]

/-! ## Foreign characters -/

/-- The characters that are tokens by themselves. -/
def punctuation : List Char :=
  ['=', '!', ';', '(', ')', '{', '}', ',', '+', '-', '<', '>', '*', '/']

/-- The language has no use for the character: it is no blank, no letter, no digit and no
punctuation. -/
def isForeign (c : Char) : Bool :=
  !(c.isWhitespace || isLetter c || c.isDigit || punctuation.contains c)

theorem Kind.ofChar_eq_illegal {c : Char} : ofChar c = .illegal ↔ c ∉ punctuation := by
  unfold ofChar
  split <;> simp_all [punctuation]

/-- All other characters are ASCII characters. -/
theorem toNat_lt_of_isForeign_eq_false {c : Char} (h : isForeign c = false) : c.toNat < 128 := by
  have below {d : Char} (hd : d.val.toNat < 128) (hle : c.val ≤ d.val) : c.toNat < 128 :=
    Nat.lt_of_le_of_lt (UInt32.le_iff_toNat_le.mp hle) hd
  simp only [isForeign, Bool.not_eq_false', Bool.or_eq_true] at h
  obtain ((blank | letter) | digit) | mark := h
  · simp only [Char.isWhitespace, Bool.or_eq_true, decide_eq_true_eq] at blank
    obtain ((rfl | rfl) | rfl) | rfl := blank <;> decide
  · simp only [isLetter_eq, Bool.or_eq_true, Bool.and_eq_true, decide_eq_true_eq,
      beq_iff_eq] at letter
    obtain (⟨-, hle⟩ | ⟨-, hle⟩) | rfl := letter
    · exact below (by decide) hle
    · exact below (by decide) hle
    · decide
  · simp only [Char.isDigit, Bool.and_eq_true, decide_eq_true_eq] at digit
    exact below (by decide) digit.2
  · have marks : ∀ d ∈ punctuation, d.toNat < 128 := by simp [punctuation]
    exact marks c (List.contains_iff_mem.mp mark)

/-! ## Illegal tokens -/

/-- The number of tokens of the kind. -/
def countKind (k : Kind) (ts : List Token) : Nat := ts.countP (·.kind = k)

@[simp] theorem countKind_nil (k : Kind) : countKind k [] = 0 := rfl

@[simp] theorem countKind_cons (k : Kind) (t : Token) (ts : List Token) :
    countKind k (t :: ts) = (if t.kind = k then 1 else 0) + countKind k ts := by
  rw [countKind, List.countP_cons, Nat.add_comm]
  simp [countKind]

@[simp] theorem countKind_append (k : Kind) (ts us : List Token) :
    countKind k (ts ++ us) = countKind k ts + countKind k us := List.countP_append

/-- The foreign characters of a token: none, or the only one that it has. -/
theorem Token.Spelled.countP_isForeign {t : Token} (h : t.Spelled) :
    t.literal.toList.countP isForeign = if t.kind = .illegal then 1 else 0 := by
  cases h with
  | @word w nonempty letters =>
    have kind : Kind.ofWord w ≠ .illegal := Kind.ofWord_ne w
    have none : w.toList.countP isForeign = 0 := by
      refine List.countP_eq_zero.mpr fun c hc => ?_
      simp [isForeign, letters c hc]
    simp [Token.word, kind, none]
  | @number w nonempty digits =>
    have none : w.toList.countP isForeign = 0 := by
      refine List.countP_eq_zero.mpr fun c hc => ?_
      simp [isForeign, digits c hc]
    simp [Token.number, none]
  | @symbol c blank letter digit =>
    have foreign : isForeign c = true ↔ Kind.ofChar c = .illegal := by
      simp [isForeign, blank, letter, digit, Kind.ofChar_eq_illegal]
    by_cases illegal : Kind.ofChar c = .illegal
    · simp [Token.symbol, illegal, foreign.mpr illegal]
    · simp [Token.symbol, illegal, foreign]
  | pair first => obtain rfl | rfl := first <;> decide

/-- As many tokens are illegal as characters are foreign. -/
theorem countKind_illegal_scan (cs : List Char) :
    countKind .illegal (scan cs) = cs.countP isForeign := by
  have counted : ∀ ts : List Token, (∀ t ∈ ts, t.Spelled) →
      (ts.flatMap fun t => t.literal.toList).countP isForeign = countKind .illegal ts := by
    intro ts spelled
    induction ts with
    | nil => rfl
    | cons t ts ih =>
      rw [List.flatMap_cons, List.countP_append, (spelled t List.mem_cons_self).countP_isForeign,
        ih fun u hu => spelled u (List.mem_cons_of_mem t hu), countKind_cons]
  -- no blank is foreign
  have blanks : ∀ c ∈ cs, (isForeign c && !c.isWhitespace) = true ↔ isForeign c = true := by
    intro c _
    cases hc : c.isWhitespace <;> simp [isForeign, hc]
  rw [← counted _ fun t => spelled_of_mem_scan, flatMap_literal_scan, List.countP_filter,
    List.countP_congr blanks]

end LetFn
