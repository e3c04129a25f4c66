import LetFn.Proofs.Grammar.Basic
import LetFn.Proofs.Scanning.Spelling

/-!
# The plain grammar

The grammar one would write down first, without levels of operators and without a word on what may
follow a statement. `Plain phrase ts` says that the tokens are the phrase. It is ambiguous: `a - b`
is one expression and also two statements, and `a * b + c` groups both ways.

Every brace that is opened in a phrase is closed in it (`Plain.braces`), so blocks that the text
leaves open have to be closed by appending braces first (`closingBraces`), and it is clear how many.
-/

namespace LetFn

/-- The phrases of the plain grammar. -/
inductive PlainPhrase where
  | expression
  /-- At least one expression, with commas between them. -/
  | arguments
  | block
  | statements
  | statement

/-- The tokens are at least one name, with commas between them. -/
inductive PlainNames : List Token → Prop
  | one {t : Token} (name : t.kind = .ident) : PlainNames [t]
  | more {t comma : Token} {ts : List Token} (name : t.kind = .ident)
      (comma_kind : comma.kind = .comma) (names : PlainNames ts) : PlainNames (t :: comma :: ts)

/-- The tokens are a semicolon or nothing. -/
def OptionalSemicolon (ts : List Token) : Prop := ts = [] ∨ ∃ t, t.kind = .semicolon ∧ ts = [t]

/-- The tokens are the phrase. -/
inductive Plain : PlainPhrase → List Token → Prop
  | name {t : Token} (kind : t.kind = .ident) : Plain .expression [t]
  | integer {t : Token} (kind : t.kind = .int)
      (value : (Numeral.value? t.literal).isSome) : Plain .expression [t]
  | true_ {t : Token} (kind : t.kind = .true_) : Plain .expression [t]
  | false_ {t : Token} (kind : t.kind = .false_) : Plain .expression [t]
  | unary {op : UnaryOp} {t : Token} {e : List Token} (kind : t.kind = op.kind)
      (operand : Plain .expression e) : Plain .expression (t :: e)
  | binary {op : BinaryOp} {t : Token} {l r : List Token} (kind : t.kind = op.kind)
      (left : Plain .expression l) (right : Plain .expression r) : Plain .expression (l ++ t :: r)
  | emptyCall {opening close : Token} {e : List Token} (opening_kind : opening.kind = .lparen)
      (close_kind : close.kind = .rparen) (callee : Plain .expression e) :
      Plain .expression (e ++ [opening, close])
  | call {opening close : Token} {e args : List Token} (opening_kind : opening.kind = .lparen)
      (close_kind : close.kind = .rparen) (callee : Plain .expression e)
      (arguments : Plain .arguments args) : Plain .expression (e ++ opening :: args ++ [close])
  | group {opening close : Token} {e : List Token} (opening_kind : opening.kind = .lparen)
      (close_kind : close.kind = .rparen) (inner : Plain .expression e) :
      Plain .expression (opening :: e ++ [close])
  | ifThen {t opening close : Token} {e b : List Token} (kind : t.kind = .if_)
      (opening_kind : opening.kind = .lparen) (close_kind : close.kind = .rparen)
      (condition : Plain .expression e) (consequence : Plain .block b) :
      Plain .expression (t :: opening :: e ++ close :: b)
  | ifThenElse {t opening close otherwise : Token} {e b a : List Token} (kind : t.kind = .if_)
      (opening_kind : opening.kind = .lparen) (close_kind : close.kind = .rparen)
      (otherwise_kind : otherwise.kind = .else_) (condition : Plain .expression e)
      (consequence : Plain .block b) (alternative : Plain .block a) :
      Plain .expression (t :: opening :: e ++ close :: b ++ otherwise :: a)
  | function {t opening close : Token} {names b : List Token} (kind : t.kind = .function)
      (opening_kind : opening.kind = .lparen) (close_kind : close.kind = .rparen)
      (parameters : names = [] ∨ PlainNames names) (body : Plain .block b) :
      Plain .expression (t :: opening :: names ++ close :: b)
  | oneArgument {e : List Token} (argument : Plain .expression e) : Plain .arguments e
  | moreArguments {comma : Token} {e args : List Token} (kind : comma.kind = .comma)
      (argument : Plain .expression e) (arguments : Plain .arguments args) :
      Plain .arguments (e ++ comma :: args)
  | block {opening close : Token} {ss : List Token} (opening_kind : opening.kind = .lbrace)
      (close_kind : close.kind = .rbrace) (body : Plain .statements ss) :
      Plain .block (opening :: ss ++ [close])
  | noStatements : Plain .statements []
  | moreStatements {s ss : List Token} (statement : Plain .statement s)
      (statements : Plain .statements ss) : Plain .statements (s ++ ss)
  | let_ {t name assign : Token} {e ends : List Token} (kind : t.kind = .let_)
      (name_kind : name.kind = .ident) (assign_kind : assign.kind = .assign)
      (value : Plain .expression e) (optional : OptionalSemicolon ends) :
      Plain .statement (t :: name :: assign :: e ++ ends)
  | return_ {t : Token} {e ends : List Token} (kind : t.kind = .return_)
      (value : Plain .expression e) (optional : OptionalSemicolon ends) :
      Plain .statement (t :: e ++ ends)
  | expr {e ends : List Token} (value : Plain .expression e) (optional : OptionalSemicolon ends) :
      Plain .statement (e ++ ends)

/-! ## First tokens -/

/-- The tokens can begin the phrase. Statements may be none. -/
def PlainPhrase.Begins : PlainPhrase → List Token → Prop
  | expression, ts | arguments, ts => (first ts).kind.start?.isSome
  | block, ts => (first ts).kind = .lbrace
  | statements, ts => ts = [] ∨ Phrase.statement.Begins (first ts).kind
  | statement, ts => Phrase.statement.Begins (first ts).kind

theorem Phrase.ne_eof_of_begins_statement {k : Kind} (h : statement.Begins k) : k ≠ .eof := by
  rintro rfl
  simp [Begins, Kind.start?] at h

namespace Plain

/-- A phrase begins with a token that can begin it. -/
theorem begins {phrase : PlainPhrase} {ts : List Token} (h : Plain phrase ts) :
    phrase.Begins ts := by
  induction h with
  | name kind | integer kind | true_ kind | false_ kind | group kind | ifThen kind
  | ifThenElse kind | function kind => simp [PlainPhrase.Begins, kind, Kind.start?]
  | @unary op _ _ kind => cases op <;> simp [PlainPhrase.Begins, kind, UnaryOp.kind, Kind.start?]
  | binary _ _ _ ih | emptyCall _ _ _ ih | moreArguments _ _ _ ih =>
    rwa [PlainPhrase.Begins, first_append (Kind.ne_of_start ih rfl)]
  | call _ _ _ _ ih =>
    rwa [PlainPhrase.Begins, List.append_assoc, first_append (Kind.ne_of_start ih rfl)]
  | oneArgument _ ih => exact ih
  | block kind => exact kind
  | noStatements => exact .inl rfl
  | moreStatements _ _ ih =>
    refine .inr ?_
    rwa [first_append (Phrase.ne_eof_of_begins_statement ih)]
  | let_ kind => exact .inl kind
  | return_ kind => exact .inr (.inl kind)
  | expr _ _ ih =>
    refine .inr (.inr ?_)
    rwa [first_append (Kind.ne_of_start ih rfl)]

end Plain

/-! ## Braces -/

theorem PlainNames.countKind_eq_zero {k : Kind} (ident : k ≠ .ident) (comma : k ≠ .comma)
    {ts : List Token} (h : PlainNames ts) : countKind k ts = 0 := by
  induction h with
  | one name => simp [name, ident.symm]
  | more name comma_kind _ ih => simp [name, comma_kind, ih, ident.symm, comma.symm]

/-- Braces are opened and closed in pairs. -/
theorem Plain.braces {phrase : PlainPhrase} {ts : List Token} (h : Plain phrase ts) :
    countKind .lbrace ts = countKind .rbrace ts := by
  induction h with
  | name kind | integer kind | true_ kind | false_ kind => simp [kind]
  | @unary op _ _ kind _ ih => cases op <;> simp [kind, UnaryOp.kind, ih]
  | @binary op _ _ _ kind _ _ ih ih' => cases op <;> simp [kind, BinaryOp.kind, ih, ih']
  | emptyCall h h' _ ih | group h h' _ ih => simp [h, h', ih]
  | call h h' _ _ ih ih' => simp [h, h', ih, ih']
  | ifThen h h' h'' _ _ ih ih' => simp [h, h', h'', ih, ih']
  | ifThenElse h h' h'' h''' _ _ _ ih ih' ih'' => simp [h, h', h'', h''', ih, ih', ih'']
  | function h h' h'' parameters _ ih =>
    obtain rfl | names := parameters
    · simp [h, h', h'', ih]
    · simp [h, h', h'', ih, names.countKind_eq_zero]
  | oneArgument _ ih => exact ih
  | moreArguments h _ _ ih ih' => simp [h, ih, ih']
  | block h h' _ ih => simp [h, h', ih]; omega
  | noStatements => rfl
  | moreStatements _ _ ih ih' => simp [ih, ih']
  | let_ h h' h'' _ optional ih =>
    obtain rfl | ⟨t, kind, rfl⟩ := optional
    · simp [h, h', h'', ih]
    · simp [h, h', h'', ih, kind]
  | return_ h _ optional ih =>
    obtain rfl | ⟨t, kind, rfl⟩ := optional
    · simp [h, ih]
    · simp [h, ih, kind]
  | expr _ optional ih =>
    obtain rfl | ⟨t, kind, rfl⟩ := optional
    · simp [ih]
    · simp [ih, kind]

/-- Closing braces. -/
def closingBraces (k : Nat) : List Token := List.replicate k (.symbol '}')

theorem closingBraces_succ (k : Nat) : closingBraces (k + 1) = .symbol '}' :: closingBraces k := rfl

theorem closingBraces_succ' (k : Nat) :
    closingBraces (k + 1) = closingBraces k ++ [.symbol '}'] := List.replicate_succ'

theorem countKind_closingBraces (k : Nat) :
    countKind .lbrace (closingBraces k) = 0 ∧ countKind .rbrace (closingBraces k) = k := by
  induction k with
  | zero => exact ⟨rfl, rfl⟩
  | succ k ih =>
    have kind : (Token.symbol '}').kind = .rbrace := rfl
    rw [closingBraces_succ, countKind_cons, countKind_cons, ih.1, ih.2, kind]
    exact ⟨rfl, Nat.add_comm 1 k⟩

/-- It is clear how many braces have to be appended. -/
theorem Plain.closingBraces_unique {phrase phrase' : PlainPhrase} {ts : List Token} {k k' : Nat}
    (h : Plain phrase (ts ++ closingBraces k)) (h' : Plain phrase' (ts ++ closingBraces k')) :
    k = k' := by
  have braces := h.braces
  have braces' := h'.braces
  simp only [countKind_append, countKind_closingBraces] at braces braces'
  omega

theorem scan_closingBraces (k : Nat) : scan (List.replicate k '}') = closingBraces k := by
  induction k with
  | zero => exact scan_nil
  | succ k ih =>
    have pair : ¬BeginsPair '}' (List.replicate k '}') :=
      not_beginsPair_of_ne (by decide) (by decide) _
    rw [List.replicate_succ, scan_symbol rfl rfl rfl pair, ih, closingBraces_succ]

/-- The source with braces after it. -/
def appendBraces (source : String) (k : Nat) : String :=
  source ++ String.ofList (List.replicate k '}')

/-- Braces after a text are scanned after it. -/
theorem tokens_appendBraces (source : String) (k : Nat) :
    tokens (appendBraces source k) = tokens source ++ closingBraces k := by
  have separates : Separates (List.replicate k '}') := by
    intro c hc
    obtain rfl := List.eq_of_mem_replicate (List.mem_of_mem_head? hc)
    decide
  rw [tokens_eq_scan, appendBraces, String.toList_append, String.toList_ofList,
    scan_append separates, scan_closingBraces, tokens_eq_scan]

end LetFn
