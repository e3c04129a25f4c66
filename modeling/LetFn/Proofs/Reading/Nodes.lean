import LetFn.Proofs.Grammar.Sound
import LetFn.Proofs.Printing.Basic
import LetFn.Proofs.Scanning.Spelling

/-!
# The tokens that nodes keep

Every node of a tree that was read keeps the token that its construct was read from, so the token
says what the node says: a name is spelled by the name, an integer by a numeral of its value, an
operator by its symbol, and a construct with a keyword or a mark by this one (`Expr.Agrees`).
An expression statement keeps the token at which it begins, which begins an expression unless there
is none.

This holds of every source, with errors or without (`agrees_parse`): a node is built only after its
token was looked at.
-/

namespace LetFn

/-- The name is what its token spells. -/
def Ident.Agrees (i : Ident) : Prop := i.token = .word i.name ∧ IsName i.name

/-- The token can stand at the beginning of the expression statement. -/
structure Token.BeginsStatement (t : Token) (value : Expr) : Prop where
  ne_let : t.kind ≠ .let_
  ne_return : t.kind ≠ .return_
  ne_eof : t.kind ≠ .eof
  start : value ≠ .hole → t.kind.start?.isSome

mutual

/-- The nodes of the expression agree with the tokens they keep. -/
def Expr.Agrees : Expr → Prop
  | .hole => True
  | .ident ident => ident.Agrees
  | .int token value => token = .number token.literal ∧ IsNumeral token.literal value
  | .bool token value => token = .word (if value then "true" else "false")
  | .unary token op operand => token = op.token ∧ operand.Agrees
  | .binary token op left right => token = op.token ∧ left.Agrees ∧ right.Agrees
  | .ifThen token condition consequence =>
    token = .word "if" ∧ condition.Agrees ∧ consequence.Agrees
  | .ifThenElse token condition consequence alternative =>
    token = .word "if" ∧ condition.Agrees ∧ consequence.Agrees ∧ alternative.Agrees
  | .function token parameters body =>
    token = .word "fn" ∧ (∀ i ∈ parameters, i.Agrees) ∧ body.Agrees
  | .call token callee arguments =>
    token = .symbol '(' ∧ callee.Agrees ∧ Expr.AllAgree arguments

/-- The same for all of the expressions. -/
def Expr.AllAgree : List Expr → Prop
  | [] => True
  | e :: es => e.Agrees ∧ Expr.AllAgree es

/-- The same for a statement. -/
def Stmt.Agrees : Stmt → Prop
  | .let_ token name value => token = .word "let" ∧ name.Agrees ∧ value.Agrees
  | .return_ token value => token = .word "return" ∧ value.Agrees
  | .expr token value => token.BeginsStatement value ∧ value.Agrees

/-- The same for all of the statements. -/
def Stmt.AllAgree : List Stmt → Prop
  | [] => True
  | s :: ss => s.Agrees ∧ Stmt.AllAgree ss

/-- The same for a block. -/
def Block.Agrees : Block → Prop
  | ⟨token, statements⟩ => token = .symbol '{' ∧ Stmt.AllAgree statements

end

/-- The same for a program. -/
def Program.Agrees (p : Program) : Prop := Stmt.AllAgree p.statements

theorem Stmt.allAgree_append {ss ts : List Stmt} :
    AllAgree (ss ++ ts) ↔ AllAgree ss ∧ AllAgree ts := by
  induction ss with
  | nil => simp [AllAgree]
  | cons s ss ih => rw [List.cons_append, AllAgree, AllAgree, ih, and_assoc]

/-! ## The tokens of a source -/

/-- All of the tokens are ones that a text can have. -/
def Spelt (ts : List Token) : Prop := ∀ t ∈ ts, t.Spelled

namespace Spelt

variable {ts : List Token}

theorem tail (h : Spelt ts) : Spelt ts.tail := fun t ht => h t (List.mem_of_mem_tail ht)

theorem of_reads {task : Task} {rest : List Token} {v : task.Result} {events : List Event}
    (h : Spelt ts) (run : Reads task ts v rest events) : Spelt rest := by
  rw [run.rest_eq_drop]
  exact fun t ht => h t (List.mem_of_mem_drop ht)

theorem first (h : Spelt ts) (ne_eof : (first ts).kind ≠ .eof) : (LetFn.first ts).Spelled := by
  refine h _ ?_
  rw [eq_first_cons ne_eof]
  exact List.mem_cons_self

/-- The kind of the first token says which token it is. -/
theorem first_eq (h : Spelt ts) {k : Kind} {s : String} (kind : (LetFn.first ts).kind = k)
    (spelling : k.spelling? = some s := by rfl) : LetFn.first ts = ⟨k, s⟩ := by
  refine (h.first ?_).eq_of_kind kind spelling
  rintro heof
  rw [← kind, heof] at spelling
  cases spelling

end Spelt

theorem spelt_tokens (source : String) : Spelt (tokens source) := by
  intro t ht
  rw [tokens_eq_scan] at ht
  exact spelled_of_mem_scan ht

/-- A token of the kind of names is a word that is no keyword. -/
theorem Token.Spelled.agrees {t : Token} (h : t.Spelled) (kind : t.kind = .ident) :
    Ident.Agrees ⟨t, t.literal⟩ := by
  cases h with
  | word nonempty letters => exact ⟨rfl, nonempty, letters, kind⟩
  | number => cases kind
  | @symbol c => exact absurd kind (Kind.ofChar_ne c)
  | pair first => obtain rfl | rfl := first <;> cases kind

/-- A token of the kind of integers is a run of digits. -/
theorem Token.Spelled.agrees_int {t : Token} (h : t.Spelled) (kind : t.kind = .int) {value : Int}
    (value_eq : Numeral.value? t.literal = some value) : (Expr.int t value).Agrees := by
  cases h with
  | @word w => exact absurd kind (Kind.ofWord_ne w)
  | number nonempty digits => exact ⟨rfl, nonempty, digits, value_eq⟩
  | @symbol c => exact absurd kind (Kind.ofChar_ne c)
  | pair first => obtain rfl | rfl := first <;> cases kind

/-! ## Readings -/

namespace Task

/-- The nodes of the result agree with the tokens they keep, if those do that the task goes on
with. -/
def Agrees : (task : Task) → task.Result → Prop
  | expression _, e | operand _, e => Expr.Agrees e
  | climb _ left, e | continued _ left, e => left.Agrees → Expr.Agrees e
  | arguments, es => Expr.AllAgree es
  | names, found | parameters, found => ∀ is ∈ found, ∀ i ∈ is, Ident.Agrees i
  | block, b => Block.Agrees b
  | statements _, ss => Stmt.AllAgree ss
  | statement, s => Stmt.AllAgree s.toList

end Task

namespace Reads

variable {task : Task} {ts rest : List Token} {v : task.Result} {events : List Event}

/-- An expression is read only at a token that begins one. -/
theorem start_of_ne_hole {floor : Precedence} {e : Expr}
    (h : Reads (.expression floor) ts e rest events) (ne_hole : e ≠ .hole) :
    (first ts).kind.start?.isSome := by
  cases h with
  | expression_none => exact absurd rfl ne_hole
  | expression_some start_eq => rw [start_eq]; rfl

/-- The nodes that are read agree with the tokens they keep. -/
theorem agrees (h : Reads task ts v rest events) : Spelt ts → task.Due ts → task.Agrees v := by
  induction h with
  | expression_none | operand_badInteger | operand_openGroup | conditional_noCondition
  | conditional_openCondition | conditional_noConsequence | conditional_noAlternative
  | function_noParameters | function_badParameters | function_noBody =>
    exact fun _ _ => trivial
  | continued_openCall => exact fun _ _ _ => trivial
  | expression_some start_eq operand _ ih ih' =>
    intro spelt _
    exact ih' (spelt.of_reads operand) trivial (ih spelt start_eq)
  | operand_name =>
    intro spelt due
    have kind := Kind.start?_eq_name.mp due
    exact (spelt.first (ne_eof_of_eq kind rfl)).agrees kind
  | operand_integer value_eq =>
    intro spelt due
    have kind := Kind.start?_eq_integer.mp due
    exact (spelt.first (ne_eof_of_eq kind rfl)).agrees_int kind value_eq
  | @operand_boolean ts =>
    intro spelt due
    obtain kind | kind := Kind.start?_eq_boolean.mp due
    · have token := spelt.first_eq kind
      simp only [Task.Agrees, Expr.Agrees, kind, decide_true]
      exact token
    · have token := spelt.first_eq kind
      simp only [Task.Agrees, Expr.Agrees, kind]
      exact token
  | @operand_unary op _ _ _ _ _ ih =>
    intro spelt due
    have kind := Kind.start?_eq_unary.mp due
    refine ⟨?_, ih spelt.tail trivial⟩
    cases op <;> exact spelt.first_eq kind
  | operand_group _ _ ih => exact fun spelt _ => ih spelt.tail trivial
  | conditional_ifThen _ condition _ brace _ _ ih ih' =>
    intro spelt due
    have token := spelt.first_eq (Kind.start?_eq_conditional.mp due)
    exact ⟨token, ih spelt.tail.tail trivial,
      ih' (spelt.tail.tail.of_reads condition).tail.tail brace⟩
  | conditional_ifThenElse _ condition _ brace consequence _ brace' _ ih ih' ih'' =>
    intro spelt due
    have token := spelt.first_eq (Kind.start?_eq_conditional.mp due)
    have after := (spelt.tail.tail.of_reads condition).tail.tail
    exact ⟨token, ih spelt.tail.tail trivial, ih' after brace,
      ih'' (after.of_reads consequence).tail.tail brace'⟩
  | function_some _ parameters brace _ ih ih' =>
    intro spelt due
    have token := spelt.first_eq (Kind.start?_eq_function.mp due)
    exact ⟨token, ih spelt.tail trivial _ rfl, ih' (spelt.tail.of_reads parameters).tail brace⟩
  | names_noName | names_open =>
    intro _ _ is his
    cases his
  | names_more name _ _ ih =>
    intro spelt _ is his
    obtain ⟨js, hjs, rfl⟩ := Option.map_eq_some_iff.mp his
    have agrees := (spelt.tail.first (ne_eof_of_eq name rfl)).agrees name
    exact List.forall_mem_cons.mpr ⟨agrees, ih spelt.tail.tail trivial js hjs⟩
  | names_last name _ =>
    intro spelt _ is his
    obtain rfl := Option.some.inj his
    exact List.forall_mem_singleton.mpr ((spelt.tail.first (ne_eof_of_eq name rfl)).agrees name)
  | parameters_none =>
    intro _ _ is his
    obtain rfl := Option.some.inj his
    exact List.forall_mem_nil _
  | parameters_some _ _ ih => exact fun spelt _ => ih spelt trivial
  | climb_stop => exact fun _ _ left => left
  | climb_go next_eq _ continued _ ih ih' =>
    intro spelt _ left
    exact ih' (spelt.tail.of_reads continued) trivial (ih spelt.tail next_eq left)
  | @continued_binary op _ _ _ _ _ _ ih =>
    intro spelt due left
    have kind := Kind.continuation?_eq_binary.mp due
    refine ⟨?_, left, ih spelt.tail trivial⟩
    cases op <;> exact spelt.first_eq kind
  | continued_emptyCall =>
    intro spelt due left
    exact ⟨spelt.first_eq (Kind.continuation?_eq_call.mp due), left, trivial⟩
  | continued_call _ _ _ ih =>
    intro spelt due left
    exact ⟨spelt.first_eq (Kind.continuation?_eq_call.mp due), left, ih spelt.tail trivial⟩
  | arguments_last _ _ ih => exact fun spelt _ => ⟨ih spelt trivial, trivial⟩
  | arguments_more argument _ _ ih ih' =>
    intro spelt _
    exact ⟨ih spelt trivial, ih' (spelt.of_reads argument).tail.tail trivial⟩
  | block_some _ ih => exact fun spelt due => ⟨spelt.first_eq due, ih spelt.tail trivial⟩
  | statements_done => exact fun _ _ => trivial
  | statements_more more statement _ ih ih' =>
    intro spelt _
    refine Stmt.allAgree_append.mpr ⟨ih spelt (ne_eof_of_endsAt more), ?_⟩
    exact ih' (spelt.of_reads statement).tail trivial
  | statement_noName | statement_noAssign => exact fun _ _ => trivial
  | statement_let kind name _ _ ih =>
    intro spelt _
    have agrees := (spelt.tail.first (ne_eof_of_eq name rfl)).agrees name
    exact ⟨⟨spelt.first_eq kind, agrees, ih spelt.tail.tail.tail trivial⟩, trivial⟩
  | statement_return kind _ ih =>
    exact fun spelt _ => ⟨⟨spelt.first_eq kind, ih spelt.tail trivial⟩, trivial⟩
  | statement_expr ne_let ne_return value ih =>
    exact fun spelt ne_eof =>
      ⟨⟨⟨ne_let, ne_return, ne_eof, value.start_of_ne_hole⟩, ih spelt trivial⟩, trivial⟩

end Reads

/-- The nodes of the tree of a source agree with the tokens they keep. -/
theorem agrees_parse (source : String) : (parse source).value.Agrees := by
  obtain ⟨rest, events, run⟩ := exists_reads_parseTokens (tokens source)
  exact run.agrees (spelt_tokens source) trivial

/-! ## Printable trees -/

mutual

/-- A tree whose nodes agree with their tokens can be read back from its text. -/
theorem Expr.printable_of_agrees : ∀ e : Expr, e.Agrees → e.Printable
  | .hole, _ | .bool _ _, _ => trivial
  | .ident _, agrees | .int _ _, agrees => agrees.2
  | .unary _ _ e, agrees => e.printable_of_agrees agrees.2
  | .binary _ _ l r, agrees =>
    ⟨l.printable_of_agrees agrees.2.1, r.printable_of_agrees agrees.2.2⟩
  | .ifThen _ c b, agrees =>
    ⟨c.printable_of_agrees agrees.2.1, b.printable_of_agrees agrees.2.2⟩
  | .ifThenElse _ c b a, agrees =>
    ⟨c.printable_of_agrees agrees.2.1, b.printable_of_agrees agrees.2.2.1,
      a.printable_of_agrees agrees.2.2.2⟩
  | .function _ _ b, agrees =>
    ⟨fun i hi => (agrees.2.1 i hi).2, b.printable_of_agrees agrees.2.2⟩
  | .call _ f as, agrees =>
    ⟨f.printable_of_agrees agrees.2.1, Expr.allPrintable_of_agree as agrees.2.2⟩

theorem Expr.allPrintable_of_agree : ∀ es : List Expr, Expr.AllAgree es → Expr.AllPrintable es
  | [], _ => trivial
  | e :: es, agree => ⟨e.printable_of_agrees agree.1, Expr.allPrintable_of_agree es agree.2⟩

theorem Stmt.printable_of_agrees : ∀ s : Stmt, s.Agrees → s.Printable
  | .let_ _ _ v, agrees => ⟨agrees.2.1.2, v.printable_of_agrees agrees.2.2⟩
  | .return_ _ v, agrees | .expr _ v, agrees => v.printable_of_agrees agrees.2

theorem Stmt.allPrintable_of_agree : ∀ ss : List Stmt, Stmt.AllAgree ss → Stmt.AllPrintable ss
  | [], _ => trivial
  | s :: ss, agree => ⟨s.printable_of_agrees agree.1, Stmt.allPrintable_of_agree ss agree.2⟩

theorem Block.printable_of_agrees : ∀ b : Block, b.Agrees → b.Printable
  | ⟨_, ss⟩, agrees => Stmt.allPrintable_of_agree ss agrees.2

end

/-- The tree of a source can be read back from its text, its holes apart. -/
theorem printable_parse (source : String) : (parse source).value.Printable :=
  Stmt.allPrintable_of_agree _ (agrees_parse source)

end LetFn
