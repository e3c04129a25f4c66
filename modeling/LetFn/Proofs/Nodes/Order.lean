import LetFn.Proofs.Grammar.Complete

/-!
# The nodes of a tree in reading order

`Program.nodes` lists the nodes of a tree as one reads it from left to right: an operator between
its operands, a call after its callee, any other node before what stands below it. `storedTokens`
are the tokens that these nodes keep. An expression statement is read as its expression, so it adds
none.

Of a source with errors parts are left out, but what is kept is in the order of the source and
nothing is kept twice (`Reads.stored_sublist`). Of a source without errors everything is kept but
the tokens that only hold a construct together (`Derives.without_stored`). `stored_tokens_parse`
puts both together.
-/

namespace LetFn

/-- A node of a tree by itself. -/
inductive Node where
  | let_ (token : Token)
  | return_ (token : Token)
  /-- An expression statement and its expression. -/
  | expr (token : Token) (value : Expr)
  | ident (ident : Ident)
  | int (token : Token) (value : Int)
  | bool (token : Token) (value : Bool)
  | unary (token : Token) (op : UnaryOp)
  | binary (token : Token) (op : BinaryOp)
  | conditional (token : Token)
  | function (token : Token)
  | call (token : Token)
  | block (token : Token)

mutual

/-- The nodes of an expression in reading order. -/
def Expr.nodes : Expr → List Node
  | .hole => []
  | .ident ident => [.ident ident]
  | .int token value => [.int token value]
  | .bool token value => [.bool token value]
  | .unary token op operand => .unary token op :: operand.nodes
  | .binary token op left right => left.nodes ++ .binary token op :: right.nodes
  | .ifThen token condition consequence =>
    .conditional token :: (condition.nodes ++ consequence.nodes)
  | .ifThenElse token condition consequence alternative =>
    .conditional token :: (condition.nodes ++ (consequence.nodes ++ alternative.nodes))
  | .function token parameters body =>
    .function token :: (parameters.map Node.ident ++ body.nodes)
  | .call token callee arguments => callee.nodes ++ .call token :: Expr.nodesAll arguments

/-- The nodes of expressions in reading order. -/
def Expr.nodesAll : List Expr → List Node
  | [] => []
  | e :: es => e.nodes ++ Expr.nodesAll es

/-- The nodes of a statement in reading order. -/
def Stmt.nodes : Stmt → List Node
  | .let_ token name value => .let_ token :: .ident name :: value.nodes
  | .return_ token value => .return_ token :: value.nodes
  | .expr token value => .expr token value :: value.nodes

/-- The nodes of statements in reading order. -/
def Stmt.nodesAll : List Stmt → List Node
  | [] => []
  | s :: ss => s.nodes ++ Stmt.nodesAll ss

/-- The nodes of a block in reading order. -/
def Block.nodes : Block → List Node
  | ⟨token, statements⟩ => .block token :: Stmt.nodesAll statements

end

/-- The nodes of a program in reading order. -/
def Program.nodes (p : Program) : List Node := Stmt.nodesAll p.statements

theorem Stmt.nodesAll_append (ss ts : List Stmt) :
    nodesAll (ss ++ ts) = nodesAll ss ++ nodesAll ts := by
  induction ss with
  | nil => rfl
  | cons s ss ih => rw [List.cons_append, nodesAll, nodesAll, ih, List.append_assoc]

/-- The token at which reading comes to a node. An expression statement is read as its
expression. -/
@[simp]
def Node.token? : Node → Option Token
  | .expr _ _ => none
  | .ident i => some i.token
  | .let_ token | .return_ token | .int token _ | .bool token _ | .unary token _ | .binary token _
  | .conditional token | .function token | .call token | .block token => some token

/-- The tokens that the nodes keep, in reading order. -/
def storedTokens (nodes : List Node) : List Token := nodes.filterMap Node.token?

@[simp] theorem storedTokens_nil : storedTokens [] = [] := rfl

@[simp] theorem storedTokens_cons (n : Node) (ns : List Node) :
    storedTokens (n :: ns) = n.token?.toList ++ storedTokens ns := by
  rw [storedTokens, List.filterMap_cons]
  cases n.token? <;> rfl

@[simp] theorem storedTokens_append (ns ms : List Node) :
    storedTokens (ns ++ ms) = storedTokens ns ++ storedTokens ms := List.filterMap_append

@[simp] theorem storedTokens_idents (names : List Ident) :
    storedTokens (names.map Node.ident) = names.map Ident.token := by
  induction names with
  | nil => rfl
  | cons i names ih => simp [ih]

/-! ## Readings -/

namespace Task

/-- The nodes of what a task reads. -/
@[simp]
def nodes : (task : Task) → task.Result → List Node
  | expression _, e | operand _, e | climb _ _, e | continued _ _, e => Expr.nodes e
  | arguments, es => Expr.nodesAll es
  | names, found | parameters, found => (found.getD []).map Node.ident
  | block, b => Block.nodes b
  | statements _, ss => Stmt.nodesAll ss
  | statement, s => Stmt.nodesAll s.toList

/-- The tokens that the nodes read by a task, and what is read after it, can keep: those of the
expression that the task goes on with, and those that are left. -/
@[simp]
def keepable : Task → List Token → List Token
  | climb _ left, ts => storedTokens left.nodes ++ ts.tail
  | continued _ left, ts => storedTokens left.nodes ++ ts
  | names, ts | parameters, ts => ts.tail
  | expression _, ts | operand _, ts | arguments, ts | block, ts | statements _, ts
  | statement, ts => ts

end Task

section Pieces

variable {ts mid rest kept kept' : List Token}

/-- What is kept of two pieces, one after the other. -/
theorem append_sublist (h : (kept ++ mid).Sublist ts) (h' : (kept' ++ rest).Sublist mid) :
    (kept ++ kept' ++ rest).Sublist ts := by
  rw [List.append_assoc]
  exact (h'.append_left kept).trans h

theorem first_cons_sublist (some : (first ts).kind ≠ .eof) (h : kept.Sublist ts.tail) :
    (first ts :: kept).Sublist ts := by
  rw [eq_first_cons some]
  exact h.cons_cons _

theorem tail_afterSemicolon_sublist (ts : List Token) :
    (afterSemicolon ts).tail.Sublist ts.tail := by
  unfold afterSemicolon
  split
  · exact List.tail_sublist _
  · exact List.Sublist.refl _

end Pieces

namespace Reads

variable {task : Task} {ts rest : List Token} {v : task.Result} {events : List Event}

/-- What is left is some of what there was. -/
theorem tail_sublist (h : Reads task ts v rest events) : rest.tail.Sublist ts := by
  rw [h.rest_eq_drop]
  exact (List.tail_sublist _).trans (List.drop_sublist _ _)

/-- The tokens kept by what is read, and after them those that are left, are in the order of the
tokens that were there. -/
theorem stored_sublist (h : Reads task ts v rest events) : task.Due ts →
    (storedTokens (task.nodes v) ++ rest.tail).Sublist (task.keepable ts) := by
  induction h with
  | expression_none => exact fun _ => List.tail_sublist _
  | expression_some start_eq _ _ ih ih' => exact fun _ => (ih' trivial).trans (ih start_eq)
  | operand_name | operand_integer | operand_boolean =>
    exact fun due => first_cons_sublist (Kind.ne_eof_of_start due) (.refl _)
  | operand_badInteger value_eq => exact fun _ => (operand_badInteger value_eq).tail_sublist
  | operand_unary _ ih =>
    exact fun due => first_cons_sublist (Kind.ne_eof_of_start due) (ih trivial)
  | operand_group _ _ ih =>
    intro _
    have inner := (ih trivial).trans (List.tail_sublist _)
    exact ((List.tail_sublist _).append_left _).trans inner
  | operand_openGroup inner close => exact fun _ => (operand_openGroup inner close).tail_sublist
  | conditional_noCondition opening =>
    exact fun _ => (conditional_noCondition opening).tail_sublist
  | conditional_openCondition opening condition close =>
    exact fun _ => (conditional_openCondition opening condition close).tail_sublist
  | conditional_noConsequence opening condition close brace =>
    exact fun _ => (conditional_noConsequence opening condition close brace).tail_sublist
  | conditional_ifThen _ _ _ brace _ _ ih ih' =>
    intro due
    have consequence := (ih' brace).trans (List.tail_sublist _)
    have pieces := (append_sublist (ih trivial) consequence).trans (List.tail_sublist _)
    simpa [Expr.nodes] using first_cons_sublist (Kind.ne_eof_of_start due) pieces
  | conditional_noAlternative opening condition close brace consequence otherwise brace' =>
    exact fun _ => (conditional_noAlternative opening condition close brace consequence otherwise
      brace').tail_sublist
  | conditional_ifThenElse _ _ _ brace _ _ brace' _ ih ih' ih'' =>
    intro due
    have alternative := (ih'' brace').trans (List.tail_sublist _)
    have consequence := (append_sublist (ih' brace) alternative).trans (List.tail_sublist _)
    have pieces := (append_sublist (ih trivial) consequence).trans (List.tail_sublist _)
    simpa [Expr.nodes] using first_cons_sublist (Kind.ne_eof_of_start due) pieces
  | function_noParameters opening => exact fun _ => (function_noParameters opening).tail_sublist
  | function_badParameters opening parameters =>
    exact fun _ => (function_badParameters opening parameters).tail_sublist
  | function_noBody opening parameters brace =>
    exact fun _ => (function_noBody opening parameters brace).tail_sublist
  | function_some _ _ brace _ ih ih' =>
    intro due
    have pieces := (append_sublist (ih trivial) (ih' brace)).trans (List.tail_sublist _)
    simpa [Expr.nodes] using first_cons_sublist (Kind.ne_eof_of_start due) pieces
  | names_noName => exact fun _ => .refl _
  | @names_more _ _ more _ name _ _ ih =>
    intro _
    have names := (ih trivial).trans (List.tail_sublist _)
    cases more with
    | none => exact names.trans (List.tail_sublist _)
    | some is => exact first_cons_sublist (ne_eof_of_eq name rfl) names
  | names_last name close =>
    exact fun _ => first_cons_sublist (ne_eof_of_eq name rfl) (List.tail_sublist _)
  | names_open => exact fun _ => List.tail_sublist _
  | parameters_none => exact fun _ => List.tail_sublist _
  | parameters_some _ _ ih => exact ih
  | climb_stop => exact fun _ => .refl _
  | climb_go next_eq _ _ _ ih ih' => exact fun _ => (ih' trivial).trans (ih next_eq)
  | continued_binary _ ih =>
    intro due
    have right := first_cons_sublist (Kind.ne_eof_of_continuation due) (ih trivial)
    simpa [Expr.nodes] using right
  | continued_emptyCall =>
    intro due
    have opening := first_cons_sublist (Kind.ne_eof_of_continuation due) (List.tail_sublist _)
    simpa [Expr.nodes, Expr.nodesAll] using opening
  | continued_call _ _ _ ih =>
    intro due
    have arguments := ((List.tail_sublist _).append_left _).trans (ih trivial)
    have opening := first_cons_sublist (Kind.ne_eof_of_continuation due) arguments
    simpa [Expr.nodes] using opening
  | continued_openCall _ arguments _ =>
    intro _
    have left := arguments.tail_sublist.trans (List.tail_sublist _)
    exact left.trans (List.sublist_append_right _ _)
  | arguments_last _ _ ih =>
    intro _
    simpa [Expr.nodesAll] using ih trivial
  | arguments_more _ _ _ ih ih' =>
    intro _
    have arguments := (ih' trivial).trans (List.tail_sublist _)
    simpa [Expr.nodesAll] using append_sublist (ih trivial) arguments
  | block_some _ ih => exact fun due => first_cons_sublist (ne_eof_of_eq due rfl) (ih trivial)
  | statements_done => exact fun _ => List.tail_sublist _
  | statements_more more _ _ ih ih' =>
    intro _
    have pieces := append_sublist (ih (ne_eof_of_endsAt more)) (ih' trivial)
    simpa [Stmt.nodesAll_append] using pieces
  | statement_noName kind name => exact fun _ => (statement_noName kind name).tail_sublist
  | statement_noAssign kind name assign =>
    exact fun _ => (statement_noAssign kind name assign).tail_sublist
  | statement_let kind name _ _ ih =>
    intro _
    have value := ((tail_afterSemicolon_sublist _).append_left _).trans (ih trivial)
    have pieces := first_cons_sublist (ne_eof_of_eq name rfl) (value.trans (List.tail_sublist _))
    simpa [Stmt.nodesAll, Stmt.nodes] using first_cons_sublist (ne_eof_of_eq kind rfl) pieces
  | statement_return kind _ ih =>
    intro _
    have value := ((tail_afterSemicolon_sublist _).append_left _).trans (ih trivial)
    simpa [Stmt.nodesAll, Stmt.nodes] using first_cons_sublist (ne_eof_of_eq kind rfl) value
  | statement_expr _ _ _ ih =>
    intro _
    have value := ((tail_afterSemicolon_sublist _).append_left _).trans (ih trivial)
    simpa [Stmt.nodesAll, Stmt.nodes] using value

end Reads

/-! ## Phrases -/

/-- The tokens whose kinds are none of these. -/
def without (kinds : List Kind) (ts : List Token) : List Token := ts.filter fun t => t.kind ∉ kinds

@[simp] theorem without_nil (kinds : List Kind) : without kinds [] = [] := rfl

@[simp] theorem without_append (kinds : List Kind) (ts us : List Token) :
    without kinds (ts ++ us) = without kinds ts ++ without kinds us := List.filter_append ts us

@[simp] theorem without_cons (kinds : List Kind) (t : Token) (ts : List Token) :
    without kinds (t :: ts) =
      if t.kind ∈ kinds then without kinds ts else t :: without kinds ts := by
  rw [without, List.filter_cons]
  by_cases h : t.kind ∈ kinds <;> simp [h, without]

/-- The kinds of the tokens that open a construct and are kept by its node. -/
def openings : List Kind := [.lparen, .lbrace]

/-- The kinds of the tokens that only hold a construct together. -/
def connectives : List Kind :=
  [.lparen, .rparen, .lbrace, .rbrace, .comma, .semicolon, .assign, .else_]

/-- The nodes of the tree of a phrase. -/
def Phrase.nodes : (phrase : Phrase) → phrase.Tree → List Node
  | level _, e | primary, e => Expr.nodes e
  | arguments, es => Expr.nodesAll es
  | block, b => Block.nodes b
  | statements, ss => Stmt.nodesAll ss
  | statement, s => Stmt.nodes s

theorem DerivesNames.without_stored {ts rest : List Token} {names : List Ident}
    (h : DerivesNames ts names rest) : without connectives ts =
      without openings (names.map Ident.token) ++ without connectives rest := by
  induction h with
  | one name => simp +decide [name]
  | more name comma_kind _ ih => simp +decide [name, comma_kind, ih]

theorem DerivesParameters.without_stored {ts rest : List Token} {names : List Ident}
    (h : DerivesParameters ts names rest) : without connectives ts =
      without openings (names.map Ident.token) ++ without connectives rest := by
  cases h with
  | empty opening_kind close_kind =>
    simp +decide [opening_kind, close_kind]
  | list opening_kind names close_kind =>
    simp +decide [opening_kind, close_kind, names.without_stored]

theorem EndsStatement.without_connectives {mid rest : List Token} (h : EndsStatement mid rest) :
    without connectives mid = without connectives rest := by
  cases h with
  | semicolon kind => simp +decide [kind]
  | omitted => rfl

variable {phrase : Phrase} {ts rest : List Token} {v : phrase.Tree}

/-- A phrase consists of the tokens that its tree keeps, up to those that only hold it together. -/
theorem Derives.without_stored (h : Derives phrase ts v rest) : without connectives ts =
    without openings (storedTokens (phrase.nodes v)) ++ without connectives rest := by
  induction h with
  | tighter _ ih | primary _ ih => exact ih
  | @binary _ op _ _ _ _ _ _ _ kind _ _ ih ih' =>
    have own : op.kind ∉ connectives ∧ op.kind ∉ openings := by cases op <;> decide
    simp [Phrase.nodes, Expr.nodes, ih, ih', kind, own]
  | @unary op _ _ _ _ kind _ ih =>
    have own : op.kind ∉ connectives ∧ op.kind ∉ openings := by cases op <;> decide
    simp [Phrase.nodes, Expr.nodes, ih, kind, own]
  | emptyCall _ opening_kind close_kind ih =>
    simp +decide [Phrase.nodes, Expr.nodes, Expr.nodesAll, ih, opening_kind,
      close_kind]
  | call _ opening_kind _ close_kind ih ih' =>
    simp +decide [Phrase.nodes, Expr.nodes, ih, ih', opening_kind,
      close_kind]
  | oneArgument _ ih => simp [Phrase.nodes, Expr.nodesAll, ih]
  | moreArguments _ kind _ ih ih' =>
    simp +decide [Phrase.nodes, Expr.nodesAll, ih, ih', kind]
  | name kind | integer kind | true_ kind | false_ kind =>
    simp +decide [Phrase.nodes, Expr.nodes, kind]
  | group opening_kind _ close_kind ih =>
    simp +decide [Phrase.nodes, ih, opening_kind, close_kind]
  | ifThen kind opening_kind _ close_kind _ ih ih' =>
    simp +decide [Phrase.nodes, Expr.nodes, ih, ih', kind, opening_kind,
      close_kind]
  | ifThenElse kind opening_kind _ close_kind _ otherwise_kind _ ih ih' ih'' =>
    simp +decide [Phrase.nodes, Expr.nodes, ih, ih', ih'', kind,
      opening_kind, close_kind, otherwise_kind]
  | function kind parameters _ ih =>
    simp +decide [Phrase.nodes, Expr.nodes, parameters.without_stored, ih, kind]
  | closedBlock opening_kind _ close_kind ih =>
    simp +decide [Phrase.nodes, Block.nodes, ih, opening_kind,
      close_kind]
  | openBlock opening_kind _ ih =>
    simp +decide [Phrase.nodes, Block.nodes, ih, opening_kind]
  | noStatements => simp [Phrase.nodes, Stmt.nodesAll]
  | moreStatements _ _ ih ih' => simp [Phrase.nodes, Stmt.nodesAll, ih, ih']
  | let_ kind name_kind assign_kind _ ends ih =>
    simp +decide [Phrase.nodes, Stmt.nodes, ih, ends.without_connectives, kind,
      name_kind, assign_kind]
  | return_ kind _ ends ih =>
    simp +decide [Phrase.nodes, Stmt.nodes, ih, ends.without_connectives, kind]
  | expr _ ends ih => simp [Phrase.nodes, Stmt.nodes, ih, ends.without_connectives]

/-! ## Sources -/

/-- The tokens that the tree of a source keeps are in the order of the source. -/
theorem storedTokens_sublist (source : String) :
    (storedTokens (parse source).value.nodes).Sublist (tokens source) := by
  obtain ⟨rest, events, run⟩ := exists_reads_parseTokens (tokens source)
  exact (List.sublist_append_left _ _).trans (run.stored_sublist trivial)

/-- The tokens that the tree of a source keeps are in the order of the source, none of them twice.
Without errors the tree keeps all tokens but those that only hold a construct together. -/
theorem stored_tokens_parse (source : String) :
    (storedTokens (parse source).value.nodes).Sublist (tokens source) ∧
      ((parse source).errors = [] →
        without openings (storedTokens (parse source).value.nodes) =
          without connectives (tokens source)) := by
  refine ⟨storedTokens_sublist source, fun clean => ?_⟩
  have kept := Derives.without_stored (derivesProgram_parse clean)
  rw [without_nil, List.append_nil] at kept
  exact kept.symm

end LetFn
