import LetFn.Proofs.Nodes.Order
import LetFn.Proofs.Printing.RoundTrip
import LetFn.Proofs.Reading.Nodes

/-!
# Nodes agree with the tokens they keep

A node says something, a name, a value or an operator, and keeps the token that it was read from.
`Node.Agrees` ties the two: the token is of the kind from which such a node is read, and spelled as
the node says. This holds of every node of a tree that was read, whatever errors the source has,
since it holds of the tree (`Expr.nodes_agree`).

A tree is printed from what its nodes say. So the printed tokens are the ones that the nodes keep,
up to the tokens that are printed for no node (`Expr.without_printed`), and the printed text shows
what the source has. `nodes_agree_parse` puts this together.
-/

namespace LetFn

/-- The token that the node keeps is of a kind from which such a node is read, and spelled as the
node says. -/
def Node.Agrees : Node → Prop
  | .let_ token => token.kind = .let_
  | .return_ token => token.kind = .return_
  | .expr token value => token.BeginsStatement value
  | .ident i => i.token.kind = .ident ∧ i.token.literal = i.name ∧ IsName i.name
  | .int token value => token.kind = .int ∧ IsNumeral token.literal value
  | .bool token value => token.kind = if value then .true_ else .false_
  | .unary token op => token.kind.start? = some (.unary op) ∧ token.literal = op.symbol
  | .binary token op => token.kind.continuation? = some (.binary op) ∧ token.literal = op.symbol
  | .conditional token => token.kind = .if_
  | .function token => token.kind = .function
  | .call token => token.kind = .lparen
  | .block token => token.kind = .lbrace

theorem Ident.Agrees.kind {i : Ident} (agrees : i.Agrees) : i.token.kind = .ident := by
  rw [agrees.1]
  exact agrees.2.ident

namespace Node

theorem agrees_ident {i : Ident} (agrees : i.Agrees) : (ident i).Agrees :=
  ⟨agrees.kind, congrArg Token.literal agrees.1, agrees.2⟩

theorem agrees_int {token : Token} {value : Int} (agrees : (Expr.int token value).Agrees) :
    (int token value).Agrees :=
  ⟨congrArg Token.kind agrees.1, agrees.2⟩

theorem agrees_bool {token : Token} {value : Bool} (agrees : (Expr.bool token value).Agrees) :
    (bool token value).Agrees := by
  obtain rfl := agrees
  cases value <;> rfl

theorem agrees_unary {token : Token} {op : UnaryOp} (agrees : token = op.token) :
    (unary token op).Agrees := by
  obtain rfl := agrees
  cases op <;> exact ⟨rfl, rfl⟩

theorem agrees_binary {token : Token} {op : BinaryOp} (agrees : token = op.token) :
    (binary token op).Agrees := by
  obtain rfl := agrees
  cases op <;> exact ⟨rfl, rfl⟩

end Node

open List (forall_mem_cons forall_mem_append)

mutual

/-- The nodes of a tree that agrees with its tokens agree with theirs. -/
theorem Expr.nodes_agree : ∀ e : Expr, e.Agrees → ∀ n ∈ e.nodes, n.Agrees
  | .hole, _ => List.forall_mem_nil _
  | .ident _, agrees => List.forall_mem_singleton.mpr (Node.agrees_ident agrees)
  | .int _ _, agrees => List.forall_mem_singleton.mpr (Node.agrees_int agrees)
  | .bool _ _, agrees => List.forall_mem_singleton.mpr (Node.agrees_bool agrees)
  | .unary _ _ e, agrees =>
    forall_mem_cons.mpr ⟨Node.agrees_unary agrees.1, e.nodes_agree agrees.2⟩
  | .binary _ _ l r, agrees =>
    forall_mem_append.mpr ⟨l.nodes_agree agrees.2.1,
      forall_mem_cons.mpr ⟨Node.agrees_binary agrees.1, r.nodes_agree agrees.2.2⟩⟩
  | .ifThen _ c b, agrees =>
    forall_mem_cons.mpr ⟨congrArg Token.kind agrees.1,
      forall_mem_append.mpr ⟨c.nodes_agree agrees.2.1, b.nodes_agree agrees.2.2⟩⟩
  | .ifThenElse _ c b a, agrees =>
    forall_mem_cons.mpr ⟨congrArg Token.kind agrees.1,
      forall_mem_append.mpr ⟨c.nodes_agree agrees.2.1,
        forall_mem_append.mpr ⟨b.nodes_agree agrees.2.2.1, a.nodes_agree agrees.2.2.2⟩⟩⟩
  | .function _ _ b, agrees =>
    have names := fun i hi => Node.agrees_ident (agrees.2.1 i hi)
    forall_mem_cons.mpr ⟨congrArg Token.kind agrees.1,
      forall_mem_append.mpr ⟨List.forall_mem_map.mpr names, b.nodes_agree agrees.2.2⟩⟩
  | .call _ f as, agrees =>
    forall_mem_append.mpr ⟨f.nodes_agree agrees.2.1,
      forall_mem_cons.mpr ⟨congrArg Token.kind agrees.1, Expr.nodesAll_agree as agrees.2.2⟩⟩

theorem Expr.nodesAll_agree : ∀ es : List Expr, Expr.AllAgree es →
    ∀ n ∈ Expr.nodesAll es, n.Agrees
  | [], _ => List.forall_mem_nil _
  | e :: es, agree =>
    forall_mem_append.mpr ⟨e.nodes_agree agree.1, Expr.nodesAll_agree es agree.2⟩

theorem Stmt.nodes_agree : ∀ s : Stmt, s.Agrees → ∀ n ∈ s.nodes, n.Agrees
  | .let_ _ _ v, agrees =>
    forall_mem_cons.mpr ⟨congrArg Token.kind agrees.1,
      forall_mem_cons.mpr ⟨Node.agrees_ident agrees.2.1, v.nodes_agree agrees.2.2⟩⟩
  | .return_ _ v, agrees =>
    forall_mem_cons.mpr ⟨congrArg Token.kind agrees.1, v.nodes_agree agrees.2⟩
  | .expr _ v, agrees => forall_mem_cons.mpr ⟨agrees.1, v.nodes_agree agrees.2⟩

theorem Stmt.nodesAll_agree : ∀ ss : List Stmt, Stmt.AllAgree ss →
    ∀ n ∈ Stmt.nodesAll ss, n.Agrees
  | [], _ => List.forall_mem_nil _
  | s :: ss, agree =>
    forall_mem_append.mpr ⟨s.nodes_agree agree.1, Stmt.nodesAll_agree ss agree.2⟩

theorem Block.nodes_agree : ∀ b : Block, b.Agrees → ∀ n ∈ b.nodes, n.Agrees
  | ⟨_, ss⟩, agrees =>
    forall_mem_cons.mpr ⟨congrArg Token.kind agrees.1, Stmt.nodesAll_agree ss agrees.2⟩

end

/-! ## Printed trees -/

/-- The kinds of the tokens that are printed for no node: those that hold a construct together, and
the one that stands for a hole. -/
def fillers : List Kind := .illegal :: connectives

/-- Commas are fillers. -/
theorem without_separated (lists : List (List Token)) :
    without fillers (separated lists) = without fillers lists.flatten :=
  filter_separated (by decide) lists

theorem without_names {names : List Ident} (agree : ∀ i ∈ names, i.Agrees) :
    without fillers (separated (names.map fun i => [.word i.name])) =
      without openings (names.map Ident.token) := by
  rw [without_separated]
  induction names with
  | nil => rfl
  | cons i names ih =>
    obtain ⟨name, rest⟩ := forall_mem_cons.mp agree
    simp +decide [← name.1, name.kind, ih rest]

mutual

/-- The tokens of a printed tree are those that its nodes keep, up to fillers. -/
theorem Expr.without_printed : ∀ e : Expr, e.Agrees →
    without fillers e.printed = without openings (storedTokens e.nodes)
  | .hole, _ => rfl
  | .ident _, name => by
    have name : Ident.Agrees _ := name
    simp +decide [Expr.printed, Expr.nodes, ← name.1, name.kind]
  | .int token _, agrees => by
    have kind : token.kind = .int := congrArg Token.kind agrees.1
    simp +decide [Expr.printed, Expr.nodes, ← agrees.1, kind]
  | .bool _ true, agrees | .bool _ false, agrees => by
    obtain rfl := agrees
    rfl
  | .unary _ op e, agrees => by
    obtain ⟨rfl, operand⟩ := agrees
    cases op <;> simp +decide [Expr.printed, Expr.nodes, e.without_printed operand]
  | .binary _ op l r, agrees => by
    obtain ⟨rfl, left, right⟩ := agrees
    cases op <;>
      simp +decide [Expr.printed, Expr.nodes, l.without_printed left, r.without_printed right]
  | .ifThen _ c b, agrees => by
    obtain ⟨rfl, condition, consequence⟩ := agrees
    simp +decide [Expr.printed, Expr.nodes, c.without_printed condition,
      b.without_printed consequence]
  | .ifThenElse _ c b a, agrees => by
    obtain ⟨rfl, condition, consequence, alternative⟩ := agrees
    simp +decide [Expr.printed, Expr.nodes, c.without_printed condition,
      b.without_printed consequence, a.without_printed alternative]
  | .function _ ps b, agrees => by
    obtain ⟨rfl, parameters, body⟩ := agrees
    simp +decide [Expr.printed, Expr.nodes, without_names parameters, b.without_printed body]
  | .call _ f as, agrees => by
    obtain ⟨rfl, callee, arguments⟩ := agrees
    simp +decide [Expr.printed, Expr.nodes, f.without_printed callee, without_separated,
      Expr.without_printedAll as arguments]

theorem Expr.without_printedAll : ∀ es : List Expr, Expr.AllAgree es →
    without fillers (Expr.printedAll es).flatten =
      without openings (storedTokens (Expr.nodesAll es))
  | [], _ => rfl
  | e :: es, agree => by
    simp [Expr.printedAll, Expr.nodesAll, e.without_printed agree.1,
      Expr.without_printedAll es agree.2]

theorem Stmt.without_printed : ∀ s : Stmt, s.Agrees →
    without fillers s.printed = without openings (storedTokens s.nodes)
  | .let_ _ _ v, agrees => by
    obtain ⟨rfl, name, value⟩ := agrees
    simp +decide [Stmt.printed, Stmt.nodes, ← name.1, name.kind, v.without_printed value]
  | .return_ _ v, agrees => by
    obtain ⟨rfl, value⟩ := agrees
    simp +decide [Stmt.printed, Stmt.nodes, v.without_printed value]
  | .expr _ v, agrees => by
    simp +decide [Stmt.printed, Stmt.nodes, v.without_printed agrees.2]

theorem Stmt.without_printedAll : ∀ ss : List Stmt, Stmt.AllAgree ss →
    without fillers (Stmt.printedAll ss) = without openings (storedTokens (Stmt.nodesAll ss))
  | [], _ => rfl
  | s :: ss, agree => by
    simp [Stmt.printedAll, Stmt.nodesAll, s.without_printed agree.1,
      Stmt.without_printedAll ss agree.2]

theorem Block.without_printed : ∀ b : Block, b.Agrees →
    without fillers b.printed = without openings (storedTokens b.nodes)
  | ⟨_, ss⟩, agrees => by
    obtain ⟨rfl, statements⟩ := agrees
    simp +decide [Block.printed, Block.nodes, Stmt.without_printedAll ss statements]

end

/-! ## Sources -/

/-- Every node of the tree of a source agrees with the token that it keeps. These tokens are
spelled in the source as in the printed tree, which shows none besides but fillers. -/
theorem nodes_agree_parse (source : String) :
    (∀ node ∈ (parse source).value.nodes, node.Agrees) ∧
      (storedTokens (parse source).value.nodes).Sublist (tokens source) ∧
      without fillers (tokens (parse source).value.text) =
        without openings (storedTokens (parse source).value.nodes) := by
  have agree := agrees_parse source
  refine ⟨Stmt.nodesAll_agree _ agree, storedTokens_sublist source, ?_⟩
  rw [Program.tokens_text _ (printable_parse source)]
  exact Stmt.without_printedAll _ agree

end LetFn
