import LetFn.Tree.Basic

/-!
# Equality of trees

Trees are equal when they have the same shape and keep the same tokens. `Expr.same`, `Stmt.same`
and `Block.same` compare two trees by one walk over both, and `Expr.same_iff`, `Stmt.same_iff` and
`Block.same_iff` say that the walk decides equality.
-/

namespace LetFn

mutual

/-- The two expressions are equal. -/
def Expr.same : Expr → Expr → Bool
  | .hole, .hole => true
  | .ident i, .ident j => i = j
  | .int t v, .int u w => t = u && v = w
  | .bool t v, .bool u w => t = u && v = w
  | .unary t o e, .unary u p f => t = u && o = p && e.same f
  | .binary t o l r, .binary u p m s => t = u && o = p && l.same m && r.same s
  | .ifThen t c b, .ifThen u d e => t = u && c.same d && b.same e
  | .ifThenElse t c b a, .ifThenElse u d e f => t = u && c.same d && b.same e && a.same f
  | .function t ps b, .function u qs c => t = u && ps = qs && b.same c
  | .call t e as, .call u f bs => t = u && e.same f && Expr.sameAll as bs
  | _, _ => false

/-- The two lists of expressions are equal. -/
def Expr.sameAll : List Expr → List Expr → Bool
  | [], [] => true
  | e :: es, f :: fs => e.same f && Expr.sameAll es fs
  | _, _ => false

/-- The two statements are equal. -/
def Stmt.same : Stmt → Stmt → Bool
  | .let_ t n v, .let_ u m w => t = u && n = m && v.same w
  | .return_ t v, .return_ u w => t = u && v.same w
  | .expr t v, .expr u w => t = u && v.same w
  | _, _ => false

/-- The two lists of statements are equal. -/
def Stmt.sameAll : List Stmt → List Stmt → Bool
  | [], [] => true
  | s :: ss, t :: ts => s.same t && Stmt.sameAll ss ts
  | _, _ => false

/-- The two blocks are equal. -/
def Block.same : Block → Block → Bool
  | ⟨t, ss⟩, ⟨u, ts⟩ => t = u && Stmt.sameAll ss ts

end

mutual

theorem Expr.same_iff : ∀ e f : Expr, e.same f = true ↔ e = f
  | .hole, f => by cases f <;> simp [Expr.same]
  | .ident _, f => by cases f <;> simp [Expr.same]
  | .int _ _, f => by cases f <;> simp [Expr.same]
  | .bool _ _, f => by cases f <;> simp [Expr.same]
  | .unary _ _ e, f => by cases f <;> simp [Expr.same, Expr.same_iff e, and_assoc]
  | .binary _ _ l r, f => by
    cases f <;> simp [Expr.same, Expr.same_iff l, Expr.same_iff r, and_assoc]
  | .ifThen _ c b, f => by
    cases f <;> simp [Expr.same, Expr.same_iff c, Block.same_iff b, and_assoc]
  | .ifThenElse _ c b a, f => by
    cases f <;> simp [Expr.same, Expr.same_iff c, Block.same_iff b, Block.same_iff a, and_assoc]
  | .function _ _ b, f => by cases f <;> simp [Expr.same, Block.same_iff b, and_assoc]
  | .call _ e as, f => by
    cases f <;> simp [Expr.same, Expr.same_iff e, Expr.sameAll_iff as, and_assoc]

theorem Expr.sameAll_iff : ∀ es fs : List Expr, Expr.sameAll es fs = true ↔ es = fs
  | [], fs => by cases fs <;> simp [Expr.sameAll]
  | e :: es, fs => by cases fs <;> simp [Expr.sameAll, Expr.same_iff e, Expr.sameAll_iff es]

theorem Stmt.same_iff : ∀ s t : Stmt, s.same t = true ↔ s = t
  | .let_ _ _ v, t => by cases t <;> simp [Stmt.same, Expr.same_iff v, and_assoc]
  | .return_ _ v, t => by cases t <;> simp [Stmt.same, Expr.same_iff v]
  | .expr _ v, t => by cases t <;> simp [Stmt.same, Expr.same_iff v]

theorem Stmt.sameAll_iff : ∀ ss ts : List Stmt, Stmt.sameAll ss ts = true ↔ ss = ts
  | [], ts => by cases ts <;> simp [Stmt.sameAll]
  | s :: ss, ts => by cases ts <;> simp [Stmt.sameAll, Stmt.same_iff s, Stmt.sameAll_iff ss]

theorem Block.same_iff : ∀ b c : Block, b.same c = true ↔ b = c
  | ⟨_, ss⟩, ⟨_, _⟩ => by simp [Block.same, Stmt.sameAll_iff ss]

end

instance : DecidableEq Expr := fun e f => decidable_of_iff _ (Expr.same_iff e f)

instance : DecidableEq Stmt := fun s t => decidable_of_iff _ (Stmt.same_iff s t)

instance : DecidableEq Block := fun b c => decidable_of_iff _ (Block.same_iff b c)

instance : DecidableEq Program := fun p q =>
  decidable_of_iff (p.statements = q.statements) (by cases p; cases q; simp)

end LetFn
