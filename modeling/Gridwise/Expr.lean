/-!
# Expression trees

An expression is a constant, a named variable, or a named operation on one or two
expressions. Names are opaque here: a mode gives operators their meaning, and only an
evaluator decides which variables exist; an expression is standard if it names nothing but
the coordinates and the operators of arithmetic. Every traversal goes bottom-up, the
operands before their operator and the left operand before the right one.
-/

namespace Gridwise

/-- An arithmetic expression over named variables and operators. -/
inductive Expr where
  | constant (value : Int32)
  | var (name : String)
  | unary (op : String) (arg : Expr)
  | binary (op : String) (left right : Expr)

namespace Expr

/-- Decides equality from the root downward, the names before the operands and the left
    operands before the right ones. A subtree that both sides share is not looked into, so
    that repeated subtrees cost no more than their first occurrence. -/
def decideEq : (a b : Expr) → Decidable (a = b)
  | .constant m, .constant n =>
      if same : m = n then isTrue (same ▸ rfl) else isFalse fun e => same (constant.inj e)
  | .var m, .var n =>
      if same : m = n then isTrue (same ▸ rfl) else isFalse fun e => same (var.inj e)
  | .unary op arg, .unary op' arg' =>
      if same : op = op' then
        match withPtrEqDecEq arg arg' fun _ => decideEq arg arg' with
        | isTrue sameArg => isTrue (same ▸ sameArg ▸ rfl)
        | isFalse differ => isFalse fun e => differ (unary.inj e).2
      else isFalse fun e => same (unary.inj e).1
  | .binary op left right, .binary op' left' right' =>
      if same : op = op' then
        match withPtrEqDecEq left left' fun _ => decideEq left left' with
        | isTrue sameLeft =>
            match withPtrEqDecEq right right' fun _ => decideEq right right' with
            | isTrue sameRight => isTrue (same ▸ sameLeft ▸ sameRight ▸ rfl)
            | isFalse differ => isFalse fun e => differ (binary.inj e).2.2
        | isFalse differ => isFalse fun e => differ (binary.inj e).2.1
      else isFalse fun e => same (binary.inj e).1
  | .constant _, .var _ | .constant _, .unary .. | .constant _, .binary ..
  | .var _, .constant _ | .var _, .unary .. | .var _, .binary ..
  | .unary .., .constant _ | .unary .., .var _ | .unary .., .binary ..
  | .binary .., .constant _ | .binary .., .var _ | .binary .., .unary .. =>
      isFalse fun e => nomatch e

instance : DecidableEq Expr := fun a b => withPtrEqDecEq a b fun _ => decideEq a b

/-- Replaces every node by a function of its name and of the results below it. -/
def fold (constant : Int32 → β) (var : String → β) (unary : String → β → β)
    (binary : String → β → β → β) : Expr → β
  | .constant value => constant value
  | .var name => var name
  | .unary op arg => unary op (fold constant var unary binary arg)
  | .binary op left right =>
      binary op (fold constant var unary binary left) (fold constant var unary binary right)

/-- A bottom-up traversal with effects: one call per node, the left subtree before the
    right one, and each operator after its operands. -/
def foldM [Monad m] (constant : Int32 → m β) (var : String → m β) (unary : String → β → m β)
    (binary : String → β → β → m β) : Expr → m β
  | .constant value => constant value
  | .var name => var name
  | .unary op arg => do
      let a ← foldM constant var unary binary arg
      unary op a
  | .binary op left right => do
      let a ← foldM constant var unary binary left
      let b ← foldM constant var unary binary right
      binary op a b

/-- The number of nodes. -/
def size : Expr → Nat
  | .constant _ | .var _ => 1
  | .unary _ arg => arg.size + 1
  | .binary _ left right => left.size + right.size + 1

/-- The number of nodes on the longest path from the root; a leaf has depth one. -/
def depth : Expr → Nat
  | .constant _ | .var _ => 1
  | .unary _ arg => arg.depth + 1
  | .binary _ left right => max left.depth right.depth + 1

/-- The expression is a constant or a variable. -/
def isLeaf : Expr → Bool
  | .constant _ | .var _ => true
  | .unary .. | .binary .. => false

/-- Puts an expression in the place of every occurrence of one variable. -/
def substitute : Expr → String → Expr → Expr
  | .constant value, _, _ => .constant value
  | .var other, name, replacement => if other = name then replacement else .var other
  | .unary op arg, name, replacement => .unary op (arg.substitute name replacement)
  | .binary op left right, name, replacement =>
      .binary op (left.substitute name replacement) (right.substitute name replacement)

/-- Every variable, unary operator and binary operator of the expression is admitted. -/
def Uses (vars unaries binaries : String → Prop) : Expr → Prop
  | .constant _ => True
  | .var name => vars name
  | .unary op arg => unaries op ∧ arg.Uses vars unaries binaries
  | .binary op left right =>
      binaries op ∧ left.Uses vars unaries binaries ∧ right.Uses vars unaries binaries

instance decidableUses {vars unaries binaries : String → Prop} [DecidablePred vars]
    [DecidablePred unaries] [DecidablePred binaries] :
    (e : Expr) → Decidable (e.Uses vars unaries binaries)
  | .constant _ => isTrue trivial
  | .var name => inferInstanceAs (Decidable (vars name))
  | .unary op arg =>
      have : Decidable (arg.Uses vars unaries binaries) := decidableUses arg
      inferInstanceAs (Decidable (unaries op ∧ arg.Uses vars unaries binaries))
  | .binary op left right =>
      have : Decidable (left.Uses vars unaries binaries) := decidableUses left
      have : Decidable (right.Uses vars unaries binaries) := decidableUses right
      inferInstanceAs (Decidable
        (binaries op ∧ left.Uses vars unaries binaries ∧ right.Uses vars unaries binaries))

/-- The expression has no variables but the three coordinates and no operators but those of
    arithmetic. -/
def Standard (e : Expr) : Prop :=
  e.Uses (· ∈ ["x", "y", "z"]) (· ∈ ["-"]) (· ∈ ["+", "-", "*", "/"])

instance (e : Expr) : Decidable e.Standard := inferInstanceAs (Decidable (e.Uses ..))

/-- The bottom-up traversal without effects is the plain fold. -/
theorem foldM_id (constant : Int32 → β) (var : String → β) (unary : String → β → β)
    (binary : String → β → β → β) (e : Expr) :
    e.foldM (m := Id) constant var unary binary = e.fold constant var unary binary := by
  induction e with
  | constant | var => rfl
  | unary op arg ih =>
      show unary op (arg.foldM (m := Id) constant var unary binary) = _
      rw [ih]; rfl
  | binary op left right ihLeft ihRight =>
      show binary op (left.foldM (m := Id) constant var unary binary)
        (right.foldM (m := Id) constant var unary binary) = _
      rw [ihLeft, ihRight]; rfl

theorem size_eq_fold (e : Expr) :
    e.size = e.fold (fun _ => 1) (fun _ => 1) (fun _ a => a + 1) (fun _ a b => a + b + 1) := by
  induction e <;> simp_all [size, fold]

theorem depth_eq_fold (e : Expr) :
    e.depth = e.fold (fun _ => 1) (fun _ => 1) (fun _ a => a + 1)
      (fun _ a b => max a b + 1) := by
  induction e <;> simp_all [depth, fold]

theorem size_pos (e : Expr) : 0 < e.size := by
  cases e <;> simp [size]

theorem isLeaf_iff_size_eq_one (e : Expr) : e.isLeaf = true ↔ e.size = 1 := by
  cases e with
  | constant | var => simp [isLeaf, size]
  | unary _ arg =>
      have positive := arg.size_pos
      simp only [isLeaf, size, Bool.false_eq_true, false_iff]
      omega
  | binary _ left right =>
      have positive := left.size_pos
      simp only [isLeaf, size, Bool.false_eq_true, false_iff]
      omega

end Expr

end Gridwise
