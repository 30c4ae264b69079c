import Gridwise.Expr.Rendering
import Mathlib.Algebra.Group.Nat.Even
import Mathlib.Order.Bounds.Basic

/-!
# Nesting

The parentheses of a written expression are those of its operations. As long as names have no
parentheses of their own, a written expression never closes one that it has not opened and closes
all of them, and the most that are open at a time is how far its leaves lie below the root. So the
text shows the shape of the tree, and its depth confines its size from both sides.
-/

namespace Gridwise

/-! ## Parentheses in a text -/

/-- How many more parentheses a text opens than it closes. -/
def excess (cs : List Char) : Int := (cs.count '(' : Int) - cs.count ')'

theorem excess_append (cs ds : List Char) : excess (cs ++ ds) = excess cs + excess ds := by
  simp only [excess, List.count_append]
  omega

/-- A text that closes what it opens and nothing besides, and in which at most so many parentheses
    are open at a time, and so many somewhere. -/
structure Nests (cs : List Char) (depth : Nat) : Prop where
  balanced : excess cs = 0
  bounded : ∀ front, front <+: cs → 0 ≤ excess front ∧ excess front ≤ depth
  reached : ∃ front, front <+: cs ∧ excess front = depth

namespace Nests

variable {cs ds : List Char} {m n : Nat}

theorem plain (noOpening : '(' ∉ cs) (noClosing : ')' ∉ cs) : Nests cs 0 := by
  have flat : ∀ front, front <+: cs → excess front = 0 := by
    intro front isPrefix
    have opening : front.count '(' = 0 :=
      List.count_eq_zero.mpr fun member => noOpening (isPrefix.subset member)
    have closing : front.count ')' = 0 :=
      List.count_eq_zero.mpr fun member => noClosing (isPrefix.subset member)
    simp [excess, opening, closing]
  refine ⟨flat cs (List.prefix_refl cs), ?_, [], List.nil_prefix, rfl⟩
  intro front isPrefix
  simp [flat front isPrefix]

theorem append (first : Nests cs m) (second : Nests ds n) : Nests (cs ++ ds) (max m n) := by
  refine ⟨?_, ?_, ?_⟩
  · rw [excess_append, first.balanced, second.balanced]
    rfl
  · intro front isPrefix
    rcases List.prefix_or_prefix_of_prefix isPrefix (List.prefix_append cs ds) with
      inFirst | ⟨rest, rfl⟩
    · have bounds := first.bounded front inFirst
      omega
    · have bounds := second.bounded rest ((List.prefix_append_right_inj cs).mp isPrefix)
      rw [excess_append, first.balanced]
      omega
  · rcases Nat.le_total m n with less | less
    · obtain ⟨front, inSecond, reaches⟩ := second.reached
      refine ⟨cs ++ front, (List.prefix_append_right_inj cs).mpr inSecond, ?_⟩
      rw [excess_append, first.balanced, reaches, Nat.max_eq_right less, Int.zero_add]
    · obtain ⟨front, inFirst, reaches⟩ := first.reached
      exact ⟨front, inFirst.trans (List.prefix_append cs ds), by
        rw [reaches, Nat.max_eq_left less]⟩

theorem enclose (inner : Nests cs n) : Nests ('(' :: (cs ++ [')'])) (n + 1) := by
  have opened : ∀ front, excess ('(' :: front) = excess front + 1 := by
    intro front
    simp [excess]
    omega
  have closed : excess (cs ++ [')']) = -1 := by
    rw [excess_append, inner.balanced]
    rfl
  refine ⟨?_, ?_, ?_⟩
  · rw [opened, closed]
    rfl
  · intro front isPrefix
    rcases List.prefix_cons_iff.mp isPrefix with rfl | ⟨front, rfl, behindOpening⟩
    · exact ⟨Int.le_refl 0, Int.natCast_nonneg _⟩
    · rw [opened]
      rcases List.prefix_concat_iff.mp behindOpening with rfl | inside
      · rw [closed]
        omega
      · have bounds := inner.bounded front inside
        omega
  · obtain ⟨front, inside, reaches⟩ := inner.reached
    refine ⟨'(' :: front, ?_, ?_⟩
    · exact (List.prefix_cons_inj '(').mpr (inside.trans (List.prefix_append cs _))
    · rw [opened, reaches]
      rfl

theorem isGreatest (nests : Nests cs n) :
    IsGreatest {height | ∃ front, front <+: cs ∧ excess front = height} (n : Int) := by
  refine ⟨nests.reached, ?_⟩
  rintro _ ⟨front, isPrefix, rfl⟩
  exact (nests.bounded front isPrefix).2

theorem count_eq (nests : Nests cs n) : cs.count '(' = cs.count ')' := by
  have balanced := nests.balanced
  unfold excess at balanced
  omega

theorem count_le (nests : Nests cs n) {front : List Char} (isPrefix : front <+: cs) :
    front.count ')' ≤ front.count '(' := by
  have bounds := nests.bounded front isPrefix
  unfold excess at bounds
  omega

end Nests

/-! ## Parentheses in a written expression -/

namespace Expr

variable {e : Expr}

/-- A name without parentheses. -/
def Unbracketed (name : String) : Prop := '(' ∉ name.toList ∧ ')' ∉ name.toList

instance : DecidablePred Unbracketed := fun _ => inferInstanceAs (Decidable (_ ∧ _))

/-- The number of constants and variables. -/
def leaves : Expr → Nat
  | .constant _ | .var _ => 1
  | .unary _ arg => arg.leaves
  | .binary _ left right => left.leaves + right.leaves

/-- The number of unary and binary operations. -/
def operations : Expr → Nat
  | .constant _ | .var _ => 0
  | .unary _ arg => arg.operations + 1
  | .binary _ left right => left.operations + right.operations + 1

theorem operations_add_leaves (e : Expr) : e.operations + e.leaves = e.size := by
  induction e with
  | constant | var => rfl
  | unary op arg ih =>
      simp only [operations, leaves, size]
      omega
  | binary op left right ihLeft ihRight =>
      simp only [operations, leaves, size]
      omega

theorem depth_pos (e : Expr) : 1 ≤ e.depth := by
  cases e <;> simp [depth]

theorem depth_le_size (e : Expr) : e.depth ≤ e.size := by
  induction e with
  | constant | var => exact Nat.le_refl 1
  | unary op arg ih => exact Nat.add_le_add_right ih 1
  | binary op left right ihLeft ihRight =>
      simp only [depth, size]
      omega

/-- Each level has at most twice as many nodes as the one above it. -/
theorem size_lt_two_pow_depth (e : Expr) : e.size < 2 ^ e.depth := by
  induction e with
  | constant | var => exact Nat.one_lt_two
  | unary op arg ih =>
      rw [size, depth, pow_succ]
      omega
  | binary op left right ihLeft ihRight =>
      have fromLeft : 2 ^ left.depth ≤ 2 ^ max left.depth right.depth :=
        Nat.pow_le_pow_right (by decide) (Nat.le_max_left _ _)
      have fromRight : 2 ^ right.depth ≤ 2 ^ max left.depth right.depth :=
        Nat.pow_le_pow_right (by decide) (Nat.le_max_right _ _)
      rw [size, depth, pow_succ]
      omega

theorem not_mem_decimal {n : Int} {c : Char} (notDigit : c.isDigit = false) (notSign : c ≠ '-') :
    c ∉ Decimal.chars n := by
  have notIn (k : Nat) : c ∉ Decimal.digits k := by
    intro member
    rw [Decimal.digits_eq_toDigits] at member
    have digit := Nat.isDigit_of_mem_toDigits (by decide) (by decide) member
    rw [notDigit] at digit
    cases digit
  cases n with
  | ofNat k => exact notIn k
  | negSucc k => exact List.not_mem_cons_of_ne_of_not_mem notSign (notIn (k + 1))

theorem nests_chars (unbracketed : e.Uses Unbracketed Unbracketed Unbracketed) :
    Nests e.chars (e.depth - 1) := by
  induction e with
  | constant value =>
      rw [chars_constant]
      exact .plain (not_mem_decimal rfl (by decide)) (not_mem_decimal rfl (by decide))
  | var name =>
      rw [chars_var]
      exact .plain unbracketed.1 unbracketed.2
  | unary op arg ih =>
      have inside := (Nests.plain unbracketed.1.1 unbracketed.1.2).append (ih unbracketed.2)
      have depth : max 0 (arg.depth - 1) + 1 = (Expr.unary op arg).depth - 1 := by
        have positive := arg.depth_pos
        simp only [Expr.depth]
        omega
      rw [chars_unary, ← depth]
      exact inside.enclose
  | binary op left right ihLeft ihRight =>
      obtain ⟨⟨noOpening, noClosing⟩, inLeft, inRight⟩ := unbracketed
      have inside := ((ihLeft inLeft).append (.plain noOpening noClosing)).append (ihRight inRight)
      have depth : max (max (left.depth - 1) 0) (right.depth - 1) + 1 =
          (Expr.binary op left right).depth - 1 := by
        have positiveLeft := left.depth_pos
        have positiveRight := right.depth_pos
        simp only [Expr.depth]
        omega
      rw [chars_binary, ← depth]
      exact inside.enclose

theorem count_opening (unbracketed : e.Uses Unbracketed Unbracketed Unbracketed) :
    e.chars.count '(' = e.operations := by
  induction e with
  | constant value =>
      rw [chars_constant]
      exact List.count_eq_zero.mpr (not_mem_decimal rfl (by decide))
  | var name =>
      rw [chars_var]
      exact List.count_eq_zero.mpr unbracketed.1
  | unary op arg ih =>
      have inName : op.toList.count '(' = 0 := List.count_eq_zero.mpr unbracketed.1.1
      simp [chars_unary, operations, inName, ih unbracketed.2]
  | binary op left right ihLeft ihRight =>
      have inName : op.toList.count '(' = 0 := List.count_eq_zero.mpr unbracketed.1.1
      simp [chars_binary, operations, inName, ihLeft unbracketed.2.1, ihRight unbracketed.2.2]

/-- A written expression without parentheses in its names has one pair of them for each operation,
    never closes more than it has opened, and has at most as many open at a time as the tree has
    levels below the root, and somewhere so many. Whatever the names, there are at least as many
    nodes as levels, and at most as many as in a full binary tree of these levels. -/
theorem parentheses_follow_tree (e : Expr) :
    (e.Uses Unbracketed Unbracketed Unbracketed →
      let text := e.render.toList
      text.count '(' = text.count ')' ∧
      text.count '(' = e.operations ∧
      (∀ front, front <+: text → front.count ')' ≤ front.count '(') ∧
      IsGreatest {height | ∃ front, front <+: text ∧ excess front = height} (e.depth - 1 : Int)) ∧
    e.operations + e.leaves = e.size ∧
    1 ≤ e.depth ∧ e.depth ≤ e.size ∧ e.size ≤ 2 ^ e.depth - 1 := by
  refine ⟨?_, e.operations_add_leaves, e.depth_pos, e.depth_le_size,
    Nat.le_sub_one_of_lt e.size_lt_two_pow_depth⟩
  intro unbracketed text
  have nests := nests_chars unbracketed
  have written : text = e.chars := e.toList_render
  have levels : ((e.depth - 1 : Nat) : Int) = e.depth - 1 := Int.natCast_sub e.depth_pos
  rw [written]
  exact ⟨nests.count_eq, count_opening unbracketed, fun front => nests.count_le,
    levels ▸ nests.isGreatest⟩

/-- Operators that are words, and operands that reach to different depths. -/
theorem parentheses_follow_tree_uneven :
    let e : Expr := .binary "max" (.unary "-" (.unary "neg" (.constant (-5))))
      (.binary "/" (.var "x") (.constant 7))
    e.Uses Unbracketed Unbracketed Unbracketed ∧ e.render = "((-(neg-5))max(x/7))" ∧
      e.render.toList.count ')' = 4 ∧
      IsGreatest {height | ∃ front, front <+: e.render.toList ∧ excess front = height} 3 := by
  intro e
  have unbracketed : e.Uses Unbracketed Unbracketed Unbracketed := by decide
  obtain ⟨same, operations, _, greatest⟩ := (parentheses_follow_tree e).1 unbracketed
  exact ⟨unbracketed, by decide, same.symm.trans operations, greatest⟩

end Expr

end Gridwise
