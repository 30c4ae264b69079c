import Gridwise.Proofs.Registered

/-!
# Common operators

A set of operators is known by the operators that it has: the names of each arity ascend, and so
there is one way to list them. Intersecting two sets keeps the operators that both have, and all
laws of intersection follow. In particular the operators that all modes of a registry share do not
depend on the order in which the modes are gone through.
-/

namespace Gridwise

variable {registry : Registry} {operator : Operator} {sets : List OperatorSet}

namespace OperatorSet

variable {a b c : OperatorSet}

/-- The operator is in the set, among those of its arity. -/
def Has (operators : OperatorSet) : Operator → Prop
  | .unary name => name ∈ operators.unary.toList
  | .binary name => name ∈ operators.binary.toList

instance (operators : OperatorSet) : DecidablePred operators.Has
  | .unary name => inferInstanceAs (Decidable (name ∈ operators.unary.toList))
  | .binary name => inferInstanceAs (Decidable (name ∈ operators.binary.toList))

/-- In each arity the names strictly ascend, and so none of them occurs twice. -/
structure Ascends (operators : OperatorSet) : Prop where
  unary : operators.unary.toList.Pairwise (· < ·)
  binary : operators.binary.toList.Pairwise (· < ·)
  unaryOnce : operators.unary.toList.Nodup
  binaryOnce : operators.binary.toList.Nodup

theorem ascends (operators : OperatorSet) : operators.Ascends :=
  ⟨operators.unary.sorted, operators.binary.sorted, operators.unary.nodup_toList,
    operators.binary.nodup_toList⟩

theorem eq_of_has_iff (same : ∀ operator, a.Has operator ↔ b.Has operator) : a = b := by
  have unary := NameSet.eq_of_mem_iff fun name => same (.unary name)
  have binary := NameSet.eq_of_mem_iff fun name => same (.binary name)
  cases a
  cases b
  cases unary
  cases binary
  rfl

theorem has_inter_iff : (a.inter b).Has operator ↔ a.Has operator ∧ b.Has operator := by
  cases operator with
  | unary name => exact NameSet.mem_inter
  | binary name => exact NameSet.mem_inter

theorem inter_comm (a b : OperatorSet) : a.inter b = b.inter a := by
  apply eq_of_has_iff
  intro operator
  rw [has_inter_iff, has_inter_iff, and_comm]

theorem inter_assoc (a b c : OperatorSet) : (a.inter b).inter c = a.inter (b.inter c) := by
  apply eq_of_has_iff
  intro operator
  simp only [has_inter_iff, and_assoc]

theorem inter_self (a : OperatorSet) : a.inter a = a := by
  apply eq_of_has_iff
  intro operator
  rw [has_inter_iff, and_self]

theorem has_common_iff (nonempty : sets ≠ []) :
    (common sets).Has operator ↔ ∀ set ∈ sets, set.Has operator := by
  cases operator with
  | unary name => exact mem_common_iff (fun _ _ => rfl) nonempty
  | binary name => exact mem_common_iff (fun _ _ => rfl) nonempty

end OperatorSet

/-- Every mode of the registry has the operator. -/
def Registry.Shares (registry : Registry) : Operator → Prop
  | .unary op => registry.SharesUnary op
  | .binary op => registry.SharesBinary op

theorem Registry.shares_iff :
    registry.Shares operator ↔ ∀ entry ∈ registry.modes.values, entry.operators.Has operator := by
  simp only [NameMap.mem_values_iff]
  cases operator with
  | unary op | binary op =>
      constructor
      · intro shared entry ⟨name, registered⟩
        exact NameMap.mem_names_iff.mpr (shared name entry registered)
      · intro has name entry registered
        exact NameMap.mem_names_iff.mp (has entry ⟨name, registered⟩)

/-- In whatever order the modes of a registry are gone through, what is left is what all of them
    have. -/
theorem Registry.has_common_iff (nonempty : registry.size ≠ 0) {order : List RegisteredMode}
    (permuted : order.Perm registry.modes.values) :
    (OperatorSet.common (order.map RegisteredMode.operators)).Has operator ↔
      registry.Shares operator := by
  have modes : order.map RegisteredMode.operators ≠ [] := by
    intro none
    have count := permuted.length_eq
    rw [List.map_eq_nil_iff.mp none, NameMap.values, List.length_map] at count
    exact nonempty count.symm
  rw [OperatorSet.has_common_iff modes, List.forall_mem_map, shares_iff]
  simp only [permuted.mem_iff]

/-- The operators that are common to a registry with a mode are those that all of its modes have, in
    ascending order and once each, in whatever order the modes are gone through. Sets of operators
    are made of any names, in any order, and have exactly these; and what two sets share is exactly
    what both have, again in ascending order, however sets are exchanged, grouped or repeated. -/
theorem common_operators_exact :
    (∀ registry : Registry, registry.size ≠ 0 →
      ∀ order : List RegisteredMode, order.Perm registry.modes.values →
      let common := OperatorSet.common (order.map RegisteredMode.operators)
      common = registry.commonOperators ∧ common.Ascends ∧
        ∀ operator, common.Has operator ↔ registry.Shares operator) ∧
    (∀ unary binary : List String,
      let made := OperatorSet.ofLists unary binary
      made.Ascends ∧ (∀ name, made.Has (.unary name) ↔ name ∈ unary) ∧
        ∀ name, made.Has (.binary name) ↔ name ∈ binary) ∧
    ∀ a b c : OperatorSet,
      (a.inter b).Ascends ∧
      (∀ operator, (a.inter b).Has operator ↔ a.Has operator ∧ b.Has operator) ∧
      a.inter b = b.inter a ∧ (a.inter b).inter c = a.inter (b.inter c) ∧ a.inter a = a := by
  refine ⟨?_, ?_, ?_⟩
  · intro registry nonempty order permuted common
    refine ⟨?_, common.ascends, fun operator => Registry.has_common_iff nonempty permuted⟩
    apply OperatorSet.eq_of_has_iff
    intro operator
    exact (Registry.has_common_iff nonempty permuted).trans
      (Registry.has_common_iff nonempty (.refl _)).symm
  · intro unary binary made
    exact ⟨made.ascends, fun name => NameSet.mem_ofList_iff, fun name => NameSet.mem_ofList_iff⟩
  · intro a b c
    exact ⟨(a.inter b).ascends, fun operator => OperatorSet.has_inter_iff,
      OperatorSet.inter_comm a b, OperatorSet.inter_assoc a b c, OperatorSet.inter_self a⟩

/-- Three modes, gone through backward, one of which has a name in one arity only. -/
theorem common_operators_exact_backward :
    let remainders := (Mode.bare "a" Int32.toInt).withBinary "-" (· - ·) |>.withBinary "%" Int.tmod
    let registry := Registry.ofList [.ofInt .int, .ofBig remainders, .ofBig .bigInt]
    let order := registry.modes.values.reverse
    let common := OperatorSet.common (order.map RegisteredMode.operators)
    registry.size ≠ 0 ∧ order.Perm registry.modes.values ∧
      common = .ofLists [] ["-"] ∧ registry.commonOperators = .ofLists [] ["-"] ∧
      registry.Shares (.binary "-") ∧ ¬ registry.Shares (.unary "-") := by
  intro remainders registry order common
  have nonempty : registry.size ≠ 0 := by decide
  have permuted : order.Perm registry.modes.values := List.reverse_perm _
  obtain ⟨same, _, has_iff⟩ := common_operators_exact.1 registry nonempty order permuted
  have computed : common = .ofLists [] ["-"] := by decide
  have difference : common.Has (.binary "-") := by decide
  have noNegation : ¬ common.Has (.unary "-") := by decide
  exact ⟨nonempty, permuted, computed, same.symm.trans computed, (has_iff _).mp difference,
    fun shared => noNegation ((has_iff _).mpr shared)⟩

end Gridwise
