import Gridwise.Proofs.Arithmetic
import Gridwise.Proofs.EvaluationOrder
import Gridwise.Proofs.Registered

/-!
# Build errors

What keeps an expression from being built is a name without a meaning, and whether a node has one
does not depend on what stands below it. Operands are built before their operator is looked at, so
among several such nodes the first one in post-order decides the error.
-/

namespace Gridwise

universe u

variable {α : Type} {β : Type u} {mode : Mode α} {e s : Expr} {error : BuildError}

/-- The list has the names of a map and no others, in strictly ascending order. -/
structure NameMap.Lists (map : NameMap β) (names : List String) : Prop where
  ascending : names.Pairwise (· < ·)
  complete : ∀ name, name ∈ names ↔ ∃ value, map.find? name = some value

theorem NameMap.lists_iff {map : NameMap β} {names : List String} :
    map.Lists names ↔ names = map.names.toList := by
  constructor
  · intro lists
    have listed : (⟨names, lists.ascending⟩ : NameSet).toList = map.names.toList := by
      apply NameSet.toList_eq_of_mem_iff
      intro name
      rw [lists.complete, NameMap.mem_names_iff]
    exact listed
  · rintro rfl
    exact ⟨map.names.sorted, fun name => NameMap.mem_names_iff⟩

namespace Mode

/-- The name at the root of an expression has no meaning in the mode, and this is the error that
    tells so: it names a variable that is no coordinate, or a missing operator together with the
    mode and all the operators that the mode has for as many operands. -/
inductive Rejects (mode : Mode α) : Expr → BuildError → Prop where
  | var {name : String} :
      name ∉ ["x", "y", "z"] → Rejects mode (.var name) (.unsupportedVariable name)
  | unary {op : String} {arg : Expr} {supported : List String} :
      (¬ ∃ meaning, mode.unary.find? op = some meaning) → mode.unary.Lists supported →
      Rejects mode (.unary op arg) (.unsupportedUnary mode.name op supported)
  | binary {op : String} {left right : Expr} {supported : List String} :
      (¬ ∃ meaning, mode.binary.find? op = some meaning) → mode.binary.Lists supported →
      Rejects mode (.binary op left right) (.unsupportedBinary mode.name op supported)

/-- The error for the name at the root of an expression, if it has no meaning. -/
def objection? (mode : Mode α) : Expr → Option BuildError
  | .constant _ => none
  | .var name =>
      match Axis.ofName? name with
      | some _ => none
      | none => some (.unsupportedVariable name)
  | .unary op _ =>
      match mode.unary.find? op with
      | some _ => none
      | none => some (.unsupportedUnary mode.name op mode.unaryNames)
  | .binary op _ _ =>
      match mode.binary.find? op with
      | some _ => none
      | none => some (.unsupportedBinary mode.name op mode.binaryNames)

theorem rejects_var_iff {name : String} :
    mode.Rejects (.var name) error ↔
      Axis.ofName? name = none ∧ error = .unsupportedVariable name := by
  rw [Option.eq_none_iff_forall_ne_some, ← not_exists, exists_ofName?_iff]
  constructor
  · intro rejects
    cases rejects with
    | var unknown => exact ⟨unknown, rfl⟩
  · rintro ⟨unknown, rfl⟩
    exact .var unknown

theorem rejects_unary_iff {op : String} {arg : Expr} :
    mode.Rejects (.unary op arg) error ↔
      mode.unary.find? op = none ∧
        error = .unsupportedUnary mode.name op mode.unaryNames := by
  rw [Option.eq_none_iff_forall_ne_some, ← not_exists]
  constructor
  · intro rejects
    cases rejects with
    | unary unknown lists => exact ⟨unknown, by rw [NameMap.lists_iff.mp lists, unaryNames]⟩
  · rintro ⟨unknown, rfl⟩
    exact .unary unknown (NameMap.lists_iff.mpr rfl)

theorem rejects_binary_iff {op : String} {left right : Expr} :
    mode.Rejects (.binary op left right) error ↔
      mode.binary.find? op = none ∧
        error = .unsupportedBinary mode.name op mode.binaryNames := by
  rw [Option.eq_none_iff_forall_ne_some, ← not_exists]
  constructor
  · intro rejects
    cases rejects with
    | binary unknown lists => exact ⟨unknown, by rw [NameMap.lists_iff.mp lists, binaryNames]⟩
  · rintro ⟨unknown, rfl⟩
    exact .binary unknown (NameMap.lists_iff.mpr rfl)

theorem objection?_eq_some_iff : mode.objection? s = some error ↔ mode.Rejects s error := by
  cases s with
  | constant value => exact ⟨nofun, nofun⟩
  | var name =>
      rw [rejects_var_iff, objection?]
      cases Axis.ofName? name <;> simp [eq_comm]
  | unary op arg =>
      rw [rejects_unary_iff, objection?]
      cases mode.unary.find? op <;> simp [eq_comm]
  | binary op left right =>
      rw [rejects_binary_iff, objection?]
      cases mode.binary.find? op <;> simp [eq_comm]

end Mode

namespace Evaluator

/-- Building fails with the first objection to a node in post-order. -/
theorem build_eq_error_iff :
    build mode e = .error error ↔ e.postorder.findSome? mode.objection? = some error := by
  induction e generalizing error with
  | constant value => exact ⟨nofun, nofun⟩
  | var name =>
      rw [build, Expr.postorder, List.findSome?_singleton, Mode.objection?]
      cases Axis.ofName? name with
      | some axis => simp
      | none => simp
  | unary op arg ih =>
      rw [build, Expr.postorder, List.findSome?_append, List.findSome?_singleton]
      refine bind_eq_error_iff_or (fun _ => ih) fun inner error => ?_
      rw [Mode.objection?]
      cases mode.unary.find? op with
      | some meaning => simp
      | none => simp
  | binary op left right ihLeft ihRight =>
      rw [build, Expr.postorder, List.findSome?_append, List.findSome?_append,
        List.findSome?_singleton, Option.or_assoc]
      -- The left operand's errors come before the right one's, and the root's come last.
      refine bind_eq_error_iff_or (fun _ => ihLeft) fun first error => ?_
      refine bind_eq_error_iff_or (fun _ => ihRight) fun second error => ?_
      rw [Mode.objection?]
      cases mode.binary.find? op with
      | some meaning => simp
      | none => simp

end Evaluator

theorem evaluate_eq_build_error_iff {point : Axes Int32} :
    evaluate mode e point = .error (.build error) ↔ Evaluator.build mode e = .error error := by
  unfold evaluate
  cases Evaluator.build mode e with
  | error other => simp
  | ok evaluator =>
      dsimp only
      cases evaluator.apply (point.map mode.constant) with
      | error fault => simp
      | ok value => simp

/-- An expression builds if and only if its variables are coordinates and the mode has its
    operators, each among those for as many operands. Otherwise the error is that of the first node
    in post-order whose name has no meaning, and evaluating ends with it at every point. -/
theorem build_fails_at_first_unknown (mode : Mode α) (e : Expr) :
    ((∃ evaluator, Evaluator.build mode e = .ok evaluator) ↔
      e.Uses (· ∈ ["x", "y", "z"]) (fun op => ∃ meaning, mode.unary.find? op = some meaning)
        (fun op => ∃ meaning, mode.binary.find? op = some meaning)) ∧
    (∀ error, Evaluator.build mode e = .error error ↔
      ∃ before s behind, e.postorder = before ++ s :: behind ∧ mode.Rejects s error ∧
        ∀ t ∈ before, ∀ earlier, ¬ mode.Rejects t earlier) ∧
    ∀ error point, evaluate mode e point = .error (.build error) ↔
      Evaluator.build mode e = .error error := by
  refine ⟨?_, ?_, fun error point => evaluate_eq_build_error_iff⟩
  · rw [Evaluator.exists_build_iff]
    exact Expr.Uses.congr (fun name => exists_ofName?_iff) (fun op => Iff.rfl) fun op => Iff.rfl
  · intro error
    rw [Evaluator.build_eq_error_iff, List.findSome?_eq_some_iff]
    simp only [Mode.objection?_eq_some_iff, Option.eq_none_iff_forall_ne_some, ne_eq]

/-- A name that is only an operator on two operands, in front of an unknown variable and below an
    unknown operator. -/
example : Evaluator.build .int (.binary "%" (.unary "+" (.var "x")) (.var "w")) =
    .error (.unsupportedUnary "i" "+" ["-"]) := rfl

end Gridwise
