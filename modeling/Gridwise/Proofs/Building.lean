import Gridwise.Evaluator
import Gridwise.Proofs.Computation

/-!
# What builds, and what it evaluates to

An expression builds in a mode exactly if the mode knows all its names. What has been built
evaluates its operands from left to right, so an expression has a value only where all of its
subtrees have one.
-/

namespace Gridwise

variable {α : Type} {mode : Mode α} {e arg left right s : Expr} {op name : String}

/-- The first expression is the second one or lies somewhere below its root. -/
inductive Expr.Within : Expr → Expr → Prop where
  | whole (e : Expr) : Within e e
  | unary {s arg : Expr} {op : String} : Within s arg → Within s (.unary op arg)
  | left {s left right : Expr} {op : String} : Within s left → Within s (.binary op left right)
  | right {s left right : Expr} {op : String} : Within s right → Within s (.binary op left right)

namespace Expr

@[simp] theorem within_constant_iff {value : Int32} :
    s.Within (.constant value) ↔ s = .constant value := by
  constructor
  · intro within
    cases within
    rfl
  · intro same
    subst same
    exact .whole _

@[simp] theorem within_var_iff : s.Within (.var name) ↔ s = .var name := by
  constructor
  · intro within
    cases within
    rfl
  · intro same
    subst same
    exact .whole _

@[simp] theorem within_unary_iff :
    s.Within (.unary op arg) ↔ s = .unary op arg ∨ s.Within arg := by
  constructor
  · intro within
    cases within with
    | whole => exact .inl rfl
    | unary within => exact .inr within
  · intro found
    rcases found with rfl | within
    · exact .whole _
    · exact .unary within

@[simp] theorem within_binary_iff :
    s.Within (.binary op left right) ↔
      s = .binary op left right ∨ s.Within left ∨ s.Within right := by
  constructor
  · intro within
    cases within with
    | whole => exact .inl rfl
    | left within => exact .inr (.inl within)
    | right within => exact .inr (.inr within)
  · intro found
    rcases found with rfl | within | within
    · exact .whole _
    · exact .left within
    · exact .right within

namespace Uses

variable {vars vars' unaries unaries' binaries binaries' : String → Prop}

theorem of_within (within : s.Within e) (uses : e.Uses vars unaries binaries) :
    s.Uses vars unaries binaries := by
  induction within with
  | whole => exact uses
  | unary _ ih => exact ih uses.2
  | left _ ih => exact ih uses.2.1
  | right _ ih => exact ih uses.2.2

theorem mono (moreVars : ∀ name, vars name → vars' name)
    (moreUnaries : ∀ op, unaries op → unaries' op)
    (moreBinaries : ∀ op, binaries op → binaries' op) (uses : e.Uses vars unaries binaries) :
    e.Uses vars' unaries' binaries' := by
  induction e with
  | constant => trivial
  | var name => exact moreVars name uses
  | unary op arg ih => exact ⟨moreUnaries op uses.1, ih uses.2⟩
  | binary op left right ihLeft ihRight =>
      exact ⟨moreBinaries op uses.1, ihLeft uses.2.1, ihRight uses.2.2⟩

theorem congr (sameVars : ∀ name, vars name ↔ vars' name)
    (sameUnaries : ∀ op, unaries op ↔ unaries' op)
    (sameBinaries : ∀ op, binaries op ↔ binaries' op) :
    e.Uses vars unaries binaries ↔ e.Uses vars' unaries' binaries' := by
  constructor
  · exact mono (fun name => (sameVars name).mp) (fun op => (sameUnaries op).mp)
      fun op => (sameBinaries op).mp
  · exact mono (fun name => (sameVars name).mpr) (fun op => (sameUnaries op).mpr)
      fun op => (sameBinaries op).mpr

end Uses

end Expr

namespace Evaluator

variable {evaluator : Evaluator α}

theorem build_var_eq_ok_iff :
    build mode (.var name) = .ok evaluator ↔
      ∃ axis, Axis.ofName? name = some axis ∧ evaluator = coordinate axis := by
  unfold build
  cases Axis.ofName? name with
  | none => simp
  | some axis => simp [eq_comm]

theorem build_unary_eq_ok_iff :
    build mode (.unary op arg) = .ok evaluator ↔
      ∃ inner meaning, build mode arg = .ok inner ∧ mode.unary.find? op = some meaning ∧
        evaluator = unary meaning inner := by
  rw [build, bind_eq_ok_iff]
  cases mode.unary.find? op with
  | none => simp
  | some meaning => simp [eq_comm]

theorem build_binary_eq_ok_iff :
    build mode (.binary op left right) = .ok evaluator ↔
      ∃ first second meaning, build mode left = .ok first ∧ build mode right = .ok second ∧
        mode.binary.find? op = some meaning ∧ evaluator = binary meaning first second := by
  simp only [build, bind_eq_ok_iff]
  cases mode.binary.find? op with
  | none => simp
  | some meaning => simp [eq_comm]

/-- An expression builds if and only if its variables are coordinates and the mode has its
    operators. -/
theorem exists_build_iff :
    (∃ evaluator, build mode e = .ok evaluator) ↔
      e.Uses (fun name => ∃ axis, Axis.ofName? name = some axis)
        (fun op => ∃ meaning, mode.unary.find? op = some meaning)
        (fun op => ∃ meaning, mode.binary.find? op = some meaning) := by
  induction e with
  | constant value => exact ⟨fun _ => trivial, fun _ => ⟨_, rfl⟩⟩
  | var name =>
      simp only [build_var_eq_ok_iff, Expr.Uses]
      constructor
      · intro ⟨_, axis, named, _⟩
        exact ⟨axis, named⟩
      · intro ⟨axis, named⟩
        exact ⟨_, axis, named, rfl⟩
  | unary op arg ih =>
      rw [Expr.Uses, ← ih]
      simp only [build_unary_eq_ok_iff]
      constructor
      · intro ⟨_, inner, meaning, built, known, _⟩
        exact ⟨⟨meaning, known⟩, inner, built⟩
      · intro ⟨⟨meaning, known⟩, inner, built⟩
        exact ⟨_, inner, meaning, built, known, rfl⟩
  | binary op left right ihLeft ihRight =>
      rw [Expr.Uses, ← ihLeft, ← ihRight]
      simp only [build_binary_eq_ok_iff]
      constructor
      · intro ⟨_, first, second, meaning, builtLeft, builtRight, known, _⟩
        exact ⟨⟨meaning, known⟩, ⟨first, builtLeft⟩, second, builtRight⟩
      · intro ⟨⟨meaning, known⟩, ⟨first, builtLeft⟩, second, builtRight⟩
        exact ⟨_, first, second, meaning, builtLeft, builtRight, known, rfl⟩

end Evaluator

/-- Builds an evaluator and applies it to numbers of the mode. -/
def evaluateAt (mode : Mode α) (e : Expr) (args : Axes α) : Except EvalError α :=
  match Evaluator.build mode e with
  | .error error => .error (.build error)
  | .ok evaluator => (evaluator.apply args).mapError .arithmetic

theorem evaluate_eq_evaluateAt (mode : Mode α) (e : Expr) (point : Axes Int32) :
    evaluate mode e point = evaluateAt mode e (point.map mode.constant) := by
  unfold evaluate evaluateAt
  cases Evaluator.build mode e with
  | error error => rfl
  | ok evaluator =>
      cases applied : evaluator.apply (point.map mode.constant) with
      | error fault =>
          simp only [applied]
          rfl
      | ok value =>
          simp only [applied]
          rfl

variable {args : Axes α}

theorem evaluateAt_of_build {evaluator : Evaluator α}
    (built : Evaluator.build mode e = .ok evaluator) :
    evaluateAt mode e args = (evaluator.apply args).mapError .arithmetic := by
  rw [evaluateAt, built]

theorem mapError_eq_error_iff {result : Except Fault α} {fault : Fault} :
    result.mapError EvalError.arithmetic = .error (.arithmetic fault) ↔ result = .error fault := by
  cases result with
  | ok value => exact ⟨nofun, nofun⟩
  | error other =>
      constructor
      · rintro ⟨⟩
        rfl
      · rintro ⟨⟩
        rfl

theorem evaluateAt_eq_fault_iff {evaluator : Evaluator α} {fault : Fault}
    (built : Evaluator.build mode e = .ok evaluator) :
    evaluateAt mode e args = .error (.arithmetic fault) ↔ evaluator.apply args = .error fault := by
  rw [evaluateAt_of_build built, mapError_eq_error_iff]

theorem evaluateAt_constant (value : Int32) :
    evaluateAt mode (.constant value) args = .ok (mode.constant value) := rfl

theorem evaluateAt_var {axis : Axis} (named : Axis.ofName? name = some axis) :
    evaluateAt mode (.var name) args = .ok (args.get axis) := by
  rw [evaluateAt, Evaluator.build_var_eq_ok_iff.mpr ⟨axis, named, rfl⟩]
  rfl

theorem evaluateAt_unary {inner : Evaluator α} {meaning : UnaryOp α}
    (built : Evaluator.build mode arg = .ok inner) (known : mode.unary.find? op = some meaning) :
    evaluateAt mode (.unary op arg) args =
      evaluateAt mode arg args >>= fun a => (meaning a).mapError .arithmetic := by
  have whole := Evaluator.build_unary_eq_ok_iff.mpr ⟨inner, meaning, built, known, rfl⟩
  simp only [evaluateAt, built, whole, Evaluator.unary]
  cases inner.apply args with
  | error fault => rfl
  | ok a => rfl

theorem evaluateAt_binary {first second : Evaluator α} {meaning : BinaryOp α}
    (builtLeft : Evaluator.build mode left = .ok first)
    (builtRight : Evaluator.build mode right = .ok second)
    (known : mode.binary.find? op = some meaning) :
    evaluateAt mode (.binary op left right) args =
      evaluateAt mode left args >>= fun a => evaluateAt mode right args >>= fun b =>
        (meaning a b).mapError .arithmetic := by
  have whole := Evaluator.build_binary_eq_ok_iff.mpr
    ⟨first, second, meaning, builtLeft, builtRight, known, rfl⟩
  simp only [evaluateAt, builtLeft, builtRight, whole, Evaluator.binary]
  cases first.apply args with
  | error fault => rfl
  | ok a =>
      cases second.apply args with
      | error fault => rfl
      | ok b => rfl

theorem exists_build_of_evaluateAt {value : α} (evaluated : evaluateAt mode e args = .ok value) :
    ∃ evaluator, Evaluator.build mode e = .ok evaluator := by
  unfold evaluateAt at evaluated
  split at evaluated
  · cases evaluated
  · next evaluator built => exact ⟨evaluator, built⟩

theorem operand_of_evaluateAt_unary {value : α}
    (evaluated : evaluateAt mode (.unary op arg) args = .ok value) :
    ∃ a, evaluateAt mode arg args = .ok a := by
  obtain ⟨_, built⟩ := exists_build_of_evaluateAt evaluated
  obtain ⟨inner, meaning, built, known, _⟩ := Evaluator.build_unary_eq_ok_iff.mp built
  rw [evaluateAt_unary built known] at evaluated
  obtain ⟨a, evaluatedArg, _⟩ := bind_eq_ok_iff.mp evaluated
  exact ⟨a, evaluatedArg⟩

theorem operands_of_evaluateAt_binary {value : α}
    (evaluated : evaluateAt mode (.binary op left right) args = .ok value) :
    (∃ a, evaluateAt mode left args = .ok a) ∧ ∃ b, evaluateAt mode right args = .ok b := by
  obtain ⟨_, built⟩ := exists_build_of_evaluateAt evaluated
  obtain ⟨_, _, _, builtLeft, builtRight, known, _⟩ := Evaluator.build_binary_eq_ok_iff.mp built
  rw [evaluateAt_binary builtLeft builtRight known] at evaluated
  obtain ⟨a, evaluatedLeft, evaluated⟩ := bind_eq_ok_iff.mp evaluated
  obtain ⟨b, evaluatedRight, _⟩ := bind_eq_ok_iff.mp evaluated
  exact ⟨⟨a, evaluatedLeft⟩, b, evaluatedRight⟩

/-- Where an expression has a value, so has each of its subtrees. -/
theorem evaluateAt_within {value : α} (evaluated : evaluateAt mode e args = .ok value)
    (within : s.Within e) : ∃ part, evaluateAt mode s args = .ok part := by
  induction within generalizing value with
  | whole => exact ⟨value, evaluated⟩
  | unary _ ih =>
      obtain ⟨a, evaluatedArg⟩ := operand_of_evaluateAt_unary evaluated
      exact ih evaluatedArg
  | left _ ih =>
      obtain ⟨⟨a, evaluatedLeft⟩, _⟩ := operands_of_evaluateAt_binary evaluated
      exact ih evaluatedLeft
  | right _ ih =>
      obtain ⟨_, b, evaluatedRight⟩ := operands_of_evaluateAt_binary evaluated
      exact ih evaluatedRight

end Gridwise
