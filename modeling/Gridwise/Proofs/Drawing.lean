import Gridwise.Proofs.Building
import Gridwise.Proofs.Computation
import Gridwise.Suite
import Mathlib.Algebra.GroupWithZero.Nat

/-!
# What a generator can draw

A property of everything that a draw can give is shown step by step, without looking at the random
stream: wherever a draw starts, indices are below their bounds. So a drawn expression uses the names
of its generator and no others. The random cases of a suite are drawn from the suite's generator one
after the other, as its schedule has it.
-/

namespace Gridwise

variable {α β : Type}

namespace Draw

/-- Whatever place in the stream the draw starts from, its result has the property. -/
def Always (draw : StateM Keystream α) (property : α → Prop) : Prop :=
  ∀ stream, property (draw stream).1

variable {property : α → Prop} {property' : β → Prop} {draw : StateM Keystream α}

theorem always_true (draw : StateM Keystream α) : Always draw fun _ => True := fun _ => trivial

theorem always_pure {a : α} (holds : property a) : Always (pure a) property := fun _ => holds

theorem always_bind {next : α → StateM Keystream β} (first : Always draw property)
    (second : ∀ a, property a → Always (next a) property') : Always (draw >>= next) property' := by
  intro stream
  rw [bind_apply]
  exact second _ (first stream) _

end Draw

namespace OperatorSet

variable {operators : OperatorSet} {i : Fin operators.size} {op : String}

theorem mem_unary_of_get (got : operators.get i = .unary op) : op ∈ operators.unary.toList := by
  unfold get at got
  split at got
  · cases got
    exact List.getElem_mem _
  · cases got

theorem mem_binary_of_get (got : operators.get i = .binary op) : op ∈ operators.binary.toList := by
  unfold get at got
  split at got
  · cases got
  · cases got
    exact List.get_mem _ _

end OperatorSet

namespace GeneratorConfig

open Draw

/-- The expression uses the names that the generator draws from. -/
def Draws (config : GeneratorConfig) (e : Expr) : Prop :=
  e.Uses (· ∈ config.vars) (· ∈ config.operators.unary.toList)
    (· ∈ config.operators.binary.toList)

theorem drawLeaf_draws (config : GeneratorConfig) : Always config.drawLeaf config.Draws := by
  have constant : Always drawConstant config.Draws := fun _ => trivial
  unfold drawLeaf
  split
  · refine always_bind (always_true _) fun isConstant _ => ?_
    split
    · exact constant
    · refine always_bind (always_true _) fun i _ => ?_
      exact always_pure (List.getElem_mem _)
  · exact constant

theorem drawTree_draws (config : GeneratorConfig) (stops : Nat → Float → Bool)
    (remaining depth : Nat) : Always (config.drawTree stops remaining depth) config.Draws := by
  induction remaining generalizing depth with
  | zero => exact config.drawLeaf_draws
  | succ remaining ih =>
      unfold drawTree
      split
      · refine always_bind (always_true _) fun fraction _ => ?_
        split
        · exact config.drawLeaf_draws
        · refine always_bind (always_true _) fun i _ => ?_
          split
          · next op got =>
              refine always_bind (ih (depth + 1)) fun arg drawn => always_pure ?_
              exact ⟨OperatorSet.mem_unary_of_get got, drawn⟩
          · next op got =>
              refine always_bind (ih (depth + 1)) fun left drawnLeft => ?_
              refine always_bind (ih (depth + 1)) fun right drawnRight => always_pure ?_
              exact ⟨OperatorSet.mem_binary_of_get got, drawnLeft, drawnRight⟩
      · exact config.drawLeaf_draws

theorem drawExpr_draws (config : GeneratorConfig) (stop : StopSchedule) :
    Always (config.drawExpr stop) config.Draws :=
  config.drawTree_draws stop.stops depths 0

end GeneratorConfig

namespace Suite

open Draw

variable {generator : Generator}

/-- Draws one case, the expression before the box. -/
def drawCase (generator : Generator) (stop : StopSchedule) : StateM Keystream Case := do
  let expr ← generator.config.drawExpr stop
  let box ← generator.config.drawBox generator.valid
  return ⟨expr, box⟩

theorem drawCases_eq_mapM (generator : Generator) (stop : StopSchedule) (count : Nat) :
    drawCases generator stop count = (List.replicate count stop).mapM (drawCase generator) := by
  induction count with
  | zero => rfl
  | succ count ih =>
      rw [List.replicate_succ, List.mapM_cons, drawCases, ih, drawCase]
      simp only [bind_assoc, pure_bind]

/-- The cases of all batches are drawn one by one, for each batch as many as it counts. -/
theorem drawBatches_eq_mapM (generator : Generator) (batches : List Batch) :
    drawBatches generator batches =
      (batches.flatMap fun batch => List.replicate batch.count batch.stop).mapM
        (drawCase generator) := by
  induction batches with
  | nil => rfl
  | cons batch batches ih =>
      rw [drawBatches, drawCases_eq_mapM, ih, List.flatMap_cons, List.mapM_append]

theorem drawCase_draws (generator : Generator) (stop : StopSchedule) :
    Always (drawCase generator stop) fun item => generator.config.Draws item.expr :=
  always_bind (generator.config.drawExpr_draws stop) fun _ drawn =>
    always_bind (always_true _) fun _ _ => always_pure drawn

/-- There are so many cases, and the expression of each is drawn. -/
def DrawnCases (generator : Generator) (count : Nat) (cases : List Case) : Prop :=
  cases.length = count ∧ ∀ item ∈ cases, generator.config.Draws item.expr

theorem randomCases_drawn (suite : Suite) :
    DrawnCases suite.generator (suite.config.schedule.map Batch.count).sum suite.randomCases := by
  rw [randomCases, drawBatches_eq_mapM]
  constructor
  · simp only [length_mapM_apply, List.length_flatMap, List.length_replicate]
  · apply forall_mapM_apply
    intro stop _
    exact drawCase_draws suite.generator stop

end Suite

end Gridwise
