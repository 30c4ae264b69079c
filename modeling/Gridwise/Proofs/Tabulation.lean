import Gridwise.Proofs.Building
import Gridwise.Registry

/-!
# Tables point by point

The table of an expression over a box holds what the expression evaluates to at each point, and a
table that is collected with errors is the plain one if no cell has an error.
-/

namespace Gridwise

namespace Table

variable {α β ε : Type}

theorem map_tabulate (f : α → β) (axes : Axes (List Int32)) (cell : Axes Int32 → Option α) :
    (tabulate axes cell).map f = tabulate axes fun point => (cell point).map f := by
  unfold Table.map tabulate
  simp only [List.map_map, Function.comp_def]

theorem collect_eq_ok {cell : Axes Int32 → Except ε (Option α)} {value : Axes Int32 → Option α}
    (succeeds : ∀ point, cell point = .ok (value point)) (bounds : Axes Bounds) :
    collect bounds cell = .ok (tabulate (bounds.map Bounds.coordinates) value) := by
  unfold collect
  rw [Bounds.collect_eq_mapM]
  refine mapM_eq_ok fun x _ => ?_
  rw [Bounds.collect_eq_mapM]
  refine mapM_eq_ok fun y _ => ?_
  rw [Bounds.collect_eq_mapM]
  exact mapM_eq_ok fun z _ => succeeds ⟨x, y, z⟩

end Table

variable {e : Expr}

theorem toOption_outcomeAt {α : Type} {mode : Mode α} {evaluator : Evaluator α}
    (built : Evaluator.build mode e = .ok evaluator) (point : Axes Int32) :
    (evaluator.outcomeAt mode point).toOption = (evaluate mode e point).toOption := by
  unfold Evaluator.outcomeAt evaluate
  rw [built]
  cases applied : evaluator.apply (point.map mode.constant) with
  | error fault => simp [applied, Outcome.ofExcept, Outcome.toOption, Except.toOption]
  | ok value => simp [applied, Outcome.ofExcept, Outcome.toOption, Except.toOption]

theorem Evaluator.table_of_build {α : Type} {mode : Mode α} {evaluator : Evaluator α}
    (built : build mode e = .ok evaluator) (box : Box) (config : TabulateConfig) :
    evaluator.table mode box config =
      .tabulate (box.bounds.map Bounds.coordinates) fun point =>
        (evaluate mode e point).toOption := by
  simp only [table_eq_tabulate, toOption_outcomeAt built]
  rfl

namespace RegisteredMode

variable {entry : RegisteredMode}

/-- What a cell should hold: the value of the expression at the point, or nothing where it has
    none. -/
def cellAt (entry : RegisteredMode) (e : Expr) (point : Axes Int32) : Option Value :=
  (evaluate entry.mode e point).toOption.map entry.toValue

/-- The table of an expression over a box. -/
def tableOver (entry : RegisteredMode) (e : Expr) (box : Box) : Table Value :=
  .tabulate (box.bounds.map Bounds.coordinates) (entry.cellAt e)

theorem tabulate_of_build {evaluator : Evaluator entry.Number}
    (built : Evaluator.build entry.mode e = .ok evaluator) (box : Box) (config : TabulateConfig) :
    entry.tabulate e box config = .ok (entry.tableOver e box) := by
  unfold tabulate
  rw [built]
  simp only [Evaluator.table_of_build built, Table.map_tabulate]
  rfl

theorem tabulate_of_build_error {source : BuildError}
    (failed : Evaluator.build entry.mode e = .error source) (box : Box) (config : TabulateConfig) :
    entry.tabulate e box config = .error source := by
  unfold tabulate
  rw [failed]

end RegisteredMode

end Gridwise
