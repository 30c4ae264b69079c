import Gridwise.Evaluator
import Gridwise.Interval

/-!
# Tables

A table has a plane for each `x`, in it a row for each `y`, and in it a cell for each `z`.
A cell is absent where an expression has no value. Tables that come from elsewhere may be
ragged, so the lengths are not part of the type. The planes of a large table may be computed
in parallel, which changes nothing but the time that this takes.
-/

namespace Gridwise

/-- Planes of rows of cells, each cell present or absent. -/
abbrev Table (α : Type) := List (List (List (Option α)))

namespace Table

/-- The table of a function over lists of coordinates. -/
def tabulate (axes : Axes (List Int32)) (cell : Axes Int32 → Option α) : Table α :=
  axes.x.map fun x => axes.y.map fun y => axes.z.map fun z => cell ⟨x, y, z⟩

/-- The table of a computation between bounds, in table order up to the first error. -/
def collect (bounds : Axes Bounds) (cell : Axes Int32 → Except ε (Option α)) :
    Except ε (Table α) :=
  bounds.x.collect fun x => bounds.y.collect fun y => bounds.z.collect fun z => cell ⟨x, y, z⟩

/-- The lengths of the table, of its first plane and of the first row in it. -/
def shape (table : Table α) : Axes Nat :=
  ⟨table.length,
   match table with
   | [] => 0
   | plane :: _ => plane.length,
   match table with
   | (row :: _) :: _ => row.length
   | _ => 0⟩

/-- The number of absent cells. -/
def countAbsent (table : Table α) : Nat := table.flatten.flatten.countP Option.isNone

/-- The cell at given offsets, if the table has one there. -/
def cell? (table : Table α) (offset : Axes Nat) : Option (Option α) := do
  let plane ← table[offset.x]?
  let row ← plane[offset.y]?
  row[offset.z]?

/-- Transforms every present cell. -/
def map (f : α → β) (table : Table α) : Table β :=
  List.map (List.map (List.map (Option.map f))) table

/-- Transforms every present cell with effects, in table order. -/
def mapM [Monad m] (f : α → m β) (table : Table α) : m (Table β) :=
  List.mapM (fun plane => List.mapM (fun row => List.mapM (fun cell => cell.mapM f) row) plane)
    table

/-- Replaces the cell at given offsets, if the table has one there. -/
def replace (table : Table α) (offset : Axes Nat) (cell : Option α) : Table α :=
  table.modify offset.x fun plane => plane.modify offset.y fun row => row.set offset.z cell

end Table

/-- How tables are computed. -/
structure TabulateConfig where
  /-- The number of cells from which on planes are computed in parallel. -/
  parallelThreshold : Nat := 4096
  /-- How often the planes are then split in halves. Each time doubles the number of tasks;
      with none, which is best for short expressions, the planes follow one another. -/
  forks : Nat := 0
  deriving DecidableEq

/-- Planes are computed one after the other below the largest count of cells. -/
def TabulateConfig.sequential : TabulateConfig := { parallelThreshold := Box.greatestCount }

namespace Evaluator

/-- The plane of a table at one `x`. -/
def plane (evaluator : Evaluator α) (mode : Mode α) (ys zs : List Int32) (x : Int32) :
    List (List (Option α)) :=
  ys.map fun y => zs.map fun z => (evaluator.outcomeAt mode ⟨x, y, z⟩).toOption

/-- The planes of a table in order. The list of `x` is split in halves so many times, and
    the upper half is computed while the lower one is. -/
def planes (evaluator : Evaluator α) (mode : Mode α) (ys zs : List Int32) :
    (forks : Nat) → (xs : List Int32) → Table α
  | 0, xs => xs.map (evaluator.plane mode ys zs)
  | forks + 1, xs =>
      let half := xs.length / 2
      let upper := Task.spawn fun _ => planes evaluator mode ys zs forks (xs.drop half)
      planes evaluator mode ys zs forks (xs.take half) ++ upper.get

theorem planes_eq_map (evaluator : Evaluator α) (mode : Mode α) (ys zs : List Int32)
    (forks : Nat) (xs : List Int32) :
    evaluator.planes mode ys zs forks xs = xs.map (evaluator.plane mode ys zs) := by
  induction forks generalizing xs with
  | zero => rfl
  | succ forks ih =>
      rw [planes, ih]
      show _ ++ evaluator.planes mode ys zs forks (xs.drop _) = _
      rw [ih, ← List.map_append, List.take_append_drop]

/-- The table of an evaluator over a box. -/
def table (evaluator : Evaluator α) (mode : Mode α) (box : Box) (config : TabulateConfig) :
    Table α :=
  let forks := if config.parallelThreshold ≤ box.cells then config.forks else 0
  evaluator.planes mode box.y.coordinates box.z.coordinates forks box.x.coordinates

theorem table_eq_tabulate (evaluator : Evaluator α) (mode : Mode α) (box : Box)
    (config : TabulateConfig) :
    evaluator.table mode box config =
      Table.tabulate (box.map fun interval => interval.coordinates)
        fun point => (evaluator.outcomeAt mode point).toOption :=
  evaluator.planes_eq_map mode _ _ _ _

end Evaluator

end Gridwise
