import Gridwise.Proofs.Points
import Mathlib.Data.List.ProdSigma
import Mathlib.Data.Set.Card

/-!
# Tables and evaluations

The table of a mode has a cell for each point of its box and no others, and the cell tells what the
expression evaluates to there: its value, or by being absent that some operator faults. A fault is
confined to its own cell, the absent cells are as many as the faults, and neither the way in which
the table is computed nor the rest of the box has any influence on a cell.
-/

namespace Gridwise

variable {α : Type} {mode : Mode α} {e : Expr} {point : Axes Int32} {box : Box}
  {evaluator : Evaluator α} {cell : Option α} {table : Table α}

/-- The point lies between the bounds of the box on every axis. -/
def Box.Contains (box : Box) (point : Axes Int32) : Prop :=
  ∀ axis, (box.get axis).lo ≤ point.get axis ∧ point.get axis ≤ (box.get axis).hi

/-- The expression faults at the point. -/
def Mode.FaultsAt (mode : Mode α) (e : Expr) (point : Axes Int32) : Prop :=
  ∃ fault, evaluate mode e point = .error (.arithmetic fault)

/-- What a cell has to hold: the value of the expression at a point, or nothing if it faults. -/
inductive Mode.Fills (mode : Mode α) (e : Expr) (point : Axes Int32) : Option α → Prop where
  | value {value : α} : evaluate mode e point = .ok value → Fills mode e point (some value)
  | fault : mode.FaultsAt e point → Fills mode e point none

/-- A table with exactly one plane for each `x` of the box, in each one row for each `y`, and in
    each one cell for each `z`, which is filled by what the expression evaluates to at its point. -/
structure Mode.Tabulates (mode : Mode α) (e : Expr) (box : Box) (table : Table α) : Prop where
  planes : (table.length : Int) = box.x.hi.toInt - box.x.lo.toInt + 1
  rows : ∀ plane ∈ table, (plane.length : Int) = box.y.hi.toInt - box.y.lo.toInt + 1
  width : ∀ plane ∈ table, ∀ row ∈ plane,
    (row.length : Int) = box.z.hi.toInt - box.z.lo.toInt + 1
  cells : ∀ offset cell, table.cell? offset = some cell ↔
    ∃ point, box.At offset point ∧ mode.Fills e point cell

namespace Axes

/-- All points whose coordinates are in the lists, in the order of the cells of a table. -/
def points (axes : Axes (List Int32)) : List (Axes Int32) :=
  (axes.x ×ˢ axes.y ×ˢ axes.z).map fun p => ⟨p.1, p.2.1, p.2.2⟩

variable {axes : Axes (List Int32)}

theorem mem_points_iff : point ∈ axes.points ↔ ∀ axis, point.get axis ∈ axes.get axis := by
  obtain ⟨x, y, z⟩ := point
  simp [points, forall_axis_iff, get]

theorem nodup_points (distinct : ∀ axis, (axes.get axis).Nodup) : axes.points.Nodup := by
  obtain ⟨x, y, z⟩ := forall_axis_iff.mp distinct
  refine List.Nodup.map ?_ (x.product (y.product z))
  intro first second same
  simpa [Prod.ext_iff] using same

end Axes

namespace Bounds

variable {bounds : Bounds} {coordinate : Int32}

theorem exists_at_iff :
    (∃ index, bounds.At index coordinate) ↔ bounds.lo ≤ coordinate ∧ coordinate ≤ bounds.hi := by
  simp only [At, Int32.le_iff_toInt_le]
  constructor
  · rintro ⟨index, below, apart⟩
    omega
  · rintro ⟨above, below⟩
    exact ⟨(coordinate.toInt - bounds.lo.toInt).toNat, below, by omega⟩

theorem mem_coordinates_iff :
    coordinate ∈ bounds.coordinates ↔ bounds.lo ≤ coordinate ∧ coordinate ≤ bounds.hi := by
  simp only [List.mem_iff_getElem?, getElem?_coordinates_eq_some_iff, exists_at_iff]

theorem nodup_coordinates (bounds : Bounds) : bounds.coordinates.Nodup := by
  rw [List.nodup_iff_getElem?_ne_getElem?]
  intro i j before inside same
  have found := List.getElem?_eq_getElem inside
  have atSecond := (getElem?_coordinates_eq_some_iff.mp found).2
  have atFirst := (getElem?_coordinates_eq_some_iff.mp (same.trans found)).2
  omega

end Bounds

theorem Interval.length_coordinates_eq (interval : Interval) :
    (interval.coordinates.length : Int) = interval.hi.toInt - interval.lo.toInt + 1 := by
  rw [Bounds.length_coordinates, interval.length_eq]

namespace Table

variable {axes : Axes (List Int32)} {f : Axes Int32 → Option α}

theorem flatten_tabulate : (tabulate axes f).flatten.flatten = axes.points.map f := by
  rw [List.flatten_flatten]
  simp [tabulate, Axes.points, SProd.sprod, List.product, List.flatMap_def, Function.comp_def,
    List.map_flatten]

theorem countAbsent_tabulate :
    (tabulate axes f).countAbsent = axes.points.countP fun point => (f point).isNone := by
  rw [countAbsent, flatten_tabulate, List.countP_map]
  rfl

end Table

/-- The number of distinct elements with a property is that of a set. -/
theorem countP_eq_ncard {β : Type} [DecidableEq β] {items : List β} (distinct : items.Nodup)
    (p : β → Bool) : items.countP p = {item | item ∈ items ∧ p item}.ncard := by
  rw [List.countP_eq_length_filter, ← List.toFinset_card_of_nodup (distinct.filter p),
    ← Set.ncard_coe_finset]
  congr 1
  ext item
  simp

theorem Box.exists_at_iff : (∃ offset, box.At offset point) ↔ box.Contains point := by
  simp only [Contains, ← Bounds.exists_at_iff]
  constructor
  · rintro ⟨offset, located⟩ axis
    exact ⟨offset.get axis, located axis⟩
  · intro inside
    obtain ⟨⟨i, atX⟩, ⟨j, atY⟩, ⟨k, atZ⟩⟩ := forall_axis_iff.mp inside
    exact ⟨⟨i, j, k⟩, forall_axis_iff.mpr ⟨atX, atY, atZ⟩⟩

theorem Box.contains_iff_mem_points :
    box.Contains point ↔ point ∈ (box.bounds.map Bounds.coordinates).points := by
  rw [Axes.mem_points_iff]
  simp only [Axes.get_map, Box.bounds, Bounds.mem_coordinates_iff, Contains]

namespace Evaluator

theorem value_or_faultsAt (built : build mode e = .ok evaluator) (point : Axes Int32) :
    (∃ value, evaluate mode e point = .ok value) ∨ mode.FaultsAt e point := by
  simp only [Mode.FaultsAt, evaluate_eq_evaluateAt, evaluateAt, built]
  cases evaluator.apply (point.map mode.constant) with
  | ok value => exact .inl ⟨value, rfl⟩
  | error fault => exact .inr ⟨fault, rfl⟩

end Evaluator

namespace Mode

theorem FaultsAt.toOption_eq_none (faults : mode.FaultsAt e point) :
    (evaluate mode e point).toOption = none := by
  obtain ⟨fault, evaluated⟩ := faults
  rw [evaluated]
  rfl

theorem fills_iff (built : Evaluator.build mode e = .ok evaluator) :
    mode.Fills e point cell ↔ cell = (evaluate mode e point).toOption := by
  constructor
  · intro fills
    cases fills with
    | value evaluated =>
        rw [evaluated]
        rfl
    | fault faults => exact faults.toOption_eq_none.symm
  · intro same
    subst same
    rcases Evaluator.value_or_faultsAt built point with ⟨value, evaluated⟩ | faults
    · rw [evaluated]
      exact .value evaluated
    · rw [faults.toOption_eq_none]
      exact .fault faults

theorem faultsAt_iff (built : Evaluator.build mode e = .ok evaluator) :
    mode.FaultsAt e point ↔ (evaluate mode e point).toOption.isNone := by
  constructor
  · intro faults
    rw [faults.toOption_eq_none]
    rfl
  · intro absent
    rcases Evaluator.value_or_faultsAt built point with ⟨value, evaluated⟩ | faults
    · rw [evaluated] at absent
      cases absent
    · exact faults

theorem tabulates_table (built : Evaluator.build mode e = .ok evaluator) (box : Box)
    (config : TabulateConfig) : mode.Tabulates e box (evaluator.table mode box config) := by
  rw [Evaluator.table_of_build built]
  refine ⟨?_, ?_, ?_, ?_⟩
  · rw [Table.length_tabulate]
    exact Interval.length_coordinates_eq _
  · intro plane member
    rw [Table.length_plane_tabulate member]
    exact Interval.length_coordinates_eq _
  · intro plane member row memberRow
    rw [Table.length_row_tabulate member memberRow]
    exact Interval.length_coordinates_eq _
  · intro offset cell
    simp only [Table.cell?_tabulate_eq_some_iff, Axes.get_map, Box.bounds,
      Bounds.getElem?_coordinates_eq_some_iff, Box.At, fills_iff built]

theorem Tabulates.shape_eq (tabulates : mode.Tabulates e box table) : table.shape = box.shape := by
  have planes : table.length = box.x.length := by
    have length := box.x.length_eq
    have planes := tabulates.planes
    omega
  have rows : ∀ plane ∈ table, plane.length = box.y.length := by
    intro plane member
    have length := box.y.length_eq
    have rows := tabulates.rows plane member
    omega
  have width : ∀ plane ∈ table, ∀ row ∈ plane, row.length = box.z.length := by
    intro plane member row memberRow
    have length := box.z.length_eq
    have width := tabulates.width plane member row memberRow
    omega
  match table with
  | [] => exact absurd planes (Nat.ne_of_lt box.x.length_pos)
  | [] :: _ => exact absurd (rows [] List.mem_cons_self) (Nat.ne_of_lt box.y.length_pos)
  | (row :: plane) :: table =>
      rw [Table.shape, Box.shape, Axes.map, Axes.mk.injEq]
      exact ⟨planes, rows _ List.mem_cons_self,
        width _ List.mem_cons_self row List.mem_cons_self⟩

theorem countAbsent_table (built : Evaluator.build mode e = .ok evaluator) (box : Box)
    (config : TabulateConfig) :
    (evaluator.table mode box config).countAbsent =
      {point | box.Contains point ∧ mode.FaultsAt e point}.ncard := by
  have distinct : (box.bounds.map Bounds.coordinates).points.Nodup := by
    apply Axes.nodup_points
    intro axis
    rw [Axes.get_map]
    exact Bounds.nodup_coordinates _
  rw [Evaluator.table_of_build built, Table.countAbsent_tabulate, countP_eq_ncard distinct]
  simp only [Box.contains_iff_mem_points, faultsAt_iff built]

end Mode

/-- What has been built tabulates its expression over every box: the table has the shape of the box,
    as many absent cells as there are faults in it, and it is the same however it is computed. Two
    tables of an expression have the same cell for every point that their boxes share. -/
theorem table_holds_evaluations (built : Evaluator.build mode e = .ok evaluator) (box : Box)
    (config : TabulateConfig) :
    let table := evaluator.table mode box config
    mode.Tabulates e box table ∧
    table.shape = box.shape ∧
    table.countAbsent = {point | box.Contains point ∧ mode.FaultsAt e point}.ncard ∧
    (∀ other : TabulateConfig, evaluator.table mode box other = table) ∧
    ∀ (otherBox : Box) (other : TabulateConfig) offset otherOffset point,
      box.At offset point → otherBox.At otherOffset point →
      ∃ cell, table.cell? offset = some cell ∧
        (evaluator.table mode otherBox other).cell? otherOffset = some cell := by
  intro table
  have tabulates : mode.Tabulates e box table := Mode.tabulates_table built box config
  refine ⟨tabulates, tabulates.shape_eq, Mode.countAbsent_table built box config, ?_, ?_⟩
  · intro other
    exact (evaluator.table_eq_tabulate mode box other).trans
      (evaluator.table_eq_tabulate mode box config).symm
  · intro otherBox other offset otherOffset point located otherLocated
    have fills := (Mode.fills_iff built).mpr (rfl : (evaluate mode e point).toOption = _)
    have otherTabulates := Mode.tabulates_table built otherBox other
    exact ⟨_, (tabulates.cells _ _).mpr ⟨point, located, fills⟩,
      (otherTabulates.cells _ _).mpr ⟨point, otherLocated, fills⟩⟩

/-- Quotients at the limits of words: by zero in two of six cells, and of the least word by minus
    one, in tables that share one point. -/
theorem table_holds_evaluations_at_limits :
    let e : Expr := .binary "/" (.var "z") (.var "y")
    let box : Box := ⟨⟨⟨2147483646, 2147483647⟩, by decide⟩, ⟨⟨-1, 1⟩, by decide⟩,
      ⟨⟨-2147483648, -2147483648⟩, by decide⟩⟩
    let corner : Box := ⟨⟨⟨2147483647, 2147483647⟩, by decide⟩, ⟨⟨0, 0⟩, by decide⟩,
      ⟨⟨-2147483648, -2147483647⟩, by decide⟩⟩
    ∃ evaluator, Evaluator.build .bigInt e = .ok evaluator ∧
      Mode.bigInt.Tabulates e box (evaluator.table .bigInt box ⟨0, 1⟩) ∧
      (evaluator.table .bigInt box ⟨0, 1⟩).cell? ⟨0, 0, 0⟩ = some (some 2147483648) ∧
      {point | box.Contains point ∧ Mode.bigInt.FaultsAt e point}.ncard = 2 ∧
      (evaluator.table .bigInt corner {}).cell? ⟨0, 0, 0⟩ = some none := by
  intro e box corner
  obtain ⟨evaluator, built⟩ : ∃ evaluator, Evaluator.build .bigInt e = .ok evaluator := ⟨_, rfl⟩
  obtain ⟨tabulates, _, absent, same, shared⟩ := table_holds_evaluations built box {}
  have table : evaluator.table .bigInt box {} =
      [[[some 2147483648], [none], [some (-2147483648)]],
       [[some 2147483648], [none], [some (-2147483648)]]] := by
    cases built
    decide +kernel
  rw [table] at tabulates absent
  refine ⟨evaluator, built, ?_⟩
  rw [same ⟨0, 1⟩, table]
  refine ⟨tabulates, rfl, absent.symm, ?_⟩
  have located : box.At ⟨1, 1, 0⟩ ⟨2147483647, 0, -2147483648⟩ := by decide
  have cornered : corner.At ⟨0, 0, 0⟩ ⟨2147483647, 0, -2147483648⟩ := by decide
  obtain ⟨cell, atPoint, atCorner⟩ := shared corner {} _ _ _ located cornered
  rw [table] at atPoint
  cases atPoint
  exact atCorner

end Gridwise
