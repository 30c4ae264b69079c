import Gridwise.Proofs.Tabulation

/-!
# Points and their cells

A point of a box has offsets from the lower corner, and a table has the cell of the point at these
offsets. The table of an expression is known by its three lengths and by what its cells hold at the
points of the box.
-/

namespace Gridwise

variable {α β : Type} {offset : Axes Nat} {point : Axes Int32} {box : Box} {e : Expr}
  {entry : RegisteredMode} {cells : Table Value}

theorem forall_axis_iff {p : Axis → Prop} : (∀ axis, p axis) ↔ p .x ∧ p .y ∧ p .z := by
  constructor
  · intro all
    exact ⟨all .x, all .y, all .z⟩
  · intro ⟨x, y, z⟩ axis
    cases axis
    · exact x
    · exact y
    · exact z

/-- The coordinate lies between the bounds, so far above the lower one. -/
def Bounds.At (bounds : Bounds) (offset : Nat) (coordinate : Int32) : Prop :=
  coordinate ≤ bounds.hi ∧ coordinate.toInt = bounds.lo.toInt + offset

/-- The point lies in the box, at these offsets from the lower corner. -/
def Box.At (box : Box) (offset : Axes Nat) (point : Axes Int32) : Prop :=
  ∀ axis, (box.get axis).At (offset.get axis) (point.get axis)

instance (bounds : Bounds) (offset : Nat) (coordinate : Int32) :
    Decidable (bounds.At offset coordinate) := inferInstanceAs (Decidable (_ ∧ _))

instance (box : Box) (offset : Axes Nat) (point : Axes Int32) : Decidable (box.At offset point) :=
  decidable_of_iff _ forall_axis_iff.symm

namespace Bounds

variable {bounds : Bounds} {index : Nat} {coordinate : Int32}

theorem getElem?_coordinates :
    bounds.coordinates[index]? =
      if index < bounds.length then some (bounds.coordinateAt index) else none := by
  rw [coordinates, firstCoordinates, Nat.min_self, List.getElem?_map]
  by_cases inside : index < bounds.length
  · rw [if_pos inside, List.getElem?_range inside]
    rfl
  · rw [if_neg inside, List.getElem?_eq_none (by simpa using inside)]
    rfl

theorem toInt_coordinateAt (inside : index < bounds.length) :
    (bounds.coordinateAt index).toInt = bounds.lo.toInt + index := by
  have lowest := Word.toInt_fits bounds.lo
  have highest := Word.toInt_fits bounds.hi
  unfold length at inside
  apply Word.toInt_ofInt
  unfold Word.Fits at *
  omega

theorem getElem?_coordinates_eq_some_iff :
    bounds.coordinates[index]? = some coordinate ↔ bounds.At index coordinate := by
  rw [getElem?_coordinates, At, Int32.le_iff_toInt_le]
  by_cases inside : index < bounds.length
  · rw [if_pos inside, Option.some.injEq]
    have apart := toInt_coordinateAt inside
    unfold length at inside
    constructor
    · intro same
      rw [← same]
      omega
    · intro ⟨_, sameApart⟩
      exact Int32.toInt_inj.mp (apart.trans sameApart.symm)
  · rw [if_neg inside]
    unfold length at inside
    constructor
    · intro found
      cases found
    · omega

theorem at_coordinateAt (inside : index < bounds.length) :
    bounds.At index (bounds.coordinateAt index) :=
  getElem?_coordinates_eq_some_iff.mp (by rw [getElem?_coordinates, if_pos inside])

end Bounds

namespace Table

variable {table : Table α} {axes : Axes (List Int32)} {f : Axes Int32 → Option α} {cell : Option α}

theorem cell?_eq_some_iff :
    table.cell? offset = some cell ↔
      ∃ plane, table[offset.x]? = some plane ∧ ∃ row, plane[offset.y]? = some row ∧
        row[offset.z]? = some cell := by
  simp only [cell?, Option.bind_eq_bind, Option.bind_eq_some_iff]

theorem length_tabulate : (tabulate axes f).length = axes.x.length := List.length_map _

theorem length_plane_tabulate {plane : List (List (Option α))} (member : plane ∈ tabulate axes f) :
    plane.length = axes.y.length := by
  obtain ⟨x, _, rfl⟩ := List.mem_map.mp member
  exact List.length_map _

theorem length_row_tabulate {plane : List (List (Option α))} (member : plane ∈ tabulate axes f)
    {row : List (Option α)} (memberRow : row ∈ plane) : row.length = axes.z.length := by
  obtain ⟨x, _, rfl⟩ := List.mem_map.mp member
  obtain ⟨y, _, rfl⟩ := List.mem_map.mp memberRow
  exact List.length_map _

theorem cell?_tabulate_eq_some_iff :
    (tabulate axes f).cell? offset = some cell ↔
      ∃ point, (∀ axis, (axes.get axis)[offset.get axis]? = some (point.get axis)) ∧
        cell = f point := by
  simp only [cell?_eq_some_iff, tabulate, List.getElem?_map, Option.map_eq_some_iff,
    forall_axis_iff]
  constructor
  · rintro ⟨_, ⟨x, atX, rfl⟩, row, foundRow, foundCell⟩
    rw [List.getElem?_map, Option.map_eq_some_iff] at foundRow
    obtain ⟨y, atY, rfl⟩ := foundRow
    rw [List.getElem?_map, Option.map_eq_some_iff] at foundCell
    obtain ⟨z, atZ, same⟩ := foundCell
    exact ⟨⟨x, y, z⟩, ⟨atX, atY, atZ⟩, same.symm⟩
  · rintro ⟨⟨x, y, z⟩, ⟨atX, atY, atZ⟩, rfl⟩
    refine ⟨_, ⟨x, atX, rfl⟩, axes.z.map fun z => f ⟨x, y, z⟩, ?_, ?_⟩
    · rw [List.getElem?_map]
      exact Option.map_eq_some_iff.mpr ⟨y, atY, rfl⟩
    · rw [List.getElem?_map]
      exact Option.map_eq_some_iff.mpr ⟨z, atZ, rfl⟩

end Table

namespace RegisteredMode

/-- A table that has a plane for each `x` of the box, in it a row for each `y` and in it a cell for
    each `z`, where the cell of every point holds what the expression evaluates to there. -/
structure Tabulates (entry : RegisteredMode) (e : Expr) (box : Box) (cells : Table Value) :
    Prop where
  planes : cells.length = box.shape.x
  rows : ∀ plane ∈ cells, plane.length = box.shape.y
  width : ∀ plane ∈ cells, ∀ row ∈ plane, row.length = box.shape.z
  values : ∀ offset point, box.At offset point → cells.cell? offset = some (entry.cellAt e point)

theorem cell?_tableOver_eq_some_iff {cell : Option Value} :
    (entry.tableOver e box).cell? offset = some cell ↔
      ∃ point, box.At offset point ∧ cell = entry.cellAt e point := by
  simp only [tableOver, Table.cell?_tabulate_eq_some_iff, Axes.get_map, Box.bounds,
    Bounds.getElem?_coordinates_eq_some_iff, Box.At]

theorem tabulates_tableOver (entry : RegisteredMode) (e : Expr) (box : Box) :
    entry.Tabulates e box (entry.tableOver e box) := by
  refine ⟨?_, ?_, ?_, ?_⟩
  · exact Table.length_tabulate.trans (Bounds.length_coordinates _)
  · intro plane member
    exact (Table.length_plane_tabulate member).trans (Bounds.length_coordinates _)
  · intro plane member row memberRow
    exact (Table.length_row_tabulate member memberRow).trans (Bounds.length_coordinates _)
  · intro offset point located
    exact cell?_tableOver_eq_some_iff.mpr ⟨point, located, rfl⟩

theorem Tabulates.unique {others : Table Value} (first : entry.Tabulates e box cells)
    (second : entry.Tabulates e box others) : cells = others := by
  apply List.ext_getElem (first.planes.trans second.planes.symm)
  intro i inFirst inSecond
  have plane := List.getElem_mem inFirst
  have otherPlane := List.getElem_mem inSecond
  apply List.ext_getElem ((first.rows _ plane).trans (second.rows _ otherPlane).symm)
  intro j inPlane inOther
  have row := List.getElem_mem inPlane
  have otherRow := List.getElem_mem inOther
  apply List.ext_getElem
    ((first.width _ plane _ row).trans (second.width _ otherPlane _ otherRow).symm)
  intro k inRow inOtherRow
  have insideX : i < box.x.length := Nat.lt_of_lt_of_eq inFirst first.planes
  have insideY : j < box.y.length := Nat.lt_of_lt_of_eq inPlane (first.rows _ plane)
  have insideZ : k < box.z.length := Nat.lt_of_lt_of_eq inRow (first.width _ plane _ row)
  have located : box.At ⟨i, j, k⟩
      ⟨box.x.coordinateAt i, box.y.coordinateAt j, box.z.coordinateAt k⟩ :=
    forall_axis_iff.mpr ⟨Bounds.at_coordinateAt insideX, Bounds.at_coordinateAt insideY,
      Bounds.at_coordinateAt insideZ⟩
  have value := first.values _ _ located
  rw [← second.values _ _ located] at value
  simpa [Table.cell?, inFirst, inSecond, inPlane, inOther, inRow, inOtherRow] using value

theorem tabulates_iff : entry.Tabulates e box cells ↔ cells = entry.tableOver e box := by
  constructor
  · intro tabulates
    exact tabulates.unique (tabulates_tableOver entry e box)
  · intro same
    subst same
    exact tabulates_tableOver entry e box

end RegisteredMode

end Gridwise
