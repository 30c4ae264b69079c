import Gridwise.Proofs.Checking

/-!
# What a failed comparison tells

A wrong length that a check reports is the one in the tabulator's table, next to the one that the
box asks for; a wrong cell is the tabulator's cell of the reported point, next to what the
expression evaluates to there. In both cases every cell before the reported place is right.
-/

namespace Gridwise

variable {σ : Type} {tabulator : Tabulator σ} {registry : Registry} {config : TabulateConfig}
  {e : Expr} {name : String} {box : Box} {state : σ} {entry : RegisteredMode}
  {cells : Table Value} {offset earlierOffset : Axes Nat} {point earlierPoint : Axes Int32}
  {path : List Nat} {length : Nat}

/-- Offsets between bounds are far below the greatest offset, so coordinates are exact. -/
theorem Bounds.At.toInt_eq_min {bounds : Bounds} {coordinate : Int32} {index : Nat}
    (located : bounds.At index coordinate) :
    bounds.lo.toInt + min index Box.greatestOffset = coordinate.toInt := by
  have apart := located.2
  have lowest := Word.toInt_fits bounds.lo
  have highest := Word.toInt_fits coordinate
  unfold Word.Fits Word.least Word.greatest at lowest highest
  unfold Box.greatestOffset
  omega

namespace Box

/-- The length that the list at an index path should have. No list has more than two indices. -/
def lengthAt? (box : Box) : List Nat → Option Nat
  | [] => some box.shape.x
  | [_] => some box.shape.y
  | [_, _] => some box.shape.z
  | _ => none

theorem coordinate_of_at (located : box.At offset point) :
    box.coordinate offset = point.map Int32.toInt := by
  obtain ⟨x, y, z⟩ := forall_axis_iff.mp located
  rw [coordinate, Axes.map, Axes.mk.injEq]
  exact ⟨x.toInt_eq_min, y.toInt_eq_min, z.toInt_eq_min⟩

/-- The order of two points is that of their offsets. -/
theorem At.toList_lt_iff (located : box.At offset point)
    (earlier : box.At earlierOffset earlierPoint) :
    (earlierPoint.map Int32.toInt).toList < (point.map Int32.toInt).toList ↔
      earlierOffset.toList < offset.toList := by
  obtain ⟨⟨_, x⟩, ⟨_, y⟩, ⟨_, z⟩⟩ := forall_axis_iff.mp located
  obtain ⟨⟨_, earlierX⟩, ⟨_, earlierY⟩, ⟨_, earlierZ⟩⟩ := forall_axis_iff.mp earlier
  simp only [Axes.get] at x y z earlierX earlierY earlierZ
  simp only [Axes.toList, Axes.map, List.cons_lt_cons_iff, List.not_lt_nil, and_false, or_false]
  omega

end Box

namespace RegisteredMode

/-- The cell of a point of the box is wrong, and the cells of all points before it are right. -/
structure FirstWrongCell (entry : RegisteredMode) (e : Expr) (box : Box) (cells : Table Value)
    (offset : Axes Nat) (point : Axes Int32) (expected actual : Option Value) : Prop where
  located : box.At offset point
  right : expected = entry.cellAt e point
  present : cells.cell? offset = some actual
  differ : expected ≠ actual
  earlier : ∀ earlierOffset earlierPoint, box.At earlierOffset earlierPoint →
    (earlierPoint.map Int32.toInt).toList < (point.map Int32.toInt).toList →
    cells.cell? earlierOffset = some (entry.cellAt e earlierPoint)

/-- The list at an index path has the wrong length, and the planes and rows before it have a cell
    for each of their points in the box, and no other cells, and these are right. -/
structure FirstWrongLength (entry : RegisteredMode) (e : Expr) (box : Box) (cells : Table Value)
    (path : List Nat) (expected actual : Nat) : Prop where
  right : box.lengthAt? path = some expected
  present : cells.lengthAt? path = some actual
  differ : expected ≠ actual
  earlier : ∀ offset : Axes Nat, offset.toList < path → ∀ cell,
    cells.cell? offset = some cell ↔ ∃ point, box.At offset point ∧ cell = entry.cellAt e point

theorem Tabulates.lengthAt?_eq (tabulates : entry.Tabulates e box cells)
    (found : cells.lengthAt? path = some length) : box.lengthAt? path = some length := by
  match path with
  | [] =>
      rw [← found]
      exact congrArg some tabulates.planes.symm
  | [i] =>
      obtain ⟨plane, atPlane, rfl⟩ : ∃ plane, cells[i]? = some plane ∧ plane.length = length := by
        simpa [Table.lengthAt?, Option.bind_eq_some_iff] using found
      have member := List.mem_of_getElem? atPlane
      exact congrArg some (tabulates.rows plane member).symm
  | [i, j] =>
      obtain ⟨plane, atPlane, row, atRow, rfl⟩ :
          ∃ plane, cells[i]? = some plane ∧ ∃ row, plane[j]? = some row ∧ row.length = length := by
        simpa [Table.lengthAt?, Option.bind_eq_some_iff] using found
      have member := List.mem_of_getElem? atPlane
      have memberRow := List.mem_of_getElem? atRow
      exact congrArg some (tabulates.width plane member row memberRow).symm
  | _ :: _ :: _ :: _ => cases found

theorem exists_firstWrongCell {expected actual : Option Value}
    (found : (entry.tableOver e box).mismatch? cells = some (.cell offset expected actual)) :
    ∃ point, entry.FirstWrongCell e box cells offset point expected actual := by
  have parts := Table.parts_of_mismatch found
  obtain ⟨rightThere, present, differ⟩ := parts.separates
  obtain ⟨point, located, right⟩ := cell?_tableOver_eq_some_iff.mp rightThere
  refine ⟨point, located, right, present, differ, ?_⟩
  intro earlierOffset earlierPoint inside before
  rw [← parts.cell?_eq ((located.toList_lt_iff inside).mp before)]
  exact cell?_tableOver_eq_some_iff.mpr ⟨earlierPoint, inside, rfl⟩

theorem firstWrongLength_of_mismatch {expected actual : Nat}
    (found : (entry.tableOver e box).mismatch? cells = some (.shape path expected actual)) :
    entry.FirstWrongLength e box cells path expected actual := by
  have parts := Table.parts_of_mismatch found
  obtain ⟨rightThere, present, differ⟩ := parts.separates
  refine ⟨(tabulates_tableOver entry e box).lengthAt?_eq rightThere, present, differ, ?_⟩
  intro offset before cell
  rw [← parts.cell?_eq before]
  exact cell?_tableOver_eq_some_iff

end RegisteredMode

/-- A check whose answer is a table fails with the first difference of the right table and it. -/
theorem failure_of_table {failure : CheckFailure} (checkable : Checkable registry e name entry)
    (answered : (tabulator ⟨name, e.render, box.bounds⟩ state).1 = .table cells)
    (failed : (check tabulator registry config e name box state).1 = .error failure) :
    ∃ mismatch, (entry.tableOver e box).mismatch? cells = some mismatch ∧
      failure = .ofMismatch ⟨e.render, name, box⟩ mismatch := by
  rw [outcome_of_checkable checkable, answered] at failed
  exact judge_table_eq_error_iff.mp failed

/-- A reported cell is the first wrong one, at its coordinates, and a reported length is the first
    wrong one, at its index path. -/
theorem check_reports_first_difference (tabulator : Tabulator σ) (registry : Registry)
    (config : TabulateConfig) (e : Expr) (name : String) (box : Box) (state : σ) :
    let answer := (tabulator ⟨name, e.render, box.bounds⟩ state).1
    let checked := (check tabulator registry config e name box state).1
    (∀ site position expected actual, checked = .error (.cell site position expected actual) →
      site = ⟨e.render, name, box⟩ ∧ ∃ entry cells offset point,
        Checkable registry e name entry ∧ answer = .table cells ∧
        position = point.map Int32.toInt ∧
        entry.FirstWrongCell e box cells offset point expected actual) ∧
    (∀ site path expected actual, checked = .error (.shape site path expected actual) →
      site = ⟨e.render, name, box⟩ ∧ ∃ entry cells,
        Checkable registry e name entry ∧ answer = .table cells ∧
        entry.FirstWrongLength e box cells path expected actual) := by
  intro answer checked
  have verdict : Verdict registry e name box answer checked :=
    verdict_check tabulator registry config e name box state
  constructor
  · intro site position expected actual failed
    rw [failed] at verdict
    cases verdict with
    | @cell entry cells _ _ _ checkable answered =>
        obtain ⟨mismatch, found, reported⟩ := failure_of_table checkable answered failed
        cases mismatch with
        | shape => cases reported
        | cell offset =>
            cases reported
            obtain ⟨point, wrong⟩ := RegisteredMode.exists_firstWrongCell found
            exact ⟨rfl, entry, cells, offset, point, checkable, answered,
              Box.coordinate_of_at wrong.located, wrong⟩
  · intro site path expected actual failed
    rw [failed] at verdict
    cases verdict with
    | @shape entry cells _ _ _ checkable answered =>
        obtain ⟨mismatch, found, reported⟩ := failure_of_table checkable answered failed
        cases mismatch with
        | cell => cases reported
        | shape =>
            cases reported
            exact ⟨rfl, entry, cells, checkable, answered,
              RegisteredMode.firstWrongLength_of_mismatch found⟩

/-- A fault that is answered with zero, and a row that ends before its fault, at the greatest
    word. -/
theorem check_reports_first_difference_at_fault :
    let e : Expr := .binary "/" (.var "x") (.var "y")
    let box : Box := ⟨⟨⟨2147483647, 2147483647⟩, by decide⟩, ⟨⟨-1, 0⟩, by decide⟩,
      ⟨⟨0, 0⟩, by decide⟩⟩
    let zero : Table Value := [[[some (.int (-2147483647))], [some (.int 0)]]]
    let short : Table Value := [[[some (.int (-2147483647))], []]]
    let checked (cells : Table Value) : Except CheckFailure Unit :=
      (check (.ofFunction fun _ => .table cells) .standard {} e "i" box ()).1
    checked zero = .error (.cell ⟨e.render, "i", box⟩ ⟨2147483647, 0, 0⟩ none (some (.int 0))) ∧
      (∃ entry offset point, point.map Int32.toInt = ⟨2147483647, 0, 0⟩ ∧
        RegisteredMode.FirstWrongCell entry e box zero offset point none (some (.int 0))) ∧
      checked short = .error (.shape ⟨e.render, "i", box⟩ [0, 1] 1 0) ∧
      ∃ entry, RegisteredMode.FirstWrongLength entry e box short [0, 1] 1 0 := by
  intro e box zero short checked
  have checkable : Checkable .standard e "i" (.ofInt .int) := ⟨rfl, _, rfl⟩
  have zeroDiffers : (RegisteredMode.tableOver (.ofInt .int) e box).mismatch? zero =
      some (.cell ⟨0, 1, 0⟩ none (some (.int 0))) := by decide +kernel
  have shortDiffers : (RegisteredMode.tableOver (.ofInt .int) e box).mismatch? short =
      some (.shape [0, 1] 1 0) := by decide +kernel
  have wrongCell : checked zero =
      .error (.cell ⟨e.render, "i", box⟩ ⟨2147483647, 0, 0⟩ none (some (.int 0))) := by
    dsimp only [checked]
    rw [outcome_of_checkable checkable]
    exact judge_table_eq_error_iff.mpr ⟨_, zeroDiffers, rfl⟩
  have wrongLength : checked short = .error (.shape ⟨e.render, "i", box⟩ [0, 1] 1 0) := by
    dsimp only [checked]
    rw [outcome_of_checkable checkable]
    exact judge_table_eq_error_iff.mpr ⟨_, shortDiffers, rfl⟩
  refine ⟨wrongCell, ?_, wrongLength, ?_⟩
  · obtain ⟨reported, _⟩ := check_reports_first_difference (.ofFunction fun _ => .table zero)
      .standard {} e "i" box ()
    obtain ⟨_, entry, _, offset, point, _, ⟨⟩, position, wrong⟩ := reported _ _ _ _ wrongCell
    exact ⟨entry, offset, point, position.symm, wrong⟩
  · obtain ⟨_, reported⟩ := check_reports_first_difference (.ofFunction fun _ => .table short)
      .standard {} e "i" box ()
    obtain ⟨_, entry, _, _, ⟨⟩, wrong⟩ := reported _ _ _ _ wrongLength
    exact ⟨entry, wrong⟩

end Gridwise
