import Gridwise.Proofs.Diagnosis
import Gridwise.Proofs.Interpreting
import Gridwise.Proofs.Pointwise
import Gridwise.Tabulator.Faulty

/-!
# Hidden faults

A tabulator that has a value where there should be none is caught exactly if something faults, for a
filled table differs from the right one in its absent cells only. What the check reports is then the
first fault of the box.
-/

namespace Gridwise

variable {α β : Type} {e : Expr} {name : String} {box : Box} {point : Axes Int32}
  {entry : RegisteredMode} {zero : Value}

namespace Table

variable {table : Table α} {value : α} {offset : Axes Nat} {cell : Option α}

theorem cell?_fill :
    (table.fill value).cell? offset =
      (table.cell? offset).map fun cell => some (cell.getD value) :=
  cell?_map_cells _

theorem ne_none_of_fill (found : (table.fill value).cell? offset = some cell) : cell ≠ none := by
  rw [cell?_fill, Option.map_eq_some_iff] at found
  obtain ⟨before, _, rfl⟩ := found
  exact nofun

theorem lengthAt?_fill (path : List Nat) :
    (table.fill value).lengthAt? path = table.lengthAt? path :=
  lengthAt?_map_cells _ path

/-- A filled table differs from the original in no length, and in a cell only if it was absent. -/
theorem exists_of_mismatch_fill [DecidableEq α] {mismatch : Mismatch α}
    (found : table.mismatch? (table.fill value) = some mismatch) :
    ∃ offset, mismatch = .cell offset none (some value) := by
  have separates := (parts_of_mismatch found).separates
  cases mismatch with
  | shape path expected actual =>
      obtain ⟨before, after, differ⟩ := separates
      rw [lengthAt?_fill, before] at after
      exact absurd (Option.some.inj after) differ
  | cell offset expected actual =>
      obtain ⟨before, after, differ⟩ := separates
      rw [cell?_fill, before] at after
      cases after
      cases expected with
      | none => exact ⟨offset, rfl⟩
      | some present => exact absurd rfl differ

end Table

/-- The expression faults at the point, and at all points of the box before it, by `x`, then by `y`,
    then by `z`, it has a value. -/
structure Mode.FirstFaultIn (mode : Mode α) (e : Expr) (box : Box) (point : Axes Int32) : Prop where
  inside : box.Contains point
  faults : mode.FaultsAt e point
  earlier : ∀ earlierPoint, box.Contains earlierPoint →
    (earlierPoint.map Int32.toInt).toList < (point.map Int32.toInt).toList →
    ∃ value, evaluate mode e earlierPoint = .ok value

namespace RegisteredMode

variable {evaluator : Evaluator entry.Number}

theorem cellAt_eq_none_iff (built : Evaluator.build entry.mode e = .ok evaluator) :
    entry.cellAt e point = none ↔ entry.mode.FaultsAt e point := by
  rw [cellAt, Option.map_eq_none_iff, Mode.faultsAt_iff built, Option.isNone_iff_eq_none]

theorem exists_value_of_cellAt (built : Evaluator.build entry.mode e = .ok evaluator)
    (present : entry.cellAt e point ≠ none) : ∃ value, evaluate entry.mode e point = .ok value := by
  rcases Evaluator.value_or_faultsAt built point with valued | faults
  · exact valued
  · exact absurd ((cellAt_eq_none_iff built).mpr faults) present

/-- The first difference of the right table and the filled one is the first fault. -/
theorem exists_firstFaultIn (built : Evaluator.build entry.mode e = .ok evaluator)
    {mismatch : Mismatch Value}
    (found : (entry.tableOver e box).mismatch? ((entry.tableOver e box).fill zero) =
      some mismatch) :
    ∃ offset point, mismatch = .cell offset none (some zero) ∧ box.At offset point ∧
      entry.mode.FirstFaultIn e box point := by
  obtain ⟨offset, rfl⟩ := Table.exists_of_mismatch_fill found
  obtain ⟨point, wrong⟩ := exists_firstWrongCell found
  refine ⟨offset, point, rfl, wrong.located, ?_, ?_, ?_⟩
  · exact Box.exists_at_iff.mp ⟨offset, wrong.located⟩
  · exact (cellAt_eq_none_iff built).mp wrong.right.symm
  · intro earlierPoint inside before
    obtain ⟨earlierOffset, located⟩ := Box.exists_at_iff.mpr inside
    have filled := wrong.earlier earlierOffset earlierPoint located before
    exact exists_value_of_cellAt built (Table.ne_none_of_fill filled)

/-- A filled table is the right one if nothing had to be filled. -/
theorem exists_value_of_eq_fill (built : Evaluator.build entry.mode e = .ok evaluator)
    (same : entry.tableOver e box = (entry.tableOver e box).fill zero)
    (inside : box.Contains point) : ∃ value, evaluate entry.mode e point = .ok value := by
  obtain ⟨offset, located⟩ := Box.exists_at_iff.mpr inside
  have filled : (entry.tableOver e box).cell? offset = some (entry.cellAt e point) :=
    cell?_tableOver_eq_some_iff.mpr ⟨point, located, rfl⟩
  rw [same] at filled
  exact exists_value_of_cellAt built (Table.ne_none_of_fill filled)

end RegisteredMode

section Check

variable {σ : Type} {tabulator : Tabulator σ} {registry : Registry} {state : σ} {text : String}
  {evaluator : Evaluator entry.Number}

theorem exists_firstFault_of_judge (built : Evaluator.build entry.mode e = .ok evaluator)
    (failed : judge ⟨text, name, box⟩ (entry.tableOver e box)
      (.table ((entry.tableOver e box).fill zero)) ≠ .ok ()) :
    ∃ point, entry.mode.FirstFaultIn e box point ∧
      judge ⟨text, name, box⟩ (entry.tableOver e box)
        (.table ((entry.tableOver e box).fill zero)) =
        .error (.cell ⟨text, name, box⟩ (point.map Int32.toInt) none (some zero)) := by
  cases differs : (entry.tableOver e box).mismatch? ((entry.tableOver e box).fill zero) with
  | none =>
      have same := Table.mismatch?_eq_none_iff.mp differs
      exact absurd (judge_table_eq_ok_iff.mpr same) failed
  | some mismatch =>
      obtain ⟨offset, point, rfl, located, first⟩ :=
        RegisteredMode.exists_firstFaultIn built differs
      refine ⟨point, first, judge_table_eq_error_iff.mpr ⟨_, differs, ?_⟩⟩
      rw [CheckFailure.ofMismatch, Box.coordinate_of_at located]

theorem judge_fill_eq_ok_iff (built : Evaluator.build entry.mode e = .ok evaluator) :
    judge ⟨text, name, box⟩ (entry.tableOver e box)
        (.table ((entry.tableOver e box).fill zero)) = .ok () ↔
      ∀ point, box.Contains point → ∃ value, evaluate entry.mode e point = .ok value := by
  constructor
  · intro passed point inside
    exact RegisteredMode.exists_value_of_eq_fill built (judge_table_eq_ok_iff.mp passed) inside
  · intro valued
    by_contra failed
    obtain ⟨point, first, _⟩ := exists_firstFault_of_judge built failed
    obtain ⟨fault, faulted⟩ := first.faults
    obtain ⟨value, evaluated⟩ := valued point first.inside
    cases evaluated.symm.trans faulted

/-- A tabulator that answers with the right table, but with some value in the place of all absent
    cells, passes the check where there are none, and otherwise is caught at the first fault. -/
theorem check_of_filled (config : TabulateConfig) (checkable : Checkable registry e name entry)
    (answered : (tabulator ⟨name, e.render, box.bounds⟩ state).1 =
      .table ((entry.tableOver e box).fill zero)) :
    let checked := (check tabulator registry config e name box state).1
    (checked = .ok () ↔
      ∀ point, box.Contains point → ∃ value, evaluate entry.mode e point = .ok value) ∧
    (checked ≠ .ok () → ∃ point, entry.mode.FirstFaultIn e box point ∧
      checked = .error (.cell ⟨e.render, name, box⟩ (point.map Int32.toInt) none (some zero))) := by
  obtain ⟨evaluator, built⟩ := checkable.builds
  rw [outcome_of_checkable checkable, answered]
  exact ⟨judge_fill_eq_ok_iff built, exists_firstFault_of_judge built⟩

end Check

/-- In a standard mode, hiding the faults of a standard expression behind zeros passes the check if
    and only if there are none in the box. Otherwise the check ends with the first of them, where
    it has the zero of the mode's own numbers in the place of no value. -/
theorem check_zeroOnFault (member : name ∈ Registry.standard.names) (standard : e.Standard)
    (config : TabulateConfig) (box : Box) {σ : Type} (state : σ) :
    let checked := (check .zeroOnFault .standard config e name box state).1
    ∃ entry zero, Registry.standard.find? name = some entry ∧
      (name, zero) ∈ [("i", Value.int 0), ("bi", Value.big 0)] ∧
      (checked = .ok () ↔
        ∀ point, box.Contains point → ∃ value, evaluate entry.mode e point = .ok value) ∧
      (checked ≠ .ok () → ∃ point, entry.mode.FirstFaultIn e box point ∧
        checked = .error
          (.cell ⟨e.render, name, box⟩ (point.map Int32.toInt) none (some zero))) := by
  intro checked
  obtain ⟨entry, registered, standardEntry⟩ := exists_standard_entry member
  obtain ⟨builds_iff, agrees⟩ := standardEntry e
  have ownZero : (name, zeroOf name) ∈ [("i", Value.int 0), ("bi", Value.big 0)] := by
    rcases name_of_standard member with rfl | rfl
    · decide
    · decide
  have answered : (Tabulator.zeroOnFault (σ := σ) ⟨name, e.render, box.bounds⟩ state).1 =
      .table ((entry.tableOver e box).fill (zeroOf name)) := by
    have right := respond_eq_tableOver (writable_of_standard standard) (agrees standard) box
    show (Interpreter.respond _).alter _ = _
    rw [right, Response.alter]
  have checkable : Checkable .standard e name entry := ⟨registered, builds_iff.mpr standard⟩
  exact ⟨entry, zeroOf name, registered, ownZero, check_of_filled config checkable answered⟩

/-- Quotients that are caught at a divisor in the middle of the box. -/
theorem check_zeroOnFault_middle :
    let e : Expr := .binary "/" (.var "x") (.var "y")
    let box : Box := ⟨⟨⟨1, 2⟩, by decide⟩, ⟨⟨-1, 1⟩, by decide⟩, ⟨⟨10, 11⟩, by decide⟩⟩
    let checked := (check .zeroOnFault .standard {} e "i" box ()).1
    "i" ∈ Registry.standard.names ∧ e.Standard ∧
      checked = .error (.cell ⟨e.render, "i", box⟩ ⟨1, 0, 10⟩ none (some (.int 0))) ∧
      ∃ point, point.map Int32.toInt = ⟨1, 0, 10⟩ ∧ Mode.int.FirstFaultIn e box point := by
  intro e box checked
  have member : "i" ∈ Registry.standard.names := by decide
  have standard : e.Standard := by decide
  have caught : checked =
      .error (.cell ⟨e.render, "i", box⟩ ⟨1, 0, 10⟩ none (some (.int 0))) := by decide +kernel
  obtain ⟨entry, zero, ⟨⟩, _, _, fails⟩ := check_zeroOnFault member standard {} box ()
  have failed : checked ≠ .ok () := by
    rw [caught]
    exact nofun
  obtain ⟨point, first, reported⟩ := fails failed
  have same := caught.symm.trans reported
  rw [Except.error.injEq, CheckFailure.cell.injEq] at same
  exact ⟨member, standard, caught, point, same.2.1.symm, first⟩

end Gridwise
