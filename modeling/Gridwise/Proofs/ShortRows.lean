import Gridwise.Proofs.Interpreting
import Gridwise.Tabulator.Faulty

/-!
# Short rows

A tabulator that forgets the last cell of every row is caught at the first row of the first plane.
The lengths of the planes and of the rows in them are right, and the length of a row is looked at
before its cells, so it makes no difference what these hold. Where a row has one cell only, nothing
is forgotten.
-/

namespace Gridwise

variable {α : Type} {e : Expr} {name : String}

namespace Table

variable {β : Type} {path : List Nat} {compare : Nat → β → β → Option (Mismatch α)}

theorem compareLists_of_length_ne {expected actual : List β}
    (differ : expected.length ≠ actual.length) :
    compareLists path compare expected actual =
      some (.shape path expected.length actual.length) := by
  unfold compareLists
  exact if_neg differ

/-- If the lengths are right, a difference of the first elements is the first one. -/
theorem compareLists_of_first {mismatch : Mismatch α} {a b : β} {moreExpected moreActual : List β}
    (sameLength : moreExpected.length = moreActual.length)
    (differ : compare 0 a b = some mismatch) :
    compareLists path compare (a :: moreExpected) (b :: moreActual) = some mismatch := by
  have lengths : (a :: moreExpected).length = (b :: moreActual).length :=
    congrArg (· + 1) sameLength
  unfold compareLists
  rw [if_pos lengths, firstDifference, differ]

/-- Tables over the same planes and rows, but with rows of two lengths, differ first in the length
    of the first row, whatever their cells are. -/
theorem mismatch?_tabulate_of_width [DecidableEq α] {xs ys zs others : List Int32}
    (planes : xs ≠ []) (rows : ys ≠ []) (differ : zs.length ≠ others.length)
    (expected actual : Axes Int32 → Option α) :
    (tabulate ⟨xs, ys, zs⟩ expected).mismatch? (tabulate ⟨xs, ys, others⟩ actual) =
      some (.shape [0, 0] zs.length others.length) := by
  obtain ⟨x, moreXs, rfl⟩ := List.exists_cons_of_ne_nil planes
  obtain ⟨y, moreYs, rfl⟩ := List.exists_cons_of_ne_nil rows
  apply compareLists_of_first
  · rw [List.length_map, List.length_map]
  apply compareLists_of_first
  · rw [List.length_map, List.length_map]
  rw [compareLists_of_length_ne]
  · rw [List.length_map, List.length_map]
  · rw [List.length_map, List.length_map]
    exact differ

end Table

theorem Interval.coordinates_ne_nil (interval : Interval) : interval.coordinates ≠ [] := by
  rw [← List.length_pos_iff, Bounds.length_coordinates]
  exact interval.length_pos

/-- Above the least word one can step down without wrapping around. -/
theorem Word.toInt_sub_one {lo hi : Int32} (below : lo < hi) : (hi - 1).toInt = hi.toInt - 1 := by
  have lowest := toInt_fits lo
  have highest := toInt_fits hi
  have apart := Int32.lt_iff_toInt_lt.mp below
  unfold Fits at lowest highest
  have asInteger : hi - 1 = Int32.ofInt (hi.toInt - 1) := by
    rw [Int32.ofInt_sub, Int32.ofInt_toInt]
    rfl
  rw [asInteger]
  apply toInt_ofInt
  unfold Fits
  omega

namespace Tabulator

variable {bounds : Bounds}

theorem dropLast_of_eq (single : bounds.lo = bounds.hi) : dropLast bounds = bounds := by
  unfold dropLast
  rw [if_neg]
  rw [single]
  exact Int32.lt_irrefl

theorem length_dropLast (several : bounds.lo < bounds.hi) :
    ((dropLast bounds).length : Int) = bounds.hi.toInt - bounds.lo.toInt := by
  have apart := Int32.lt_iff_toInt_lt.mp several
  have last := Word.toInt_sub_one several
  rw [dropLast, if_pos several]
  show (((bounds.hi - 1).toInt - bounds.lo.toInt + 1).toNat : Int) = _
  omega

end Tabulator

/-- A tabulator with the right planes and rows, but with rows of a wrong length, is caught at the
    first row, whatever its cells are. -/
theorem check_of_width {σ : Type} {tabulator : Tabulator σ} {registry : Registry}
    {config : TabulateConfig} {entry : RegisteredMode} {box : Box} {state : σ} {zs : List Int32}
    {cell : Axes Int32 → Option Value} (checkable : Checkable registry e name entry)
    (answered : (tabulator ⟨name, e.render, box.bounds⟩ state).1 =
      .table (.tabulate ⟨box.x.coordinates, box.y.coordinates, zs⟩ cell))
    (wrong : box.z.length ≠ zs.length) :
    (check tabulator registry config e name box state).1 =
      .error (.shape ⟨e.render, name, box⟩ [0, 0] box.z.length zs.length) := by
  rw [← Bounds.length_coordinates] at wrong ⊢
  have differ := Table.mismatch?_tabulate_of_width box.x.coordinates_ne_nil
    box.y.coordinates_ne_nil wrong (entry.cellAt e) cell
  rw [outcome_of_checkable checkable, answered]
  exact judge_table_eq_error_iff.mpr ⟨_, differ, rfl⟩

/-- In a standard mode, forgetting the last cell of every row passes the check of a standard
    expression over a box with a single `z`. Over all other boxes the check ends at the first row of
    the first plane, which is one shorter than the range of `z`, whatever the cells are. -/
theorem check_truncating (member : name ∈ Registry.standard.names) (standard : e.Standard)
    (config : TabulateConfig) (box : Box) {σ : Type} (state : σ) :
    let checked := (check .truncating .standard config e name box state).1
    (box.z.lo = box.z.hi → checked = .ok ()) ∧
    (box.z.lo ≠ box.z.hi → ∃ expected actual : Nat,
      (expected : Int) = box.z.hi.toInt - box.z.lo.toInt + 1 ∧
      (actual : Int) = box.z.hi.toInt - box.z.lo.toInt ∧
      checked = .error (.shape ⟨e.render, name, box⟩ [0, 0] expected actual)) := by
  intro checked
  obtain ⟨entry, registered, standardEntry⟩ := exists_standard_entry member
  obtain ⟨builds_iff, agrees⟩ := standardEntry e
  have checkable : Checkable .standard e name entry := ⟨registered, builds_iff.mpr standard⟩
  have answered : (Tabulator.truncating (σ := σ) ⟨name, e.render, box.bounds⟩ state).1 =
      .table (.tabulate ⟨box.x.coordinates, box.y.coordinates,
        (Tabulator.dropLast box.z.toBounds).coordinates⟩ (entry.cellAt e)) :=
    respond_eq_tabulate (writable_of_standard standard) (agrees standard)
      (box.bounds.set .z (Tabulator.dropLast box.z.toBounds))
  constructor
  · intro single
    rw [Tabulator.dropLast_of_eq single] at answered
    have judged : checked = judge _ _ _ := outcome_of_checkable checkable
    rw [judged, answered]
    exact judge_table_eq_ok_iff.mpr rfl
  · intro apart
    have several : box.z.lo < box.z.hi := Int32.lt_of_le_of_ne box.z.lo_le_hi apart
    have whole := box.z.length_eq
    have shorter := Tabulator.length_dropLast several
    rw [← Bounds.length_coordinates] at shorter
    refine ⟨_, _, whole, shorter, check_of_width checkable answered ?_⟩
    omega

/-- A quotient without a value anywhere, over one cell and over rows of all words. -/
theorem check_truncating_all_words :
    let e : Expr := .binary "/" (.var "z") (.constant 0)
    let rows : Interval := ⟨⟨-2147483648, 2147483647⟩, by decide⟩
    let single : Interval := ⟨⟨2147483647, 2147483647⟩, by decide⟩
    "bi" ∈ Registry.standard.names ∧ e.Standard ∧
      (check .truncating .standard {} e "bi" ⟨rows, rows, single⟩ ()).1 = .ok () ∧
      (check .truncating .standard {} e "bi" ⟨single, single, rows⟩ ()).1 =
        .error (.shape ⟨e.render, "bi", ⟨single, single, rows⟩⟩ [0, 0] 4294967296 4294967295) := by
  intro e rows single
  have member : "bi" ∈ Registry.standard.names := by decide
  have standard : e.Standard := by decide
  obtain ⟨passes, _⟩ := check_truncating member standard {} ⟨rows, rows, single⟩ ()
  obtain ⟨_, fails⟩ := check_truncating member standard {} ⟨single, single, rows⟩ ()
  refine ⟨member, standard, passes rfl, ?_⟩
  obtain ⟨expected, actual, whole, shorter, caught⟩ := fails (by decide)
  have width : rows.hi.toInt - rows.lo.toInt = 4294967295 := by decide
  obtain rfl : actual = 4294967295 := Int.ofNat_inj.mp (shorter.trans width)
  obtain rfl : expected = 4294967296 := Int.ofNat_inj.mp (whole.trans (congrArg (· + 1) width))
  exact caught

end Gridwise
