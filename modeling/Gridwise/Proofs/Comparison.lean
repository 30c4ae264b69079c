import Gridwise.Table.Mismatch

/-!
# What a comparison finds

Comparing two tables finds no difference exactly if they are equal, and each level of a comparison
inherits this from the level below it. A difference that is found is there, and all cells before it
are the same in both tables.
-/

namespace Gridwise

/-- The entries of the axes, so that the order of lists is the order of tables: by `x`, then by `y`,
    then by `z`. -/
def Axes.toList {α : Type} (axes : Axes α) : List α := [axes.x, axes.y, axes.z]

/-- The indices that lead to a difference. -/
def Mismatch.path {α : Type} : Mismatch α → List Nat
  | .shape path _ _ => path
  | .cell offset _ _ => offset.toList

namespace Table

variable {α β γ : Type}

theorem firstDifference_eq_none_iff {compare : Nat → β → β → Option γ}
    (exact : ∀ index a b, compare index a b = none ↔ a = b) (index : Nat)
    {expected actual : List β} (sameLength : expected.length = actual.length) :
    firstDifference compare index expected actual = none ↔ expected = actual := by
  induction expected generalizing actual index with
  | nil =>
      have empty : actual = [] := List.eq_nil_of_length_eq_zero sameLength.symm
      simp [empty, firstDifference]
  | cons a moreExpected ih =>
      cases actual with
      | nil => simp at sameLength
      | cons b moreActual =>
          have sameRest : moreExpected.length = moreActual.length := by simpa using sameLength
          rw [firstDifference, List.cons.injEq, ← exact index a b, ← ih (index + 1) sameRest]
          cases compare index a b with
          | some difference => simp
          | none => simp

theorem compareLists_eq_none_iff {compare : Nat → β → β → Option (Mismatch α)}
    (exact : ∀ index a b, compare index a b = none ↔ a = b) (path : List Nat)
    {expected actual : List β} :
    compareLists path compare expected actual = none ↔ expected = actual := by
  unfold compareLists
  by_cases sameLength : expected.length = actual.length
  · rw [if_pos sameLength]
    exact firstDifference_eq_none_iff exact 0 sameLength
  · rw [if_neg sameLength]
    constructor
    · intro found
      cases found
    · intro same
      exact absurd (congrArg List.length same) sameLength

/-- Two lists have an element each at an index, and the same elements before it. -/
structure SameBefore (expected actual : List β) (index : Nat) (a b : β) : Prop where
  expectedAt : expected[index]? = some a
  actualAt : actual[index]? = some b
  same : ∀ earlier < index, expected[earlier]? = actual[earlier]?

theorem SameBefore.cons {expected actual : List β} {index : Nat} {a b : β}
    (before : SameBefore expected actual index a b) (first : β) :
    SameBefore (first :: expected) (first :: actual) (index + 1) a b := by
  refine ⟨before.expectedAt, before.actualAt, ?_⟩
  intro earlier below
  cases earlier with
  | zero => rfl
  | succ earlier => exact before.same earlier (by omega)

theorem exists_of_firstDifference {compare : Nat → β → β → Option γ} {difference : γ}
    (exact : ∀ index a b, compare index a b = none ↔ a = b) {start : Nat}
    {expected actual : List β}
    (found : firstDifference compare start expected actual = some difference) :
    ∃ index a b, SameBefore expected actual index a b ∧
      compare (start + index) a b = some difference := by
  induction expected generalizing actual start with
  | nil => simp [firstDifference] at found
  | cons a moreExpected ih =>
      cases actual with
      | nil => simp [firstDifference] at found
      | cons b moreActual =>
          rw [firstDifference] at found
          cases compared : compare start a b with
          | some first =>
              rw [compared] at found
              exact ⟨0, a, b, ⟨rfl, rfl, by simp⟩, compared.trans found⟩
          | none =>
              rw [compared] at found
              obtain ⟨index, c, d, before, later⟩ := ih found
              obtain rfl := (exact start a b).mp compared
              refine ⟨index + 1, c, d, before.cons a, ?_⟩
              rw [← later]
              congr 1
              omega

/-- Two lists of different lengths differ in these, two lists of one length in their elements. -/
theorem exists_of_compareLists {compare : Nat → β → β → Option (Mismatch α)}
    {mismatch : Mismatch α} (exact : ∀ index a b, compare index a b = none ↔ a = b)
    {path : List Nat} {expected actual : List β}
    (found : compareLists path compare expected actual = some mismatch) :
    (mismatch = .shape path expected.length actual.length ∧ expected.length ≠ actual.length) ∨
      ∃ index a b, SameBefore expected actual index a b ∧ compare index a b = some mismatch := by
  unfold compareLists at found
  by_cases sameLength : expected.length = actual.length
  · rw [if_pos sameLength] at found
    obtain ⟨index, a, b, before, found⟩ := exists_of_firstDifference exact found
    rw [Nat.zero_add] at found
    exact .inr ⟨index, a, b, before, found⟩
  · rw [if_neg sameLength, Option.some.injEq] at found
    exact .inl ⟨found.symm, sameLength⟩

/-- The length of the list at an index path: of the table, of a plane or of a row. -/
def lengthAt? (table : Table α) : List Nat → Option Nat
  | [] => some table.length
  | [i] => do
      let plane ← table[i]?
      return plane.length
  | [i, j] => do
      let plane ← table[i]?
      let row ← plane[j]?
      return row.length
  | _ => none

/-- Replacing cells one by one keeps their places. -/
theorem cell?_map_cells {table : Table α} {offset : Axes Nat} (f : Option α → Option β) :
    cell? (List.map (List.map (List.map f)) table) offset = (table.cell? offset).map f := by
  simp only [cell?, List.getElem?_map]
  cases table[offset.x]? with
  | none => rfl
  | some plane =>
      simp only [Option.map_some, Option.bind_eq_bind, Option.bind_some, List.getElem?_map]
      cases plane[offset.y]? with
      | none => rfl
      | some row => simp only [Option.map_some, Option.bind_some, List.getElem?_map]

theorem lengthAt?_map_cells {table : Table α} (f : Option α → Option β) (path : List Nat) :
    lengthAt? (List.map (List.map (List.map f)) table) path = table.lengthAt? path := by
  match path with
  | [] => simp [lengthAt?]
  | [i] =>
      simp only [lengthAt?, List.getElem?_map]
      cases table[i]? with
      | none => rfl
      | some plane => simp
  | [i, j] =>
      simp only [lengthAt?, List.getElem?_map]
      cases table[i]? with
      | none => rfl
      | some plane =>
          simp only [Option.map_some, Option.bind_eq_bind, Option.bind_some, List.getElem?_map]
          cases plane[j]? with
          | none => rfl
          | some row => simp
  | _ :: _ :: _ :: _ => rfl

/-- A difference is there: the two lists have these lengths, or the two cells hold this. -/
def Separates (expected actual : Table α) : Mismatch α → Prop
  | .shape path n m => expected.lengthAt? path = some n ∧ actual.lengthAt? path = some m ∧ n ≠ m
  | .cell offset a b => expected.cell? offset = some a ∧ actual.cell? offset = some b ∧ a ≠ b

/-- Where two tables part: the lists before the one that differs, or the cells before it in its row,
    are the same at every level. -/
inductive Parts (expected actual : Table α) : Mismatch α → Prop where
  | planes :
      expected.length ≠ actual.length →
      Parts expected actual (.shape [] expected.length actual.length)
  | rows {i : Nat} {plane otherPlane : List (List (Option α))} :
      SameBefore expected actual i plane otherPlane →
      plane.length ≠ otherPlane.length →
      Parts expected actual (.shape [i] plane.length otherPlane.length)
  | cells {i j : Nat} {plane otherPlane : List (List (Option α))} {row otherRow : List (Option α)} :
      SameBefore expected actual i plane otherPlane → SameBefore plane otherPlane j row otherRow →
      row.length ≠ otherRow.length →
      Parts expected actual (.shape [i, j] row.length otherRow.length)
  | cell {i j k : Nat} {plane otherPlane : List (List (Option α))}
      {row otherRow : List (Option α)} {a b : Option α} :
      SameBefore expected actual i plane otherPlane → SameBefore plane otherPlane j row otherRow →
      SameBefore row otherRow k a b → a ≠ b →
      Parts expected actual (.cell ⟨i, j, k⟩ a b)

theorem cell?_eq_of_plane {expected actual : Table α} {offset : Axes Nat} {i : Nat}
    {plane otherPlane : List (List (Option α))}
    (planes : SameBefore expected actual i plane otherPlane) (before : offset.x < i) :
    expected.cell? offset = actual.cell? offset := by
  rw [cell?, cell?, planes.same _ before]

theorem cell?_eq_of_row {expected actual : Table α} {offset : Axes Nat} {j : Nat}
    {plane otherPlane : List (List (Option α))} {row otherRow : List (Option α)}
    (planes : SameBefore expected actual offset.x plane otherPlane)
    (rows : SameBefore plane otherPlane j row otherRow) (before : offset.y < j) :
    expected.cell? offset = actual.cell? offset := by
  rw [cell?, cell?, planes.expectedAt, planes.actualAt]
  simp only [Option.bind_eq_bind, Option.bind_some, rows.same _ before]

theorem Parts.separates {expected actual : Table α} {mismatch : Mismatch α}
    (parts : Parts expected actual mismatch) : expected.Separates actual mismatch := by
  cases parts with
  | planes differ => exact ⟨rfl, rfl, differ⟩
  | rows planes differ =>
      refine ⟨?_, ?_, differ⟩
      · simp [lengthAt?, planes.expectedAt]
      · simp [lengthAt?, planes.actualAt]
  | cells planes rows differ =>
      refine ⟨?_, ?_, differ⟩
      · simp [lengthAt?, planes.expectedAt, rows.expectedAt]
      · simp [lengthAt?, planes.actualAt, rows.actualAt]
  | cell planes rows cells differ =>
      refine ⟨?_, ?_, differ⟩
      · simp [cell?, planes.expectedAt, rows.expectedAt, cells.expectedAt]
      · simp [cell?, planes.actualAt, rows.actualAt, cells.actualAt]

/-- Before the place where they part two tables have the same cells. -/
theorem Parts.cell?_eq {expected actual : Table α} {mismatch : Mismatch α}
    (parts : Parts expected actual mismatch) {offset : Axes Nat}
    (before : offset.toList < mismatch.path) : expected.cell? offset = actual.cell? offset := by
  obtain ⟨x, y, z⟩ := offset
  cases parts with
  | planes => exact absurd before (List.not_lt_nil _)
  | @rows i _ _ planes =>
      have inEarlier : x < i := by
        simpa [Axes.toList, Mismatch.path, List.cons_lt_cons_iff] using before
      exact cell?_eq_of_plane planes inEarlier
  | @cells i j _ _ _ _ planes rows =>
      have inEarlier : x < i ∨ x = i ∧ y < j := by
        simpa [Axes.toList, Mismatch.path, List.cons_lt_cons_iff] using before
      rcases inEarlier with earlierPlane | ⟨rfl, earlierRow⟩
      · exact cell?_eq_of_plane planes earlierPlane
      · exact cell?_eq_of_row planes rows earlierRow
  | @cell i j k _ _ _ _ _ _ planes rows cells =>
      have inEarlier : x < i ∨ x = i ∧ (y < j ∨ y = j ∧ z < k) := by
        simpa [Axes.toList, Mismatch.path, List.cons_lt_cons_iff] using before
      rcases inEarlier with earlierPlane | ⟨rfl, earlierRow | ⟨rfl, earlierCell⟩⟩
      · exact cell?_eq_of_plane planes earlierPlane
      · exact cell?_eq_of_row planes rows earlierRow
      · simp only [cell?, planes.expectedAt, planes.actualAt, rows.expectedAt, rows.actualAt,
          Option.bind_eq_bind, Option.bind_some, cells.same _ earlierCell]

variable [DecidableEq α]

theorem compareCells_eq_none_iff {offset : Axes Nat} {expected actual : Option α} :
    compareCells offset expected actual = none ↔ expected = actual := by
  unfold compareCells
  by_cases same : expected = actual
  · simp [same]
  · simp [same]

theorem compareCells_eq_some_iff {offset : Axes Nat} {expected actual : Option α}
    {mismatch : Mismatch α} :
    compareCells offset expected actual = some mismatch ↔
      expected ≠ actual ∧ mismatch = .cell offset expected actual := by
  unfold compareCells
  by_cases same : expected = actual
  · simp [same]
  · simp [same, eq_comm]

theorem compareRows_eq_none_iff {i j : Nat} {expected actual : List (Option α)} :
    compareLists [i, j] (fun k => compareCells ⟨i, j, k⟩) expected actual = none ↔
      expected = actual :=
  compareLists_eq_none_iff (fun _ _ _ => compareCells_eq_none_iff) [i, j]

theorem comparePlanes_eq_none_iff {i : Nat} {expected actual : List (List (Option α))} :
    compareLists [i] (fun j => compareLists [i, j] fun k => compareCells ⟨i, j, k⟩)
      expected actual = none ↔ expected = actual :=
  compareLists_eq_none_iff (fun _ _ _ => compareRows_eq_none_iff) [i]

theorem mismatch?_eq_none_iff {expected actual : Table α} :
    expected.mismatch? actual = none ↔ expected = actual :=
  compareLists_eq_none_iff (fun _ _ _ => comparePlanes_eq_none_iff) []

/-- The first difference is where the tables part. -/
theorem parts_of_mismatch {expected actual : Table α} {mismatch : Mismatch α}
    (found : expected.mismatch? actual = some mismatch) : Parts expected actual mismatch := by
  rcases exists_of_compareLists (fun _ _ _ => comparePlanes_eq_none_iff) found with
    ⟨rfl, differ⟩ | ⟨i, plane, otherPlane, planes, found⟩
  · exact .planes differ
  rcases exists_of_compareLists (fun _ _ _ => compareRows_eq_none_iff) found with
    ⟨rfl, differ⟩ | ⟨j, row, otherRow, rows, found⟩
  · exact .rows planes differ
  rcases exists_of_compareLists (fun _ _ _ => compareCells_eq_none_iff) found with
    ⟨rfl, differ⟩ | ⟨k, a, b, cells, found⟩
  · exact .cells planes rows differ
  obtain ⟨differ, rfl⟩ := compareCells_eq_some_iff.mp found
  exact .cell planes rows cells differ

end Table

end Gridwise
