import Gridwise.Proofs.Comparison

/-!
# The least difference

Two tables may differ in many places. The index paths of these places are ordered by the first index
in which they differ, and a path comes before all paths that go on from it. The comparison finds the
difference at the least of them, whatever the shapes of the tables, and an exchange of the tables
exchanges the two sides of what it finds.
-/

namespace Gridwise

namespace Table

variable {α β γ : Type} {path : List Nat} {mismatch other : Mismatch α}

/-- What is found is a difference, and no difference lies at an earlier path. If nothing is found,
    there is no difference. -/
def FindsLeast (differ : Mismatch α → Prop) : Option (Mismatch α) → Prop
  | none => ∀ other, ¬ differ other
  | some found => differ found ∧ ∀ other, differ other → ¬ other.path < found.path

/-- A comparison of elements by their indices in two lists finds the least of their differences. The
    lists stand at an index path, and the differences of two elements lie below it. -/
structure Compares (path : List Nat) (compare : Nat → β → β → Option (Mismatch α))
    (differ : Nat → β → β → Mismatch α → Prop) : Prop where
  exact : ∀ index a b, compare index a b = none ↔ a = b
  finds : ∀ index a b, FindsLeast (differ index a b) (compare index a b)
  below : ∀ index a b mismatch, differ index a b mismatch → path ++ [index] <+: mismatch.path

/-- The differences of two lists at an index path: that of their lengths, and those of any two
    elements at the same index. -/
inductive ListsDiffer (path : List Nat) (differ : Nat → β → β → Mismatch α → Prop)
    (expected actual : List β) : Mismatch α → Prop where
  | lengths :
      expected.length ≠ actual.length →
      ListsDiffer path differ expected actual (.shape path expected.length actual.length)
  | elements {index : Nat} {a b : β} {mismatch : Mismatch α} :
      expected[index]? = some a → actual[index]? = some b → differ index a b mismatch →
      ListsDiffer path differ expected actual mismatch

theorem lt_of_continued {first second : List Nat} {i j : Nat} (before : i < j)
    (continuesFirst : path ++ [i] <+: first) (continuesSecond : path ++ [j] <+: second) :
    first < second := by
  obtain ⟨restFirst, rfl⟩ := continuesFirst
  obtain ⟨restSecond, rfl⟩ := continuesSecond
  rw [List.append_assoc, List.append_assoc]
  exact List.append_left_lt (List.cons_lt_cons_iff.mpr (.inl before))

namespace Compares

variable {compare : Nat → β → β → Option (Mismatch α)} {differ : Nat → β → β → Mismatch α → Prop}
  {expected actual : List β} {index : Nat} {a b : β}

theorem ne_of_differ (compares : Compares path compare differ)
    (differs : differ index a b mismatch) : a ≠ b := by
  intro same
  have nothing := compares.finds index a b
  rw [(compares.exact index a b).mpr same] at nothing
  exact nothing mismatch differs

theorem prefix_path (compares : Compares path compare differ)
    (differs : ListsDiffer path differ expected actual mismatch) : path <+: mismatch.path := by
  cases differs with
  | lengths => exact List.prefix_refl path
  | elements _ _ differs => exact (List.prefix_append path _).trans (compares.below _ _ _ _ differs)

theorem not_listsDiffer_self (compares : Compares path compare differ) (items : List β) :
    ¬ ListsDiffer path differ items items mismatch := by
  intro differs
  cases differs with
  | lengths differ => exact differ rfl
  | elements atFirst atSecond differs =>
      obtain rfl := Option.some.inj (atFirst.symm.trans atSecond)
      exact compares.ne_of_differ differs rfl

/-- The least difference of the first elements that are not the same is the least of all. -/
theorem not_lt_of_sameBefore (compares : Compares path compare differ)
    (before : SameBefore expected actual index a b)
    (compared : compare index a b = some mismatch) {otherIndex : Nat} {c d : β}
    (atFirst : expected[otherIndex]? = some c) (atSecond : actual[otherIndex]? = some d)
    (differs : differ otherIndex c d other) : ¬ other.path < mismatch.path := by
  have least := compares.finds index a b
  rw [compared] at least
  -- Earlier elements do not differ, and the differences of later ones have later paths.
  rcases Nat.lt_trichotomy otherIndex index with earlier | rfl | later
  · rw [before.same otherIndex earlier, atSecond] at atFirst
    exact absurd (Option.some.inj atFirst).symm (compares.ne_of_differ differs)
  · obtain rfl := Option.some.inj (atFirst.symm.trans before.expectedAt)
    obtain rfl := Option.some.inj (atSecond.symm.trans before.actualAt)
    exact least.2 other differs
  · exact List.lt_asymm
      (lt_of_continued later (compares.below _ _ _ _ least.1) (compares.below _ _ _ _ differs))

theorem findsLeast (compares : Compares path compare differ) (expected actual : List β) :
    FindsLeast (ListsDiffer path differ expected actual)
      (compareLists path compare expected actual) := by
  unfold compareLists
  by_cases sameLength : expected.length = actual.length
  · rw [if_pos sameLength]
    cases found : firstDifference compare 0 expected actual with
    | none =>
        obtain rfl := (firstDifference_eq_none_iff compares.exact 0 sameLength).mp found
        intro other
        exact compares.not_listsDiffer_self expected
    | some mismatch =>
        obtain ⟨index, a, b, before, compared⟩ := exists_of_firstDifference compares.exact found
        rw [Nat.zero_add] at compared
        have least := compares.finds index a b
        rw [compared] at least
        refine ⟨.elements before.expectedAt before.actualAt least.1, ?_⟩
        intro other differs
        cases differs with
        | lengths differ => exact absurd sameLength differ
        | elements atFirst atSecond differs =>
            exact compares.not_lt_of_sameBefore before compared atFirst atSecond differs
  · rw [if_neg sameLength]
    refine ⟨.lengths sameLength, ?_⟩
    intro other differs
    exact (compares.prefix_path differs).le

/-- If the elements at every index are lists whose own elements are compared in this way, so are
    they. -/
theorem lists {compare : Nat → Nat → β → β → Option (Mismatch α)}
    {differ : Nat → Nat → β → β → Mismatch α → Prop}
    (compares : ∀ index, Compares (path ++ [index]) (compare index) (differ index)) :
    Compares path (fun index => compareLists (path ++ [index]) (compare index))
      (fun index => ListsDiffer (path ++ [index]) (differ index)) := by
  refine ⟨?_, ?_, ?_⟩
  · intro index a b
    exact compareLists_eq_none_iff (compares index).exact _
  · intro index
    exact (compares index).findsLeast
  · intro index a b mismatch differs
    exact (compares index).prefix_path differs

end Compares

theorem firstDifference_map_swap {compare : Nat → β → β → Option γ} {swap : γ → γ}
    (swaps : ∀ index a b, compare index b a = (compare index a b).map swap) (start : Nat)
    (expected actual : List β) :
    firstDifference compare start actual expected =
      (firstDifference compare start expected actual).map swap := by
  induction expected generalizing actual start with
  | nil =>
      cases actual with
      | nil => rfl
      | cons => rfl
  | cons a moreExpected ih =>
      cases actual with
      | nil => rfl
      | cons b moreActual =>
          rw [firstDifference, firstDifference, swaps start a b]
          cases compare start a b with
          | none => exact ih (start + 1) moreActual
          | some difference => rfl

theorem compareLists_map_swap {compare : Nat → β → β → Option (Mismatch α)}
    (swaps : ∀ index a b, compare index b a = (compare index a b).map Mismatch.swap)
    (expected actual : List β) :
    compareLists path compare actual expected =
      (compareLists path compare expected actual).map Mismatch.swap := by
  unfold compareLists
  by_cases sameLength : expected.length = actual.length
  · rw [if_pos sameLength, if_pos sameLength.symm]
    exact firstDifference_map_swap swaps 0 expected actual
  · rw [if_neg sameLength, if_neg (Ne.symm sameLength)]
    rfl

section Differences

variable {expected actual : Table α}

/-- The differences of two cells. -/
def CellsDiffer (offset : Axes Nat) (a b : Option α) (mismatch : Mismatch α) : Prop :=
  a ≠ b ∧ mismatch = .cell offset a b

/-- The differences of two tables, level by level: of the tables, of planes, of rows in these and of
    cells in these. -/
def Differ (expected actual : Table α) : Mismatch α → Prop :=
  ListsDiffer [] (fun i => ListsDiffer [i] fun j => ListsDiffer [i, j] fun k =>
    CellsDiffer ⟨i, j, k⟩) expected actual

theorem Differ.of_separates (separates : expected.Separates actual mismatch) :
    expected.Differ actual mismatch := by
  cases mismatch with
  | cell offset a b =>
      obtain ⟨there, otherThere, differ⟩ := separates
      simp only [cell?, Option.bind_eq_bind, Option.bind_eq_some_iff] at there otherThere
      obtain ⟨plane, atPlane, row, atRow, atCell⟩ := there
      obtain ⟨otherPlane, atOtherPlane, otherRow, atOtherRow, atOtherCell⟩ := otherThere
      exact .elements atPlane atOtherPlane (.elements atRow atOtherRow
        (.elements atCell atOtherCell ⟨differ, rfl⟩))
  | shape path n m =>
      obtain ⟨there, otherThere, differ⟩ := separates
      rcases path with _ | ⟨i, _ | ⟨j, _ | ⟨k, deeper⟩⟩⟩
      · cases there
        cases otherThere
        exact .lengths differ
      · simp only [lengthAt?, Option.bind_eq_bind, Option.bind_eq_some_iff] at there otherThere
        obtain ⟨plane, atPlane, ⟨⟩⟩ := there
        obtain ⟨otherPlane, atOtherPlane, ⟨⟩⟩ := otherThere
        exact .elements atPlane atOtherPlane (.lengths differ)
      · simp only [lengthAt?, Option.bind_eq_bind, Option.bind_eq_some_iff] at there otherThere
        obtain ⟨plane, atPlane, row, atRow, ⟨⟩⟩ := there
        obtain ⟨otherPlane, atOtherPlane, otherRow, atOtherRow, ⟨⟩⟩ := otherThere
        exact .elements atPlane atOtherPlane (.elements atRow atOtherRow (.lengths differ))
      · cases there

theorem not_separates_self : ¬ expected.Separates expected mismatch := by
  intro separates
  cases mismatch with
  | shape path n m =>
      obtain ⟨there, again, differ⟩ := separates
      exact differ (Option.some.inj (there.symm.trans again))
  | cell offset a b =>
      obtain ⟨there, again, differ⟩ := separates
      exact differ (Option.some.inj (there.symm.trans again))

/-- Two tables differ in one way only at a path. -/
theorem Separates.unique (first : expected.Separates actual mismatch)
    (second : expected.Separates actual other) (same : mismatch.path = other.path) :
    mismatch = other := by
  cases mismatch with
  | shape path n m =>
      obtain ⟨there, otherThere, _⟩ := first
      cases other with
      | shape otherPath n' m' =>
          obtain ⟨again, otherAgain, _⟩ := second
          obtain rfl : path = otherPath := same
          obtain rfl := Option.some.inj (there.symm.trans again)
          obtain rfl := Option.some.inj (otherThere.symm.trans otherAgain)
          rfl
      | cell offset a b =>
          -- Three indices lead to a cell and never to a list.
          obtain rfl : path = offset.toList := same
          cases there
  | cell offset a b =>
      obtain ⟨there, otherThere, _⟩ := first
      cases other with
      | shape path n m =>
          obtain ⟨again, _⟩ := second
          obtain rfl : offset.toList = path := same
          cases again
      | cell otherOffset a' b' =>
          obtain ⟨again, otherAgain, _⟩ := second
          obtain ⟨x, y, z⟩ := offset
          obtain ⟨x', y', z'⟩ := otherOffset
          obtain ⟨rfl, rfl, rfl⟩ : x = x' ∧ y = y' ∧ z = z' := by
            simpa [Mismatch.path, Axes.toList] using same
          obtain rfl := Option.some.inj (there.symm.trans again)
          obtain rfl := Option.some.inj (otherThere.symm.trans otherAgain)
          rfl

variable [DecidableEq α]

theorem cells_compares (i j : Nat) :
    Compares (α := α) [i, j] (fun k => compareCells ⟨i, j, k⟩)
      (fun k => CellsDiffer ⟨i, j, k⟩) := by
  refine ⟨fun _ _ _ => compareCells_eq_none_iff, ?_, ?_⟩
  · intro k a b
    cases compared : compareCells ⟨i, j, k⟩ a b with
    | none =>
        intro other ⟨differ, _⟩
        exact differ (compareCells_eq_none_iff.mp compared)
    | some mismatch =>
        have differs := compareCells_eq_some_iff.mp compared
        refine ⟨differs, ?_⟩
        intro other ⟨_, same⟩
        rw [same, differs.2]
        exact List.lt_irrefl _
  · intro k a b mismatch ⟨_, same⟩
    rw [same]
    exact List.prefix_refl _

theorem not_lt_of_mismatch (found : expected.mismatch? actual = some mismatch)
    (differs : expected.Differ actual other) : ¬ other.path < mismatch.path := by
  have rows : ∀ i, Compares (α := α) [i] _ _ := fun i => .lists fun j => cells_compares i j
  have planes : Compares (α := α) [] _ _ := .lists fun i => rows i
  have least : FindsLeast (expected.Differ actual) (expected.mismatch? actual) :=
    planes.findsLeast expected actual
  rw [found] at least
  exact least.2 other differs

theorem mismatch?_map_swap (expected actual : Table α) :
    actual.mismatch? expected = (expected.mismatch? actual).map Mismatch.swap := by
  apply compareLists_map_swap
  intro i plane otherPlane
  apply compareLists_map_swap
  intro j row otherRow
  apply compareLists_map_swap
  intro k a b
  unfold compareCells
  by_cases same : a = b
  · simp [same]
  · simp [same, Ne.symm same, Mismatch.swap]

/-- A comparison finds nothing if and only if the tables are equal. What it finds is the difference
    at the least path of all, and the other way round the tables have the same one with its sides
    exchanged. -/
theorem mismatch_at_least_path (expected actual : Table α) :
    (expected.mismatch? actual = none ↔ expected = actual) ∧
    (∀ mismatch, expected.mismatch? actual = some mismatch ↔
      expected.Separates actual mismatch ∧
        ∀ other, expected.Separates actual other → ¬ other.path < mismatch.path) ∧
    actual.mismatch? expected = (expected.mismatch? actual).map Mismatch.swap := by
  refine ⟨mismatch?_eq_none_iff, ?_, mismatch?_map_swap expected actual⟩
  intro mismatch
  constructor
  · intro found
    exact ⟨(parts_of_mismatch found).separates,
      fun other separates => not_lt_of_mismatch found (.of_separates separates)⟩
  · intro ⟨separates, least⟩
    cases found : expected.mismatch? actual with
    | none =>
        obtain rfl := mismatch?_eq_none_iff.mp found
        exact absurd separates not_separates_self
    | some first =>
        have firstSeparates := (parts_of_mismatch found).separates
        -- Neither of the two is before the other, and at one path there is one difference.
        have notBefore := not_lt_of_mismatch found (.of_separates separates)
        have samePath : first.path = mismatch.path :=
          List.le_antisymm notBefore (least first firstSeparates)
        rw [firstSeparates.unique separates samePath]

/-- Paths are ordered in this way, and so a wrong cell is found before a wrong row in a later plane,
    but after a wrong number of planes. -/
example : ([] : List Nat) < [0] ∧ [0] < [0, 0] ∧ [0, 0] < [0, 0, 0] ∧ [0, 0, 0] < [0, 1] := by
  decide

example :
    let expected : Table Nat := [[[some 1]], [[some 2], [none]]]
    expected.mismatch? [[[none]], [[]]] = some (.cell ⟨0, 0, 0⟩ (some 1) none) ∧
      expected.mismatch? [[[none]]] = some (.shape [] 2 1) := by decide

end Differences

end Table

end Gridwise
