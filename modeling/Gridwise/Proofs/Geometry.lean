import Gridwise.Proofs.Pointwise

/-!
# The geometry of intervals and boxes

Lengths and coordinates are exact up to the limits of words: an interval is gone through by adding
one to a word until the upper bound is met, also if that is the largest word, and this gives as many
coordinates as the length says. The number of points of a box is cut off at the largest count once,
although it is cut off at every step. The coordinates of a cell are its offsets from the lower
bounds. They are words of twice the width for all offsets, unless the lower bound is above zero and
the offset near the largest such word.
-/

namespace Gridwise

namespace Word

/-- Below the largest word one can step up without wrapping around. -/
theorem toInt_add_one {lo hi : Int32} (below : lo < hi) : (lo + 1).toInt = lo.toInt + 1 := by
  have lowest := toInt_fits lo
  have highest := toInt_fits hi
  have apart := Int32.lt_iff_toInt_lt.mp below
  unfold Fits at lowest highest
  have asInteger : lo + 1 = Int32.ofInt (lo.toInt + 1) := by
    rw [Int32.ofInt_add, Int32.ofInt_toInt]
    rfl
  rw [asInteger]
  apply toInt_ofInt
  unfold Fits
  omega

theorem wideOfInt?_eq_some_iff {n : Int} {word : Int64} :
    wideOfInt? n = some word ↔ word.toInt = n := by
  unfold wideOfInt?
  constructor
  · intro found
    split at found
    · next fits =>
        cases found
        exact Int64.toInt_ofInt_of_le fits.1 (Int.lt_add_one_of_le fits.2)
    · cases found
  · rintro rfl
    rw [if_pos ⟨word.le_toInt, Int.le_of_lt_add_one word.toInt_lt⟩, Int64.ofInt_toInt]

/-- An integer is the value of some wide word exactly if it lies between the limits of these. -/
theorem exists_toInt_eq_iff {n : Int} :
    (∃ word : Int64, word.toInt = n) ↔ -9223372036854775808 ≤ n ∧ n ≤ 9223372036854775807 := by
  constructor
  · rintro ⟨word, rfl⟩
    exact ⟨word.le_toInt, Int.le_of_lt_add_one word.toInt_lt⟩
  · intro ⟨above, below⟩
    exact ⟨Int64.ofInt n, Int64.toInt_ofInt_of_le above (Int.lt_add_one_of_le below)⟩

end Word

namespace Bounds

variable {bounds : Bounds} {left rest : Option Bounds} {walked other : List Int32}

/-- One step of a walk: the coordinate that is next and what is left behind it. Behind the upper
    bound nothing is left, so that no word above it is needed. -/
def next? : Option Bounds → Option (Int32 × Option Bounds)
  | none => none
  | some bounds =>
      if bounds.lo < bounds.hi then some (bounds.lo, some ⟨bounds.lo + 1, bounds.hi⟩)
      else if bounds.lo = bounds.hi then some (bounds.lo, none)
      else none

/-- The coordinates that are met step by step until nothing is left. -/
inductive Walks : Option Bounds → List Int32 → Prop where
  | ended {left : Option Bounds} : next? left = none → Walks left []
  | step {left rest : Option Bounds} {coordinate : Int32} {walked : List Int32} :
      next? left = some (coordinate, rest) → Walks rest walked → Walks left (coordinate :: walked)

theorem Walks.unique (walks : Walks left walked) (again : Walks left other) : walked = other := by
  induction walks generalizing other with
  | ended none =>
      cases again with
      | ended => rfl
      | step found => cases none.symm.trans found
  | step found _ ih =>
      cases again with
      | ended none => cases found.symm.trans none
      | step foundAgain rest =>
          cases found.symm.trans foundAgain
          rw [ih rest]

theorem next?_of_lt (below : bounds.lo < bounds.hi) :
    next? (some bounds) = some (bounds.lo, some ⟨bounds.lo + 1, bounds.hi⟩) :=
  if_pos below

theorem next?_of_eq (single : bounds.lo = bounds.hi) :
    next? (some bounds) = some (bounds.lo, none) := by
  have notBelow : ¬ bounds.lo < bounds.hi := by
    rw [single]
    exact Int32.lt_irrefl
  rw [next?, if_neg notBelow, if_pos single]

theorem next?_of_gt (reversed : bounds.hi < bounds.lo) : next? (some bounds) = none := by
  rw [next?, if_neg (Int32.lt_asymm reversed), if_neg (Int32.ne_of_lt reversed).symm]

theorem length_eq_zero_iff : bounds.length = 0 ↔ bounds.hi < bounds.lo := by
  rw [Int32.lt_iff_toInt_lt]
  unfold length
  omega

theorem length_of_lt (below : bounds.lo < bounds.hi) :
    bounds.length = (Bounds.mk (bounds.lo + 1) bounds.hi).length + 1 := by
  have apart := Int32.lt_iff_toInt_lt.mp below
  simp only [length, Word.toInt_add_one below]
  omega

theorem coordinates_of_lt (below : bounds.lo < bounds.hi) :
    bounds.coordinates = bounds.lo :: (Bounds.mk (bounds.lo + 1) bounds.hi).coordinates := by
  have stepped (index : Nat) : bounds.coordinateAt (index + 1) =
      (Bounds.mk (bounds.lo + 1) bounds.hi).coordinateAt index := by
    unfold coordinateAt
    rw [Word.toInt_add_one below]
    congr 1
    omega
  have first : bounds.coordinateAt 0 = bounds.lo := by
    simp [coordinateAt]
  unfold coordinates firstCoordinates
  rw [Nat.min_self, Nat.min_self, length_of_lt below, List.range_succ_eq_map, List.map_cons,
    List.map_map, first]
  congr 1
  exact List.map_congr_left fun index _ => stepped index

theorem coordinates_eq_nil (reversed : bounds.length = 0) : bounds.coordinates = [] :=
  List.eq_nil_of_length_eq_zero (bounds.length_coordinates.trans reversed)

theorem coordinates_of_eq (single : bounds.lo = bounds.hi) : bounds.coordinates = [bounds.lo] := by
  have one : bounds.length = 1 := by
    unfold length
    rw [single]
    omega
  simp [coordinates, firstCoordinates, one, coordinateAt]

/-- Walking meets all coordinates between the bounds; the induction is on how many there are. -/
theorem walks_coordinates (bounds : Bounds) : Walks (some bounds) bounds.coordinates := by
  induction count : bounds.length generalizing bounds with
  | zero =>
      have reversed := length_eq_zero_iff.mp count
      rw [coordinates_eq_nil count]
      exact .ended (next?_of_gt reversed)
  | succ count ih =>
      have ordered : bounds.lo ≤ bounds.hi := by
        rw [← Int32.not_lt, ← length_eq_zero_iff]
        omega
      rcases Int32.lt_or_eq_of_le ordered with below | single
      · have oneMore := length_of_lt below
        rw [coordinates_of_lt below]
        exact .step (next?_of_lt below) (ih _ (by omega))
      · rw [coordinates_of_eq single]
        exact .step (next?_of_eq single) (.ended rfl)

theorem walks_iff : Walks (some bounds) walked ↔ walked = bounds.coordinates := by
  constructor
  · exact fun walks => walks.unique bounds.walks_coordinates
  · rintro rfl
    exact bounds.walks_coordinates

theorem ascending_coordinates (bounds : Bounds) : bounds.coordinates.Pairwise (· < ·) := by
  rw [List.pairwise_iff_getElem]
  intro i j inFirst inSecond before
  have atFirst := (getElem?_coordinates_eq_some_iff.mp (List.getElem?_eq_getElem inFirst)).2
  have atSecond := (getElem?_coordinates_eq_some_iff.mp (List.getElem?_eq_getElem inSecond)).2
  rw [Int32.lt_iff_toInt_lt]
  omega

end Bounds

/-- The length of the interval is exact and its coordinates are those between its bounds, each of
    which is met once when one goes through them upwards. -/
structure Interval.Exact (interval : Interval) : Prop where
  ordered : interval.lo ≤ interval.hi
  length_eq : (interval.length : Int) = interval.hi.toInt - interval.lo.toInt + 1
  limits : 1 ≤ interval.length ∧ interval.length ≤ 4294967296
  walks : ∀ walked,
    Bounds.Walks (some interval.toBounds) walked ↔ walked = interval.coordinates
  count : interval.coordinates.length = interval.length
  ascending : interval.coordinates.Pairwise (· < ·)
  members : ∀ coordinate,
    coordinate ∈ interval.coordinates ↔ interval.lo ≤ coordinate ∧ coordinate ≤ interval.hi
  last : interval.coordinates.getLast? = some interval.hi

namespace Interval

variable {bounds : Bounds} {interval : Interval}

theorem ofBounds_eq_ok_iff : ofBounds bounds = .ok interval ↔ interval.toBounds = bounds := by
  unfold ofBounds
  constructor
  · intro made
    split at made
    · cases made
      rfl
    · cases made
  · rintro rfl
    exact dif_pos interval.lo_le_hi

theorem exists_ofBounds_iff :
    (∃ interval, ofBounds bounds = .ok interval) ↔ bounds.lo ≤ bounds.hi := by
  simp only [ofBounds_eq_ok_iff]
  constructor
  · rintro ⟨interval, rfl⟩
    exact interval.lo_le_hi
  · exact fun ordered => ⟨⟨bounds, ordered⟩, rfl⟩

theorem getLast?_coordinates (interval : Interval) :
    interval.coordinates.getLast? = some interval.hi := by
  have length := interval.length_eq
  have positive := interval.length_pos
  rw [List.getLast?_eq_getElem?, Bounds.length_coordinates,
    Bounds.getElem?_coordinates_eq_some_iff]
  refine ⟨Int32.le_refl _, ?_⟩
  omega

theorem exact (interval : Interval) : interval.Exact where
  ordered := interval.lo_le_hi
  length_eq := interval.length_eq
  limits := by
    have lowest := Word.toInt_fits interval.lo
    have highest := Word.toInt_fits interval.hi
    have length := interval.length_eq
    have positive := interval.length_pos
    unfold Word.Fits Word.least Word.greatest at lowest highest
    omega
  walks _ := Bounds.walks_iff
  count := interval.length_coordinates
  ascending := interval.ascending_coordinates
  members _ := Bounds.mem_coordinates_iff
  last := interval.getLast?_coordinates

end Interval

namespace Box

variable {box : Box} {offset : Axes Nat} {words : Axes Int64} {a b c : Nat}

/-- A product that was cut off stays so under further factors that are not zero. -/
theorem saturatingMul_saturatingMul (positive : 0 < c) :
    saturatingMul (saturatingMul a b) c = min (a * b * c) greatestCount := by
  unfold saturatingMul
  rcases Nat.le_total (a * b) greatestCount with inside | beyond
  · rw [Nat.min_eq_left inside]
  · have beyondAgain : greatestCount ≤ greatestCount * c := Nat.le_mul_of_pos_right _ positive
    have beyondAll : greatestCount * c ≤ a * b * c := Nat.mul_le_mul_right c beyond
    rw [Nat.min_eq_right beyond, Nat.min_eq_right beyondAgain,
      Nat.min_eq_right (beyondAgain.trans beyondAll)]

theorem cells_eq_min (box : Box) :
    box.cells = min (box.x.length * box.y.length * box.z.length) greatestCount :=
  saturatingMul_saturatingMul box.z.length_pos

theorem get_coordinate (box : Box) (offset : Axes Nat) (axis : Axis) :
    (box.coordinate offset).get axis =
      (box.get axis).lo.toInt + (min (offset.get axis) greatestOffset : Nat) := by
  cases axis <;> rfl

theorem coordinate?_eq_some_iff :
    box.coordinate? offset = some words ↔
      ∀ axis, (words.get axis).toInt = (box.coordinate offset).get axis := by
  obtain ⟨x, y, z⟩ := words
  simp only [forall_axis_iff, Axes.get, ← Word.wideOfInt?_eq_some_iff]
  unfold coordinate?
  simp only [Option.bind_eq_bind, Option.bind_eq_some_iff, Option.pure_def, Option.some.injEq,
    Axes.mk.injEq]
  constructor
  · rintro ⟨_, foundX, _, foundY, _, foundZ, rfl, rfl, rfl⟩
    exact ⟨foundX, foundY, foundZ⟩
  · rintro ⟨foundX, foundY, foundZ⟩
    exact ⟨_, foundX, _, foundY, _, foundZ, rfl, rfl, rfl⟩

/-- Nothing is lost at the lower limit, since lower bounds are far above it. -/
theorem exists_coordinate?_iff :
    (∃ words, box.coordinate? offset = some words) ↔
      ∀ axis, (box.coordinate offset).get axis ≤ 9223372036854775807 := by
  simp only [coordinate?_eq_some_iff]
  constructor
  · rintro ⟨words, same⟩ axis
    exact (Word.exists_toInt_eq_iff.mp ⟨_, same axis⟩).2
  · intro below
    have found (axis : Axis) : ∃ word : Int64, word.toInt = (box.coordinate offset).get axis := by
      refine Word.exists_toInt_eq_iff.mpr ⟨?_, below axis⟩
      have lowest := (Word.toInt_fits (box.get axis).lo).1
      unfold Word.least at lowest
      rw [get_coordinate]
      omega
    obtain ⟨x, atX⟩ := found .x
    obtain ⟨y, atY⟩ := found .y
    obtain ⟨z, atZ⟩ := found .z
    exact ⟨⟨x, y, z⟩, forall_axis_iff.mpr ⟨atX, atY, atZ⟩⟩

/-- The cell of a point of the box is where the point is: these offsets are not cut off, and the
    coordinates are even 32-bit words. -/
theorem coordinate?_eq_of_at {point : Axes Int32} (located : box.At offset point) :
    box.coordinate? offset = some (point.map Int32.toInt64) := by
  refine coordinate?_eq_some_iff.mpr fun axis => ?_
  have apart := (located axis).2
  have lowest := (Word.toInt_fits (box.get axis).lo).1
  have highest := (Word.toInt_fits (point.get axis)).2
  unfold Word.least at lowest
  unfold Word.greatest at highest
  have uncut : min (offset.get axis) greatestOffset = offset.get axis := by
    unfold greatestOffset
    omega
  rw [Axes.get_map, Int32.toInt_toInt64, get_coordinate, uncut, apart]

/-- Intervals and numbers of points are exact. The coordinates of a cell are the wide words with the
    exact values if none of these is above the largest such word, and else there are no such words.
    They are there for all points of the box. -/
theorem geometry_exact (bounds : Bounds) (lo : Int32) (span : Nat) (box : Box)
    (offset : Axes Nat) :
    ((∃ interval, Interval.ofBounds bounds = .ok interval) ↔ bounds.lo ≤ bounds.hi) ∧
    (∀ interval, Interval.ofBounds bounds = .ok interval →
      interval.toBounds = bounds ∧ interval.Exact) ∧
    ((Interval.spanning lo span).lo = lo ∧
      (Interval.spanning lo span).hi.toInt = min (lo.toInt + span) 2147483647 ∧
      (Interval.spanning lo span).Exact) ∧
    box.cells = min (box.x.length * box.y.length * box.z.length) 18446744073709551615 ∧
    (∀ axis, (box.coordinate offset).get axis =
      (box.get axis).lo.toInt + (min (offset.get axis) 9223372036854775807 : Nat)) ∧
    (∀ words, box.coordinate? offset = some words ↔
      ∀ axis, (words.get axis).toInt = (box.coordinate offset).get axis) ∧
    ((∃ words, box.coordinate? offset = some words) ↔
      ∀ axis, (box.coordinate offset).get axis ≤ 9223372036854775807) ∧
    ∀ point, box.At offset point → box.coordinate? offset = some (point.map Int32.toInt64) := by
  refine ⟨Interval.exists_ofBounds_iff, ?_, ?_, box.cells_eq_min, box.get_coordinate offset,
    fun _ => coordinate?_eq_some_iff, exists_coordinate?_iff, fun _ => coordinate?_eq_of_at⟩
  · intro interval made
    exact ⟨Interval.ofBounds_eq_ok_iff.mp made, interval.exact⟩
  · exact ⟨rfl, Word.toInt_saturatingAdd lo span, Interval.exact _⟩

/-- The interval that ends at the largest word, and the last point of a box of such intervals. -/
theorem geometry_exact_up_to_greatest :
    let interval : Interval := ⟨⟨2147483637, 2147483647⟩, by decide⟩
    let box : Box := Axes.same interval
    Interval.ofBounds ⟨2147483637, 2147483647⟩ = .ok interval ∧ interval.Exact ∧
      interval.length = 11 ∧ (Interval.spanning 2147483637 4294967295).Exact ∧
      box.cells = 1331 ∧
      box.At ⟨10, 10, 10⟩ ⟨2147483647, 2147483647, 2147483647⟩ ∧
      box.coordinate? ⟨10, 10, 10⟩ = some ⟨2147483647, 2147483647, 2147483647⟩ := by
  intro interval box
  have made : Interval.ofBounds ⟨2147483637, 2147483647⟩ = .ok interval := rfl
  have located : box.At ⟨10, 10, 10⟩ ⟨2147483647, 2147483647, 2147483647⟩ := by decide
  obtain ⟨_, exactly, ⟨_, _, spanned⟩, _, _, _, _, atPoint⟩ :=
    geometry_exact ⟨2147483637, 2147483647⟩ 2147483637 4294967295 box ⟨10, 10, 10⟩
  obtain ⟨_, exact⟩ := exactly interval made
  exact ⟨made, exact, by decide, spanned, by decide, located, atPoint _ located⟩

/-- A lower bound above zero and the largest offset: the sum is no wide word. -/
theorem coordinate_above_greatest_wide :
    let box : Box := ⟨⟨⟨1, 1⟩, by decide⟩, ⟨⟨0, 0⟩, by decide⟩, ⟨⟨0, 0⟩, by decide⟩⟩
    let offset : Axes Nat := ⟨9223372036854775807, 0, 0⟩
    (box.coordinate offset).x = 9223372036854775808 ∧ box.coordinate? offset = none := by
  decide

end Box

end Gridwise
