import Gridwise.Axes
import Gridwise.Decimal
import Gridwise.Word

/-!
# Intervals and boxes

A pair of bounds may be reversed, and then no coordinate lies between them. An interval is
a pair that is not, so it holds at least one coordinate. A box has an interval for each
axis. Lengths are exact, up to the whole range of words; the number of cells in a box stops
at the largest 64-bit count.
-/

namespace Gridwise

/-- Two bounds, both included, in either order. -/
structure Bounds where
  lo : Int32
  hi : Int32
  deriving DecidableEq

namespace Bounds

/-- The number of coordinates between the bounds. -/
def length (bounds : Bounds) : Nat := (bounds.hi.toInt - bounds.lo.toInt + 1).toNat

/-- The coordinate at an offset from the lower bound. -/
def coordinateAt (bounds : Bounds) (offset : Nat) : Int32 :=
  Int32.ofInt (bounds.lo.toInt + offset)

/-- At most so many coordinates, ascending from the lower bound. -/
def firstCoordinates (bounds : Bounds) (count : Nat) : List Int32 :=
  (List.range (min count bounds.length)).map bounds.coordinateAt

/-- At most so many coordinates, descending from the upper bound. -/
def lastCoordinates (bounds : Bounds) (count : Nat) : List Int32 :=
  (List.range (min count bounds.length)).map fun offset =>
    bounds.coordinateAt (bounds.length - 1 - offset)

/-- All coordinates between the bounds, ascending. -/
def coordinates (bounds : Bounds) : List Int32 := bounds.firstCoordinates bounds.length

/-- Goes on with a computation at so many coordinates from an offset on, given the results
    so far, latest first. -/
def collectFrom (bounds : Bounds) (f : Int32 → Except ε β) :
    (remaining offset : Nat) → (done : List β) → Except ε (List β)
  | 0, _, done => .ok done.reverse
  | remaining + 1, offset, done =>
      match f (bounds.coordinateAt offset) with
      | .ok b => collectFrom bounds f remaining (offset + 1) (b :: done)
      | .error e => .error e

/-- The results of a computation at all coordinates, ascending. It goes from one coordinate
    to the next and ends at the first error, however far the bounds lie apart. -/
def collect (bounds : Bounds) (f : Int32 → Except ε β) : Except ε (List β) :=
  bounds.collectFrom f bounds.length 0 []

/-- The bounds in brackets. -/
def text (bounds : Bounds) : String :=
  "[" ++ Decimal.text bounds.lo.toInt ++ ", " ++ Decimal.text bounds.hi.toInt ++ "]"

theorem length_coordinates (bounds : Bounds) : bounds.coordinates.length = bounds.length := by
  simp [coordinates, firstCoordinates]

theorem collectFrom_eq_mapM (bounds : Bounds) (f : Int32 → Except ε β)
    (remaining offset : Nat) (done : List β) :
    bounds.collectFrom f remaining offset done =
      (((List.range' offset remaining).map bounds.coordinateAt).mapM f).map (done.reverse ++ ·) := by
  induction remaining generalizing offset done with
  | zero => simp [collectFrom, Except.map, pure, Except.pure]
  | succ remaining ih =>
      simp only [collectFrom, List.range'_succ, List.map_cons, List.mapM_cons]
      cases f (bounds.coordinateAt offset) with
      | error e => rfl
      | ok b =>
          simp only [ih, bind, Except.bind]
          cases ((List.range' (offset + 1) remaining).map bounds.coordinateAt).mapM f with
          | error e => rfl
          | ok rest => simp [Except.map, pure, Except.pure]

theorem collect_eq_mapM (bounds : Bounds) (f : Int32 → Except ε β) :
    bounds.collect f = bounds.coordinates.mapM f := by
  rw [collect, collectFrom_eq_mapM, coordinates, firstCoordinates, Nat.min_self,
    List.range_eq_range']
  cases ((List.range' 0 bounds.length).map bounds.coordinateAt).mapM f <;> rfl

end Bounds

/-- Bounds that are not reversed. -/
structure Interval extends Bounds where
  lo_le_hi : lo ≤ hi
  deriving DecidableEq

/-- The first bound of a requested interval is above the second. -/
structure ReversedBounds where
  bounds : Bounds
  deriving DecidableEq

/-- The wording of the error for reversed bounds. -/
def ReversedBounds.message (error : ReversedBounds) : String :=
  "from [" ++ Decimal.text error.bounds.lo.toInt ++ "] is greater than to [" ++
    Decimal.text error.bounds.hi.toInt ++ "]"

namespace Interval

/-- The interval between two bounds. -/
def ofBounds (bounds : Bounds) : Except ReversedBounds Interval :=
  if ordered : bounds.lo ≤ bounds.hi then .ok ⟨bounds, ordered⟩ else .error ⟨bounds⟩

/-- The interval that begins at a coordinate and goes on for a number of further ones, cut
    short at the largest word. -/
def spanning (lo : Int32) (span : Nat) : Interval :=
  ⟨⟨lo, Word.saturatingAdd lo span⟩, Word.le_saturatingAdd lo span⟩

theorem toInt_lo_le_hi (interval : Interval) : interval.lo.toInt ≤ interval.hi.toInt :=
  Int32.le_iff_toInt_le.mp interval.lo_le_hi

theorem length_eq (interval : Interval) :
    (interval.length : Int) = interval.hi.toInt - interval.lo.toInt + 1 := by
  have ordered := interval.toInt_lo_le_hi
  unfold Bounds.length
  omega

theorem length_pos (interval : Interval) : 0 < interval.length := by
  have ordered := interval.toInt_lo_le_hi
  unfold Bounds.length
  omega

end Interval

/-- An interval for each axis. -/
abbrev Box := Axes Interval

namespace Box

/-- The box between three pairs of bounds; the first reversed pair is an error. -/
def ofBounds (bounds : Axes Bounds) : Except ReversedBounds Box := do
  let x ← Interval.ofBounds bounds.x
  let y ← Interval.ofBounds bounds.y
  let z ← Interval.ofBounds bounds.z
  return ⟨x, y, z⟩

/-- The bounds of a box. -/
def bounds (box : Box) : Axes Bounds := box.map Interval.toBounds

/-- The lengths along the axes. -/
def shape (box : Box) : Axes Nat := box.map fun interval => interval.length

/-- The largest 64-bit count. -/
def greatestCount : Nat := 18446744073709551615

/-- A product that stops at the largest 64-bit count. -/
def saturatingMul (a b : Nat) : Nat := min (a * b) greatestCount

/-- The number of points in a box, stopping at the largest 64-bit count. -/
def cells (box : Box) : Nat :=
  saturatingMul (saturatingMul box.shape.x box.shape.y) box.shape.z

/-- The largest offset that is told apart from larger ones. -/
def greatestOffset : Nat := 9223372036854775807

/-- The coordinates of the cell at given offsets, whether or not it lies in the box. -/
def coordinate (box : Box) (offset : Axes Nat) : Axes Int :=
  ⟨box.x.lo.toInt + min offset.x greatestOffset,
   box.y.lo.toInt + min offset.y greatestOffset,
   box.z.lo.toInt + min offset.z greatestOffset⟩

/-- The coordinates of the cell at given offsets as 64-bit words, if they are such words. -/
def coordinate? (box : Box) (offset : Axes Nat) : Option (Axes Int64) := do
  let point := box.coordinate offset
  return ⟨← Word.wideOfInt? point.x, ← Word.wideOfInt? point.y, ← Word.wideOfInt? point.z⟩

/-- The intervals of a box by axis. -/
def text (box : Box) : String :=
  "x in " ++ box.x.text ++ ", y in " ++ box.y.text ++ ", z in " ++ box.z.text

end Box

end Gridwise
