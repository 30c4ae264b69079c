import Gridwise.Table

/-!
# The first difference of two tables

Tables are compared from the outside in and from front to back: the lengths of two lists
come before their elements, and an earlier element comes before a later one. The first
difference met this way is a pair of lengths at an index path of at most two indices, or
a pair of cells.
-/

namespace Gridwise

/-- Where two tables differ first, and how. -/
inductive Mismatch (α : Type) where
  /-- The lists at an index path have different lengths. -/
  | shape (path : List Nat) (expected actual : Nat)
  /-- The cells at some offsets differ. -/
  | cell (offset : Axes Nat) (expected actual : Option α)
  deriving DecidableEq

namespace Mismatch

/-- The mismatch with its two sides exchanged. -/
def swap : Mismatch α → Mismatch α
  | .shape path expected actual => .shape path actual expected
  | .cell offset expected actual => .cell offset actual expected

end Mismatch

namespace Table

/-- The first difference among the elements that two lists have in common, which are
    numbered from a given index. -/
def firstDifference (compare : Nat → β → β → Option γ) : Nat → List β → List β → Option γ
  | index, expected :: moreExpected, actual :: moreActual =>
      match compare index expected actual with
      | some difference => some difference
      | none => firstDifference compare (index + 1) moreExpected moreActual
  | _, _, _ => none

/-- The first difference of two lists at an index path: of their lengths, or else of their
    elements. -/
def compareLists (path : List Nat) (compare : Nat → β → β → Option (Mismatch α))
    (expected actual : List β) : Option (Mismatch α) :=
  if expected.length = actual.length then firstDifference compare 0 expected actual
  else some (.shape path expected.length actual.length)

/-- The difference of two cells. -/
def compareCells [DecidableEq α] (offset : Axes Nat) (expected actual : Option α) :
    Option (Mismatch α) :=
  if expected = actual then none else some (.cell offset expected actual)

/-- The first difference of two tables. -/
def mismatch? [DecidableEq α] (expected actual : Table α) : Option (Mismatch α) :=
  compareLists []
    (fun i => compareLists [i]
      fun j => compareLists [i, j]
        fun k => compareCells ⟨i, j, k⟩)
    expected actual

end Table

end Gridwise
