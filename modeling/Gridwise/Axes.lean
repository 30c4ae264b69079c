/-!
# One thing for each axis

Points, boxes, shapes and offsets all hold one entry for each of the axes `x`, `y` and
`z`. Expressions name the axes by their letters; there are no other variables.
-/

namespace Gridwise

/-- One of the three axes. -/
inductive Axis where
  | x
  | y
  | z
  deriving DecidableEq

/-- The axis that a variable names, if it names one. -/
def Axis.ofName? (name : String) : Option Axis :=
  if name = "x" then some .x
  else if name = "y" then some .y
  else if name = "z" then some .z
  else none

/-- An entry for each axis. -/
structure Axes (α : Type) where
  x : α
  y : α
  z : α
  deriving DecidableEq

namespace Axes

/-- The entry of one axis. -/
def get (axes : Axes α) : Axis → α
  | .x => axes.x
  | .y => axes.y
  | .z => axes.z

/-- Transforms every entry. -/
def map (f : α → β) (axes : Axes α) : Axes β := ⟨f axes.x, f axes.y, f axes.z⟩

/-- Replaces the entry of one axis. -/
def set (axes : Axes α) : Axis → α → Axes α
  | .x, a => { axes with x := a }
  | .y, a => { axes with y := a }
  | .z, a => { axes with z := a }

/-- The same entry on every axis. -/
def same (a : α) : Axes α := ⟨a, a, a⟩

theorem get_map (f : α → β) (axes : Axes α) (axis : Axis) :
    (axes.map f).get axis = f (axes.get axis) := by
  cases axis <;> rfl

end Axes

end Gridwise
