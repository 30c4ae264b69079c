/-!
# When generation stops

Whether a node of a random tree is a leaf is decided by its depth and a fraction drawn for
it: the node is a leaf if the fraction is below the schedule's probability at the depth.
From a probability of one on, stopping is certain.
-/

namespace Gridwise

/-- How the probability of a leaf grows with the depth. -/
inductive StopSchedule where
  /-- In proportion to the depth, up to certainty at the divisor. -/
  | linear (divisor : Float)
  /-- Quickly at first: trees stay shallow but are seldom a bare leaf. -/
  | harmonic
  /-- With the fourth power of the depth, up to certainty at the horizon. -/
  | quartic (horizon : Float)

namespace StopSchedule

/-- The fourth power of a number, as the square of its square. -/
def fourthPower (a : Float) : Float := (a * a) * (a * a)

/-- The probability of a leaf at a depth; above one it counts as one. -/
def probability (schedule : StopSchedule) (depth : Nat) : Float :=
  let d := Float.ofNat depth
  match schedule with
  | .linear divisor => d / divisor
  | .harmonic => ((-1.0) / (d + 1.0) + 1.0) + 0.1
  | .quartic horizon => fourthPower d / fourthPower horizon

/-- A fraction drawn at a depth makes the node a leaf. -/
def stops (schedule : StopSchedule) (depth : Nat) (fraction : Float) : Bool :=
  decide (fraction < schedule.probability depth)

end StopSchedule

end Gridwise
