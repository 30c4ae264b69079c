import Gridwise.Expr
import Gridwise.Generator.Stop
import Gridwise.Interval

/-!
# Fixed boxes and expressions

The fixed part of a suite: boxes in the middle and at both ends of the range of words,
expressions of every shape with constants near the limits, and the batches of a standard
random suite.
-/

namespace Gridwise

/-- A number of random expressions to be drawn with one stop schedule. -/
structure Batch where
  stop : StopSchedule
  count : Nat

namespace Fixtures

/-- The coordinates around zero. -/
def middle : Interval := ⟨⟨-5, 5⟩, by decide⟩

/-- The eleven least coordinates. -/
def bottom : Interval := ⟨⟨-2147483648, -2147483638⟩, by decide⟩

/-- The eleven greatest coordinates. -/
def top : Interval := ⟨⟨2147483637, 2147483647⟩, by decide⟩

/-- The fixed boxes, named by the initials of their intervals. -/
def boxes : List (String × Box) :=
  [("mmm", ⟨middle, middle, middle⟩),
   ("bbb", ⟨bottom, bottom, bottom⟩),
   ("ttt", ⟨top, top, top⟩),
   ("bmt", ⟨bottom, middle, top⟩),
   ("tbm", ⟨top, bottom, middle⟩),
   ("mtb", ⟨middle, top, bottom⟩)]

/-- The fixed expressions: constants, variables, negations and one operation each. -/
def samples : List Expr :=
  [.constant 0,
   .constant 145,
   .constant (-233),
   .constant 1100,
   .constant (-2048),
   .constant 2147483513,
   .constant (-2147483631),
   .constant 2147483647,
   .constant (-2147483648),
   .var "x",
   .var "y",
   .var "z",
   .unary "-" (.var "x"),
   .unary "-" (.constant 7),
   .unary "-" (.constant (-2147483648)),
   .binary "+" (.var "z") (.constant 123),
   .binary "-" (.var "y") (.var "z"),
   .binary "*" (.var "y") (.constant (-51966)),
   .binary "/" (.var "x") (.var "x"),
   .binary "/" (.constant 2147483644) (.var "y")]

/-- The standard random batches: mostly shallow trees and some very deep ones. -/
def schedule : List Batch :=
  [⟨.linear 5, 200⟩, ⟨.harmonic, 40⟩, ⟨.linear 20, 10⟩, ⟨.quartic 15, 20⟩]

end Fixtures

end Gridwise
