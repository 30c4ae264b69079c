import Gridwise.Mode.Standard

/-!
# Word arithmetic that traps

Operations on 32-bit words that fault where the exact result is no word, in place of
wrapping around, and the mode made of them.
-/

namespace Gridwise

namespace Word

/-- The word of an exact result, or the overflow fault. -/
def orOverflow (n : Int) : Except Fault Int32 :=
  match ofInt? n with
  | some word => .ok word
  | none => .error .overflow

/-- The exact opposite. -/
def checkedNeg (a : Int32) : Except Fault Int32 := orOverflow (-a.toInt)

/-- The exact sum. -/
def checkedAdd (a b : Int32) : Except Fault Int32 := orOverflow (a.toInt + b.toInt)

/-- The exact difference. -/
def checkedSub (a b : Int32) : Except Fault Int32 := orOverflow (a.toInt - b.toInt)

/-- The exact product. -/
def checkedMul (a b : Int32) : Except Fault Int32 := orOverflow (a.toInt * b.toInt)

/-- The exact quotient, cut toward zero; a zero divisor is looked for first. -/
def checkedDiv (a b : Int32) : Except Fault Int32 :=
  if b = 0 then .error .divisionByZero else orOverflow (a.toInt.tdiv b.toInt)

end Word

/-- The mode of 32-bit words that traps on overflow. -/
def Mode.trapping (name : String) : Mode Int32 :=
  bare name id
    |>.withCheckedUnary "-" Word.checkedNeg
    |>.withCheckedBinary "+" Word.checkedAdd
    |>.withCheckedBinary "-" Word.checkedSub
    |>.withCheckedBinary "*" Word.checkedMul
    |>.withCheckedBinary "/" Word.checkedDiv

end Gridwise
