import Gridwise.Integer
import Gridwise.Mode
import Gridwise.Word

/-!
# The standard modes

Two modes give the same operators a meaning: `i` computes in 32-bit words, where sums,
differences, products and negation wrap around, and `bi` computes in the integers. In both,
a quotient is cut toward zero and a zero divisor is a fault.
-/

namespace Gridwise

namespace Mode

/-- Turns a missing quotient into a fault. -/
def quotientOrFault : Option α → Except Fault α
  | some q => .ok q
  | none => .error .divisionByZero

/-- The mode of 32-bit words. -/
def int : Mode Int32 :=
  bare "i" id
    |>.withUnary "-" (fun a => -a)
    |>.withBinary "+" (· + ·)
    |>.withBinary "-" (· - ·)
    |>.withBinary "*" (· * ·)
    |>.withCheckedBinary "/" fun a b => quotientOrFault (Word.quotient? a b)

/-- The mode of unbounded integers. -/
def bigInt : Mode Int :=
  bare "bi" Int32.toInt
    |>.withUnary "-" (fun a => -a)
    |>.withBinary "+" (· + ·)
    |>.withBinary "-" (· - ·)
    |>.withBinary "*" (· * ·)
    |>.withCheckedBinary "/" fun a b => quotientOrFault (Integer.quotient? a b)

end Mode

end Gridwise
