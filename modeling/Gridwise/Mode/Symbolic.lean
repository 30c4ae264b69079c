import Gridwise.Decimal
import Gridwise.Mode

/-!
# Symbolic modes

A mode whose numbers are texts that tell how they came about: every operator writes down
its name and its operands. Tables and evaluations in such a mode show which operators were
applied, to what, and in which order of operands.
-/

namespace Gridwise

namespace Symbolic

/-- The text of a constant. -/
def constant (value : Int32) : String := "#" ++ Decimal.text value.toInt

/-- The text of an operation on one operand. -/
def unary (name : String) (a : String) : String := name ++ "(" ++ a ++ ")"

/-- The text of an operation on two operands. -/
def binary (name : String) (a b : String) : String := name ++ "(" ++ a ++ "," ++ b ++ ")"

/-- Another name, to tell two registrations of a name apart. -/
def primed (name : String) : String := name ++ "\x27"

end Symbolic

end Gridwise
