import Gridwise.Decimal

/-!
# Unbounded integers

The second standard number type is the integers themselves. Sums, differences and
products are the ring's own; this module adds the one partial operation and the form in
which an integer is shown with its type.
-/

namespace Gridwise

namespace Integer

/-- The quotient of two integers, cut toward zero; there is none for a zero divisor. -/
def quotient? (dividend divisor : Int) : Option Int :=
  if divisor = 0 then none else some (dividend.tdiv divisor)

/-- The integer shown together with the name of its type. -/
def labelled (n : Int) : String := "Integer(" ++ Decimal.text n ++ ")"

end Integer

end Gridwise
