import Gridwise.Decimal

/-!
# Cell values

Tables of different modes are exchanged in one type of values, which remembers the type
of number that a value came from. Values of different types are never equal.
-/

namespace Gridwise

/-- A number of one of the standard types. -/
inductive Value where
  | int (word : Int32)
  | big (n : Int)
  deriving DecidableEq

namespace Value

/-- The name of the type of number. -/
def typeName : Value → String
  | .int _ => "int"
  | .big _ => "big integer"

/-- The number in decimal. -/
def text : Value → String
  | .int word => Decimal.text word.toInt
  | .big n => Decimal.text n

end Value

end Gridwise
