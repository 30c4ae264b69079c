import Gridwise.Mode

/-!
# Sets of operators

The operators that a mode has or that expressions are drawn from, by arity. Names ascend
in each arity and occur once.
-/

namespace Gridwise

/-- An operator name with its arity. -/
inductive Operator where
  | unary (name : String)
  | binary (name : String)
  deriving DecidableEq

/-- Unary and binary operator names. -/
structure OperatorSet where
  unary : NameSet
  binary : NameSet
  deriving DecidableEq

namespace OperatorSet

/-- The set without operators. -/
def empty : OperatorSet := ⟨.empty, .empty⟩

/-- The set of given names, in any order and with repetitions. -/
def ofLists (unary binary : List String) : OperatorSet := ⟨.ofList unary, .ofList binary⟩

/-- The operators of the standard modes. -/
def arithmetic : OperatorSet := ofLists ["-"] ["+", "-", "*", "/"]

/-- The operators that two sets share. -/
def inter (first second : OperatorSet) : OperatorSet :=
  ⟨first.unary.inter second.unary, first.binary.inter second.binary⟩

/-- The number of operators of both arities. -/
def size (operators : OperatorSet) : Nat := operators.unary.size + operators.binary.size

/-- There is no operator of either arity. -/
def isEmpty (operators : OperatorSet) : Bool := decide (operators.size = 0)

/-- The operators of a set by index, the unary ones first. -/
def get (operators : OperatorSet) (i : Fin operators.size) : Operator :=
  if isUnary : i.val < operators.unary.toList.length then
    .unary operators.unary.toList[i.val]
  else
    .binary (operators.binary.toList.get ⟨i.val - operators.unary.toList.length, by
      have inside := i.isLt
      unfold size NameSet.size at inside
      omega⟩)

/-- The operators that every set of a list has; an empty list shares none. -/
def common : List OperatorSet → OperatorSet
  | [] => empty
  | first :: rest => rest.foldl inter first

end OperatorSet

/-- The operators of a mode. -/
def Mode.operators (mode : Mode α) : OperatorSet := ⟨mode.unary.names, mode.binary.names⟩

end Gridwise
