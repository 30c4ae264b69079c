import Gridwise.Classified
import Gridwise.Text.Quoted

/-!
# What can go wrong with an expression

An operator may have no result at some operands: that is a fault, and it belongs to a
point. A name that a mode does not know is found while the evaluator is built and belongs
to no point. Both are classified by the same kinds, which forget the details.
-/

namespace Gridwise

/-- An operator has no result at its operands. -/
inductive Fault where
  | divisionByZero
  /-- The result cannot be represented, in a mode that traps instead of wrapping. -/
  | overflow
  deriving DecidableEq

/-- The wording of a fault. -/
def Fault.message : Fault → String
  | .divisionByZero => "division by zero"
  | .overflow => "arithmetic overflow"

/-- An expression names something that the mode does not have. -/
inductive BuildError where
  /-- A variable is none of the axes. -/
  | unsupportedVariable (name : String)
  /-- A unary operator is missing among those of the mode. -/
  | unsupportedUnary (mode operator : String) (supported : List String)
  /-- A binary operator is missing among those of the mode. -/
  | unsupportedBinary (mode operator : String) (supported : List String)
  deriving DecidableEq

/-- The wording of a build error. -/
def BuildError.message : BuildError → String
  | .unsupportedVariable name => "variable with name \"" ++ name ++ "\" is not supported"
  | .unsupportedUnary mode operator supported =>
      "unary operation \"" ++ operator ++ "\" is not supported in mode \"" ++ mode ++
        "\"; supported ones are: " ++ Quoted.list supported
  | .unsupportedBinary mode operator supported =>
      "binary operation \"" ++ operator ++ "\" is not supported in mode \"" ++ mode ++
        "\"; supported ones are: " ++ Quoted.list supported

/-- Why an expression has no value at a point. -/
inductive EvalError where
  | build (error : BuildError)
  | arithmetic (fault : Fault)
  deriving DecidableEq

/-- The wording of an evaluation error. -/
def EvalError.message : EvalError → String
  | .build error => error.message
  | .arithmetic fault => fault.message

/-- The kinds of evaluation errors. -/
inductive ErrorKind where
  | unsupportedVariable
  | unsupportedOperator
  | divisionByZero
  | overflow
  deriving DecidableEq

/-- The kind lies in the expression itself and not in the point. -/
def ErrorKind.isStructural : ErrorKind → Bool
  | .unsupportedVariable | .unsupportedOperator => true
  | .divisionByZero | .overflow => false

/-- The kind of a fault. -/
def Fault.kind : Fault → ErrorKind
  | .divisionByZero => .divisionByZero
  | .overflow => .overflow

/-- The kind of a build error, which does not tell unary from binary operators. -/
def BuildError.kind : BuildError → ErrorKind
  | .unsupportedVariable _ => .unsupportedVariable
  | .unsupportedUnary .. | .unsupportedBinary .. => .unsupportedOperator

/-- The kind of an evaluation error. -/
def EvalError.kind : EvalError → ErrorKind
  | .build error => error.kind
  | .arithmetic fault => fault.kind

/-- Evaluation errors have no causes. -/
instance : Classified EvalError ErrorKind where
  kind := EvalError.kind
  cause _ := none
  rank _ := 0
  rank_cause := by intro _ _ caused; cases caused

end Gridwise
