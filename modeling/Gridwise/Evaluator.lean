import Gridwise.Axes
import Gridwise.Expr
import Gridwise.Mode
import Gridwise.Outcome

/-!
# Evaluators

An evaluator is an expression resolved against a mode: a function of the three
coordinates in which every name has already found its meaning. Building one fails at the
first unknown name in traversal order, whether or not any point would ever reach it. An
evaluator applied to a point goes through the operands from left to right and stops at
the first fault.
-/

namespace Gridwise

/-- A compiled expression over the three coordinates. -/
structure Evaluator (α : Type) where
  apply : Axes α → Except Fault α

namespace Evaluator

/-- The evaluator of a constant. -/
def constant (value : α) : Evaluator α := ⟨fun _ => .ok value⟩

/-- The evaluator of a coordinate. -/
def coordinate (axis : Axis) : Evaluator α := ⟨fun point => .ok (point.get axis)⟩

/-- The evaluator of an operation on one operand. -/
def unary (op : UnaryOp α) (arg : Evaluator α) : Evaluator α :=
  ⟨fun point =>
    match arg.apply point with
    | .ok a => op a
    | .error fault => .error fault⟩

/-- The evaluator of an operation on two operands; the left one is evaluated first. -/
def binary (op : BinaryOp α) (left right : Evaluator α) : Evaluator α :=
  ⟨fun point =>
    match left.apply point with
    | .ok a =>
        match right.apply point with
        | .ok b => op a b
        | .error fault => .error fault
    | .error fault => .error fault⟩

/-- Resolves an expression against a mode. -/
def build (mode : Mode α) : Expr → Except BuildError (Evaluator α)
  | .constant value => .ok (constant (mode.constant value))
  | .var name =>
      match Axis.ofName? name with
      | some axis => .ok (coordinate axis)
      | none => .error (.unsupportedVariable name)
  | .unary op arg => do
      let arg ← build mode arg
      match mode.unary.find? op with
      | some meaning => .ok (unary meaning arg)
      | none => .error (.unsupportedUnary mode.name op mode.unaryNames)
  | .binary op left right => do
      let left ← build mode left
      let right ← build mode right
      match mode.binary.find? op with
      | some meaning => .ok (binary meaning left right)
      | none => .error (.unsupportedBinary mode.name op mode.binaryNames)

/-- The outcome at a point of the grid, whose coordinates embed as constants do. -/
def outcomeAt (evaluator : Evaluator α) (mode : Mode α) (point : Axes Int32) : Outcome α Fault :=
  .ofExcept (evaluator.apply (point.map mode.constant))

/-- The form in which every evaluator is shown: what it computes has no text. -/
def summary : String := "Evaluator \x7b .. \x7d"

end Evaluator

/-- Builds an evaluator and applies it at one point of the grid. -/
def evaluate (mode : Mode α) (e : Expr) (point : Axes Int32) : Except EvalError α :=
  match Evaluator.build mode e with
  | .error error => .error (.build error)
  | .ok evaluator =>
      match evaluator.apply (point.map mode.constant) with
      | .ok value => .ok value
      | .error fault => .error (.arithmetic fault)

end Gridwise
