import Gridwise.Fault
import Gridwise.NameMap

/-!
# Modes

A mode gives operator names their meaning over one type of numbers and says how constants
embed into it. Unary and binary operators live in separate tables, so one name may stand
in both. A mode is assembled by registering operators one after the other; a later
registration of a name replaces an earlier one of the same arity.
-/

namespace Gridwise

/-- The meaning of a unary operator, which may fault. -/
abbrev UnaryOp (α : Type) := α → Except Fault α

/-- The meaning of a binary operator, which may fault. -/
abbrev BinaryOp (α : Type) := α → α → Except Fault α

/-- A named interpretation of constants and operators over a type of numbers. -/
structure Mode (α : Type) where
  name : String
  constant : Int32 → α
  unary : NameMap (UnaryOp α)
  binary : NameMap (BinaryOp α)

namespace Mode

/-- A mode that has no operators yet. -/
def bare (name : String) (constant : Int32 → α) : Mode α := ⟨name, constant, .empty, .empty⟩

/-- Registers a unary operator that may fault. -/
def withCheckedUnary (mode : Mode α) (name : String) (op : UnaryOp α) : Mode α :=
  { mode with unary := mode.unary.insert name op }

/-- Registers a binary operator that may fault. -/
def withCheckedBinary (mode : Mode α) (name : String) (op : BinaryOp α) : Mode α :=
  { mode with binary := mode.binary.insert name op }

/-- Registers a unary operator that never faults. -/
def withUnary (mode : Mode α) (name : String) (op : α → α) : Mode α :=
  mode.withCheckedUnary name fun a => .ok (op a)

/-- Registers a binary operator that never faults. -/
def withBinary (mode : Mode α) (name : String) (op : α → α → α) : Mode α :=
  mode.withCheckedBinary name fun a b => .ok (op a b)

/-- The names of the unary operators, in order. -/
def unaryNames (mode : Mode α) : List String := mode.unary.names.toList

/-- The names of the binary operators, in order. -/
def binaryNames (mode : Mode α) : List String := mode.binary.names.toList

/-- The mode shown as a record: its name and the names of its operators. -/
def summary (mode : Mode α) : String :=
  "EvalMode \x7b name: " ++ Quoted.text mode.name ++ ", unary: " ++
    Quoted.list mode.unaryNames ++ ", binary: " ++ Quoted.list mode.binaryNames ++ ", .. \x7d"

end Mode

end Gridwise
