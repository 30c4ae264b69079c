import Gridwise.Mode.Catalogue
import Gridwise.Table
import Gridwise.Value

/-!
# Registries of modes

A registry holds modes over different types of numbers under their names. Each comes with
the embedding of its numbers into cell values, so that its tables can be compared with
tables computed elsewhere. A mode registered later replaces one of the same name.
-/

namespace Gridwise

/-- A mode over some type of numbers, which embeds into the cell values. -/
structure RegisteredMode : Type 1 where
  {Number : Type}
  mode : Mode Number
  toValue : Number → Value

namespace RegisteredMode

/-- The name of the mode. -/
def name (entry : RegisteredMode) : String := entry.mode.name

/-- The operators of the mode. -/
def operators (entry : RegisteredMode) : OperatorSet := entry.mode.operators

/-- The table of an expression over a box, in cell values. -/
def tabulate (entry : RegisteredMode) (e : Expr) (box : Box) (config : TabulateConfig) :
    Except BuildError (Table Value) :=
  match Evaluator.build entry.mode e with
  | .ok evaluator => .ok ((evaluator.table entry.mode box config).map entry.toValue)
  | .error error => .error error

/-- A mode of 32-bit words. -/
def ofInt (mode : Mode Int32) : RegisteredMode := ⟨mode, .int⟩

/-- A mode of unbounded integers. -/
def ofBig (mode : Mode Int) : RegisteredMode := ⟨mode, .big⟩

end RegisteredMode

/-- A mode over any type of numbers as it is registered; texts are no cell values, so a
    symbolic mode is not. -/
def AnyMode.registered? : AnyMode → Option RegisteredMode
  | .int mode => some (.ofInt mode)
  | .big mode => some (.ofBig mode)
  | .symbolic _ => none

/-- Modes by name. -/
structure Registry : Type 1 where
  modes : NameMap RegisteredMode

namespace Registry

/-- The registry without modes. -/
def empty : Registry := ⟨.empty⟩

/-- Registers a mode under its own name. -/
def register (registry : Registry) (entry : RegisteredMode) : Registry :=
  ⟨registry.modes.insert entry.name entry⟩

/-- Registers modes one after the other in an empty registry. -/
def ofList (entries : List RegisteredMode) : Registry := entries.foldl register empty

/-- The two standard modes. -/
def standard : Registry := ofList [.ofInt .int, .ofBig .bigInt]

/-- The mode of a name. -/
def find? (registry : Registry) (name : String) : Option RegisteredMode :=
  registry.modes.find? name

/-- The names of the modes, in order. -/
def names (registry : Registry) : List String := registry.modes.names.toList

/-- The number of modes. -/
def size (registry : Registry) : Nat := registry.modes.size

/-- The operators that every mode has. -/
def commonOperators (registry : Registry) : OperatorSet :=
  .common (registry.modes.values.map RegisteredMode.operators)

/-- The registry shown as a record with the names of its modes. -/
def summary (registry : Registry) : String :=
  "ModeRegistry \x7b modes: " ++ Quoted.list registry.names ++ " \x7d"

end Registry

end Gridwise
