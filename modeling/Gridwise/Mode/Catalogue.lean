import Gridwise.Mode.Symbolic
import Gridwise.Mode.Trapping
import Gridwise.OperatorSet

/-!
# Modes from descriptions

A mode can be described in words: its name, its type of numbers, how constants embed, and
for each operator the name of one of the operations that are listed here. A description
with an unknown word, or with an operation that its type of numbers does not have,
describes no mode.
-/

namespace Gridwise

/-- A mode over one of the three types of numbers. -/
inductive AnyMode where
  | int (mode : Mode Int32)
  | big (mode : Mode Int)
  | symbolic (mode : Mode String)

/-- The words by which embeddings and operations over a type of numbers are known. An
    operation may depend on the name under which it is registered. -/
structure Catalogue (α : Type) where
  constant : String → Option (Int32 → α)
  unary : String → String → Option (UnaryOp α)
  binary : String → String → Option (BinaryOp α)

namespace Catalogue

/-- The unary operations that exist over every type of numbers: they always fault. -/
def failingUnary : String → Option (UnaryOp α)
  | "fail_overflow" => some fun _ => .error .overflow
  | "fail_zero" => some fun _ => .error .divisionByZero
  | _ => none

/-- The binary operations that exist over every type of numbers: they always fault. -/
def failingBinary : String → Option (BinaryOp α)
  | "fail_overflow" => some fun _ _ => .error .overflow
  | "fail_zero" => some fun _ _ => .error .divisionByZero
  | _ => none

/-- Embeddings and operations of 32-bit words, wrapping or trapping. -/
def words : Catalogue Int32 where
  constant
    | "id" => some id
    | "neg" => some fun n => -n
    | "double" => some fun n => n + n
    | "zero" => some fun _ => 0
    | _ => none
  unary _
    | "id" => some .ok
    | "neg" => some fun a => .ok (-a)
    | "not" => some fun a => .ok (~~~a)
    | "checked_neg" => some Word.checkedNeg
    | other => failingUnary other
  binary _
    | "left" => some fun a _ => .ok a
    | "right" => some fun _ b => .ok b
    | "add" => some fun a b => .ok (a + b)
    | "sub" => some fun a b => .ok (a - b)
    | "mul" => some fun a b => .ok (a * b)
    | "checked_add" => some Word.checkedAdd
    | "checked_sub" => some Word.checkedSub
    | "checked_mul" => some Word.checkedMul
    | "checked_div" => some Word.checkedDiv
    | other => failingBinary other

/-- Embeddings and operations of unbounded integers. -/
def integers : Catalogue Int where
  constant
    | "id" => some Int32.toInt
    | "neg" => some fun n => -n.toInt
    | "double" => some fun n => n.toInt + n.toInt
    | "zero" => some fun _ => 0
    | _ => none
  unary _
    | "id" => some .ok
    | "neg" => some fun a => .ok (-a)
    | other => failingUnary other
  binary _
    | "left" => some fun a _ => .ok a
    | "right" => some fun _ b => .ok b
    | "add" => some fun a b => .ok (a + b)
    | "sub" => some fun a b => .ok (a - b)
    | "mul" => some fun a b => .ok (a * b)
    | "checked_div" => some fun a b => Mode.quotientOrFault (Integer.quotient? a b)
    | other => failingBinary other

/-- The embedding and the operations of texts. -/
def symbols : Catalogue String where
  constant _ := some Symbolic.constant
  unary name
    | "sym" => some fun a => .ok (Symbolic.unary name a)
    | "alt" => some fun a => .ok (Symbolic.unary (Symbolic.primed name) a)
    | other => failingUnary other
  binary name
    | "sym" => some fun a b => .ok (Symbolic.binary name a b)
    | "alt" => some fun a b => .ok (Symbolic.binary (Symbolic.primed name) a b)
    | other => failingBinary other

/-- Registers operators, each with the word for its operation, one after the other. -/
def register (catalogue : Catalogue α) : List (Operator × String) → Mode α → Option (Mode α)
  | [], mode => some mode
  | (.unary name, operation) :: rest, mode => do
      let op ← catalogue.unary name operation
      catalogue.register rest (mode.withCheckedUnary name op)
  | (.binary name, operation) :: rest, mode => do
      let op ← catalogue.binary name operation
      catalogue.register rest (mode.withCheckedBinary name op)

/-- The mode that a name, the word for an embedding and some operators describe. -/
def mode? (catalogue : Catalogue α) (name embedding : String)
    (operators : List (Operator × String)) : Option (Mode α) := do
  let constant ← catalogue.constant embedding
  catalogue.register operators (.bare name constant)

end Catalogue

/-- The mode of a description that begins with the word for its type of numbers. -/
def AnyMode.ofDescription? (type name embedding : String)
    (operators : List (Operator × String)) : Option AnyMode :=
  match type with
  | "i32" => (Catalogue.words.mode? name embedding operators).map .int
  | "big" => (Catalogue.integers.mode? name embedding operators).map .big
  | "sym" => (Catalogue.symbols.mode? name embedding operators).map .symbolic
  | _ => none

end Gridwise
