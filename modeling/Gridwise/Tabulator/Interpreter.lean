import Gridwise.Expr.Reading
import Gridwise.Integer
import Gridwise.Tabulator

/-!
# The interpreter

A tabulator that owes nothing to modes and evaluators: it reads the expression back from
its text and walks the tree at every point. A missing value is carried upward without
looking at the operators above it; an unknown name ends the whole table. In a standard
expression no name is unknown, and a walk that ends at the first missing operand has the
same result.
-/

namespace Gridwise

namespace Interpreter

/-- The arithmetic that a walk uses, in which only quotients may be missing. -/
structure Arithmetic (α : Type) where
  constant : Int32 → α
  neg : α → α
  add : α → α → α
  sub : α → α → α
  mul : α → α → α
  div : α → α → Option α

/-- Arithmetic of 32-bit words, which wraps around. -/
def words : Arithmetic Int32 :=
  ⟨id, (- ·), (· + ·), (· - ·), (· * ·), Word.quotient?⟩

/-- Arithmetic of the integers. -/
def integers : Arithmetic Int :=
  ⟨Int32.toInt, (- ·), (· + ·), (· - ·), (· * ·), Integer.quotient?⟩

/-- Why there is no table. -/
inductive Error where
  | unreadable (error : Expr.ReadError)
  | unknownVariable (name : String)
  | unknownUnary (op : String)
  | unknownBinary (op : String)
  | unknownMode (name : String)
  deriving DecidableEq

/-- The wording of an interpreter's error. -/
def Error.message : Error → String
  | .unreadable error => error.message
  | .unknownVariable name => "unknown variable " ++ name
  | .unknownUnary op => "unknown unary " ++ op
  | .unknownBinary op => "unknown binary " ++ op
  | .unknownMode name => "unknown mode " ++ name

/-- The coordinate that a variable names. -/
def coordinate? (name : String) (point : Axes Int32) : Option Int32 :=
  match name with
  | "x" => some point.x
  | "y" => some point.y
  | "z" => some point.z
  | _ => none

/-- The value of an operation on two present operands, if the operator has a meaning. -/
def operate? (arithmetic : Arithmetic α) (op : String) (a b : α) : Option (Option α) :=
  match op with
  | "+" => some (some (arithmetic.add a b))
  | "-" => some (some (arithmetic.sub a b))
  | "*" => some (some (arithmetic.mul a b))
  | "/" => some (arithmetic.div a b)
  | _ => none

/-- The value of an expression at a point, which is missing where a divisor is zero. -/
def walk (arithmetic : Arithmetic α) (point : Axes Int32) : Expr → Except Error (Option α)
  | .constant value => .ok (some (arithmetic.constant value))
  | .var name =>
      match coordinate? name point with
      | some value => .ok (some (arithmetic.constant value))
      | none => .error (.unknownVariable name)
  | .unary op arg => do
      match ← walk arithmetic point arg with
      | none => return none
      | some a => if op = "-" then return some (arithmetic.neg a) else throw (.unknownUnary op)
  | .binary op left right => do
      let a? ← walk arithmetic point left
      let b? ← walk arithmetic point right
      match a?, b? with
      | some a, some b =>
          match operate? arithmetic op a b with
          | some value => return value
          | none => throw (.unknownBinary op)
      | _, _ => return none

/-- The value of a standard expression at a point. Nothing can be wrong behind a missing
    operand, so the walk ends there. -/
def standardWalk (arithmetic : Arithmetic α) (point : Axes Int32) : Expr → Option α
  | .constant value => some (arithmetic.constant value)
  | .var name => (coordinate? name point).map arithmetic.constant
  | .unary _ arg => (standardWalk arithmetic point arg).map arithmetic.neg
  | .binary op left right =>
      match standardWalk arithmetic point left with
      | none => none
      | some a =>
          match standardWalk arithmetic point right with
          | none => none
          | some b => (operate? arithmetic op a b).join

theorem walk_of_standard (arithmetic : Arithmetic α) (point : Axes Int32) {e : Expr}
    (standard : e.Standard) :
    walk arithmetic point e = .ok (standardWalk arithmetic point e) := by
  induction e with
  | constant value => rfl
  | var name =>
      have known : name = "x" ∨ name = "y" ∨ name = "z" := by
        simpa [Expr.Standard, Expr.Uses] using standard
      rcases known with rfl | rfl | rfl <;> rfl
  | unary op arg ih =>
      obtain ⟨known, standard⟩ := standard
      obtain rfl : op = "-" := by simpa using known
      rw [walk, ih standard, standardWalk]
      cases standardWalk arithmetic point arg <;> rfl
  | binary op left right ihLeft ihRight =>
      obtain ⟨known, standardLeft, standardRight⟩ := standard
      have known : op = "+" ∨ op = "-" ∨ op = "*" ∨ op = "/" := by simpa using known
      rw [walk, ihLeft standardLeft, ihRight standardRight, standardWalk]
      cases standardWalk arithmetic point left with
      | none => rfl
      | some a =>
          cases standardWalk arithmetic point right with
          | none => rfl
          | some b => rcases known with rfl | rfl | rfl | rfl <;> rfl

/-- The cell of an expression at a point in a named mode. -/
def cell (mode : String) (e : Expr) (point : Axes Int32) : Except Error (Option Value) :=
  match mode with
  | "i" => do return (← walk words point e).map .int
  | "bi" => do return (← walk integers point e).map .big
  | _ => .error (.unknownMode mode)

/-- The cell of a standard expression at a point in a named mode. -/
def standardCell (mode : String) (e : Expr) (point : Axes Int32) : Except Error (Option Value) :=
  match mode with
  | "i" => .ok ((standardWalk words point e).map .int)
  | "bi" => .ok ((standardWalk integers point e).map .big)
  | _ => .error (.unknownMode mode)

theorem standardCell_eq_cell (mode : String) {e : Expr} (standard : e.Standard) :
    standardCell mode e = cell mode e := by
  funext point
  unfold standardCell cell
  split
  · rw [walk_of_standard words point standard]; rfl
  · rw [walk_of_standard integers point standard]; rfl
  · rfl

/-- The table that is asked for; reversed bounds hold no coordinates. -/
def table (request : Request) : Except Error (Table Value) :=
  match Expr.read request.expression with
  | .error error => .error (.unreadable error)
  | .ok e =>
      if e.Standard then Table.collect request.bounds (standardCell request.mode e)
      else Table.collect request.bounds (cell request.mode e)

theorem table_of_read {request : Request} {e : Expr}
    (readable : Expr.read request.expression = .ok e) :
    table request = Table.collect request.bounds (cell request.mode e) := by
  simp only [table, readable]
  split
  · next standard => rw [standardCell_eq_cell request.mode standard]
  · rfl

/-- What the interpreter answers. -/
def respond (request : Request) : Response :=
  match table request with
  | .ok cells => .table cells
  | .error error => .failed error.message

end Interpreter

/-- The tabulator that reads the expression back and walks it. -/
def Tabulator.interpreter : Tabulator σ := .ofFunction Interpreter.respond

end Gridwise
