import Gridwise.Tabulator.Interpreter

/-!
# Faulty tabulators

Tabulators that are wrong in a known way, to see what a check makes of them. Most alter
what the interpreter answers; others answer without looking at the request. A faulty
tabulator changes from one request to the next, so its state is the tabulator it has
become.
-/

namespace Gridwise

/-- The zero of the type of numbers that a mode is taken to use. -/
def zeroOf (mode : String) : Value := if mode = "i" then .int 0 else .big 0

/-- The table with a value in the place of every absent cell. -/
def Table.fill (value : α) (table : Table α) : Table α :=
  List.map (List.map (List.map fun cell => some (cell.getD value))) table

namespace Response

/-- Alters the table of an answer, if there is one. -/
def alter (f : Table Value → Table Value) : Response → Response
  | .table cells => .table (f cells)
  | other => other

end Response

namespace Tabulator

/-- Has the zero of the mode where there should be no value. -/
def zeroOnFault : Tabulator σ := .ofFunction fun request =>
  (Interpreter.respond request).alter (Table.fill (zeroOf request.mode))

/-- The bounds without the upper one, if a coordinate remains. -/
def dropLast (bounds : Bounds) : Bounds :=
  if bounds.lo < bounds.hi then ⟨bounds.lo, bounds.hi - 1⟩ else bounds

/-- Forgets the last cell of every row that has more than one. -/
def truncating : Tabulator σ := .ofFunction fun request =>
  Interpreter.respond { request with bounds := request.bounds.set .z (dropLast request.bounds.z) }

/-- Crashes at one request, counted from zero; the state counts the requests so far. -/
def crashingOn (call : Nat) : Tabulator Nat := fun request seen =>
  (if seen = call then .crashed (some ("tabulator crashed on " ++ request.expression))
   else Interpreter.respond request, seen + 1)

end Tabulator

/-- A tabulator of one of several kinds, together with what it remembers. -/
inductive Behaviour where
  | interpreter
  | zeroOnFault
  | truncating
  /-- Crashes at the request of a given number, having seen some already. -/
  | crashingOn (call seen : Nat)
  /-- Answers every request alike. -/
  | always (response : Response)
  /-- Replaces one cell of the interpreter's table. -/
  | patched (offset : Axes Nat) (cell : Option Value)
  /-- Answers one request like the first and all further ones like the second. -/
  | once (first later : Behaviour)

namespace Behaviour

/-- The answer to a request and the behaviour from then on. -/
def respond : Behaviour → Request → Response × Behaviour
  | .interpreter, request => (Interpreter.respond request, .interpreter)
  | .zeroOnFault, request => ((Tabulator.zeroOnFault request ()).1, .zeroOnFault)
  | .truncating, request => ((Tabulator.truncating request ()).1, .truncating)
  | .crashingOn call seen, request =>
      let (response, seen) := Tabulator.crashingOn call request seen
      (response, .crashingOn call seen)
  | .always response, _ => (response, .always response)
  | .patched offset cell, request =>
      ((Interpreter.respond request).alter fun cells => cells.replace offset cell,
       .patched offset cell)
  | .once first later, request => ((first.respond request).1, later)

/-- The behaviours of a list in turn, the last one for good. -/
def sequence (first : Behaviour) : List Behaviour → Behaviour
  | [] => first
  | next :: rest => .once first (sequence next rest)

/-- A behaviour as a tabulator whose state is itself. -/
def tabulator : Tabulator Behaviour := fun request behaviour => behaviour.respond request

end Behaviour

end Gridwise
