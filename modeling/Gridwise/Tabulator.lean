import Gridwise.Registry

/-!
# Tabulators

A tabulator is a program that is asked for the table of a written expression in a named
mode between given bounds. It may remember earlier requests. It answers with a table of
any shape, reports an error, or crashes.
-/

namespace Gridwise

/-- What a tabulator is asked. -/
structure Request where
  mode : String
  expression : String
  bounds : Axes Bounds
  deriving DecidableEq

/-- What a tabulator does when it is asked. -/
inductive Response where
  | table (cells : Table Value)
  /-- The tabulator reports an error. -/
  | failed (message : String)
  /-- The tabulator crashes, leaving a text or something that is no text. -/
  | crashed (payload : Option String)
  deriving DecidableEq

/-- A tabulator that remembers a state from one request to the next. -/
abbrev Tabulator (σ : Type) := Request → StateM σ Response

namespace Tabulator

/-- The tabulator that answers every request by itself. -/
def ofFunction (answer : Request → Response) : Tabulator σ := fun request =>
  pure (answer request)

/-- The tabulator that also keeps all requests, latest first. -/
def recording (tabulator : Tabulator σ) : Tabulator (σ × List Request) := fun request past =>
  let (response, state) := tabulator request past.1
  (response, state, request :: past.2)

end Tabulator

/-- The message that is kept of a crash. -/
def crashMessage (payload : Option String) : String := payload.getD "non-text panic payload"

end Gridwise
