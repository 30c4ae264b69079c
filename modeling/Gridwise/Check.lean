import Gridwise.Expr.Rendering
import Gridwise.Table.Mismatch
import Gridwise.Tabulator

/-!
# Checks

A check compares what a tabulator answers with what the registry's own mode computes. It
ends well only if the two tables are equal. The tabulator is asked once, and only if the
mode is registered and the expression builds in it; what it answers decides everything
else. A difference is reported with the absolute coordinates of the cell.
-/

namespace Gridwise

/-- What a check was about when the tabulator had been asked. -/
structure CheckSite where
  expression : String
  mode : String
  box : Box
  deriving DecidableEq

/-- Why a check failed. -/
inductive CheckFailure where
  /-- The mode is not in the registry. -/
  | unknownMode (mode : String)
  /-- The expression does not build in the mode. -/
  | build (expression mode : String) (source : BuildError)
  /-- The tabulator reported an error. -/
  | tabulator (site : CheckSite) (message : String)
  /-- The tabulator crashed. -/
  | crash (site : CheckSite) (message : String)
  /-- A list in the tabulator's table has the wrong length. -/
  | shape (site : CheckSite) (path : List Nat) (expected actual : Nat)
  /-- A cell of the tabulator's table is wrong. -/
  | cell (site : CheckSite) (point : Axes Int) (expected actual : Option Value)
  deriving DecidableEq

namespace CheckSite

/-- The expression, the mode and the box, as failures mention them. -/
def text (site : CheckSite) : String :=
  site.expression ++ " in mode \"" ++ site.mode ++ "\" over " ++ site.box.text

/-- What the tabulator is asked. -/
def request (site : CheckSite) : Request := ⟨site.mode, site.expression, site.box.bounds⟩

end CheckSite

/-- A cell as failures mention it. -/
def cellText : Option Value → String
  | some value => value.text ++ " (" ++ value.typeName ++ ")"
  | none => "undefined"

/-- A point as failures mention it. -/
def pointText (point : Axes Int) : String :=
  "x=" ++ Decimal.text point.x ++ ", y=" ++ Decimal.text point.y ++
    ", z=" ++ Decimal.text point.z

namespace CheckFailure

/-- The wording of a failure. -/
def message : CheckFailure → String
  | .unknownMode mode => "mode \"" ++ mode ++ "\" is not registered"
  | .build expression mode source =>
      "oracle cannot build " ++ expression ++ " in mode \"" ++ mode ++ "\": " ++ source.message
  | .tabulator site text => "tabulator failed on " ++ site.text ++ ": " ++ text
  | .crash site text => "tabulator panicked on " ++ site.text ++ ": " ++ text
  | .shape site path expected actual =>
      "wrong shape for " ++ site.text ++ ": length " ++ Decimal.text actual ++ " at " ++
        Quoted.bracketed (path.map fun (index : Nat) => Decimal.text index) ++ ", expected " ++
        Decimal.text expected
  | .cell site point expected actual =>
      "wrong value for " ++ site.text ++ " at " ++ pointText point ++ ": expected " ++
        cellText expected ++ ", got " ++ cellText actual

/-- The failure that a difference of tables amounts to. -/
def ofMismatch (site : CheckSite) : Mismatch Value → CheckFailure
  | .shape path expected actual => .shape site path expected actual
  | .cell offset expected actual => .cell site (site.box.coordinate offset) expected actual

end CheckFailure

/-- What a check makes of the tabulator's answer. -/
def judge (site : CheckSite) (expected : Table Value) : Response → Except CheckFailure Unit
  | .crashed payload => .error (.crash site (crashMessage payload))
  | .failed message => .error (.tabulator site message)
  | .table actual =>
      match expected.mismatch? actual with
      | none => .ok ()
      | some mismatch => .error (.ofMismatch site mismatch)

/-- Checks a tabulator for one expression in one mode over one box. -/
def check (tabulator : Tabulator σ) (registry : Registry) (config : TabulateConfig) (e : Expr)
    (mode : String) (box : Box) : StateM σ (Except CheckFailure Unit) :=
  match registry.find? mode with
  | none => pure (.error (.unknownMode mode))
  | some entry =>
      match entry.tabulate e box config with
      | .error source => pure (.error (.build e.render mode source))
      | .ok expected => do
          let site : CheckSite := ⟨e.render, mode, box⟩
          let response ← tabulator site.request
          return judge site expected response

end Gridwise
