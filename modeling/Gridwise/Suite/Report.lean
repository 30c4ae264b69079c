import Gridwise.Check

/-!
# Reports

A report counts checks and failures and keeps the first failures up to a limit. Merging a
second report into a first one adds the counts and fills what room the limit leaves.
-/

namespace Gridwise

/-- The outcome of a run of checks. -/
structure Report where
  cases : Nat
  failed : Nat
  failures : List CheckFailure
  deriving DecidableEq

namespace Report

/-- The report of no checks. -/
def empty : Report := ⟨0, 0, []⟩

/-- Every check passed. -/
def isSuccess (report : Report) : Bool := decide (report.failed = 0)

/-- Adds the result of one check, keeping at most so many failures. -/
def record (report : Report) (limit : Nat) : Except CheckFailure Unit → Report
  | .ok () => { report with cases := report.cases + 1 }
  | .error failure =>
      { cases := report.cases + 1
        failed := report.failed + 1
        failures :=
          if report.failures.length < limit then report.failures ++ [failure]
          else report.failures }

/-- Adds another report, keeping at most so many failures. -/
def merge (report other : Report) (limit : Nat) : Report where
  cases := report.cases + other.cases
  failed := report.failed + other.failed
  failures := report.failures ++ other.failures.take (limit - report.failures.length)

/-- The counts, the kept failures, and how many more there were. -/
def text (report : Report) : String :=
  let counts := Decimal.text report.cases ++ " cases, " ++ Decimal.text report.failed ++ " failed"
  let kept := report.failures.map fun failure => "\n  " ++ failure.message
  let more :=
    if report.failures.length < report.failed then
      "\n  ... and " ++ Decimal.text ((report.failed - report.failures.length : Nat)) ++ " more"
    else ""
  counts ++ String.join kept ++ more

end Report

end Gridwise
