import Gridwise.Suite.Report

/-!
# Reports as summaries

A report says of a sequence of results how many there are, how many of them are failures, and which
failures come first, up to a limit. Recording adds a result at the end of the sequence and merging
puts one sequence behind another, so a report depends on the sequence alone and not on how it was
put together.
-/

namespace Gridwise

/-- How a check ends. -/
abbrev CheckResult := Except CheckFailure Unit

namespace Report

/-- The failures among some results, in order. -/
def failuresOf (results : List CheckResult) : List CheckFailure :=
  results.filterMap fun
    | .ok () => none
    | .error failure => some failure

/-- The report of some results. -/
def summary (limit : Nat) (results : List CheckResult) : Report where
  cases := results.length
  failed := (failuresOf results).length
  failures := (failuresOf results).take limit

/-- A way to put a report together from results. -/
inductive Grouping where
  /-- Nothing is reported yet. -/
  | nothing
  /-- One more result is recorded. -/
  | record (grouping : Grouping) (result : CheckResult)
  /-- A second report is merged into a first one. -/
  | merge (first second : Grouping)

namespace Grouping

/-- The results that are put together, in order. -/
def results : Grouping → List CheckResult
  | nothing => []
  | record grouping result => grouping.results ++ [result]
  | merge first second => first.results ++ second.results

/-- The report that comes out. -/
def report (limit : Nat) : Grouping → Report
  | nothing => .empty
  | record grouping result => (grouping.report limit).record limit result
  | merge first second => (first.report limit).merge (second.report limit) limit

end Grouping

variable {limit : Nat} {results : List CheckResult}

theorem failuresOf_append (first second : List CheckResult) :
    failuresOf (first ++ second) = failuresOf first ++ failuresOf second :=
  List.filterMap_append

theorem summary_nil : summary limit [] = .empty := by
  rw [summary, failuresOf, List.filterMap_nil, List.take_nil]
  rfl

/-- What the limit leaves of two lists is what it leaves of the first one, and of the second one
    what there is room for. -/
theorem take_append_take_room (limit : Nat) (first second : List CheckFailure) :
    first.take limit ++ (second.take limit).take (limit - (first.take limit).length) =
      (first ++ second).take limit := by
  have room : limit - (first.take limit).length = limit - first.length := by
    rw [List.length_take]
    omega
  rw [room, List.take_take, Nat.min_eq_left (Nat.sub_le _ _), List.take_append]

theorem merge_summary (first second : List CheckResult) :
    (summary limit first).merge (summary limit second) limit = summary limit (first ++ second) := by
  simp only [merge, summary, failuresOf_append, List.length_append, take_append_take_room]

/-- Recording a result is merging the report of that one result. -/
theorem record_eq_merge (report : Report) (limit : Nat) (result : CheckResult) :
    report.record limit result = report.merge (summary limit [result]) limit := by
  cases result with
  | ok => simp [record, merge, summary, failuresOf]
  | error failure =>
      have kept : (if report.failures.length < limit then report.failures ++ [failure]
          else report.failures) =
          report.failures ++ ([failure].take limit).take (limit - report.failures.length) := by
        rw [List.take_take]
        split
        · next room => rw [List.take_of_length_le (by rw [List.length_singleton]; omega)]
        · next full =>
            have none : min (limit - report.failures.length) limit = 0 := by omega
            rw [none, List.take_zero, List.append_nil]
      exact congrArg (Report.mk (report.cases + 1) (report.failed + 1)) kept

theorem record_summary (result : CheckResult) :
    (summary limit results).record limit result = summary limit (results ++ [result]) := by
  rw [record_eq_merge, merge_summary]

theorem report_eq_summary (limit : Nat) (grouping : Grouping) :
    grouping.report limit = summary limit grouping.results := by
  induction grouping with
  | nothing => exact summary_nil.symm
  | record grouping result ih => rw [Grouping.report, ih, record_summary, Grouping.results]
  | merge first second ihFirst ihSecond =>
      rw [Grouping.report, ihFirst, ihSecond, merge_summary, Grouping.results]

end Report

end Gridwise
