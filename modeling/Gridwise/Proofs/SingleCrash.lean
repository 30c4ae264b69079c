import Gridwise.Proofs.Interpreting
import Gridwise.Proofs.RandomSuite

/-!
# One crash

A tabulator that crashes once and otherwise interprets what it is asked costs a suite one check,
whichever request it crashes at: in the standard modes all other checks pass, and the tabulator is
asked in every check, so the request of a number belongs to the check of that number.
-/

namespace Gridwise

/-- What a check reports when the tabulator crashes in it and names the expression. -/
def Trial.crash (trial : Trial) : CheckFailure :=
  .crash ⟨trial.expr.render, trial.mode, trial.box⟩
    ("tabulator crashed on " ++ trial.expr.render)

/-- The check is one of a standard expression in a standard mode. -/
def Trial.Standard (trial : Trial) : Prop :=
  trial.expr.Standard ∧ trial.mode ∈ Registry.standard.names

namespace Suite

variable {config : SuiteConfig} {suite : Suite} {trial : Trial} {call seen : Nat}

/-- How a check ends that makes the request of a number. -/
def resultAt (call number : Nat) (trial : Trial) : CheckResult :=
  if number = call then .error trial.crash else .ok ()

/-- One step: the tabulator crashes at the one request, passes at every other, and counts on in
    either case. -/
theorem attempt_crashingOn (registry : suite.registry = .standard) (standard : trial.Standard) :
    suite.attempt (.crashingOn call) trial seen = (resultAt call seen trial, seen + 1) := by
  obtain ⟨entry, registered, standardEntry⟩ := exists_standard_entry standard.2
  obtain ⟨builds_iff, agrees⟩ := standardEntry trial.expr
  rw [attempt, registry, check_of_checkable ⟨registered, builds_iff.mpr standard.1⟩, bind_apply]
  unfold resultAt
  by_cases now : seen = call
  · simp only [Tabulator.crashingOn, if_pos now]
    rfl
  · have answered := respond_eq_tableOver (writable_of_standard standard.1) (agrees standard.1)
    simp only [Tabulator.crashingOn, if_neg now, answered, judge_table_eq_ok_iff.mpr rfl]
    rfl

/-- A run: every check makes one request, so checks and requests have the same numbers. -/
theorem attempts_crashingOn (registry : suite.registry = .standard) {trials : List Trial}
    (standard : ∀ trial ∈ trials, trial.Standard) (seen : Nat) :
    suite.attempts (.crashingOn call) trials seen =
      ((trials.zipIdx seen).map fun numbered => resultAt call numbered.2 numbered.1,
        seen + trials.length) := by
  induction trials generalizing seen with
  | nil => rfl
  | cons trial rest ih =>
      have first := standard trial List.mem_cons_self
      have others := ih fun other member => standard other (List.mem_cons_of_mem trial member)
      rw [attempts_cons]
      simp only [bind_apply, attempt_crashingOn registry first, others, List.zipIdx_cons,
        List.map_cons, List.length_cons, Nat.add_assoc, Nat.add_comm 1]
      rfl

theorem failuresOf_resultAt (call : Nat) (trials : List Trial) (seen : Nat) :
    Report.failuresOf
        ((trials.zipIdx seen).map fun numbered => resultAt call numbered.2 numbered.1) =
      if seen ≤ call then (trials[call - seen]?.map Trial.crash).toList else [] := by
  induction trials generalizing seen with
  | nil => simp [Report.failuresOf]
  | cons trial rest ih =>
      have passes (other : seen ≠ call) : Report.failuresOf [resultAt call seen trial] = [] := by
        rw [resultAt, if_neg other]
        rfl
      rw [List.zipIdx_cons, List.map_cons, ← List.singleton_append, Report.failuresOf_append, ih]
      rcases Nat.lt_trichotomy seen call with before | now | behind
      · have next : call - seen = call - (seen + 1) + 1 := by omega
        rw [passes (Nat.ne_of_lt before), if_pos (Nat.succ_le_of_lt before),
          if_pos (Nat.le_of_lt before), next, List.getElem?_cons_succ]
        rfl
      · subst now
        have crashes : Report.failuresOf [resultAt seen seen trial] = [trial.crash] := by
          rw [resultAt, if_pos rfl]
          rfl
        rw [crashes, if_neg (by omega), if_pos (Nat.le_refl _), Nat.sub_self]
        rfl
      · rw [passes (Nat.ne_of_gt behind), if_neg (by omega), if_neg (by omega)]
        rfl

/-- What a run reports and how many requests it makes, if all its checks are standard. -/
theorem run_crashingOn (call : Nat) (registry : suite.registry = .standard) {part : Part}
    (standard : ∀ trial ∈ suite.trials part, trial.Standard) :
    let crashes := ((suite.trials part)[call]?.map Trial.crash).toList
    suite.run (.crashingOn call) part 0 =
      (⟨(suite.trials part).length, crashes.length, crashes.take suite.config.maxFailures⟩,
        (suite.trials part).length) := by
  intro crashes
  have failures := failuresOf_resultAt call (suite.trials part) 0
  rw [if_pos (Nat.zero_le call), Nat.sub_zero] at failures
  rw [run_eq, bind_apply, attempts_crashingOn registry standard]
  simp only [Report.summary, failures, List.length_map, List.length_zipIdx, Nat.zero_add]
  rfl

/-! ## Standard suites -/

theorem length_fixedCases :
    fixedCases.length = Fixtures.boxes.length * Fixtures.samples.length := by
  simp only [fixedCases, List.length_flatMap, List.length_map, List.map_const',
    List.sum_replicate_nat]

theorem standard_of_fixed {item : Case} (member : item ∈ fixedCases) : item.expr.Standard := by
  have samples : ∀ e ∈ Fixtures.samples, e.Standard := by decide
  simp only [fixedCases, List.mem_flatMap, List.mem_map] at member
  obtain ⟨_, _, e, inSamples, rfl⟩ := member
  exact samples e inSamples

/-- Drawn expressions build in the standard modes, where only standard expressions do. -/
theorem standard_of_random (made : ofConfig .standard config = .ok suite)
    (coordinates : ∀ name ∈ config.generator.vars, name ∈ ["x", "y", "z"]) {item : Case}
    (member : item ∈ suite.randomCases) : item.expr.Standard := by
  have drawn := suite.randomCases_drawn.2 item member
  obtain ⟨entry, registered, standardEntry⟩ :=
    exists_standard_entry (show "i" ∈ Registry.standard.names by decide)
  exact (standardEntry item.expr).1.mp (exists_build_of_draws made coordinates drawn registered)

theorem standard_of_trials (made : ofConfig .standard config = .ok suite)
    (coordinates : ∀ name ∈ config.generator.vars, name ∈ ["x", "y", "z"]) :
    ∀ trial ∈ suite.trials .all, trial.Standard := by
  intro trial member
  obtain ⟨inCases, inNames⟩ := mem_trialsOf_iff.mp member
  rw [(fields_of_ofConfig made).1] at inNames
  refine ⟨?_, inNames⟩
  exact (List.mem_append.mp inCases).elim standard_of_fixed (standard_of_random made coordinates)

theorem length_trials (made : ofConfig .standard config = .ok suite) :
    (suite.trials .all).length = 2 * (Fixtures.boxes.length * Fixtures.samples.length +
      (config.schedule.map Batch.count).sum) := by
  obtain ⟨registry, configured, _⟩ := fields_of_ofConfig made
  have names : suite.registry.names.length = 2 := by
    rw [registry]
    decide
  rw [trials, length_trialsOf, cases, List.length_append, length_fixedCases,
    suite.randomCases_drawn.1, configured, names, Nat.mul_comm]

/-- A tabulator that crashes at one request, counted from zero, is asked in every check of a
    standard suite, the crash included. If the suite makes so many checks, exactly one of them
    fails: the one of that number, with the crash of its expression in its mode and box. -/
theorem runAll_crashingOn (made : ofConfig .standard config = .ok suite)
    (coordinates : ∀ name ∈ config.generator.vars, name ∈ ["x", "y", "z"]) (call : Nat) :
    let total := 2 * (Fixtures.boxes.length * Fixtures.samples.length +
      (config.schedule.map Batch.count).sum)
    let ran := suite.runAll (.crashingOn call) 0
    ran.2 = total ∧ ran.1.cases = total ∧ ran.1.failed = (if call < total then 1 else 0) ∧
      (call < total → 0 < config.maxFailures →
        ∃ trial, (suite.trials .all)[call]? = some trial ∧
          ran.1.failures = [.crash ⟨trial.expr.render, trial.mode, trial.box⟩
            ("tabulator crashed on " ++ trial.expr.render)]) := by
  intro total ran
  obtain ⟨registry, configured, _⟩ := fields_of_ofConfig made
  have length : (suite.trials .all).length = total := length_trials made
  have ranEq := run_crashingOn call registry (standard_of_trials made coordinates)
  have whole : ran = suite.run (.crashingOn call) .all 0 := rfl
  rw [whole, ranEq, length, configured]
  refine ⟨rfl, rfl, ?_, ?_⟩
  · by_cases inside : call < total
    · rw [List.getElem?_eq_getElem (length ▸ inside), if_pos inside]
      rfl
    · rw [List.getElem?_eq_none (by omega), if_neg inside]
      rfl
  · intro inside room
    have found : (suite.trials .all)[call]? = some (suite.trials .all)[call] :=
      List.getElem?_eq_getElem (length ▸ inside)
    refine ⟨_, found, ?_⟩
    rw [found]
    exact List.take_of_length_le room

/-- A crash in the last mode of the second case, and one that comes too late. -/
theorem runAll_crashingOn_fourth_check :
    let config : SuiteConfig := { schedule := [⟨.linear 2, 5⟩], maxFailures := 1 }
    ∃ suite, ofConfig .standard config = .ok suite ∧
      (∀ name ∈ config.generator.vars, name ∈ ["x", "y", "z"]) ∧
      (suite.runAll (.crashingOn 3) 0).1.failed = 1 ∧
      (suite.runAll (.crashingOn 3) 0).1.failures =
        [.crash ⟨"145", "i", ⟨Fixtures.middle, Fixtures.middle, Fixtures.middle⟩⟩
          "tabulator crashed on 145"] ∧
      (suite.runAll (.crashingOn 250) 0).1.failed = 0 ∧
      (suite.runAll (.crashingOn 250) 0).2 = 250 := by
  intro config
  obtain ⟨suite, made⟩ : ∃ suite, ofConfig .standard config = .ok suite := ⟨_, rfl⟩
  have coordinates : ∀ name ∈ config.generator.vars, name ∈ ["x", "y", "z"] := by decide
  obtain ⟨_, _, one, kept⟩ := runAll_crashingOn made coordinates 3
  obtain ⟨trial, found, failures⟩ := kept (by decide) (by decide)
  obtain ⟨requests, _, none, _⟩ := runAll_crashingOn made coordinates 250
  have fourth : (suite.trials .all)[3]? =
      some ⟨⟨.constant 145, ⟨Fixtures.middle, Fixtures.middle, Fixtures.middle⟩⟩, "i"⟩ := by
    rw [trials, trialsOf, (fields_of_ofConfig made).1]
    rfl
  obtain rfl := Option.some.inj (fourth.symm.trans found)
  exact ⟨suite, made, coordinates, one, failures, none, requests⟩

end Suite

end Gridwise
