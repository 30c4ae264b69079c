import Gridwise.Proofs.Checking
import Gridwise.Proofs.Drawing
import Gridwise.Proofs.Registered
import Gridwise.Proofs.Summary
import Gridwise.Suite

/-!
# Running a suite

A suite settles which checks it makes, and in which order, before it makes the first one. Whatever
part of it is run, the report is the summary of the results of these checks, made one after the
other, and the tabulator is asked about those of them whose expression builds, whatever it answers.
-/

namespace Gridwise

/-- One check that a suite makes: a case in one mode. -/
structure Trial extends Case where
  mode : String

namespace Suite

/-- The cases of a part of a suite. -/
def cases (suite : Suite) : Part → List Case
  | .single item => [item]
  | .fixed => fixedCases
  | .random => suite.randomCases
  | .all => fixedCases ++ suite.randomCases

/-- The checks that some cases come to: each case in every mode. -/
def trialsOf (suite : Suite) (items : List Case) : List Trial :=
  items.flatMap fun item => suite.registry.names.map (Trial.mk item)

/-- The checks of a part of a suite. -/
def trials (suite : Suite) (part : Part) : List Trial := suite.trialsOf (suite.cases part)

variable {σ : Type}

/-- Makes one check. -/
def attempt (suite : Suite) (tabulator : Tabulator σ) (trial : Trial) : StateM σ CheckResult :=
  check tabulator suite.registry suite.config.tabulation trial.expr trial.mode trial.box

/-- Makes some checks, one after the other. -/
def attempts (suite : Suite) (tabulator : Tabulator σ) (trials : List Trial) :
    StateM σ (List CheckResult) :=
  trials.mapM (suite.attempt tabulator)

/-- What the tabulator is asked in a check, if it is asked. -/
def request? (suite : Suite) (trial : Trial) : Option Request :=
  match suite.registry.find? trial.mode with
  | none => none
  | some entry =>
      match Evaluator.build entry.mode trial.expr with
      | .ok _ => some ⟨trial.mode, trial.expr.render, trial.box.bounds⟩
      | .error _ => none

variable {suite : Suite} {tabulator : Tabulator σ}

theorem attempts_append (first second : List Trial) :
    suite.attempts tabulator (first ++ second) = do
      let results ← suite.attempts tabulator first
      let others ← suite.attempts tabulator second
      return results ++ others :=
  List.mapM_append

theorem attempts_cons (trial : Trial) (rest : List Trial) :
    suite.attempts tabulator (trial :: rest) = do
      let result ← suite.attempt tabulator trial
      let others ← suite.attempts tabulator rest
      return result :: others :=
  List.mapM_cons

theorem mem_trialsOf_iff {items : List Case} {trial : Trial} :
    trial ∈ suite.trialsOf items ↔ trial.toCase ∈ items ∧ trial.mode ∈ suite.registry.names := by
  simp only [trialsOf, List.mem_flatMap, List.mem_map]
  constructor
  · rintro ⟨item, inItems, mode, inNames, rfl⟩
    exact ⟨inItems, inNames⟩
  · intro ⟨inItems, inNames⟩
    exact ⟨trial.toCase, inItems, trial.mode, inNames, rfl⟩

theorem length_attempts (trials : List Trial) (state : σ) :
    (suite.attempts tabulator trials state).1.length = trials.length :=
  length_mapM_apply _ trials state

/-- What every check ends with, whatever the tabulator remembers, all of them end with. -/
theorem forall_attempts {property : CheckResult → Prop} {trials : List Trial}
    (each : ∀ trial ∈ trials, ∀ state, property (suite.attempt tabulator trial state).1)
    (state : σ) : ∀ result ∈ (suite.attempts tabulator trials state).1, property result :=
  forall_mapM_apply each state

theorem runModes_eq (item : Case) (modes : List String) (earlier : List CheckResult) :
    suite.runModes tabulator item modes (.summary suite.config.maxFailures earlier) = do
      let results ← suite.attempts tabulator (modes.map (Trial.mk item))
      return .summary suite.config.maxFailures (earlier ++ results) := by
  induction modes generalizing earlier with
  | nil => simp [runModes, attempts]
  | cons mode modes ih =>
      rw [List.map_cons, attempts_cons, runModes]
      simp only [Report.record_summary, ih, bind_assoc, pure_bind, List.append_assoc,
        List.singleton_append]
      rfl

theorem runCase_eq (item : Case) :
    suite.runCase tabulator item = do
      let results ← suite.attempts tabulator (suite.registry.names.map (Trial.mk item))
      return .summary suite.config.maxFailures results := by
  rw [runCase, ← Report.summary_nil, runModes_eq]
  rfl

theorem runCases_eq (items : List Case) (earlier : List CheckResult) :
    suite.runCases tabulator items (.summary suite.config.maxFailures earlier) = do
      let results ← suite.attempts tabulator (suite.trialsOf items)
      return .summary suite.config.maxFailures (earlier ++ results) := by
  induction items generalizing earlier with
  | nil => simp [runCases, attempts, trialsOf]
  | cons item items ih =>
      rw [trialsOf, List.flatMap_cons, attempts_append, runCases, runCase_eq]
      simp only [Report.merge_summary, ih, bind_assoc, pure_bind, List.append_assoc]
      rfl

theorem runCases_empty (items : List Case) :
    suite.runCases tabulator items .empty = do
      let results ← suite.attempts tabulator (suite.trialsOf items)
      return .summary suite.config.maxFailures results := by
  rw [← Report.summary_nil, runCases_eq]
  rfl

theorem runCases_append (first second : List Case) :
    suite.runCases tabulator (first ++ second) .empty = do
      let report ← suite.runCases tabulator first .empty
      let other ← suite.runCases tabulator second .empty
      return report.merge other suite.config.maxFailures := by
  rw [runCases_empty, trialsOf, List.flatMap_append, attempts_append]
  simp only [runCases_empty, trialsOf, bind_assoc, pure_bind, Report.merge_summary]

theorem run_eq (suite : Suite) (tabulator : Tabulator σ) (part : Part) :
    suite.run tabulator part = do
      let results ← suite.attempts tabulator (suite.trials part)
      return .summary suite.config.maxFailures results := by
  cases part with
  | single item =>
      rw [run, runCase_eq, trials, cases, trialsOf, List.flatMap_singleton]
  | fixed => exact runCases_empty fixedCases
  | random => exact runCases_empty suite.randomCases
  | all =>
      have whole : suite.run tabulator .all =
          suite.runCases tabulator (fixedCases ++ suite.randomCases) .empty :=
        (runCases_append fixedCases suite.randomCases).symm
      rw [whole, runCases_empty]
      rfl

/-! ## The checks of a suite -/

variable {registry : Registry} {config : SuiteConfig}

/-- What a suite is made of: the registry and the configuration that are given, and a generator that
    draws the given operators as far as all modes have them, from the beginning of the stream of the
    given seed. -/
theorem fields_of_ofConfig (made : ofConfig registry config = .ok suite) :
    suite.registry = registry ∧ suite.config = config ∧
      suite.generator.config = { config.generator with
        operators := config.generator.operators.inter registry.commonOperators } ∧
      suite.generator.stream = .ofSeed config.generator.seed := by
  unfold ofConfig at made
  simp only at made
  split at made
  · next generator generated =>
      cases made
      refine ⟨rfl, rfl, ?_⟩
      unfold Generator.ofConfig at generated
      split at generated
      · split at generated
        · cases generated
          exact ⟨rfl, rfl⟩
        · cases generated
      · cases generated
  · cases made

theorem length_trialsOf (suite : Suite) (items : List Case) :
    (suite.trialsOf items).length = items.length * suite.registry.names.length := by
  simp only [trialsOf, List.length_flatMap, List.length_map, List.map_const',
    List.sum_replicate_nat]

theorem trials_single (suite : Suite) (item : Case) :
    suite.trials (.single item) = suite.registry.names.map (Trial.mk item) :=
  List.flatMap_singleton _ _

theorem trials_fixed (suite : Suite) :
    suite.trials .fixed = Fixtures.boxes.flatMap fun box =>
      Fixtures.samples.flatMap fun e => suite.registry.names.map (Trial.mk ⟨e, box.2⟩) := by
  simp only [trials, cases, fixedCases, trialsOf, List.flatMap_assoc, List.flatMap_map]

theorem trials_random (suite : Suite) :
    suite.trials .random =
      ((suite.config.schedule.flatMap fun batch => List.replicate batch.count batch.stop).mapM
        (drawCase suite.generator) suite.generator.stream).1.flatMap fun item =>
          suite.registry.names.map (Trial.mk item) := by
  rw [← drawBatches_eq_mapM]
  rfl

theorem trials_all (suite : Suite) :
    suite.trials .all = suite.trials .fixed ++ suite.trials .random :=
  List.flatMap_append

/-! ## Requests of a run -/

theorem request?_of_checkable {entry : RegisteredMode} {trial : Trial}
    (checkable : Checkable suite.registry trial.expr trial.mode entry) :
    suite.request? trial = some ⟨trial.mode, trial.expr.render, trial.box.bounds⟩ := by
  obtain ⟨evaluator, built⟩ := checkable.builds
  unfold request?
  rw [checkable.registered]
  simp only [built]

theorem request?_of_not_checkable {trial : Trial}
    (unknown : ¬ ∃ entry, Checkable suite.registry trial.expr trial.mode entry) :
    suite.request? trial = none := by
  unfold request?
  cases registered : suite.registry.find? trial.mode with
  | none => rfl
  | some entry =>
      cases built : Evaluator.build entry.mode trial.expr with
      | error source => simp only [built]
      | ok evaluator => exact absurd ⟨entry, registered, evaluator, built⟩ unknown

theorem attempt_recording (trial : Trial) (state : σ) (past : List Request) :
    let attempted := suite.attempt tabulator trial state
    suite.attempt tabulator.recording trial (state, past) =
      (attempted.1, attempted.2, (suite.request? trial).toList ++ past) := by
  obtain ⟨requests, recorded, asked⟩ := check_recording tabulator suite.registry
    suite.config.tabulation trial.expr trial.mode trial.box state past
  rcases asked with ⟨⟨entry, checkable⟩, rfl⟩ | ⟨unknown, rfl⟩
  · rw [request?_of_checkable checkable]
    exact recorded
  · rw [request?_of_not_checkable unknown]
    exact recorded

theorem attempts_recording (trials : List Trial) (state : σ) (past : List Request) :
    let attempted := suite.attempts tabulator trials state
    suite.attempts tabulator.recording trials (state, past) =
      (attempted.1, attempted.2, (trials.filterMap suite.request?).reverse ++ past) := by
  induction trials generalizing state past with
  | nil => rfl
  | cons trial rest ih =>
      have asked : ((trial :: rest).filterMap suite.request?).reverse ++ past =
          (rest.filterMap suite.request?).reverse ++ ((suite.request? trial).toList ++ past) := by
        cases request : suite.request? trial <;> simp [request]
      have first : suite.attempt tabulator.recording trial (state, past) = _ :=
        attempt_recording trial state past
      intro attempted
      have whole : attempted = _ := congrFun (attempts_cons trial rest) state
      rw [whole, attempts_cons, asked]
      simp only [bind_apply, first, ih]
      rfl

/-- The report of a run is the summary of the results of its checks, one for each, made in the
    order that the suite settles: case by case, and each case in all modes by ascending names. The
    tabulator is asked about every check that builds, in this order, whatever it answers. Cases
    that are run one part after the other give the merged reports of the parts, and every other way
    to group results gives their summary too.

    The fixed cases are every expression over every box, box by box. The random ones are drawn one
    by one, each with the stop schedule of its batch and the expression before the box, from a
    stream that the configuration settles. All cases are the fixed ones and then the random ones. -/
theorem run_reports_checks (suite : Suite) (tabulator : Tabulator σ) :
    (∀ part, suite.run tabulator part = do
      let results ← suite.attempts tabulator (suite.trials part)
      return .summary suite.config.maxFailures results) ∧
    (∀ trials state, (suite.attempts tabulator trials state).1.length = trials.length) ∧
    (suite.registry.names.Pairwise (· < ·) ∧
      ∀ name, name ∈ suite.registry.names ↔ ∃ entry, suite.registry.find? name = some entry) ∧
    (∀ part state past,
      let ran := suite.run tabulator part state
      suite.run tabulator.recording part (state, past) =
        (ran.1, ran.2, ((suite.trials part).filterMap suite.request?).reverse ++ past)) ∧
    (∀ first second, suite.runCases tabulator (first ++ second) .empty = do
      let report ← suite.runCases tabulator first .empty
      let other ← suite.runCases tabulator second .empty
      return report.merge other suite.config.maxFailures) ∧
    (∀ limit (grouping : Report.Grouping),
      grouping.report limit = .summary limit grouping.results) ∧
    (∀ item, suite.trials (.single item) = suite.registry.names.map (Trial.mk item)) ∧
    (suite.trials .fixed = Fixtures.boxes.flatMap fun box =>
      Fixtures.samples.flatMap fun e => suite.registry.names.map (Trial.mk ⟨e, box.2⟩)) ∧
    (suite.trials .random =
      ((suite.config.schedule.flatMap fun batch => List.replicate batch.count batch.stop).mapM
        (drawCase suite.generator) suite.generator.stream).1.flatMap fun item =>
          suite.registry.names.map (Trial.mk item)) ∧
    suite.trials .all = suite.trials .fixed ++ suite.trials .random ∧
    ∀ registry config, ofConfig registry config = .ok suite →
      suite.registry = registry ∧ suite.config = config ∧
        suite.generator.config = { config.generator with
          operators := config.generator.operators.inter registry.commonOperators } ∧
        suite.generator.stream = .ofSeed config.generator.seed := by
  refine ⟨run_eq suite tabulator, length_attempts,
    ⟨suite.registry.names_sorted, fun name => Registry.mem_names_iff⟩, ?_, runCases_append,
    Report.report_eq_summary, suite.trials_single, suite.trials_fixed, suite.trials_random,
    suite.trials_all, fun registry config made => fields_of_ofConfig made⟩
  intro part state past ran
  have ranEq : ran = _ := congrFun (run_eq suite tabulator part) state
  rw [ranEq, run_eq]
  simp only [bind_apply, attempts_recording]
  rfl

/-- Six boxes, twenty expressions and two modes, and one batch of five drawn cases. -/
theorem run_reports_checks_five_drawn :
    let config : SuiteConfig := { schedule := [⟨.linear 3, 5⟩], maxFailures := 3 }
    let tabulator : Tabulator Unit := .ofFunction fun _ => .table []
    ∃ suite, ofConfig .standard config = .ok suite ∧ suite.config = config ∧
      (suite.run tabulator .fixed ()).1.cases = 240 ∧
      (suite.run tabulator .random ()).1.cases = 10 ∧
      (suite.run tabulator .all ()).1.cases = 250 := by
  intro config tabulator
  obtain ⟨suite, made⟩ : ∃ suite, ofConfig .standard config = .ok suite := ⟨_, rfl⟩
  obtain ⟨reports, count, _, _, _, _, _, fixed, random, all, fields⟩ :=
    run_reports_checks suite tabulator
  obtain ⟨registry, configured, _, _⟩ := fields .standard config made
  have ran (part : Part) : (suite.run tabulator part ()).1.cases = (suite.trials part).length := by
    rw [reports]
    exact count (suite.trials part) ()
  have fixedLength : (suite.trials .fixed).length = 240 := by
    rw [fixed, registry]
    rfl
  have randomLength : (suite.trials .random).length = 10 := by
    rw [random]
    refine (suite.length_trialsOf _).trans ?_
    rw [length_mapM_apply, configured, registry]
    rfl
  have allLength : (suite.trials .all).length = 250 := by
    rw [all, List.length_append, fixedLength, randomLength]
  exact ⟨suite, made, configured, (ran .fixed).trans fixedLength,
    (ran .random).trans randomLength, (ran .all).trans allLength⟩

end Suite

end Gridwise
