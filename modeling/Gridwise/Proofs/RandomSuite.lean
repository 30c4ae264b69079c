import Gridwise.Proofs.Arithmetic
import Gridwise.Proofs.Drawing
import Gridwise.Proofs.Running
import Gridwise.Tabulator.Faulty

/-!
# Random cases build

A suite draws expressions over operators that all its modes have. If its variables are coordinates,
every drawn expression builds in every mode, so that a failure of a random check is always one of
the tabulator.
-/

namespace Gridwise

/-- The failure is one of the tabulator that is checked: it is neither that the mode is unknown nor
    that the expression does not build. -/
def CheckFailure.OfTabulator : CheckFailure → Prop
  | .unknownMode _ | .build .. => False
  | .tabulator .. | .crash .. | .shape .. | .cell .. => True

theorem ofTabulator_of_checkable {σ : Type} {tabulator : Tabulator σ} {registry : Registry}
    {config : TabulateConfig} {e : Expr} {name : String} {box : Box} {state : σ}
    {entry : RegisteredMode} {failure : CheckFailure}
    (checkable : Checkable registry e name entry)
    (failed : (check tabulator registry config e name box state).1 = .error failure) :
    failure.OfTabulator := by
  rw [outcome_of_checkable checkable] at failed
  unfold judge at failed
  split at failed
  · cases failed
    trivial
  · cases failed
    trivial
  · split at failed
    · cases failed
    · next mismatch _ =>
        cases failed
        cases mismatch <;> trivial

namespace Suite

variable {registry : Registry} {config : SuiteConfig} {suite : Suite} {σ : Type}
  {tabulator : Tabulator σ} {e : Expr} {name : String} {entry : RegisteredMode}

/-- A suite's expressions use the variables that are given, and operators that are given and that
    all modes have. -/
theorem uses_of_draws (made : ofConfig registry config = .ok suite)
    (drawn : suite.generator.config.Draws e) :
    e.Uses (· ∈ config.generator.vars)
      (fun op => op ∈ config.generator.operators.unary.toList ∧ registry.SharesUnary op)
      (fun op => op ∈ config.generator.operators.binary.toList ∧ registry.SharesBinary op) := by
  obtain ⟨_, _, fields, _⟩ := fields_of_ofConfig made
  unfold GeneratorConfig.Draws at drawn
  rw [fields] at drawn
  refine drawn.mono (fun name member => member) ?_ ?_
  · intro op member
    obtain ⟨given, common⟩ := NameSet.mem_inter.mp member
    exact ⟨given, Registry.sharesUnary_of_common common⟩
  · intro op member
    obtain ⟨given, common⟩ := NameSet.mem_inter.mp member
    exact ⟨given, Registry.sharesBinary_of_common common⟩

theorem exists_build_of_draws (made : ofConfig registry config = .ok suite)
    (coordinates : ∀ name ∈ config.generator.vars, name ∈ ["x", "y", "z"])
    (drawn : suite.generator.config.Draws e) (registered : registry.find? name = some entry) :
    ∃ evaluator, Evaluator.build entry.mode e = .ok evaluator := by
  rw [Evaluator.exists_build_iff]
  refine (uses_of_draws made drawn).mono ?_ ?_ ?_
  · exact fun name member => exists_ofName?_iff.mpr (coordinates name member)
  · intro op ⟨_, shared⟩
    exact shared name entry registered
  · intro op ⟨_, shared⟩
    exact shared name entry registered

theorem checkable_of_random (made : ofConfig registry config = .ok suite)
    (coordinates : ∀ name ∈ config.generator.vars, name ∈ ["x", "y", "z"]) {trial : Trial}
    (member : trial ∈ suite.trials .random) :
    ∃ entry, Checkable registry trial.expr trial.mode entry := by
  obtain ⟨inCases, inNames⟩ := mem_trialsOf_iff.mp member
  obtain ⟨entry, registered⟩ := Registry.mem_names_iff.mp inNames
  rw [(fields_of_ofConfig made).1] at registered
  have drawn := suite.randomCases_drawn.2 trial.toCase inCases
  exact ⟨entry, registered, exists_build_of_draws made coordinates drawn registered⟩

theorem ofTabulator_of_random (made : ofConfig registry config = .ok suite)
    (coordinates : ∀ name ∈ config.generator.vars, name ∈ ["x", "y", "z"])
    (tabulator : Tabulator σ) (state : σ) :
    ∀ failure ∈ (suite.runRandom tabulator state).1.failures, failure.OfTabulator := by
  have ofTabulator : ∀ result ∈ (suite.attempts tabulator (suite.trials .random) state).1,
      ∀ failure, result = .error failure → failure.OfTabulator := by
    refine forall_attempts ?_ state
    intro trial member state failure failed
    obtain ⟨entry, checkable⟩ := checkable_of_random made coordinates member
    rw [← (fields_of_ofConfig made).1] at checkable
    exact ofTabulator_of_checkable checkable failed
  have ran : suite.runRandom tabulator state = _ :=
    congrFun (run_eq suite tabulator .random) state
  rw [ran]
  intro failure member
  obtain ⟨result, inResults, isFailure⟩ := List.mem_filterMap.mp (List.mem_of_mem_take member)
  cases result with
  | ok => cases isFailure
  | error other =>
      cases isFailure
      exact ofTabulator _ inResults failure rfl

/-- If the variables of a suite's generator are coordinates, every expression it draws, wherever in
    the random stream and with whatever stop schedule, has only given variables, and given
    operators that all modes have in the same arity, and it builds in all modes. So all random
    checks ask the tabulator, and all failures that are reported of them are the tabulator's. -/
theorem random_cases_build (made : ofConfig registry config = .ok suite)
    (coordinates : ∀ name ∈ config.generator.vars, name ∈ ["x", "y", "z"]) :
    (∀ (stop : StopSchedule) (stream : Keystream),
      let e := (suite.generator.config.drawExpr stop stream).1
      e.Uses (· ∈ config.generator.vars)
        (fun op => op ∈ config.generator.operators.unary.toList ∧ registry.SharesUnary op)
        (fun op => op ∈ config.generator.operators.binary.toList ∧ registry.SharesBinary op) ∧
      ∀ name entry, registry.find? name = some entry →
        ∃ evaluator, Evaluator.build entry.mode e = .ok evaluator) ∧
    (∀ trial ∈ suite.trials .random, ∃ entry, Checkable registry trial.expr trial.mode entry) ∧
    ∀ (σ : Type) (tabulator : Tabulator σ) (state : σ),
      ∀ failure ∈ (suite.runRandom tabulator state).1.failures, failure.OfTabulator := by
  refine ⟨fun stop stream => ?_, fun trial => checkable_of_random made coordinates,
    fun σ => ofTabulator_of_random made coordinates⟩
  have drawn := suite.generator.config.drawExpr_draws stop stream
  exact ⟨uses_of_draws made drawn,
    fun name entry => exists_build_of_draws made coordinates drawn⟩

/-- A negation that one mode only has as a binary operator, and one that both modes have. -/
theorem random_cases_build_shared_operators :
    let first := (Mode.bare "a" id).withUnary "-" (- ·) |>.withUnary "neg" (- ·)
      |>.withBinary "+" (· + ·)
    let second := (Mode.bare "b" Int32.toInt).withUnary "neg" (- ·) |>.withBinary "-" (· - ·)
      |>.withBinary "+" (· + ·)
    let registry := Registry.ofList [.ofInt first, .ofBig second]
    let config : SuiteConfig :=
      { generator := { operators := .ofLists ["-", "neg"] ["-", "+", "/"], vars := ["z"] } }
    ∃ suite, ofConfig registry config = .ok suite ∧
      (∀ name ∈ config.generator.vars, name ∈ ["x", "y", "z"]) ∧
      suite.generator.config.operators = .ofLists ["neg"] ["+"] ∧
      (∀ trial ∈ suite.trials .random, ∃ entry, Checkable registry trial.expr trial.mode entry) ∧
      ∀ failure ∈ (suite.runRandom .truncating ()).1.failures, failure.OfTabulator := by
  intro first second registry config
  obtain ⟨suite, made⟩ : ∃ suite, ofConfig registry config = .ok suite := ⟨_, rfl⟩
  have coordinates : ∀ name ∈ config.generator.vars, name ∈ ["x", "y", "z"] := by decide
  obtain ⟨_, checkable, ofTabulator⟩ := random_cases_build made coordinates
  have operators : suite.generator.config.operators = .ofLists ["neg"] ["+"] := by
    rw [(fields_of_ofConfig made).2.2.1]
    decide
  exact ⟨suite, made, coordinates, operators, checkable, ofTabulator Unit .truncating ()⟩

end Suite

end Gridwise
