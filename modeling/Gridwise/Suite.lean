import Gridwise.Generator
import Gridwise.Suite.Fixtures
import Gridwise.Suite.Report

/-!
# Suites

A suite checks a tabulator case by case, where a case is an expression and a box and is
checked in every registered mode, in the order of their names. The fixed cases are the
fixed expressions over the fixed boxes; the random ones are drawn from a generator that
starts afresh for every run and uses only operators which all modes have. So the cases are
settled before the tabulator is asked anything.
-/

namespace Gridwise

/-- What a suite runs and how. -/
structure SuiteConfig where
  generator : GeneratorConfig := {}
  schedule : List Batch := Fixtures.schedule
  tabulation : TabulateConfig := {}
  /-- The number of failures that a report keeps. -/
  maxFailures : Nat := 16

/-- An expression to be checked over a box. -/
structure Case where
  expr : Expr
  box : Box

/-- A registry, a configuration, and a generator for the operators of all its modes. -/
structure Suite : Type 1 where
  registry : Registry
  config : SuiteConfig
  generator : Generator

namespace Suite

/-- The suite over a registry. -/
def ofConfig (registry : Registry) (config : SuiteConfig) : Except GeneratorError Suite :=
  let operators := config.generator.operators.inter registry.commonOperators
  match Generator.ofConfig { config.generator with operators } with
  | .ok generator => .ok ⟨registry, config, generator⟩
  | .error error => .error error

/-- Draws so many cases with one stop schedule. -/
def drawCases (generator : Generator) (stop : StopSchedule) :
    Nat → StateM Keystream (List Case)
  | 0 => return []
  | count + 1 => do
      let expr ← generator.config.drawExpr stop
      let box ← generator.config.drawBox generator.valid
      let rest ← drawCases generator stop count
      return ⟨expr, box⟩ :: rest

/-- Draws the cases of some batches, one batch after the other. -/
def drawBatches (generator : Generator) : List Batch → StateM Keystream (List Case)
  | [] => return []
  | batch :: batches => do
      let cases ← drawCases generator batch.stop batch.count
      let rest ← drawBatches generator batches
      return cases ++ rest

/-- The fixed cases: every expression over the first box, then over the second, and so on. -/
def fixedCases : List Case :=
  Fixtures.boxes.flatMap fun box => Fixtures.samples.map fun expr => ⟨expr, box.2⟩

/-- The random cases. -/
def randomCases (suite : Suite) : List Case :=
  (drawBatches suite.generator suite.config.schedule suite.generator.stream).1

/-- Checks one case in each of some modes and adds the results to a report. -/
def runModes (suite : Suite) (tabulator : Tabulator σ) (item : Case) :
    List String → Report → StateM σ Report
  | [], report => return report
  | mode :: modes, report => do
      let result ←
        check tabulator suite.registry suite.config.tabulation item.expr mode item.box
      runModes suite tabulator item modes (report.record suite.config.maxFailures result)

/-- Checks one case in every mode. -/
def runCase (suite : Suite) (tabulator : Tabulator σ) (item : Case) : StateM σ Report :=
  suite.runModes tabulator item suite.registry.names .empty

/-- Checks some cases and merges their reports into one. -/
def runCases (suite : Suite) (tabulator : Tabulator σ) :
    List Case → Report → StateM σ Report
  | [], report => return report
  | item :: cases, report => do
      let next ← suite.runCase tabulator item
      suite.runCases tabulator cases (report.merge next suite.config.maxFailures)

/-- What of a suite is to be run. -/
inductive Part where
  /-- One case. -/
  | single (item : Case)
  /-- The fixed cases. -/
  | fixed
  /-- The random cases. -/
  | random
  /-- The fixed cases and then the random ones. -/
  | all

/-- Checks the fixed cases. -/
def runFixed (suite : Suite) (tabulator : Tabulator σ) : StateM σ Report :=
  suite.runCases tabulator fixedCases .empty

/-- Checks the random cases. -/
def runRandom (suite : Suite) (tabulator : Tabulator σ) : StateM σ Report :=
  suite.runCases tabulator suite.randomCases .empty

/-- Checks the fixed cases and then the random ones. -/
def runAll (suite : Suite) (tabulator : Tabulator σ) : StateM σ Report := do
  let fixed ← suite.runFixed tabulator
  let random ← suite.runRandom tabulator
  return fixed.merge random suite.config.maxFailures

/-- Runs a part of the suite. -/
def run (suite : Suite) (tabulator : Tabulator σ) : Part → StateM σ Report
  | .single item => suite.runCase tabulator item
  | .fixed => suite.runFixed tabulator
  | .random => suite.runRandom tabulator
  | .all => suite.runAll tabulator

end Suite

end Gridwise
