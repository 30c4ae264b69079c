import Gridwise.Check
import Gridwise.Proofs.Comparison
import Gridwise.Proofs.Points

/-!
# What a check tells

A check passes exactly if the tabulator answers with the right table, whatever else it may do. It
ends otherwise with the first thing that is wrong: the mode, the expression, the answer, and last
the table. The tabulator is asked once, and only about an expression that builds.
-/

namespace Gridwise

variable {σ : Type} {tabulator : Tabulator σ} {registry : Registry} {config : TabulateConfig}
  {e : Expr} {name : String} {box : Box} {state : σ} {entry : RegisteredMode} {answer : Response}
  {site : CheckSite} {expected cells : Table Value}

/-- The mode is registered and the expression builds in it. -/
structure Checkable (registry : Registry) (e : Expr) (name : String) (entry : RegisteredMode) :
    Prop where
  registered : registry.find? name = some entry
  builds : ∃ evaluator, Evaluator.build entry.mode e = .ok evaluator

/-- How a check has to end, given what the tabulator answers when it is asked. Each rule applies
    where none of those before it does. -/
inductive Verdict (registry : Registry) (e : Expr) (name : String) (box : Box)
    (answer : Response) : Except CheckFailure Unit → Prop where
  | unknownMode :
      registry.find? name = none →
      Verdict registry e name box answer (.error (.unknownMode name))
  | build {entry : RegisteredMode} {source : BuildError} :
      registry.find? name = some entry → Evaluator.build entry.mode e = .error source →
      Verdict registry e name box answer (.error (.build e.render name source))
  | crash {entry : RegisteredMode} {payload : Option String} :
      Checkable registry e name entry → answer = .crashed payload →
      Verdict registry e name box answer
        (.error (.crash ⟨e.render, name, box⟩ (crashMessage payload)))
  | tabulator {entry : RegisteredMode} {message : String} :
      Checkable registry e name entry → answer = .failed message →
      Verdict registry e name box answer (.error (.tabulator ⟨e.render, name, box⟩ message))
  | shape {entry : RegisteredMode} {cells : Table Value} {path : List Nat} {expected actual : Nat} :
      Checkable registry e name entry → answer = .table cells → ¬ entry.Tabulates e box cells →
      Verdict registry e name box answer
        (.error (.shape ⟨e.render, name, box⟩ path expected actual))
  | cell {entry : RegisteredMode} {cells : Table Value} {point : Axes Int}
      {expected actual : Option Value} :
      Checkable registry e name entry → answer = .table cells → ¬ entry.Tabulates e box cells →
      Verdict registry e name box answer
        (.error (.cell ⟨e.render, name, box⟩ point expected actual))
  | passed {entry : RegisteredMode} {cells : Table Value} :
      Checkable registry e name entry → answer = .table cells → entry.Tabulates e box cells →
      Verdict registry e name box answer (.ok ())

theorem check_of_unknown (unknown : registry.find? name = none) :
    check tabulator registry config e name box = pure (.error (.unknownMode name)) := by
  unfold check
  rw [unknown]

theorem check_of_build_error {source : BuildError} (registered : registry.find? name = some entry)
    (failed : Evaluator.build entry.mode e = .error source) :
    check tabulator registry config e name box = pure (.error (.build e.render name source)) := by
  unfold check
  rw [registered]
  simp only [RegisteredMode.tabulate_of_build_error failed]

/-- A check whose mode and expression are known passes judgement on the tabulator's one answer. -/
theorem check_of_checkable (checkable : Checkable registry e name entry) :
    check tabulator registry config e name box = (do
      let answer ← tabulator ⟨name, e.render, box.bounds⟩
      return judge ⟨e.render, name, box⟩ (entry.tableOver e box) answer) := by
  obtain ⟨evaluator, built⟩ := checkable.builds
  unfold check
  rw [checkable.registered]
  simp only [RegisteredMode.tabulate_of_build built]
  rfl

theorem outcome_of_checkable (checkable : Checkable registry e name entry) :
    (check tabulator registry config e name box state).1 =
      judge ⟨e.render, name, box⟩ (entry.tableOver e box)
        (tabulator ⟨name, e.render, box.bounds⟩ state).1 := by
  rw [check_of_checkable checkable]
  rfl

theorem judge_table_eq_ok_iff :
    judge site expected (.table cells) = .ok () ↔ expected = cells := by
  rw [← Table.mismatch?_eq_none_iff, judge]
  cases expected.mismatch? cells with
  | none => simp
  | some mismatch => simp

theorem judge_table_eq_error_iff {failure : CheckFailure} :
    judge site expected (.table cells) = .error failure ↔
      ∃ mismatch, expected.mismatch? cells = some mismatch ∧
        failure = .ofMismatch site mismatch := by
  rw [judge]
  cases expected.mismatch? cells with
  | none => simp
  | some mismatch => simp [eq_comm]

theorem verdict_judge (checkable : Checkable registry e name entry) (answer : Response) :
    Verdict registry e name box answer
      (judge ⟨e.render, name, box⟩ (entry.tableOver e box) answer) := by
  cases answer with
  | crashed payload => exact .crash checkable rfl
  | failed message => exact .tabulator checkable rfl
  | table cells =>
      by_cases right : entry.Tabulates e box cells
      · rw [judge_table_eq_ok_iff.mpr (RegisteredMode.tabulates_iff.mp right).symm]
        exact .passed checkable rfl right
      · cases differs : (entry.tableOver e box).mismatch? cells with
        | none =>
            have same := Table.mismatch?_eq_none_iff.mp differs
            exact absurd (RegisteredMode.tabulates_iff.mpr same.symm) right
        | some mismatch =>
            simp only [judge, differs]
            cases mismatch with
            | shape path expected actual => exact .shape checkable rfl right
            | cell offset expected actual => exact .cell checkable rfl right

theorem verdict_check (tabulator : Tabulator σ) (registry : Registry) (config : TabulateConfig)
    (e : Expr) (name : String) (box : Box) (state : σ) :
    Verdict registry e name box (tabulator ⟨name, e.render, box.bounds⟩ state).1
      (check tabulator registry config e name box state).1 := by
  cases registered : registry.find? name with
  | none =>
      rw [check_of_unknown registered]
      exact .unknownMode registered
  | some entry =>
      cases built : Evaluator.build entry.mode e with
      | error source =>
          rw [check_of_build_error registered built]
          exact .build registered built
      | ok evaluator =>
          have checkable : Checkable registry e name entry := ⟨registered, evaluator, built⟩
          rw [outcome_of_checkable checkable]
          exact verdict_judge checkable _

/-- A check that does not ask fails in the same way for all tabulators. -/
theorem exists_failure_of_not_checkable (unknown : ¬ ∃ entry, Checkable registry e name entry)
    (config : TabulateConfig) (box : Box) :
    ∃ failure, ∀ {σ : Type} (tabulator : Tabulator σ),
      check tabulator registry config e name box = pure (.error failure) := by
  cases registered : registry.find? name with
  | none => exact ⟨_, fun tabulator => check_of_unknown registered⟩
  | some entry =>
      cases built : Evaluator.build entry.mode e with
      | error source => exact ⟨_, fun tabulator => check_of_build_error registered built⟩
      | ok evaluator => exact absurd ⟨entry, registered, evaluator, built⟩ unknown

/-- A recording tabulator sees the one request of a check whose mode and expression are known, and
    no request of any other check. -/
theorem check_recording (tabulator : Tabulator σ) (registry : Registry) (config : TabulateConfig)
    (e : Expr) (name : String) (box : Box) (state : σ) (past : List Request) :
    let checked := check tabulator registry config e name box state
    ∃ requests, check tabulator.recording registry config e name box (state, past) =
        (checked.1, checked.2, requests ++ past) ∧
      ((∃ entry, Checkable registry e name entry) ∧
          requests = [⟨name, e.render, box.bounds⟩] ∨
        (¬ ∃ entry, Checkable registry e name entry) ∧ requests = []) := by
  by_cases known : ∃ entry, Checkable registry e name entry
  · obtain ⟨entry, checkable⟩ := known
    rw [check_of_checkable checkable, check_of_checkable checkable]
    exact ⟨[⟨name, e.render, box.bounds⟩], rfl, .inl ⟨⟨entry, checkable⟩, rfl⟩⟩
  · obtain ⟨failure, fails⟩ := exists_failure_of_not_checkable known config box
    rw [fails, fails]
    exact ⟨[], rfl, .inr ⟨known, rfl⟩⟩

/-- A check passes if and only if the mode is registered, the expression builds in it and the
    tabulator answers with the right table. Any check ends as its verdict says, and the tabulator
    gets one request if the expression builds and none otherwise. -/
theorem check_passes_iff_tabulates (tabulator : Tabulator σ) (registry : Registry)
    (config : TabulateConfig) (e : Expr) (name : String) (box : Box) (state : σ) :
    let request : Request := ⟨name, e.render, box.bounds⟩
    let answer := (tabulator request state).1
    let checked := check tabulator registry config e name box state
    (checked.1 = .ok () ↔ ∃ entry cells, Checkable registry e name entry ∧
      answer = .table cells ∧ entry.Tabulates e box cells) ∧
    Verdict registry e name box answer checked.1 ∧
    ∀ past, ∃ requests, check tabulator.recording registry config e name box (state, past) =
        (checked.1, checked.2, requests ++ past) ∧
      ((∃ entry, Checkable registry e name entry) ∧ requests = [request] ∨
        (¬ ∃ entry, Checkable registry e name entry) ∧ requests = []) := by
  intro request answer checked
  have verdict : Verdict registry e name box answer checked.1 :=
    verdict_check tabulator registry config e name box state
  refine ⟨?_, verdict, check_recording tabulator registry config e name box state⟩
  constructor
  · intro passed
    rw [passed] at verdict
    cases verdict with
    | passed checkable answered right => exact ⟨_, _, checkable, answered, right⟩
  · intro ⟨entry, cells, checkable, answered, right⟩
    have judged : checked.1 = judge ⟨e.render, name, box⟩ (entry.tableOver e box) answer :=
      outcome_of_checkable checkable
    rw [judged, answered]
    exact judge_table_eq_ok_iff.mpr (RegisteredMode.tabulates_iff.mp right).symm

end Gridwise
