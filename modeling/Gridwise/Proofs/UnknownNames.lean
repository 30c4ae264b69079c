import Gridwise.Proofs.Interpreting
import Gridwise.Proofs.Registered

/-!
# Unknown names

The text format has no operators but those of arithmetic, so the only thing that can be wrong with
an expression that was read is a variable that is no coordinate. The first one stops an evaluator
from being built, and it stops the interpreter at every point: a division by zero elsewhere in the
expression leaves a value missing, but does not keep the interpreter from going through the rest.
-/

namespace Gridwise

variable {α : Type} {mode : Mode α} {e : Expr} {name text : String} {source : BuildError}
  {entry : RegisteredMode}

namespace Table

theorem collect_eq_error {ε : Type} {error : ε} {cell : Axes Int32 → Except ε (Option α)}
    (fails : ∀ point, cell point = .error error) (box : Box) :
    collect box.bounds cell = .error error := by
  have nonempty : ∀ interval : Interval, interval.coordinates ≠ [] := by
    intro interval empty
    have positive := interval.length_pos
    rw [← Bounds.length_coordinates, empty] at positive
    exact Nat.lt_irrefl 0 positive
  unfold collect
  rw [Bounds.collect_eq_mapM]
  refine mapM_eq_error (nonempty box.x) fun x _ => ?_
  rw [Bounds.collect_eq_mapM]
  refine mapM_eq_error (nonempty box.y) fun y _ => ?_
  rw [Bounds.collect_eq_mapM]
  exact mapM_eq_error (nonempty box.z) fun z _ => fails ⟨x, y, z⟩

end Table

namespace Interpreter

variable {arithmetic : Arithmetic α} {point : Axes Int32}

theorem coordinate?_eq_none (unnamed : Axis.ofName? name = none) :
    coordinate? name point = none := by
  unfold coordinate?
  split
  · cases unnamed
  · cases unnamed
  · cases unnamed
  · rfl

theorem walk_of_build (provides : mode.Provides arithmetic.operations)
    (embeds : mode.constant = arithmetic.constant) {evaluator : Evaluator α}
    (built : Evaluator.build mode e = .ok evaluator) (point : Axes Int32) :
    ∃ value, walk arithmetic point e = .ok value :=
  ⟨_, walk_eq_evaluateAt provides embeds (provides.exists_build_iff.mp ⟨evaluator, built⟩)⟩

/-- The variable for which an evaluator cannot be built is the one that the walk stumbles over, at
    whatever point it goes through the expression. -/
theorem walk_of_build_error (provides : mode.Provides arithmetic.operations)
    (embeds : mode.constant = arithmetic.constant) (writable : e.Writable)
    (failed : Evaluator.build mode e = .error source) :
    ∃ culprit, source = .unsupportedVariable culprit ∧
      ∀ point, walk arithmetic point e = .error (.unknownVariable culprit) := by
  induction e with
  | constant value => cases failed
  | var name =>
      unfold Evaluator.build at failed
      cases unnamed : Axis.ofName? name with
      | some axis =>
          rw [unnamed] at failed
          cases failed
      | none =>
          rw [unnamed] at failed
          cases failed
          refine ⟨name, rfl, fun point => ?_⟩
          rw [walk, coordinate?_eq_none unnamed]
  | unary op arg ih =>
      obtain ⟨rfl, writable⟩ := writable
      rcases bind_eq_error_iff.mp failed with failed | ⟨inner, built, failed⟩
      · obtain ⟨culprit, rfl, stumbles⟩ := ih writable failed
        refine ⟨culprit, rfl, fun point => ?_⟩
        rw [walk, stumbles point]
        rfl
      · rw [provides.unary "-"] at failed
        cases failed
  | binary op left right ihLeft ihRight =>
      obtain ⟨known, writableLeft, writableRight⟩ := writable
      rcases bind_eq_error_iff.mp failed with failed | ⟨first, builtLeft, failed⟩
      · obtain ⟨culprit, rfl, stumbles⟩ := ihLeft writableLeft failed
        refine ⟨culprit, rfl, fun point => ?_⟩
        rw [walk, stumbles point]
        rfl
      rcases bind_eq_error_iff.mp failed with failed | ⟨second, builtRight, failed⟩
      · -- The right operand is walked whether or not the left one has a value.
        obtain ⟨culprit, rfl, stumbles⟩ := ihRight writableRight failed
        refine ⟨culprit, rfl, fun point => ?_⟩
        obtain ⟨value, walked⟩ := walk_of_build provides embeds builtLeft point
        rw [walk, walked, stumbles point]
        rfl
      · obtain ⟨meaning, isMeaning⟩ := Operations.exists_binary?_iff.mpr known
        rw [provides.binary op, isMeaning] at failed
        cases failed

theorem respond_eq_failed {request : Request} {box : Box} {error : Error}
    (readable : Expr.read request.expression = .ok e) (boxed : request.bounds = box.bounds)
    (fails : ∀ point, cell request.mode e point = .error error) :
    respond request = .failed error.message := by
  rw [respond, table_of_read readable, boxed, Table.collect_eq_error fails]

end Interpreter

/-- In a standard mode, what is wrong with an expression that can be written is wrong for the
    interpreter at every point. -/
theorem cell_of_build_error (registered : Registry.standard.find? name = some entry)
    (writable : e.Writable) (failed : Evaluator.build entry.mode e = .error source) :
    ∃ culprit, source = .unsupportedVariable culprit ∧
      ∀ point, Interpreter.cell name e point = .error (.unknownVariable culprit) := by
  have member : name ∈ Registry.standard.names := Registry.mem_names_iff.mpr ⟨entry, registered⟩
  rcases name_of_standard member with rfl | rfl
  · cases registered
    obtain ⟨culprit, same, stumbles⟩ : ∃ culprit, source = .unsupportedVariable culprit ∧
        ∀ point, Interpreter.walk Interpreter.integers point e =
          .error (.unknownVariable culprit) :=
      Interpreter.walk_of_build_error bigInt_provides rfl writable failed
    refine ⟨culprit, same, fun point => ?_⟩
    rw [Interpreter.cell, stumbles point]
    rfl
  · cases registered
    obtain ⟨culprit, same, stumbles⟩ : ∃ culprit, source = .unsupportedVariable culprit ∧
        ∀ point, Interpreter.walk Interpreter.words point e = .error (.unknownVariable culprit) :=
      Interpreter.walk_of_build_error int_provides rfl writable failed
    refine ⟨culprit, same, fun point => ?_⟩
    rw [Interpreter.cell, stumbles point]
    rfl

/-- The interpreter answers a text that can be read with the table of the registered mode, and it
    does so exactly if no variable of the expression is unknown, wherever it stands. Otherwise
    neither has a table, and both name the same variable. -/
theorem respond_iff_tabulate (readable : Expr.read text = .ok e)
    (member : name ∈ Registry.standard.names) (box : Box) (config : TabulateConfig) :
    let answer := Interpreter.respond ⟨name, text, box.bounds⟩
    ∃ entry, Registry.standard.find? name = some entry ∧
      (∀ cells, answer = .table cells ↔ entry.tabulate e box config = .ok cells) ∧
      ((∃ cells, answer = .table cells) ↔ e.Standard) ∧
      ((¬ ∃ cells, answer = .table cells) → ∃ culprit,
        entry.tabulate e box config = .error (.unsupportedVariable culprit) ∧
          answer = .failed ("unknown variable " ++ culprit)) := by
  intro answer
  have writable : e.Writable := Expr.writable_of_spells (Expr.read_eq_ok_iff.mp readable)
  obtain ⟨entry, registered, standardEntry⟩ := exists_standard_entry member
  obtain ⟨builds_iff, agrees⟩ := standardEntry e
  refine ⟨entry, registered, ?_⟩
  cases built : Evaluator.build entry.mode e with
  | ok evaluator =>
      have standard : e.Standard := builds_iff.mp ⟨evaluator, built⟩
      have answered : answer = .table (entry.tableOver e box) :=
        Interpreter.respond_eq_table readable (agrees standard)
      rw [answered, RegisteredMode.tabulate_of_build built]
      refine ⟨?_, ?_, ?_⟩
      · intro cells
        simp
      · exact ⟨fun _ => standard, fun _ => ⟨_, rfl⟩⟩
      · intro without
        exact absurd ⟨_, rfl⟩ without
  | error source =>
      obtain ⟨culprit, rfl, stumbles⟩ := cell_of_build_error registered writable built
      have answered : answer = .failed (Interpreter.Error.unknownVariable culprit).message :=
        Interpreter.respond_eq_failed readable rfl stumbles
      rw [answered, RegisteredMode.tabulate_of_build_error built]
      refine ⟨?_, ?_, ?_⟩
      · intro cells
        simp
      · constructor
        · rintro ⟨cells, ⟨⟩⟩
        · intro standard
          obtain ⟨evaluator, builds⟩ := builds_iff.mpr standard
          cases builds.symm.trans built
      · intro _
        exact ⟨culprit, rfl, rfl⟩

/-- A variable behind a quotient by zero, and one around it. -/
theorem respond_iff_tabulate_dead_code :
    let behind : Expr := .binary "+" (.binary "/" (.constant 1) (.var "x")) (.var "w")
    let around : Expr := .binary "*" (.unary "-" (.binary "/" (.constant 1) (.var "x"))) (.var "v")
    let box : Box := ⟨⟨⟨0, 1⟩, by decide⟩, ⟨⟨0, 0⟩, by decide⟩, ⟨⟨0, 0⟩, by decide⟩⟩
    "i" ∈ Registry.standard.names ∧ "bi" ∈ Registry.standard.names ∧
      Expr.read "((1/x)+w)" = .ok behind ∧ Expr.read "((-(1/x))*v)" = .ok around ∧
      Interpreter.respond ⟨"i", "((1/x)+w)", box.bounds⟩ = .failed "unknown variable w" ∧
      (RegisteredMode.ofInt .int).tabulate behind box {} = .error (.unsupportedVariable "w") ∧
      Interpreter.respond ⟨"bi", "((-(1/x))*v)", box.bounds⟩ = .failed "unknown variable v" ∧
      (RegisteredMode.ofBig .bigInt).tabulate around box {} =
        .error (.unsupportedVariable "v") := by
  intro behind around box
  have int : "i" ∈ Registry.standard.names := by decide
  have bigInt : "bi" ∈ Registry.standard.names := by decide
  have readBehind : Expr.read "((1/x)+w)" = .ok behind := by rfl
  have readAround : Expr.read "((-(1/x))*v)" = .ok around := by rfl
  have unknownBehind : ¬ behind.Standard := by decide
  have unknownAround : ¬ around.Standard := by decide
  refine ⟨int, bigInt, readBehind, readAround, ?_, rfl, ?_, rfl⟩
  · obtain ⟨entry, ⟨⟩, _, answers_iff, rejects⟩ := respond_iff_tabulate readBehind int box {}
    obtain ⟨culprit, ⟨⟩, answered⟩ := rejects fun answers => unknownBehind (answers_iff.mp answers)
    exact answered
  · obtain ⟨entry, ⟨⟩, _, answers_iff, rejects⟩ := respond_iff_tabulate readAround bigInt box {}
    obtain ⟨culprit, ⟨⟩, answered⟩ := rejects fun answers => unknownAround (answers_iff.mp answers)
    exact answered

end Gridwise
