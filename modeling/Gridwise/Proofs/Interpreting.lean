import Gridwise.Proofs.Arithmetic
import Gridwise.Proofs.Checking
import Gridwise.Proofs.RoundTrip
import Gridwise.Tabulator.Interpreter

/-!
# The interpreter against the evaluators

The interpreter reads back the very expression that was written for it, and walking a standard
expression finds the values that its evaluators find. So in both standard modes the interpreter
passes every check whose expression is standard, and no other expression gets as far as being asked
for.
-/

namespace Gridwise

variable {α : Type} {mode : Mode α} {e : Expr} {name : String} {point : Axes Int32}

namespace Interpreter

/-- The operations of an interpreter's arithmetic. -/
def Arithmetic.operations (arithmetic : Arithmetic α) : Operations α :=
  .ofTotal arithmetic.neg arithmetic.add arithmetic.sub arithmetic.mul arithmetic.div

variable {arithmetic : Arithmetic α}

theorem coordinate?_eq {axis : Axis} (named : Axis.ofName? name = some axis) :
    coordinate? name point = some (point.get axis) := by
  rcases ofName?_eq_some_iff.mp named with ⟨rfl, rfl⟩ | ⟨rfl, rfl⟩ | ⟨rfl, rfl⟩
  · rfl
  · rfl
  · rfl

theorem operate?_eq {op : String} {meaning : BinaryOp α}
    (known : arithmetic.operations.binary? op = some meaning) (a b : α) :
    operate? arithmetic op a b = some (meaning a b).toOption := by
  rcases Operations.binary?_eq_some_iff.mp known with
    ⟨rfl, rfl⟩ | ⟨rfl, rfl⟩ | ⟨rfl, rfl⟩ | ⟨rfl, rfl⟩
  · rfl
  · rfl
  · rfl
  · show some (arithmetic.div a b) = some (Mode.quotientOrFault (arithmetic.div a b)).toOption
    cases arithmetic.div a b with
    | none => rfl
    | some quotient => rfl

theorem walk_eq_evaluateAt (provides : mode.Provides arithmetic.operations)
    (embeds : mode.constant = arithmetic.constant) (standard : e.Standard) :
    walk arithmetic point e = .ok (evaluateAt mode e (point.map mode.constant)).toOption := by
  induction e with
  | constant value =>
      rw [evaluateAt_constant, embeds]
      rfl
  | var name =>
      obtain ⟨axis, named⟩ := exists_ofName?_iff.mpr standard
      rw [evaluateAt_var named, Axes.get_map, walk, coordinate?_eq named, embeds]
      rfl
  | unary op arg ih =>
      obtain rfl : op = "-" := by simpa using standard.1
      rw [walk, ih standard.2, provides.evaluateAt_unary standard]
      cases evaluateAt mode arg (point.map mode.constant) with
      | error error => rfl
      | ok a => rfl
  | binary op left right ihLeft ihRight =>
      obtain ⟨meaning, known⟩ := Operations.exists_binary?_iff.mpr standard.1
      rw [walk, ihLeft standard.2.1, ihRight standard.2.2,
        provides.evaluateAt_binary standard known]
      cases evaluateAt mode left (point.map mode.constant) with
      | error error => rfl
      | ok a =>
          -- The interpreter walks the right operand in any case, the evaluator only from here on.
          cases evaluateAt mode right (point.map mode.constant) with
          | error error => rfl
          | ok b =>
              simp only [Except.toOption, bind, Except.bind, operate?_eq known]
              cases meaning a b with
              | error fault => rfl
              | ok value => rfl

theorem cell_int (standard : e.Standard) (point : Axes Int32) :
    cell "i" e point = .ok ((evaluate .int e point).toOption.map .int) := by
  have walked : walk words point e = _ := walk_eq_evaluateAt int_provides rfl standard
  rw [← evaluate_eq_evaluateAt] at walked
  rw [cell, walked]
  rfl

theorem cell_bigInt (standard : e.Standard) (point : Axes Int32) :
    cell "bi" e point = .ok ((evaluate .bigInt e point).toOption.map .big) := by
  have walked : walk integers point e = _ := walk_eq_evaluateAt bigInt_provides rfl standard
  rw [← evaluate_eq_evaluateAt] at walked
  rw [cell, walked]
  rfl

theorem respond_eq_table {request : Request} (readable : Expr.read request.expression = .ok e)
    {value : Axes Int32 → Option Value}
    (succeeds : ∀ point, cell request.mode e point = .ok (value point)) :
    respond request = .table (Table.tabulate (request.bounds.map Bounds.coordinates) value) := by
  rw [respond, table_of_read readable, Table.collect_eq_ok succeeds]

end Interpreter

theorem writable_of_standard (standard : e.Standard) : e.Writable := by
  refine Expr.Uses.mono ?_ ?_ ?_ standard
  · intro name known
    have known : name = "x" ∨ name = "y" ∨ name = "z" := by simpa using known
    rcases known with rfl | rfl | rfl
    · simp [Expr.IsWord]
    · simp [Expr.IsWord]
    · simp [Expr.IsWord]
  · intro op known
    simpa using known
  · intro op known
    exact known

section Check

variable {registry : Registry} {entry : RegisteredMode} {box : Box} {config : TabulateConfig}
  {σ : Type}

/-- The interpreter reads a written expression back, so where its cells are right, so is the table
    that it answers with, between any bounds. -/
theorem respond_eq_tabulate (writable : e.Writable)
    (agrees : ∀ point, Interpreter.cell name e point =
      .ok ((evaluate entry.mode e point).toOption.map entry.toValue)) (bounds : Axes Bounds) :
    Interpreter.respond ⟨name, e.render, bounds⟩ =
      .table (.tabulate (bounds.map Bounds.coordinates) (entry.cellAt e)) := by
  apply Interpreter.respond_eq_table
  · exact Expr.read_render_of_writable writable
  · exact agrees

theorem respond_eq_tableOver (writable : e.Writable)
    (agrees : ∀ point, Interpreter.cell name e point =
      .ok ((evaluate entry.mode e point).toOption.map entry.toValue)) (box : Box) :
    Interpreter.respond ⟨name, e.render, box.bounds⟩ = .table (entry.tableOver e box) :=
  respond_eq_tabulate writable agrees box.bounds

theorem check_interpreter_of_cell {evaluator : Evaluator entry.Number}
    (registered : registry.find? name = some entry)
    (built : Evaluator.build entry.mode e = .ok evaluator) (writable : e.Writable)
    (agrees : ∀ point, Interpreter.cell name e point =
      .ok ((evaluate entry.mode e point).toOption.map entry.toValue)) :
    check .interpreter registry config e name box = (pure (.ok ()) : StateM σ _) := by
  rw [check_of_checkable ⟨registered, evaluator, built⟩]
  simp only [Tabulator.interpreter, Tabulator.ofFunction, pure_bind]
  rw [respond_eq_tableOver writable agrees, judge_table_eq_ok_iff.mpr rfl]

end Check

theorem name_of_standard (member : name ∈ Registry.standard.names) : name = "bi" ∨ name = "i" := by
  have names : Registry.standard.names = ["bi", "i"] := by decide
  simpa [names] using member

/-- In a standard mode the standard expressions build, and the interpreter's cells for them are
    their evaluations. -/
theorem exists_standard_entry (member : name ∈ Registry.standard.names) :
    ∃ entry : RegisteredMode, Registry.standard.find? name = some entry ∧
      ∀ e : Expr, ((∃ evaluator, Evaluator.build entry.mode e = .ok evaluator) ↔ e.Standard) ∧
        (e.Standard → ∀ point, Interpreter.cell name e point =
          .ok ((evaluate entry.mode e point).toOption.map entry.toValue)) := by
  rcases name_of_standard member with rfl | rfl
  · refine ⟨.ofBig .bigInt, rfl, fun e => ⟨?_, ?_⟩⟩
    · exact bigInt_provides.exists_build_iff
    · exact Interpreter.cell_bigInt
  · refine ⟨.ofInt .int, rfl, fun e => ⟨?_, ?_⟩⟩
    · exact int_provides.exists_build_iff
    · exact Interpreter.cell_int

/-- In the standard modes the interpreter passes the check of every standard expression, and the
    check of any other expression ends where it does not build. -/
theorem check_interpreter (member : name ∈ Registry.standard.names) (config : TabulateConfig)
    (e : Expr) (box : Box) (σ : Type) :
    (e.Standard →
      check .interpreter .standard config e name box = (pure (.ok ()) : StateM σ _)) ∧
    (¬ e.Standard → ∃ source, check .interpreter .standard config e name box =
      (pure (.error (.build e.render name source)) : StateM σ _)) := by
  obtain ⟨entry, registered, standardEntry⟩ := exists_standard_entry member
  obtain ⟨builds_iff, agrees⟩ := standardEntry e
  constructor
  · intro standard
    obtain ⟨evaluator, built⟩ := builds_iff.mpr standard
    exact check_interpreter_of_cell registered built (writable_of_standard standard)
      (agrees standard)
  · intro unknown
    cases failed : Evaluator.build entry.mode e with
    | ok evaluator => exact absurd (builds_iff.mp ⟨evaluator, failed⟩) unknown
    | error source => exact ⟨source, check_of_build_error registered failed⟩

/-- Quotients of the least word by minus one and by zero, and a name that is no coordinate. -/
theorem check_interpreter_quotients :
    let e : Expr := .binary "/" (.var "x") (.var "y")
    let unknown : Expr := .binary "/" (.var "x") (.var "w")
    let box : Box := ⟨⟨⟨-2147483648, -2147483647⟩, by decide⟩, ⟨⟨-1, 0⟩, by decide⟩,
      ⟨⟨2147483647, 2147483647⟩, by decide⟩⟩
    "i" ∈ Registry.standard.names ∧ e.Standard ∧ ¬ unknown.Standard ∧
      check .interpreter .standard {} e "i" box = (pure (.ok ()) : StateM Nat _) ∧
      ∃ source, check .interpreter .standard {} unknown "i" box =
        (pure (.error (.build unknown.render "i" source)) : StateM Nat _) := by
  intro e unknown box
  have member : "i" ∈ Registry.standard.names := by decide
  have standard : e.Standard := by decide
  have notStandard : ¬ unknown.Standard := by decide
  refine ⟨member, standard, notStandard, ?_, ?_⟩
  · exact (check_interpreter member {} e box Nat).1 standard
  · exact (check_interpreter member {} unknown box Nat).2 notStandard

end Gridwise
