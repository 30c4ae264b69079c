import Gridwise.Proofs.Arithmetic

/-!
# Zero divisors

Of the operations of a standard mode only a quotient can be missing, and it is missing exactly where
the divisor is zero. A missing quotient leaves everything around it without a value. So a standard
expression faults exactly where the divisor of some division in it comes to zero, wherever this
division stands and whatever the dividend is.
-/

namespace Gridwise

variable {α : Type} {mode : Mode α} {args : Axes α} {zero : α} {e arg left right : Expr}
  {op name : String}

/-- Some division in the expression has this divisor. -/
def Mode.DividesBy (mode : Mode α) (divisor : α) (args : Axes α) (e : Expr) : Prop :=
  ∃ left right, (Expr.binary "/" left right).Within e ∧ evaluateAt mode right args = .ok divisor

namespace Mode

theorem not_dividesBy_constant {value : Int32} : ¬ mode.DividesBy zero args (.constant value) := by
  simp [DividesBy]

theorem not_dividesBy_var : ¬ mode.DividesBy zero args (.var name) := by
  simp [DividesBy]

theorem dividesBy_unary_iff :
    mode.DividesBy zero args (.unary op arg) ↔ mode.DividesBy zero args arg := by
  simp [DividesBy]

theorem dividesBy_binary_iff :
    mode.DividesBy zero args (.binary op left right) ↔
      (op = "/" ∧ evaluateAt mode right args = .ok zero) ∨
        mode.DividesBy zero args left ∨ mode.DividesBy zero args right := by
  constructor
  · rintro ⟨dividend, divisor, within, evaluated⟩
    rcases Expr.within_binary_iff.mp within with same | within | within
    · cases same
      exact .inl ⟨rfl, evaluated⟩
    · exact .inr (.inl ⟨dividend, divisor, within, evaluated⟩)
    · exact .inr (.inr ⟨dividend, divisor, within, evaluated⟩)
  · rintro (⟨rfl, evaluated⟩ | ⟨dividend, divisor, within, evaluated⟩ |
      ⟨dividend, divisor, within, evaluated⟩)
    · exact ⟨left, right, .whole _, evaluated⟩
    · exact ⟨dividend, divisor, .left within, evaluated⟩
    · exact ⟨dividend, divisor, .right within, evaluated⟩

end Mode

section Total

variable {neg : α → α} {add sub mul : α → α → α} {quotient? : α → α → Option α}

namespace Mode.Provides

/-- Where a quotient is missing for the divisor zero and for no other, a standard expression divides
    by zero exactly if the divisor of one of its divisions is zero. -/
theorem divisionByZero_iff (provides : mode.Provides (.ofTotal neg add sub mul quotient?))
    (missing : ∀ a b, quotient? a b = none ↔ b = zero) (standard : e.Standard) :
    evaluateAt mode e args = .error (.arithmetic .divisionByZero) ↔
      mode.DividesBy zero args e := by
  induction e with
  | constant value => simp [evaluateAt_constant, not_dividesBy_constant]
  | var name =>
      obtain ⟨axis, named⟩ := exists_ofName?_iff.mpr standard
      simp [evaluateAt_var named, not_dividesBy_var]
  | unary op arg ih =>
      rw [provides.evaluateAt_unary standard, dividesBy_unary_iff, ← ih standard.2,
        bind_eq_error_iff]
      simp [Operations.ofTotal, mapError_eq_error_iff]
  | binary op left right ihLeft ihRight =>
      obtain ⟨meaning, known⟩ := Operations.exists_binary?_iff.mpr standard.1
      rw [provides.evaluateAt_binary standard known, dividesBy_binary_iff,
        ← ihLeft standard.2.1, ← ihRight standard.2.2]
      simp only [bind_eq_error_iff, mapError_eq_error_iff, Operations.ofTotal_eq_fault_iff known,
        missing, true_and]
      constructor
      · rintro (faulted | ⟨a, _, faulted | ⟨b, evaluated, division, rfl⟩⟩)
        · exact .inr (.inl faulted)
        · exact .inr (.inr faulted)
        · exact .inl ⟨division, evaluated⟩
      · intro divides
        -- A fault of the dividend hides what the divisor is, but it is a division by zero as well.
        rcases provides.value_or_divisionByZero standard.2.1 with ⟨a, evaluatedLeft⟩ | faulted
        · refine .inr ⟨a, evaluatedLeft, ?_⟩
          rcases divides with ⟨division, evaluated⟩ | faulted | faulted
          · exact .inr ⟨zero, evaluated, division, rfl⟩
          · cases evaluatedLeft.symm.trans faulted
          · exact .inl faulted
        · exact .inl faulted

theorem exists_build_faults_iff (provides : mode.Provides (.ofTotal neg add sub mul quotient?))
    (missing : ∀ a b, quotient? a b = none ↔ b = zero) (standard : e.Standard) :
    ∃ evaluator, Evaluator.build mode e = .ok evaluator ∧ ∀ args fault,
      evaluator.apply args = .error fault ↔
        fault = .divisionByZero ∧ mode.DividesBy zero args e := by
  obtain ⟨evaluator, built⟩ := provides.exists_build_iff.mpr standard
  refine ⟨evaluator, built, fun args fault => ?_⟩
  rw [← provides.divisionByZero_iff missing standard, ← evaluateAt_eq_fault_iff built]
  constructor
  · intro faulted
    rcases provides.value_or_divisionByZero standard with ⟨value, evaluated⟩ | divided
    · cases evaluated.symm.trans faulted
    · cases divided.symm.trans faulted
      exact ⟨rfl, divided⟩
  · rintro ⟨rfl, divided⟩
    exact divided

end Mode.Provides

end Total

/-- In both standard modes a standard expression has no value exactly where the divisor of some
    division in it is zero, at any arguments of the mode's numbers, and then it divides by zero.
    It never overflows. -/
theorem faults_iff_dividesBy_zero (standard : e.Standard) :
    (∃ evaluator, Evaluator.build .int e = .ok evaluator ∧ ∀ args fault,
      evaluator.apply args = .error fault ↔
        fault = .divisionByZero ∧ Mode.int.DividesBy 0 args e) ∧
    ∃ evaluator, Evaluator.build .bigInt e = .ok evaluator ∧ ∀ args fault,
      evaluator.apply args = .error fault ↔
        fault = .divisionByZero ∧ Mode.bigInt.DividesBy 0 args e := by
  constructor
  · refine int_provides.exists_build_faults_iff ?_ standard
    intro a b
    simp [Word.quotient?]
  · refine bigInt_provides.exists_build_faults_iff ?_ standard
    intro a b
    simp [Integer.quotient?]

/-- A divisor that wraps around to zero, under a product with zero. -/
theorem faults_iff_dividesBy_zero_wrapped_square :
    let square : Expr := .binary "*" (.var "y") (.var "y")
    let e : Expr := .binary "*" (.constant 0) (.binary "/" (.var "x") square)
    e.Standard ∧ Mode.int.DividesBy 0 ⟨1, 65536, 0⟩ e ∧
      (∃ evaluator, Evaluator.build .int e = .ok evaluator ∧
        evaluator.apply ⟨1, 65536, 0⟩ = .error .divisionByZero) ∧
      ¬ Mode.bigInt.DividesBy 0 ⟨1, 65536, 0⟩ e := by
  intro square e
  have standard : e.Standard := by decide
  obtain ⟨⟨evaluator, built, faults_iff⟩, evaluatorBig, builtBig, faultsBig_iff⟩ :=
    faults_iff_dividesBy_zero standard
  have divides : Mode.int.DividesBy 0 ⟨1, 65536, 0⟩ e :=
    ⟨.var "x", square, .right (.whole _), rfl⟩
  refine ⟨standard, divides, ⟨evaluator, built, (faults_iff _ _).mpr ⟨rfl, divides⟩⟩, ?_⟩
  intro divides
  have faulted := (faultsBig_iff _ _).mpr ⟨rfl, divides⟩
  cases builtBig
  cases faulted

end Gridwise
