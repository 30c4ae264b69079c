import Gridwise.Mode.Trapping
import Gridwise.Proofs.Building

/-!
# Modes of arithmetic

The standard modes and the trapping one have the same operators and differ only in the operations
behind them. In such a mode the standard expressions build and no others, and each operator of a
standard expression applies its operation to the values of its operands.
-/

namespace Gridwise

/-- The operations of arithmetic on a type of numbers. Each of them may fault. -/
structure Operations (α : Type) where
  neg : UnaryOp α
  add : BinaryOp α
  sub : BinaryOp α
  mul : BinaryOp α
  div : BinaryOp α

/-- The operation behind a binary operator. -/
def Operations.binary? (operations : Operations α) (op : String) : Option (BinaryOp α) :=
  if op = "+" then some operations.add
  else if op = "-" then some operations.sub
  else if op = "*" then some operations.mul
  else if op = "/" then some operations.div
  else none

/-- The mode has the operators of arithmetic, with these operations, and no others. -/
structure Mode.Provides (mode : Mode α) (operations : Operations α) : Prop where
  unary : ∀ op, mode.unary.find? op = if op = "-" then some operations.neg else none
  binary : ∀ op, mode.binary.find? op = operations.binary? op

variable {α : Type} {mode : Mode α} {operations : Operations α} {e arg left right : Expr}
  {op : String} {args : Axes α}

theorem Operations.binary?_eq_some_iff {meaning : BinaryOp α} :
    operations.binary? op = some meaning ↔
      (op = "+" ∧ operations.add = meaning) ∨ (op = "-" ∧ operations.sub = meaning) ∨
        (op = "*" ∧ operations.mul = meaning) ∨ (op = "/" ∧ operations.div = meaning) := by
  unfold Operations.binary?
  by_cases plus : op = "+"
  · simp [plus]
  by_cases minus : op = "-"
  · simp [minus]
  by_cases times : op = "*"
  · simp [times]
  by_cases slash : op = "/"
  · simp [slash]
  simp [plus, minus, times, slash]

theorem Operations.exists_binary?_iff :
    (∃ meaning, operations.binary? op = some meaning) ↔ op ∈ ["+", "-", "*", "/"] := by
  simp [binary?_eq_some_iff, exists_or]

theorem ofName?_eq_some_iff {name : String} {axis : Axis} :
    Axis.ofName? name = some axis ↔
      (name = "x" ∧ axis = .x) ∨ (name = "y" ∧ axis = .y) ∨ (name = "z" ∧ axis = .z) := by
  unfold Axis.ofName?
  by_cases x : name = "x"
  · simp [x, eq_comm]
  by_cases y : name = "y"
  · simp [y, eq_comm]
  by_cases z : name = "z"
  · simp [z, eq_comm]
  simp [x, y, z]

theorem exists_ofName?_iff {name : String} :
    (∃ axis, Axis.ofName? name = some axis) ↔ name ∈ ["x", "y", "z"] := by
  simp [ofName?_eq_some_iff, exists_or]

namespace Mode.Provides

theorem exists_build_iff (provides : mode.Provides operations) :
    (∃ evaluator, Evaluator.build mode e = .ok evaluator) ↔ e.Standard := by
  rw [Evaluator.exists_build_iff]
  apply Expr.Uses.congr
  · intro name
    exact exists_ofName?_iff
  · intro op
    rw [provides.unary op]
    by_cases minus : op = "-"
    · simp [minus]
    · simp [minus]
  · intro op
    rw [provides.binary op]
    exact Operations.exists_binary?_iff

theorem evaluateAt_unary (provides : mode.Provides operations)
    (standard : (Expr.unary op arg).Standard) :
    evaluateAt mode (.unary op arg) args =
      evaluateAt mode arg args >>= fun a => (operations.neg a).mapError .arithmetic := by
  obtain ⟨known, standard⟩ := standard
  obtain ⟨inner, built⟩ := provides.exists_build_iff.mpr standard
  obtain rfl : op = "-" := by simpa using known
  exact Gridwise.evaluateAt_unary built (provides.unary "-")

theorem evaluateAt_binary (provides : mode.Provides operations)
    (standard : (Expr.binary op left right).Standard) {meaning : BinaryOp α}
    (known : operations.binary? op = some meaning) :
    evaluateAt mode (.binary op left right) args =
      evaluateAt mode left args >>= fun a => evaluateAt mode right args >>= fun b =>
        (meaning a b).mapError .arithmetic := by
  obtain ⟨_, standardLeft, standardRight⟩ := standard
  obtain ⟨first, builtLeft⟩ := provides.exists_build_iff.mpr standardLeft
  obtain ⟨second, builtRight⟩ := provides.exists_build_iff.mpr standardRight
  exact Gridwise.evaluateAt_binary builtLeft builtRight ((provides.binary op).trans known)

end Mode.Provides

/-- The operations that only fault where a quotient is missing. -/
def Operations.ofTotal (neg : α → α) (add sub mul : α → α → α) (quotient? : α → α → Option α) :
    Operations α where
  neg a := .ok (neg a)
  add a b := .ok (add a b)
  sub a b := .ok (sub a b)
  mul a b := .ok (mul a b)
  div a b := Mode.quotientOrFault (quotient? a b)

section Total

variable {neg : α → α} {add sub mul : α → α → α} {quotient? : α → α → Option α}

theorem Operations.ofTotal_eq_fault_iff {meaning : BinaryOp α}
    (known : (ofTotal neg add sub mul quotient?).binary? op = some meaning) {a b : α}
    {fault : Fault} :
    meaning a b = .error fault ↔
      fault = .divisionByZero ∧ op = "/" ∧ quotient? a b = none := by
  rcases Operations.binary?_eq_some_iff.mp known with
    ⟨rfl, rfl⟩ | ⟨rfl, rfl⟩ | ⟨rfl, rfl⟩ | ⟨rfl, rfl⟩
  · simp [ofTotal]
  · simp [ofTotal]
  · simp [ofTotal]
  · simp only [ofTotal]
    cases quotient? a b with
    | none => simp [Mode.quotientOrFault, eq_comm]
    | some value => simp [Mode.quotientOrFault]

theorem Operations.ofTotal_value_or_divisionByZero {meaning : BinaryOp α}
    (known : (ofTotal neg add sub mul quotient?).binary? op = some meaning) (a b : α) :
    (∃ value, meaning a b = .ok value) ∨ meaning a b = .error .divisionByZero := by
  cases applied : meaning a b with
  | ok value => exact .inl ⟨value, rfl⟩
  | error fault =>
      obtain ⟨rfl, _⟩ := (ofTotal_eq_fault_iff known).mp applied
      exact .inr rfl

/-- Where only quotients can be missing, a standard expression has a value or divides by zero. -/
theorem Mode.Provides.value_or_divisionByZero
    (provides : mode.Provides (.ofTotal neg add sub mul quotient?)) (standard : e.Standard) :
    (∃ value, evaluateAt mode e args = .ok value) ∨
      evaluateAt mode e args = .error (.arithmetic .divisionByZero) := by
  induction e with
  | constant value => exact .inl ⟨_, evaluateAt_constant value⟩
  | var name =>
      obtain ⟨axis, named⟩ := exists_ofName?_iff.mpr standard
      exact .inl ⟨_, evaluateAt_var named⟩
  | unary op arg ih =>
      rw [provides.evaluateAt_unary standard]
      rcases ih standard.2 with ⟨a, evaluated⟩ | faulted
      · exact .inl ⟨neg a, by rw [evaluated]; rfl⟩
      · exact .inr (by rw [faulted]; rfl)
  | binary op left right ihLeft ihRight =>
      obtain ⟨meaning, known⟩ := Operations.exists_binary?_iff.mpr standard.1
      rw [provides.evaluateAt_binary standard known]
      rcases ihLeft standard.2.1 with ⟨a, evaluatedLeft⟩ | faulted
      · rcases ihRight standard.2.2 with ⟨b, evaluatedRight⟩ | faulted
        · rw [evaluatedLeft, evaluatedRight]
          rcases Operations.ofTotal_value_or_divisionByZero known a b with
            ⟨value, applied⟩ | faulted
          · exact .inl ⟨value, congrArg (Except.mapError EvalError.arithmetic) applied⟩
          · exact .inr (congrArg (Except.mapError EvalError.arithmetic) faulted)
        · exact .inr (by rw [evaluatedLeft, faulted]; rfl)
      · exact .inr (by rw [faulted]; rfl)

end Total

/-- The mode made of some operations of arithmetic. -/
def Mode.ofOperations (name : String) (constant : Int32 → α) (operations : Operations α) : Mode α :=
  bare name constant
    |>.withCheckedUnary "-" operations.neg
    |>.withCheckedBinary "+" operations.add
    |>.withCheckedBinary "-" operations.sub
    |>.withCheckedBinary "*" operations.mul
    |>.withCheckedBinary "/" operations.div

theorem ofOperations_provides (name : String) (constant : Int32 → α) (operations : Operations α) :
    (Mode.ofOperations name constant operations).Provides operations := by
  constructor
  · intro op
    exact NameMap.find?_insert _ _ _ _
  · intro op
    simp only [Mode.ofOperations, Mode.withCheckedBinary, Mode.withCheckedUnary, Mode.bare,
      NameMap.find?_insert, NameMap.find?_empty, Operations.binary?]
    grind

/-- The wrapping operations on words. -/
def wordOperations : Operations Int32 := .ofTotal (- ·) (· + ·) (· - ·) (· * ·) Word.quotient?

/-- The operations on integers. -/
def integerOperations : Operations Int :=
  .ofTotal (- ·) (· + ·) (· - ·) (· * ·) Integer.quotient?

/-- The trapping operations on words. -/
def trappingOperations : Operations Int32 :=
  ⟨Word.checkedNeg, Word.checkedAdd, Word.checkedSub, Word.checkedMul, Word.checkedDiv⟩

theorem int_provides : Mode.int.Provides wordOperations :=
  ofOperations_provides "i" id wordOperations

theorem bigInt_provides : Mode.bigInt.Provides integerOperations :=
  ofOperations_provides "bi" Int32.toInt integerOperations

theorem trapping_provides (name : String) : (Mode.trapping name).Provides trappingOperations :=
  ofOperations_provides name id trappingOperations

end Gridwise
