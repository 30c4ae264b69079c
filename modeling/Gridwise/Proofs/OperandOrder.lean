import Gridwise.Proofs.Arithmetic
import Gridwise.Table

/-!
# The order of operands

An operation evaluates its left operand before its right one, so exchanging them can only be seen by
the fault that is met first. The standard modes have a single fault, which all operators pass on. So
sums and products have the same results with their operands exchanged, differences have opposite
ones, and as expressions are built from the results of building their parts, this is so wherever
the operation stands.
-/

namespace Gridwise

variable {α : Type} {mode : Mode α} {e other left right : Expr} {op : String}
  {first second evaluator : Evaluator α} {args : Axes α}

namespace Expr

/-- An expression with a hole in the place of one subtree. -/
inductive Context where
  | hole
  | unary (op : String) (arg : Context)
  | left (op : String) (left : Context) (right : Expr)
  | right (op : String) (left : Expr) (right : Context)

namespace Context

/-- Puts an expression into the hole. -/
def fill : Context → Expr → Expr
  | .hole, e => e
  | .unary op arg, e => .unary op (arg.fill e)
  | .left op left right, e => .binary op (left.fill e) right
  | .right op left right, e => .binary op left (right.fill e)

/-- Around the hole there are no variables but the coordinates and no operators but those of
    arithmetic. -/
def Standard : Context → Prop
  | .hole => True
  | .unary op arg => op ∈ ["-"] ∧ arg.Standard
  | .left op left right => op ∈ ["+", "-", "*", "/"] ∧ left.Standard ∧ right.Standard
  | .right op left right => op ∈ ["+", "-", "*", "/"] ∧ left.Standard ∧ right.Standard

theorem standard_fill {context : Context} (standard : context.Standard) (filling : e.Standard) :
    (context.fill e).Standard := by
  induction context with
  | hole => exact filling
  | unary op arg ih => exact ⟨standard.1, ih standard.2⟩
  | left op left right ih => exact ⟨standard.1, ih standard.2.1, standard.2.2⟩
  | right op left right ih => exact ⟨standard.1, standard.2.1, ih standard.2.2⟩

end Context

/-- The second expression is an operation on two operands with these exchanged: for a difference,
    the opposite of the reversed one. -/
inductive Exchanges (left right : Expr) : Expr → Expr → Prop where
  | sum : Exchanges left right (.binary "+" left right) (.binary "+" right left)
  | product : Exchanges left right (.binary "*" left right) (.binary "*" right left)
  | difference :
      Exchanges left right (.binary "-" left right) (.unary "-" (.binary "-" right left))

theorem Exchanges.standard (exchanges : left.Exchanges right e other)
    (standardLeft : left.Standard) (standardRight : right.Standard) : e.Standard := by
  cases exchanges with
  | sum => exact ⟨by decide, standardLeft, standardRight⟩
  | product => exact ⟨by decide, standardLeft, standardRight⟩
  | difference => exact ⟨by decide, standardLeft, standardRight⟩

end Expr

namespace Evaluator

/-- What is built from an expression only depends on what is built from its parts. -/
theorem build_fill_congr (same : build mode e = build mode other) (context : Expr.Context) :
    build mode (context.fill e) = build mode (context.fill other) := by
  induction context with
  | hole => exact same
  | unary op arg ih => rw [Expr.Context.fill, Expr.Context.fill, build, build, ih]
  | left op left right ih => rw [Expr.Context.fill, Expr.Context.fill, build, build, ih]
  | right op left right ih => rw [Expr.Context.fill, Expr.Context.fill, build, build, ih]

theorem build_binary {meaning : BinaryOp α} (builtLeft : build mode left = .ok first)
    (builtRight : build mode right = .ok second) (known : mode.binary.find? op = some meaning) :
    build mode (.binary op left right) = .ok (binary meaning first second) :=
  build_binary_eq_ok_iff.mpr ⟨first, second, meaning, builtLeft, builtRight, known, rfl⟩

/-- Where two operands that both fault do so in the same way, they can be exchanged together with
    the operands of the operation. -/
theorem binary_exchange {f g : BinaryOp α} (exchanges : ∀ a b, f a b = g b a)
    (sameFault : ∀ args fault otherFault, first.apply args = .error fault →
      second.apply args = .error otherFault → fault = otherFault) :
    binary f first second = binary g second first := by
  refine congrArg Evaluator.mk (funext fun args => ?_)
  cases appliedFirst : first.apply args with
  | ok a =>
      cases second.apply args with
      | ok b => exact exchanges a b
      | error fault => rfl
  | error fault =>
      cases appliedSecond : second.apply args with
      | ok b => rfl
      | error otherFault =>
          obtain rfl := sameFault args fault otherFault appliedFirst appliedSecond
          rfl

/-- An operation on the result of another one is a single operation. -/
theorem unary_binary (f : UnaryOp α) (g : BinaryOp α) (first second : Evaluator α) :
    unary f (binary g first second) = binary (fun a b => g a b >>= f) first second := by
  refine congrArg Evaluator.mk (funext fun args => ?_)
  simp only [binary]
  cases first.apply args with
  | error fault => rfl
  | ok a =>
      cases second.apply args with
      | error fault => rfl
      | ok b => cases applied : g a b <;> simp [applied, bind, Except.bind]

end Evaluator

namespace Mode.Provides

variable {neg : α → α} {add sub mul : α → α → α} {quotient? : α → α → Option α}

theorem eq_divisionByZero (provides : mode.Provides (.ofTotal neg add sub mul quotient?))
    (standard : e.Standard) (built : Evaluator.build mode e = .ok evaluator) {fault : Fault}
    (faulted : evaluator.apply args = .error fault) : fault = .divisionByZero := by
  have failed := (evaluateAt_eq_fault_iff built).mpr faulted
  rcases provides.value_or_divisionByZero standard with ⟨value, evaluated⟩ | divided
  · cases evaluated.symm.trans failed
  · cases divided.symm.trans failed
    rfl

/-- The operands of an operation can be exchanged, as they fault in one way only. -/
theorem binary_exchange (provides : mode.Provides (.ofTotal neg add sub mul quotient?))
    (standardLeft : left.Standard) (standardRight : right.Standard)
    (builtLeft : Evaluator.build mode left = .ok first)
    (builtRight : Evaluator.build mode right = .ok second) {f g : BinaryOp α}
    (exchanges : ∀ a b, f a b = g b a) :
    Evaluator.binary f first second = Evaluator.binary g second first := by
  apply Evaluator.binary_exchange exchanges
  intro args fault otherFault faulted otherFaulted
  rw [provides.eq_divisionByZero standardLeft builtLeft faulted,
    provides.eq_divisionByZero standardRight builtRight otherFaulted]

/-- In a mode of arithmetic that only faults where quotients are missing, with sums and products
    that commute and differences that are opposite to the reversed ones, an operation builds to the
    same evaluator with its operands exchanged. -/
theorem build_exchange (provides : mode.Provides (.ofTotal neg add sub mul quotient?))
    (add_comm : ∀ a b, add a b = add b a) (mul_comm : ∀ a b, mul a b = mul b a)
    (neg_sub : ∀ a b, neg (sub a b) = sub b a) (standardLeft : left.Standard)
    (standardRight : right.Standard) (exchanges : left.Exchanges right e other) :
    Evaluator.build mode e = Evaluator.build mode other := by
  obtain ⟨first, builtLeft⟩ := provides.exists_build_iff.mpr standardLeft
  obtain ⟨second, builtRight⟩ := provides.exists_build_iff.mpr standardRight
  have exchange : ∀ {f g : BinaryOp α}, (∀ a b, f a b = g b a) →
      Evaluator.binary f first second = Evaluator.binary g second first :=
    provides.binary_exchange standardLeft standardRight builtLeft builtRight
  cases exchanges with
  | sum =>
      rw [Evaluator.build_binary builtLeft builtRight (provides.binary "+"),
        Evaluator.build_binary builtRight builtLeft (provides.binary "+")]
      exact congrArg Except.ok (exchange fun a b => congrArg Except.ok (add_comm a b))
  | product =>
      rw [Evaluator.build_binary builtLeft builtRight (provides.binary "*"),
        Evaluator.build_binary builtRight builtLeft (provides.binary "*")]
      exact congrArg Except.ok (exchange fun a b => congrArg Except.ok (mul_comm a b))
  | difference =>
      have reversed := Evaluator.build_binary builtRight builtLeft (provides.binary "-")
      rw [Evaluator.build_binary builtLeft builtRight (provides.binary "-"),
        Evaluator.build_unary_eq_ok_iff.mpr ⟨_, _, reversed, provides.unary "-", rfl⟩,
        Evaluator.unary_binary]
      exact congrArg Except.ok (exchange fun a b => congrArg Except.ok (neg_sub b a).symm)

end Mode.Provides

/-- Two expressions that build in the mode and have the same results: the same value or the fault
    at every point, and so the same tables, however each of them is computed. -/
structure Mode.SameResults (mode : Mode α) (e other : Expr) : Prop where
  valueOrFault : ∀ point, (∃ value, evaluate mode e point = .ok value) ∨
    evaluate mode e point = .error (.arithmetic .divisionByZero)
  evaluations : ∀ point, evaluate mode e point = evaluate mode other point
  tables : ∃ first second, Evaluator.build mode e = .ok first ∧
    Evaluator.build mode other = .ok second ∧
    (∀ args, first.apply args = second.apply args) ∧
    ∀ (box : Box) (config otherConfig : TabulateConfig),
      first.table mode box config = second.table mode box otherConfig

theorem Mode.Provides.sameResults {neg : α → α} {add sub mul : α → α → α}
    {quotient? : α → α → Option α} (provides : mode.Provides (.ofTotal neg add sub mul quotient?))
    (standard : e.Standard) (same : Evaluator.build mode e = Evaluator.build mode other) :
    mode.SameResults e other := by
  obtain ⟨evaluator, built⟩ := provides.exists_build_iff.mpr standard
  refine ⟨?_, ?_, evaluator, evaluator, built, same.symm.trans built, fun _ => rfl, ?_⟩
  · intro point
    rw [evaluate_eq_evaluateAt]
    exact provides.value_or_divisionByZero standard
  · intro point
    rw [evaluate, evaluate, same]
  · intro box config otherConfig
    rw [Evaluator.table_eq_tabulate, Evaluator.table_eq_tabulate]

/-- In both standard modes, exchanging the operands of a sum or a product, or those of a difference
    under a negation, has no influence on any result of the standard expression around it, be it a
    value or a fault, and so no influence on tables. -/
theorem operand_order_unobservable (standardLeft : left.Standard) (standardRight : right.Standard)
    {context : Expr.Context} (standard : context.Standard)
    (exchanges : left.Exchanges right e other) :
    Mode.int.SameResults (context.fill e) (context.fill other) ∧
      Mode.bigInt.SameResults (context.fill e) (context.fill other) := by
  have whole := Expr.Context.standard_fill standard
    (exchanges.standard standardLeft standardRight)
  constructor
  · refine int_provides.sameResults whole (Evaluator.build_fill_congr ?_ context)
    exact int_provides.build_exchange Int32.add_comm Int32.mul_comm (fun _ _ => Int32.neg_sub)
      standardLeft standardRight exchanges
  · refine bigInt_provides.sameResults whole (Evaluator.build_fill_congr ?_ context)
    exact bigInt_provides.build_exchange Int.add_comm Int.mul_comm Int.neg_sub
      standardLeft standardRight exchanges

/-- A quotient minus the least word as a divisor, at a point where this difference wraps around and
    at one where the quotient is missing. -/
theorem operand_order_unobservable_least_word :
    let left : Expr := .binary "/" (.var "x") (.var "y")
    let right : Expr := .constant (-2147483648)
    let context : Expr.Context := .right "/" (.constant (-2147483648)) .hole
    let e := context.fill (.binary "-" left right)
    let other := context.fill (.unary "-" (.binary "-" right left))
    left.Standard ∧ right.Standard ∧ context.Standard ∧ left.Exchanges right
        (.binary "-" left right) (.unary "-" (.binary "-" right left)) ∧
      evaluate .int e ⟨0, 1, 0⟩ = .ok 1 ∧ evaluate .int other ⟨0, 1, 0⟩ = .ok 1 ∧
      evaluate .bigInt e ⟨3, 0, 0⟩ = .error (.arithmetic .divisionByZero) ∧
      evaluate .bigInt other ⟨3, 0, 0⟩ = .error (.arithmetic .divisionByZero) := by
  intro left right context e other
  have standardLeft : left.Standard := by decide
  have standardRight : right.Standard := by decide
  have standard : context.Standard := ⟨by decide, trivial, trivial⟩
  obtain ⟨int, bigInt⟩ :=
    operand_order_unobservable standardLeft standardRight standard .difference
  have value : evaluate .int e ⟨0, 1, 0⟩ = .ok 1 := rfl
  have fault : evaluate .bigInt e ⟨3, 0, 0⟩ = .error (.arithmetic .divisionByZero) := rfl
  exact ⟨standardLeft, standardRight, standard, .difference, value,
    (int.evaluations _).symm.trans value, fault, (bigInt.evaluations _).symm.trans fault⟩

end Gridwise
