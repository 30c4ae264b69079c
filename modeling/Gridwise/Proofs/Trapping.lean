import Gridwise.Proofs.Wrapping

/-!
# Trapping as a probe for overflow

A trapping operation is the exact one followed by a look at the range. So a trapping evaluation has
a value exactly where the exact evaluation of every subtree is a word. It divides by zero only where
both standard modes do, and it overflows only where the exact value of some subtree is no word.
-/

namespace Gridwise

variable {e arg left right : Expr} {op name : String} {point : Axes Int32}

theorem orOverflow_of_fits {n : Int} (fits : Word.Fits n) :
    Word.orOverflow n = .ok (Int32.ofInt n) := by
  unfold Word.orOverflow Word.ofInt?
  rw [if_pos fits]

theorem orOverflow_of_not_fits {n : Int} (exceeds : ¬ Word.Fits n) :
    Word.orOverflow n = .error .overflow := by
  unfold Word.orOverflow Word.ofInt?
  rw [if_neg exceeds]

theorem checkedDiv_eq_bind (a b : Int32) :
    Word.checkedDiv a b =
      Mode.quotientOrFault (Integer.quotient? a.toInt b.toInt) >>= Word.orOverflow := by
  have zero_iff : b = 0 ↔ b.toInt = 0 := by
    have inRange := ofInt_eq_zero_iff (Word.toInt_fits b)
    rwa [Int32.ofInt_toInt] at inRange
  unfold Word.checkedDiv Integer.quotient?
  by_cases zero : b = 0
  · rw [if_pos zero, if_pos (zero_iff.mp zero)]
    rfl
  · rw [if_neg zero, if_neg fun none => zero (zero_iff.mpr none)]
    rfl

theorem trappingOperations_eq_bind {trapping : BinaryOp Int32} {exact : BinaryOp Int}
    (isTrapping : trappingOperations.binary? op = some trapping)
    (isExact : integerOperations.binary? op = some exact) (a b : Int32) :
    trapping a b = exact a.toInt b.toInt >>= Word.orOverflow := by
  rcases Operations.binary?_eq_some_iff.mp isExact with
    ⟨rfl, rfl⟩ | ⟨rfl, rfl⟩ | ⟨rfl, rfl⟩ | ⟨rfl, rfl⟩
  · cases isTrapping
    rfl
  · cases isTrapping
    rfl
  · cases isTrapping
    rfl
  · cases isTrapping
    exact checkedDiv_eq_bind a b

/-- What the trapping evaluation of an expression tells about its standard ones. -/
inductive Probed (name : String) (point : Axes Int32) (e : Expr) : Prop where
  | value (v : Int32) (trapped : evaluateAt (.trapping name) e point = .ok v)
      (wrapped : evaluateAt .int e point = .ok v)
      (exact : evaluateAt .bigInt e (point.map Int32.toInt) = .ok v.toInt)
  | divisionByZero
      (trapped : evaluateAt (.trapping name) e point = .error (.arithmetic .divisionByZero))
      (wrapped : evaluateAt .int e point = .error (.arithmetic .divisionByZero))
      (exact : evaluateAt .bigInt e (point.map Int32.toInt) =
        .error (.arithmetic .divisionByZero))
  | overflow (trapped : evaluateAt (.trapping name) e point = .error (.arithmetic .overflow))
      (s : Expr) (within : s.Within e) (n : Int)
      (exact : evaluateAt .bigInt s (point.map Int32.toInt) = .ok n) (exceeds : ¬ Word.Fits n)

/-- The operator at the root preserves what is probed, once its operands have values. -/
theorem probed_of_operation (outcome : Except Fault Int)
    (total : (∃ n, outcome = .ok n) ∨ outcome = .error .divisionByZero)
    (trapped : evaluateAt (.trapping name) e point =
      (outcome >>= Word.orOverflow).mapError .arithmetic)
    (wrapped : evaluateAt .int e point = (outcome.map Int32.ofInt).mapError .arithmetic)
    (exact : evaluateAt .bigInt e (point.map Int32.toInt) = outcome.mapError .arithmetic) :
    Probed name point e := by
  rcases total with ⟨n, rfl⟩ | rfl
  · change _ = (Word.orOverflow n).mapError _ at trapped
    by_cases fits : Word.Fits n
    · rw [orOverflow_of_fits fits] at trapped
      rw [← Word.toInt_ofInt fits] at exact
      exact .value _ trapped wrapped exact
    · -- The whole expression is then the subtree whose exact value is no word.
      rw [orOverflow_of_not_fits fits] at trapped
      exact .overflow trapped e (.whole e) n exact fits
  · exact .divisionByZero trapped wrapped exact

/-- Evaluation that goes on from an operand is probed wherever it ends in the operand, and so it is
    enough to probe what follows a value. -/
theorem Probed.bind {trapNext wrapNext : Int32 → Except EvalError Int32}
    {exactNext : Int → Except EvalError Int} (probed : Probed name point arg)
    (within : ∀ s : Expr, s.Within arg → s.Within e)
    (trapped : evaluateAt (.trapping name) e point =
      evaluateAt (.trapping name) arg point >>= trapNext)
    (wrapped : evaluateAt .int e point = evaluateAt .int arg point >>= wrapNext)
    (exact : evaluateAt .bigInt e (point.map Int32.toInt) =
      evaluateAt .bigInt arg (point.map Int32.toInt) >>= exactNext)
    (next : ∀ v, evaluateAt (.trapping name) e point = trapNext v →
      evaluateAt .int e point = wrapNext v →
      evaluateAt .bigInt e (point.map Int32.toInt) = exactNext v.toInt → Probed name point e) :
    Probed name point e := by
  cases probed with
  | value v trappedArg wrappedArg exactArg =>
      rw [trappedArg] at trapped
      rw [wrappedArg] at wrapped
      rw [exactArg] at exact
      exact next v trapped wrapped exact
  | divisionByZero trappedArg wrappedArg exactArg =>
      rw [trappedArg] at trapped
      rw [wrappedArg] at wrapped
      rw [exactArg] at exact
      exact .divisionByZero trapped wrapped exact
  | overflow trappedArg s inside n exactPart exceeds =>
      rw [trappedArg] at trapped
      exact .overflow trapped s (within s inside) n exactPart exceeds

theorem probed_unary (standard : (Expr.unary op arg).Standard) (probed : Probed name point arg) :
    Probed name point (.unary op arg) := by
  refine probed.bind (fun s => .unary) ((trapping_provides name).evaluateAt_unary standard)
    (int_provides.evaluateAt_unary standard) (bigInt_provides.evaluateAt_unary standard) ?_
  intro v trapped wrapped exact
  refine probed_of_operation (.ok (-v.toInt)) (.inl ⟨_, rfl⟩) trapped ?_ exact
  rw [wrapped, Except.map, Int32.ofInt_neg, Int32.ofInt_toInt]
  rfl

theorem probed_binary (standard : (Expr.binary op left right).Standard)
    (probedLeft : Probed name point left) (probedRight : Probed name point right) :
    Probed name point (.binary op left right) := by
  obtain ⟨trapping, isTrapping⟩ := Operations.exists_binary?_iff.mpr standard.1
  obtain ⟨wrapping, isWrapping⟩ := Operations.exists_binary?_iff.mpr standard.1
  obtain ⟨operation, isExact⟩ := Operations.exists_binary?_iff.mpr standard.1
  refine probedLeft.bind (fun s => .left)
    ((trapping_provides name).evaluateAt_binary standard isTrapping)
    (int_provides.evaluateAt_binary standard isWrapping)
    (bigInt_provides.evaluateAt_binary standard isExact) ?_
  intro a trapped wrapped exact
  refine probedRight.bind (fun s => .right) trapped wrapped exact ?_
  intro b trapped wrapped exact
  have total := Operations.ofTotal_value_or_divisionByZero isExact a.toInt b.toInt
  refine probed_of_operation _ total ?_ ?_ exact
  · rw [trapped, trappingOperations_eq_bind isTrapping isExact]
  · have fits : op = "/" → Word.Fits a.toInt ∧ Word.Fits b.toInt := fun _ =>
      ⟨Word.toInt_fits a, Word.toInt_fits b⟩
    have reduced := wordOperations_ofInt isExact isWrapping fits
    rw [Int32.ofInt_toInt, Int32.ofInt_toInt] at reduced
    rw [wrapped, reduced]

theorem probed_of_standard (name : String) (point : Axes Int32) (standard : e.Standard) :
    Probed name point e := by
  induction e with
  | constant value => exact .value value rfl rfl rfl
  | var variableName =>
      obtain ⟨axis, named⟩ := exists_ofName?_iff.mpr standard
      refine .value (point.get axis) (evaluateAt_var named) (evaluateAt_var named) ?_
      rw [evaluateAt_var named, Axes.get_map]
  | unary op arg ih => exact probed_unary standard (ih standard.2)
  | binary op left right ihLeft ihRight =>
      exact probed_binary standard (ihLeft standard.2.1) (ihRight standard.2.2)

theorem Probed.of_value {v : Int32} (probed : Probed name point e)
    (trapped : evaluateAt (.trapping name) e point = .ok v) :
    evaluateAt .int e point = .ok v ∧
      evaluateAt .bigInt e (point.map Int32.toInt) = .ok v.toInt := by
  cases probed with
  | value w trappedAgain wrapped exact =>
      rw [trapped] at trappedAgain
      cases trappedAgain
      exact ⟨wrapped, exact⟩
  | divisionByZero faulted =>
      rw [trapped] at faulted
      cases faulted
  | overflow faulted =>
      rw [trapped] at faulted
      cases faulted

theorem exists_trapped_iff (standard : e.Standard) :
    (∃ v, evaluateAt (.trapping name) e point = .ok v) ↔
      ∀ s : Expr, s.Within e →
        ∃ n, evaluateAt .bigInt s (point.map Int32.toInt) = .ok n ∧ Word.Fits n := by
  constructor
  · intro ⟨v, trapped⟩ s within
    -- Nothing below a value faults, so the subtree has a trapped value of its own.
    obtain ⟨part, trappedPart⟩ := evaluateAt_within trapped within
    have probed := probed_of_standard name point (standard.of_within within)
    obtain ⟨_, exact⟩ := probed.of_value trappedPart
    exact ⟨part.toInt, exact, Word.toInt_fits part⟩
  · intro inRange
    cases probed_of_standard name point standard with
    | value v trapped => exact ⟨v, trapped⟩
    | divisionByZero _ _ faulted =>
        obtain ⟨n, exact, _⟩ := inRange e (.whole e)
        rw [faulted] at exact
        cases exact
    | overflow _ s within n exact exceeds =>
        obtain ⟨m, exactAgain, fits⟩ := inRange s within
        rw [exact] at exactAgain
        cases exactAgain
        exact absurd fits exceeds

/-- A trapping evaluation has a value if and only if all subtrees have exact values that are words,
    and both standard modes then yield it. It divides by zero only if they do, and overflows only
    if some subtree has an exact value that is no word. -/
theorem evaluate_trapping_probes (standard : e.Standard) (name : String) (point : Axes Int32) :
    ((∃ v, evaluate (.trapping name) e point = .ok v) ↔
      ∀ s : Expr, s.Within e → ∃ n, evaluate .bigInt s point = .ok n ∧ Word.Fits n) ∧
    (∀ v, evaluate (.trapping name) e point = .ok v →
      evaluate .bigInt e point = .ok v.toInt ∧ evaluate .int e point = .ok v) ∧
    (evaluate (.trapping name) e point = .error (.arithmetic .divisionByZero) →
      evaluate .int e point = .error (.arithmetic .divisionByZero) ∧
        evaluate .bigInt e point = .error (.arithmetic .divisionByZero)) ∧
    (evaluate (.trapping name) e point = .error (.arithmetic .overflow) →
      ∃ s : Expr, s.Within e ∧ ∃ n, evaluate .bigInt s point = .ok n ∧ ¬ Word.Fits n) := by
  simp only [evaluate_eq_evaluateAt]
  change (_ ↔ ∀ s : Expr, _ → ∃ n, evaluateAt .bigInt s (point.map Int32.toInt) = _ ∧ _) ∧ _
  refine ⟨exists_trapped_iff standard, ?_, ?_, ?_⟩
  · intro v trapped
    obtain ⟨wrapped, exact⟩ := (probed_of_standard name point standard).of_value trapped
    exact ⟨exact, wrapped⟩
  · intro trapped
    cases probed_of_standard name point standard with
    | value v evaluated => exact nomatch evaluated.symm.trans trapped
    | divisionByZero _ wrapped exact => exact ⟨wrapped, exact⟩
    | overflow faulted => exact nomatch faulted.symm.trans trapped
  · intro trapped
    cases probed_of_standard name point standard with
    | value v evaluated => exact nomatch evaluated.symm.trans trapped
    | divisionByZero faulted => exact nomatch faulted.symm.trans trapped
    | overflow _ s within n exact exceeds => exact ⟨s, within, n, exact, exceeds⟩

/-- The least word by minus one overflows, although it is multiplied by zero afterwards. -/
theorem evaluate_trapping_probes_least_quotient :
    let e : Expr := .binary "*" (.constant 0) (.binary "/" (.var "x") (.var "y"))
    let point : Axes Int32 := ⟨-2147483648, -1, 0⟩
    e.Standard ∧ evaluate (.trapping "trap") e point = .error (.arithmetic .overflow) ∧
      ∃ s : Expr, s.Within e ∧ ∃ n, evaluate .bigInt s point = .ok n ∧ ¬ Word.Fits n := by
  intro e point
  have standard : e.Standard := by decide
  have trapped : evaluate (.trapping "trap") e point = .error (.arithmetic .overflow) := rfl
  obtain ⟨_, _, _, overflow⟩ := evaluate_trapping_probes standard "trap" point
  exact ⟨standard, trapped, overflow trapped⟩

end Gridwise
