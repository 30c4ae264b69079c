import Gridwise.Proofs.Arithmetic

/-!
# Words as integers modulo a power of two

Negation, sums, differences and products of words are those of the integers, reduced to words.
Quotients are so only where both operands are words already. Hence the two standard modes agree
up to reduction, at any integers, as long as no division meets an operand that has overflowed.
-/

namespace Gridwise

variable {e left right : Expr} {op : String} {args : Axes Int}

/-- Every division of two integers in the expression is one of two words. -/
def Expr.DividesWords (e : Expr) (args : Axes Int) : Prop :=
  ∀ left right, (Expr.binary "/" left right).Within e →
    ∀ a b, evaluateAt .bigInt left args = .ok a → evaluateAt .bigInt right args = .ok b →
      Word.Fits a ∧ Word.Fits b

theorem Expr.DividesWords.of_within {s : Expr} (inRange : e.DividesWords args)
    (within : ∀ part : Expr, part.Within s → part.Within e) : s.DividesWords args := by
  intro left right found
  exact inRange left right (within _ found)

theorem ofInt_eq_zero_iff {n : Int} (fits : Word.Fits n) : Int32.ofInt n = 0 ↔ n = 0 := by
  constructor
  · intro zero
    rw [← Word.toInt_ofInt fits, zero]
    rfl
  · intro same
    subst same
    rfl

theorem quotient?_ofInt {a b : Int} (fitsLeft : Word.Fits a) (fitsRight : Word.Fits b) :
    Word.quotient? (Int32.ofInt a) (Int32.ofInt b) = (Integer.quotient? a b).map Int32.ofInt := by
  unfold Word.quotient? Integer.quotient?
  by_cases zero : b = 0
  · rw [if_pos zero, if_pos ((ofInt_eq_zero_iff fitsRight).mpr zero)]
    rfl
  · rw [if_neg zero, if_neg fun none => zero ((ofInt_eq_zero_iff fitsRight).mp none)]
    rw [← Int32.ofInt_tdiv fitsLeft.1 fitsLeft.2 fitsRight.1 fitsRight.2]
    rfl

theorem wordOperations_ofInt {exact : BinaryOp Int} {wrapping : BinaryOp Int32}
    (isExact : integerOperations.binary? op = some exact)
    (isWrapping : wordOperations.binary? op = some wrapping) {a b : Int}
    (inRange : op = "/" → Word.Fits a ∧ Word.Fits b) :
    wrapping (Int32.ofInt a) (Int32.ofInt b) = (exact a b).map Int32.ofInt := by
  rcases Operations.binary?_eq_some_iff.mp isExact with
    ⟨rfl, rfl⟩ | ⟨rfl, rfl⟩ | ⟨rfl, rfl⟩ | ⟨rfl, rfl⟩
  · cases isWrapping
    exact congrArg Except.ok (Int32.ofInt_add a b).symm
  · cases isWrapping
    exact congrArg Except.ok (Int32.ofInt_sub a b).symm
  · cases isWrapping
    exact congrArg Except.ok (Int32.ofInt_mul a b).symm
  · obtain ⟨fitsLeft, fitsRight⟩ := inRange rfl
    cases isWrapping
    show Mode.quotientOrFault (Word.quotient? _ _) =
      (Mode.quotientOrFault (Integer.quotient? a b)).map _
    rw [quotient?_ofInt fitsLeft fitsRight]
    cases Integer.quotient? a b with
    | none => rfl
    | some quotient => rfl

/-- The wrapping mode yields what the exact mode yields, reduced to words. -/
theorem evaluateAt_int_eq_map (standard : e.Standard) (inRange : e.DividesWords args) :
    evaluateAt .int e (args.map Int32.ofInt) = (evaluateAt .bigInt e args).map Int32.ofInt := by
  induction e with
  | constant value =>
      rw [evaluateAt_constant, evaluateAt_constant]
      exact congrArg Except.ok (Int32.ofInt_toInt value).symm
  | var name =>
      obtain ⟨axis, named⟩ := exists_ofName?_iff.mpr standard
      rw [evaluateAt_var named, evaluateAt_var named, Axes.get_map]
      rfl
  | unary op arg ih =>
      have ih := ih standard.2 (inRange.of_within fun _ => .unary)
      rw [int_provides.evaluateAt_unary standard, bigInt_provides.evaluateAt_unary standard, ih]
      cases evaluateAt .bigInt arg args with
      | error error => rfl
      | ok a => exact congrArg Except.ok (Int32.ofInt_neg a).symm
  | binary op left right ihLeft ihRight =>
      have ihLeft := ihLeft standard.2.1 (inRange.of_within fun _ => .left)
      have ihRight := ihRight standard.2.2 (inRange.of_within fun _ => .right)
      obtain ⟨exact, isExact⟩ := Operations.exists_binary?_iff.mpr standard.1
      obtain ⟨wrapping, isWrapping⟩ := Operations.exists_binary?_iff.mpr standard.1
      rw [int_provides.evaluateAt_binary standard isWrapping,
        bigInt_provides.evaluateAt_binary standard isExact, ihLeft, ihRight]
      cases evaluatedLeft : evaluateAt .bigInt left args with
      | error error => rfl
      | ok a =>
          cases evaluatedRight : evaluateAt .bigInt right args with
          | error error => rfl
          | ok b =>
              -- Residues determine sums, differences and products, but no quotients.
              have operands : op = "/" → Word.Fits a ∧ Word.Fits b := by
                intro same
                subst same
                exact inRange left right (.whole _) a b evaluatedLeft evaluatedRight
              show (wrapping (Int32.ofInt a) (Int32.ofInt b)).mapError _ =
                ((exact a b).mapError _).map _
              rw [wordOperations_ofInt isExact isWrapping operands]
              cases exact a b with
              | error fault => rfl
              | ok n => rfl

/-- The second result is the first one reduced to a word: its value wrapped around, or its fault. -/
structure ReducesTo (exact : Except EvalError Int) (wrapped : Except EvalError Int32) : Prop where
  valueOrFault : (∃ n, exact = .ok n) ∨ exact = .error (.arithmetic .divisionByZero)
  value : ∀ n, exact = .ok n → wrapped = .ok (Int32.ofInt n)
  fault : exact = .error (.arithmetic .divisionByZero) ↔
    wrapped = .error (.arithmetic .divisionByZero)

theorem reducesTo_of_dividesWords (standard : e.Standard) (inRange : e.DividesWords args) :
    ReducesTo (evaluateAt .bigInt e args) (evaluateAt .int e (args.map Int32.ofInt)) := by
  rw [evaluateAt_int_eq_map standard inRange]
  have outcome : (∃ n, evaluateAt .bigInt e args = .ok n) ∨ _ :=
    bigInt_provides.value_or_divisionByZero standard
  rcases outcome with ⟨n, evaluated⟩ | faulted
  · rw [evaluated]
    refine ⟨.inl ⟨n, rfl⟩, ?_, ?_⟩
    · intro m same
      cases same
      rfl
    · constructor
      · intro impossible
        cases impossible
      · intro impossible
        cases impossible
  · rw [faulted]
    refine ⟨.inr rfl, ?_, ?_⟩
    · intro m impossible
      cases impossible
    · exact ⟨fun _ => rfl, fun _ => rfl⟩

/-- At any integers, the wrapping mode reduces what the exact mode yields as long as integers are
    only divided where they are words, and so without any condition where nothing is divided. -/
theorem evaluateAt_int_reduces (standard : e.Standard) (args : Axes Int) :
    (e.DividesWords args →
      ReducesTo (evaluateAt .bigInt e args) (evaluateAt .int e (args.map Int32.ofInt))) ∧
    ((∀ left right, ¬ (Expr.binary "/" left right).Within e) →
      ReducesTo (evaluateAt .bigInt e args) (evaluateAt .int e (args.map Int32.ofInt))) := by
  constructor
  · exact reducesTo_of_dividesWords standard
  · intro undivided
    apply reducesTo_of_dividesWords standard
    intro left right within
    exact absurd within (undivided left right)

/-- A quotient that is no word, added to a product far out of range. -/
theorem evaluateAt_int_reduces_least_quotient :
    let e : Expr :=
      .binary "+" (.binary "*" (.var "z") (.var "z")) (.binary "/" (.var "x") (.var "y"))
    let args : Axes Int := ⟨-2147483648, -1, 10000000000000000001⟩
    e.Standard ∧ e.DividesWords args ∧
      ReducesTo (evaluateAt .bigInt e args) (evaluateAt .int e (args.map Int32.ofInt)) := by
  intro e args
  have standard : e.Standard := by decide
  have inRange : e.DividesWords args := by
    intro left right within a b evaluatedLeft evaluatedRight
    obtain ⟨rfl, rfl⟩ : left = .var "x" ∧ right = .var "y" := by simpa [e] using within
    cases evaluatedLeft
    cases evaluatedRight
    decide
  exact ⟨standard, inRange, (evaluateAt_int_reduces standard args).1 inRange⟩

end Gridwise
