import Gridwise.Mode.Trapping
import Gridwise.Proofs.Building

/-!
# The order of evaluation

An operator is applied where its operands have values, and the values of an expression are those of
this recursion. What has been built meets the applications in post-order, the left operand before
the right one: it yields the value of the recursion if none of them faults, and the fault of the
first one that does otherwise. Nothing behind that one is looked at.
-/

namespace Gridwise

variable {α : Type} {mode : Mode α} {args : Axes α} {e s : Expr} {outcome other : Except Fault α}
  {fault : Fault} {before front back nodes : List Expr}

/-- The subtrees of an expression, each operator behind its operands and the left operand before the
    right one. -/
def Expr.postorder : Expr → List Expr
  | .constant value => [.constant value]
  | .var name => [.var name]
  | .unary op arg => arg.postorder ++ [.unary op arg]
  | .binary op left right => left.postorder ++ right.postorder ++ [.binary op left right]

theorem Expr.mem_postorder_iff : s ∈ e.postorder ↔ s.Within e := by
  induction e with
  | constant | var => simp [postorder]
  | unary op arg ih =>
      simp only [postorder, List.mem_append, List.mem_singleton, within_unary_iff, ih]
      exact or_comm
  | binary op left right ihLeft ihRight =>
      simp only [postorder, List.mem_append, List.mem_singleton, within_binary_iff, ihLeft, ihRight]
      exact or_comm

namespace Mode

/-- The root of an expression comes to an outcome once its operands have values. If one of them has
    no value, the operator at the root is never applied and there is no outcome. -/
def Yields (mode : Mode α) (args : Axes α) : Expr → Except Fault α → Prop
  | .constant value, outcome => outcome = .ok (mode.constant value)
  | .var name, outcome => ∃ axis, Axis.ofName? name = some axis ∧ outcome = .ok (args.get axis)
  | .unary op arg, outcome =>
      ∃ a meaning, mode.Yields args arg (.ok a) ∧ mode.unary.find? op = some meaning ∧
        outcome = meaning a
  | .binary op left right, outcome =>
      ∃ a b meaning, mode.Yields args left (.ok a) ∧ mode.Yields args right (.ok b) ∧
        mode.binary.find? op = some meaning ∧ outcome = meaning a b

/-- The expression has a value. -/
def HasValue (mode : Mode α) (args : Axes α) (e : Expr) : Prop :=
  ∃ value, mode.Yields args e (.ok value)

theorem Yields.unique (first : mode.Yields args e outcome) (second : mode.Yields args e other) :
    outcome = other := by
  induction e generalizing outcome other with
  | constant value => exact first.trans second.symm
  | var name =>
      obtain ⟨axis, named, rfl⟩ := first
      obtain ⟨again, namedAgain, rfl⟩ := second
      cases named.symm.trans namedAgain
      rfl
  | unary op arg ih =>
      obtain ⟨a, meaning, valued, known, rfl⟩ := first
      obtain ⟨b, again, valuedAgain, knownAgain, rfl⟩ := second
      cases ih valued valuedAgain
      cases known.symm.trans knownAgain
      rfl
  | binary op left right ihLeft ihRight =>
      obtain ⟨a, b, meaning, valuedLeft, valuedRight, known, rfl⟩ := first
      obtain ⟨c, d, again, valuedLeftAgain, valuedRightAgain, knownAgain, rfl⟩ := second
      cases ihLeft valuedLeft valuedLeftAgain
      cases ihRight valuedRight valuedRightAgain
      cases known.symm.trans knownAgain
      rfl

theorem HasValue.not_fault (valued : mode.HasValue args e) (fault : Fault) :
    ¬ mode.Yields args e (.error fault) := by
  intro faulted
  obtain ⟨value, valued⟩ := valued
  cases valued.unique faulted

theorem HasValue.of_within (valued : mode.HasValue args e) (within : s.Within e) :
    mode.HasValue args s := by
  induction within with
  | whole => exact valued
  | unary _ ih =>
      obtain ⟨_, a, _, valuedArg, _⟩ := valued
      exact ih ⟨a, valuedArg⟩
  | left _ ih =>
      obtain ⟨_, a, _, _, valuedLeft, _⟩ := valued
      exact ih ⟨a, valuedLeft⟩
  | right _ ih =>
      obtain ⟨_, _, b, _, _, valuedRight, _⟩ := valued
      exact ih ⟨b, valuedRight⟩

/-- Of some nodes in order, the first whose application faults, and the nodes before it. -/
structure FirstFault (mode : Mode α) (args : Axes α) (nodes before : List Expr) (s : Expr)
    (fault : Fault) : Prop where
  order : before ++ [s] <+: nodes
  faults : mode.Yields args s (.error fault)
  noEarlier : ∀ t ∈ before, ∀ earlier, ¬ mode.Yields args t (.error earlier)

namespace FirstFault

theorem append_right (first : mode.FirstFault args nodes before s fault) (back : List Expr) :
    mode.FirstFault args (nodes ++ back) before s fault :=
  ⟨first.order.trans (List.prefix_append nodes back), first.faults, first.noEarlier⟩

theorem append_left (first : mode.FirstFault args nodes before s fault)
    (valued : ∀ t ∈ front, mode.HasValue args t) :
    mode.FirstFault args (front ++ nodes) (front ++ before) s fault := by
  refine ⟨?_, first.faults, ?_⟩
  · rw [List.append_assoc]
    exact (List.prefix_append_right_inj front).mpr first.order
  · intro t member earlier
    rcases List.mem_append.mp member with inFront | inBefore
    · exact (valued t inFront).not_fault earlier
    · exact first.noEarlier t inBefore earlier

theorem mem (first : mode.FirstFault args nodes before s fault) : s ∈ nodes :=
  first.order.subset (by simp)

/-- Two first faults of the same nodes are at the same place. -/
theorem unique {before' : List Expr} {s' : Expr} {fault' : Fault}
    (first : mode.FirstFault args nodes before s fault)
    (second : mode.FirstFault args nodes before' s' fault') :
    before = before' ∧ s = s' ∧ fault = fault' := by
  -- A shorter prefix that ends in a fault would lie before the other fault.
  have same : before ++ [s] = before' ++ [s'] := by
    rcases List.prefix_or_prefix_of_prefix first.order second.order with shorter | shorter
    · rcases List.prefix_concat_iff.mp shorter with same | earlier
      · exact same
      · exact absurd first.faults (second.noEarlier s (earlier.subset (by simp)) fault)
    · rcases List.prefix_concat_iff.mp shorter with same | earlier
      · exact same.symm
      · exact absurd second.faults (first.noEarlier s' (earlier.subset (by simp)) fault')
  obtain ⟨rfl, last⟩ := List.append_inj' same rfl
  cases last
  cases first.faults.unique second.faults
  exact ⟨rfl, rfl, rfl⟩

end FirstFault

/-- The outcome of an expression as a whole: a value if all its subtrees have values, and otherwise
    the fault of the first subtree in post-order that faults. -/
inductive Evaluates (mode : Mode α) (args : Axes α) (e : Expr) : Except Fault α → Prop where
  | value {value : α} : mode.Yields args e (.ok value) → Evaluates mode args e (.ok value)
  | fault {before : List Expr} {s : Expr} {fault : Fault} :
      mode.FirstFault args e.postorder before s fault → (∀ t ∈ before, mode.HasValue args t) →
      Evaluates mode args e (.error fault)

theorem HasValue.postorder (valued : mode.HasValue args e) :
    ∀ s ∈ e.postorder, mode.HasValue args s := by
  intro s member
  exact valued.of_within (Expr.mem_postorder_iff.mp member)

/-- An expression whose root has an outcome comes to that outcome as a whole, as everything before
    the root has a value. -/
theorem evaluates_root (order : e.postorder = front ++ [e])
    (valued : ∀ s ∈ front, mode.HasValue args s) (root : mode.Yields args e outcome) :
    mode.Evaluates args e outcome := by
  cases outcome with
  | ok value => exact .value root
  | error fault =>
      have noEarlier : ∀ t ∈ front, ∀ earlier, ¬ mode.Yields args t (.error earlier) :=
        fun t member => (valued t member).not_fault
      have last : front ++ [e] <+: e.postorder := ⟨[], by rw [List.append_nil, order]⟩
      exact .fault ⟨last, root, noEarlier⟩ valued

theorem evaluates_ok_iff {value : α} :
    mode.Evaluates args e (.ok value) ↔ mode.Yields args e (.ok value) := by
  constructor
  · intro evaluates
    cases evaluates with
    | value yields => exact yields
  · exact .value

theorem exists_firstFault_of_evaluates (evaluates : mode.Evaluates args e (.error fault)) :
    ∃ before s, mode.FirstFault args e.postorder before s fault ∧
      ∀ t ∈ before, mode.HasValue args t := by
  cases evaluates with
  | fault first valued => exact ⟨_, _, first, valued⟩

theorem evaluates_apply {evaluator : Evaluator α} (built : Evaluator.build mode e = .ok evaluator)
    (args : Axes α) : mode.Evaluates args e (evaluator.apply args) := by
  induction e generalizing evaluator with
  | constant value =>
      cases built
      exact .value rfl
  | var name =>
      obtain ⟨axis, named, rfl⟩ := Evaluator.build_var_eq_ok_iff.mp built
      exact .value ⟨axis, named, rfl⟩
  | unary op arg ih =>
      obtain ⟨inner, meaning, builtArg, known, rfl⟩ := Evaluator.build_unary_eq_ok_iff.mp built
      have operand := ih builtArg
      simp only [Evaluator.unary]
      cases applied : inner.apply args with
      | error fault =>
          rw [applied] at operand
          obtain ⟨before, s, first, valued⟩ := exists_firstFault_of_evaluates operand
          exact .fault (first.append_right _) valued
      | ok a =>
          rw [applied, evaluates_ok_iff] at operand
          exact evaluates_root rfl (HasValue.postorder ⟨a, operand⟩)
            ⟨a, meaning, operand, known, rfl⟩
  | binary op left right ihLeft ihRight =>
      obtain ⟨first, second, meaning, builtLeft, builtRight, known, rfl⟩ :=
        Evaluator.build_binary_eq_ok_iff.mp built
      have leftOperand := ihLeft builtLeft
      have rightOperand := ihRight builtRight
      simp only [Evaluator.binary]
      cases appliedLeft : first.apply args with
      | error fault =>
          rw [appliedLeft] at leftOperand
          obtain ⟨before, s, first, valued⟩ := exists_firstFault_of_evaluates leftOperand
          exact .fault ((first.append_right right.postorder).append_right _) valued
      | ok a =>
          rw [appliedLeft, evaluates_ok_iff] at leftOperand
          have valuedLeft := HasValue.postorder ⟨a, leftOperand⟩
          cases appliedRight : second.apply args with
          | error fault =>
              -- Everything of the left operand comes before the fault in the right one.
              rw [appliedRight] at rightOperand
              obtain ⟨before, s, first, valued⟩ := exists_firstFault_of_evaluates rightOperand
              exact .fault ((first.append_left valuedLeft).append_right _)
                (List.forall_mem_append.mpr ⟨valuedLeft, valued⟩)
          | ok b =>
              rw [appliedRight, evaluates_ok_iff] at rightOperand
              have valuedRight := HasValue.postorder ⟨b, rightOperand⟩
              exact evaluates_root rfl (List.forall_mem_append.mpr ⟨valuedLeft, valuedRight⟩)
                ⟨a, b, meaning, leftOperand, rightOperand, known, rfl⟩

theorem Evaluates.eq_ok_of_yields {value : α} (evaluates : mode.Evaluates args e outcome)
    (yields : mode.Yields args e (.ok value)) : outcome = .ok value := by
  cases evaluates with
  | value again => exact again.unique yields
  | fault first =>
      have valued := HasValue.postorder ⟨value, yields⟩ _ first.mem
      exact absurd first.faults (valued.not_fault _)

theorem Evaluates.eq_error_of_firstFault (evaluates : mode.Evaluates args e outcome)
    (first : mode.FirstFault args e.postorder before s fault) :
    outcome = .error fault ∧ ∀ t ∈ before, mode.HasValue args t := by
  cases evaluates with
  | value yields =>
      have valued := HasValue.postorder ⟨_, yields⟩ s first.mem
      exact absurd first.faults (valued.not_fault fault)
  | fault again valued =>
      obtain ⟨rfl, rfl, rfl⟩ := first.unique again
      exact ⟨rfl, valued⟩

/-- The first fault stays the first one in every mode that agrees on the applications up to it. -/
theorem FirstFault.of_agrees {other : Mode α} {otherNodes : List Expr}
    (first : mode.FirstFault args nodes before s fault)
    (valued : ∀ t ∈ before, mode.HasValue args t) (order : before ++ [s] <+: otherNodes)
    (agrees : ∀ t ∈ before ++ [s], ∀ outcome, mode.Yields args t outcome →
      other.Yields args t outcome) :
    other.FirstFault args otherNodes before s fault := by
  refine ⟨order, agrees s (by simp) _ first.faults, ?_⟩
  intro t member
  obtain ⟨value, yields⟩ := valued t member
  have stillValued : other.HasValue args t :=
    ⟨value, agrees t (List.mem_append_left _ member) _ yields⟩
  exact stillValued.not_fault

end Mode

/-- What has been built yields the value of the recursion if no application faults, and otherwise
    the fault of the first application in post-order that does. Other expressions and modes that
    agree on the applications up to that one yield the same fault. -/
theorem apply_in_postorder {evaluator : Evaluator α}
    (built : Evaluator.build mode e = .ok evaluator) (args : Axes α) :
    (∀ value, evaluator.apply args = .ok value ↔ mode.Yields args e (.ok value)) ∧
    ((∀ s ∈ e.postorder, ∀ fault, ¬ mode.Yields args s (.error fault)) →
      ∃ value, evaluator.apply args = .ok value) ∧
    (∀ fault, evaluator.apply args = .error fault ↔
      ∃ before s, mode.FirstFault args e.postorder before s fault) ∧
    (∀ before s fault, mode.FirstFault args e.postorder before s fault →
      ∀ (other : Mode α) (e' : Expr) (evaluator' : Evaluator α),
        Evaluator.build other e' = .ok evaluator' → before ++ [s] <+: e'.postorder →
        (∀ t ∈ before ++ [s], ∀ outcome, mode.Yields args t outcome →
          other.Yields args t outcome) →
        evaluator'.apply args = .error fault) := by
  have evaluates := Mode.evaluates_apply built args
  refine ⟨?_, ?_, ?_, ?_⟩
  · intro value
    constructor
    · intro applied
      rwa [applied, Mode.evaluates_ok_iff] at evaluates
    · exact evaluates.eq_ok_of_yields
  · intro faultless
    cases applied : evaluator.apply args with
    | ok value => exact ⟨value, rfl⟩
    | error fault =>
        rw [applied] at evaluates
        obtain ⟨before, s, first, _⟩ := Mode.exists_firstFault_of_evaluates evaluates
        exact absurd first.faults (faultless s first.mem fault)
  · intro fault
    constructor
    · intro applied
      rw [applied] at evaluates
      obtain ⟨before, s, first, _⟩ := Mode.exists_firstFault_of_evaluates evaluates
      exact ⟨before, s, first⟩
    · intro ⟨before, s, first⟩
      exact (evaluates.eq_error_of_firstFault first).1
  · intro before s fault first other e' evaluator' built' order agrees
    obtain ⟨_, valued⟩ := evaluates.eq_error_of_firstFault first
    have stillFirst := first.of_agrees valued order agrees
    exact ((Mode.evaluates_apply built' args).eq_error_of_firstFault stillFirst).1

/-- A sum that overflows in front of a quotient by zero. -/
theorem apply_in_postorder_overflow_first :
    let sum : Expr := .binary "+" (.var "x") (.constant 1)
    let e : Expr := .binary "-" sum (.binary "/" (.constant 1) (.var "y"))
    let args : Axes Int32 := ⟨2147483647, 0, 0⟩
    ∃ evaluator, Evaluator.build (.trapping "trap") e = .ok evaluator ∧
      (Mode.trapping "trap").FirstFault args e.postorder [.var "x", .constant 1] sum .overflow ∧
      evaluator.apply args = .error .overflow := by
  intro sum e args
  obtain ⟨evaluator, built⟩ :
      ∃ evaluator, Evaluator.build (.trapping "trap") e = .ok evaluator := ⟨_, rfl⟩
  have first : (Mode.trapping "trap").FirstFault args e.postorder [.var "x", .constant 1] sum
      .overflow := by
    have known : (Mode.trapping "trap").binary.find? "+" = some Word.checkedAdd := rfl
    have overflows : Word.checkedAdd 2147483647 1 = .error .overflow := rfl
    refine ⟨⟨_, rfl⟩, ⟨_, _, _, ⟨.x, rfl, rfl⟩, rfl, known, overflows.symm⟩, ?_⟩
    intro t member
    have valued : (Mode.trapping "trap").HasValue args t := by
      have earlier : t = .var "x" ∨ t = .constant 1 := by simpa using member
      rcases earlier with rfl | rfl
      · exact ⟨_, .x, rfl, rfl⟩
      · exact ⟨_, rfl⟩
    exact valued.not_fault
  obtain ⟨_, _, faults_iff, _⟩ := apply_in_postorder built args
  exact ⟨evaluator, built, first, (faults_iff _).mpr ⟨_, _, first⟩⟩

end Gridwise
