import Gridwise.Proofs.Arithmetic

/-!
# Substitution

An expression only depends on the coordinates whose variables occur in it, and putting another
expression in the place of a variable has the effect of moving the point: what is evaluated is the
old expression where that coordinate has the value of the new one. Faults are included, for the
operators around the replaced variable meet the same operands in the same order.
-/

namespace Gridwise

variable {α : Type} {mode : Mode α} {e s : Expr} {evaluator part : Evaluator α} {args other : Axes α}
  {axis : Axis} {name : String}

namespace Axes

variable {axes : Axes α} {a : α}

theorem get_set_self : (axes.set axis a).get axis = a := by
  cases axis <;> rfl

theorem get_set_of_ne {elsewhere : Axis} (apart : elsewhere ≠ axis) :
    (axes.set axis a).get elsewhere = axes.get elsewhere := by
  cases axis <;> cases elsewhere <;> simp_all [set, get]

theorem map_set {β : Type} (f : α → β) : (axes.set axis a).map f = (axes.map f).set axis (f a) := by
  cases axis <;> rfl

end Axes

/-- Different variables name different axes. -/
theorem ne_of_ofName? {otherName : String} {otherAxis : Axis}
    (named : Axis.ofName? name = some axis) (namedOther : Axis.ofName? otherName = some otherAxis)
    (apart : otherName ≠ name) : otherAxis ≠ axis := by
  rintro rfl
  rw [ofName?_eq_some_iff] at named namedOther
  cases otherAxis <;> simp_all

namespace Evaluator

/-- Only the coordinates whose variables occur in an expression decide what it evaluates to. -/
theorem apply_congr (built : build mode e = .ok evaluator)
    (agrees : ∀ name axis, (Expr.var name).Within e → Axis.ofName? name = some axis →
      args.get axis = other.get axis) :
    evaluator.apply args = evaluator.apply other := by
  induction e generalizing evaluator with
  | constant value =>
      cases built
      rfl
  | var name =>
      obtain ⟨axis, named, rfl⟩ := build_var_eq_ok_iff.mp built
      exact congrArg Except.ok (agrees name axis (.whole _) named)
  | unary op arg ih =>
      obtain ⟨inner, meaning, builtArg, _, rfl⟩ := build_unary_eq_ok_iff.mp built
      have same := ih builtArg fun name axis within => agrees name axis (.unary within)
      simp only [Evaluator.unary, same]
  | binary op left right ihLeft ihRight =>
      obtain ⟨first, second, meaning, builtLeft, builtRight, _, rfl⟩ :=
        build_binary_eq_ok_iff.mp built
      have sameLeft := ihLeft builtLeft fun name axis within => agrees name axis (.left within)
      have sameRight := ihRight builtRight fun name axis within => agrees name axis (.right within)
      simp only [Evaluator.binary, sameLeft, sameRight]

theorem apply_set_of_absent (built : build mode e = .ok evaluator)
    (named : Axis.ofName? name = some axis) (absent : ¬ (Expr.var name).Within e) (v : α) :
    evaluator.apply (args.set axis v) = evaluator.apply args := by
  refine apply_congr built fun otherName otherAxis within namedOther => ?_
  have apart : otherName ≠ name := by
    rintro rfl
    exact absent within
  exact Axes.get_set_of_ne (ne_of_ofName? named namedOther apart)

/-- An expression in which a variable is replaced builds, and where the new expression has a value
    it evaluates to what the old one does at that value. -/
theorem exists_build_substitute (named : Axis.ofName? name = some axis)
    (built : build mode e = .ok evaluator) (builtPart : build mode s = .ok part) :
    ∃ whole, build mode (e.substitute name s) = .ok whole ∧ ∀ args v,
      part.apply args = .ok v → whole.apply args = evaluator.apply (args.set axis v) := by
  induction e generalizing evaluator with
  | constant value =>
      cases built
      exact ⟨_, rfl, fun _ _ _ => rfl⟩
  | var otherName =>
      obtain ⟨otherAxis, namedOther, rfl⟩ := build_var_eq_ok_iff.mp built
      rw [Expr.substitute]
      by_cases same : otherName = name
      · subst same
        cases named.symm.trans namedOther
        rw [if_pos rfl]
        refine ⟨part, builtPart, fun args v applied => ?_⟩
        exact applied.trans (congrArg Except.ok Axes.get_set_self.symm)
      · rw [if_neg same]
        refine ⟨coordinate otherAxis, built, fun args v _ => ?_⟩
        have apart := ne_of_ofName? named namedOther same
        exact congrArg Except.ok (Axes.get_set_of_ne apart).symm
  | unary op arg ih =>
      obtain ⟨inner, meaning, builtArg, known, rfl⟩ := build_unary_eq_ok_iff.mp built
      obtain ⟨whole, builtWhole, same⟩ := ih builtArg
      refine ⟨unary meaning whole,
        build_unary_eq_ok_iff.mpr ⟨whole, meaning, builtWhole, known, rfl⟩, ?_⟩
      intro args v applied
      simp only [Evaluator.unary, same args v applied]
  | binary op left right ihLeft ihRight =>
      obtain ⟨first, second, meaning, builtLeft, builtRight, known, rfl⟩ :=
        build_binary_eq_ok_iff.mp built
      obtain ⟨wholeLeft, builtWholeLeft, sameLeft⟩ := ihLeft builtLeft
      obtain ⟨wholeRight, builtWholeRight, sameRight⟩ := ihRight builtRight
      refine ⟨binary meaning wholeLeft wholeRight, build_binary_eq_ok_iff.mpr
        ⟨wholeLeft, wholeRight, meaning, builtWholeLeft, builtWholeRight, known, rfl⟩, ?_⟩
      intro args v applied
      simp only [Evaluator.binary, sameLeft args v applied, sameRight args v applied]

end Evaluator

/-- A literal in the place of a variable means the same as the coordinate that it spells. -/
theorem evaluate_substitute_constant (named : Axis.ofName? name = some axis)
    (built : Evaluator.build mode e = .ok evaluator) (c : Int32) (point : Axes Int32) :
    evaluate mode (e.substitute name (.constant c)) point = evaluate mode e (point.set axis c) := by
  obtain ⟨whole, builtWhole, same⟩ :=
    Evaluator.exists_build_substitute (s := .constant c) named built rfl
  rw [evaluate_eq_evaluateAt, evaluate_eq_evaluateAt, evaluateAt_of_build builtWhole,
    evaluateAt_of_build built, Axes.map_set, same _ _ rfl]

/-- Replacing a variable by an expression that has a value evaluates to the same, be it a value or a
    fault, as giving this value to the variable, whatever the mode does with constants and
    operators. So a constant can stand for a coordinate, and a variable that does not occur has no
    influence. -/
theorem substitute_moves_point (named : Axis.ofName? name = some axis)
    (built : Evaluator.build mode e = .ok evaluator) :
    (∀ s part, Evaluator.build mode s = .ok part →
      ∃ whole, Evaluator.build mode (e.substitute name s) = .ok whole ∧ ∀ args v,
        part.apply args = .ok v → whole.apply args = evaluator.apply (args.set axis v)) ∧
    (∀ c point, evaluate mode (e.substitute name (.constant c)) point =
      evaluate mode e (point.set axis c)) ∧
    (¬ (Expr.var name).Within e →
      ∀ args v, evaluator.apply (args.set axis v) = evaluator.apply args) := by
  refine ⟨?_, evaluate_substitute_constant named built, ?_⟩
  · intro s part builtPart
    exact Evaluator.exists_build_substitute named built builtPart
  · intro absent args v
    exact Evaluator.apply_set_of_absent built named absent v

/-- A difference that comes to zero below a quotient, in a mode whose constants are doubled. -/
theorem substitute_moves_point_doubled :
    let mode : Mode Int := Mode.bare "doubled" (fun n => n.toInt + n.toInt)
      |>.withBinary "-" (· - ·)
      |>.withCheckedBinary "/" fun a b => Mode.quotientOrFault (Integer.quotient? a b)
    let e : Expr := .binary "-" (.var "x") (.binary "/" (.var "z") (.var "x"))
    let s : Expr := .binary "-" (.var "y") (.constant 1)
    Axis.ofName? "x" = some .x ∧ Axis.ofName? "y" = some .y ∧ ¬ (Expr.var "y").Within e ∧
      ∃ evaluator part whole, Evaluator.build mode e = .ok evaluator ∧
        Evaluator.build mode s = .ok part ∧ part.apply ⟨7, 2, 5⟩ = .ok 0 ∧
        Evaluator.build mode (e.substitute "x" s) = .ok whole ∧
        whole.apply ⟨7, 2, 5⟩ = .error .divisionByZero ∧
        evaluate mode (e.substitute "x" (.constant 3)) ⟨7, 2, 6⟩ = .ok 4 ∧
        ∀ args v, evaluator.apply (args.set .y v) = evaluator.apply args := by
  intro mode e s
  have namedX : Axis.ofName? "x" = some .x := rfl
  have namedY : Axis.ofName? "y" = some .y := rfl
  have absent : ¬ (Expr.var "y").Within e := by simp [e]
  obtain ⟨evaluator, built⟩ : ∃ evaluator, Evaluator.build mode e = .ok evaluator := ⟨_, rfl⟩
  obtain ⟨part, builtPart⟩ : ∃ part, Evaluator.build mode s = .ok part := ⟨_, rfl⟩
  obtain ⟨replaced, literal, _⟩ := substitute_moves_point namedX built
  obtain ⟨_, _, unmoved⟩ := substitute_moves_point namedY built
  obtain ⟨whole, builtWhole, same⟩ := replaced s part builtPart
  have applied : part.apply ⟨7, 2, 5⟩ = .ok 0 := by
    cases builtPart
    rfl
  refine ⟨namedX, namedY, absent, evaluator, part, whole, built, builtPart, applied, builtWhole,
    ?_, ?_, unmoved absent⟩
  · rw [same _ _ applied]
    cases built
    rfl
  · rw [literal]
    rfl

end Gridwise
