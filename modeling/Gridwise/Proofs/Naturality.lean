import Gridwise.Proofs.Registered
import Gridwise.Proofs.Tabulation

/-!
# Maps between modes

A map of numbers carries one mode to another if it takes constants to constants, and results of each
operator to results of the operator of the same name, faults to the same faults. Then all that is
computed in the second mode is the image of what is computed in the first one: the same expressions
build, what has been built faults at the same points in the same way, and tables are mapped cell by
cell.
-/

namespace Gridwise

variable {α β : Type} {h : α → β} {source : Mode α} {target : Mode β}

/-- The same error in another mode that has the same operators. -/
def BuildError.inMode (mode : String) : BuildError → BuildError
  | .unsupportedVariable name => .unsupportedVariable name
  | .unsupportedUnary _ op supported => .unsupportedUnary mode op supported
  | .unsupportedBinary _ op supported => .unsupportedBinary mode op supported

/-- The map carries the constants and the operators of one mode to those of another. The two modes
    have operators of the same names. -/
structure Mode.IsHom (h : α → β) (source : Mode α) (target : Mode β) : Prop where
  constant : ∀ n, target.constant n = h (source.constant n)
  unaryNames : ∀ op, op ∈ target.unaryNames ↔ op ∈ source.unaryNames
  binaryNames : ∀ op, op ∈ target.binaryNames ↔ op ∈ source.binaryNames
  unary : ∀ op f g, source.unary.find? op = some f → target.unary.find? op = some g →
    ∀ a, g (h a) = (f a).map h
  binary : ∀ op f g, source.binary.find? op = some f → target.binary.find? op = some g →
    ∀ a b, g (h a) (h b) = (f a b).map h

namespace Evaluator

/-- Where it is applied to images, the second evaluator yields the image of what the first one
    yields. -/
def Carries (h : α → β) (first : Evaluator α) (second : Evaluator β) : Prop :=
  ∀ args, second.apply (args.map h) = (first.apply args).map h

/-- Building succeeds twice, and one evaluator carries over to the other, or it fails twice with the
    same error. -/
inductive BuildsAlong (h : α → β) (mode : String) :
    Except BuildError (Evaluator α) → Except BuildError (Evaluator β) → Prop where
  | built {first : Evaluator α} {second : Evaluator β} :
      Carries h first second → BuildsAlong h mode (.ok first) (.ok second)
  | failed (error : BuildError) : BuildsAlong h mode (.error error) (.error (error.inMode mode))

theorem BuildsAlong.bind {mode : String} {x : Except BuildError (Evaluator α)}
    {y : Except BuildError (Evaluator β)} {f : Evaluator α → Except BuildError (Evaluator α)}
    {g : Evaluator β → Except BuildError (Evaluator β)} (along : BuildsAlong h mode x y)
    (next : ∀ first second, Carries h first second → BuildsAlong h mode (f first) (g second)) :
    BuildsAlong h mode (x >>= f) (y >>= g) := by
  cases along with
  | built carries => exact next _ _ carries
  | failed error => exact .failed error

theorem Carries.unary {first : Evaluator α} {second : Evaluator β} {f : UnaryOp α} {g : UnaryOp β}
    (carries : Carries h first second) (meaning : ∀ a, g (h a) = (f a).map h) :
    Carries h (unary f first) (unary g second) := by
  intro args
  simp only [Evaluator.unary, carries args]
  cases first.apply args with
  | ok a => exact meaning a
  | error fault => rfl

theorem Carries.binary {first right : Evaluator α} {second otherRight : Evaluator β}
    {f : BinaryOp α} {g : BinaryOp β} (carriesLeft : Carries h first second)
    (carriesRight : Carries h right otherRight)
    (meaning : ∀ a b, g (h a) (h b) = (f a b).map h) :
    Carries h (binary f first right) (binary g second otherRight) := by
  intro args
  simp only [Evaluator.binary, carriesLeft args, carriesRight args]
  cases first.apply args with
  | error fault => rfl
  | ok a =>
      cases right.apply args with
      | error fault => rfl
      | ok b => exact meaning a b

end Evaluator

namespace Mode.IsHom

open Evaluator

theorem unaryNames_eq (hom : source.IsHom h target) : target.unaryNames = source.unaryNames :=
  NameSet.toList_eq_of_mem_iff hom.unaryNames

theorem binaryNames_eq (hom : source.IsHom h target) : target.binaryNames = source.binaryNames :=
  NameSet.toList_eq_of_mem_iff hom.binaryNames

theorem build_along (hom : source.IsHom h target) (e : Expr) :
    BuildsAlong h target.name (build source e) (build target e) := by
  induction e with
  | constant value =>
      refine .built fun args => ?_
      exact congrArg Except.ok (hom.constant value)
  | var name =>
      rw [build, build]
      cases Axis.ofName? name with
      | none => exact .failed _
      | some axis =>
          refine .built fun args => ?_
          exact congrArg Except.ok (args.get_map h axis)
  | unary op arg ih =>
      refine ih.bind fun first second carries => ?_
      rcases NameMap.find?_cases_of_names hom.unaryNames op with
        ⟨unknown, unknownHere⟩ | ⟨f, g, known, knownHere⟩
      · -- An error lists the operators of its mode, and these are the same in both.
        rw [unknown, unknownHere, hom.unaryNames_eq]
        exact .failed (.unsupportedUnary source.name op source.unaryNames)
      · rw [known, knownHere]
        exact .built (carries.unary (hom.unary op f g known knownHere))
  | binary op left right ihLeft ihRight =>
      refine ihLeft.bind fun first second carriesLeft => ?_
      refine ihRight.bind fun right otherRight carriesRight => ?_
      rcases NameMap.find?_cases_of_names hom.binaryNames op with
        ⟨unknown, unknownHere⟩ | ⟨f, g, known, knownHere⟩
      · rw [unknown, unknownHere, hom.binaryNames_eq]
        exact .failed (.unsupportedBinary source.name op source.binaryNames)
      · rw [known, knownHere]
        exact .built (carriesLeft.binary carriesRight (hom.binary op f g known knownHere))

theorem map_constant (hom : source.IsHom h target) (point : Axes Int32) :
    point.map target.constant = (point.map source.constant).map h := by
  rw [Axes.map, Axes.map, Axes.map, hom.constant, hom.constant, hom.constant]

theorem toOption_outcomeAt (hom : source.IsHom h target) {first : Evaluator α}
    {second : Evaluator β} (carries : Carries h first second) (point : Axes Int32) :
    (second.outcomeAt target point).toOption = (first.outcomeAt source point).toOption.map h := by
  rw [outcomeAt, outcomeAt, hom.map_constant, carries]
  cases first.apply (point.map source.constant) with
  | ok a => rfl
  | error fault => rfl

theorem table_eq_map (hom : source.IsHom h target) {first : Evaluator α} {second : Evaluator β}
    (carries : Carries h first second) (box : Box) (config other : TabulateConfig) :
    second.table target box other = (first.table source box config).map h := by
  simp only [table_eq_tabulate, Table.map_tabulate, hom.toOption_outcomeAt carries]

end Mode.IsHom

/-- What is built, evaluated and tabulated in a mode goes over to every mode that a map of numbers
    carries it to. The same expressions build, and errors differ in nothing but the name of the
    mode; evaluators yield the images of what they yielded, with the same faults; and tables are
    mapped, however each of them is computed. -/
theorem build_carries_over (hom : source.IsHom h target) (e : Expr) :
    ((∃ second, Evaluator.build target e = .ok second) ↔
      ∃ first, Evaluator.build source e = .ok first) ∧
    (∀ error, Evaluator.build source e = .error error →
      Evaluator.build target e = .error (error.inMode target.name)) ∧
    ∀ first second, Evaluator.build source e = .ok first → Evaluator.build target e = .ok second →
      (∀ args, second.apply (args.map h) = (first.apply args).map h) ∧
      ∀ (box : Box) (config other : TabulateConfig),
        second.table target box other = (first.table source box config).map h := by
  have along := hom.build_along e
  generalize Evaluator.build source e = built at along ⊢
  generalize Evaluator.build target e = builtThere at along ⊢
  cases along with
  | built carries =>
      refine ⟨⟨fun _ => ⟨_, rfl⟩, fun _ => ⟨_, rfl⟩⟩, nofun, ?_⟩
      rintro first second ⟨⟩ ⟨⟩
      exact ⟨carries, hom.table_eq_map carries⟩
  | failed error =>
      refine ⟨⟨nofun, nofun⟩, ?_, nofun⟩
      rintro _ ⟨⟩
      rfl

/-- Reduction to words carries products of integers to wrapping ones, and an operator without
    results to another one, but gives a missing operator no meaning. -/
theorem build_carries_over_reduction :
    let source : Mode Int := Mode.bare "products" Int32.toInt
      |>.withBinary "*" (· * ·) |>.withCheckedUnary "!" fun _ => .error .overflow
    let target : Mode Int32 := Mode.bare "wrapping" id
      |>.withBinary "*" (· * ·) |>.withCheckedUnary "!" fun _ => .error .overflow
    let product : Expr := .binary "*" (.var "x") (.var "x")
    let sum : Expr := .binary "+" (.unary "!" (.var "x")) (.var "y")
    let box : Box := ⟨⟨⟨65536, 65537⟩, by decide⟩, ⟨⟨0, 0⟩, by decide⟩, ⟨⟨0, 0⟩, by decide⟩⟩
    source.IsHom Int32.ofInt target ∧
      (∃ first second, Evaluator.build source product = .ok first ∧
        Evaluator.build target product = .ok second ∧
        first.table source box {} = [[[some 4294967296]], [[some 4295098369]]] ∧
        second.table target box {} = [[[some 0]], [[some 131073]]]) ∧
      Evaluator.build target sum = .error (.unsupportedBinary "wrapping" "+" ["*"]) := by
  intro source target product sum box
  have hom : source.IsHom Int32.ofInt target := by
    refine ⟨?_, ?_, ?_, ?_, ?_⟩
    · intro n
      exact (Int32.ofInt_toInt n).symm
    · intro op
      exact Iff.rfl
    · intro op
      exact Iff.rfl
    · intro op f g known knownThere a
      obtain ⟨_, rfl⟩ := NameMap.eq_of_find?_insert_empty known
      obtain ⟨_, rfl⟩ := NameMap.eq_of_find?_insert_empty knownThere
      rfl
    · intro op f g known knownThere a b
      obtain ⟨_, rfl⟩ := NameMap.eq_of_find?_insert_empty known
      obtain ⟨_, rfl⟩ := NameMap.eq_of_find?_insert_empty knownThere
      exact congrArg Except.ok (Int32.ofInt_mul a b).symm
  obtain ⟨builds_iff, _, carries⟩ := build_carries_over hom product
  obtain ⟨_, errors, _⟩ := build_carries_over hom sum
  refine ⟨hom, ?_, errors _ rfl⟩
  obtain ⟨first, built⟩ : ∃ first, Evaluator.build source product = .ok first := ⟨_, rfl⟩
  obtain ⟨second, builtThere⟩ := builds_iff.mpr ⟨first, built⟩
  have table : first.table source box {} = [[[some 4294967296]], [[some 4295098369]]] := by
    cases built
    decide +kernel
  refine ⟨first, second, built, builtThere, table, ?_⟩
  rw [(carries first second built builtThere).2 box {} {}, table]
  decide +kernel

end Gridwise
