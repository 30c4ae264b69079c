import Gridwise.Failure
import Gridwise.Outcome

/-!
# Agreement of outcomes

What counts of an error are the kinds along its chain of causes, so two outcomes agree if they are
equal once nothing but kinds is left of their errors. Agreement is therefore an equivalence on which
messages have no influence, and it is kept by transforming values and by wrapping errors in others.
On the way no error is handed to a transformation of values, and no value to one of errors.
-/

namespace Gridwise

variable {α β γ ε κ : Type} [Classified ε κ]

namespace Classified

/-- An error, its cause, that one's cause, and so on. -/
def chain (error : ε) : List ε :=
  match caused : cause error with
  | none => [error]
  | some inner =>
      have := rank_cause caused
      error :: chain inner
termination_by rank error

theorem chain_eq (error : ε) : chain error = error :: ((cause error).map chain).getD [] := by
  rw [chain]
  split
  · next root => simp [root]
  · next inner caused => simp [caused]

theorem kinds_eq (error : ε) : kinds error = kind error :: ((cause error).map kinds).getD [] := by
  rw [kinds]
  split
  · next root => simp [root]
  · next inner caused => simp [caused]

theorem kinds_ne_nil (error : ε) : kinds error ≠ [] := by
  rw [kinds_eq]
  exact List.cons_ne_nil _ _

theorem kinds_eq_map_chain (error : ε) : kinds error = (chain error).map kind := by
  induction error using kinds.induct with
  | case1 error root => rw [kinds_eq, chain_eq, root]; rfl
  | case2 error inner caused _ ih =>
      rw [kinds_eq, chain_eq, caused]
      exact congrArg (kind error :: ·) ih

theorem sameKinds_eq [DecidableEq κ] (first second : ε) :
    sameKinds first second = (decide (kind first = kind second) &&
      match cause first, cause second with
      | none, none => true
      | some inner, some other => sameKinds inner other
      | _, _ => false) := by
  rw [sameKinds]
  congr 1
  split
  · next root otherRoot => simp only [root, otherRoot]
  · next inner other caused otherCaused => simp only [caused, otherCaused]
  · next notRoots notCaused =>
      split
      · next root otherRoot => exact (notRoots root otherRoot).elim
      · next inner other caused otherCaused => exact (notCaused _ _ caused otherCaused).elim
      · rfl

/-- The two chains end together or not at all, as no chain is empty. -/
theorem sameKinds_iff [DecidableEq κ] {first second : ε} :
    sameKinds first second ↔ kinds first = kinds second := by
  induction first using kinds.induct generalizing second with
  | case1 first root =>
      rw [sameKinds_eq, kinds_eq first, kinds_eq second, root]
      cases cause second with
      | none => simp
      | some other => simp [(kinds_ne_nil other).symm]
  | case2 first inner caused _ ih =>
      rw [sameKinds_eq, kinds_eq first, kinds_eq second, caused]
      cases cause second with
      | none => simp [kinds_ne_nil]
      | some other => simp [ih]

theorem kinds_eq_iff {first second : ε} :
    kinds first = kinds second ↔
      (chain first).length = (chain second).length ∧
      ∀ (i : Nat) (a b : ε), (chain first)[i]? = some a → (chain second)[i]? = some b →
        kind a = kind b := by
  rw [kinds_eq_map_chain, kinds_eq_map_chain]
  constructor
  · intro same
    refine ⟨by simpa using congrArg List.length same, fun i a b atFirst atSecond => ?_⟩
    have sameAt := congrArg (·[i]?) same
    simpa [atFirst, atSecond] using sameAt
  · intro ⟨sameLength, sameKind⟩
    apply List.ext_getElem (by simpa using sameLength)
    intro i inFirst inSecond
    rw [List.length_map] at inFirst inSecond
    rw [List.getElem_map, List.getElem_map]
    exact sameKind i _ _ (List.getElem?_eq_getElem inFirst) (List.getElem?_eq_getElem inSecond)

end Classified

open Classified

/-- Other messages for the errors of a chain, by their places in it. Whatever an error has besides
    its kind and its cause may be replaced. -/
structure Rewording (ε : Type) {κ : Type} [Classified ε κ] where
  reword : Nat → ε → ε
  kind_reword : ∀ place error, kind (reword place error) = kind error
  cause_reword : ∀ place error, cause (reword place error) = (cause error).map (reword (place + 1))

/-- Makes an error the cause of a new one of a given kind. -/
structure Wrapping (ε : Type) {κ : Type} [Classified ε κ] where
  kind : κ
  wrap : ε → ε
  kind_wrap : ∀ error, Classified.kind (wrap error) = kind
  cause_wrap : ∀ error, cause (wrap error) = some error

theorem Rewording.kinds_reword (rewording : Rewording ε) (place : Nat) (error : ε) :
    kinds (rewording.reword place error) = kinds error := by
  induction error using kinds.induct generalizing place with
  | case1 error root =>
      rw [kinds_eq, kinds_eq error, rewording.kind_reword, rewording.cause_reword, root]
      rfl
  | case2 error inner caused _ ih =>
      rw [kinds_eq, kinds_eq error, rewording.kind_reword, rewording.cause_reword, caused]
      exact congrArg (Classified.kind error :: ·) (ih (place + 1))

theorem Wrapping.kinds_wrap (wrapping : Wrapping ε) (error : ε) :
    kinds (wrapping.wrap error) = wrapping.kind :: kinds error := by
  rw [kinds_eq, wrapping.kind_wrap, wrapping.cause_wrap]
  rfl

/-- Transformations of values and of errors, to be made one after the other. -/
inductive Steps (ε : Type) {κ : Type} [Classified ε κ] : Type → Type → Type 1 where
  | done {α : Type} : Steps ε α α
  | map {α β γ : Type} (f : α → β) (rest : Steps ε β γ) : Steps ε α γ
  | wrap {α β : Type} (wrapping : Wrapping ε) (rest : Steps ε α β) : Steps ε α β

/-- What a transformation is handed. -/
inductive Side where
  | value
  | error
  deriving DecidableEq

namespace Outcome

variable {ε' : Type} {first second : Outcome α ε}

theorem agrees_iff [DecidableEq α] [DecidableEq κ] :
    first.agrees second ↔ first.mapError kinds = second.mapError kinds := by
  cases first with
  | value a =>
      cases second with
      | value b => simp [agrees, mapError]
      | error e => simp [agrees, mapError]
  | error e =>
      cases second with
      | value b => simp [agrees, mapError]
      | error e' => simp [agrees, mapError, sameKinds_iff]

theorem mapError_map (f : α → β) (g : ε → ε') (outcome : Outcome α ε) :
    (outcome.map f).mapError g = (outcome.mapError g).map f := by
  cases outcome <;> rfl

theorem mapError_kinds_wrap (wrapping : Wrapping ε) (outcome : Outcome α ε) :
    (outcome.mapError wrapping.wrap).mapError kinds =
      (outcome.mapError kinds).mapError (wrapping.kind :: ·) := by
  cases outcome with
  | value a => rfl
  | error e => exact congrArg error (wrapping.kinds_wrap e)

theorem mapError_kinds_reword (rewording : Rewording ε) (place : Nat) (outcome : Outcome α ε) :
    (outcome.mapError (rewording.reword place)).mapError kinds = outcome.mapError kinds := by
  cases outcome with
  | value a => rfl
  | error e => exact congrArg error (rewording.kinds_reword place e)

/-- Outcomes that agree tell the same when they are asked for a value. -/
theorem same_value_of_mapError_eq {f : ε → ε'} (same : first.mapError f = second.mapError f) :
    first.hasValue = second.hasValue ∧ first.toOption = second.toOption ∧
      ∀ default, first.valueOr default = second.valueOr default := by
  cases first with
  | value a =>
      cases second with
      | value b =>
          cases same
          exact ⟨rfl, rfl, fun _ => rfl⟩
      | error e => cases same
  | error e =>
      cases second with
      | value b => cases same
      | error e' => exact ⟨rfl, rfl, fun _ => rfl⟩

end Outcome

namespace Steps

/-- Makes the transformations. -/
def run {α β : Type} : Steps ε α β → Outcome α ε → Outcome β ε
  | .done, outcome => outcome
  | .map f rest, outcome => rest.run (outcome.map f)
  | .wrap wrapping rest, outcome => rest.run (outcome.mapError wrapping.wrap)

/-- The number of transformations of values. -/
def maps {α β : Type} : Steps ε α β → Nat
  | .done => 0
  | .map _ rest => rest.maps + 1
  | .wrap _ rest => rest.maps

/-- The number of transformations of errors. -/
def wraps {α β : Type} : Steps ε α β → Nat
  | .done => 0
  | .map _ rest => rest.wraps
  | .wrap _ rest => rest.wraps + 1

/-- Enters a call into a log and makes it. -/
def noting (side : Side) (f : α → β) (a : α) : StateM (List Side) β := do
  modify (· ++ [side])
  return f a

/-- Makes the transformations under observation: each call of one is entered into a log. -/
def observed {α β : Type} : Steps ε α β → Outcome α ε → StateM (List Side) (Outcome β ε)
  | .done, outcome => return outcome
  | .map f rest, outcome => do rest.observed (← outcome.mapM (noting .value f))
  | .wrap wrapping rest, outcome => do
      rest.observed (← outcome.mapErrorM (noting .error wrapping.wrap))

/-- The calls that are made on the way: one for each transformation of the side that is held. -/
def calls (steps : Steps ε α β) (outcome : Outcome α ε) : List Side :=
  if outcome.hasValue then List.replicate steps.maps .value
  else List.replicate steps.wraps .error

theorem mapError_kinds_run (steps : Steps ε α β) {first second : Outcome α ε}
    (same : first.mapError kinds = second.mapError kinds) :
    (steps.run first).mapError kinds = (steps.run second).mapError kinds := by
  induction steps with
  | done => exact same
  | map f rest ih =>
      apply ih
      rw [Outcome.mapError_map, Outcome.mapError_map, same]
  | wrap wrapping rest ih =>
      apply ih
      rw [Outcome.mapError_kinds_wrap, Outcome.mapError_kinds_wrap, same]

theorem run_observed (steps : Steps ε α β) (outcome : Outcome α ε) (log : List Side) :
    (steps.observed outcome).run log = (steps.run outcome, log ++ steps.calls outcome) := by
  induction steps generalizing log with
  | done =>
      show (outcome, log) = (outcome, log ++ calls .done outcome)
      simp [calls, maps, wraps]
  | map f rest ih =>
      cases outcome with
      | value a =>
          show (rest.observed (.value (f a))).run (log ++ [.value]) = _
          simp [ih, run, calls, maps, Outcome.hasValue, Outcome.map, List.replicate_succ]
      | error e => exact ih (.error e) log
  | wrap wrapping rest ih =>
      cases outcome with
      | value a => exact ih (.value a) log
      | error e =>
          show (rest.observed (.error (wrapping.wrap e))).run (log ++ [.error]) = _
          simp [ih, run, calls, wraps, Outcome.hasValue, Outcome.mapError, List.replicate_succ]

end Steps

namespace Failure

/-- Puts another message in the place of each one of a chain. -/
def reword (message : Nat → String → String) : Nat → Failure → Failure
  | place, .root kind old => .root kind (message place old)
  | place, .causedBy kind old cause =>
      .causedBy kind (message place old) (reword message (place + 1) cause)

/-- Messages are not what makes up the kind or the cause of a failure. -/
def rewording (message : Nat → String → String) : Rewording Failure where
  reword := reword message
  kind_reword _ failure := by cases failure <;> rfl
  cause_reword _ failure := by cases failure <;> rfl

/-- The failure of a given kind that tells what it was caused by. -/
def wrapping (kind : String) : Wrapping Failure where
  kind := kind
  wrap := wrap kind
  kind_wrap _ := rfl
  cause_wrap _ := rfl

end Failure

namespace Outcome

/-- Errors agree if their chains are of one length and of the same kind at each place, values if
    they are equal, and a value and an error never. -/
theorem agrees_by_kinds [DecidableEq α] [DecidableEq κ] :
    (∀ first second : ε, (Outcome.error first : Outcome α ε).agrees (.error second) ↔
      (chain first).length = (chain second).length ∧
      ∀ (i : Nat) (a b : ε), (chain first)[i]? = some a → (chain second)[i]? = some b →
        kind a = kind b) ∧
    (∀ first second : α,
      (Outcome.value first : Outcome α ε).agrees (.value second) ↔ first = second) ∧
    (∀ (a : α) (e : ε), (Outcome.value a : Outcome α ε).agrees (.error e) = false ∧
      (Outcome.error e : Outcome α ε).agrees (.value a) = false) ∧
    Equivalence (fun first second : Outcome α ε => first.agrees second) ∧
    (∀ (rewording other : Rewording ε) (first second : Outcome α ε),
      (first.mapError (rewording.reword 0)).agrees (second.mapError (other.reword 0)) =
        first.agrees second) ∧
    (∀ first second : Outcome α ε, first.agrees second →
      ∀ (β : Type) [DecidableEq β] (steps : Steps ε α β),
        (steps.run first).agrees (steps.run second) ∧
        (steps.run first).hasValue = (steps.run second).hasValue ∧
        (steps.run first).toOption = (steps.run second).toOption ∧
        ∀ default, (steps.run first).valueOr default = (steps.run second).valueOr default) ∧
    ∀ (β : Type) (steps : Steps ε α β) (outcome : Outcome α ε) (log : List Side),
      (steps.observed outcome).run log = (steps.run outcome, log ++
        if outcome.hasValue then List.replicate steps.maps .value
        else List.replicate steps.wraps .error) := by
  refine ⟨?_, ?_, ?_, ?_, ?_, ?_, ?_⟩
  · intro first second
    rw [← kinds_eq_iff, ← sameKinds_iff]
    rfl
  · intro first second
    simp [agrees]
  · intro a e
    exact ⟨rfl, rfl⟩
  · refine ⟨fun _ => agrees_iff.mpr rfl, fun same => ?_, fun same next => ?_⟩
    · exact agrees_iff.mpr (agrees_iff.mp same).symm
    · exact agrees_iff.mpr ((agrees_iff.mp same).trans (agrees_iff.mp next))
  · intro rewording other first second
    rw [Bool.eq_iff_iff, agrees_iff, agrees_iff, mapError_kinds_reword, mapError_kinds_reword]
  · intro first second same β _ steps
    have kept := steps.mapError_kinds_run (agrees_iff.mp same)
    exact ⟨agrees_iff.mpr kept, same_value_of_mapError_eq kept⟩
  · intro β steps outcome log
    exact steps.run_observed outcome log

/-- Failures with other messages at both ends of their chains, that are transformed alike. -/
theorem agrees_by_kinds_wrapped :
    let first : Outcome Int32 Failure := .error (.causedBy "parse" "line 1" (.root "io" "disk"))
    let second : Outcome Int32 Failure := .error (.causedBy "parse" "line 9" (.root "io" "net"))
    let steps : Steps Failure Int32 Int :=
      .wrap (Failure.wrapping "load") (.map Int32.toInt (.wrap (Failure.wrapping "start") .done))
    first ≠ second ∧ first.agrees second ∧ (steps.run first).agrees (steps.run second) ∧
      (steps.run second).toOption = none := by
  intro first second steps
  have same : first.agrees second := by decide +kernel
  obtain ⟨_, _, _, _, _, congr, _⟩ := agrees_by_kinds (α := Int32) (ε := Failure)
  obtain ⟨kept, _, _, _⟩ := congr first second same Int steps
  exact ⟨by simp [first, second], same, kept, rfl⟩

end Outcome

end Gridwise
