/-!
# Computations in sequence

How a sequence of computations that may fail succeeds, and what the second of two computations with
a state starts from.
-/

namespace Gridwise

variable {α β ε : Type}

theorem bind_eq_ok_iff {x : Except ε α} {f : α → Except ε β} {b : β} :
    x >>= f = .ok b ↔ ∃ a, x = .ok a ∧ f a = .ok b := by
  cases x with
  | error fault => simp [bind, Except.bind]
  | ok a => simp [bind, Except.bind]

theorem bind_eq_error_iff {x : Except ε α} {f : α → Except ε β} {fault : ε} :
    x >>= f = .error fault ↔ x = .error fault ∨ ∃ a, x = .ok a ∧ f a = .error fault := by
  cases x with
  | error other => simp [bind, Except.bind]
  | ok a => simp [bind, Except.bind]

/-- A sequence of two computations fails with the first failure of the two. -/
theorem bind_eq_error_iff_or {x : Except ε α} {f : α → Except ε β} {fault : ε}
    {first later : Option ε} (fails : ∀ fault, x = .error fault ↔ first = some fault)
    (failsLater : ∀ a fault, f a = .error fault ↔ later = some fault) :
    x >>= f = .error fault ↔ first.or later = some fault := by
  cases x with
  | error other =>
      rw [(fails other).mp rfl]
      simp [bind, Except.bind]
  | ok a =>
      have none : first = none := by
        rw [Option.eq_none_iff_forall_ne_some]
        intro other found
        cases (fails other).mpr found
      rw [none, Option.none_or]
      exact failsLater a fault

theorem mapM_eq_ok {f : α → Except ε β} {g : α → β} {items : List α}
    (succeeds : ∀ a ∈ items, f a = .ok (g a)) : items.mapM f = .ok (items.map g) := by
  induction items with
  | nil => rfl
  | cons item rest ih =>
      have first : f item = .ok (g item) := succeeds item List.mem_cons_self
      have others := ih fun a member => succeeds a (List.mem_cons_of_mem item member)
      rw [List.mapM_cons, first, others]
      rfl

theorem mapM_eq_error {f : α → Except ε β} {fault : ε} {items : List α} (nonempty : items ≠ [])
    (fails : ∀ a ∈ items, f a = .error fault) : items.mapM f = .error fault := by
  obtain ⟨item, rest, rfl⟩ := List.exists_cons_of_ne_nil nonempty
  rw [List.mapM_cons, fails item List.mem_cons_self]
  rfl

theorem bind_apply {σ : Type} (x : StateM σ α) (f : α → StateM σ β) (state : σ) :
    (x >>= f) state = f (x state).1 (x state).2 := rfl

variable {σ : Type} {state : σ}

theorem mapM_cons_apply (f : α → StateM σ β) (a : α) (items : List α) (state : σ) :
    (a :: items).mapM f state =
      ((f a state).1 :: (items.mapM f (f a state).2).1, (items.mapM f (f a state).2).2) := by
  rw [List.mapM_cons]
  rfl

theorem mapM_append_apply (f : α → StateM σ β) (front back : List α) (state : σ) :
    (front ++ back).mapM f state =
      ((front.mapM f state).1 ++ (back.mapM f (front.mapM f state).2).1,
        (back.mapM f (front.mapM f state).2).2) := by
  rw [List.mapM_append]
  rfl

theorem length_mapM_apply (f : α → StateM σ β) (items : List α) (state : σ) :
    (items.mapM f state).1.length = items.length := by
  induction items generalizing state with
  | nil => rfl
  | cons a items ih => rw [mapM_cons_apply, List.length_cons, List.length_cons, ih]

/-- What every computation yields in every state, all of them yield. -/
theorem forall_mapM_apply {f : α → StateM σ β} {property : β → Prop} {items : List α}
    (each : ∀ a ∈ items, ∀ state, property (f a state).1) (state : σ) :
    ∀ b ∈ (items.mapM f state).1, property b := by
  induction items generalizing state with
  | nil => exact fun b member => absurd member List.not_mem_nil
  | cons a items ih =>
      obtain ⟨first, others⟩ := List.forall_mem_cons.mp each
      rw [mapM_cons_apply]
      exact List.forall_mem_cons.mpr ⟨first state, ih others _⟩

theorem bind_apply_of_some {x : StateT σ Option α} {result : α × σ}
    (found : x state = some result) (f : α → StateT σ Option β) :
    (x >>= f) state = f result.1 result.2 := by
  simp [bind, StateT.bind, found]

theorem bind_apply_of_none {x : StateT σ Option α} (missing : x state = none)
    (f : α → StateT σ Option β) : (x >>= f) state = none := by
  simp [bind, StateT.bind, missing]

theorem lift_bind_apply {x : Option α} {a : α} (found : x = some a)
    (f : α → StateT σ Option β) :
    (do let a ← x; f a : StateT σ Option β) state = f a state := by
  rw [found]
  rfl

end Gridwise
