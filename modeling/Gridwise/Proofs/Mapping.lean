import Gridwise.Proofs.Comparison
import Gridwise.Proofs.Computation
import Gridwise.Proofs.Points

/-!
# Mapping a table

A table is transformed cell by cell, from front to back at each level. The calls that are made on
the way are those for its present cells, one for each, by `x`, then by `y`, then by `z`, and each
result goes to the place of its cell. No length changes, and absent cells stay absent.
-/

namespace Gridwise

variable {α β γ δ ζ σ : Type}

/-- Enters the argument of a call into a log and makes the call. -/
def noting (f : α → StateM σ β) (a : α) : StateM (List α × σ) β := fun (log, state) =>
  let (b, next) := f a state
  (b, log ++ [a], next)

/-- A part of a table is transformed by calls for its values. The calls are made in the order of the
    values, and the results take their places in what otherwise stays as it is. -/
structure Visits (f : α → StateM σ β) (visit : γ → StateM σ δ)
    (noted : γ → StateM (List α × σ) δ) (values : γ → List α) (results : δ → List β)
    (frame : γ → ζ) (newFrame : δ → ζ) : Prop where
  calls : ∀ part log state,
    noted part (log, state) = ((visit part state).1, log ++ values part, (visit part state).2)
  results_eq : ∀ part state,
    (results (visit part state).1, (visit part state).2) = (values part).mapM f state
  frame_eq : ∀ part state, newFrame (visit part state).1 = frame part

namespace Visits

variable {f : α → StateM σ β} {visit : γ → StateM σ δ} {noted : γ → StateM (List α × σ) δ}
  {values : γ → List α} {results : δ → List β} {frame : γ → ζ} {newFrame : δ → ζ}

/-- What holds of the parts holds of a list of them. -/
theorem lists (visits : Visits f visit noted values results frame newFrame) :
    Visits f (List.mapM visit) (List.mapM noted) (List.flatMap values) (List.flatMap results)
      (List.map frame) (List.map newFrame) := by
  refine ⟨?_, ?_, ?_⟩
  · intro parts log state
    induction parts generalizing log state with
    | nil => exact congrArg (fun calls => ([], calls, state)) (List.append_nil log).symm
    | cons part parts ih =>
        rw [mapM_cons_apply, mapM_cons_apply, visits.calls, ih, List.flatMap_cons,
          List.append_assoc]
  · intro parts state
    induction parts generalizing state with
    | nil => rfl
    | cons part parts ih =>
        rw [mapM_cons_apply, List.flatMap_cons, List.flatMap_cons, mapM_append_apply,
          ← visits.results_eq, ← ih]
  · intro parts state
    induction parts generalizing state with
    | nil => rfl
    | cons part parts ih =>
        rw [mapM_cons_apply, List.map_cons, List.map_cons, visits.frame_eq, ih]

/-- A cell is visited by a call if there is something in it. -/
theorem cell (f : α → StateM σ β) :
    Visits f (Option.mapM f) (Option.mapM (noting f)) Option.toList Option.toList
      (Option.map fun _ => ()) (Option.map fun _ => ()) := by
  refine ⟨?_, ?_, ?_⟩
  · intro cell log state
    cases cell with
    | none => exact congrArg (fun calls => (none, calls, state)) (List.append_nil log).symm
    | some a => rfl
  · intro cell state
    cases cell with
    | none => rfl
    | some a => exact (mapM_cons_apply f a [] state).symm
  · intro cell state
    cases cell <;> rfl

end Visits

/-! ## Values and their places -/

/-- The values in the parts of a list. To the index path of a value in its part the index of the part
    is added in front. -/
def indexed (entries : γ → List (List Nat × α)) (parts : List γ) : List (List Nat × α) :=
  parts.zipIdx.flatMap fun (part, i) => (entries part).map fun (path, a) => (i :: path, a)

section Indexed

variable {entries : γ → List (List Nat × α)} {newEntries : δ → List (List Nat × β)}
  {parts : List γ} {path : List Nat} {a : α}

theorem mem_indexed_iff :
    (path, a) ∈ indexed entries parts ↔
      ∃ i part rest, parts[i]? = some part ∧ (rest, a) ∈ entries part ∧ i :: rest = path := by
  simp only [indexed, List.mem_flatMap, List.mem_map, Prod.exists, List.mem_zipIdx_iff_getElem?,
    Prod.mk.injEq]
  constructor
  · rintro ⟨part, i, found, rest, _, member, same, rfl⟩
    exact ⟨i, part, rest, found, member, same⟩
  · rintro ⟨i, part, rest, found, member, same⟩
    exact ⟨part, i, found, rest, a, member, same, rfl⟩

theorem pairwise_indexed (ascends : ∀ part, (entries part).Pairwise fun p q => p.1 < q.1)
    (parts : List γ) : (indexed entries parts).Pairwise fun p q => p.1 < q.1 := by
  rw [indexed, List.pairwise_flatMap]
  constructor
  · rintro ⟨part, i⟩ _
    rw [List.pairwise_map]
    exact (ascends part).imp fun before => List.cons_lt_cons_self.mpr before
  · have indices : (parts.zipIdx.map Prod.snd).Pairwise (· < ·) := by
      rw [List.zipIdx_map_snd]
      exact List.pairwise_lt_range'
    refine (List.pairwise_map.mp indices).imp ?_
    rintro ⟨part, i⟩ ⟨other, j⟩ before p member q otherMember
    obtain ⟨_, _, rfl⟩ := List.mem_map.mp member
    obtain ⟨_, _, rfl⟩ := List.mem_map.mp otherMember
    exact List.cons_lt_cons_iff.mpr (.inl before)

theorem indexed_map {g : γ → δ} {h : α → β}
    (natural : ∀ part, newEntries (g part) = (entries part).map (Prod.map id h))
    (parts : List γ) :
    indexed newEntries (parts.map g) = (indexed entries parts).map (Prod.map id h) := by
  simp only [indexed, List.zipIdx_map, List.flatMap_map, List.map_flatMap, Prod.map, natural,
    List.map_map, id_eq]
  rfl

theorem map_snd_indexed (parts : List γ) :
    (indexed entries parts).map Prod.snd =
      parts.flatMap fun part => (entries part).map Prod.snd := by
  conv => rhs; rw [← List.zipIdx_map_fst 0 parts, List.flatMap_map]
  simp only [indexed, List.map_flatMap, List.map_map]
  rfl

end Indexed

namespace Table

/-- The values of the present cells with the index paths of the cells, in table order. -/
def present (table : Table α) : List (List Nat × α) :=
  indexed (indexed (indexed fun cell => cell.toList.map fun a => ([], a))) table

variable {table other : Table α} {offset : Axes Nat} {path : List Nat} {a : α}

theorem mem_present_iff :
    (path, a) ∈ table.present ↔
      ∃ offset, offset.toList = path ∧ table.cell? offset = some (some a) := by
  simp only [present, mem_indexed_iff, cell?_eq_some_iff, List.mem_map, Option.mem_toList,
    Prod.mk.injEq]
  constructor
  · rintro ⟨i, plane, _, foundPlane, ⟨j, row, _, foundRow, ⟨k, _, _, foundCell, ⟨_, rfl, rfl, rfl⟩,
      rfl⟩, rfl⟩, rfl⟩
    exact ⟨⟨i, j, k⟩, rfl, plane, foundPlane, row, foundRow, foundCell⟩
  · rintro ⟨⟨i, j, k⟩, rfl, plane, foundPlane, row, foundRow, foundCell⟩
    exact ⟨i, plane, _, foundPlane, ⟨j, row, _, foundRow, ⟨k, some a, [], foundCell,
      ⟨a, rfl, rfl, rfl⟩, rfl⟩, rfl⟩, rfl⟩

theorem pairwise_present (table : Table α) : table.present.Pairwise fun p q => p.1 < q.1 := by
  refine pairwise_indexed (pairwise_indexed (pairwise_indexed ?_)) table
  intro cell
  cases cell with
  | none => exact .nil
  | some a => exact List.pairwise_singleton _ _

theorem present_map (f : α → β) (table : Table α) :
    (table.map f).present = table.present.map (Prod.map id f) := by
  refine indexed_map (indexed_map (indexed_map ?_)) table
  intro cell
  cases cell <;> rfl

/-- The table with nothing left in its present cells. -/
def frame (table : Table α) : Table Unit := table.map fun _ => ()

theorem lengthAt?_frame (path : List Nat) : table.frame.lengthAt? path = table.lengthAt? path :=
  lengthAt?_map_cells _ path

theorem cell?_frame (offset : Axes Nat) :
    table.frame.cell? offset = (table.cell? offset).map (Option.map fun _ => ()) :=
  cell?_map_cells _

theorem cell?_frame_eq_absent_iff :
    table.frame.cell? offset = some none ↔ table.cell? offset = some none := by
  rw [cell?_frame]
  cases table.cell? offset with
  | none => simp
  | some cell => simp

theorem shape_frame (table : Table α) : table.frame.shape = table.shape := by
  match table with
  | [] => rfl
  | [] :: _ => simp [frame, map, shape]
  | (_ :: _) :: _ => simp [frame, map, shape]

theorem countAbsent_frame (table : Table α) : table.frame.countAbsent = table.countAbsent := by
  simp only [countAbsent, frame, map, ← List.map_flatten, List.countP_map]
  congr 1
  funext cell
  cases cell <;> rfl

theorem map_fst_present_frame (table : Table α) :
    table.frame.present.map Prod.fst = table.present.map Prod.fst := by
  rw [frame, present_map, List.map_map]
  rfl

/-- What two tables have in common that differ only in what their present cells hold. -/
structure Alike (table : Table α) (other : Table β) : Prop where
  paths : table.present.map Prod.fst = other.present.map Prod.fst
  lengths : ∀ path, table.lengthAt? path = other.lengthAt? path
  absent : ∀ offset, table.cell? offset = some none ↔ other.cell? offset = some none
  shape : table.shape = other.shape
  countAbsent : table.countAbsent = other.countAbsent

theorem alike_of_frame {other : Table β} (same : table.frame = other.frame) : table.Alike other where
  paths := by rw [← map_fst_present_frame, same, map_fst_present_frame]
  lengths path := by rw [← lengthAt?_frame, same, lengthAt?_frame]
  absent offset := by rw [← cell?_frame_eq_absent_iff, same, cell?_frame_eq_absent_iff]
  shape := by rw [← shape_frame, same, shape_frame]
  countAbsent := by rw [← countAbsent_frame, same, countAbsent_frame]

theorem map_snd_present (table : Table α) :
    table.present.map Prod.snd =
      table.flatMap (List.flatMap (List.flatMap Option.toList)) := by
  simp only [present, map_snd_indexed, List.map_map, Function.comp_def, List.map_id']

theorem visits_mapM (f : α → StateM σ β) :
    Visits f (mapM f) (mapM (noting f)) (fun table => table.present.map Prod.snd)
      (fun table => table.present.map Prod.snd) frame frame := by
  simp only [map_snd_present]
  exact (Visits.cell f).lists.lists.lists

theorem mapM_pure_eq (f : α → β) (table : Table α) :
    table.mapM (fun a => (pure (f a) : StateM σ β)) = pure (table.map f) := by
  have cells : (Option.mapM fun a => (pure (f a) : StateM σ β)) =
      fun cell : Option α => pure (cell.map f) := by
    funext cell
    cases cell <;> rfl
  simp only [mapM, cells, List.mapM_pure]
  rfl

/-- The present cells of a table are visited in the order of their index paths, each of them once and
    no others. The calls are those for their values in this order, and what they give takes their
    places, so that the tables before and after are alike. Mapping without effects is a case of this,
    and to map twice is to map the composition. -/
theorem mapM_in_table_order (table : Table α) :
    table.present.Pairwise (fun p q => p.1 < q.1) ∧
    (∀ path a, (path, a) ∈ table.present ↔
      ∃ offset, offset.toList = path ∧ table.cell? offset = some (some a)) ∧
    (∀ (σ β : Type) (f : α → StateM σ β) (state : σ),
      let (mapped, last) := (table.mapM f).run state
      let values := table.present.map Prod.snd
      (∀ log, (table.mapM (noting f)).run (log, state) = (mapped, log ++ values, last)) ∧
      (values.mapM f).run state = (mapped.present.map Prod.snd, last) ∧
      mapped.Alike table) ∧
    (∀ (σ β : Type) (f : α → β),
      table.mapM (fun a => (pure (f a) : StateM σ β)) = pure (table.map f)) ∧
    ∀ (β γ : Type) (f : α → β) (g : β → γ), (table.map f).map g = table.map (g ∘ f) := by
  refine ⟨table.pairwise_present, fun path a => mem_present_iff, ?_, ?_, ?_⟩
  · intro σ β f state
    have visits := visits_mapM f
    exact ⟨fun log => visits.calls table log state, (visits.results_eq table state).symm,
      alike_of_frame (visits.frame_eq table state)⟩
  · intro σ β f
    exact table.mapM_pure_eq f
  · intro β γ f g
    simp only [map, List.map_map, Function.comp_def, Option.map_map]

/-- Calls that count themselves, on a table whose lists differ in length. -/
example :
    let count (name : String) : StateM Nat (Nat × String) := fun calls =>
      ((calls + 1, name), calls + 1)
    (mapM count [[[some "a", none], []], [], [[none], [some "b", some "a"]]]).run 0 =
      ([[[some (1, "a"), none], []], [], [[none], [some (2, "b"), some (3, "a")]]], 3) := by
  rfl

end Table

end Gridwise
