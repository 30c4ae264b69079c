/-!
# Finite maps and sets of names

Operators and modes are looked up by name and always listed in ascending order of code
points. Both containers are strictly ascending lists, so two maps that answer every
look-up alike are equal and no order of insertion can be seen in them. Inserting a name
that is present replaces what it stood for.
-/

namespace Gridwise

universe u

/-- A strictly ascending list of names. -/
structure NameSet where
  toList : List String
  sorted : toList.Pairwise (· < ·)

/-- A list of named entries whose names strictly ascend. -/
structure NameMap (β : Type u) where
  entries : List (String × β)
  sorted : entries.Pairwise fun a b => a.1 < b.1

namespace NameMap

variable {β : Type u}

/-- The map without entries. -/
def empty : NameMap β := ⟨[], .nil⟩

/-- Puts an entry at its place in an ascending list. -/
def insertEntry (name : String) (value : β) : List (String × β) → List (String × β)
  | [] => [(name, value)]
  | entry :: rest =>
      if name < entry.1 then (name, value) :: entry :: rest
      else if name = entry.1 then (name, value) :: rest
      else entry :: insertEntry name value rest

theorem mem_insertEntry {name : String} {value : β} {entries : List (String × β)}
    {entry : String × β} (member : entry ∈ insertEntry name value entries) :
    entry = (name, value) ∨ entry ∈ entries := by
  induction entries with
  | nil => simpa [insertEntry] using member
  | cons head rest ih =>
      unfold insertEntry at member
      split at member
      · simpa using member
      · split at member
        · rcases List.mem_cons.mp member with rfl | inRest
          · exact .inl rfl
          · exact .inr (List.mem_cons_of_mem _ inRest)
        · rcases List.mem_cons.mp member with rfl | inRest
          · exact .inr List.mem_cons_self
          · exact (ih inRest).imp id (List.mem_cons_of_mem _)

theorem insertEntry_sorted (name : String) (value : β) {entries : List (String × β)}
    (sorted : entries.Pairwise fun a b => a.1 < b.1) :
    (insertEntry name value entries).Pairwise fun a b => a.1 < b.1 := by
  induction entries with
  | nil => simp [insertEntry]
  | cons head rest ih =>
      obtain ⟨headBelow, restSorted⟩ := List.pairwise_cons.mp sorted
      unfold insertEntry
      split
      · next before =>
          refine List.pairwise_cons.mpr ⟨?_, sorted⟩
          intro entry member
          rcases List.mem_cons.mp member with rfl | inRest
          · exact before
          · exact String.lt_trans before (headBelow entry inRest)
      · next notBefore =>
          split
          · next same =>
              exact List.pairwise_cons.mpr
                ⟨fun entry member => same ▸ headBelow entry member, restSorted⟩
          · next different =>
              refine List.pairwise_cons.mpr ⟨?_, ih restSorted⟩
              intro entry member
              rcases mem_insertEntry member with rfl | inRest
              · exact String.not_le.mp fun le =>
                  different (String.le_antisymm le (String.not_lt.mp notBefore))
              · exact headBelow entry inRest

/-- The map with one more entry, or with another value for a name it holds. -/
def insert (map : NameMap β) (name : String) (value : β) : NameMap β :=
  ⟨insertEntry name value map.entries, insertEntry_sorted name value map.sorted⟩

/-- Inserts entries one after the other, so the last one of a name counts. -/
def ofList (entries : List (String × β)) : NameMap β :=
  entries.foldl (fun map entry => map.insert entry.1 entry.2) empty

/-- What a name stands for. -/
def find? (map : NameMap β) (name : String) : Option β := map.entries.lookup name

/-- The names of the entries. -/
def names (map : NameMap β) : NameSet :=
  ⟨map.entries.map Prod.fst, List.pairwise_map.mpr map.sorted⟩

/-- The values in the order of their names. -/
def values (map : NameMap β) : List β := map.entries.map Prod.snd

/-- The number of entries. -/
def size (map : NameMap β) : Nat := map.entries.length

theorem find?_empty (name : String) : (empty : NameMap β).find? name = none := rfl

theorem lookup_cons (name other : String) (value : β) (entries : List (String × β)) :
    ((name, value) :: entries).lookup other =
      if other = name then some value else entries.lookup other := by
  by_cases same : other = name
  · simp [same]
  · rw [List.lookup_cons, beq_false_of_ne same, if_neg same]

theorem lookup_insertEntry (name other : String) (value : β) (entries : List (String × β)) :
    (insertEntry name value entries).lookup other =
      if other = name then some value else entries.lookup other := by
  induction entries with
  | nil => simp [insertEntry, lookup_cons]
  | cons head rest ih =>
      obtain ⟨key, old⟩ := head
      unfold insertEntry
      split
      · simp only [lookup_cons]
      · split
        · next equal =>
            subst equal
            simp only [lookup_cons]
            split <;> rfl
        · next different =>
            simp only [lookup_cons, ih]
            by_cases same : other = name
            · subst same
              simp_all
            · simp [same]

theorem find?_insert (map : NameMap β) (name other : String) (value : β) :
    (map.insert name value).find? other = if other = name then some value else map.find? other :=
  lookup_insertEntry name other value map.entries

end NameMap

namespace NameSet

/-- The set without names. -/
def empty : NameSet := ⟨[], .nil⟩

/-- The names of a list, in order and once each. -/
def ofList (names : List String) : NameSet :=
  (NameMap.ofList (names.map fun name => (name, ()))).names

/-- The names that two sets share. -/
def inter (first second : NameSet) : NameSet :=
  ⟨first.toList.filter (· ∈ second.toList), first.sorted.filter _⟩

/-- The number of names. -/
def size (names : NameSet) : Nat := names.toList.length

theorem mem_inter {first second : NameSet} {name : String} :
    name ∈ (first.inter second).toList ↔ name ∈ first.toList ∧ name ∈ second.toList := by
  simp [inter]

end NameSet

instance : DecidableEq NameSet := fun first second =>
  decidable_of_iff (first.toList = second.toList)
    ⟨fun same => by cases first; cases second; simp_all, fun same => same ▸ rfl⟩

end Gridwise
