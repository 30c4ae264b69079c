import Gridwise.Registry

/-!
# What a registry holds

A name is listed by a map or a registry exactly if it is found there, and what it stands for is what
was inserted last under it. Nothing else remains of the insertions, so maps that find the same are
the same. An operator is common to a registry exactly if every mode in it has the operator.
-/

namespace Gridwise

namespace NameMap

universe u v

variable {β : Type u} {map : NameMap β} {name : String} {value : β}

theorem find?_eq_some_iff : map.find? name = some value ↔ (name, value) ∈ map.entries := by
  unfold find?
  constructor
  · intro found
    obtain ⟨before, behind, split, _⟩ := List.lookup_eq_some_iff.mp found
    rw [split]
    simp
  · intro member
    obtain ⟨before, behind, split⟩ := List.append_of_mem member
    have sorted := map.sorted
    rw [split, List.pairwise_append] at sorted
    refine List.lookup_eq_some_iff.mpr ⟨before, behind, split, ?_⟩
    intro entry inBefore
    have below : entry.1 < name := sorted.2.2 entry inBefore (name, value) List.mem_cons_self
    rw [bne_iff_ne]
    rintro rfl
    exact String.lt_irrefl _ below

theorem mem_names_iff : name ∈ map.names.toList ↔ ∃ value, map.find? name = some value := by
  simp [names, find?_eq_some_iff]

/-- Two maps with the same names both find something under a name, or neither does. -/
theorem find?_cases_of_names {γ : Type u} {other : NameMap γ}
    (same : ∀ name, name ∈ other.names.toList ↔ name ∈ map.names.toList) (name : String) :
    (map.find? name = none ∧ other.find? name = none) ∨
      ∃ b c, map.find? name = some b ∧ other.find? name = some c := by
  have both := same name
  rw [mem_names_iff, mem_names_iff] at both
  cases found : map.find? name with
  | none =>
      rw [found] at both
      cases foundOther : other.find? name with
      | none => exact .inl ⟨rfl, rfl⟩
      | some c =>
          obtain ⟨_, impossible⟩ := both.mp ⟨c, foundOther⟩
          cases impossible
  | some b =>
      obtain ⟨c, foundOther⟩ := both.mpr ⟨b, found⟩
      exact .inr ⟨b, c, rfl, foundOther⟩

/-- A map of one entry has no other. -/
theorem eq_of_find?_insert_empty {key : String} {given : β}
    (found : ((empty : NameMap β).insert key given).find? name = some value) :
    name = key ∧ value = given := by
  rw [find?_insert, find?_empty] at found
  by_cases same : name = key
  · rw [if_pos same] at found
    exact ⟨same, (Option.some.inj found).symm⟩
  · rw [if_neg same] at found
    cases found

theorem mem_values_iff : value ∈ map.values ↔ ∃ name, map.find? name = some value := by
  simp [values, find?_eq_some_iff]

/-- Maps in which every name stands for the same are the same. -/
theorem eq_of_find? {other : NameMap β} (same : ∀ name, map.find? name = other.find? name) :
    map = other := by
  have nodup : ∀ entries : NameMap β, entries.entries.Nodup := by
    intro entries
    refine entries.sorted.imp ?_
    rintro first second below rfl
    exact String.lt_irrefl _ below
  have permuted : map.entries.Perm other.entries := by
    rw [List.perm_ext_iff_of_nodup (nodup map) (nodup other)]
    rintro ⟨name, value⟩
    rw [← find?_eq_some_iff, ← find?_eq_some_iff, same]
  have entries : map.entries = other.entries := by
    refine permuted.eq_of_pairwise ?_ map.sorted other.sorted
    intro a b _ _ below above
    exact absurd above (String.lt_asymm below)
  cases map
  cases other
  cases entries
  rfl

/-- What a name stands for after an insertion: the new value if it is one for this name, or else
    what it stood for before. -/
theorem find?_insert_or (map : NameMap β) (name other : String) (value : β) :
    (map.insert name value).find? other =
      (if other = name then some value else none).or (map.find? other) := by
  rw [find?_insert]
  by_cases same : other = name
  · rw [if_pos same, if_pos same, Option.some_or]
  · rw [if_neg same, if_neg same, Option.none_or]

/-- If each step of a sequence may give a name a new meaning and otherwise keeps the old one, then
    after the sequence it has the last meaning that was given, or else the one from before. -/
theorem find?_foldl {S : Type v} {τ : Type v} {step : S → τ → S} {map : S → NameMap β}
    {given : τ → Option β} {name : String}
    (steps : ∀ s t, (map (step s t)).find? name = (given t).or ((map s).find? name))
    (items : List τ) (s : S) :
    (map (items.foldl step s)).find? name =
      (items.filterMap given).getLast?.or ((map s).find? name) := by
  induction items generalizing s with
  | nil => rfl
  | cons item rest ih =>
      rw [List.foldl_cons, ih, steps, ← Option.or_assoc]
      cases gives : given item with
      | none => rw [List.filterMap_cons_none gives, Option.or_none]
      | some value =>
          rw [List.filterMap_cons_some gives, List.getLast?_cons]
          cases (rest.filterMap given).getLast? with
          | none => rfl
          | some last => rfl

theorem find?_ofList {entries : List (String × β)} :
    (ofList entries).find? name =
      (entries.filterMap fun entry => if name = entry.1 then some entry.2 else none).getLast? := by
  have steps : ∀ (map : NameMap β) (entry : String × β),
      (id (map.insert entry.1 entry.2)).find? name =
        (if name = entry.1 then some entry.2 else none).or ((id map).find? name) :=
    fun map entry => find?_insert_or map entry.1 name entry.2
  exact (find?_foldl steps entries empty).trans Option.or_none

theorem mem_names_ofList_iff {entries : List (String × β)} :
    name ∈ (ofList entries).names.toList ↔ ∃ entry ∈ entries, name = entry.1 := by
  rw [mem_names_iff, find?_ofList, ← Option.isSome_iff_exists, List.getLast?_isSome]
  simp

end NameMap

namespace NameSet

theorem nodup_toList (names : NameSet) : names.toList.Nodup := by
  refine names.sorted.imp ?_
  rintro first second below rfl
  exact String.lt_irrefl _ below

/-- Putting names in order neither adds nor loses one. -/
theorem mem_ofList_iff {names : List String} {name : String} :
    name ∈ (ofList names).toList ↔ name ∈ names := by
  rw [ofList, NameMap.mem_names_ofList_iff]
  simp

/-- The order of names is no choice: a set of names is listed in one way only. -/
theorem toList_eq_of_mem_iff {first second : NameSet}
    (same : ∀ name, name ∈ first.toList ↔ name ∈ second.toList) : first.toList = second.toList := by
  have permuted : first.toList.Perm second.toList :=
    (List.perm_ext_iff_of_nodup first.nodup_toList second.nodup_toList).mpr same
  refine permuted.eq_of_pairwise ?_ first.sorted second.sorted
  intro a b _ _ below above
  exact absurd above (String.lt_asymm below)

theorem eq_of_mem_iff {first second : NameSet}
    (same : ∀ name, name ∈ first.toList ↔ name ∈ second.toList) : first = second := by
  have lists := toList_eq_of_mem_iff same
  cases first
  cases second
  cases lists
  rfl

end NameSet

namespace OperatorSet

variable {op : String} {sets : List OperatorSet} {names : OperatorSet → NameSet}

/-- A name that folding an intersection leaves is in all of the sets, in each arity. -/
theorem mem_foldl_inter (shares : ∀ a b, names (inter a b) = (names a).inter (names b))
    {first : OperatorSet} :
    op ∈ (names (sets.foldl inter first)).toList ↔
      op ∈ (names first).toList ∧ ∀ set ∈ sets, op ∈ (names set).toList := by
  induction sets generalizing first with
  | nil => simp
  | cons set sets ih =>
      rw [List.foldl_cons, ih, shares, NameSet.mem_inter, List.forall_mem_cons, and_assoc]

theorem mem_common_iff (shares : ∀ a b, names (inter a b) = (names a).inter (names b))
    (nonempty : sets ≠ []) :
    op ∈ (names (common sets)).toList ↔ ∀ set ∈ sets, op ∈ (names set).toList := by
  obtain ⟨first, rest, rfl⟩ := List.exists_cons_of_ne_nil nonempty
  rw [common, mem_foldl_inter shares, List.forall_mem_cons]

end OperatorSet

namespace Registry

variable {registry : Registry} {entry : RegisteredMode} {name op : String}

/-- Every mode has the unary operator. -/
def SharesUnary (registry : Registry) (op : String) : Prop :=
  ∀ name entry, registry.find? name = some entry →
    ∃ meaning, entry.mode.unary.find? op = some meaning

/-- Every mode has the binary operator. -/
def SharesBinary (registry : Registry) (op : String) : Prop :=
  ∀ name entry, registry.find? name = some entry →
    ∃ meaning, entry.mode.binary.find? op = some meaning

theorem mem_names_iff : name ∈ registry.names ↔ ∃ entry, registry.find? name = some entry :=
  NameMap.mem_names_iff

theorem names_sorted (registry : Registry) : registry.names.Pairwise (· < ·) :=
  registry.modes.names.sorted

theorem mem_operators_of_common {names : OperatorSet → NameSet}
    (shares : ∀ a b, names (a.inter b) = (names a).inter (names b))
    (common : op ∈ (names registry.commonOperators).toList)
    (registered : registry.find? name = some entry) : op ∈ (names entry.operators).toList := by
  have member : entry.operators ∈ registry.modes.values.map RegisteredMode.operators :=
    List.mem_map_of_mem (NameMap.mem_values_iff.mpr ⟨name, registered⟩)
  exact (OperatorSet.mem_common_iff shares (List.ne_nil_of_mem member)).mp common _ member

theorem sharesUnary_of_common (common : op ∈ registry.commonOperators.unary.toList) :
    registry.SharesUnary op := by
  intro name entry registered
  exact NameMap.mem_names_iff.mp (mem_operators_of_common (fun _ _ => rfl) common registered)

theorem sharesBinary_of_common (common : op ∈ registry.commonOperators.binary.toList) :
    registry.SharesBinary op := by
  intro name entry registered
  exact NameMap.mem_names_iff.mp (mem_operators_of_common (fun _ _ => rfl) common registered)

end Registry

end Gridwise
