import Gridwise.Proofs.Checking
import Gridwise.Proofs.Registered

/-!
# The last registration counts

A mode is assembled by registering operators, and a registry by registering modes, in any order and
under any names. What a name stands for in the end is what was registered last under it, among the
operators of its arity. Nothing else of the order remains: modes, or registries, whose last
registrations are the same do everything in the same way.
-/

namespace Gridwise

/-- One operator, as it is registered while a mode is assembled. -/
inductive Registration (α : Type) where
  | unary (name : String) (op : α → α)
  | binary (name : String) (op : α → α → α)
  | checkedUnary (name : String) (op : UnaryOp α)
  | checkedBinary (name : String) (op : BinaryOp α)

variable {α : Type}

namespace Registration

/-- The meaning that a registration gives to a unary operator, if it is one of this operator. -/
def unaryMeaning? (name : String) : Registration α → Option (UnaryOp α)
  | .unary other op => if name = other then some fun a => .ok (op a) else none
  | .checkedUnary other op => if name = other then some op else none
  | .binary .. | .checkedBinary .. => none

/-- The meaning that a registration gives to a binary operator, if it is one of this operator. -/
def binaryMeaning? (name : String) : Registration α → Option (BinaryOp α)
  | .binary other op => if name = other then some fun a b => .ok (op a b) else none
  | .checkedBinary other op => if name = other then some op else none
  | .unary .. | .checkedUnary .. => none

/-- The last meaning that a sequence of registrations gives to a unary operator. -/
def lastUnary? (registrations : List (Registration α)) (name : String) : Option (UnaryOp α) :=
  (registrations.filterMap (unaryMeaning? name)).getLast?

/-- The last meaning that a sequence of registrations gives to a binary operator. -/
def lastBinary? (registrations : List (Registration α)) (name : String) : Option (BinaryOp α) :=
  (registrations.filterMap (binaryMeaning? name)).getLast?

end Registration

namespace Mode

variable {name op : String} {constant : Int32 → α} {registrations others : List (Registration α)}

/-- Registers an operator. -/
def register (mode : Mode α) : Registration α → Mode α
  | .unary name op => mode.withUnary name op
  | .binary name op => mode.withBinary name op
  | .checkedUnary name op => mode.withCheckedUnary name op
  | .checkedBinary name op => mode.withCheckedBinary name op

/-- The mode that registering operators one after the other makes. -/
def assemble (name : String) (constant : Int32 → α) (registrations : List (Registration α)) :
    Mode α :=
  registrations.foldl register (.bare name constant)

theorem find?_unary_register (mode : Mode α) (registration : Registration α) :
    (mode.register registration).unary.find? op =
      (registration.unaryMeaning? op).or (mode.unary.find? op) := by
  cases registration with
  | unary => exact NameMap.find?_insert_or _ _ _ _
  | checkedUnary => exact NameMap.find?_insert_or _ _ _ _
  | binary => rfl
  | checkedBinary => rfl

theorem find?_binary_register (mode : Mode α) (registration : Registration α) :
    (mode.register registration).binary.find? op =
      (registration.binaryMeaning? op).or (mode.binary.find? op) := by
  cases registration with
  | unary => rfl
  | checkedUnary => rfl
  | binary => exact NameMap.find?_insert_or _ _ _ _
  | checkedBinary => exact NameMap.find?_insert_or _ _ _ _

theorem find?_unary_assemble :
    (assemble name constant registrations).unary.find? op =
      Registration.lastUnary? registrations op :=
  (NameMap.find?_foldl find?_unary_register registrations _).trans Option.or_none

theorem find?_binary_assemble :
    (assemble name constant registrations).binary.find? op =
      Registration.lastBinary? registrations op :=
  (NameMap.find?_foldl find?_binary_register registrations _).trans Option.or_none

/-- Registering operators leaves the name of a mode and its constants alone. -/
theorem foldl_register_frame (mode : Mode α) (registrations : List (Registration α)) :
    (registrations.foldl register mode).name = mode.name ∧
      (registrations.foldl register mode).constant = mode.constant := by
  induction registrations generalizing mode with
  | nil => exact ⟨rfl, rfl⟩
  | cons registration rest ih =>
      obtain ⟨sameName, sameConstant⟩ := ih (mode.register registration)
      cases registration <;> exact ⟨sameName, sameConstant⟩

theorem eq_of_find? {first second : Mode α} (sameName : first.name = second.name)
    (sameConstant : first.constant = second.constant)
    (sameUnary : ∀ op, first.unary.find? op = second.unary.find? op)
    (sameBinary : ∀ op, first.binary.find? op = second.binary.find? op) : first = second := by
  have unary := NameMap.eq_of_find? sameUnary
  have binary := NameMap.eq_of_find? sameBinary
  cases first
  cases second
  cases sameName
  cases sameConstant
  cases unary
  cases binary
  rfl

theorem assemble_eq_of_last
    (sameUnary : ∀ op, Registration.lastUnary? registrations op =
      Registration.lastUnary? others op)
    (sameBinary : ∀ op, Registration.lastBinary? registrations op =
      Registration.lastBinary? others op) :
    assemble name constant registrations = assemble name constant others := by
  have frame := foldl_register_frame (.bare name constant) registrations
  have otherFrame := foldl_register_frame (.bare name constant) others
  apply eq_of_find?
  · exact frame.1.trans otherFrame.1.symm
  · exact frame.2.trans otherFrame.2.symm
  · intro op
    rw [find?_unary_assemble, find?_unary_assemble, sameUnary]
  · intro op
    rw [find?_binary_assemble, find?_binary_assemble, sameBinary]

/-- Nothing that can be asked of two modes tells them apart: they have the same name, the same
    constants and the same operators under the same names, which are listed in the same ascending
    order; and every expression fails to build with the same error, or builds to an evaluator with
    the same results and the same tables, however these are computed. -/
structure Indistinguishable (first second : Mode α) : Prop where
  name : first.name = second.name
  constant : ∀ n, first.constant n = second.constant n
  unary : ∀ op, first.unary.find? op = second.unary.find? op
  binary : ∀ op, first.binary.find? op = second.binary.find? op
  unaryNames : first.unaryNames = second.unaryNames ∧ first.unaryNames.Pairwise (· < ·)
  binaryNames : first.binaryNames = second.binaryNames ∧ first.binaryNames.Pairwise (· < ·)
  errors : ∀ e error, Evaluator.build first e = .error error ↔
    Evaluator.build second e = .error error
  evaluators : ∀ e evaluator, Evaluator.build first e = .ok evaluator →
    ∃ other, Evaluator.build second e = .ok other ∧
      (∀ args, evaluator.apply args = other.apply args) ∧
      ∀ (box : Box) (config otherConfig : TabulateConfig),
        evaluator.table first box config = other.table second box otherConfig
  evaluations : ∀ e point, evaluate first e point = evaluate second e point

theorem Indistinguishable.refl (mode : Mode α) : mode.Indistinguishable mode := by
  refine ⟨rfl, fun _ => rfl, fun _ => rfl, fun _ => rfl, ⟨rfl, mode.unary.names.sorted⟩,
    ⟨rfl, mode.binary.names.sorted⟩, fun _ _ => Iff.rfl, ?_, fun _ _ => rfl⟩
  intro e evaluator built
  refine ⟨evaluator, built, fun _ => rfl, ?_⟩
  intro box config otherConfig
  rw [Evaluator.table_eq_tabulate, Evaluator.table_eq_tabulate]

end Mode

namespace Registry

variable {name : String} {entries others : List RegisteredMode}

/-- The last mode of a sequence that has a name. -/
def lastNamed? (entries : List RegisteredMode) (name : String) : Option RegisteredMode :=
  (entries.filter fun entry => entry.name = name).getLast?

theorem find?_register (registry : Registry) (entry : RegisteredMode) :
    (registry.register entry).modes.find? name =
      (Option.guard (fun entry => entry.name = name) entry).or (registry.modes.find? name) := by
  rw [register, NameMap.find?_insert_or]
  simp [Option.guard, eq_comm]

theorem find?_ofList : (ofList entries).find? name = lastNamed? entries name := by
  rw [lastNamed?, ← List.filterMap_eq_filter]
  exact (NameMap.find?_foldl find?_register entries _).trans Option.or_none

theorem exists_lastNamed?_iff :
    (∃ entry, lastNamed? entries name = some entry) ↔ ∃ entry ∈ entries, entry.name = name := by
  rw [← Option.isSome_iff_exists, lastNamed?, List.getLast?_isSome]
  simp

theorem mem_names_ofList_iff :
    name ∈ (ofList entries).names ↔ ∃ entry ∈ entries, entry.name = name := by
  rw [mem_names_iff, find?_ofList, exists_lastNamed?_iff]

theorem names_ofList_eq_of_last
    (same : ∀ name, lastNamed? entries name = lastNamed? others name) :
    (ofList entries).names = (ofList others).names := by
  apply NameSet.toList_eq_of_mem_iff
  intro name
  show name ∈ (ofList entries).names ↔ name ∈ (ofList others).names
  rw [mem_names_iff, mem_names_iff, find?_ofList, find?_ofList, same]

end Registry

/-- A check only looks up the one mode that it is about. -/
theorem check_congr {σ : Type} {registry other : Registry} {name : String}
    (same : registry.find? name = other.find? name) (tabulator : Tabulator σ)
    (config : TabulateConfig) (e : Expr) (box : Box) :
    check tabulator registry config e name box = check tabulator other config e name box := by
  unfold check
  rw [same]

/-- In an assembled mode every operator has the meaning that was registered last under its name and
    arity, and two modes of one name and one embedding of constants that agree in these cannot be
    told apart. In a registry every name finds the mode that was registered last under it; the names
    are those of all registered modes, in order; and a check depends on nothing but the last mode
    of the name that it is about. -/
theorem last_registration_counts :
    (∀ (α : Type) (name : String) (constant : Int32 → α) (registrations : List (Registration α)),
      let mode := Mode.assemble name constant registrations
      (∀ op, mode.unary.find? op = Registration.lastUnary? registrations op) ∧
      (∀ op, mode.binary.find? op = Registration.lastBinary? registrations op) ∧
      ∀ others,
        (∀ op, Registration.lastUnary? registrations op = Registration.lastUnary? others op) →
        (∀ op, Registration.lastBinary? registrations op = Registration.lastBinary? others op) →
        mode.Indistinguishable (.assemble name constant others)) ∧
    ∀ entries : List RegisteredMode,
      let registry := Registry.ofList entries
      (∀ name, registry.find? name = Registry.lastNamed? entries name) ∧
      (∀ name, name ∈ registry.names ↔ ∃ entry ∈ entries, entry.name = name) ∧
      registry.names.Pairwise (· < ·) ∧
      ∀ others,
        ((∀ name, Registry.lastNamed? entries name = Registry.lastNamed? others name) →
          registry.names = (Registry.ofList others).names) ∧
        ∀ name, Registry.lastNamed? entries name = Registry.lastNamed? others name →
          ∀ (σ : Type) (tabulator : Tabulator σ) (config : TabulateConfig) (e : Expr) (box : Box),
            check tabulator registry config e name box =
              check tabulator (.ofList others) config e name box := by
  constructor
  · intro α name constant registrations mode
    refine ⟨fun op => Mode.find?_unary_assemble, fun op => Mode.find?_binary_assemble, ?_⟩
    intro others sameUnary sameBinary
    rw [← Mode.assemble_eq_of_last sameUnary sameBinary]
    exact .refl mode
  · intro entries registry
    refine ⟨fun name => Registry.find?_ofList, fun name => Registry.mem_names_ofList_iff,
      registry.names_sorted, fun others => ⟨Registry.names_ofList_eq_of_last, ?_⟩⟩
    intro name same σ
    apply check_congr
    rw [Registry.find?_ofList, Registry.find?_ofList, same]

/-- A negation that is registered twice, with a difference of the same name in between, and a mode
    that is replaced by a later one. -/
theorem last_registration_counts_replaced :
    let registrations : List (Registration Int32) :=
      [.checkedUnary "-" fun _ => .error .overflow, .binary "-" (· - ·), .unary "-" (- ·)]
    let others : List (Registration Int32) :=
      [.unary "-" (- ·), .checkedBinary "-" fun a b => .ok (a - b)]
    let entries : List RegisteredMode := [.ofInt (.trapping "i"), .ofBig .bigInt, .ofInt .int]
    (Mode.assemble "m" id registrations).Indistinguishable (.assemble "m" id others) ∧
      (Mode.assemble "m" id registrations).unaryNames = ["-"] ∧
      Registry.lastNamed? entries "i" = Registry.lastNamed? [.ofInt .int] "i" ∧
      ∀ (tabulator : Tabulator Unit) (e : Expr) (box : Box),
        check tabulator (.ofList entries) {} e "i" box =
          check tabulator (.ofList [.ofInt .int]) {} e "i" box := by
  intro registrations others entries
  obtain ⟨modes, registries⟩ := last_registration_counts
  have sameUnary : ∀ op,
      Registration.lastUnary? registrations op = Registration.lastUnary? others op := by
    intro op
    by_cases same : op = "-"
    · subst same
      rfl
    · simp [registrations, others, Registration.lastUnary?, Registration.unaryMeaning?, same]
  have sameBinary : ∀ op,
      Registration.lastBinary? registrations op = Registration.lastBinary? others op := by
    intro op
    by_cases same : op = "-"
    · subst same
      rfl
    · simp [registrations, others, Registration.lastBinary?, Registration.binaryMeaning?, same]
  have last : Registry.lastNamed? entries "i" = Registry.lastNamed? [.ofInt .int] "i" := rfl
  obtain ⟨_, _, alike⟩ := modes Int32 "m" id registrations
  obtain ⟨_, _, _, depend⟩ := registries entries
  refine ⟨alike others sameUnary sameBinary, rfl, last, fun tabulator e box => ?_⟩
  exact (depend [.ofInt .int]).2 "i" last Unit tabulator {} e box

end Gridwise
