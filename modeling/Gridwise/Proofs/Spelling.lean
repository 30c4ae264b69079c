import Gridwise.Expr.Reading
import Gridwise.Proofs.Computation

/-!
# Spellings of expressions

A text spells an expression if it is built as the written form is, except that a constant may
have zeros in front and a zero may have a sign. The main statement is that the reader accepts
nothing but spellings of what it gives: at any moment the text behind it is the text of the open
parentheses and then that of the focus.
-/

namespace Gridwise

/-- A numeral that consists of digits, at least one, and has the value of a word. -/
structure Numeral.Denotes (numeral : Numeral) (value : Int32) : Prop where
  nonempty : numeral.digits ≠ []
  areDigits : ∀ c ∈ numeral.digits, c.isDigit
  sameValue : numeral.toInt = value.toInt

theorem Numeral.toWord_eq_ok_iff {numeral : Numeral} {value : Int32} :
    numeral.toWord = .ok value ↔ numeral.digits ≠ [] ∧ numeral.toInt = value.toInt := by
  have fits := Word.toInt_fits value
  unfold Numeral.toWord
  split
  · next empty =>
      simp [List.isEmpty_iff.mp empty]
  · next notEmpty =>
      have nonempty : numeral.digits ≠ [] := fun none => notEmpty (List.isEmpty_iff.mpr none)
      split
      · next tooLarge =>
          refine ⟨nofun, fun ⟨_, same⟩ => ?_⟩
          rw [same] at tooLarge
          exact absurd fits.2 (Int.not_le.mpr tooLarge)
      · next notLarge =>
          split
          · next tooSmall =>
              refine ⟨nofun, fun ⟨_, same⟩ => ?_⟩
              rw [same] at tooSmall
              exact absurd fits.1 (Int.not_le.mpr tooSmall)
          · next notSmall =>
              have inRange : Word.Fits numeral.toInt :=
                ⟨Int.not_lt.mp notSmall, Int.not_lt.mp notLarge⟩
              constructor
              · intro same
                cases same
                exact ⟨nonempty, (Word.toInt_ofInt inRange).symm⟩
              · intro ⟨_, same⟩
                rw [same, Int32.ofInt_toInt]

namespace Expr

open Reader

/-- The text is one of the ways to write the expression. -/
inductive Spells : Expr → List Char → Prop where
  | constant {value : Int32} (numeral : Numeral) :
      numeral.Denotes value → Spells (.constant value) numeral.chars
  | var (letters : List Char) :
      letters ≠ [] → (∀ c ∈ letters, isLetter c) → Spells (.var (String.ofList letters)) letters
  | negation {arg : Expr} {cs : List Char} :
      Spells arg cs → Spells (.unary "-" arg) ('(' :: '-' :: (cs ++ [')']))
  | operation {left right : Expr} {first second : List Char} {op : Char} :
      isOperator op → Spells left first → Spells right second →
      Spells (.binary (String.singleton op) left right) ('(' :: (first ++ op :: (second ++ [')'])))

namespace Reader

/-- The text that has led to a stack of open parentheses, up to where the innermost operand
    begins. -/
inductive StackSpells : List Frame → List Char → Prop where
  | outermost : StackSpells [] []
  | left {outer : List Frame} {cs : List Char} :
      StackSpells outer cs → StackSpells (.left :: outer) (cs ++ ['('])
  | negation {outer : List Frame} {cs : List Char} :
      StackSpells outer cs → StackSpells (.negation :: outer) (cs ++ ['(', '-'])
  | right {outer : List Frame} {cs first : List Char} {e : Expr} {op : Char} :
      StackSpells outer cs → Spells e first → isOperator op →
      StackSpells (.right e op :: outer) (cs ++ '(' :: (first ++ [op]))

/-- The text that has led to a focus. -/
inductive FocusSpells : Focus → List Char → Prop where
  | operand : FocusSpells .operand []
  | opened : FocusSpells .opened ['(']
  | openedMinus : FocusSpells .openedMinus ['(', '-']
  | numeral (numeral : Numeral) :
      (∀ c ∈ numeral.digits, c.isDigit) → FocusSpells (.numeral numeral) numeral.chars
  | openedNumeral (digits : List Char) :
      (∀ c ∈ digits, c.isDigit) →
      FocusSpells (.openedNumeral ⟨true, digits⟩) ('(' :: '-' :: digits.reverse)
  | word (letters : List Char) :
      letters ≠ [] → (∀ c ∈ letters, isLetter c) → FocusSpells (.word letters) letters.reverse
  | complete {e : Expr} {cs : List Char} : Spells e cs → FocusSpells (.complete e) cs

/-- The text that has led to a state. -/
def HasRead (state : State) (text : List Char) : Prop :=
  ∃ outer inner, StackSpells state.stack outer ∧ FocusSpells state.focus inner ∧
    text = outer ++ inner

variable {stack : List Frame} {outer inner text : List Char} {e : Expr} {position : Nat}
  {c : Char} {state next : State} {numeral : Numeral} {value : Int32}

theorem beginOperand_hasRead (opened : StackSpells stack outer)
    (begun : beginOperand stack position c = .ok next) : HasRead next (outer ++ [c]) := by
  unfold beginOperand at begun
  split at begun
  · next parenthesis =>
      cases begun
      exact ⟨outer, ['('], opened, .opened, by rw [parenthesis]⟩
  · split at begun
    · next minus =>
        cases begun
        exact ⟨outer, ['-'], opened, .numeral ⟨true, []⟩ nofun, by rw [minus]⟩
    · split at begun
      · next digit =>
          cases begun
          refine ⟨outer, [c], opened, .numeral ⟨false, [c]⟩ ?_, rfl⟩
          intro d member
          rw [List.mem_singleton.mp member]
          exact digit
      · split at begun
        · next letter =>
            cases begun
            refine ⟨outer, [c], opened, .word [c] (by simp) ?_, rfl⟩
            intro d member
            rw [List.mem_singleton.mp member]
            exact letter
        · cases begun

theorem afterOperand_hasRead (opened : StackSpells stack outer) (spelled : Spells e inner)
    (accepted : afterOperand stack e position c = .ok next) :
    HasRead next (outer ++ inner ++ [c]) := by
  cases opened with
  | outermost => cases accepted
  | left opened =>
      simp only [afterOperand] at accepted
      split at accepted
      · next operator =>
          cases accepted
          exact ⟨_, [], .right opened spelled operator, .operand, by simp⟩
      · cases accepted
  | negation opened =>
      simp only [afterOperand] at accepted
      split at accepted
      · next closing =>
          cases accepted
          exact ⟨_, _, opened, .complete (.negation spelled), by simp [closing]⟩
      · cases accepted
  | right opened spelledLeft operator =>
      simp only [afterOperand] at accepted
      split at accepted
      · next closing =>
          cases accepted
          exact ⟨_, _, opened, .complete (.operation operator spelledLeft spelled),
            by simp [closing]⟩
      · cases accepted

theorem constantOf_eq_ok_iff :
    constantOf numeral = .ok value ↔ numeral.digits ≠ [] ∧ numeral.toInt = value.toInt := by
  rw [← Numeral.toWord_eq_ok_iff]
  unfold constantOf
  cases numeral.toWord <;> simp

theorem spells_of_constantOf (areDigits : ∀ c ∈ numeral.digits, c.isDigit)
    (found : constantOf numeral = .ok value) : Spells (.constant value) numeral.chars := by
  obtain ⟨nonempty, same⟩ := constantOf_eq_ok_iff.mp found
  exact .constant numeral ⟨nonempty, areDigits, same⟩

/-- A lone negative constant between parentheses spells the negation of the positive one. -/
theorem spells_of_negationOf {digits : List Char} (areDigits : ∀ c ∈ digits, c.isDigit)
    (found : constantOf ⟨true, digits⟩ = .ok value) (negated : negationOf value = .ok e) :
    Spells e ('(' :: '-' :: (digits.reverse ++ [')'])) := by
  obtain ⟨nonempty, same⟩ := constantOf_eq_ok_iff.mp found
  unfold negationOf at negated
  split at negated
  · next positive isPositive =>
      cases negated
      have unsigned : (⟨false, digits⟩ : Numeral).toInt = positive.toInt := by
        rw [Word.ofInt?_eq_some_iff.mp isPositive, ← same]
        simp [Numeral.toInt]
      exact .negation (.constant ⟨false, digits⟩ ⟨nonempty, areDigits, unsigned⟩)
  · cases negated

theorem spells_of_word {letters : List Char} (nonempty : letters ≠ [])
    (areLetters : ∀ c ∈ letters, isLetter c) :
    Spells (.var (String.ofList letters.reverse)) letters.reverse :=
  .var _ (by simpa using nonempty) (by simpa using areLetters)

theorem chars_push (numeral : Numeral) (digit : Char) :
    (numeral.push digit).chars = numeral.chars ++ [digit] := by
  unfold Numeral.chars Numeral.push
  split <;> simp

/-- One character more has been read after a step. -/
theorem step_hasRead (read : HasRead state text) (stepped : step state position c = .ok next) :
    HasRead next (text ++ [c]) := by
  obtain ⟨stack, focus⟩ := state
  obtain ⟨outer, inner, opened, focused, rfl⟩ := read
  cases focused with
  | operand =>
      rw [List.append_nil]
      exact beginOperand_hasRead opened stepped
  | opened =>
      simp only [step] at stepped
      split at stepped
      · next minus =>
          cases stepped
          exact ⟨outer, _, opened, .openedMinus, by simp [minus]⟩
      · exact beginOperand_hasRead (.left opened) stepped
  | openedMinus =>
      simp only [step] at stepped
      split at stepped
      · next digit =>
          cases stepped
          exact ⟨outer, _, opened, .openedNumeral [c] (by simpa using digit), by simp⟩
      · exact beginOperand_hasRead (.negation opened) stepped
  | numeral numeral areDigits =>
      simp only [step] at stepped
      split at stepped
      · next digit =>
          cases stepped
          refine ⟨outer, _, opened, .numeral (numeral.push c) ?_, ?_⟩
          · simpa [Numeral.push] using ⟨digit, areDigits⟩
          · rw [chars_push, List.append_assoc]
      · obtain ⟨value, found, accepted⟩ := bind_eq_ok_iff.mp stepped
        exact afterOperand_hasRead opened (spells_of_constantOf areDigits found) accepted
  | openedNumeral digits areDigits =>
      simp only [step] at stepped
      split at stepped
      · next digit =>
          cases stepped
          refine ⟨outer, _, opened, .openedNumeral (c :: digits) ?_, by simp⟩
          simpa using ⟨digit, areDigits⟩
      · obtain ⟨value, found, accepted⟩ := bind_eq_ok_iff.mp stepped
        split at accepted
        · next closing =>
            obtain ⟨e, negated, done⟩ := bind_eq_ok_iff.mp accepted
            cases done
            refine ⟨outer, _, opened, .complete (spells_of_negationOf areDigits found negated), ?_⟩
            simp [closing]
        · -- The parenthesis does not end here, so the constant is its left operand.
          have spelled : Spells (.constant value) ('-' :: digits.reverse) :=
            spells_of_constantOf areDigits found
          simpa using afterOperand_hasRead (.left opened) spelled accepted
  | word letters nonempty areLetters =>
      simp only [step] at stepped
      split at stepped
      · next letter =>
          cases stepped
          refine ⟨outer, _, opened, .word (c :: letters) (by simp) ?_, by simp⟩
          simpa using ⟨letter, areLetters⟩
      · exact afterOperand_hasRead opened (spells_of_word nonempty areLetters) stepped
  | complete spelled => exact afterOperand_hasRead opened spelled stepped

theorem spells_of_finishOperand (opened : StackSpells stack outer) (spelled : Spells e inner)
    {whole : Expr} (finished : finishOperand stack e position = .ok whole) :
    Spells whole (outer ++ inner) := by
  cases opened with
  | outermost =>
      cases finished
      exact spelled
  | left | negation | right => cases finished

theorem spells_of_finish (read : HasRead state text) (finished : finish state position = .ok e) :
    Spells e text := by
  obtain ⟨stack, focus⟩ := state
  obtain ⟨outer, inner, opened, focused, rfl⟩ := read
  cases focused with
  | operand | opened | openedMinus => cases finished
  | numeral numeral areDigits =>
      obtain ⟨value, found, finished⟩ := bind_eq_ok_iff.mp finished
      exact spells_of_finishOperand opened (spells_of_constantOf areDigits found) finished
  | openedNumeral digits areDigits =>
      obtain ⟨value, found, finished⟩ := bind_eq_ok_iff.mp finished
      cases finished
  | word letters nonempty areLetters =>
      exact spells_of_finishOperand opened (spells_of_word nonempty areLetters) finished
  | complete spelled => exact spells_of_finishOperand opened spelled finished

theorem spells_of_run {rest : List Char} (read : HasRead state text)
    (accepted : run state position rest = .ok e) : Spells e (text ++ rest) := by
  induction rest generalizing state text position with
  | nil =>
      rw [List.append_nil]
      exact spells_of_finish read accepted
  | cons c rest ih =>
      obtain ⟨next, stepped, accepted⟩ := bind_eq_ok_iff.mp accepted
      simpa using ih (step_hasRead read stepped) accepted

end Reader

end Expr

end Gridwise
