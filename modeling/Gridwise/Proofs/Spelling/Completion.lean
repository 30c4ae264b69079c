import Gridwise.Proofs.Spelling

/-!
# Beginnings of spellings

Whatever has been read without an error is the beginning of a spelling: the operand that is due
can be a zero, and every open parenthesis can be closed behind it. The exception is a numeral
that has no value, of which the reader learns only when the numeral ends.
-/

namespace Gridwise

namespace Expr

open Reader

theorem spells_zero : Spells (.constant 0) ['0'] := by
  refine .constant ⟨false, ['0']⟩ ⟨List.cons_ne_nil _ _, ?_, rfl⟩
  intro c member
  rw [List.mem_singleton.mp member]
  rfl

/-- Any operand with a zero added to it is an operation. -/
theorem spells_addZero {e : Expr} {cs : List Char} (spelled : Spells e cs) :
    Spells (.binary "+" e (.constant 0)) ('(' :: (cs ++ ['+', '0', ')'])) := by
  have operator : isOperator '+' := rfl
  exact .operation operator spelled spells_zero

namespace Reader

variable {stack : List Frame} {outer inner text : List Char} {e : Expr} {state : State}
  {focus : Focus}

/-- The numeral that is being read, if one is, denotes a word as it stands. -/
def Focus.Sound : Focus → Prop
  | .numeral digits | .openedNumeral digits => ∃ value, constantOf digits = .ok value
  | .operand | .opened | .openedMinus | .word _ | .complete _ => True

/-- All open parentheses can be closed behind an operand. -/
theorem exists_spells_of_stack (opened : StackSpells stack outer) (spelled : Spells e inner) :
    ∃ rest whole, Spells whole (outer ++ inner ++ rest) := by
  induction opened generalizing e inner with
  | outermost => exact ⟨[], e, by simpa using spelled⟩
  | left _ ih =>
      obtain ⟨rest, whole, closed⟩ := ih (spells_addZero spelled)
      exact ⟨['+', '0', ')'] ++ rest, whole, by simpa using closed⟩
  | negation _ ih =>
      obtain ⟨rest, whole, closed⟩ := ih (.negation spelled)
      exact ⟨')' :: rest, whole, by simpa using closed⟩
  | right _ spelledLeft operator ih =>
      obtain ⟨rest, whole, closed⟩ := ih (.operation operator spelledLeft spelled)
      exact ⟨')' :: rest, whole, by simpa using closed⟩

/-- What stands at the place being read can be completed to an operand. -/
theorem exists_spells_of_focus (focused : FocusSpells focus inner) (sound : focus.Sound) :
    ∃ rest e, Spells e (inner ++ rest) := by
  cases focused with
  | operand => exact ⟨['0'], _, spells_zero⟩
  | opened => exact ⟨['0', '+', '0', ')'], _, spells_addZero spells_zero⟩
  | openedMinus => exact ⟨['0', ')'], _, .negation spells_zero⟩
  | numeral numeral areDigits =>
      obtain ⟨value, found⟩ := sound
      exact ⟨[], _, by simpa using spells_of_constantOf areDigits found⟩
  | openedNumeral digits areDigits =>
      -- Closing the parenthesis here would negate the constant, which need not have a negative.
      obtain ⟨value, found⟩ := sound
      have spelled : Spells (.constant value) ('-' :: digits.reverse) :=
        spells_of_constantOf areDigits found
      exact ⟨['+', '0', ')'], _, spells_addZero spelled⟩
  | word letters nonempty areLetters =>
      exact ⟨[], _, by simpa using spells_of_word nonempty areLetters⟩
  | complete spelled => exact ⟨[], _, by simpa using spelled⟩

theorem exists_spells_of_hasRead (read : HasRead state text) (sound : state.focus.Sound) :
    ∃ rest e, Spells e (text ++ rest) := by
  obtain ⟨outer, inner, opened, focused, rfl⟩ := read
  obtain ⟨front, operand, spelled⟩ := exists_spells_of_focus focused sound
  obtain ⟨back, whole, closed⟩ := exists_spells_of_stack opened spelled
  exact ⟨front ++ back, whole, by simpa using closed⟩

end Reader

end Expr

end Gridwise
