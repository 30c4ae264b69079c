import Gridwise.Expr.Rendering
import Gridwise.Proofs.Spelling.Acceptance
import Mathlib.Data.Set.Operations

/-!
# Reading undoes writing

The written form of an expression is read back as that expression exactly if its names are words
of small letters and its operators are those of arithmetic. For then the written form is one of
its spellings, and nothing else has spellings at all.
-/

namespace Gridwise

namespace Expr

/-- A name of one or more small letters. -/
def IsWord (name : String) : Prop := name ≠ "" ∧ ∀ c ∈ name.toList, 'a' ≤ c ∧ c ≤ 'z'

/-- An expression whose names and operators the written form can carry. -/
def Writable (e : Expr) : Prop := e.Uses IsWord (· = "-") (· ∈ ["+", "-", "*", "/"])

open Reader

theorem isLetter_iff {c : Char} : isLetter c ↔ 'a' ≤ c ∧ c ≤ 'z' := by
  simp [isLetter]

theorem writable_of_spells {e : Expr} {cs : List Char} (spelled : Spells e cs) : e.Writable := by
  induction spelled with
  | constant => trivial
  | var letters nonempty areLetters =>
      constructor
      · intro empty
        exact nonempty (by simpa using congrArg String.toList empty)
      · intro c member
        rw [String.toList_ofList] at member
        exact isLetter_iff.mp (areLetters c member)
  | negation _ writable => exact ⟨rfl, writable⟩
  | operation operator _ _ writableLeft writableRight =>
      refine ⟨?_, writableLeft, writableRight⟩
      rcases isOperator_iff.mp operator with rfl | rfl | rfl | rfl <;> decide

theorem digits_denote (negative : Bool) {n : Nat} {value : Int32}
    (same : (if negative then -(n : Int) else n) = value.toInt) :
    Numeral.Denotes ⟨negative, (Decimal.digits n).reverse⟩ value := by
  refine ⟨?_, ?_, ?_⟩
  · simp [Decimal.digits_eq_toDigits, Nat.toDigits_ne_nil]
  · intro c member
    rw [List.mem_reverse, Decimal.digits_eq_toDigits] at member
    exact Nat.isDigit_of_mem_toDigits (by decide) (by decide) member
  · simp [Numeral.toInt, Decimal.digits_eq_toDigits, same]

theorem spells_constant (value : Int32) :
    Spells (.constant value) (Decimal.chars value.toInt) := by
  cases sign : value.toInt with
  | ofNat n =>
      have same : (if false then -(n : Int) else n) = value.toInt := sign.symm
      simpa [Decimal.chars, Numeral.chars] using Spells.constant _ (digits_denote false same)
  | negSucc n =>
      have same : (if true then -((n + 1 : Nat) : Int) else (n + 1 : Nat)) = value.toInt :=
        sign.symm
      simpa [Decimal.chars, Numeral.chars] using Spells.constant _ (digits_denote true same)

theorem spells_chars {e : Expr} (writable : e.Writable) : Spells e e.chars := by
  induction e with
  | constant value =>
      rw [chars_constant]
      exact spells_constant value
  | var name =>
      obtain ⟨nonempty, areLetters⟩ := writable
      rw [chars_var]
      have spelled := Spells.var name.toList (by simpa using nonempty)
        fun c member => isLetter_iff.mpr (areLetters c member)
      rwa [String.ofList_toList] at spelled
  | unary op arg ih =>
      obtain ⟨rfl, writable⟩ := writable
      rw [chars_unary]
      exact .negation (ih writable)
  | binary op left right ihLeft ihRight =>
      obtain ⟨known, writableLeft, writableRight⟩ := writable
      obtain ⟨c, operator, rfl⟩ : ∃ c, isOperator c ∧ String.singleton c = op := by
        have known : op = "+" ∨ op = "-" ∨ op = "*" ∨ op = "/" := by simpa using known
        rcases known with rfl | rfl | rfl | rfl
        · exact ⟨'+', rfl, rfl⟩
        · exact ⟨'-', rfl, rfl⟩
        · exact ⟨'*', rfl, rfl⟩
        · exact ⟨'/', rfl, rfl⟩
      rw [chars_binary]
      simpa using Spells.operation operator (ihLeft writableLeft) (ihRight writableRight)

theorem read_render_of_writable {e : Expr} (writable : e.Writable) : read e.render = .ok e := by
  rw [read_eq_ok_iff, toList_render]
  exact spells_chars writable

/-- Exactly the writable expressions are read back from their written form, and so no two of
    them are written alike. -/
theorem read_render_iff_writable :
    (∀ e : Expr, read e.render = .ok e ↔ e.Writable) ∧ Set.InjOn render {e | e.Writable} := by
  constructor
  · intro e
    exact ⟨fun accepted => writable_of_spells (read_eq_ok_iff.mp accepted), read_render_of_writable⟩
  · intro e writable other otherWritable same
    have reads := read_render_of_writable writable
    rw [same, read_render_of_writable otherWritable] at reads
    exact (Except.ok.inj reads).symm

end Expr

end Gridwise
