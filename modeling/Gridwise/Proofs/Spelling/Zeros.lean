import Gridwise.Proofs.DecimalText
import Gridwise.Proofs.RoundTrip

/-!
# How spellings differ

An expression has many spellings and one written form. A spelling has the written form's characters
in the written form's order, up to zeros in front of a row of digits and a sign in front of a zero.
So whatever the reader accepts, it reads the written form of the result as the same expression.
-/

namespace Gridwise

namespace Expr

open Reader

/-- The first text is the second one with zeros put in front of some rows of digits and a minus sign
    in front of some zeros. -/
inductive UpToZeros : List Char → List Char → Prop where
  | nil : UpToZeros [] []
  | symbol {c : Char} {cs ds : List Char} :
      c.isDigit = false → UpToZeros cs ds → UpToZeros (c :: cs) (c :: ds)
  | digits {row cs ds : List Char} (zeros : Nat) :
      row ≠ [] → (∀ c ∈ row, c.isDigit) → (∀ c ∈ cs.head?, c.isDigit = false) →
      UpToZeros cs ds → UpToZeros (List.replicate zeros '0' ++ row ++ cs) (row ++ ds)
  | signedZero {cs ds : List Char} (zeros : Nat) :
      (∀ c ∈ cs.head?, c.isDigit = false) →
      UpToZeros cs ds → UpToZeros ('-' :: (List.replicate zeros '0' ++ '0' :: cs)) ('0' :: ds)

namespace UpToZeros

variable {cs ds : List Char} {c : Char}

theorem symbols (row : List Char) (notDigits : ∀ c ∈ row, c.isDigit = false)
    (same : UpToZeros cs ds) : UpToZeros (row ++ cs) (row ++ ds) := by
  induction row with
  | nil => exact same
  | cons c row ih =>
      exact .symbol (notDigits c List.mem_cons_self)
        (ih fun d member => notDigits d (List.mem_cons_of_mem c member))

theorem magnitude {digits : List Char} (nonempty : digits ≠ [])
    (areDigits : ∀ c ∈ digits, c.isDigit) (ends : ∀ c ∈ cs.head?, c.isDigit = false)
    (same : UpToZeros cs ds) :
    UpToZeros (digits.reverse ++ cs)
      (Decimal.digits (Nat.ofDigitChars 10 digits.reverse 0) ++ ds) := by
  obtain ⟨zeros, split⟩ := exists_zeros_append_toDigits nonempty areDigits
  have shown : ∀ c ∈ Nat.toDigits 10 (Nat.ofDigitChars 10 digits.reverse 0), c.isDigit :=
    fun c => Nat.isDigit_of_mem_toDigits (by decide) (by decide)
  have padded := UpToZeros.digits zeros Nat.toDigits_ne_nil shown ends same
  rw [← split] at padded
  rwa [Decimal.digits_eq_toDigits]

theorem constant {numeral : Numeral} {value : Int32} (denotes : numeral.Denotes value)
    (ends : ∀ c ∈ cs.head?, c.isDigit = false) (same : UpToZeros cs ds) :
    UpToZeros (numeral.chars ++ cs) (Decimal.chars value.toInt ++ ds) := by
  obtain ⟨negative, digits⟩ := numeral
  have padded := magnitude denotes.nonempty denotes.areDigits ends same
  rw [← denotes.sameValue]
  cases negative with
  | false => exact padded
  | true =>
      obtain ⟨zeros, split⟩ := exists_zeros_append_toDigits denotes.nonempty denotes.areDigits
      show UpToZeros ('-' :: (digits.reverse ++ cs))
        (Decimal.chars (-(Nat.ofDigitChars 10 digits.reverse 0 : Nat)) ++ ds)
      cases value : Nat.ofDigitChars 10 digits.reverse 0 with
      | zero =>
          rw [value, Nat.toDigits_zero] at split
          rw [split, List.append_assoc]
          exact .signedZero zeros ends same
      | succ n =>
          rw [value] at padded
          exact .symbol (by decide) padded

end UpToZeros

theorem isDigit_of_head?_of_endsOperand {rest : List Char} (ends : EndsOperand rest) :
    ∀ c ∈ rest.head?, c.isDigit = false := by
  intro c first
  obtain ⟨tail, rfl⟩ := List.head?_eq_some_iff.mp first
  exact (ends c tail rfl).1

/-- A spelling is the written form up to zeros, in front of everything that ends an operand. -/
theorem upToZeros_of_spells {e : Expr} {cs rest rest' : List Char} (spelled : Spells e cs)
    (ends : EndsOperand rest) (same : UpToZeros rest rest') :
    UpToZeros (cs ++ rest) (e.charsOnto rest') := by
  induction spelled generalizing rest rest' with
  | constant numeral denotes =>
      exact .constant denotes (isDigit_of_head?_of_endsOperand ends) same
  | var letters _ areLetters =>
      rw [charsOnto, String.toList_ofList]
      exact same.symbols letters fun c member => isDigit_of_isLetter (areLetters c member)
  | @negation arg cs _ ih =>
      have operand := ih (endsOperand_closing rest) (.symbol (by decide) same)
      have opened := UpToZeros.symbol (c := '(') rfl (.symbol (c := '-') rfl operand)
      simpa [charsOnto] using opened
  | @operation left right first second op operator _ _ ihLeft ihRight =>
      have right := ihRight (endsOperand_closing rest) (.symbol (by decide) same)
      have notDigit : op.isDigit = false :=
        (endsOperand_of_isOperator operator rest op rest rfl).1
      have left := ihLeft (endsOperand_of_isOperator operator _) (.symbol notDigit right)
      have opened := UpToZeros.symbol (c := '(') rfl left
      simpa [charsOnto] using opened

/-- The texts that are read as an expression are its spellings. Each is the written form of the
    expression up to zeros, and the written form is read as the same expression. -/
theorem read_spellings (text : String) (e : Expr) :
    (read text = .ok e ↔ Spells e text.toList) ∧
    (read text = .ok e → UpToZeros text.toList e.render.toList ∧ read e.render = .ok e) := by
  refine ⟨read_eq_ok_iff, ?_⟩
  intro accepted
  have spelled := read_eq_ok_iff.mp accepted
  constructor
  · have same : UpToZeros (text.toList ++ []) (e.charsOnto []) :=
      upToZeros_of_spells spelled nofun .nil
    rwa [List.append_nil, ← chars, ← toList_render] at same
  · exact read_render_of_writable (writable_of_spells spelled)

example : read "(-00-007)" = .ok (.binary "-" (.constant 0) (.constant 7)) := by rfl

end Expr

end Gridwise
