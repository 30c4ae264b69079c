/-!
# Decimal digits of large numbers

Taking off one digit at a time reads the whole number once for every digit. Here a number
is split in halves instead: divided by a power of ten about as long as its square root, it
leaves a quotient and a remainder of half its length, which are written one behind the
other. The main statement is that this gives the usual digits.
-/

namespace Gridwise

namespace Decimal

/-- Puts powers of ten in front of smaller ones, the given one and as many more, each the
    square of the one before. -/
def squares : (count power : Nat) → List Nat → List Nat
  | 0, power, below => power :: below
  | count + 1, power, below => squares count (power * power) (power :: below)

/-- Writes a number in front of other digits, half of it on either side of each power; zeros
    fill it up to the length that the powers give. -/
def padded : (powers : List Nat) → Nat → List Char → List Char
  | [], n, rest => n.digitChar :: rest
  | power :: powers, n, rest => padded powers (n / power) (padded powers (n % power) rest)

/-- The numbers below it are written one digit at a time. -/
def shortLimit : Nat := 1000000000000000000

/-- The digits of a natural number, most significant first. -/
def digits (n : Nat) : List Char :=
  if n < shortLimit then Nat.toDigits 10 n
  else (padded (squares n.log2.log2 10 []) n []).dropWhile (· == '0')

/-! ## The digits are the usual ones -/

/-- A power of ten. -/
def tens : Nat → Nat
  | 0 => 1
  | width + 1 => 10 * tens width

/-- The last digits of a number, as many as the width says. -/
def lastDigits : (width : Nat) → Nat → List Char
  | 0, _ => []
  | width + 1, n => lastDigits width (n / 10) ++ [(n % 10).digitChar]

/-- The number of digits that a list of powers gives. -/
def width : List Nat → Nat
  | [] => 1
  | _ :: powers => width powers + width powers

/-- Every power of the list stands in the middle of the digits that the list gives. -/
def Halving : List Nat → Prop
  | [] => True
  | power :: powers => power = tens (width powers) ∧ Halving powers

theorem tens_pos (width : Nat) : 0 < tens width := by
  induction width with
  | zero => exact Nat.one_pos
  | succ width ih => exact Nat.mul_pos (by decide) ih

theorem tens_add (first second : Nat) : tens (first + second) = tens first * tens second := by
  induction second with
  | zero => simp [tens]
  | succ second ih => rw [← Nat.add_assoc, tens, ih, tens, Nat.mul_left_comm]

theorem lastDigits_add (upper lower n : Nat) :
    lastDigits (upper + lower) n =
      lastDigits upper (n / tens lower) ++ lastDigits lower (n % tens lower) := by
  induction lower generalizing n with
  | zero => simp [lastDigits, tens]
  | succ lower ih =>
      rw [← Nat.add_assoc]
      simp only [lastDigits, tens, ih, Nat.div_div_eq_div_mul, Nat.mod_mul_right_div_self,
        Nat.mod_mul_right_mod, List.append_assoc]

theorem padded_eq_lastDigits {powers : List Nat} (halving : Halving powers) {n : Nat}
    (below : n < tens (width powers)) (rest : List Char) :
    padded powers n rest = lastDigits (width powers) n ++ rest := by
  induction powers generalizing n rest with
  | nil => simp [padded, width, lastDigits, Nat.mod_eq_of_lt (show n < 10 from below)]
  | cons power powers ih =>
      obtain ⟨rfl, halving⟩ := halving
      rw [width, tens_add] at below
      rw [padded, ih halving (Nat.mod_lt _ (tens_pos _)), ih halving (Nat.div_lt_of_lt_mul below),
        width, lastDigits_add, List.append_assoc]

theorem dropWhile_lastDigits_zero (width : Nat) :
    (lastDigits width 0).dropWhile (· == '0') = [] := by
  induction width with
  | zero => rfl
  | succ width ih => simp [lastDigits, List.dropWhile_append, ih]

theorem digitChar_ne_zero : ∀ digit : Fin 10, 0 < digit.val → digit.val.digitChar ≠ '0' := by
  decide

theorem dropWhile_lastDigits {width n : Nat} (positive : 0 < n) (below : n < tens width) :
    (lastDigits width n).dropWhile (· == '0') = Nat.toDigits 10 n := by
  induction width generalizing n with
  | zero => exact absurd positive (Nat.not_lt.mpr (Nat.le_of_lt_succ below))
  | succ width ih =>
      rw [lastDigits, List.dropWhile_append]
      by_cases short : n < 10
      · rw [Nat.div_eq_of_lt short, dropWhile_lastDigits_zero, Nat.mod_eq_of_lt short,
          Nat.toDigits_of_lt_base short]
        simp [digitChar_ne_zero ⟨n, short⟩ positive]
      · rw [ih (by omega) (Nat.div_lt_of_lt_mul below),
          Nat.toDigits_of_base_le (n := n) (by decide) (by omega)]
        simp

theorem squares_halving {count power : Nat} {below : List Nat}
    (halving : Halving (power :: below)) : Halving (squares count power below) := by
  induction count generalizing power below with
  | zero => exact halving
  | succ count ih =>
      obtain ⟨rfl, rest⟩ := halving
      exact ih ⟨(tens_add _ _).symm, rfl, rest⟩

theorem width_squares (count power : Nat) (below : List Nat) :
    width (squares count power below) = width (power :: below) <<< count := by
  induction count generalizing power below with
  | zero => rfl
  | succ count ih =>
      rw [squares, ih, width, Nat.shiftLeft_succ_inside, Nat.two_mul]

theorem lt_tens_of_log2_lt {n width : Nat} (long : n.log2 < width) : n < tens width := by
  have twos : ∀ width, 1 <<< width ≤ tens width := by
    intro width
    induction width with
    | zero => exact Nat.le_refl 1
    | succ width ih =>
        rw [Nat.shiftLeft_succ, tens]
        omega
  refine Nat.lt_of_lt_of_le ?_ (twos width)
  rw [Nat.one_shiftLeft]
  exact Nat.lt_of_lt_of_le Nat.lt_log2_self (Nat.pow_le_pow_right (by decide) long)

theorem digits_eq_toDigits (n : Nat) : digits n = Nat.toDigits 10 n := by
  unfold digits
  split
  · rfl
  · next large =>
      have positive : 0 < n := Nat.lt_of_lt_of_le (by decide) (Nat.not_lt.mp large)
      have below : n < tens (width (squares n.log2.log2 10 [])) := by
        apply lt_tens_of_log2_lt
        rw [width_squares]
        have doubled := Nat.lt_log2_self (n := n.log2)
        rw [← Nat.one_shiftLeft, Nat.shiftLeft_succ_inside] at doubled
        exact doubled
      have halving : Halving [10] := ⟨rfl, trivial⟩
      rw [padded_eq_lastDigits (squares_halving halving) below, List.append_nil,
        dropWhile_lastDigits positive below]

end Decimal

end Gridwise
