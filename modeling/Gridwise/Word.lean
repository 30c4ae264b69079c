/-!
# Machine words among the integers

Coordinates, constants and one of the two standard number types are signed 32-bit
words. This module fixes how they sit inside the integers: the limits, the partial
inverse that refuses what does not fit, and addition cut off at the largest word.
-/

namespace Gridwise

namespace Word

/-- The smallest 32-bit word, as an integer. -/
def least : Int := -2147483648

/-- The largest 32-bit word, as an integer. -/
def greatest : Int := 2147483647

/-- An integer lies between the two limits. -/
def Fits (n : Int) : Prop := least ≤ n ∧ n ≤ greatest

instance (n : Int) : Decidable (Fits n) := by unfold Fits; infer_instance

/-- The 32-bit word with a given value, if there is one. -/
def ofInt? (n : Int) : Option Int32 :=
  if Fits n then some (Int32.ofInt n) else none

/-- The 64-bit word with a given value, if there is one. -/
def wideOfInt? (n : Int) : Option Int64 :=
  if -9223372036854775808 ≤ n ∧ n ≤ 9223372036854775807 then some (Int64.ofInt n) else none

/-- The quotient of two words, cut toward zero; there is none for a zero divisor, and the
    one quotient that is no word, the least word by minus one, wraps to the least word. -/
def quotient? (dividend divisor : Int32) : Option Int32 :=
  if divisor = 0 then none else some (dividend / divisor)

/-- A word plus a count, stopping at the largest word. -/
def saturatingAdd (word : Int32) (count : Nat) : Int32 :=
  Int32.ofInt (min (word.toInt + count) greatest)

theorem toInt_fits (word : Int32) : Fits word.toInt :=
  ⟨word.le_toInt, Int.le_of_lt_add_one word.toInt_lt⟩

theorem toInt_ofInt {n : Int} (fits : Fits n) : (Int32.ofInt n).toInt = n :=
  Int32.toInt_ofInt_of_le fits.1 (Int.lt_add_one_of_le fits.2)

theorem ofInt?_toInt (word : Int32) : ofInt? word.toInt = some word := by
  simp [ofInt?, toInt_fits]

theorem ofInt?_eq_some_iff {n : Int} {word : Int32} : ofInt? n = some word ↔ word.toInt = n := by
  constructor
  · intro found
    unfold ofInt? at found
    split at found
    · next fits => cases found; exact toInt_ofInt fits
    · cases found
  · rintro rfl
    exact ofInt?_toInt word

theorem toInt_saturatingAdd (word : Int32) (count : Nat) :
    (saturatingAdd word count).toInt = min (word.toInt + count) greatest := by
  have fits := toInt_fits word
  refine toInt_ofInt ?_
  unfold Fits least greatest at *
  omega

theorem le_saturatingAdd (word : Int32) (count : Nat) : word ≤ saturatingAdd word count := by
  have fits := toInt_fits word
  rw [Int32.le_iff_toInt_le, toInt_saturatingAdd]
  unfold Fits at fits
  omega

end Word

end Gridwise
