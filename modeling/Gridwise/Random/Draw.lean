import Gridwise.Random.Keystream
import Gridwise.Word

/-!
# Uniform draws

Fractions, coins, indices and words drawn from a stream of random bits. A number below a
count is the high part of a random word times the count; words whose low part is too
large are passed over, so that all numbers are equally likely. The high part lies below
the count whichever word is taken, which is all that users of a draw rely on.
-/

namespace Gridwise

namespace Draw

/-- The fraction of 53 random bits, at least zero and below one. -/
def fractionOf (bits : UInt64) : Float := (bits >>> 11).toFloat / 9007199254740992.0

/-- Draws a fraction. -/
def fraction : StateM Keystream Float := do
  let bits ← Keystream.wideWord
  return fractionOf bits

/-- Draws one of two sides with equal chances. -/
def coin : StateM Keystream Bool := do
  let bits ← Keystream.wideWord
  return decide (bits < 9223372036854775808)

/-- The high part of a word of some width times a count. -/
def scale (word : BitVec width) (count : Nat) : Nat := (word.toNat * count) >>> width

theorem scale_lt (word : BitVec width) {count : Nat} (positive : 0 < count) :
    scale word count < count := by
  rw [scale, Nat.shiftRight_eq_div_pow]
  refine Nat.div_lt_of_lt_mul ?_
  exact Nat.mul_lt_mul_of_pos_right word.isLt positive

/-- The number of words that are passed over at most before one is taken regardless. More
    than half of all words are taken, so this many are never seen. -/
def patience : Nat := 4096

/-- Draws words until one is accepted, passing over at most so many. -/
def firstAccepted (word : StateM Keystream ω) (accepts : ω → Bool) : Nat → StateM Keystream ω
  | 0 => word
  | remaining + 1 => do
      let bits ← word
      if accepts bits then return bits else firstAccepted word accepts remaining

/-- Draws an index below a count. A word is taken if the low part of its product with the
    count is below the largest multiple of the count by a power of two that is a word. -/
def index (count : Nat) (positive : 0 < count) : StateM Keystream (Fin count) := do
  let limit := (UInt64.ofNat count <<< UInt64.ofNat (63 - count.log2)) - 1
  let bits ← firstAccepted Keystream.wideWord
    (fun bits => decide (bits * UInt64.ofNat count ≤ limit)) patience
  return ⟨scale bits.toBitVec count, scale_lt _ positive⟩

/-- Draws an offset below a count from words of half the width, by the same rule. -/
def offset (count : Nat) (positive : 0 < count) : StateM Keystream (Fin count) := do
  let limit := (UInt32.ofNat count <<< UInt32.ofNat (31 - count.log2)) - 1
  let bits ← firstAccepted Keystream.word
    (fun bits => decide (bits * UInt32.ofNat count ≤ limit)) patience
  return ⟨scale bits.toBitVec count, scale_lt _ positive⟩

/-- Draws any 32-bit word. -/
def anyWord : StateM Keystream Int32 := UInt32.toInt32 <$> Keystream.word

/-- Draws an integer between two bounds, both included, that are at most a word's range
    apart. Between the limits of the words, every word stands for itself. -/
def between (lo hi : Int) (ordered : lo ≤ hi) :
    StateM Keystream { n : Int // lo ≤ n ∧ n ≤ hi } :=
  if limits : lo = Word.least ∧ hi = Word.greatest then do
    let word ← anyWord
    return ⟨word.toInt, limits.1 ▸ (Word.toInt_fits word).1, limits.2 ▸ (Word.toInt_fits word).2⟩
  else do
    let offset ← offset (hi - lo + 1).toNat (by omega)
    return ⟨lo + offset.val, by omega⟩

end Draw

end Gridwise
