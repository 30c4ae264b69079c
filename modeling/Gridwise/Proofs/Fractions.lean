import Gridwise.Generator.Stop
import Gridwise.Random.Draw

/-!
# Fractions and certainty

A drawn fraction is a number of 53 bits over the first power of two beyond them. Both conversion and
division are exact there, so the fraction is zero or has its leading bit behind the point: it is
below one, and below every probability from one on. So from a probability of one on, stopping is
certain, for whichever fraction is drawn.
-/

namespace Gridwise

open Float.Model (UnpackedFloat Format totalExponent)
open Float.Model.UnpackedFloat (ExtendedMantissa shiftToTargetExponent roundWithAccuracy divCore)

variable {m : Nat} {e : Int}

/-- A mantissa of the full width with an exponent of its own; nothing is rounded. -/
structure FullWidth (m : Nat) (e : Int) : Prop where
  width : m.log2 = 52
  least : -1074 ≤ e
  greatest : e ≤ 971

/-- Target exponents leave 53 bits, as long as they are not below the least one. -/
theorem targetExponent_binary64 (k : Int) :
    Format.binary64.targetExponent k = max (k - 53) (-1074) := rfl

/-- An exponent that is neither the least nor the largest is one of a number whose leading bit is
    not among those that are packed. -/
theorem unpack_packComponents {exponent : BitVec 11} {mantissa : BitVec 52} (positive : 0 < m)
    (notLargest : exponent ≠ -1#11) (notZero : exponent ≠ 0#11)
    (leading : (1#1 ++ mantissa).toNat = m)
    (unbiased : (exponent.toNat : Int) - ((1023 : Nat) + (52 : Nat)) = e) :
    UnpackedFloat.unpack .binary64
        (UnpackedFloat.packComponents .binary64 .positive exponent mantissa) =
      .finite .positive m e positive := by
  have sign : UnpackedFloat.unpackSign
      (UnpackedFloat.packComponents .binary64 .positive exponent mantissa) = 0#1 := by
    show BitVec.extractLsb' 63 1 (0#1 ++ exponent ++ mantissa) = 0#1
    rw [BitVec.extractLsb'_append_eq_of_le (by decide),
      BitVec.extractLsb'_append_eq_of_le (by decide)]
    rfl
  refine (if_neg ?_).trans ((if_neg ?_).trans ?_)
  · rwa [UnpackedFloat.unpackExponent_packComponents]
  · rwa [UnpackedFloat.unpackExponent_packComponents]
  · rw [UnpackedFloat.finite.injEq, sign, UnpackedFloat.unpackExponent_packComponents,
      UnpackedFloat.unpackMantissa_packComponents]
    exact ⟨rfl, leading, unbiased⟩

namespace FullWidth

theorem pos (full : FullWidth m e) : 0 < m := by
  rcases Nat.eq_zero_or_pos m with rfl | positive
  · cases full.width
  · exact positive

theorem bounds (full : FullWidth m e) : 4503599627370496 ≤ m ∧ m < 9007199254740992 :=
  (Nat.log2_eq_iff (Nat.ne_of_gt full.pos)).mp full.width

theorem targetExponent (full : FullWidth m e) :
    Format.binary64.targetExponent (totalExponent m e) = e := by
  have least := full.least
  rw [targetExponent_binary64, totalExponent, full.width]
  omega

theorem shift (full : FullWidth m e) :
    shiftToTargetExponent .binary64 m e .exact = (⟨m, false, false⟩, e) := by
  simp only [shiftToTargetExponent, full.targetExponent,
    Float.Model.UnpackedFloat.shiftToExponent, Int.sub_self, Int.toNat_zero, Int.natCast_zero,
    Int.add_zero]
  rfl

/-- A quotient has one bit more than it keeps. -/
theorem shift_double (full : FullWidth m e) :
    shiftToTargetExponent .binary64 (2 * m) (e - 1) .exact = (⟨m, false, false⟩, e) := by
  have least := full.least
  have width : (2 * m).log2 = 53 := by
    have bounds := full.bounds
    exact (Nat.log2_eq_iff (by omega)).mpr (by omega)
  have target : Format.binary64.targetExponent (totalExponent (2 * m) (e - 1)) = e := by
    rw [targetExponent_binary64, totalExponent, width]
    omega
  have amount : (e - (e - 1)).toNat = 1 := by omega
  have shifted : (⟨2 * m, false, false⟩ : ExtendedMantissa).shiftRightOne = ⟨m, false, false⟩ := by
    simp [ExtendedMantissa.shiftRightOne]
  have exponent : e - 1 + (1 : Nat) = e := by omega
  simp only [shiftToTargetExponent, target, Float.Model.UnpackedFloat.shiftToExponent, amount]
  rw [exponent]
  exact congrArg (·, e) shifted

theorem round_of_shift (full : FullWidth m e) {m' : Nat} {e' : Int}
    (shifted : shiftToTargetExponent .binary64 m' e' .exact = (⟨m, false, false⟩, e)) :
    roundWithAccuracy .binary64 .positive m' e' .exact = .finite .positive m e full.pos := by
  have rounded : (⟨m, false, false⟩ : ExtendedMantissa).roundedMantissa = m := rfl
  unfold roundWithAccuracy
  rw [shifted]
  dsimp only
  rw [rounded, full.shift]
  exact dif_neg (Nat.ne_of_gt full.pos)

theorem unpack_pack (full : FullWidth m e) :
    (Float.Model.pack (.finite .positive m e full.pos)).unpack =
      .finite .positive m e full.pos := by
  have bounds := full.bounds
  have positive := full.pos
  obtain ⟨width, least, greatest⟩ := full
  let biased : Nat := (e + 1023 + 52).toNat
  have exponent : (BitVec.ofNat 11 biased).toNat = biased := by
    rw [BitVec.toNat_ofNat]
    omega
  have notLargest : BitVec.ofNat 11 biased ≠ -1#11 := by
    intro same
    have same := exponent.symm.trans (congrArg BitVec.toNat same)
    have largest : (-1#11).toNat = 2047 := rfl
    omega
  have notZero : BitVec.ofNat 11 biased ≠ 0#11 := by
    intro same
    have same := exponent.symm.trans (congrArg BitVec.toNat same)
    have zero : (0#11).toNat = 0 := rfl
    omega
  -- The leading bit is left out when packing and put back when unpacking.
  have mantissa : (1#1 ++ BitVec.ofNat 52 m).toNat = m := by
    rw [BitVec.toNat_append, ← Nat.shiftLeft_add_eq_or_of_lt (BitVec.isLt _), BitVec.toNat_ofNat,
      Nat.shiftLeft_eq]
    show 1 * 4503599627370496 + m % 4503599627370496 = m
    omega
  have packed : UnpackedFloat.pack .binary64 (.finite .positive m e positive) =
      UnpackedFloat.packComponents .binary64 .positive (BitVec.ofNat 11 biased)
        (BitVec.ofNat 52 m) := by
    have inRange : ¬ 2048 ≤ biased + 1 := by omega
    have normal : m.log2 + 1 = 53 := by omega
    exact (if_neg inRange).trans (if_pos normal)
  have unbiased : ((BitVec.ofNat 11 biased).toNat : Int) - ((1023 : Nat) + (52 : Nat)) = e := by
    omega
  show UnpackedFloat.unpack .binary64 (UnpackedFloat.pack .binary64 _) = _
  rw [packed]
  exact unpack_packComponents positive notLargest notZero mantissa unbiased

/-- The quotient by a power of two has the same mantissa. -/
theorem divCore_power (full : FullWidth m e) (moderate : -900 ≤ e) :
    divCore .binary64 m e 4503599627370496 1 = (2 * m, e - 53 - 1, .exact) := by
  have power : Nat.log2 4503599627370496 = 52 := by decide
  have target : Format.binary64.targetExponent
      (totalExponent m e - totalExponent 4503599627370496 1) = e - 54 := by
    rw [targetExponent_binary64, totalExponent, totalExponent, full.width, power]
    omega
  have amount : (e - 1 - (e - 54)).toNat = 53 := by omega
  have shifted : m <<< 53 = 2 * m * 4503599627370496 := by
    rw [Nat.shiftLeft_eq]
    omega
  have exact : UnpackedFloat.accuracyOfFraction 0 4503599627370496 = .exact := rfl
  simp only [divCore, target, Int.min_eq_right (show e - 54 ≤ e - 1 by omega), amount, shifted,
    Nat.mul_div_cancel _ (show 0 < 4503599627370496 by decide), Nat.mul_mod_left, exact]
  rw [Int.sub_sub]
  rfl

end FullWidth

theorem log2_shiftLeft {n : Nat} (nonzero : n ≠ 0) (k : Nat) : (n <<< k).log2 = n.log2 + k := by
  induction k with
  | zero => rfl
  | succ k ih =>
      have stillNonzero : n <<< k ≠ 0 := by simpa using nonzero
      rw [Nat.shiftLeft_succ, Nat.log2_two_mul stillNonzero, ih, Nat.add_assoc]

/-- A number of at most 53 bits is converted as it is, up to zeros behind it. -/
theorem unpack_toFloat {n : UInt64} (nonzero : n.toNat ≠ 0) (small : n.toNat < 9007199254740992) :
    ∃ m e, ∃ full : FullWidth m e, -52 ≤ e ∧ e ≤ 0 ∧
      n.toFloat.toModel.unpack = .finite .positive m e full.pos := by
  have width : n.toNat.log2 ≤ 52 := Nat.le_of_lt_succ ((Nat.log2_lt nonzero).mpr small)
  have shifted := log2_shiftLeft nonzero (52 - n.toNat.log2)
  have full : FullWidth (n.toNat <<< (52 - n.toNat.log2)) (n.toNat.log2 - 52) :=
    ⟨by omega, by omega, by omega⟩
  refine ⟨_, _, full, by omega, by omega, ?_⟩
  have target : Format.binary64.targetExponent (totalExponent n.toNat 0) = n.toNat.log2 - 52 := by
    rw [targetExponent_binary64, totalExponent]
    omega
  have amount : (0 - ((n.toNat.log2 : Int) - 52)).toNat = 52 - n.toNat.log2 := by omega
  have exponent : (0 : Int) - (52 - n.toNat.log2 : Nat) = n.toNat.log2 - 52 := by omega
  have decreased : UnpackedFloat.decreaseExponent n.toNat 0
      (Format.binary64.targetExponent (totalExponent n.toNat 0)) =
        (n.toNat <<< (52 - n.toNat.log2), (n.toNat.log2 : Int) - 52) := by
    simp only [target, UnpackedFloat.decreaseExponent, amount, exponent]
  have rounded : UnpackedFloat.normalize .binary64 n.toNat 0 .positive =
      .finite .positive (n.toNat <<< (52 - n.toNat.log2)) (n.toNat.log2 - 52) full.pos := by
    unfold UnpackedFloat.normalize
    rw [Int.compare_eq_gt.mpr (by omega)]
    show UnpackedFloat.round .binary64 .positive n.toNat 0 = _
    unfold UnpackedFloat.round
    dsimp only
    rw [decreased]
    exact full.round_of_shift full.shift
  show (Float.Model.pack (UnpackedFloat.normalize .binary64 n.toNat 0 .positive)).unpack = _
  rw [rounded, full.unpack_pack]

/-- A fraction is zero, or its leading bit stands behind the point. -/
theorem unpack_fractionOf (bits : UInt64) :
    (Draw.fractionOf bits).toModel.unpack = .zero .positive ∨
      ∃ m e, ∃ positive : 0 < m, e < -52 ∧
        (Draw.fractionOf bits).toModel.unpack = .finite .positive m e positive := by
  have small : (bits >>> 11).toNat < 9007199254740992 := by
    have below := bits.toNat_lt
    rw [UInt64.toNat_shiftRight, Nat.shiftRight_eq_div_pow]
    show bits.toNat / 2048 < 9007199254740992
    omega
  by_cases zero : (bits >>> 11).toNat = 0
  · have same : bits >>> 11 = 0 := UInt64.toNat_inj.mp zero
    left
    unfold Draw.fractionOf
    rw [same]
    rfl
  · obtain ⟨m, e, full, least, greatest, converted⟩ := unpack_toFloat zero small
    have quotient : FullWidth m (e - 53) := ⟨full.width, by omega, by omega⟩
    have power : (9007199254740992.0 : Float).toModel.unpack =
        .finite .positive 4503599627370496 1 (by decide) := rfl
    have divided : UnpackedFloat.div .binary64 (.finite .positive m e full.pos)
        (.finite .positive 4503599627370496 1 (by decide)) =
          .finite .positive m (e - 53) quotient.pos := by
      unfold UnpackedFloat.div
      dsimp only
      rw [full.divCore_power (by omega)]
      exact quotient.round_of_shift quotient.shift_double
    refine .inr ⟨m, e - 53, quotient.pos, by omega, ?_⟩
    show (Float.Model.pack (UnpackedFloat.div .binary64 (bits >>> 11).toFloat.toModel.unpack
      (9007199254740992.0 : Float).toModel.unpack)).unpack = _
    rw [converted, power, divided, quotient.unpack_pack]

/-- From one on, a number is infinite, or its leading bit stands in front of the point. -/
theorem unpack_of_one_le {p : Float} (atLeastOne : 1.0 ≤ p) :
    p.toModel.unpack = .infinity .positive ∨
      ∃ m e, ∃ positive : 0 < m, -52 ≤ e ∧ p.toModel.unpack = .finite .positive m e positive := by
  have one : (1.0 : Float).toModel.unpack = .finite .positive 4503599627370496 (-52) (by decide) :=
    rfl
  have atLeast : (UnpackedFloat.finite .positive 4503599627370496 (-52) (by decide)).le
      p.toModel.unpack = true := by
    rw [← one]
    exact of_decide_eq_true atLeastOne
  cases kind : p.toModel.unpack with
  | infinity sign =>
      rw [kind] at atLeast
      cases sign with
      | positive => exact .inl rfl
      | negative => cases atLeast
  | notANumber =>
      rw [kind] at atLeast
      cases atLeast
  | zero sign =>
      rw [kind] at atLeast
      cases atLeast
  | finite sign m e positive =>
      rw [kind] at atLeast
      cases sign with
      | negative => cases atLeast
      | positive =>
          refine .inr ⟨m, e, positive, ?_, rfl⟩
          refine Int.not_lt.mp fun less => ?_
          have greater : UnpackedFloat.compare (.finite .positive 4503599627370496 (-52) (by decide))
              (.finite .positive m e positive) = some .gt := by
            show some ((compare (-52 : Int) e).then _) = some .gt
            rw [Int.compare_eq_gt.mpr less]
            rfl
          rw [UnpackedFloat.le, greater] at atLeast
          cases atLeast

/-- A fraction is below every number from one on. -/
theorem fractionOf_lt {p : Float} (atLeastOne : 1.0 ≤ p) (bits : UInt64) :
    Draw.fractionOf bits < p := by
  have less : UnpackedFloat.compare (Draw.fractionOf bits).toModel.unpack p.toModel.unpack =
      some .lt := by
    rcases unpack_fractionOf bits with fraction | ⟨m, e, positive, behind, fraction⟩ <;>
      rcases unpack_of_one_le atLeastOne with number | ⟨m', e', positive', before, number⟩ <;>
      rw [fraction, number]
    · rfl
    · rfl
    · rfl
    · show some ((compare e e').then _) = some .lt
      rw [Int.compare_eq_lt.mpr (by omega)]
      rfl
  have lower : (Draw.fractionOf bits).toModel.unpack.lt p.toModel.unpack = true := by
    rw [UnpackedFloat.lt, less]
    rfl
  exact decide_eq_true lower

theorem stops_of_one_le_probability {schedule : StopSchedule} {depth : Nat}
    (certain : 1.0 ≤ schedule.probability depth) (bits : UInt64) :
    schedule.stops depth (Draw.fractionOf bits) = true :=
  decide_eq_true (fractionOf_lt certain bits)

end Gridwise
