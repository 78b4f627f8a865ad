/-! # Finite doubles

The sign of a double has no bearing on whether it is finite: a double, its absolute value and its
negation have the same exponent, and only the largest exponent stands for infinities and for what
is not a number. -/

namespace ScriptedRobot.Number

open Float.Model (Format UnpackedFloat)
open Float.Model.UnpackedFloat

/-- The exponent is not beyond that of the largest finite double. -/
def InRange : UnpackedFloat → Prop
  | .finite _ _ exponent _ => exponent ≤ 971
  | _ => True

theorem inRange_unpack (bits : BitVec 64) : InRange (unpack .binary64 bits) := by
  have width : (@unpackExponent .binary64 bits).toNat < 2048 := BitVec.isLt _
  unfold unpack
  dsimp only
  by_cases largest : @unpackExponent .binary64 bits = -1#11
  · rw [if_pos largest]
    by_cases empty : @unpackMantissa .binary64 bits = 0#52
    · rw [if_pos empty]
      trivial
    · rw [if_neg empty]
      trivial
  have below : (@unpackExponent .binary64 bits).toNat ≠ 2047 := fun isLargest =>
    largest (BitVec.eq_of_toNat_eq isLargest)
  rw [if_neg largest]
  by_cases least : @unpackExponent .binary64 bits = 0#11
  · have zero : (@unpackExponent .binary64 bits).toNat = 0 := congrArg BitVec.toNat least
    rw [if_pos least]
    by_cases empty : @unpackMantissa .binary64 bits = 0#52
    · rw [dif_pos empty]
      trivial
    · rw [dif_neg empty]
      change ((@unpackExponent .binary64 bits).toNat : Int) - (1023 + 52) + 1 ≤ 971
      omega
  · rw [if_neg least]
    change ((@unpackExponent .binary64 bits).toNat : Int) - (1023 + 52) ≤ 971
    omega

theorem isFinite_unpack_packComponents (sign : Sign) {exponent : BitVec 11}
    (below : exponent ≠ -1#11) (mantissa : BitVec 52) :
    (unpack .binary64 (packComponents .binary64 sign exponent mantissa)).isFinite = true := by
  generalize packed : packComponents .binary64 sign exponent mantissa = bits
  have notLargest : @unpackExponent .binary64 bits ≠ -1#11 := by
    rw [← packed, unpackExponent_packComponents]
    exact below
  unfold unpack
  dsimp only
  rw [if_neg notLargest]
  by_cases least : @unpackExponent .binary64 bits = 0#11
  · rw [if_pos least]
    by_cases empty : @unpackMantissa .binary64 bits = 0#52
    · rw [dif_pos empty]
      rfl
    · rw [dif_neg empty]
      rfl
  · rw [if_neg least]
    rfl

/-- Packing loses nothing that is in range. -/
theorem isFinite_unpack_pack {value : UnpackedFloat} (inRange : InRange value) :
    (unpack .binary64 (pack .binary64 value)).isFinite = value.isFinite := by
  cases value with
  | notANumber => rfl
  | infinity sign => cases sign <;> rfl
  | zero sign => cases sign <;> rfl
  | finite sign mantissa exponent positive =>
      have atMost : exponent ≤ 971 := inRange
      have packed : pack .binary64 (.finite sign mantissa exponent positive) =
          if 2 ^ 11 ≤ (exponent + 1023 + 52).toNat + 1 then packedInfinity .binary64 sign
          else if mantissa.log2 + 1 = Format.mantissaBits .binary64 then
            packComponents .binary64 sign (BitVec.ofNat 11 (exponent + 1023 + 52).toNat)
              (BitVec.ofNat 52 mantissa)
          else packComponents .binary64 sign 0#11 (BitVec.ofNat 52 mantissa) := rfl
      rw [packed, if_neg (by omega)]
      by_cases normal : mantissa.log2 + 1 = Format.mantissaBits .binary64
      · rw [if_pos normal]
        refine isFinite_unpack_packComponents sign (fun largest => ?_) _
        have same : (exponent + 1023 + 52).toNat % 2048 = 2047 := congrArg BitVec.toNat largest
        omega
      · rw [if_neg normal]
        exact isFinite_unpack_packComponents sign (by decide) _

/-! ## Signs -/

section Unpacked

variable {value : UnpackedFloat}

theorem InRange.abs (inRange : InRange value) : InRange value.abs := by
  cases value with
  | finite _ _ _ _ => exact inRange
  | notANumber | infinity _ | zero _ => trivial

theorem InRange.neg (inRange : InRange value) : InRange value.neg := by
  cases value with
  | finite _ _ _ _ => exact inRange
  | notANumber | infinity _ | zero _ => trivial

theorem isFinite_unpacked_abs : value.abs.isFinite = value.isFinite := by
  cases value <;> rfl

theorem isFinite_unpacked_neg : value.neg.isFinite = value.isFinite := by
  cases value <;> rfl

end Unpacked

theorem isFinite_abs (x : Float) : x.abs.isFinite = x.isFinite := by
  have kept : x.abs.isFinite = x.toModel.unpack.abs.isFinite :=
    isFinite_unpack_pack (inRange_unpack _).abs
  exact kept.trans isFinite_unpacked_abs

theorem isFinite_neg (x : Float) : (-x).isFinite = x.isFinite := by
  have kept : (-x).isFinite = x.toModel.unpack.neg.isFinite :=
    isFinite_unpack_pack (inRange_unpack _).neg
  exact kept.trans isFinite_unpacked_neg

end ScriptedRobot.Number
