import Mathlib
import ScriptedRobot.Proofs.Number.Words

/-! # Exact values of doubles

A finite double stands for a rational number. Truncating it is truncating that number, and the
double nearest to a 64-bit integer is either equal to it or, from `2 ^ 53` on, at least as large as
that. So an integer is narrowed to 32 bits as if it had never been a double
(`narrowToInt32_ofInt64`). -/

namespace ScriptedRobot.Number

open Float.Model (Format)
open Float.Model.UnpackedFloat

/-! ## Bits -/

/-- The bits of a finite double are kept. -/
theorem toBits_ofBits {bits : UInt64}
    (finite : @unpackExponent .binary64 bits.toBitVec ≠ -1#11) :
    (Float.ofBits bits).toBits = bits := by
  have valid : Format.Valid .binary64 bits.toBitVec := ⟨fun largest => absurd largest finite⟩
  exact UInt64.toBitVec_inj.mp (pack_unpack_of_valid valid)

theorem toNat_unpackExponent (bits : BitVec 64) :
    (@unpackExponent .binary64 bits).toNat = bits.toNat >>> 52 % 2 ^ 11 := by
  unfold unpackExponent
  simp only [BitVec.toNat_cast, BitVec.extractLsb_toNat]

/-- The bits of a double, put together from its sign, its exponent and its fraction. -/
def wordOf (negative : Bool) (biased fraction : Nat) : Nat :=
  (if negative then Nat.pow 2 63 else 0) + (biased * Nat.pow 2 52 + fraction)

/-- A finite double is read as it was put together. -/
theorem denote_wordOf (negative : Bool) {biased fraction : Nat} (finite : biased < 2047)
    (short : fraction < Nat.pow 2 52) :
    denote (Float.ofBits (UInt64.ofNat (wordOf negative biased fraction))) =
      if biased = 0 then .finite negative fraction (-1074)
      else .finite negative (Nat.pow 2 52 + fraction) ((biased : Int) - 1075) := by
  obtain ⟨top, unit, width⟩ : Nat.pow 2 63 = 9223372036854775808 ∧
      Nat.pow 2 52 = 4503599627370496 ∧ Nat.pow 2 11 = 2048 := by decide
  have word : wordOf negative biased fraction =
      (if negative then 9223372036854775808 else 0) + (biased * 4503599627370496 + fraction) := by
    rw [wordOf, top, unit]
  rw [unit] at short
  generalize wordOf negative biased fraction = bits at word
  have fits : (UInt64.ofNat bits).toNat = bits := by
    rw [UInt64.toNat_ofNat']
    refine Nat.mod_eq_of_lt ?_
    split at word <;> omega
  have exponent : bits >>> 52 % 2048 = biased := by
    rw [Nat.shiftRight_eq_div_pow]
    split at word <;> omega
  have kept : (Float.ofBits (UInt64.ofNat bits)).toBits = UInt64.ofNat bits := by
    refine toBits_ofBits fun largest => ?_
    have unpacked := toNat_unpackExponent (UInt64.ofNat bits).toBitVec
    have all : (-1#11 : BitVec 11).toNat = 2047 := by decide
    rw [largest, all, UInt64.toNat_toBitVec, fits] at unpacked
    omega
  have sign : bits.testBit 63 = negative := by
    rw [Nat.testBit_eq_decide_div_mod_eq]
    cases negative <;> simp only [Bool.false_eq_true, ↓reduceIte] at word <;> simp <;> omega
  have rest : bits % 4503599627370496 = fraction := by
    split at word <;> omega
  unfold denote
  simp only [kept, fits, sign, unit, width, exponent, rest, Nat.ne_of_lt finite, ↓reduceIte]

/-! ## Values -/

/-- The number that a finite double stands for. -/
def Denotation.value? : Denotation → Option ℚ
  | .finite negative mantissa exponent =>
    some ((if negative then -1 else 1) * (mantissa * 2 ^ exponent))
  | _ => none

/-- The number that a finite double stands for. -/
def exactValue? (x : Float) : Option ℚ :=
  (denote x).value?

/-- Drop the fraction of a number. -/
def towardZero (value : ℚ) : ℤ :=
  if value < 0 then ⌈value⌉ else ⌊value⌋

theorem towardZero_of_nonnegative {value : ℚ} (nonnegative : 0 ≤ value) :
    towardZero value = ⌊value⌋ :=
  if_neg nonnegative.not_gt

theorem towardZero_of_negative {value : ℚ} (negative : value < 0) : towardZero value = ⌈value⌉ :=
  if_pos negative

theorem floor_scaled (mantissa : Nat) (exponent : Int) :
    ((mantissa * Nat.pow 2 exponent.toNat / Nat.pow 2 (-exponent).toNat : Nat) : ℤ) =
      ⌊(mantissa : ℚ) * 2 ^ exponent⌋ := by
  have split : (2 : ℚ) ^ exponent = 2 ^ exponent.toNat / 2 ^ (-exponent).toNat := by
    rw [← zpow_natCast, ← zpow_natCast, ← zpow_sub₀ (two_ne_zero), Int.toNat_sub_toNat_neg]
  have quotient : (mantissa : ℚ) * 2 ^ exponent =
      ((mantissa * Nat.pow 2 exponent.toNat : Nat) : ℚ) / (Nat.pow 2 (-exponent).toNat : Nat) := by
    rw [split, mul_div_assoc']
    simp
  rw [quotient, Rat.floor_natCast_div_natCast, Int.natCast_ediv]

theorem truncate?_of_exact {x : Float} {value : ℚ} (exact : exactValue? x = some value) :
    truncate? x = some (towardZero value) := by
  unfold exactValue? at exact
  unfold truncate?
  cases read : denote x with
  | notANumber => rw [read] at exact; cases exact
  | infinite negative => rw [read] at exact; cases exact
  | finite negative mantissa exponent =>
      rw [read] at exact
      obtain rfl := Option.some.inj exact
      have magnitude : (0 : ℚ) ≤ mantissa * 2 ^ exponent := by positivity
      dsimp only
      congr 1
      unfold signed towardZero
      rw [floor_scaled]
      cases negative with
      | false =>
          rw [if_neg Bool.false_ne_true, if_neg Bool.false_ne_true, one_mul,
            if_neg magnitude.not_gt]
      | true =>
          rw [if_pos rfl, if_pos rfl, neg_one_mul]
          split
          · rw [Int.ceil_neg]
          · have zero : (mantissa : ℚ) * 2 ^ exponent = 0 := by linarith
            rw [zero]
            simp

/-- A finite double is narrowed as the number that it stands for. -/
theorem narrowToInt32_of_exact {x : Float} {value : ℚ} (exact : exactValue? x = some value)
    (fallback : Int32) : narrowToInt32 x fallback = clampToInt32 (towardZero value) := by
  have truncated := truncate?_of_exact exact
  unfold exactValue? at exact
  unfold narrowToInt32
  cases read : denote x with
  | notANumber => rw [read] at exact; cases exact
  | infinite negative => rw [read] at exact; cases exact
  | finite negative mantissa exponent =>
      dsimp only
      rw [truncated, Option.getD_some]

/-! ## Integers -/

section Rounding

variable {count : Nat}

/-- The exponent of the double nearest to a positive integer, as if it were normal. -/
def exponentOf (count : Nat) : Int :=
  (count.log2 : Int) - 52

/-- The mantissa of the double nearest to a positive integer. -/
def mantissaOf (count : Nat) : Nat :=
  roundHalfEven (count * 2 ^ (-exponentOf count).toNat) (2 ^ (exponentOf count).toNat)

theorem roundHalfEven_bounds (numerator : Nat) (denominator : Nat) :
    numerator / denominator ≤ roundHalfEven numerator denominator ∧
      roundHalfEven numerator denominator ≤ numerator / denominator + 1 := by
  unfold roundHalfEven
  dsimp only
  split
  · omega
  · split <;> omega

/-- The scaled integer has 53 bits. -/
theorem scaled_bounds (positive : 0 < count) :
    2 ^ 52 ≤ count * 2 ^ (-exponentOf count).toNat / 2 ^ (exponentOf count).toNat ∧
      count * 2 ^ (-exponentOf count).toNat / 2 ^ (exponentOf count).toNat < 2 ^ 53 := by
  have least := Nat.log2_self_le positive.ne'
  have most : count < 2 ^ (count.log2 + 1) := Nat.lt_log2_self
  unfold exponentOf
  rcases Nat.le_total count.log2 52 with few | many
  · obtain ⟨shift, shifted⟩ := Nat.exists_eq_add_of_le few
    have down : (-((count.log2 : Int) - 52)).toNat = shift := by omega
    have up : ((count.log2 : Int) - 52).toNat = 0 := by omega
    rw [down, up, pow_zero, Nat.div_one]
    constructor
    · calc 2 ^ 52 = 2 ^ count.log2 * 2 ^ shift := by rw [← pow_add, ← shifted]
        _ ≤ count * 2 ^ shift := Nat.mul_le_mul_right _ least
    · calc count * 2 ^ shift < 2 ^ (count.log2 + 1) * 2 ^ shift :=
          Nat.mul_lt_mul_of_pos_right most (by positivity)
        _ = 2 ^ 53 := by rw [← pow_add]; congr 1; omega
  · obtain ⟨shift, shifted⟩ := Nat.exists_eq_add_of_le many
    have down : (-((count.log2 : Int) - 52)).toNat = 0 := by omega
    have up : ((count.log2 : Int) - 52).toNat = shift := by omega
    rw [down, up, pow_zero, Nat.mul_one]
    constructor
    · rw [Nat.le_div_iff_mul_le (by positivity), ← pow_add, ← shifted]
      exact least
    · rw [Nat.div_lt_iff_lt_mul (by positivity), ← pow_add]
      exact lt_of_lt_of_eq most (congrArg (2 ^ ·) (by omega))

theorem mantissaOf_bounds (positive : 0 < count) :
    2 ^ 52 ≤ mantissaOf count ∧ mantissaOf count ≤ 2 ^ 53 := by
  obtain ⟨least, most⟩ := scaled_bounds positive
  obtain ⟨below, above⟩ := roundHalfEven_bounds (count * 2 ^ (-exponentOf count).toNat)
    (2 ^ (exponentOf count).toNat)
  exact ⟨least.trans below, above.trans most⟩

/-- The bits of the double nearest to a positive integer. -/
theorem ofRatio_one (positive : 0 < count) (negative : Bool) (bounded : count.log2 < 1000) :
    ofRatio negative count 1 = Float.ofBits (UInt64.ofNat (wordOf negative
      (exponentOf count + 1074).toNat (mantissaOf count))) := by
  have notLess : ¬ count * Nat.pow 2 (-exponentOf count).toNat <
      1 * Nat.pow 2 (exponentOf count).toNat * Nat.pow 2 52 := by
    have least := (scaled_bounds positive).1
    rw [Nat.le_div_iff_mul_le (by positivity)] at least
    rw [not_lt, one_mul, mul_comm]
    exact least
  have guess : (count.log2 : Int) - ((1 : Nat).log2 : Int) - 52 = exponentOf count := by
    unfold exponentOf
    rw [show (1 : Nat).log2 = 0 from rfl]
    omega
  have normal : max (-1074) (exponentOf count) = exponentOf count := by
    unfold exponentOf
    omega
  have inRange : (exponentOf count + 1074).toNat * Nat.pow 2 52 + mantissaOf count ≤
      2047 * Nat.pow 2 52 := by
    have most := (mantissaOf_bounds positive).2
    have least : (exponentOf count + 1074).toNat ≤ 2022 := by
      unfold exponentOf
      omega
    rw [Nat.pow_eq]
    omega
  unfold ofRatio
  dsimp only
  rw [if_neg positive.ne', guess]
  unfold scaleByPower
  dsimp only
  rw [if_neg notLess, normal]
  have mantissa : roundHalfEven (count * Nat.pow 2 (-exponentOf count).toNat)
      (1 * Nat.pow 2 (exponentOf count).toNat) = mantissaOf count := by
    rw [one_mul]
    rfl
  rw [mantissa, min_eq_left inRange]
  rfl

/-- The double nearest to a positive integer is finite. -/
theorem exactValue?_ofRatio_one (positive : 0 < count) (negative : Bool)
    (bounded : count.log2 < 1000) :
    exactValue? (ofRatio negative count 1) =
      some ((if negative then -1 else 1) * ((mantissaOf count : ℚ) * 2 ^ exponentOf count)) := by
  obtain ⟨least, most⟩ := mantissaOf_bounds positive
  obtain ⟨steps, biased⟩ : ∃ steps : Nat, (exponentOf count + 1074).toNat = steps ∧
      exponentOf count = (steps : Int) - 1074 ∧ steps < 2030 := by
    refine ⟨_, rfl, ?_, ?_⟩ <;> unfold exponentOf <;> omega
  obtain ⟨toNat, exponent, small⟩ := biased
  rw [ofRatio_one positive negative bounded, toNat]
  unfold exactValue?
  rcases lt_or_eq_of_le most with short | full
  · -- The leading bit of the mantissa counts up the exponent.
    obtain ⟨fraction, fractionIs⟩ := Nat.exists_eq_add_of_le least
    have word :
        wordOf negative steps (mantissaOf count) = wordOf negative (steps + 1) fraction := by
      unfold wordOf
      rw [fractionIs, Nat.pow_eq, Nat.pow_eq]
      omega
    have fits : fraction < Nat.pow 2 52 := by
      rw [Nat.pow_eq]
      omega
    rw [word, denote_wordOf negative (by omega) fits, if_neg (Nat.succ_ne_zero steps)]
    have shifted : ((steps + 1 : Nat) : Int) - 1075 = (steps : Int) - 1074 := by
      push_cast
      ring
    rw [exponent, fractionIs, Nat.pow_eq, shifted]
    rfl
  · have word : wordOf negative steps (mantissaOf count) = wordOf negative (steps + 2) 0 := by
      unfold wordOf
      rw [full, Nat.pow_eq, Nat.pow_eq]
      omega
    rw [word, denote_wordOf negative (by omega) (by decide), if_neg (Nat.succ_ne_zero _)]
    unfold Denotation.value?
    have shifted : ((steps + 2 : Nat) : Int) - 1075 = ((steps : Int) - 1074) + 1 := by
      push_cast
      ring
    rw [exponent, full, Nat.pow_eq, shifted]
    dsimp only
    rw [zpow_add_one₀ (two_ne_zero : (2 : ℚ) ≠ 0)]
    congr 2
    push_cast
    ring

/-- Up to 53 bits an integer is a double. -/
theorem value_of_small (positive : 0 < count) (small : count < 2 ^ 53) :
    (mantissaOf count : ℚ) * 2 ^ exponentOf count = count := by
  have few : count.log2 ≤ 52 := Nat.lt_succ_iff.mp ((Nat.log2_lt positive.ne').mpr small)
  obtain ⟨shift, shifted⟩ := Nat.exists_eq_add_of_le few
  have up : (exponentOf count).toNat = 0 := by unfold exponentOf; omega
  have down : exponentOf count = -(shift : Int) := by unfold exponentOf; omega
  have whole : mantissaOf count = count * 2 ^ shift := by
    unfold mantissaOf roundHalfEven
    rw [up, down]
    simp [Nat.mod_one]
  rw [whole, down, zpow_neg, zpow_natCast]
  push_cast
  field_simp

/-- Larger integers go to large doubles. -/
theorem value_of_large (positive : 0 < count) (large : 2 ^ 53 ≤ count) :
    (2 ^ 53 : ℚ) ≤ mantissaOf count * 2 ^ exponentOf count := by
  have many : 53 ≤ count.log2 := (Nat.le_log2 positive.ne').mpr large
  have least : (2 ^ 52 : ℚ) ≤ mantissaOf count := by
    exact_mod_cast (mantissaOf_bounds positive).1
  have doubled : (2 : ℚ) ^ (1 : Int) ≤ 2 ^ exponentOf count := by
    refine zpow_le_zpow_right₀ one_le_two ?_
    unfold exponentOf
    omega
  calc (2 ^ 53 : ℚ) = 2 ^ 52 * 2 ^ (1 : Int) := by norm_num
    _ ≤ mantissaOf count * 2 ^ exponentOf count := by gcongr

end Rounding

/-- The double nearest to an integer that is not too large is the integer itself, or has its sign
and is at least as large as the integers that are not. -/
theorem exists_exactValue?_ofInt {value : ℤ} (bounded : value.natAbs.log2 < 1000) :
    ∃ exact, exactValue? (ofInt value) = some exact ∧
      (exact = value ∨ 2 ^ 53 ≤ value ∧ 2 ^ 53 ≤ exact ∨ value ≤ -2 ^ 53 ∧ exact ≤ -2 ^ 53) := by
  rcases eq_or_ne value 0 with rfl | nonzero
  · refine ⟨0, ?_, .inl rfl⟩
    have zero : ofInt 0 = Float.ofBits (UInt64.ofNat (wordOf false 0 0)) := rfl
    unfold exactValue?
    rw [zero, denote_wordOf false (by norm_num) (by decide)]
    simp [ Denotation.value?]
  · have positive : 0 < value.natAbs := Int.natAbs_pos.mpr nonzero
    refine ⟨_, exactValue?_ofRatio_one positive (decide (value < 0)) bounded, ?_⟩
    rcases lt_or_ge value.natAbs (2 ^ 53) with small | large
    · left
      rw [value_of_small positive small]
      rcases lt_or_ge value 0 with negative | nonnegative
      · rw [decide_eq_true negative, if_pos rfl, Nat.cast_natAbs, abs_of_neg negative]
        push_cast
        ring
      · rw [decide_eq_false nonnegative.not_gt, if_neg Bool.false_ne_true, Nat.cast_natAbs,
          abs_of_nonneg nonnegative, one_mul]
    · right
      have least := value_of_large positive large
      rcases lt_or_ge value 0 with negative | nonnegative
      · refine .inr ⟨by omega, ?_⟩
        rw [decide_eq_true negative, if_pos rfl]
        linarith
      · refine .inl ⟨by omega, ?_⟩
        rw [decide_eq_false nonnegative.not_gt, if_neg Bool.false_ne_true, one_mul]
        exact least

/-- An integer that became a double is truncated to itself, as far as 32-bit integers reach. -/
theorem narrowToInt32_ofInt64 (value : Int64) (fallback : Int32) :
    narrowToInt32 (ofInt64 value) fallback = clampToInt32 value.toInt := by
  have bounded : value.toInt.natAbs.log2 < 1000 := by
    have least := Int64.le_toInt value
    have most := Int64.toInt_lt value
    rcases Nat.eq_zero_or_pos value.toInt.natAbs with zero | positive
    · rw [zero]
      decide
    · have fits : value.toInt.natAbs < 2 ^ 64 := by omega
      exact ((Nat.log2_lt positive.ne').mpr fits).trans (by norm_num)
  obtain ⟨exact, found, same⟩ := exists_exactValue?_ofInt bounded
  rw [ofInt64, narrowToInt32_of_exact found]
  unfold clampToInt32 towardZero int32Least int32Greatest
  rcases same with rfl | ⟨large, exactLarge⟩ | ⟨small, exactSmall⟩
  · rw [Int.ceil_intCast, Int.floor_intCast, ite_self]
  · have floor : (2 : ℤ) ^ 53 ≤ ⌊exact⌋ := Int.le_floor.mpr (by exact_mod_cast exactLarge)
    rw [if_neg (by linarith)]
    congr 1
    omega
  · have ceil : ⌈exact⌉ ≤ -(2 : ℤ) ^ 53 := Int.ceil_le.mpr (by exact_mod_cast exactSmall)
    rw [if_pos (by linarith)]
    congr 1
    omega

end ScriptedRobot.Number
