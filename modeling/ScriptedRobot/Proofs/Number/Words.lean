import Mathlib.Tactic.SplitIfs
import ScriptedRobot.Number.Binary64

/-! # Integers of machines

What arithmetic on 32 bits comes to in the integers. Sums and quotients of words are also given with
their failures, so that a computation can be seen to run into none of them. -/

namespace ScriptedRobot.Number

theorem toInt_max (left right : Int32) : (max left right).toInt = max left.toInt right.toInt := by
  change (if left ≤ right then right else left).toInt = _
  simp only [Int32.le_iff_toInt_le]
  split <;> omega

theorem toInt_clampToInt32 (value : Int) :
    (clampToInt32 value).toInt = max int32Least (min int32Greatest value) := by
  unfold clampToInt32
  unfold int32Least int32Greatest
  exact Int32.toInt_ofInt_of_le (by omega) (by omega)

/-- The larger of two integers is the same as a word if one of them is not negative. -/
theorem toNat_toUInt32_max (value : Int32) {least : Int32} (nonnegative : 0 ≤ least.toInt) :
    (max value least).toUInt32.toNat = (max value.toInt least.toInt).toNat := by
  have positive : 0 ≤ max value least := by
    rw [Int32.le_iff_toInt_le, toInt_max]
    change (0 : Int) ≤ _
    omega
  rw [← toInt_max]
  exact Int32.toNat_toUInt32_of_le positive

/-! ## Words -/

theorem toNat_max (left right : UInt32) : (max left right).toNat = max left.toNat right.toNat := by
  change (if left ≤ right then right else left).toNat = _
  simp only [UInt32.le_iff_toNat_le]
  split <;> omega

/-- The sum of two words, unless it overflows. -/
def sum? (left right : UInt32) : Option UInt32 :=
  if left.toNat + right.toNat < wordCount then some (left + right) else none

/-- The quotient and the remainder of two words, unless the divisor is zero. -/
def divide? (dividend divisor : UInt32) : Option (UInt32 × UInt32) :=
  if divisor = 0 then none else some (dividend / divisor, dividend % divisor)

/-- The quotient of two words, rounded up: one more if something remains. -/
def divideUp? (dividend divisor : UInt32) : Option UInt32 := do
  let (quotient, remainder) ← divide? dividend divisor
  if 0 < remainder then sum? quotient 1 else some quotient

/-- Rounding a quotient up adds one to it if something remains. -/
theorem add_sub_one_div {whole part : Nat} (positive : 0 < part) :
    (whole + part - 1) / part = if 0 < whole % part then whole / part + 1 else whole / part := by
  have parts := Nat.div_add_mod' whole part
  have less : whole % part < part := Nat.mod_lt whole positive
  generalize whole / part = quotient at parts ⊢
  generalize whole % part = remainder at parts less ⊢
  have next : (quotient + 1) * part = quotient * part + part := Nat.succ_mul quotient part
  split_ifs with remains
  · have last : (quotient + 1 + 1) * part = (quotient + 1) * part + part := Nat.succ_mul _ part
    exact Nat.div_eq_of_lt_le (by omega) (by omega)
  · exact Nat.div_eq_of_lt_le (by omega) (by omega)

/-- There is a quotient for every divisor but zero. -/
theorem exists_divideUp? (dividend : UInt32) {divisor : UInt32} (positive : 0 < divisor.toNat) :
    ∃ quotient, divideUp? dividend divisor = some quotient ∧
      quotient.toNat = (dividend.toNat + divisor.toNat - 1) / divisor.toNat := by
  have nonzero : divisor ≠ 0 := by
    rintro rfl
    exact absurd positive (by decide)
  have remains : 0 < dividend % divisor ↔ 0 < dividend.toNat % divisor.toNat := by
    rw [UInt32.lt_iff_toNat_lt, UInt32.toNat_mod]
    rfl
  unfold divideUp? divide?
  rw [if_neg nonzero, add_sub_one_div positive]
  dsimp only [Option.bind_eq_bind, Option.bind_some]
  simp only [remains]
  split_ifs with remainder
  · -- There is room for one more, because something remains.
    have fits : (dividend / divisor).toNat + (1 : UInt32).toNat < wordCount := by
      have split := Nat.div_add_mod dividend.toNat divisor.toNat
      have bounded := dividend.toNat_lt
      have quotient := Nat.le_mul_of_pos_left (dividend.toNat / divisor.toNat) positive
      rw [UInt32.toNat_div]
      change _ + 1 < 4294967296
      omega
    refine ⟨dividend / divisor + 1, if_pos fits, ?_⟩
    rw [UInt32.toNat_add]
    exact (Nat.mod_eq_of_lt fits).trans (by rw [UInt32.toNat_div]; rfl)
  · exact ⟨dividend / divisor, rfl, UInt32.toNat_div _ _⟩

end ScriptedRobot.Number
