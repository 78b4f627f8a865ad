/-! # The order of doubles

Doubles are compared by what they unpack to. Comparing them the other way round turns the outcome
around, and only what is not a number has none. So of two numbers one is at most the other, and a
number is cut to a range as one expects. -/

namespace ScriptedRobot.Number

open Float.Model (UnpackedFloat)
open Float.Model.UnpackedFloat (Sign)

section Unpacked

variable {left right : UnpackedFloat}

theorem compare_sign_swap (left right : Sign) : compare right left = (compare left right).swap := by
  cases left <;> cases right <;> rfl

theorem compare_magnitude_swap (exponent other : Int) (mantissa otherMantissa : Nat) :
    (compare other exponent).then (compare otherMantissa mantissa) =
      ((compare exponent other).then (compare mantissa otherMantissa)).swap := by
  rw [Ordering.swap_then, Int.compare_swap, Nat.compare_swap]

theorem compare_swap (left right : UnpackedFloat) :
    right.compare left = (left.compare right).map Ordering.swap := by
  cases left with
  | notANumber => cases right <;> rfl
  | infinity sign =>
      cases right with
      | infinity other => exact congrArg some (compare_sign_swap sign other)
      | notANumber => cases sign <;> rfl
      | zero _ => cases sign <;> rfl
      | finite other _ _ _ => cases sign <;> cases other <;> rfl
  | zero sign =>
      cases right with
      | infinity other => cases other <;> rfl
      | finite other _ _ _ => cases other <;> rfl
      | notANumber | zero _ => rfl
  | finite sign mantissa exponent positive =>
      cases right with
      | infinity other => cases sign <;> cases other <;> rfl
      | notANumber => rfl
      | zero _ => cases sign <;> rfl
      | finite other otherMantissa otherExponent otherPositive =>
          cases sign <;> cases other
          · exact congrArg (some ·.swap) (compare_magnitude_swap _ _ _ _)
          · rfl
          · rfl
          · exact congrArg some (compare_magnitude_swap _ _ _ _)

/-- Numbers can be compared. -/
theorem exists_compare (number : left.isNaN = false) (otherNumber : right.isNaN = false) :
    ∃ ordering, left.compare right = some ordering := by
  cases left with
  | notANumber => cases number
  | infinity sign =>
      cases right with
      | notANumber => cases otherNumber
      | infinity _ | zero _ | finite _ _ _ _ => cases sign <;> exact ⟨_, rfl⟩
  | zero _ =>
      cases right with
      | notANumber => cases otherNumber
      | infinity other | finite other _ _ _ => cases other <;> exact ⟨_, rfl⟩
      | zero _ => exact ⟨_, rfl⟩
  | finite sign _ _ _ =>
      cases right with
      | notANumber => cases otherNumber
      | infinity other | finite other _ _ _ => cases sign <;> cases other <;> exact ⟨_, rfl⟩
      | zero _ => cases sign <;> exact ⟨_, rfl⟩

end Unpacked

section Floats

variable {left right : Float}

theorem lt_iff_compare :
    left < right ↔ left.toModel.unpack.compare right.toModel.unpack = some .lt := by
  have same : left < right ↔ (left.toModel.unpack.compare right.toModel.unpack == some .lt) = true :=
    decide_eq_true_iff
  rw [same, beq_iff_eq]

theorem le_iff_compare :
    left ≤ right ↔
      (left.toModel.unpack.compare right.toModel.unpack).any Ordering.isLE = true :=
  decide_eq_true_iff

theorem not_lt_of_le (atMost : left ≤ right) : ¬ right < left := by
  rw [le_iff_compare] at atMost
  rw [lt_iff_compare, compare_swap left.toModel.unpack]
  intro greater
  obtain ⟨ordering, compared, swapped⟩ := Option.map_eq_some_iff.mp greater
  rw [compared] at atMost
  cases ordering <;> cases swapped
  cases atMost

/-- Of two numbers one is at most the other. -/
theorem le_of_not_lt (number : left.isNaN = false) (otherNumber : right.isNaN = false)
    (notBelow : ¬ right < left) : left ≤ right := by
  obtain ⟨ordering, compared⟩ := exists_compare number otherNumber
  rw [lt_iff_compare, compare_swap left.toModel.unpack, compared] at notBelow
  rw [le_iff_compare, compared]
  cases ordering with
  | lt | eq => rfl
  | gt => exact (notBelow rfl).elim

end Floats

end ScriptedRobot.Number
