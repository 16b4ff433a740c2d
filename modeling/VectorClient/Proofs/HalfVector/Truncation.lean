import Mathlib.Order.Bounds.Basic
import VectorClient.HalfVector
import VectorClient.Proofs.Ieee.Value

/-!
# Elements of bfloat16 vectors

A bfloat16 word is the upper half of a binary32 word. The sign and the exponent are the same, so
zeros in the lower half change no value, and without its lower half a number is the next bfloat16
number in the direction of zero. On magnitudes, which stand in the order of their values, this is
multiplication and division by `2 ^ 16`. Only a NaN is not cut, because what is left of its
payload could be nothing.
-/

namespace VectorClient

namespace Ieee.Format

/-- A unit of bfloat16 is `2 ^ 16` units of binary32. -/
theorem scale_binary32_eq_bfloat16 : binary32.scale = bfloat16.scale + 16 := rfl

theorem infinity_binary32_eq_bfloat16 : binary32.infinity = bfloat16.infinity * 2 ^ 16 := rfl

theorem signBit_binary32_eq_bfloat16 : binary32.signBit = bfloat16.signBit * 2 ^ 16 := rfl

/-- Zeros behind the fraction keep the value. -/
theorem units_mul_two_pow (m : Nat) : binary32.units (m * 2 ^ 16) = bfloat16.units m * 2 ^ 16 := by
  have hwidth : 2 ^ 23 = 2 ^ 7 * 2 ^ 16 := rfl
  have hpos := Nat.two_pow_pos 16
  rcases Nat.lt_or_ge m (2 ^ 7) with hsmall | hlarge
  · rw [bfloat16.units_of_lt hsmall, binary32.units_of_lt]
    rw [hwidth]
    exact Nat.mul_lt_mul_of_pos_right hsmall hpos
  · have hle : 2 ^ 23 ≤ m * 2 ^ 16 := by
      rw [hwidth]
      exact Nat.mul_le_mul_right _ hlarge
    rw [bfloat16.units_of_le hlarge, binary32.units_of_le hle, hwidth, Nat.mul_mod_mul_right,
      Nat.mul_div_mul_right _ _ hpos, ← Nat.add_mul, Nat.mul_right_comm]

end Ieee.Format

namespace HalfVector

open Ieee

variable {x : Binary32} {h : BFloat16}

section Widening

theorem toNat_ofBFloat16 (h : BFloat16) : (ofBFloat16 h).toNat = h.toNat * 2 ^ 16 := by
  have hlt : h.toNat < 2 ^ 16 := h.bits.isLt
  rw [ofBFloat16, Word.toNat_ofNat, Nat.shiftLeft_eq]
  apply Nat.mod_eq_of_lt
  change h.toNat * 2 ^ 16 < 2 ^ 16 * 2 ^ 16
  exact Nat.mul_lt_mul_of_pos_right hlt (Nat.two_pow_pos 16)

theorem magnitude_ofBFloat16 (h : BFloat16) : (ofBFloat16 h).magnitude = h.magnitude * 2 ^ 16 := by
  rw [Word.magnitude, toNat_ofBFloat16, Format.signBit_binary32_eq_bfloat16, Nat.mul_mod_mul_right,
    Word.magnitude]

theorem isNegative_ofBFloat16 (h : BFloat16) : (ofBFloat16 h).isNegative = h.isNegative := by
  rw [Word.isNegative, Word.isNegative, toNat_ofBFloat16, Format.signBit_binary32_eq_bfloat16]
  exact decide_eq_decide.mpr (Nat.mul_le_mul_right_iff (Nat.two_pow_pos 16))

theorem isNaN_ofBFloat16 (h : BFloat16) : (ofBFloat16 h).isNaN = h.isNaN := by
  rw [Word.isNaN, Word.isNaN, magnitude_ofBFloat16, Format.infinity_binary32_eq_bfloat16]
  exact decide_eq_decide.mpr (Nat.mul_lt_mul_right (Nat.two_pow_pos 16))

theorem isInfinite_ofBFloat16 (h : BFloat16) : (ofBFloat16 h).isInfinite = h.isInfinite := by
  rw [Word.isInfinite, Word.isInfinite, magnitude_ofBFloat16, Format.infinity_binary32_eq_bfloat16]
  exact decide_eq_decide.mpr (Nat.mul_right_cancel_iff (Nat.two_pow_pos 16))

theorem isFinite_ofBFloat16 (h : BFloat16) : (ofBFloat16 h).isFinite = h.isFinite := by
  rw [Word.isFinite, Word.isFinite, magnitude_ofBFloat16, Format.infinity_binary32_eq_bfloat16]
  exact decide_eq_decide.mpr (Nat.mul_lt_mul_right (Nat.two_pow_pos 16))

/-- A word with zeros in its lower half has the value of its upper half. -/
theorem value_ofBFloat16 (h : BFloat16) : (ofBFloat16 h).value = h.value := by
  have hsigned : (ofBFloat16 h).signedUnits = h.signedUnits * (2 ^ 16 : Nat) := by
    rw [Word.signedUnits, Word.signedUnits, magnitude_ofBFloat16, isNegative_ofBFloat16,
      Format.units_mul_two_pow, Int.natCast_mul]
    split
    · exact (Int.neg_mul ..).symm
    · rfl
  rw [h.value_eq_div Format.scale_binary32_eq_bfloat16, ← hsigned, Word.value]

end Widening

section Cutting

theorem toBFloat16_of_nan (hx : x.isNaN = true) : toBFloat16 x =
    .ofMagnitude x.isNegative (Format.bfloat16.infinity + Format.bfloat16.quietBit) := if_pos hx

theorem toNat_toBFloat16 (hx : x.isNaN = false) : (toBFloat16 x).toNat = x.toNat / 2 ^ 16 := by
  have hlt : x.toNat < 2 ^ 32 := x.bits.isLt
  rw [toBFloat16, hx, if_neg Bool.false_ne_true, Word.toNat_ofNat, Nat.shiftRight_eq_div_pow]
  apply Nat.mod_eq_of_lt
  change x.toNat / 2 ^ 16 < 2 ^ 16
  omega

theorem magnitude_toBFloat16 (hx : x.isNaN = false) :
    (toBFloat16 x).magnitude = x.magnitude / 2 ^ 16 := by
  rw [Word.magnitude, Word.magnitude, toNat_toBFloat16 hx, Format.signBit_binary32_eq_bfloat16,
    Nat.mul_comm, ← Nat.mod_mul_right_div_self]

theorem quietNaN_lt_signBit :
    Format.bfloat16.infinity + Format.bfloat16.quietBit < Format.bfloat16.signBit := by decide

theorem isNegative_toBFloat16 (x : Binary32) : (toBFloat16 x).isNegative = x.isNegative := by
  cases hx : x.isNaN with
  | true => rw [toBFloat16_of_nan hx, Word.isNegative_ofMagnitude _ quietNaN_lt_signBit]
  | false =>
      rw [Word.isNegative, Word.isNegative, toNat_toBFloat16 hx,
        Format.signBit_binary32_eq_bfloat16]
      exact decide_eq_decide.mpr (Nat.le_div_iff_mul_le (Nat.two_pow_pos 16))

theorem isNaN_toBFloat16 (x : Binary32) : (toBFloat16 x).isNaN = x.isNaN := by
  cases hx : x.isNaN with
  | true =>
      rw [toBFloat16_of_nan hx, Word.isNaN, Word.magnitude_ofMagnitude _ quietNaN_lt_signBit]
      decide
  | false =>
      have hle : x.magnitude ≤ Format.bfloat16.infinity * 2 ^ 16 := by
        rw [← Format.infinity_binary32_eq_bfloat16]
        exact Nat.not_lt.mp (of_decide_eq_false hx)
      rw [Word.isNaN, magnitude_toBFloat16 hx]
      apply decide_eq_false
      rw [Nat.not_lt]
      exact Nat.div_le_of_le_mul (Nat.mul_comm .. ▸ hle)

theorem isInfinite_toBFloat16 (hx : x.isInfinite = true) : (toBFloat16 x).isInfinite = true := by
  have hmagnitude : x.magnitude = Format.binary32.infinity := of_decide_eq_true hx
  have hnan : x.isNaN = false := by
    rw [Word.isNaN, hmagnitude]
    exact decide_eq_false (Nat.lt_irrefl _)
  rw [Word.isInfinite, magnitude_toBFloat16 hnan, hmagnitude, Format.infinity_binary32_eq_bfloat16,
    Nat.mul_div_cancel _ (Nat.two_pow_pos 16)]
  exact decide_eq_true rfl

theorem isFinite_toBFloat16 (hx : x.isFinite = true) : (toBFloat16 x).isFinite = true := by
  have hlt := Word.magnitude_lt hx
  rw [Format.infinity_binary32_eq_bfloat16] at hlt
  rw [Word.isFinite, magnitude_toBFloat16 (Word.isNaN_of_isFinite hx)]
  exact decide_eq_true (Nat.div_lt_of_lt_mul (Nat.mul_comm .. ▸ hlt))

end Cutting

/-- `y` is what a bfloat16 vector keeps of `x`: the sign, that it is a NaN or infinite, and of a
number the greatest absolute value of a bfloat16 number that is not above its own. -/
structure Truncates (x y : Binary32) : Prop where
  isNegative : y.isNegative = x.isNegative
  isNaN : y.isNaN = x.isNaN
  infinite : x.isInfinite → y.isInfinite
  finite : x.isFinite → y.isFinite ∧
    IsGreatest {v | ∃ h : BFloat16, h.isFinite ∧ |h.value| = v ∧ v ≤ |x.value|} |y.value|

theorem truncates_ofBFloat16_toBFloat16 (x : Binary32) :
    Truncates x (ofBFloat16 (toBFloat16 x)) where
  isNegative := by rw [isNegative_ofBFloat16, isNegative_toBFloat16]
  isNaN := by rw [isNaN_ofBFloat16, isNaN_toBFloat16]
  infinite hx := by rw [isInfinite_ofBFloat16, isInfinite_toBFloat16 hx]
  finite hx := by
    have hmagnitude := magnitude_toBFloat16 (Word.isNaN_of_isFinite hx)
    refine ⟨by rw [isFinite_ofBFloat16, isFinite_toBFloat16 hx], ?_, ?_⟩
    · refine ⟨toBFloat16 x, isFinite_toBFloat16 hx, by rw [value_ofBFloat16], ?_⟩
      rw [Word.abs_value_le_iff, magnitude_ofBFloat16, hmagnitude]
      exact Nat.div_mul_le_self ..
    · rintro v ⟨h, _, rfl, hle⟩
      rw [← value_ofBFloat16 h, Word.abs_value_le_iff, magnitude_ofBFloat16] at hle
      rw [value_ofBFloat16, Word.abs_value_le_iff, hmagnitude,
        Nat.le_div_iff_mul_le (Nat.two_pow_pos 16)]
      exact hle

end HalfVector

end VectorClient
