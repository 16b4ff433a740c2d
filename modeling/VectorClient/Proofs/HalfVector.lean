import VectorClient.HalfVector
import VectorClient.Proofs.Ieee.Half
import VectorClient.Proofs.Ieee.Value

/-!
# Elements of half-precision vectors

A binary32 element of a binary16 vector is rounded as IEEE 754 has it: to the nearest value, of two
that are equally near to the one with an even fraction, and to infinity from the middle between
the largest value and the next power of two on. Reading it back does not round, so an element that
has been a binary16 word already is found as it was.
-/

namespace VectorClient.HalfVector

open Ieee

/-- `h` is `x` rounded to nearest, ties to even; bit 9 of a binary16 word marks a quiet NaN. -/
structure Rounds (x : Binary32) (h : Binary16) : Prop where
  isNegative : h.isNegative = x.isNegative
  nearest : x.isFinite → |x.value| < 65520 → h.IsNearest x.value
  overflow : x.isFinite → 65520 ≤ |x.value| → h.isInfinite
  infinite : x.isInfinite → h.isInfinite
  nan : x.isNaN → h.isNaN ∧ h.magnitude.testBit 9

variable {x y : Binary32} {h : Binary16}

theorem narrowMagnitude_of_isFinite (hx : x.isFinite = true) :
    narrowMagnitude x.magnitude =
      Format.binary16.nearest (Format.binary32.units x.magnitude) (2 ^ 125) :=
  narrowMagnitude_eq_nearest (Word.magnitude_lt hx)

theorem narrowMagnitude_of_isInfinite (hx : x.isInfinite = true) :
    narrowMagnitude x.magnitude = Format.binary16.infinity := by
  have hmagnitude : x.magnitude = Format.binary32.infinity := of_decide_eq_true hx
  rw [hmagnitude]
  decide

theorem narrowMagnitude_of_isNaN (hx : x.isNaN = true) :
    narrowMagnitude x.magnitude = 0x7E00 ||| x.magnitude % 2 ^ 23 / 2 ^ 13 :=
  narrowMagnitude_of_nan (of_decide_eq_true hx) (Nat.mod_lt _ (Nat.two_pow_pos _))

theorem narrowMagnitude_lt (x : Binary32) :
    narrowMagnitude x.magnitude < Format.binary16.signBit := by
  rcases x.isFinite_or with hx | hx | hx
  · rw [narrowMagnitude_of_isFinite hx]
    exact Nat.lt_of_le_of_lt (Format.nearest_le_infinity ..) Format.binary16.infinity_lt_signBit
  · rw [narrowMagnitude_of_isInfinite hx]
    exact Format.binary16.infinity_lt_signBit
  · rw [narrowMagnitude_of_isNaN hx]
    have hpayload : x.magnitude % 2 ^ 23 / 2 ^ 13 < 2 ^ 15 := by omega
    exact Nat.or_lt_two_pow (by decide) hpayload

theorem magnitude_toBinary16 (x : Binary32) :
    (toBinary16 x).magnitude = narrowMagnitude x.magnitude :=
  Word.magnitude_ofMagnitude _ (narrowMagnitude_lt x)

theorem isNegative_toBinary16 (x : Binary32) : (toBinary16 x).isNegative = x.isNegative :=
  Word.isNegative_ofMagnitude _ (narrowMagnitude_lt x)

/-- Rounding reaches infinity from the middle between the largest value and 65536 on. -/
theorem infinity_le_rounded_iff (x : Binary32) :
    Format.binary16.infinity ≤ Format.binary16.rounded (Format.binary32.units x.magnitude) (2 ^ 125)
      ↔ 65520 ≤ |x.value| := by
  have hnearest := Format.nearestEven_rounded (f := .binary16) (by decide) (Nat.two_pow_pos 125)
    (Format.binary32.units x.magnitude)
  have hodd := hnearest.lt_iff_of_odd (m := 0x7BFF) (Nat.two_pow_pos 125) (by decide)
  have hlargest : Format.binary16.units 0x7BFF = 2047 * 2 ^ 29 := by decide
  have hbehind : Format.binary16.units (0x7BFF + 1) = 2048 * 2 ^ 29 := by decide
  rw [hlargest, hbehind] at hodd
  have hvalue : 65520 ≤ |x.value| ↔ 65520 * 2 ^ 149 ≤ Format.binary32.units x.magnitude := by
    have hscale : Format.binary32.scale = 149 := rfl
    rw [Word.abs_value, le_div_iff₀ (by positivity), hscale]
    exact_mod_cast Iff.rfl
  rw [hvalue]
  refine hodd.trans ?_
  omega

/-- Below the middle the nearest magnitude is that of a finite word. -/
theorem isNearest_toBinary16 (hx : x.isFinite = true) (hlt : |x.value| < 65520) :
    (toBinary16 x).IsNearest x.value := by
  have hrounded : Format.binary16.rounded (Format.binary32.units x.magnitude) (2 ^ 125) <
      Format.binary16.infinity := by
    rw [← Nat.not_le, infinity_le_rounded_iff, not_le]
    exact hlt
  have hmagnitude : (toBinary16 x).magnitude =
      Format.binary16.rounded (Format.binary32.units x.magnitude) (2 ^ 125) := by
    rw [magnitude_toBinary16, narrowMagnitude_of_isFinite hx, Format.nearest_eq,
      Nat.min_eq_right (Nat.le_of_lt hrounded)]
  refine Word.isNearest_of_nearestEven scale_binary32 (isNegative_toBinary16 x) ?_ ?_
  · rw [Word.isFinite, hmagnitude]
    exact decide_eq_true hrounded
  · rw [hmagnitude]
    exact Format.nearestEven_rounded (by decide) (Nat.two_pow_pos 125) _

theorem isInfinite_toBinary16 (hx : x.isFinite = true) (hle : 65520 ≤ |x.value|) :
    (toBinary16 x).isInfinite = true := by
  rw [Word.isInfinite, magnitude_toBinary16, narrowMagnitude_of_isFinite hx, Format.nearest_eq,
    Nat.min_eq_left ((infinity_le_rounded_iff x).mpr hle)]
  exact decide_eq_true rfl

theorem rounds_toBinary16 (x : Binary32) : Rounds x (toBinary16 x) where
  isNegative := isNegative_toBinary16 x
  nearest := isNearest_toBinary16
  overflow := isInfinite_toBinary16
  infinite hx := by
    rw [Word.isInfinite, magnitude_toBinary16, narrowMagnitude_of_isInfinite hx]
    exact decide_eq_true rfl
  nan hx := by
    rw [Word.isNaN, magnitude_toBinary16, narrowMagnitude_of_isNaN hx]
    constructor
    · have hle : 0x7E00 ≤ 0x7E00 ||| x.magnitude % 2 ^ 23 / 2 ^ 13 := Nat.left_le_or
      exact decide_eq_true (Nat.lt_of_lt_of_le (by decide) hle)
    · rw [Nat.testBit_or]
      exact Bool.true_or _

theorem magnitude_ofBinary16 (hh : h.magnitude ≤ Format.binary16.infinity) :
    (ofBinary16 h).magnitude = widenMagnitude h.magnitude :=
  Word.magnitude_ofMagnitude _
    (Nat.lt_of_le_of_lt (widenMagnitude_le hh) Format.binary32.infinity_lt_signBit)

theorem isNegative_ofBinary16 (hh : h.magnitude ≤ Format.binary16.infinity) :
    (ofBinary16 h).isNegative = h.isNegative :=
  Word.isNegative_ofMagnitude _
    (Nat.lt_of_le_of_lt (widenMagnitude_le hh) Format.binary32.infinity_lt_signBit)

/-- Widening does not round. -/
theorem value_ofBinary16 (hh : h.isFinite = true) :
    (ofBinary16 h).isFinite = true ∧ (ofBinary16 h).value = h.value := by
  have hle := Nat.le_of_lt (Word.magnitude_lt hh)
  obtain ⟨hunits, hlt⟩ := units_widenMagnitude (Word.magnitude_lt hh)
  have hsigned : (ofBinary16 h).signedUnits = h.signedUnits * (2 ^ 125 : Nat) := by
    rw [Word.signedUnits, Word.signedUnits, magnitude_ofBinary16 hle, isNegative_ofBinary16 hle,
      hunits, Int.natCast_mul]
    split
    · exact (Int.neg_mul ..).symm
    · rfl
  constructor
  · rw [Word.isFinite, magnitude_ofBinary16 hle]
    exact decide_eq_true hlt
  · rw [h.value_eq_div scale_binary32, ← hsigned, Word.value]

theorem toBinary16_ofBinary16 (hh : h.isNaN = false) : toBinary16 (ofBinary16 h) = h := by
  have hle : h.magnitude ≤ Format.binary16.infinity := Nat.not_lt.mp (of_decide_eq_false hh)
  rw [toBinary16, magnitude_ofBinary16 hle, isNegative_ofBinary16 hle,
    narrowMagnitude_widenMagnitude hle, Word.ofMagnitude_magnitude]

/-- Rounding keeps the order of finite words. -/
theorem lessEq_toBinary16 (hx : x.isFinite = true) (hy : y.isFinite = true)
    (hle : x.value ≤ y.value) : (toBinary16 x).lessEq (toBinary16 y) = true := by
  have hmono : ∀ {m m'}, m ≤ m' →
      Format.binary16.nearest (Format.binary32.units m) (2 ^ 125) ≤
        Format.binary16.nearest (Format.binary32.units m') (2 ^ 125) := fun h =>
    Format.nearest_mono (by decide) (Nat.two_pow_pos 125) (Format.units_le_units h)
  have hzero : Format.binary16.nearest (Format.binary32.units 0) (2 ^ 125) = 0 := by decide
  have hrank : x.rank ≤ y.rank := Word.rank_le_rank_iff.mpr hle
  have hinfinity := Format.binary16.infinity_lt_signBit
  have hleX := Format.binary16.nearest_le_infinity (Format.binary32.units x.magnitude) (2 ^ 125)
  have hleY := Format.binary16.nearest_le_infinity (Format.binary32.units y.magnitude) (2 ^ 125)
  rw [toBinary16, toBinary16, narrowMagnitude_of_isFinite hx, narrowMagnitude_of_isFinite hy,
    Word.lessEq_iff]
  refine ⟨Word.isNaN_ofMagnitude _ hleX, Word.isNaN_ofMagnitude _ hleY, ?_⟩
  rw [Word.rank_ofMagnitude _ (Nat.lt_of_le_of_lt hleX hinfinity),
    Word.rank_ofMagnitude _ (Nat.lt_of_le_of_lt hleY hinfinity)]
  rw [Word.rank, Word.rank] at hrank
  rcases hsignX : x.isNegative <;> rcases hsignY : y.isNegative <;>
    simp only [hsignX, hsignY, Bool.false_eq_true, ↓reduceIte] at hrank ⊢
  · exact Int.ofNat_le.mpr (hmono (Int.ofNat_le.mp hrank))
  · -- both are zeros
    have hmagnitudeX : x.magnitude = 0 := by omega
    have hmagnitudeY : y.magnitude = 0 := by omega
    rw [hmagnitudeX, hmagnitudeY, hzero]
    decide
  · omega
  · exact Int.neg_le_neg (Int.ofNat_le.mpr (hmono (Int.ofNat_le.mp (Int.neg_le_neg_iff.mp hrank))))

/-- The shifts do what a conversion between any two formats does. -/
theorem toBinary16_eq_convert (x : Binary32) : toBinary16 x = x.convert .binary16 := by
  have hlt : x.magnitude < Format.binary32.signBit := Nat.mod_lt _ (Nat.two_pow_pos _)
  rw [toBinary16, narrowMagnitude_eq hlt, Word.convert, Word.isNaN, Word.isInfinite]
  simp only [decide_eq_true_eq]

theorem ofBinary16_eq_convert (h : Binary16) : ofBinary16 h = h.convert .binary32 := by
  have hlt : h.magnitude < Format.binary16.signBit := Nat.mod_lt _ (Nat.two_pow_pos _)
  rw [ofBinary16, widenMagnitude_eq hlt, Word.convert, Word.isNaN, Word.isInfinite]
  simp only [decide_eq_true_eq]

/-- Narrowing rounds every word to nearest, ties to even, and keeps the order of finite values, the
infinities included that large ones become. Widening keeps the value, and narrowing what was
widened gives the same word again, for every word that is not a NaN. -/
theorem rounds_and_restores :
    (∀ x : Binary32, Rounds x (toBinary16 x)) ∧
    (∀ h : Binary16, h.isFinite → (ofBinary16 h).isFinite ∧ (ofBinary16 h).value = h.value) ∧
    (∀ x y : Binary32, x.isFinite → y.isFinite → x.value ≤ y.value →
      (toBinary16 x).lessEq (toBinary16 y)) ∧
    ∀ h : Binary16, h.isNaN = false → toBinary16 (ofBinary16 h) = h :=
  ⟨rounds_toBinary16, fun _ => value_ofBinary16, fun _ _ => lessEq_toBinary16,
    fun _ => toBinary16_ofBinary16⟩

/-- The middle between 1 and the next value is rounded to 1, which is even, and the middle behind
the largest value to infinity. -/
theorem rounds_and_restores_middles :
    let one : Binary16 := .ofNat 0x3C00
    let middle : Binary32 := .ofNat 0x3F801000
    let large : Binary32 := .ofNat 0x477FF000
    toBinary16 middle = one ∧ one.IsNearest middle.value ∧
      (ofBinary16 one).value = one.value ∧ toBinary16 (ofBinary16 one) = one ∧
      |large.value| = 65520 ∧ (toBinary16 large).isInfinite ∧
      (toBinary16 middle).lessEq (toBinary16 large) := by
  intro one middle large
  obtain ⟨hrounds, hexact, hmono, hrestores⟩ := rounds_and_restores
  have hmiddle : toBinary16 middle = one := by decide +kernel
  have hfinite : middle.isFinite = true := by decide +kernel
  have hlarge : large.isFinite = true := by decide +kernel
  have hsmaller : |middle.value| < 65520 := by decide +kernel
  have hvalue : |large.value| = 65520 := by decide +kernel
  have hle : middle.value ≤ large.value := by decide +kernel
  refine ⟨hmiddle, ?_, ?_, ?_, hvalue, ?_, ?_⟩
  · exact hmiddle ▸ (hrounds middle).nearest hfinite hsmaller
  · exact (hexact one (by decide +kernel)).2
  · exact hrestores one (by decide +kernel)
  · exact (hrounds large).overflow hlarge (le_of_eq hvalue.symm)
  · exact hmono middle large hfinite hlarge hle

end VectorClient.HalfVector
