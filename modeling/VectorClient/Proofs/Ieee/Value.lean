import Mathlib.Algebra.Order.Field.Rat
import Mathlib.Tactic.Positivity
import VectorClient.Proofs.Ieee.Rounding

/-!
# Exact values of words

A finite word stands for a rational number. What its neighbours in another format are is a matter
of their counts of units alone: words of one sign are as far from each other as their magnitudes,
and a word of the other sign is never nearer than zero is.
-/

namespace VectorClient.Ieee.Word

variable {f g : Format}

theorem isFinite_or (w : Word f) :
    w.isFinite = true ∨ w.isInfinite = true ∨ w.isNaN = true := by
  rw [isFinite, isInfinite, isNaN, decide_eq_true_eq, decide_eq_true_eq, decide_eq_true_eq]
  omega

theorem ofMagnitude_magnitude (w : Word f) : ofMagnitude w.isNegative w.magnitude = w := by
  have hwidth : w.toNat < 2 * f.signBit := f.two_pow_width ▸ w.bits.isLt
  rw [ofMagnitude, isNegative, magnitude]
  by_cases hnegative : f.signBit ≤ w.toNat
  · have hmod : w.toNat % f.signBit = w.toNat - f.signBit := by
      rw [Nat.mod_eq_sub_mod hnegative, Nat.mod_eq_of_lt (by omega)]
    rw [decide_eq_true hnegative, if_pos rfl, hmod, Nat.add_sub_cancel' hnegative, ofNat_toNat]
  · rw [decide_eq_false hnegative, if_neg Bool.false_ne_true,
      Nat.mod_eq_of_lt (Nat.not_le.mp hnegative), ofNat_toNat]

/-- The exact value of a finite word. -/
def value (w : Word f) : ℚ := w.signedUnits / 2 ^ f.scale

/-- No finite word has a value nearer to `v`; and if another value is as near, the fraction of
this one is even. -/
structure IsNearest (w : Word f) (v : ℚ) : Prop where
  isFinite : w.isFinite
  least : ∀ u : Word f, u.isFinite → |v - w.value| ≤ |v - u.value|
  even : ∀ u : Word f, u.isFinite → u.value ≠ w.value → |v - u.value| = |v - w.value| →
    w.magnitude % 2 = 0

theorem value_le_value_iff {x y : Word f} : x.value ≤ y.value ↔ x.signedUnits ≤ y.signedUnits := by
  rw [value, value, div_le_div_iff_of_pos_right (by positivity), Int.cast_le]

/-- The order of finite words is that of their values. -/
theorem rank_le_rank_iff {x y : Word f} : x.rank ≤ y.rank ↔ x.value ≤ y.value := by
  have hle := f.units_le_units_iff x.magnitude y.magnitude
  have hge := f.units_le_units_iff y.magnitude x.magnitude
  have hzeroX := f.units_le_units_iff x.magnitude 0
  have hzeroY := f.units_le_units_iff y.magnitude 0
  rw [Format.units_zero] at hzeroX hzeroY
  rw [value_le_value_iff, rank, rank, signedUnits, signedUnits]
  cases x.isNegative <;> cases y.isNegative <;>
    simp only [Bool.false_eq_true, ↓reduceIte] <;> omega

theorem lessEq_iff_value_le {x y : Word f} (hx : x.isFinite = true) (hy : y.isFinite = true) :
    x.lessEq y = true ↔ x.value ≤ y.value := by
  rw [lessEq_iff, rank_le_rank_iff]
  exact ⟨fun h => h.2.2, fun h => ⟨isNaN_of_isFinite hx, isNaN_of_isFinite hy, h⟩⟩

theorem abs_value (w : Word f) : |w.value| = f.units w.magnitude / 2 ^ f.scale := by
  have hpos : (0 : ℚ) < 2 ^ f.scale := by positivity
  rw [value, abs_div, abs_of_pos hpos, signedUnits]
  split
  · rw [Int.cast_neg, abs_neg, Int.cast_natCast, Nat.abs_cast]
  · rw [Int.cast_natCast, Nat.abs_cast]

/-- Absolute values stand in the order of the magnitudes. -/
theorem abs_value_le_iff {x y : Word f} : |x.value| ≤ |y.value| ↔ x.magnitude ≤ y.magnitude := by
  rw [abs_value, abs_value, div_le_div_iff_of_pos_right (by positivity), Nat.cast_le,
    f.units_le_units_iff]

/-- How far two words are from each other, counted in the smaller units. -/
def gap (k : Nat) (x : Word f) (w : Word g) : Nat :=
  (x.signedUnits - w.signedUnits * (2 ^ k : Nat)).natAbs

section Gap

variable {k : Nat} {x : Word f} {w : Word g}

theorem gap_of_same_sign (h : w.isNegative = x.isNegative) :
    gap k x w = g.distance (f.units x.magnitude) (2 ^ k) w.magnitude := by
  rw [gap, Format.distance, signedUnits, signedUnits, h]
  split
  · rw [Int.neg_mul]
    omega
  · rfl

theorem gap_of_other_sign (h : w.isNegative ≠ x.isNegative) :
    gap k x w = f.units x.magnitude + g.units w.magnitude * 2 ^ k := by
  have hsigns : w.isNegative = !x.isNegative := by
    cases hx : x.isNegative <;> cases hw : w.isNegative <;> simp_all
  rw [gap, signedUnits, signedUnits, hsigns]
  cases x.isNegative
  · rw [Bool.not_false, if_pos rfl, if_neg Bool.false_ne_true, Int.neg_mul]
    omega
  · rw [Bool.not_true, if_neg Bool.false_ne_true, if_pos rfl]
    omega

/-- A value in the units of a format with smaller ones. -/
theorem value_eq_div (w : Word g) (hscale : f.scale = g.scale + k) :
    w.value = ((w.signedUnits * (2 ^ k : Nat) : Int) : ℚ) / 2 ^ f.scale := by
  have hpos : (0 : ℚ) < 2 ^ k := by positivity
  rw [value, hscale, pow_add, Int.cast_mul, Int.cast_natCast, Nat.cast_pow, Nat.cast_ofNat,
    mul_div_mul_right _ _ hpos.ne']

theorem abs_sub_value (hscale : f.scale = g.scale + k) :
    |x.value - w.value| = gap k x w / 2 ^ f.scale := by
  have hpos : (0 : ℚ) < 2 ^ f.scale := by positivity
  rw [w.value_eq_div hscale, value, ← sub_div, ← Int.cast_sub, abs_div, abs_of_pos hpos, gap,
    Nat.cast_natAbs, Int.cast_abs]

/-- Distances of values are gaps. -/
theorem abs_sub_value_le_iff (hscale : f.scale = g.scale + k) {u : Word g} :
    |x.value - w.value| ≤ |x.value - u.value| ↔ gap k x w ≤ gap k x u := by
  rw [abs_sub_value hscale, abs_sub_value hscale, div_le_div_iff_of_pos_right (by positivity),
    Nat.cast_le]

/-- Rounding the magnitude and keeping the sign is rounding the value. -/
theorem isNearest_of_nearestEven (hscale : f.scale = g.scale + k)
    (hsign : w.isNegative = x.isNegative) (hfinite : w.isFinite = true)
    (hnearest : g.NearestEven (f.units x.magnitude) (2 ^ k) w.magnitude) :
    w.IsNearest x.value := by
  have hgap := gap_of_same_sign (k := k) hsign
  refine ⟨hfinite, ?_, ?_⟩
  · intro u _
    rw [abs_sub_value_le_iff hscale, hgap]
    by_cases hu : u.isNegative = x.isNegative
    · rw [gap_of_same_sign hu]
      exact hnearest.least _
    · have hleast := hnearest.least 0
      rw [Format.distance_zero] at hleast
      rw [gap_of_other_sign hu]
      omega
  · intro u _ hne hsame
    have hsame : gap k x u = gap k x w := by
      have hle := (abs_sub_value_le_iff (w := u) (u := w) hscale).mp (le_of_eq hsame)
      have hge := (abs_sub_value_le_iff (w := w) (u := u) hscale).mp (ge_of_eq hsame)
      omega
    rw [hgap] at hsame
    by_cases hu : u.isNegative = x.isNegative
    · refine hnearest.even u.magnitude ?_ ((gap_of_same_sign hu).symm.trans hsame)
      intro hmagnitude
      rw [value, value, signedUnits, signedUnits, hu, hsign, hmagnitude] at hne
      exact hne rfl
    · -- a word of the other sign that is as near is a zero
      have hleast := hnearest.least 0
      rw [Format.distance_zero] at hleast
      rw [gap_of_other_sign hu] at hsame
      have hproduct : g.units u.magnitude * 2 ^ k = 0 := by omega
      have hunits : g.units u.magnitude = 0 :=
        (Nat.mul_eq_zero.mp hproduct).resolve_right (Nat.two_pow_pos k).ne'
      refine hnearest.even 0 ?_ ?_
      · intro hmagnitude
        rw [value, value, signedUnits, signedUnits, hunits, ← hmagnitude, Format.units_zero,
          Int.natCast_zero, Int.neg_zero, ite_self, ite_self] at hne
        exact hne rfl
      · rw [Format.distance_zero]
        omega

end Gap

end VectorClient.Ieee.Word
