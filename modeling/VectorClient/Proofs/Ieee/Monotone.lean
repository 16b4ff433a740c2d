import VectorClient.Proofs.Ieee.Value

/-!
# The order of rounded results

A sum or a product is the exact result, rounded once, and rounding keeps the order. So what is
at most as large stays so under the same operation, up to the infinities: a result that is too
large for the format is not below any other. A comparison with a NaN does not hold, and none of
these operations makes a NaN out of words for which one did.
-/

namespace VectorClient.Ieee.Word

variable {f : Format} {a b c : Word f}

theorem infinity_of_isInfinite (h : a.isInfinite = true) : a.magnitude = f.infinity :=
  of_decide_eq_true h

theorem isFinite_of_isNaN (hnan : a.isNaN = false) (h : a.isInfinite = false) :
    a.isFinite = true := by
  rcases a.isFinite_or with hfinite | hinfinite | hnan'
  · exact hfinite
  · rw [h] at hinfinite
    cases hinfinite
  · rw [hnan] at hnan'
    cases hnan'

theorem magnitude_le (h : a.isNaN = false) : a.magnitude ≤ f.infinity :=
  Nat.not_lt.mp (of_decide_eq_false h)

theorem isNegative_of_rank_pos (h : 0 < a.rank) : a.isNegative = false ∧ a.rank = a.magnitude := by
  rw [rank] at h ⊢
  split
  · rename_i hnegative
    rw [if_pos hnegative] at h
    omega
  · rename_i hpositive
    exact ⟨eq_false_of_ne_true hpositive, rfl⟩

theorem lessEq_of_rank (ha : a.isNaN = false) (hb : b.isNaN = false) (h : a.rank ≤ b.rank) :
    a.lessEq b = true :=
  lessEq_iff.mpr ⟨ha, hb, h⟩

/-- Of two words that are numbers one is below the other, or not above it. -/
theorem lessEq_eq_false_iff (ha : a.isNaN = false) (hb : b.isNaN = false) :
    a.lessEq b = false ↔ b.less a = true := by
  rw [lessEq, less, ha, hb]
  simp

/-- A value stays behind another one if it is replaced by a larger one. -/
theorem lessEq_maximum_of_lessEq (h : c.lessEq a = true) (b : Word f) :
    c.lessEq (a.maximum b) = true := by
  obtain ⟨hc, ha, hle⟩ := lessEq_iff.mp h
  rw [maximum, ha, if_neg Bool.false_ne_true]
  split
  · exact h
  split
  · rename_i hless
    obtain ⟨_, hb, hlt⟩ := less_iff.mp hless
    exact lessEq_of_rank hc hb (by omega)
  · exact h

theorem signedUnits_le_of_rank_le (h : a.rank ≤ b.rank) : a.signedUnits ≤ b.signedUnits :=
  value_le_value_iff.mp (rank_le_rank_iff.mp h)

section Sums

theorem rank_ofUnits (zeroNegative : Bool) (u : Int) :
    (ofUnits zeroNegative u : Word f).rank =
      if u < 0 then -(f.nearest u.natAbs 1 : Int) else f.nearest u.natAbs 1 := by
  have hlt : ∀ n, f.nearest n 1 < f.signBit := fun n =>
    Nat.lt_of_le_of_lt (f.nearest_le_infinity n 1) f.infinity_lt_signBit
  rw [ofUnits]
  split
  · rename_i hzero
    have hnearest : f.nearest 0 1 = 0 := by
      rw [Format.nearest_eq, Format.rounded_eq_zero (by omega), Nat.min_zero]
    rw [rank_ofMagnitude _ (Nat.two_pow_pos _), hzero, Int.natAbs_zero, hnearest]
    split <;> rfl
  · rw [rank_ofMagnitude _ (hlt _)]
    simp only [decide_eq_true_eq]

theorem isNaN_ofUnits (zeroNegative : Bool) (u : Int) :
    (ofUnits zeroNegative u : Word f).isNaN = false := by
  rw [ofUnits]
  split
  · exact isNaN_ofMagnitude _ (Nat.zero_le _)
  · exact isNaN_ofMagnitude _ (f.nearest_le_infinity _ _)

theorem ofUnits_lessEq_ofUnits (hfraction : 0 < f.fractionBits) {u v : Int} (h : u ≤ v)
    (zeroNegative zeroNegative' : Bool) :
    (ofUnits zeroNegative u : Word f).lessEq (ofUnits zeroNegative' v) = true := by
  refine lessEq_of_rank (isNaN_ofUnits _ _) (isNaN_ofUnits _ _) ?_
  rw [rank_ofUnits, rank_ofUnits]
  have hmono : ∀ {n m : Nat}, n ≤ m → f.nearest n 1 ≤ f.nearest m 1 :=
    Format.nearest_mono hfraction Nat.one_pos
  split
  · split
    · have hle := hmono (n := v.natAbs) (m := u.natAbs) (by omega)
      omega
    · omega
  · rw [if_neg (by omega)]
    have hle := hmono (n := u.natAbs) (m := v.natAbs) (by omega)
    omega

theorem add_of_isFinite (ha : a.isFinite = true) (hb : b.isFinite = true) :
    a + b = ofUnits (a.isNegative && b.isNegative) (a.signedUnits + b.signedUnits) := by
  change add a b = _
  rw [add, isNaN_of_isFinite ha, isNaN_of_isFinite hb, isInfinite_of_isFinite ha,
    isInfinite_of_isFinite hb]
  rfl

theorem add_of_isInfinite (ha : a.isFinite = true) (hb : b.isInfinite = true) : a + b = b := by
  have hnan : b.isNaN = false :=
    decide_eq_false (Nat.not_lt.mpr (Nat.le_of_eq (infinity_of_isInfinite hb)))
  change add a b = _
  rw [add, isNaN_of_isFinite ha, hnan, isInfinite_of_isFinite ha, hb]
  rfl

theorem isNaN_add (ha : a.isFinite = true) (hb : b.isNaN = false) : (a + b).isNaN = false := by
  cases hinfinite : b.isInfinite with
  | true => rw [add_of_isInfinite ha hinfinite, hb]
  | false =>
    rw [add_of_isFinite ha (isFinite_of_isNaN hb hinfinite)]
    exact isNaN_ofUnits _ _

theorem rank_le (h : a.isNaN = false) : a.rank ≤ f.infinity ∧ -(f.infinity : Int) ≤ a.rank := by
  have hle := magnitude_le h
  rw [rank]
  split <;> omega

/-- Of an infinity and another word one is the larger, whatever the other is. -/
theorem rank_of_isInfinite (h : a.isInfinite = true) :
    a.rank = f.infinity ∨ a.rank = -(f.infinity : Int) := by
  rw [rank, infinity_of_isInfinite h]
  split
  · exact .inr rfl
  · exact .inl rfl

theorem abs_rank_lt (h : a.isFinite = true) :
    a.rank < f.infinity ∧ -(f.infinity : Int) < a.rank := by
  have hlt := magnitude_lt h
  rw [rank]
  split <;> omega

/-- Adding to a finite word keeps the order of what is added. -/
theorem add_lessEq_add (hfraction : 0 < f.fractionBits) (ha : a.isFinite = true)
    (h : b.lessEq c = true) : (a + b).lessEq (a + c) = true := by
  obtain ⟨hb, hc, hle⟩ := lessEq_iff.mp h
  cases hinfb : b.isInfinite with
  | false =>
    have hfinb := isFinite_of_isNaN hb hinfb
    cases hinfc : c.isInfinite with
    | false =>
      have hunits := signedUnits_le_of_rank_le hle
      rw [add_of_isFinite ha hfinb, add_of_isFinite ha (isFinite_of_isNaN hc hinfc)]
      exact ofUnits_lessEq_ofUnits hfraction (by omega) _ _
    | true =>
      -- something is below it, so it is the positive infinity
      have hlt := abs_rank_lt hfinb
      have hsum := rank_le (isNaN_add ha hb)
      refine lessEq_of_rank (isNaN_add ha hb) (isNaN_add ha hc) ?_
      rw [add_of_isInfinite ha hinfc]
      rcases rank_of_isInfinite hinfc with hrank | hrank <;> omega
  | true =>
    refine lessEq_of_rank (isNaN_add ha hb) (isNaN_add ha hc) ?_
    rw [add_of_isInfinite ha hinfb]
    rcases rank_of_isInfinite hinfb with hrank | hrank
    · have hinfc : c.isInfinite = true := by
        by_contra hfinc
        have hlt := abs_rank_lt (isFinite_of_isNaN hc (eq_false_of_ne_true hfinc))
        omega
      rw [add_of_isInfinite ha hinfc]
      exact hle
    · have hsum := rank_le (isNaN_add ha hc)
      omega

theorem rank_neg (h : a.isNaN = false) : a.neg.rank = -a.rank := by
  rw [neg, rank_ofMagnitude _ (Nat.lt_of_le_of_lt (magnitude_le h) f.infinity_lt_signBit), rank]
  cases a.isNegative with
  | true => exact (Int.neg_neg _).symm
  | false => rfl

theorem isNaN_neg (h : a.isNaN = false) : a.neg.isNaN = false :=
  isNaN_ofMagnitude _ (magnitude_le h)

/-- Subtracting from a finite word reverses the order of what is subtracted. -/
theorem sub_lessEq_sub (hfraction : 0 < f.fractionBits) (ha : a.isFinite = true)
    (h : b.lessEq c = true) : (a - c).lessEq (a - b) = true := by
  obtain ⟨hb, hc, hle⟩ := lessEq_iff.mp h
  refine add_lessEq_add hfraction ha (lessEq_of_rank (isNaN_neg hc) (isNaN_neg hb) ?_)
  rw [rank_neg hb, rank_neg hc]
  omega

theorem isNaN_abs_sub (ha : a.isFinite = true) (hb : b.isFinite = true) :
    (a - b).abs.isNaN = false := by
  have hnan : (a - b).isNaN = false := isNaN_add ha (isNaN_neg (isNaN_of_isFinite hb))
  exact isNaN_ofMagnitude _ (magnitude_le hnan)

end Sums

section Products

/-- The product of two positive words, the first of which may be infinite. -/
theorem mul_of_rank_pos (ha : 0 < a.rank) (hb : 0 < b.rank) (hfinite : b.isFinite = true)
    (hnan : a.isNaN = false) :
    a * b = ofMagnitude false
      (if a.isInfinite then f.infinity else f.mul a.magnitude b.magnitude) := by
  obtain ⟨hsign, hrank⟩ := isNegative_of_rank_pos ha
  obtain ⟨hsign', hrank'⟩ := isNegative_of_rank_pos hb
  have hzero : a.magnitude ≠ 0 := by omega
  have hzero' : b.magnitude ≠ 0 := by omega
  change mul a b = _
  rw [mul, hnan, isNaN_of_isFinite hfinite, isInfinite_of_isFinite hfinite, hsign, hsign']
  cases a.isInfinite with
  | true => simp [hzero, hzero']
  | false => rfl

/-- Multiplying by a positive word keeps the order of positive words. -/
theorem mul_lessEq_mul (hfraction : 0 < f.fractionBits) (ha : 0 < a.rank) (h : a.lessEq b = true)
    (hc : 0 < c.rank) (hfinite : c.isFinite = true) : (a * c).lessEq (b * c) = true := by
  obtain ⟨hnan, hnan', hle⟩ := lessEq_iff.mp h
  obtain ⟨_, hrank⟩ := isNegative_of_rank_pos ha
  obtain ⟨_, hrank'⟩ := isNegative_of_rank_pos (Int.lt_of_lt_of_le ha hle)
  rw [mul_of_rank_pos ha hc hfinite hnan,
    mul_of_rank_pos (Int.lt_of_lt_of_le ha hle) hc hfinite hnan']
  have hproduct : ∀ x : Word f,
      (if x.isInfinite then f.infinity else f.mul x.magnitude c.magnitude) ≤ f.infinity := by
    intro x
    split
    · exact Nat.le_refl _
    · exact f.nearest_le_infinity _ _
  have hlt : ∀ x : Word f,
      (if x.isInfinite then f.infinity else f.mul x.magnitude c.magnitude) < f.signBit :=
    fun x => Nat.lt_of_le_of_lt (hproduct x) f.infinity_lt_signBit
  refine lessEq_of_rank (isNaN_ofMagnitude _ (hproduct a)) (isNaN_ofMagnitude _ (hproduct b)) ?_
  rw [rank_ofMagnitude _ (hlt a), rank_ofMagnitude _ (hlt b), if_neg Bool.false_ne_true,
    if_neg Bool.false_ne_true, Int.ofNat_le]
  cases hinfb : b.isInfinite with
  | true => exact hproduct a
  | false =>
    have hinfa : a.isInfinite = false := by
      have hlt := magnitude_lt (isFinite_of_isNaN hnan' hinfb)
      exact decide_eq_false (by omega)
    rw [hinfa, if_neg Bool.false_ne_true, if_neg Bool.false_ne_true]
    exact Format.nearest_mono hfraction (Nat.two_pow_pos _)
      (Nat.mul_le_mul_right _ (Format.units_le_units (by omega)))

end Products

end VectorClient.Ieee.Word
