import Mathlib.Algebra.Group.Nat.Defs
import Mathlib.Data.Nat.Log
import VectorClient.Ieee.Arithmetic

/-!
# Exact values and wider formats

A count of units that needs no more digits than a magnitude has is not rounded: it has a
place of its own among the magnitudes, and the places stand in the order of the counts.
The values of a format are exact in every wider one. So a conversion to a wider format
keeps the order of finite words.
-/

namespace VectorClient.Ieee

namespace Format

variable (f g : Format)

theorem signBit_eq : f.signBit = 2 ^ (f.exponentBits + f.fractionBits) := rfl

theorem two_pow_width : 2 ^ f.width = 2 * f.signBit := by
  rw [width, signBit_eq, Nat.add_assoc, Nat.pow_add, Nat.pow_one]

theorem infinity_eq : f.infinity = (2 ^ f.exponentBits - 1) * 2 ^ f.fractionBits := rfl

theorem quietBit_eq : f.quietBit = 2 ^ (f.fractionBits - 1) := rfl

theorem scale_eq : f.scale = 2 ^ (f.exponentBits - 1) - 2 + f.fractionBits := rfl

theorem units_of_lt {m : Nat} (h : m < 2 ^ f.fractionBits) : f.units m = m := if_pos h

theorem units_of_le {m : Nat} (h : 2 ^ f.fractionBits ≤ m) : f.units m =
    (2 ^ f.fractionBits + m % 2 ^ f.fractionBits) * 2 ^ (m / 2 ^ f.fractionBits - 1) :=
  if_neg (Nat.not_lt.mpr h)

theorem infinity_lt_signBit : f.infinity < f.signBit := by
  rw [infinity_eq, signBit_eq, Nat.pow_add]
  exact Nat.mul_lt_mul_of_pos_right (Nat.sub_one_lt (Nat.two_pow_pos _).ne') (Nat.two_pow_pos _)

theorem nearest_le_infinity (n d : Nat) : f.nearest n d ≤ f.infinity := Nat.min_le_left ..

/-- The binade of a count of units, 0 for all counts that are magnitudes themselves. -/
def binade (n : Nat) : Nat := n.log2 - f.fractionBits

/-- A count of units that is not rounded. -/
def Exact (n : Nat) : Prop := 2 ^ f.binade n ∣ n

/-- The magnitude of an exact count of units, in a format without infinity. -/
def place (n : Nat) : Nat := f.binade n * 2 ^ f.fractionBits + n / 2 ^ f.binade n

theorem roundHalfEven_of_dvd {n d : Nat} (hd : 0 < d) (h : d ∣ n) : roundHalfEven n d = n / d := by
  rw [roundHalfEven, Nat.mod_eq_zero_of_dvd h, if_pos (.inl (by omega))]

variable {f g} {n n' m m' : Nat}

theorem nearest_exact (h : f.Exact n) : f.nearest n 1 = min f.infinity (f.place n) := by
  rw [nearest, Nat.div_one, Nat.one_mul]
  change min f.infinity (f.binade n * 2 ^ f.fractionBits + roundHalfEven n (2 ^ f.binade n)) = _
  rw [roundHalfEven_of_dvd (Nat.two_pow_pos _) h, place]

theorem binade_le (h : n ≤ n') : f.binade n ≤ f.binade n' := by
  rw [binade, binade, Nat.log2_eq_log_two, Nat.log2_eq_log_two]
  exact Nat.sub_le_sub_right (Nat.log_mono_right h) _

/-- The digits of a count in its binade are no more than a magnitude has. -/
theorem div_binade_lt (n : Nat) : n / 2 ^ f.binade n < 2 ^ (f.fractionBits + 1) := by
  rw [Nat.div_lt_iff_lt_mul (Nat.two_pow_pos _), ← Nat.pow_add]
  refine Nat.lt_of_lt_of_le Nat.lt_log2_self (Nat.pow_le_pow_right Nat.two_pos ?_)
  rw [binade]
  omega

/-- Outside of the lowest binade the leading digit is there. -/
theorem le_div_binade (h : 0 < f.binade n) : 2 ^ f.fractionBits ≤ n / 2 ^ f.binade n := by
  rw [binade] at h
  have hn : n ≠ 0 := by
    rintro rfl
    rw [Nat.log2_zero] at h
    omega
  rw [Nat.le_div_iff_mul_le (Nat.two_pow_pos _), ← Nat.pow_add, binade,
    Nat.add_sub_cancel' (by omega)]
  exact Nat.log2_self_le hn

theorem place_lt_place (h : n < n') (hn' : f.Exact n') :
    f.place n < f.place n' := by
  rw [place, place]
  rcases Nat.lt_or_eq_of_le (f.binade_le (Nat.le_of_lt h)) with hlt | heq
  · -- a carry into the next binade
    have hsmall := f.div_binade_lt n
    have hlarge := f.le_div_binade (Nat.zero_lt_of_lt hlt)
    rw [Nat.pow_succ] at hsmall
    have hbinades : (f.binade n + 1) * 2 ^ f.fractionBits ≤ f.binade n' * 2 ^ f.fractionBits :=
      Nat.mul_le_mul_right _ hlt
    rw [Nat.add_mul] at hbinades
    omega
  · rw [heq]
    have hdigits : n / 2 ^ f.binade n' < n' / 2 ^ f.binade n' :=
      Nat.div_lt_div_of_lt_of_dvd hn' h
    omega

theorem place_lt (n : Nat) : f.place n < (f.binade n + 2) * 2 ^ f.fractionBits := by
  have hdigits := f.div_binade_lt n
  rw [Nat.pow_succ] at hdigits
  rw [place, Nat.add_mul]
  omega

/-- A value is a number of digits in front of zeros. -/
theorem units_eq (f : Format) (m : Nat) : ∃ digits zeros, f.units m = digits * 2 ^ zeros ∧
    digits < 2 ^ (f.fractionBits + 1) ∧ zeros ≤ m / 2 ^ f.fractionBits - 1 := by
  have hmod := Nat.mod_lt m (Nat.two_pow_pos f.fractionBits)
  rw [Nat.pow_succ]
  rcases Nat.lt_or_ge m (2 ^ f.fractionBits) with hsmall | hlarge
  · rw [f.units_of_lt hsmall]
    exact ⟨m, 0, by rw [Nat.pow_zero, Nat.mul_one], by omega, Nat.zero_le _⟩
  · rw [f.units_of_le hlarge]
    exact ⟨_, _, rfl, by omega, Nat.le_refl _⟩

theorem units_lt_units (h : m < m') : f.units m < f.units m' := by
  have hmod := Nat.mod_lt m (Nat.two_pow_pos f.fractionBits)
  have hdiv := Nat.div_add_mod m (2 ^ f.fractionBits)
  have hdiv' := Nat.div_add_mod m' (2 ^ f.fractionBits)
  have hpos := Nat.two_pow_pos (m' / 2 ^ f.fractionBits - 1)
  rcases Nat.lt_or_ge m (2 ^ f.fractionBits) with hsmall | hlarge
  · rw [f.units_of_lt hsmall]
    rcases Nat.lt_or_ge m' (2 ^ f.fractionBits) with hsmall' | hlarge'
    · rw [f.units_of_lt hsmall']
      exact h
    · rw [f.units_of_le hlarge']
      calc m < 2 ^ f.fractionBits + m' % 2 ^ f.fractionBits := by omega
        _ ≤ _ := Nat.le_mul_of_pos_right _ hpos
  · rw [f.units_of_le hlarge, f.units_of_le (Nat.le_trans hlarge (Nat.le_of_lt h))]
    rcases Nat.lt_or_eq_of_le (Nat.div_le_div_right (Nat.le_of_lt h) :
      m / 2 ^ f.fractionBits ≤ m' / 2 ^ f.fractionBits) with hlt | heq
    · -- all digits of the lower binade together are below the leading digit of the upper one
      have hone : 0 < m / 2 ^ f.fractionBits :=
        Nat.div_pos hlarge (Nat.two_pow_pos _)
      calc (2 ^ f.fractionBits + m % 2 ^ f.fractionBits) * 2 ^ (m / 2 ^ f.fractionBits - 1)
          < (2 ^ f.fractionBits * 2) * 2 ^ (m / 2 ^ f.fractionBits - 1) :=
            Nat.mul_lt_mul_of_pos_right (by omega) (Nat.two_pow_pos _)
        _ = 2 ^ f.fractionBits * 2 ^ (m / 2 ^ f.fractionBits) := by
            rw [Nat.mul_assoc, ← Nat.pow_succ', Nat.succ_eq_add_one, Nat.sub_add_cancel hone]
        _ ≤ 2 ^ f.fractionBits * 2 ^ (m' / 2 ^ f.fractionBits - 1) :=
            Nat.mul_le_mul_left _ (Nat.pow_le_pow_right Nat.two_pos (by omega))
        _ ≤ _ := Nat.mul_le_mul_right _ (Nat.le_add_right ..)
    · rw [heq] at hdiv ⊢
      exact Nat.mul_lt_mul_of_pos_right (by omega) hpos

theorem log2_mul_pow_le {digits bits : Nat} (h : digits < 2 ^ (bits + 1)) (zeros : Nat) :
    (digits * 2 ^ zeros).log2 ≤ bits + zeros := by
  rcases Nat.eq_zero_or_pos digits with rfl | hpos
  · rw [Nat.zero_mul, Nat.log2_zero]
    exact Nat.zero_le _
  · have hlt : (digits * 2 ^ zeros).log2 < bits + 1 + zeros := by
      rw [Nat.log2_lt (Nat.mul_pos hpos (Nat.two_pow_pos _)).ne', Nat.pow_add 2 (bits + 1)]
      exact Nat.mul_lt_mul_of_pos_right h (Nat.two_pow_pos _)
    omega

/-- The values of a format are exact in every format with as many digits. -/
theorem exact_units (hdigits : f.fractionBits ≤ g.fractionBits) (m shift : Nat) :
    g.Exact (f.units m * 2 ^ shift) := by
  obtain ⟨digits, zeros, hunits, hlt, _⟩ := f.units_eq m
  have hlog := log2_mul_pow_le hlt (zeros + shift)
  rw [hunits, Nat.mul_assoc, ← Nat.pow_add]
  refine Nat.dvd_trans (Nat.pow_dvd_pow 2 ?_) (Nat.dvd_mul_left _ _)
  rw [binade]
  omega

theorem log2_units_le (f : Format) (m shift : Nat) :
    (f.units m * 2 ^ shift).log2 ≤ f.fractionBits + (m / 2 ^ f.fractionBits - 1) + shift := by
  obtain ⟨digits, zeros, hunits, hlt, hzeros⟩ := f.units_eq m
  have hlog := log2_mul_pow_le hlt (zeros + shift)
  rw [hunits, Nat.mul_assoc, ← Nat.pow_add]
  omega

/-- Every value of the one format is a value of the other. -/
structure Wider (f g : Format) : Prop where
  two_le : 2 ≤ f.exponentBits
  exponent_le : f.exponentBits ≤ g.exponentBits
  fraction_le : f.fractionBits ≤ g.fractionBits

/-- A magnitude as a count of units of the wider format. -/
def widenedUnits (f g : Format) (m : Nat) : Nat := f.units m * 2 ^ (g.scale - f.scale)

theorem widenedUnits_lt_widenedUnits (h : m < m') :
    f.widenedUnits g m < f.widenedUnits g m' :=
  Nat.mul_lt_mul_of_pos_right (units_lt_units h) (Nat.two_pow_pos _)

namespace Wider

variable (h : f.Wider g)
include h

theorem pow_le : 2 ≤ 2 ^ (f.exponentBits - 1) ∧
    2 ^ (f.exponentBits - 1) ≤ 2 ^ (g.exponentBits - 1) := by
  have htwo := h.two_le
  have hle := h.exponent_le
  refine ⟨?_, Nat.pow_le_pow_right Nat.two_pos (by omega)⟩
  calc 2 = 2 ^ 1 := rfl
    _ ≤ _ := Nat.pow_le_pow_right Nat.two_pos (by omega)

theorem scale_add : g.scale + 2 ^ (f.exponentBits - 1) + f.fractionBits =
    f.scale + 2 ^ (g.exponentBits - 1) + g.fractionBits := by
  obtain ⟨htwo, hle⟩ := h.pow_le
  rw [scale_eq, scale_eq]
  omega

theorem scale_le : f.scale ≤ g.scale := by
  have hadd := h.scale_add
  have hfraction := h.fraction_le
  obtain ⟨_, hle⟩ := h.pow_le
  omega

/-- The largest value of the one format is far from the largest of the other. -/
theorem place_lt_infinity (hm : m < f.infinity) :
    g.place (f.widenedUnits g m) < g.infinity := by
  have hbinades : m / 2 ^ f.fractionBits < 2 ^ f.exponentBits - 1 := by
    rw [Nat.div_lt_iff_lt_mul (Nat.two_pow_pos _)]
    exact hm
  have hlog := f.log2_units_le m (g.scale - f.scale)
  have hadd := h.scale_add
  have hfraction := h.fraction_le
  obtain ⟨htwo, hle⟩ := h.pow_le
  have hdouble : ∀ e, 2 ≤ e → 2 ^ e = 2 * 2 ^ (e - 1) := by
    intro e he
    rw [← Nat.pow_succ', Nat.succ_eq_add_one, Nat.sub_add_cancel (by omega)]
  have hf := hdouble _ h.two_le
  have hg := hdouble _ (Nat.le_trans h.two_le h.exponent_le)
  rw [g.infinity_eq]
  refine Nat.lt_of_lt_of_le (place_lt _) (Nat.mul_le_mul_right _ ?_)
  rw [binade, widenedUnits]
  omega

/-- Widening is not rounding. -/
theorem convertMagnitude_eq (hm : m < f.infinity) :
    Word.convertMagnitude f g m = g.place (f.widenedUnits g m) := by
  change g.nearest (f.widenedUnits g m) (2 ^ (f.scale - g.scale)) = _
  rw [Nat.sub_eq_zero_of_le h.scale_le, Nat.pow_zero, widenedUnits]
  rw [nearest_exact (exact_units h.fraction_le _ _)]
  exact Nat.min_eq_right (Nat.le_of_lt (h.place_lt_infinity hm))

theorem convertMagnitude_lt (hlt : m < m') (hm' : m' < f.infinity) :
    Word.convertMagnitude f g m < Word.convertMagnitude f g m' := by
  rw [h.convertMagnitude_eq (Nat.lt_trans hlt hm'), h.convertMagnitude_eq hm']
  exact place_lt_place (widenedUnits_lt_widenedUnits hlt) (exact_units h.fraction_le _ _)

theorem convertMagnitude_zero : Word.convertMagnitude f g 0 = 0 := by
  have hinfinity : 0 < f.infinity := by
    have htwo := h.two_le
    have hexponents : 2 ^ 1 ≤ 2 ^ f.exponentBits := Nat.pow_le_pow_right Nat.two_pos (by omega)
    rw [f.infinity_eq]
    exact Nat.mul_pos (by omega) (Nat.two_pow_pos _)
  rw [h.convertMagnitude_eq hinfinity, widenedUnits, f.units_of_lt (Nat.two_pow_pos _),
    Nat.zero_mul, place, binade, Nat.log2_zero, Nat.zero_sub, Nat.zero_mul, Nat.zero_div]

end Wider

end Format

namespace Word

variable {f g : Format} {a b : Word f}

theorem toNat_ofNat (n : Nat) : (ofNat n : Word f).toNat = n % 2 ^ f.width := BitVec.toNat_ofNat ..

theorem toNat_ofMagnitude (negative : Bool) {m : Nat} (h : m < f.signBit) :
    (ofMagnitude negative m : Word f).toNat = if negative then f.signBit + m else m := by
  rw [ofMagnitude, toNat_ofNat, f.two_pow_width, Nat.mod_eq_of_lt]
  split <;> omega

theorem magnitude_ofMagnitude (negative : Bool) {m : Nat} (h : m < f.signBit) :
    (ofMagnitude negative m : Word f).magnitude = m := by
  rw [magnitude, toNat_ofMagnitude negative h]
  split
  · rw [Nat.add_mod_left, Nat.mod_eq_of_lt h]
  · exact Nat.mod_eq_of_lt h

theorem isNegative_ofMagnitude (negative : Bool) {m : Nat} (h : m < f.signBit) :
    (ofMagnitude negative m : Word f).isNegative = negative := by
  rw [isNegative, toNat_ofMagnitude negative h]
  cases negative with
  | true => exact decide_eq_true (Nat.le_add_right ..)
  | false => exact decide_eq_false (Nat.not_le.mpr h)

theorem rank_ofMagnitude (negative : Bool) {m : Nat} (h : m < f.signBit) :
    (ofMagnitude negative m : Word f).rank = if negative then -(m : Int) else m := by
  rw [rank, isNegative_ofMagnitude negative h, magnitude_ofMagnitude negative h]

theorem isNaN_ofMagnitude (negative : Bool) {m : Nat} (h : m ≤ f.infinity) :
    (ofMagnitude negative m : Word f).isNaN = false := by
  rw [isNaN, magnitude_ofMagnitude negative (Nat.lt_of_le_of_lt h f.infinity_lt_signBit)]
  exact decide_eq_false (Nat.not_lt.mpr h)

theorem magnitude_lt (h : a.isFinite = true) : a.magnitude < f.infinity := of_decide_eq_true h

theorem isNaN_of_isFinite (h : a.isFinite = true) : a.isNaN = false :=
  decide_eq_false (Nat.not_lt.mpr (Nat.le_of_lt (magnitude_lt h)))

theorem isInfinite_of_isFinite (h : a.isFinite = true) : a.isInfinite = false :=
  decide_eq_false (Nat.ne_of_lt (magnitude_lt h))

theorem convert_of_isFinite (h : a.isFinite = true) :
    a.convert g = ofMagnitude a.isNegative (convertMagnitude f g a.magnitude) := by
  rw [convert, isNaN_of_isFinite h, isInfinite_of_isFinite h]
  rfl

theorem less_iff : a.less b = true ↔ a.isNaN = false ∧ b.isNaN = false ∧ a.rank < b.rank := by
  rw [less, Bool.and_eq_true, Bool.and_eq_true, Bool.not_eq_true', Bool.not_eq_true',
    decide_eq_true_eq, and_assoc]

theorem lessEq_iff : a.lessEq b = true ↔ a.isNaN = false ∧ b.isNaN = false ∧ a.rank ≤ b.rank := by
  rw [lessEq, Bool.and_eq_true, Bool.and_eq_true, Bool.not_eq_true', Bool.not_eq_true',
    decide_eq_true_eq, and_assoc]

section Wider

variable (h : f.Wider g)
include h

theorem convertMagnitude_lt_infinity (ha : a.isFinite = true) :
    convertMagnitude f g a.magnitude < g.infinity := by
  rw [h.convertMagnitude_eq (magnitude_lt ha)]
  exact h.place_lt_infinity (magnitude_lt ha)

theorem isFinite_convert (ha : a.isFinite = true) : (a.convert g).isFinite = true := by
  have hlt := convertMagnitude_lt_infinity h ha
  rw [convert_of_isFinite ha, isFinite,
    magnitude_ofMagnitude _ (Nat.lt_trans hlt g.infinity_lt_signBit)]
  exact decide_eq_true hlt

/-- Widening keeps the order of finite words. -/
theorem rank_convert_lt_iff (ha : a.isFinite = true) (hb : b.isFinite = true) :
    (a.convert g).rank < (b.convert g).rank ↔ a.rank < b.rank := by
  have hmono : ∀ {m m'}, m < f.infinity → m' < f.infinity →
      (convertMagnitude f g m < convertMagnitude f g m' ↔ m < m') := by
    intro m m' hm hm'
    refine ⟨fun hlt => ?_, fun hlt => h.convertMagnitude_lt hlt hm'⟩
    by_contra hle
    rcases Nat.lt_or_eq_of_le (Nat.not_lt.mp hle) with hgt | rfl
    · exact Nat.lt_asymm hlt (h.convertMagnitude_lt hgt hm)
    · exact Nat.lt_irrefl _ hlt
  have hzero : ∀ {m}, m < f.infinity → (0 < convertMagnitude f g m ↔ 0 < m) := by
    intro m hm
    have hpos := hmono (Nat.zero_lt_of_lt hm) hm
    rwa [h.convertMagnitude_zero] at hpos
  have hltA := Nat.lt_trans (convertMagnitude_lt_infinity h ha) g.infinity_lt_signBit
  have hltB := Nat.lt_trans (convertMagnitude_lt_infinity h hb) g.infinity_lt_signBit
  have hab := hmono (magnitude_lt ha) (magnitude_lt hb)
  have hba := hmono (magnitude_lt hb) (magnitude_lt ha)
  have hposA := hzero (magnitude_lt ha)
  have hposB := hzero (magnitude_lt hb)
  rw [convert_of_isFinite ha, convert_of_isFinite hb, rank_ofMagnitude _ hltA,
    rank_ofMagnitude _ hltB, rank, rank]
  split <;> split <;> omega

end Wider

end Word

end VectorClient.Ieee
