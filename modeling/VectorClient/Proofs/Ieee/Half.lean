import Mathlib.Data.Nat.Bitwise
import VectorClient.Ieee.Half
import VectorClient.Proofs.Ieee.Rounding

/-!
# Half precision by shifting

Looking at the bits that a shift loses is rounding the quotient by a power of two to nearest. With
that, each of the shorter formulas for a binade of binary32 is what `Format.nearest` finds in all
of them: the quotient is taken with the leading digit of the fraction where binary16 has no
exponent left for it, and without it elsewhere, a carry being the next binade in both.
-/

namespace VectorClient.Ieee

section Shift

variable (n k : Nat)

theorem and_two_pow_ne_zero_iff : n &&& 2 ^ k ≠ 0 ↔ n / 2 ^ k % 2 = 1 := by
  rw [Nat.and_two_pow, Nat.testBit_eq_decide_div_mod_eq]
  by_cases h : n / 2 ^ k % 2 = 1 <;> simp [h]

/-- The round bit decides together with the bits below it and the one above it. -/
theorem and_sticky_ne_zero_iff :
    n &&& (3 * 2 ^ k - 1) ≠ 0 ↔ n / 2 ^ k / 2 % 2 = 1 ∨ n % 2 ^ k ≠ 0 := by
  have hmask : 3 * 2 ^ k - 1 = 2 ^ (k + 1) ||| (2 ^ k - 1) := by
    have hpos := Nat.two_pow_pos k
    have hpow := Nat.pow_succ 2 k
    have hor := Nat.two_pow_add_eq_or_of_lt (i := k + 1) (b := 2 ^ k - 1) (by omega) 1
    rw [Nat.mul_one] at hor
    omega
  rw [hmask, Nat.and_or_distrib_left, Nat.and_two_pow_sub_one_eq_mod, Ne, Nat.or_eq_zero_iff,
    Decidable.not_and_iff_not_or_not, ← Ne, and_two_pow_ne_zero_iff, Nat.pow_succ,
    Nat.div_div_eq_div_mul]

theorem shiftRounded_eq : shiftRounded n (k + 1) = roundHalfEven n (2 ^ (k + 1)) := by
  have hup : (n &&& 2 ^ k ≠ 0 ∧ n &&& (3 * 2 ^ k - 1) ≠ 0) ↔
      ¬ (2 * (n % 2 ^ (k + 1)) < 2 ^ (k + 1) ∨
        2 * (n % 2 ^ (k + 1)) = 2 ^ (k + 1) ∧ n / 2 ^ (k + 1) % 2 = 0) := by
    have hlow := Nat.mod_lt n (Nat.two_pow_pos k)
    rw [and_two_pow_ne_zero_iff, and_sticky_ne_zero_iff, Nat.pow_succ, ← Nat.div_div_eq_div_mul,
      Nat.mod_mul]
    rcases Nat.mod_two_eq_zero_or_one (n / 2 ^ k) with hbit | hbit <;> rw [hbit] <;> omega
  rw [roundHalfEven, ← ite_not, ← if_congr hup rfl rfl, shiftRounded, Nat.one_shiftLeft,
    Nat.add_sub_cancel, Nat.shiftRight_eq_div_pow]

end Shift

/-- A unit of binary16 is `2 ^ 125` units of binary32. -/
theorem scale_binary32 : Format.binary32.scale = Format.binary16.scale + 125 := rfl

theorem and_fraction32 (m : Nat) : m &&& 0x7FFFFF = m % 2 ^ 23 :=
  Nat.and_two_pow_sub_one_eq_mod m 23

theorem and_fraction16 (m : Nat) : m &&& 0x3FF = m % 2 ^ 10 := Nat.and_two_pow_sub_one_eq_mod m 10

section Narrowing

variable {exponent fraction : Nat}

/-- A normal number of binary32 in the range of the normal ones of binary16, or above it. -/
theorem rounded_normal (hexponent : 113 ≤ exponent) (hfraction : fraction < 2 ^ 23) :
    Format.binary16.rounded ((2 ^ 23 + fraction) * 2 ^ (exponent - 1)) (2 ^ 125) =
      (exponent - 112) * 2 ^ 10 + roundHalfEven fraction (2 ^ 13) := by
  have hbinade : 23 + (exponent - 1) - 125 - 10 = exponent - 113 := by omega
  have hlost : 2 ^ 125 * 2 ^ (exponent - 113) = 2 ^ 13 * 2 ^ (exponent - 1) := by
    have hsum : 125 + (exponent - 113) = 13 + (exponent - 1) := by omega
    rw [← Nat.pow_add, ← Nat.pow_add, hsum]
  have hleading : 2 ^ 23 + fraction = 2 * 2 ^ 9 * 2 ^ 13 + fraction := by omega
  rw [Format.rounded_digits 23 (by omega) (by omega), hbinade, hlost,
    roundHalfEven_mul_right (Nat.two_pow_pos _), hleading,
    roundHalfEven_mul_add (Nat.two_pow_pos _)]
  change (exponent - 113) * 2 ^ 10 + _ = _
  omega

/-- A normal number of binary32 below the normal ones of binary16. -/
theorem rounded_subnormal (hpos : 0 < exponent) (hexponent : exponent ≤ 112)
    (hfraction : fraction < 2 ^ 23) :
    Format.binary16.rounded ((2 ^ 23 + fraction) * 2 ^ (exponent - 1)) (2 ^ 125) =
      roundHalfEven (2 ^ 23 + fraction) (2 ^ (126 - exponent)) := by
  have hbinade : 23 + (exponent - 1) - 125 - 10 = 0 := by omega
  have hlost : 2 ^ 125 * 2 ^ 0 = 2 ^ (126 - exponent) * 2 ^ (exponent - 1) := by
    have hsum : 125 + 0 = 126 - exponent + (exponent - 1) := by omega
    rw [← Nat.pow_add, ← Nat.pow_add, hsum]
  rw [Format.rounded_digits 23 (by omega) (by omega), hbinade, hlost,
    roundHalfEven_mul_right (Nat.two_pow_pos _), Nat.zero_mul, Nat.zero_add]

/-- The shifts find the nearest magnitude, whichever range the exponent is in. -/
theorem narrowMagnitude_eq_nearest {m : Nat} (h : m < Format.binary32.infinity) :
    narrowMagnitude m = Format.binary16.nearest (Format.binary32.units m) (2 ^ 125) := by
  have hexponent : m / 2 ^ 23 < 255 := by
    rw [Nat.div_lt_iff_lt_mul (Nat.two_pow_pos _)]
    exact h
  have hfraction := Nat.mod_lt m (Nat.two_pow_pos 23)
  have hinfinity : Format.binary16.infinity = 31 * 2 ^ 10 := rfl
  rw [narrowMagnitude, Nat.shiftRight_eq_div_pow, and_fraction32, if_neg (Nat.ne_of_lt hexponent),
    Format.nearest_eq, hinfinity]
  rcases Nat.lt_or_ge (m / 2 ^ 23) 102 with htiny | hsmall
  · -- less than half a unit
    have hunits : Format.binary32.units m < 2 ^ 124 := by
      have hlt : m < 102 * 2 ^ 23 := by omega
      exact Format.units_lt_units (f := Format.binary32) hlt
    rw [Format.rounded_eq_zero (by omega), if_neg (by omega), if_neg (by omega),
      if_neg (by omega), Nat.min_zero]
  have hunits : Format.binary32.units m = (2 ^ 23 + m % 2 ^ 23) * 2 ^ (m / 2 ^ 23 - 1) :=
    Format.binary32.units_of_le (show 2 ^ 23 ≤ m by omega)
  rw [hunits]
  rcases Nat.lt_or_ge 112 (m / 2 ^ 23) with hnormal | hsubnormal
  · have hround : shiftRounded (m % 2 ^ 23) 13 = roundHalfEven (m % 2 ^ 23) (2 ^ 13) :=
      shiftRounded_eq _ 12
    have hle := roundHalfEven_le (m % 2 ^ 23) (2 ^ 13)
    rw [rounded_normal hnormal hfraction, Nat.shiftLeft_eq, hround, if_pos hnormal]
    split <;> omega
  · have hleading : m % 2 ^ 23 ||| 0x800000 = 2 ^ 23 + m % 2 ^ 23 := by
      rw [Nat.or_comm]
      exact (Nat.two_pow_add_eq_or_of_lt hfraction 1).symm
    have hshift : 126 - m / 2 ^ 23 = 125 - m / 2 ^ 23 + 1 := by omega
    have hround : shiftRounded (2 ^ 23 + m % 2 ^ 23) (126 - m / 2 ^ 23) =
        roundHalfEven (2 ^ 23 + m % 2 ^ 23) (2 ^ (126 - m / 2 ^ 23)) := by
      rw [hshift, shiftRounded_eq]
    have hle := roundHalfEven_le (2 ^ 23 + m % 2 ^ 23) (2 ^ (126 - m / 2 ^ 23))
    have hkept : (2 ^ 23 + m % 2 ^ 23) / 2 ^ (126 - m / 2 ^ 23) < 2 ^ 10 := by
      rw [Nat.div_lt_iff_lt_mul (Nat.two_pow_pos _)]
      have hpow : 2 ^ 14 ≤ 2 ^ (126 - m / 2 ^ 23) := Nat.pow_le_pow_right Nat.two_pos (by omega)
      omega
    rw [rounded_subnormal (by omega) hsubnormal hfraction, hleading, hround, if_neg (by omega),
      if_neg (by omega), if_pos hsmall]
    omega

/-- A NaN keeps the leading bits of its payload and becomes quiet. -/
theorem narrowMagnitude_of_nan {m : Nat} (h : Format.binary32.infinity < m)
    (hlt : m < Format.binary32.signBit) :
    narrowMagnitude m = 0x7E00 ||| m % 2 ^ 23 / 2 ^ 13 := by
  have hinfinity : 255 * 2 ^ 23 < m := h
  have hsign : m < 2 ^ 31 := hlt
  have hexponent : m / 2 ^ 23 = 255 := by omega
  rw [narrowMagnitude, Nat.shiftRight_eq_div_pow, and_fraction32, if_pos hexponent,
    if_neg (by omega), Nat.shiftRight_eq_div_pow]
  rfl

end Narrowing

section Widening

variable {m : Nat}

theorem or_eq_add {exponent fraction : Nat} (h : fraction < 2 ^ 23) :
    exponent <<< 23 ||| fraction = exponent * 2 ^ 23 + fraction := by
  rw [← Nat.shiftLeft_add_eq_or_of_lt h, Nat.shiftLeft_eq]

theorem widenMagnitude_of_normal (hpos : 0 < m / 2 ^ 10) (hlt : m / 2 ^ 10 < 31) :
    widenMagnitude m = (m / 2 ^ 10 + 111) * 2 ^ 23 + (2 ^ 10 + m % 2 ^ 10) * 2 ^ 13 := by
  have hfraction := Nat.mod_lt m (Nat.two_pow_pos 10)
  have hm : m ≠ 0 := by omega
  rw [widenMagnitude, Nat.shiftRight_eq_div_pow, and_fraction16, if_neg hm,
    if_neg (Nat.ne_of_lt hlt), if_neg (Nat.ne_of_gt hpos), Nat.shiftLeft_eq (m % 2 ^ 10),
    or_eq_add (by omega)]
  omega

theorem widenMagnitude_of_subnormal (hpos : 0 < m) (hlt : m < 2 ^ 10) :
    widenMagnitude m = (102 + m.log2) * 2 ^ 23 + m * 2 ^ (23 - m.log2) ∧
      2 ^ 23 ≤ m * 2 ^ (23 - m.log2) ∧ m * 2 ^ (23 - m.log2) < 2 ^ 24 := by
  have hlog : m.log2 < 10 := (Nat.log2_lt hpos.ne').mpr hlt
  have hlow : 2 ^ 23 ≤ m * 2 ^ (23 - m.log2) := by
    calc 2 ^ 23 = 2 ^ m.log2 * 2 ^ (23 - m.log2) := by
          rw [← Nat.pow_add, Nat.add_sub_cancel' (by omega)]
      _ ≤ _ := Nat.mul_le_mul_right _ (Nat.log2_self_le hpos.ne')
  have hhigh : m * 2 ^ (23 - m.log2) < 2 ^ 24 := by
    calc m * 2 ^ (23 - m.log2) < 2 ^ (m.log2 + 1) * 2 ^ (23 - m.log2) :=
          Nat.mul_lt_mul_of_pos_right Nat.lt_log2_self (Nat.two_pow_pos _)
      _ = 2 ^ 24 := by rw [← Nat.pow_add, show m.log2 + 1 + (23 - m.log2) = 24 by omega]
  refine ⟨?_, hlow, hhigh⟩
  have hmask : m &&& 0x3FF = m := by
    rw [and_fraction16, Nat.mod_eq_of_lt hlt]
  have hshift : 14 + (9 - m.log2) = 23 - m.log2 := by omega
  have hexponent : m / 2 ^ 10 = 0 := Nat.div_eq_of_lt hlt
  have hfraction : m * 2 ^ (23 - m.log2) &&& 0x7FFFFF = m * 2 ^ (23 - m.log2) - 2 ^ 23 := by
    rw [and_fraction32]
    omega
  rw [widenMagnitude, Nat.shiftRight_eq_div_pow, hmask, hexponent, if_neg hpos.ne',
    if_neg (by decide), if_pos rfl]
  change (112 - (9 - m.log2)) <<< 23 ||| (m <<< (14 + (9 - m.log2)) &&& 0x7FFFFF) = _
  rw [hshift, Nat.shiftLeft_eq m, hfraction, or_eq_add (by omega)]
  omega

/-- Widening keeps the value of a finite magnitude. -/
theorem units_widenMagnitude (h : m < Format.binary16.infinity) :
    Format.binary32.units (widenMagnitude m) = Format.binary16.units m * 2 ^ 125 ∧
      widenMagnitude m < Format.binary32.infinity := by
  have hinfinity : Format.binary32.infinity = 255 * 2 ^ 23 := rfl
  have hexponent : m / 2 ^ 10 < 31 := by
    rw [Nat.div_lt_iff_lt_mul (Nat.two_pow_pos _)]
    exact h
  rcases Nat.eq_zero_or_pos (m / 2 ^ 10) with hzero | hnormal
  · have hlt : m < 2 ^ 10 := by omega
    rw [Format.binary16.units_of_lt hlt]
    rcases Nat.eq_zero_or_pos m with rfl | hpos
    · exact ⟨rfl, by decide⟩
    obtain ⟨hwiden, hlow, hhigh⟩ := widenMagnitude_of_subnormal hpos hlt
    have hlog : m.log2 < 10 := (Nat.log2_lt hpos.ne').mpr hlt
    constructor
    · rw [hwiden]
      refine (Format.units_binade (.inr hlow) (Nat.le_of_lt hhigh)).trans ?_
      rw [Nat.mul_assoc, ← Nat.pow_add, show 23 - m.log2 + (102 + m.log2) = 125 by omega]
    · rw [hwiden, hinfinity]
      omega
  · have hfraction := Nat.mod_lt m (Nat.two_pow_pos 10)
    have hunits : Format.binary16.units m = (2 ^ 10 + m % 2 ^ 10) * 2 ^ (m / 2 ^ 10 - 1) :=
      Format.binary16.units_of_le (show 2 ^ 10 ≤ m by omega)
    rw [widenMagnitude_of_normal hnormal hexponent]
    constructor
    · have hlow : 2 ^ 23 ≤ (2 ^ 10 + m % 2 ^ 10) * 2 ^ 13 := by omega
      have hhigh : (2 ^ 10 + m % 2 ^ 10) * 2 ^ 13 ≤ 2 ^ 24 := by omega
      refine (Format.units_binade (.inr hlow) hhigh).trans ?_
      rw [hunits, Nat.mul_assoc, Nat.mul_assoc, ← Nat.pow_add, ← Nat.pow_add,
        show 13 + (m / 2 ^ 10 + 111) = m / 2 ^ 10 - 1 + 125 by omega]
    · rw [hinfinity]
      omega

theorem widenMagnitude_le (h : m ≤ Format.binary16.infinity) :
    widenMagnitude m ≤ Format.binary32.infinity := by
  rcases Nat.lt_or_eq_of_le h with hlt | rfl
  · exact Nat.le_of_lt (units_widenMagnitude hlt).2
  · decide

/-- What was widened is found again, because its value needs no rounding. -/
theorem narrowMagnitude_widenMagnitude (h : m ≤ Format.binary16.infinity) :
    narrowMagnitude (widenMagnitude m) = m := by
  rcases Nat.lt_or_eq_of_le h with hlt | rfl
  · obtain ⟨hunits, hfinite⟩ := units_widenMagnitude hlt
    have hexact : Format.binary16.rounded (Format.binary16.units m * 2 ^ 125) (2 ^ 125) = m :=
      (Format.nearestEven_rounded (by decide) (Nat.two_pow_pos _) _).eq_of_exact
        (Nat.two_pow_pos _)
    rw [narrowMagnitude_eq_nearest hfinite, hunits, Format.nearest_eq, hexact, Nat.min_eq_right h]
  · decide

theorem widenMagnitude_of_nan (h : Format.binary16.infinity < m)
    (hlt : m < Format.binary16.signBit) :
    widenMagnitude m = 0x7FC00000 ||| (m % 2 ^ 10) <<< 13 := by
  have hinfinity : 31 * 2 ^ 10 < m := h
  have hsign : m < 2 ^ 15 := hlt
  have hexponent : m / 2 ^ 10 = 31 := by omega
  rw [widenMagnitude, Nat.shiftRight_eq_div_pow, and_fraction16, hexponent, if_neg (by omega),
    if_pos rfl, if_neg (by omega)]

theorem widenMagnitude_bounds_of_nan (h : Format.binary16.infinity < m)
    (hlt : m < Format.binary16.signBit) :
    Format.binary32.infinity < widenMagnitude m ∧ widenMagnitude m < Format.binary32.signBit := by
  have hpayload : (m % 2 ^ 10) <<< 13 < 2 ^ 31 := by
    have hmod := Nat.mod_lt m (Nat.two_pow_pos 10)
    rw [Nat.shiftLeft_eq]
    omega
  rw [widenMagnitude_of_nan h hlt]
  constructor
  · exact Nat.lt_of_lt_of_le (by decide +kernel) Nat.left_le_or
  · exact Nat.or_lt_two_pow (by decide +kernel) hpayload

/-- A NaN keeps its payload in the wider format, and on the way back it loses only zeros. -/
theorem narrowMagnitude_widenMagnitude_of_nan (h : Format.binary16.infinity < m)
    (hlt : m < Format.binary16.signBit) :
    narrowMagnitude (widenMagnitude m) = m ||| Format.binary16.quietBit := by
  obtain ⟨hnan, hwide⟩ := widenMagnitude_bounds_of_nan h hlt
  have hpayload := Nat.mod_lt m (Nat.two_pow_pos 10)
  have hm : m = 0x7C00 ||| m % 2 ^ 10 := by
    have hinfinity : 31 * 2 ^ 10 < m := h
    have hsign : m < 2 ^ 15 := hlt
    have hadd : 0x7C00 + m % 2 ^ 10 = 0x7C00 ||| m % 2 ^ 10 :=
      Nat.two_pow_add_eq_or_of_lt hpayload 31
    omega
  have hback : (0x7FC00000 ||| (m % 2 ^ 10) <<< 13) % 2 ^ 23 / 2 ^ 13 = 0x200 ||| m % 2 ^ 10 := by
    have hshift : (m % 2 ^ 10) <<< 13 % 2 ^ 23 / 2 ^ 13 = m % 2 ^ 10 := by
      rw [Nat.shiftLeft_eq, Nat.mod_eq_of_lt (by omega), Nat.mul_div_cancel _ (Nat.two_pow_pos 13)]
    rw [Nat.or_mod_two_pow, Nat.or_div_two_pow, hshift]
  have hquiet : Format.binary16.quietBit = 0x200 := rfl
  rw [narrowMagnitude_of_nan hnan hwide, widenMagnitude_of_nan h hlt, hback, hquiet]
  conv_rhs => rw [hm, Nat.or_comm _ 0x200]
  rw [← Nat.or_assoc, ← Nat.or_assoc]
  rfl
end Widening

section Convert

variable {m : Nat}

theorem or_quietBit {k payload : Nat} (h : payload < 2 * 2 ^ k) :
    2 ^ k ||| payload =
      if payload % (2 * 2 ^ k) < 2 ^ k then payload + 2 ^ k else payload := by
  have hor : ∀ rest < 2 ^ k, 2 ^ k ||| rest = 2 ^ k + rest := by
    intro rest hrest
    have hadd := Nat.two_pow_add_eq_or_of_lt hrest 1
    rw [Nat.mul_one] at hadd
    exact hadd.symm
  rw [Nat.mod_eq_of_lt h]
  split
  · rename_i hsignalling
    rw [hor payload hsignalling, Nat.add_comm]
  · rename_i hquiet
    obtain ⟨rest, rfl⟩ := Nat.exists_eq_add_of_le (Nat.not_lt.mp hquiet)
    rw [← hor rest (by omega), ← Nat.or_assoc, Nat.or_self]

/-- Infinity with a payload that is made quiet. -/
theorem infinity_or_quietBit {top k payload : Nat} (h : payload < 2 * 2 ^ k) :
    top * (2 * 2 ^ k) ||| 2 ^ k ||| payload = top * (2 * 2 ^ k) +
      if payload % (2 * 2 ^ k) < 2 ^ k then payload + 2 ^ k else payload := by
  rw [← or_quietBit h, Nat.or_assoc, ← Nat.pow_succ']
  have hlt : 2 ^ k ||| payload < 2 ^ (k + 1) :=
    Nat.or_lt_two_pow (Nat.pow_lt_pow_succ Nat.one_lt_two) (by rwa [Nat.pow_succ'])
  rw [Nat.mul_comm, Nat.two_pow_add_eq_or_of_lt hlt]

theorem convertMagnitude_narrow (m : Nat) : Word.convertMagnitude .binary32 .binary16 m =
    Format.binary16.nearest (Format.binary32.units m) (2 ^ 125) := by
  rw [Word.convertMagnitude, scale_binary32, Nat.sub_add_eq, Nat.sub_self, Nat.zero_sub,
    Nat.add_sub_cancel_left, Nat.pow_eq, Nat.pow_eq, Nat.pow_zero, Nat.mul_one]

theorem convertMagnitude_widen (m : Nat) : Word.convertMagnitude .binary16 .binary32 m =
    Format.binary32.nearest (Format.binary16.units m * 2 ^ 125) 1 := by
  rw [Word.convertMagnitude, scale_binary32, Nat.sub_add_eq, Nat.sub_self, Nat.zero_sub,
    Nat.add_sub_cancel_left, Nat.pow_eq, Nat.pow_eq, Nat.pow_zero]

/-- Shifting is converting, for every magnitude below the sign bit. -/
theorem narrowMagnitude_eq (hlt : m < Format.binary32.signBit) :
    narrowMagnitude m =
      if Format.binary32.infinity < m then Word.convertNaN .binary32 .binary16 m
      else if m = Format.binary32.infinity then Format.binary16.infinity
      else Word.convertMagnitude .binary32 .binary16 m := by
  rcases Nat.lt_trichotomy m Format.binary32.infinity with hfinite | rfl | hnan
  · rw [if_neg (Nat.lt_asymm hfinite), if_neg (Nat.ne_of_lt hfinite),
      narrowMagnitude_eq_nearest hfinite, convertMagnitude_narrow]
  · decide
  · have hinfinity : 255 * 2 ^ 23 < m := hnan
    have hsign : m < 2 ^ 31 := hlt
    have hpayload : (m - 255 * 2 ^ 23) * 2 ^ 10 / 2 ^ 23 = m % 2 ^ 23 / 2 ^ 13 := by omega
    have hbound : m % 2 ^ 23 / 2 ^ 13 < 2 * 2 ^ 9 := by omega
    have hbit : Format.binary16.quietBit = 2 ^ 9 := Format.binary16.quietBit_eq
    have htop : Format.binary16.infinity = 31 * (2 * 2 ^ 9) := rfl
    have htop' : Format.binary32.infinity = 255 * 2 ^ 23 := rfl
    have hbits : 0x7E00 = 31 * (2 * 2 ^ 9) ||| 2 ^ 9 := by decide
    rw [if_pos hnan, narrowMagnitude_of_nan hnan hlt, Word.convertNaN, Nat.pow_eq, Nat.pow_eq,
      hbit, htop, htop', hpayload, hbits]
    exact infinity_or_quietBit hbound

theorem widenMagnitude_eq (hlt : m < Format.binary16.signBit) :
    widenMagnitude m =
      if Format.binary16.infinity < m then Word.convertNaN .binary16 .binary32 m
      else if m = Format.binary16.infinity then Format.binary32.infinity
      else Word.convertMagnitude .binary16 .binary32 m := by
  rcases Nat.lt_trichotomy m Format.binary16.infinity with hfinite | rfl | hnan
  · obtain ⟨hunits, hlt'⟩ := units_widenMagnitude hfinite
    have hexact : Format.binary32.rounded (Format.binary32.units (widenMagnitude m) * 1) 1 =
        widenMagnitude m :=
      (Format.nearestEven_rounded (by decide) Nat.one_pos _).eq_of_exact Nat.one_pos
    rw [if_neg (Nat.lt_asymm hfinite), if_neg (Nat.ne_of_lt hfinite), convertMagnitude_widen,
      ← hunits, Format.nearest_eq, ← Nat.mul_one (Format.binary32.units _), hexact,
      Nat.min_eq_right (Nat.le_of_lt hlt')]
  · decide
  · have hinfinity : 31 * 2 ^ 10 < m := hnan
    have hsign : m < 2 ^ 15 := hlt
    have hpayload : (m - 31 * 2 ^ 10) * 2 ^ 23 / 2 ^ 10 = m % 2 ^ 10 * 2 ^ 13 := by omega
    have hbound : m % 2 ^ 10 * 2 ^ 13 < 2 * 2 ^ 22 := by
      rw [← Nat.pow_succ', Nat.pow_add 2 10 13]
      exact Nat.mul_lt_mul_of_pos_right (Nat.mod_lt _ (Nat.two_pow_pos 10)) (Nat.two_pow_pos 13)
    have hbit : Format.binary32.quietBit = 2 ^ 22 := Format.binary32.quietBit_eq
    have htop : Format.binary16.infinity = 31 * 2 ^ 10 := rfl
    have htop' : Format.binary32.infinity = 255 * (2 * 2 ^ 22) := by decide +kernel
    have hbits : 0x7FC00000 = 255 * (2 * 2 ^ 22) ||| 2 ^ 22 := by decide +kernel
    rw [if_pos hnan, widenMagnitude_of_nan hnan hlt, Word.convertNaN, Nat.pow_eq, Nat.pow_eq,
      hbit, htop, htop', hpayload, Nat.shiftLeft_eq, hbits]
    exact infinity_or_quietBit hbound

end Convert

end VectorClient.Ieee
