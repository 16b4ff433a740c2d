import VectorClient.Proofs.Ieee.Widening

/-!
# Rounding to nearest

The values of the magnitudes in one binade are multiples of the same count of units, and the one
behind them is the first value of the next binade. An exact value lies between two such multiples,
so the nearest magnitude is the nearest multiple, also where rounding carries into the next binade.
Of two magnitudes at the same distance it is the even one, because the multiples in a binade are
even exactly if their magnitudes are. `NearestEven` says no more than that. There is one such
magnitude only, and the order of rounded values and the bound behind which they are infinite follow
from it alone.
-/

namespace VectorClient.Ieee

section HalfEven

theorem roundHalfEven_mul_right {c : Nat} (hc : 0 < c) (n d : Nat) :
    roundHalfEven (n * c) (d * c) = roundHalfEven n d := by
  have hlt : 2 * (n % d * c) < d * c ↔ 2 * (n % d) < d := by
    rw [← Nat.mul_assoc, Nat.mul_lt_mul_right hc]
  have heq : 2 * (n % d * c) = d * c ↔ 2 * (n % d) = d := by
    rw [← Nat.mul_assoc, Nat.mul_right_cancel_iff hc]
  simp only [roundHalfEven, Nat.mul_div_mul_right _ _ hc, Nat.mul_mod_mul_right, hlt, heq]

/-- An even multiple of the divisor does not matter to where a tie goes. -/
theorem roundHalfEven_mul_add {d : Nat} (hd : 0 < d) (k n : Nat) :
    roundHalfEven (2 * k * d + n) d = 2 * k + roundHalfEven n d := by
  have hdiv : (2 * k * d + n) / d = 2 * k + n / d := by
    rw [Nat.add_comm, Nat.add_mul_div_right _ _ hd, Nat.add_comm]
  have hmod : (2 * k * d + n) % d = n % d := by
    rw [Nat.add_comm, Nat.add_mul_mod_self_right]
  rw [roundHalfEven, roundHalfEven, hdiv, hmod, Nat.mul_add_mod]
  split <;> rfl

theorem roundHalfEven_eq_zero {n d : Nat} (h : 2 * n < d) : roundHalfEven n d = 0 := by
  have hlt : n < d := by omega
  rw [roundHalfEven, Nat.mod_eq_of_lt hlt, if_pos (.inl h), Nat.div_eq_of_lt hlt]

theorem roundHalfEven_le (n d : Nat) : roundHalfEven n d ≤ n / d + 1 := by
  rw [roundHalfEven]
  split <;> omega

end HalfEven

namespace Format

variable {f : Format} {n n' d m m' r r' : Nat}

theorem units_le_units (h : m ≤ m') : f.units m ≤ f.units m' := by
  rcases Nat.lt_or_eq_of_le h with hlt | rfl
  · exact Nat.le_of_lt (units_lt_units hlt)
  · exact Nat.le_refl _

theorem units_le_units_iff (f : Format) (m m' : Nat) : f.units m ≤ f.units m' ↔ m ≤ m' := by
  refine ⟨fun h => ?_, units_le_units⟩
  by_contra hlt
  exact Nat.not_lt.mpr h (units_lt_units (Nat.not_le.mp hlt))

/-- The values of a binade, and the first one behind it. -/
theorem units_binade {binade digits : Nat} (hlow : binade = 0 ∨ 2 ^ f.fractionBits ≤ digits)
    (hhigh : digits ≤ 2 ^ (f.fractionBits + 1)) :
    f.units (binade * 2 ^ f.fractionBits + digits) = digits * 2 ^ binade := by
  have hpos := Nat.two_pow_pos f.fractionBits
  rw [Nat.pow_succ] at hhigh
  rcases Nat.lt_or_ge digits (2 ^ f.fractionBits) with hsmall | hlarge
  · obtain rfl : binade = 0 := by omega
    rw [Nat.zero_mul, Nat.zero_add, f.units_of_lt hsmall, Nat.pow_zero, Nat.mul_one]
  rw [f.units_of_le (Nat.le_trans hlarge (Nat.le_add_left ..)), Nat.add_comm (binade * _),
    Nat.add_mul_div_right _ _ hpos, Nat.add_mul_mod_self_right]
  rcases Nat.lt_or_eq_of_le hhigh with hlt | rfl
  · have hdiv : digits / 2 ^ f.fractionBits = 1 := Nat.div_eq_of_lt_le (by omega) (by omega)
    have hmod := Nat.div_add_mod digits (2 ^ f.fractionBits)
    rw [hdiv, Nat.mul_one] at hmod
    rw [hdiv, hmod, Nat.add_sub_cancel_left]
  · rw [Nat.mul_mod_right, Nat.add_zero, Nat.mul_div_cancel_left _ hpos, Nat.mul_assoc,
      ← Nat.pow_succ']
    congr 2
    omega

/-- From each value to the next one it is a step of the binade. -/
theorem units_succ (f : Format) (m : Nat) :
    f.units (m + 1) = f.units m + 2 ^ (m / 2 ^ f.fractionBits - 1) := by
  have hpos := Nat.two_pow_pos f.fractionBits
  have hmod := Nat.mod_lt m hpos
  have hdiv := Nat.div_add_mod m (2 ^ f.fractionBits)
  rcases Nat.lt_or_ge m (2 ^ f.fractionBits) with hsmall | hlarge
  · have hnext : f.units (0 * 2 ^ f.fractionBits + (m + 1)) = (m + 1) * 2 ^ 0 :=
      units_binade (.inl rfl) (by rw [Nat.pow_succ]; omega)
    rw [Nat.zero_mul, Nat.zero_add, Nat.pow_zero, Nat.mul_one] at hnext
    rw [hnext, f.units_of_lt hsmall, Nat.div_eq_of_lt hsmall]
    rfl
  · have hone : 0 < m / 2 ^ f.fractionBits := Nat.div_pos hlarge hpos
    have hplace : m + 1 = (m / 2 ^ f.fractionBits - 1) * 2 ^ f.fractionBits +
        (2 ^ f.fractionBits + m % 2 ^ f.fractionBits + 1) := by
      rw [Nat.sub_mul, Nat.one_mul, Nat.mul_comm]
      have hle : 2 ^ f.fractionBits * 1 ≤ 2 ^ f.fractionBits * (m / 2 ^ f.fractionBits) :=
        Nat.mul_le_mul_left _ hone
      omega
    rw [hplace, f.units_binade (.inr (by omega)) (by rw [Nat.pow_succ]; omega),
      f.units_of_le hlarge, Nat.add_mul _ 1, Nat.one_mul]

/-- The magnitude that is nearest to `n / d` units, if the format had no infinity. -/
def rounded (f : Format) (n d : Nat) : Nat :=
  f.binade (n / d) * 2 ^ f.fractionBits + roundHalfEven n (d * 2 ^ f.binade (n / d))

theorem nearest_eq (f : Format) (n d : Nat) : f.nearest n d = min f.infinity (f.rounded n d) := rfl

theorem rounded_eq_zero {n d : Nat} (h : 2 * n < d) : f.rounded n d = 0 := by
  have hdiv : n / d = 0 := Nat.div_eq_of_lt (by omega)
  have hbinade : f.binade 0 = 0 := by rw [binade, Nat.log2_zero, Nat.zero_sub]
  rw [rounded, hdiv, hbinade, Nat.zero_mul, Nat.pow_zero, Nat.mul_one, roundHalfEven_eq_zero h]

/-- A number of digits in front of zeros, divided by a power of two: its binade is known. -/
theorem rounded_digits (bits : Nat) {digits : Nat} (hlow : 2 ^ bits ≤ digits)
    (hhigh : digits < 2 ^ (bits + 1)) (zeros k : Nat) :
    f.rounded (digits * 2 ^ zeros) (2 ^ k) =
      (bits + zeros - k - f.fractionBits) * 2 ^ f.fractionBits +
        roundHalfEven (digits * 2 ^ zeros) (2 ^ k * 2 ^ (bits + zeros - k - f.fractionBits)) := by
  have hlog : Nat.log 2 (digits * 2 ^ zeros) = bits + zeros := by
    apply Nat.log_eq_of_pow_le_of_lt_pow
    · rw [Nat.pow_add]
      exact Nat.mul_le_mul_right _ hlow
    · rw [Nat.add_right_comm, Nat.pow_add]
      exact Nat.mul_lt_mul_of_pos_right hhigh (Nat.two_pow_pos _)
  have hbinade : f.binade (digits * 2 ^ zeros / 2 ^ k) = bits + zeros - k - f.fractionBits := by
    rw [binade, Nat.log2_eq_log_two, Nat.log_div_base_pow, hlog]
  rw [rounded, hbinade]

/-- How far a magnitude is from `n / d` units, counted in parts of `1 / d`. -/
def distance (f : Format) (n d m : Nat) : Nat := ((n : Int) - f.units m * d).natAbs

theorem distance_of_le (h : f.units m * d ≤ n) : f.distance n d m = n - f.units m * d := by
  rw [distance]
  omega

theorem distance_of_ge (h : n ≤ f.units m * d) : f.distance n d m = f.units m * d - n := by
  rw [distance]
  omega

@[simp] theorem units_zero (f : Format) : f.units 0 = 0 := f.units_of_lt (Nat.two_pow_pos _)

@[simp] theorem distance_zero (f : Format) (n d : Nat) : f.distance n d 0 = n := by
  rw [distance, units_zero]
  omega

theorem distance_mul_left (f : Format) (k n d m : Nat) :
    f.distance (k * n) (k * d) m = k * f.distance n d m := by
  rw [distance, distance, ← Int.natAbs_natCast k, ← Int.natAbs_mul, Int.natAbs_natCast, Int.mul_sub]
  push_cast
  rw [Int.mul_left_comm]

/-- Of two magnitudes the lower one is nearer before the middle between them, and the higher one
behind it. -/
theorem distance_cases (f : Format) (n : Nat) (hd : 0 < d) (h : m < m') :
    2 * n < f.units m * d + f.units m' * d ∧ f.distance n d m < f.distance n d m' ∨
    2 * n = f.units m * d + f.units m' * d ∧ f.distance n d m = f.distance n d m' ∨
    f.units m * d + f.units m' * d < 2 * n ∧ f.distance n d m' < f.distance n d m := by
  have hunits := Nat.mul_lt_mul_of_pos_right (units_lt_units (f := f) h) hd
  rcases Nat.le_total n (f.units m * d) with hlow | hlow
  · rw [distance_of_ge hlow, distance_of_ge (by omega)]
    omega
  rcases Nat.le_total n (f.units m' * d) with hhigh | hhigh
  · rw [distance_of_le hlow, distance_of_ge hhigh]
    omega
  · rw [distance_of_le hlow, distance_of_le hhigh]
    omega

/-- No magnitude is nearer to `n / d` units, and if another one is as near, this one is even. -/
structure NearestEven (f : Format) (n d r : Nat) : Prop where
  least : ∀ m, f.distance n d r ≤ f.distance n d m
  even : ∀ m, m ≠ r → f.distance n d m = f.distance n d r → r % 2 = 0

/-- Of two magnitudes one behind the other the nearer one to a value between them is nearest of
all. Halfway between them the even one is. -/
theorem nearestEven_of_between {low rest step : Nat} (hd : 0 < d)
    (hunits : n = f.units low * d + rest)
    (hnext : f.units (low + 1) * d = f.units low * d + step) (hrest : rest < step)
    (hr : r = low ∧ (2 * rest < step ∨ 2 * rest = step ∧ low % 2 = 0) ∨
      r = low + 1 ∧ (step < 2 * rest ∨ 2 * rest = step ∧ low % 2 = 1)) :
    f.NearestEven n d r := by
  have hbelow : ∀ {m}, m < low → f.units m * d < f.units low * d :=
    fun hm => Nat.mul_lt_mul_of_pos_right (units_lt_units hm) hd
  have habove : ∀ {m}, low + 1 < m → f.units (low + 1) * d < f.units m * d :=
    fun hm => Nat.mul_lt_mul_of_pos_right (units_lt_units hm) hd
  have hlow : f.distance n d low = rest := by
    rw [distance_of_le (by omega)]
    omega
  have hhigh : f.distance n d (low + 1) = step - rest := by
    rw [distance_of_ge (by omega)]
    omega
  have hothers : ∀ m, m = low ∨ m = low + 1 ∨ min rest (step - rest) < f.distance n d m := by
    intro m
    rcases Nat.lt_trichotomy m low with hlt | rfl | hgt
    · have := hbelow hlt
      rw [distance_of_le (by omega)]
      omega
    · exact .inl rfl
    · rcases Nat.lt_or_eq_of_le hgt with hlt | rfl
      · have := habove hlt
        rw [distance_of_ge (by omega)]
        omega
      · exact .inr (.inl rfl)
  constructor
  · intro m
    rcases hothers m with rfl | rfl | hfar <;> rcases hr with ⟨rfl, _⟩ | ⟨rfl, _⟩ <;> omega
  · intro m hne hsame
    rcases hothers m with rfl | rfl | hfar <;> rcases hr with ⟨rfl, _⟩ | ⟨rfl, _⟩ <;> omega

theorem nearestEven_exact (f : Format) (m : Nat) (hd : 0 < d) :
    f.NearestEven (f.units m * d) d m := by
  have hstep : f.units (m + 1) * d =
      f.units m * d + 2 ^ (m / 2 ^ f.fractionBits - 1) * d := by
    rw [f.units_succ, Nat.add_mul]
  have hpos : 0 < 2 ^ (m / 2 ^ f.fractionBits - 1) * d := Nat.mul_pos (Nat.two_pow_pos _) hd
  exact nearestEven_of_between hd (Nat.add_zero _).symm hstep hpos (.inl ⟨rfl, .inl hpos⟩)

/-- A magnitude is nearest to what lies between the middles to its neighbours. The middles
themselves count for even magnitudes only. -/
theorem nearestEven_of_middles (hd : 0 < d)
    (hlow : ∀ k, m = k + 1 → f.units k * d + f.units m * d ≤ 2 * n)
    (hhigh : 2 * n ≤ f.units m * d + f.units (m + 1) * d)
    (hodd : m % 2 = 1 → 2 * n ≠ f.units m * d + f.units (m + 1) * d ∧
      ∀ k, m = k + 1 → 2 * n ≠ f.units k * d + f.units m * d) :
    f.NearestEven n d m := by
  have hbelow : ∀ {m'}, m' < m → ∃ k, m = k + 1 ∧ f.units m' * d ≤ f.units k * d := by
    intro m' hlt
    obtain ⟨k, rfl⟩ := Nat.exists_eq_succ_of_ne_zero (Nat.ne_zero_of_lt hlt)
    exact ⟨k, rfl, Nat.mul_le_mul_right d (units_le_units (Nat.le_of_lt_succ hlt))⟩
  have habove : ∀ {m'}, m < m' → f.units (m + 1) * d ≤ f.units m' * d :=
    fun hlt => Nat.mul_le_mul_right d (units_le_units hlt)
  constructor
  · intro m'
    rcases Nat.lt_trichotomy m' m with hlt | rfl | hgt
    · obtain ⟨k, hk, hle⟩ := hbelow hlt
      have hmiddle := hlow k hk
      have hcases := f.distance_cases n hd hlt
      omega
    · exact Nat.le_refl _
    · have hle := habove hgt
      have hcases := f.distance_cases n hd hgt
      omega
  · intro m' hne hsame
    by_contra hparity
    obtain ⟨hnext, hprevious⟩ := hodd (by omega)
    rcases Nat.lt_or_gt_of_ne hne with hlt | hgt
    · obtain ⟨k, hk, hle⟩ := hbelow hlt
      have hmiddle := hlow k hk
      have hmiddle' := hprevious k hk
      have hcases := f.distance_cases n hd hlt
      omega
    · have hle := habove hgt
      have hcases := f.distance_cases n hd hgt
      omega

/-- An exact value lies between two magnitudes, one behind the other. -/
theorem units_bracket (f : Format) (n d : Nat) :
    let low := f.binade (n / d) * 2 ^ f.fractionBits + n / (d * 2 ^ f.binade (n / d))
    f.units low * d = n - n % (d * 2 ^ f.binade (n / d)) ∧
      f.units (low + 1) * d = f.units low * d + d * 2 ^ f.binade (n / d) := by
  intro low
  have hhigh := f.div_binade_lt (n / d)
  have hlow : f.binade (n / d) = 0 ∨ 2 ^ f.fractionBits ≤ n / d / 2 ^ f.binade (n / d) := by
    rcases Nat.eq_zero_or_pos (f.binade (n / d)) with hzero | hpos
    · exact .inl hzero
    · exact .inr (f.le_div_binade hpos)
  rw [Nat.div_div_eq_div_mul] at hhigh hlow
  have hunits : f.units low * d =
      n / (d * 2 ^ f.binade (n / d)) * (d * 2 ^ f.binade (n / d)) := by
    rw [units_binade hlow (Nat.le_of_lt hhigh), Nat.mul_comm d, Nat.mul_assoc]
  have hnext : f.units (low + 1) * d =
      (n / (d * 2 ^ f.binade (n / d)) + 1) * (d * 2 ^ f.binade (n / d)) := by
    rw [Nat.add_assoc, units_binade (hlow.imp_right Nat.le_succ_of_le) hhigh, Nat.mul_comm d,
      Nat.mul_assoc]
  refine ⟨?_, ?_⟩
  · rw [hunits, Nat.mul_comm]
    have hdiv := Nat.div_add_mod n (d * 2 ^ f.binade (n / d))
    omega
  · rw [hnext, hunits, Nat.add_mul, Nat.one_mul]

theorem nearestEven_rounded (hfraction : 0 < f.fractionBits) (hd : 0 < d) (n : Nat) :
    f.NearestEven n d (f.rounded n d) := by
  obtain ⟨hunits, hnext⟩ := f.units_bracket n d
  have hle := Nat.mod_le n (d * 2 ^ f.binade (n / d))
  have hparity : (f.binade (n / d) * 2 ^ f.fractionBits + n / (d * 2 ^ f.binade (n / d))) % 2 =
      n / (d * 2 ^ f.binade (n / d)) % 2 := by
    obtain ⟨k, hk⟩ : 2 ∣ f.binade (n / d) * 2 ^ f.fractionBits :=
      Nat.dvd_trans (Nat.pow_dvd_pow 2 hfraction) (Nat.dvd_mul_left ..)
    rw [hk, Nat.mul_add_mod]
  refine nearestEven_of_between hd (by omega) hnext
    (Nat.mod_lt n (Nat.mul_pos hd (Nat.two_pow_pos _))) ?_
  rw [rounded, roundHalfEven]
  split <;> omega

namespace NearestEven

/-- Two magnitudes as near as can be would both be even, and the odd one in between nearer. -/
theorem le_of_nearestEven (h : f.NearestEven n d r) (h' : f.NearestEven n d r') (hd : 0 < d) :
    r ≤ r' := by
  by_contra hgt
  have hlt := Nat.not_le.mp hgt
  have hleast := h.least r'
  have hleast' := h'.least r
  have heven := h.even r' (Nat.ne_of_lt hlt) (by omega)
  have heven' := h'.even r (Nat.ne_of_gt hlt) (by omega)
  have hbetween : r' + 1 < r := by omega
  have hunits := Nat.mul_lt_mul_of_pos_right (units_lt_units (f := f) hbetween) hd
  have hcases := f.distance_cases n hd hlt
  have hnearer := f.distance_cases n hd (Nat.lt_add_one r')
  have hleast'' := h'.least (r' + 1)
  omega

theorem unique (h : f.NearestEven n d r) (h' : f.NearestEven n d r') (hd : 0 < d) : r = r' :=
  Nat.le_antisymm (h.le_of_nearestEven h' hd) (h'.le_of_nearestEven h hd)

/-- A value that needs no rounding is not rounded. -/
theorem eq_of_exact (h : f.NearestEven (f.units m * d) d r) (hd : 0 < d) : r = m :=
  h.unique (f.nearestEven_exact m hd) hd

/-- A factor of the numerator and the denominator does not matter. -/
theorem of_mul {k : Nat} (hk : 0 < k) (h : f.NearestEven (k * n) (k * d) m) :
    f.NearestEven n d m := by
  constructor
  · intro m'
    have hleast := h.least m'
    rw [distance_mul_left, distance_mul_left] at hleast
    exact Nat.le_of_mul_le_mul_left hleast hk
  · intro m' hne hsame
    refine h.even m' hne ?_
    rw [distance_mul_left, distance_mul_left, hsame]

/-- Rounding keeps the order. -/
theorem le_of_lt (h : f.NearestEven n d r) (h' : f.NearestEven n' d r') (hd : 0 < d)
    (hlt : n < n') : r ≤ r' := by
  by_contra hgt
  have hcases := f.distance_cases n hd (Nat.not_le.mp hgt)
  have hcases' := f.distance_cases n' hd (Nat.not_le.mp hgt)
  have hleast := h.least r'
  have hleast' := h'.least r
  omega

/-- From the middle between an odd magnitude and the next one on, values are rounded up. -/
theorem lt_iff_of_odd (h : f.NearestEven n d r) (hd : 0 < d) (hodd : m % 2 = 1) :
    m < r ↔ f.units m * d + f.units (m + 1) * d ≤ 2 * n := by
  constructor
  · intro hlt
    have hunits := Nat.mul_le_mul_right d (units_le_units (f := f) (Nat.succ_le_of_lt hlt))
    have hcases := f.distance_cases n hd hlt
    have hleast := h.least m
    rw [Nat.succ_eq_add_one] at hunits
    omega
  · intro hmiddle
    by_contra hle
    have hcases := f.distance_cases n hd (Nat.lt_add_one_of_le (Nat.not_lt.mp hle))
    have hleast := h.least (m + 1)
    rcases Nat.lt_or_eq_of_le (Nat.not_lt.mp hle) with hlt | rfl
    · have hunits := Nat.mul_lt_mul_of_pos_right (units_lt_units (f := f) hlt) hd
      omega
    · -- halfway, where the even one is required
      have heven := h.even (r + 1) (Nat.succ_ne_self r) (by omega)
      omega

end NearestEven

/-- What is nearest and finite is what rounding gives. -/
theorem nearest_eq_of_nearestEven (hfraction : 0 < f.fractionBits) (hd : 0 < d)
    (h : f.NearestEven n d m) (hm : m ≤ f.infinity) : f.nearest n d = m := by
  rw [nearest_eq, (nearestEven_rounded hfraction hd n).unique h hd]
  exact Nat.min_eq_right hm

theorem nearest_mono (hfraction : 0 < f.fractionBits) (hd : 0 < d) (h : n ≤ n') :
    f.nearest n d ≤ f.nearest n' d := by
  rcases Nat.lt_or_eq_of_le h with hlt | rfl
  · have hle := (nearestEven_rounded hfraction hd n).le_of_lt
      (nearestEven_rounded hfraction hd n') hd hlt
    rw [nearest_eq, nearest_eq]
    omega
  · exact Nat.le_refl _

end Format

end VectorClient.Ieee
