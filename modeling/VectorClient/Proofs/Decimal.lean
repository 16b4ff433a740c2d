import Mathlib.Data.List.TakeWhile
import Mathlib.Tactic.Ring
import VectorClient.Decimal.Layout
import VectorClient.Proofs.Ieee.Rounding

/-!
# Decimals read back

The ends of the interval of a magnitude are the middles between its value and those of its
neighbours, so whatever lies in the interval rounds to the magnitude. A shortest decimal lies
there: the search for one stops at a grid point in the interval, and without such a point the
exact value is written. Its text gives back the digits and the places behind the point, hence
the magnitude.
-/

namespace VectorClient

open Ieee

namespace Decimal

variable {f : Format} {tie : Tie} {i : Interval} {m x c k : Nat} {p : Int} {d : Decimal}

namespace Interval

/-- The upper end is the middle between the value and the next one. -/
theorem high_ofMagnitude (f : Format) (m : Nat) :
    (ofMagnitude f m).high = 2 * f.units m + 2 * f.units (m + 1) := by
  rw [f.units_succ]
  simp only [ofMagnitude, Nat.pow_eq]
  omega

/-- The lower end is the middle between the value and the one before it. -/
theorem low_ofMagnitude (f : Format) (m : Nat) :
    (ofMagnitude f (m + 1)).low = 2 * f.units m + 2 * f.units (m + 1) := by
  have hnext := f.units_succ m
  have hpos := Nat.two_pow_pos f.fractionBits
  simp only [ofMagnitude, Nat.pow_eq]
  split
  · rename_i hnarrow
    obtain ⟨hfirst, hbinade⟩ := hnarrow
    have hdiv : (m + 1) / 2 ^ f.fractionBits = m / 2 ^ f.fractionBits + 1 := by
      rw [Nat.succ_div, if_pos (Nat.dvd_of_mod_eq_zero hfirst)]
    rw [hdiv, Nat.add_sub_cancel]
    have hstep : 2 ^ (m / 2 ^ f.fractionBits) = 2 * 2 ^ (m / 2 ^ f.fractionBits - 1) := by
      rw [← Nat.pow_succ', Nat.succ_eq_add_one, Nat.sub_add_cancel (by omega)]
    omega
  · rename_i hwide
    have hbinade : (m + 1) / 2 ^ f.fractionBits - 1 = m / 2 ^ f.fractionBits - 1 := by
      rw [Nat.succ_div] at hwide ⊢
      split
      · rename_i hdvd
        rw [if_pos hdvd] at hwide
        have hfirst := Nat.mod_eq_zero_of_dvd hdvd
        omega
      · rfl
    rw [hbinade]
    omega

theorem contains_ofMagnitude (h : (ofMagnitude f m).contains x c = true) :
    (ofMagnitude f m).low * c ≤ x ∧ x ≤ (ofMagnitude f m).high * c ∧
      (m % 2 = 1 → x ≠ (ofMagnitude f m).low * c ∧ x ≠ (ofMagnitude f m).high * c) := by
  rw [contains] at h
  split at h
  · rename_i hclosed
    have heven : m % 2 = 0 := beq_iff_eq.mp hclosed
    obtain ⟨hlow, hhigh⟩ := of_decide_eq_true h
    exact ⟨hlow, hhigh, by omega⟩
  · obtain ⟨hlow, hhigh⟩ := of_decide_eq_true h
    exact ⟨by omega, by omega, by omega⟩

/-- What lies in the interval of a magnitude rounds to it. -/
theorem nearestEven (h : (ofMagnitude f m).contains x c = true) (hc : 0 < c) :
    f.NearestEven x (4 * c) m := by
  obtain ⟨hlow, hhigh, hodd⟩ := contains_ofMagnitude h
  have hend : ∀ a b, 2 * ((2 * a + 2 * b) * c) = a * (4 * c) + b * (4 * c) := by
    intro a b
    ring
  have hhighEnd := hend (f.units m) (f.units (m + 1))
  have hlowEnd : ∀ k, m = k + 1 → 2 * ((ofMagnitude f m).low * c) =
      f.units k * (4 * c) + f.units m * (4 * c) := by
    rintro k rfl
    rw [low_ofMagnitude]
    exact hend _ _
  rw [← high_ofMagnitude] at hhighEnd
  refine Format.nearestEven_of_middles (by omega) ?_ (by omega) ?_
  · intro k hk
    have hmiddle := hlowEnd k hk
    omega
  · intro hparity
    obtain ⟨hneLow, hneHigh⟩ := hodd hparity
    refine ⟨by omega, fun k hk => ?_⟩
    have hmiddle := hlowEnd k hk
    omega

theorem contains_of_gridPoint (h : i.gridPoint f tie p = some k) :
    i.contains (k * (10 ^ p.toNat * 2 ^ (f.scale + 2))) (10 ^ (-p).toNat) = true := by
  simp only [gridPoint, Nat.pow_eq] at h
  split at h
  · rename_i hbelow habove
    split at h
    · cases h
      exact hbelow
    split at h
    · cases h
      exact habove
    cases tie with
    | toEven =>
        simp only at h
        split at h
        · cases h
          exact hbelow
        · cases h
          exact habove
    | upward =>
        cases h
        exact habove
  · rename_i hbelow _
    cases h
    exact hbelow
  · rename_i _ habove
    cases h
    exact habove
  · cases h

end Interval

theorem contains_of_search {n : Nat} (h : search f tie i n p = some d) :
    i.contains (d.digits * (10 ^ d.exponent.toNat * 2 ^ (f.scale + 2)))
      (10 ^ (-d.exponent).toNat) = true := by
  fun_induction search f tie i n p with
  | case1 => cases h
  | case2 n p k hpoint =>
      cases h
      exact Interval.contains_of_gridPoint hpoint
  | case3 n p hnone ih => exact ih h

/-- A shortest decimal rounds to the magnitude that it was found for. -/
theorem nearestEven_shortest (h : shortest f tie m = d) :
    f.NearestEven (d.digits * 10 ^ d.exponent.toNat * 2 ^ f.scale) (10 ^ (-d.exponent).toNat)
      m := by
  have hpos : ∀ n, 0 < 10 ^ n := fun n => Nat.pow_pos (by decide)
  rw [shortest] at h
  split at h
  · rename_i hsearch
    subst h
    have hnearest := Interval.nearestEven (contains_of_search hsearch) (hpos _)
    refine .of_mul (k := 4) (by decide) ?_
    convert hnearest using 1
    ring
  · subst h
    have hexact := f.nearestEven_exact m (hpos f.scale)
    simp only [Nat.pow_eq, Int.neg_neg, Int.toNat_natCast, Int.toNat_neg_natCast, Nat.pow_zero,
      Nat.mul_one]
    rwa [Nat.mul_assoc, ← Nat.mul_pow]

section Texts

/-- The digits of a positional text as one number, and how many of them stand behind the point. -/
def readPositional (text : List Char) : Nat × Nat :=
  (Nat.ofDigitChars 10 (text.filter (· != '.')) 0, (text.dropWhile (· != '.')).length - 1)

variable {front back digits : List Char}

theorem readPositional_whole (h : '.' ∉ digits) :
    readPositional digits = (Nat.ofDigitChars 10 digits 0, 0) := by
  have hkeep : ∀ c ∈ digits, (c != '.') = true := fun c hc =>
    bne_iff_ne.mpr (ne_of_mem_of_not_mem hc h)
  rw [readPositional, List.filter_eq_self.mpr hkeep, List.dropWhile_eq_nil_iff.mpr hkeep]
  rfl

theorem readPositional_point (hfront : '.' ∉ front) (hback : '.' ∉ back) :
    readPositional (front ++ '.' :: back) =
      (Nat.ofDigitChars 10 (front ++ back) 0, back.length) := by
  have hkeep : ∀ c ∈ front, (c != '.') = true := fun c hc =>
    bne_iff_ne.mpr (ne_of_mem_of_not_mem hc hfront)
  have hkeep' : ∀ c ∈ back, (c != '.') = true := fun c hc =>
    bne_iff_ne.mpr (ne_of_mem_of_not_mem hc hback)
  rw [readPositional, List.filter_append, List.filter_cons_of_neg (by decide),
    List.filter_eq_self.mpr hkeep, List.filter_eq_self.mpr hkeep',
    List.dropWhile_append_of_pos hkeep, List.dropWhile_cons_of_neg (by decide),
    List.length_cons, Nat.add_sub_cancel]

theorem isDigit_of_mem_toString {n : Nat} {c : Char} (h : c ∈ (toString n).toList) :
    c.isDigit = true :=
  Nat.isDigit_of_mem_toDigits (by decide) (by decide) (Nat.toList_repr ▸ h)

theorem point_not_mem_toString (n : Nat) : '.' ∉ (toString n).toList :=
  fun h => absurd (isDigit_of_mem_toString h) (by decide)

theorem ofDigitChars_toString (n : Nat) : Nat.ofDigitChars 10 (toString n).toList 0 = n := by
  change Nat.ofDigitChars 10 n.repr.toList 0 = n
  rw [Nat.toList_repr, Nat.ofDigitChars_toDigits (by decide) (by decide)]

theorem toList_insertPoint (s : String) (places : Nat) : (insertPoint s places).toList =
    if places < s.length then
      s.toList.take (s.length - places) ++ '.' :: s.toList.drop (s.length - places)
    else ['0'] ++ '.' :: (List.replicate (places - s.length) '0' ++ s.toList) := by
  rw [insertPoint]
  split <;> simp

theorem toList_positional (d : Decimal) : (d.positional "").toList =
    if 0 ≤ d.exponent then (toString d.digits).toList ++ List.replicate d.exponent.toNat '0'
    else (insertPoint (toString d.digits) (-d.exponent).toNat).toList := by
  rw [positional]
  split <;> simp

theorem readPositional_insertPoint (n places : Nat) :
    readPositional (insertPoint (toString n) places).toList = (n, places) := by
  have hpoint : '.' ∉ (toString n).toList := point_not_mem_toString n
  rw [toList_insertPoint]
  split
  · rename_i hplaces
    rw [readPositional_point (mt List.mem_of_mem_take hpoint) (mt List.mem_of_mem_drop hpoint),
      List.take_append_drop, ofDigitChars_toString, List.length_drop, String.length_toList]
    congr 1
    omega
  · rename_i hplaces
    have hback :
        '.' ∉ List.replicate (places - (toString n).length) '0' ++ (toString n).toList := by
      rw [List.mem_append, not_or]
      exact ⟨fun h => absurd (List.eq_of_mem_replicate h) (by decide), hpoint⟩
    have hzero : Nat.ofDigitChars 10 ['0'] 0 = 0 := rfl
    rw [readPositional_point (by decide) hback, Nat.ofDigitChars_append, hzero,
      Nat.ofDigitChars_append, Nat.ofDigitChars_replicate_zero, Nat.mul_zero,
      ofDigitChars_toString, List.length_append, List.length_replicate, String.length_toList,
      Nat.sub_add_cancel (Nat.not_lt.mp hplaces)]

/-- A positional text gives back what it was written for, zeros behind the digits included. -/
theorem readPositional_positional (d : Decimal) : readPositional (d.positional "").toList =
    (d.digits * 10 ^ d.exponent.toNat, (-d.exponent).toNat) := by
  rw [toList_positional]
  split
  · rename_i hexponent
    have hwhole : '.' ∉ (toString d.digits).toList ++ List.replicate d.exponent.toNat '0' := by
      rw [List.mem_append, not_or]
      exact ⟨point_not_mem_toString _, fun h => absurd (List.eq_of_mem_replicate h) (by decide)⟩
    have hplaces : (-d.exponent).toNat = 0 := by omega
    rw [readPositional_whole hwhole, Nat.ofDigitChars_append, ofDigitChars_toString,
      Nat.ofDigitChars_replicate_zero, hplaces, Nat.mul_comm]
  · rename_i hexponent
    have hzeros : d.exponent.toNat = 0 := by omega
    rw [readPositional_insertPoint, hzeros, Nat.pow_zero, Nat.mul_one]

/-- A positional text begins with a digit. -/
theorem head_positional (d : Decimal) :
    ∃ c rest, (d.positional "").toList = c :: rest ∧ c.isDigit = true := by
  obtain ⟨c, rest, hdigits⟩ : ∃ c rest, (toString d.digits).toList = c :: rest :=
    List.exists_cons_of_ne_nil (Nat.toList_repr ▸ Nat.toDigits_ne_nil)
  have hc : c.isDigit = true := isDigit_of_mem_toString (hdigits ▸ List.mem_cons_self)
  rw [toList_positional, toList_insertPoint]
  split
  · exact ⟨c, _, by rw [hdigits, List.cons_append], hc⟩
  split
  · rename_i hplaces
    obtain ⟨k, hk⟩ := Nat.exists_eq_add_of_lt hplaces
    have hfront : (toString d.digits).length - (-d.exponent).toNat = k + 1 := by omega
    exact ⟨c, _, by rw [hfront, hdigits, List.take_succ_cons, List.cons_append], hc⟩
  · exact ⟨'0', _, rfl, by decide⟩

/-- The magnitude nearest to the number in a positional text. -/
def readMagnitude (f : Format) (text : List Char) : Nat :=
  f.nearest ((readPositional text).1 * 2 ^ f.scale) (10 ^ (readPositional text).2)

/-- A finite magnitude reads back from its shortest decimal. -/
theorem readMagnitude_shortest (hfraction : 0 < f.fractionBits) (hm : m ≤ f.infinity) (tie : Tie) :
    readMagnitude f ((shortest f tie m).positional "").toList = m := by
  rw [readMagnitude, readPositional_positional]
  exact Format.nearest_eq_of_nearestEven hfraction (Nat.pow_pos (by decide))
    (nearestEven_shortest rfl) hm

end Texts

end Decimal

end VectorClient
