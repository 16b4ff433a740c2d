import VectorClient.Iteration.BandSearch
import VectorClient.Proofs.Ieee.Monotone

/-!
# Scores of a band search

Scores that are equal as numbers count as equal. A metric puts finite scores in order,
the closest first, and the order stays when a score is widened for a request. A band that
begins at a score of the caller's own band and ends no later than it lies within it.
-/

namespace VectorClient

namespace Ieee.Word

variable {f : Format} {a b : Word f}

theorem signedUnits_eq_of_rank_eq (h : a.rank = b.rank) : a.signedUnits = b.signedUnits :=
  Int.le_antisymm (signedUnits_le_of_rank_le (Int.le_of_eq h))
    (signedUnits_le_of_rank_le (Int.le_of_eq h.symm))

theorem isFinite_neg (h : a.isFinite = true) : a.neg.isFinite = true := by
  rw [neg, isFinite,
    magnitude_ofMagnitude _ (Nat.lt_trans (magnitude_lt h) f.infinity_lt_signBit)]
  exact h

theorem signedUnits_neg (h : a.isFinite = true) : a.neg.signedUnits = -a.signedUnits := by
  have hlt := Nat.lt_trans (magnitude_lt h) f.infinity_lt_signBit
  rw [signedUnits, neg, isNegative_ofMagnitude _ hlt, magnitude_ofMagnitude _ hlt, signedUnits]
  cases a.isNegative with
  | true => exact (Int.neg_neg _).symm
  | false => rfl

theorem abs_sub_of_rank_eq (ha : a.isFinite = true) (hb : b.isFinite = true)
    (h : a.rank = b.rank) : (a - b).abs = ofMagnitude false 0 := by
  have hneg := isFinite_neg hb
  have hsum : a.signedUnits + b.neg.signedUnits = 0 := by
    rw [signedUnits_neg hb, signedUnits_eq_of_rank_eq h]
    exact Int.add_right_neg _
  have hsub : a - b = ofMagnitude (a.isNegative && b.neg.isNegative) 0 := by
    change a + b.neg = _
    rw [add_of_isFinite ha hneg, ofUnits, if_pos hsum]
  rw [hsub, abs, magnitude_ofMagnitude _ (Nat.two_pow_pos _)]

theorem maximum_cases (a b : Word f) : a.maximum b = a ∨ a.maximum b = b := by
  rw [maximum]
  split
  · exact .inr rfl
  split
  · exact .inl rfl
  split
  · exact .inr rfl
  · exact .inl rfl

/-- A finite word that is not negative. -/
structure Nonnegative (a : Word f) : Prop where
  finite : a.isFinite = true
  sign : a.isNegative = false

theorem Nonnegative.abs (h : a.isFinite = true) : a.abs.Nonnegative := by
  have hlt := Nat.lt_trans (magnitude_lt h) f.infinity_lt_signBit
  refine ⟨?_, isNegative_ofMagnitude _ hlt⟩
  rw [Word.abs, isFinite, magnitude_ofMagnitude _ hlt]
  exact h

theorem Nonnegative.maximum (ha : a.Nonnegative) (hb : b.Nonnegative) :
    (a.maximum b).Nonnegative := by
  rcases maximum_cases a b with h | h
  · rw [h]
    exact ha
  · rw [h]
    exact hb

/-- A product may be infinite, but it is not below zero. -/
theorem zero_lessEq_mul (ha : a.Nonnegative) (hb : b.Nonnegative) :
    (ofMagnitude false 0 : Word f).lessEq (a * b) = true := by
  have hle : f.mul a.magnitude b.magnitude ≤ f.infinity := f.nearest_le_infinity _ _
  have hmul : a * b = ofMagnitude false (f.mul a.magnitude b.magnitude) := by
    change mul a b = _
    rw [mul, isNaN_of_isFinite ha.finite, isNaN_of_isFinite hb.finite,
      isInfinite_of_isFinite ha.finite, isInfinite_of_isFinite hb.finite, ha.sign, hb.sign]
    rfl
  rw [hmul, lessEq, isNaN_ofMagnitude _ (Nat.zero_le _), isNaN_ofMagnitude _ hle,
    rank_ofMagnitude _ (Nat.two_pow_pos _),
    rank_ofMagnitude _ (Nat.lt_of_le_of_lt hle f.infinity_lt_signBit)]
  simp

end Ieee.Word

open Ieee

/-- Equal scores pass the approximate test as well. -/
theorem BandSearch.scoresEqual_of_rank_eq {a b : Binary64} (ha : a.isFinite = true)
    (hb : b.isFinite = true) (h : a.rank = b.rank) : scoresEqual a b = true := by
  have htolerance : scoreTolerance.Nonnegative := ⟨by decide, by decide⟩
  have hone : one.Nonnegative := ⟨by decide +kernel, by decide +kernel⟩
  rw [scoresEqual, Word.abs_sub_of_rank_eq ha hb h]
  exact Word.zero_lessEq_mul htolerance (.maximum (.abs ha) hone)

/-- The bounds of a search: the far one, which is not reached, and the near one, which is. -/
abbrev ScoreBand := Option Binary64 × Option Binary64

namespace Metric

variable (m : Metric) {f : Format} {a b c : Word f}

/-- Whether a score is closer to the target than another one. -/
def closer (a b : Word f) : Bool := if m.smallerIsCloser then a.less b else b.less a

/-- Whether a score is at least as close to the target as another one. -/
def atLeastAsClose (a b : Word f) : Bool :=
  if m.smallerIsCloser then a.lessEq b else b.lessEq a

/-- Whether a score lies in a band. -/
def within (band : ScoreBand) (score : Binary32) : Bool :=
  band.2.all (fun near => m.atLeastAsClose near (score.convert .binary64)) &&
    band.1.all fun far => m.closer (score.convert .binary64) far

/-- The order of scores by their distance from the target. -/
def depth (a : Word f) : Int := if m.smallerIsCloser then a.rank else -a.rank

variable {m}

theorem closer_iff :
    m.closer a b = true ↔ a.isNaN = false ∧ b.isNaN = false ∧ m.depth a < m.depth b := by
  rw [closer, depth, depth]
  split
  · exact Word.less_iff
  · rw [Word.less_iff, Int.neg_lt_neg_iff]
    exact and_left_comm

theorem atLeastAsClose_iff :
    m.atLeastAsClose a b = true ↔ a.isNaN = false ∧ b.isNaN = false ∧ m.depth a ≤ m.depth b := by
  rw [atLeastAsClose, depth, depth]
  split
  · exact Word.lessEq_iff
  · rw [Word.lessEq_iff, Int.neg_le_neg_iff]
    exact and_left_comm

theorem within_iff {band : ScoreBand} {score : Binary32} : m.within band score = true ↔
    (∀ near ∈ band.2, m.atLeastAsClose near (score.convert .binary64) = true) ∧
      ∀ far ∈ band.1, m.closer (score.convert .binary64) far = true := by
  rw [within, Bool.and_eq_true, Option.all_eq_true, Option.all_eq_true]
  rfl

theorem closer_of_isFinite (ha : a.isFinite = true) (hb : b.isFinite = true) :
    m.closer a b = true ↔ m.depth a < m.depth b := by
  rw [closer_iff, and_iff_right (Word.isNaN_of_isFinite ha),
    and_iff_right (Word.isNaN_of_isFinite hb)]

/-- All NaNs compare alike. -/
theorem closer_canonical (a b : Binary64) : m.closer a b.canonical = m.closer a b := by
  rw [Word.canonical]
  split
  · rename_i hnan
    rw [Bool.eq_iff_iff, closer_iff, closer_iff, hnan]
    have hnan' : (Word.nan : Binary64).isNaN = true := by decide
    simp [hnan']
  · rfl

theorem atLeastAsClose_canonical (a b : Binary64) :
    m.atLeastAsClose a.canonical b = m.atLeastAsClose a b := by
  rw [Word.canonical]
  split
  · rename_i hnan
    rw [Bool.eq_iff_iff, atLeastAsClose_iff, atLeastAsClose_iff, hnan]
    have hnan' : (Word.nan : Binary64).isNaN = true := by decide
    simp [hnan']
  · rfl

theorem within_canonical (m : Metric) (band : ScoreBand) (score : Binary32) :
    m.within (band.1.map Word.canonical, band.2.map Word.canonical) score =
      m.within band score := by
  rw [within, within, Option.all_map, Option.all_map]
  simp only [closer_canonical, atLeastAsClose_canonical]

theorem wider : Format.binary32.Wider .binary64 := ⟨by decide, by decide, by decide⟩

theorem depth_convert_lt_iff {a b : Binary32} (ha : a.isFinite = true) (hb : b.isFinite = true) :
    m.depth (a.convert .binary64) < m.depth (b.convert .binary64) ↔ m.depth a < m.depth b := by
  rw [depth, depth, depth, depth]
  split
  · exact Word.rank_convert_lt_iff wider ha hb
  · rw [Int.neg_lt_neg_iff, Int.neg_lt_neg_iff]
    exact Word.rank_convert_lt_iff wider hb ha

/-- A near bound that is a score itself admits the scores that are no closer. -/
theorem atLeastAsClose_convert {a b : Binary32} (ha : a.isFinite = true) (hb : b.isFinite = true) :
    m.atLeastAsClose (a.convert .binary64) (b.convert .binary64) = true ↔
      m.depth a ≤ m.depth b := by
  rw [atLeastAsClose_iff, and_iff_right (Word.isNaN_of_isFinite (Word.isFinite_convert wider ha)),
    and_iff_right (Word.isNaN_of_isFinite (Word.isFinite_convert wider hb)), ← Int.not_lt,
    depth_convert_lt_iff hb ha, Int.not_lt]

theorem scoresEqual_of_depth_eq {a b : Binary32} (ha : a.isFinite = true)
    (hb : b.isFinite = true) (h : m.depth a = m.depth b) :
    BandSearch.scoresEqual (a.convert .binary64) (b.convert .binary64) = true := by
  have hab := depth_convert_lt_iff (m := m) ha hb
  have hba := depth_convert_lt_iff (m := m) hb ha
  have heq : m.depth (a.convert .binary64) = m.depth (b.convert .binary64) := by
    omega
  apply BandSearch.scoresEqual_of_rank_eq (Word.isFinite_convert wider ha)
    (Word.isFinite_convert wider hb)
  rw [depth, depth] at heq
  split at heq
  · exact heq
  · exact Int.neg_inj.mp heq

end Metric

namespace BandSearch

variable {it : BandSearch}

theorem farEnd_of_radius {bound : Binary64} (h : it.plan.search.radius = some bound)
    (factor : Binary64) :
    ∃ next, it.farEnd factor = if it.metric.closer bound next then bound else next := by
  rw [farEnd, h]
  unfold Metric.closer
  split
  · exact ⟨_, rfl⟩
  · exact ⟨_, rfl⟩

/-- The far end of a probe does not lie behind the caller's own bound. -/
theorem closer_of_closer_farEnd {factor score bound : Binary64}
    (hradius : it.plan.search.radius = some bound) (hbound : bound.isNaN = false)
    (h : it.metric.closer score (it.farEnd factor) = true) :
    it.metric.closer score bound = true := by
  obtain ⟨next, hfar⟩ := farEnd_of_radius hradius factor
  rw [hfar] at h
  split at h
  · exact h
  · rename_i hnext
    obtain ⟨hscore, hnan, hlt⟩ := Metric.closer_iff.mp h
    refine Metric.closer_iff.mpr ⟨hscore, hbound, ?_⟩
    by_contra hbehind
    exact hnext (Metric.closer_iff.mpr ⟨hbound, hnan, by omega⟩)

end BandSearch

end VectorClient
