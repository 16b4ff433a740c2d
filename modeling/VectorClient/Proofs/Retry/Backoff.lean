import Mathlib.Algebra.Group.Nat.Defs
import VectorClient.Proofs.Retry.Course

/-!
# The sleeps of a call

A sleep is the one before times the multiplier, cut off at the greatest number of milliseconds
and then at the longest sleep that the policy allows. Cutting off early is cutting off late: the
sleeps are those of the geometric sequence, cut off once. The first sleep alone is not cut off,
so the bound and the order of the sleeps hang on how a policy sets it.
-/

namespace VectorClient.RetryPolicy

/-- The number of a setting fits into 64 bits. -/
def Setting.Fits : Setting → Prop
  | .maxTimes n | .timeout n | .initialBackoff n | .backoffMultiplier n | .maxBackoff n =>
    n < UInt64.size
  | .retryRateLimit _ => True

/-- The standard policy, changed by one setting after another. -/
def made (settings : List Setting) : RetryPolicy := settings.foldl set standard

/-- What the settings keep: the sequence of the sleeps does not fall, and its bound fits. -/
structure WellSet (p : RetryPolicy) : Prop where
  multiplier_pos : 0 < p.backoffMultiplier
  maxBackoff_lt : p.maxBackoff < UInt64.size

theorem WellSet.set {p : RetryPolicy} (h : p.WellSet) {setting : Setting} (hfits : setting.Fits) :
    (p.set setting).WellSet := by
  cases setting with
  | maxTimes n => exact ⟨h.multiplier_pos, h.maxBackoff_lt⟩
  | timeout ms => exact ⟨h.multiplier_pos, h.maxBackoff_lt⟩
  | retryRateLimit b => exact ⟨h.multiplier_pos, h.maxBackoff_lt⟩
  | initialBackoff ms =>
      rw [RetryPolicy.set]
      split <;> exact ⟨h.multiplier_pos, h.maxBackoff_lt⟩
  | backoffMultiplier n =>
      rw [RetryPolicy.set]
      split
      · rename_i hpos
        exact ⟨hpos, h.maxBackoff_lt⟩
      · exact h
  | maxBackoff ms =>
      rw [RetryPolicy.set]
      split
      · exact ⟨h.multiplier_pos, hfits⟩
      · exact h

theorem wellSet_made {settings : List Setting} (h : ∀ setting ∈ settings, setting.Fits) :
    (made settings).WellSet := by
  refine List.foldlRecOn settings RetryPolicy.set ⟨by decide, by decide⟩ ?_
  intro p hp setting hsetting
  exact hp.set (h setting hsetting)

/-- The sequence of the sleeps as it would be without a bound. -/
def growth (p : RetryPolicy) (k : Nat) : Nat := p.initialBackoff * p.backoffMultiplier ^ k

/-- Growth that is cut off before the next step is cut off behind it. -/
theorem nextBackoff_min {p : RetryPolicy} (h : p.maxBackoff < UInt64.size) (ms : Nat) :
    p.nextBackoff (min p.maxBackoff ms) = min p.maxBackoff (ms * p.backoffMultiplier) := by
  have hbound : p.maxBackoff ≤ maxMilliseconds := Nat.le_sub_one_of_lt h
  rw [nextBackoff]
  rcases Nat.le_total ms p.maxBackoff with hsmall | hlarge
  · rw [Nat.min_eq_right hsmall]
    omega
  rw [Nat.min_eq_left hlarge]
  rcases Nat.eq_zero_or_pos p.backoffMultiplier with hzero | hpos
  · rw [hzero, Nat.mul_zero, Nat.mul_zero]
    omega
  · have hfull : p.maxBackoff ≤ p.maxBackoff * p.backoffMultiplier := Nat.le_mul_of_pos_right _ hpos
    have hcut : p.maxBackoff ≤ ms * p.backoffMultiplier :=
      Nat.le_trans hlarge (Nat.le_mul_of_pos_right _ hpos)
    omega

/-- All sleeps but the first are those of the growing sequence, cut off. -/
theorem backoff_succ {p : RetryPolicy} (h : p.maxBackoff < UInt64.size) (k : Nat) :
    p.backoff (k + 1) = min p.maxBackoff (p.growth (k + 1)) := by
  have hbound : p.maxBackoff ≤ maxMilliseconds := Nat.le_sub_one_of_lt h
  induction k with
  | zero =>
      rw [backoff, backoff, nextBackoff, growth, Nat.zero_add, Nat.pow_one]
      omega
  | succ k ih =>
      rw [backoff, ih, nextBackoff_min h, growth, growth, Nat.mul_assoc, ← Nat.pow_succ]

theorem growth_mono {p : RetryPolicy} (h : 0 < p.backoffMultiplier) {j k : Nat} (hjk : j ≤ k) :
    p.growth j ≤ p.growth k :=
  Nat.mul_le_mul_left _ (Nat.pow_le_pow_right h hjk)

/-- The lengths of the sleeps among the steps of a call. -/
def sleepsOf {α : Type} (steps : List (Step α)) : List Nat :=
  steps.filterMap fun
    | .attempted _ => none
    | .slept ms => some ms

section

variable {σ α : Type} (p : RetryPolicy) (clock : Clock σ) (attempt : σ → Except Failure α × σ)
variable (s : σ)

/-- The lengths of the sleeps of a call, from the first to the last. -/
def sleeps : List Nat :=
  sleepsOf (p.execute (clock.recorded α) (recorded attempt) (s, [])).2.2

theorem sleepsOf_steps (c : Course α) (k : Nat) :
    sleepsOf (c.steps p k) = if c.sleeps p k then [p.backoff k] else [] := by
  rw [Course.steps]
  split <;> rfl

/-- The sleeps of a call are the first ones of the policy. -/
theorem exists_sleeps_eq : ∃ n, p.sleeps clock attempt s = (List.range n).map p.backoff := by
  obtain ⟨last, hlast, _, hrecorded⟩ := p.execute_recorded clock attempt s
  have hbefore : (List.range last).flatMap
      (fun k => sleepsOf ((p.course clock attempt s).steps p k)) =
        (List.range last).map p.backoff := by
    rw [List.map_eq_flatMap]
    refine List.flatMap_congr fun k hk => ?_
    rw [sleepsOf_steps, if_pos (hlast.sleeps (List.mem_range.mp hk))]
  have hsleeps : p.sleeps clock attempt s = (List.range last).map p.backoff ++
      if (p.course clock attempt s).sleeps p last then [p.backoff last] else [] := by
    rw [← sleepsOf_steps, ← hbefore, sleeps, hrecorded, sleepsOf, List.filterMap_flatMap,
      List.range_succ, List.flatMap_append, List.flatMap_singleton]
    rfl
  rw [hsleeps]
  split
  · exact ⟨last + 1, by rw [List.range_succ, List.map_append, List.map_singleton]⟩
  · exact ⟨last, List.append_nil _⟩

theorem getElem?_sleeps {k ms : Nat} (h : (p.sleeps clock attempt s)[k]? = some ms) :
    ms = p.backoff k := by
  obtain ⟨n, hsleeps⟩ := p.exists_sleeps_eq clock attempt s
  rw [hsleeps, List.getElem?_map, Option.map_eq_some_iff] at h
  obtain ⟨j, hj, rfl⟩ := h
  obtain ⟨_, rfl⟩ := List.getElem?_eq_some_iff.mp hj
  rw [List.getElem_range]

/-- The sleeps do not fall if the first one keeps to the bound as well. -/
theorem pairwise_sleeps (hset : p.WellSet)
    (hcut : ∀ k, p.backoff k = min p.maxBackoff (p.growth k)) :
    (p.sleeps clock attempt s).Pairwise (· ≤ ·) := by
  obtain ⟨n, hsleeps⟩ := p.exists_sleeps_eq clock attempt s
  rw [hsleeps, List.pairwise_map]
  refine List.pairwise_lt_range.imp fun {j k} hjk => ?_
  have hgrowth : p.growth j ≤ p.growth k := growth_mono hset.multiplier_pos (Nat.le_of_lt hjk)
  rw [hcut j, hcut k]
  omega

end

/-- The sleeps of a call under a policy that was made by settings: the first one is the initial
sleep, and every other one is that of the growing sequence, cut off at the longest sleep. So all
of them are cut off, none is longer than allowed and they never fall, exactly if there is none or
the initial sleep is not longer than the longest one. -/
theorem sleeps_of_made {σ α : Type} {settings : List Setting}
    (hfits : ∀ setting ∈ settings, setting.Fits) (clock : Clock σ)
    (attempt : σ → Except Failure α × σ) (s : σ) :
    let p := made settings
    let sleeps := p.sleeps clock attempt s
    (∀ k ms, sleeps[k]? = some ms →
      ms = if k = 0 then p.initialBackoff else min p.maxBackoff (p.growth k)) ∧
    ((∀ k ms, sleeps[k]? = some ms → ms = min p.maxBackoff (p.growth k)) ∧
      (∀ ms ∈ sleeps, ms ≤ p.maxBackoff) ∧ sleeps.Pairwise (· ≤ ·) ↔
        sleeps = [] ∨ p.initialBackoff ≤ p.maxBackoff) := by
  intro p sleeps
  have hset : p.WellSet := wellSet_made hfits
  have hget : ∀ {k ms}, sleeps[k]? = some ms → ms = p.backoff k :=
    p.getElem?_sleeps clock attempt s
  have hfirst : p.growth 0 = p.initialBackoff := by rw [growth, Nat.pow_zero, Nat.mul_one]
  refine ⟨?_, ?_, ?_⟩
  · intro k ms hms
    cases k with
    | zero => exact hget hms
    | succ k => exact (hget hms).trans (backoff_succ hset.maxBackoff_lt k)
  · rintro ⟨hcut, _⟩
    cases hms : sleeps[0]? with
    | none =>
        have hlength : sleeps.length ≤ 0 := List.getElem?_eq_none_iff.mp hms
        exact .inl (List.length_eq_zero_iff.mp (Nat.le_zero.mp hlength))
    | some ms =>
        have hinitial : ms = p.initialBackoff := hget hms
        have hmin : ms = min p.maxBackoff (p.growth 0) := hcut 0 ms hms
        right
        omega
  · rintro (hnone | hle)
    · rw [hnone]
      exact ⟨nofun, List.forall_mem_nil _, List.Pairwise.nil⟩
    have hcut : ∀ k, p.backoff k = min p.maxBackoff (p.growth k)
      | 0 => by rw [hfirst, Nat.min_eq_right hle]; rfl
      | k + 1 => backoff_succ hset.maxBackoff_lt k
    refine ⟨fun k ms hms => (hget hms).trans (hcut k), ?_,
      p.pairwise_sleeps clock attempt s hset hcut⟩
    intro ms hms
    obtain ⟨k, hk⟩ := List.mem_iff_getElem?.mp hms
    rw [hget hk, hcut k]
    exact Nat.min_le_left _ _

/-- A first sleep of 400 milliseconds, where none was to be longer than 100. -/
theorem sleeps_of_made_longInitial :
    let settings : List Setting := [.maxTimes 3, .initialBackoff 400, .maxBackoff 100]
    let clock : Clock Nat := ⟨id, id, (· + ·)⟩
    let refused (s : Nat) : Except Failure Unit × Nat := (.error (.transport .unavailable "m"), s)
    let p := made settings
    let sleeps := p.sleeps clock refused 0
    (∀ setting ∈ settings, setting.Fits) ∧ sleeps = [400, 100] ∧
    (∀ k ms, sleeps[k]? = some ms →
      ms = if k = 0 then p.initialBackoff else min p.maxBackoff (p.growth k)) ∧
    ((∀ k ms, sleeps[k]? = some ms → ms = min p.maxBackoff (p.growth k)) ∧
      (∀ ms ∈ sleeps, ms ≤ p.maxBackoff) ∧ sleeps.Pairwise (· ≤ ·) ↔
        sleeps = [] ∨ p.initialBackoff ≤ p.maxBackoff) := by
  intro settings clock refused p sleeps
  have hfits : ∀ setting ∈ settings, setting.Fits := by
    simp [settings, Setting.Fits, UInt64.size]
  exact ⟨hfits, by decide +kernel, sleeps_of_made hfits clock refused 0⟩

end VectorClient.RetryPolicy
