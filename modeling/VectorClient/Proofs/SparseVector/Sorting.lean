import Mathlib.Data.List.Pairwise
import Mathlib.Data.List.Perm.Basic
import VectorClient.Proofs.SparseVector

/-!
# Sparse vectors from pairs in any order

Pairs with distinct indices have exactly one ascending order. Sorting finds it, and so does
inserting the pairs one after another, so the vector depends on neither the order in which the
pairs came nor on how it was made. What it has at an index is what the pairs have there.
-/

namespace VectorClient.SparseVector

open Ieee

variable {v w : SparseVector} {pairs kept sorted : List (UInt32 × Binary32)}

/-- The indices of the pairs are distinct. -/
def Distinct (pairs : List (UInt32 × Binary32)) : Prop := (pairs.map (·.1)).Nodup

instance (pairs : List (UInt32 × Binary32)) : Decidable (Distinct pairs) :=
  inferInstanceAs (Decidable (pairs.map (·.1)).Nodup)

theorem Distinct.perm {pairs' : List (UInt32 × Binary32)} (h : Distinct pairs)
    (hperm : pairs'.Perm pairs) : Distinct pairs' := by
  have hindices : (pairs'.map (·.1)).Perm (pairs.map (·.1)) := hperm.map _
  exact hindices.nodup_iff.mpr h

theorem Ascending.distinct (h : v.Ascending) : Distinct v.pairs :=
  h.imp UInt32.ne_of_lt

/-- There is only one ascending order. -/
theorem Ascending.eq_of_perm (hv : v.Ascending) (hw : w.Ascending) (h : v.pairs.Perm w.pairs) :
    v = w := by
  obtain ⟨pairs⟩ := v
  obtain ⟨pairs'⟩ := w
  rw [ascending_mk] at hv hw
  congr 1
  apply h.eq_of_pairwise _ hv hw
  intro a b _ _ hab hba
  exact absurd (UInt32.lt_trans hab hba) (UInt32.lt_irrefl _)

section Sorting

theorem firstRepeated_of_pairwise {indices : List UInt32} (h : indices.Pairwise (· < ·)) :
    firstRepeated indices = none := by
  induction indices with
  | nil => rfl
  | cons i rest ih =>
      obtain ⟨hfirst, hrest⟩ := List.pairwise_cons.mp h
      cases rest with
      | nil => rfl
      | cons j rest =>
          have hlt := hfirst j (List.mem_cons_self ..)
          rw [firstRepeated, if_neg (UInt32.ne_of_lt hlt), ih hrest]

/-- Sorted distinct indices ascend. -/
theorem ascending_sortedPairs (h : Distinct pairs) : Ascending ⟨sortedPairs pairs⟩ := by
  have hdistinct := h.perm (perm_sortedPairs pairs)
  exact (pairwise_sortedPairs pairs).imp₂ (fun _ _ => UInt32.lt_of_le_of_ne) hdistinct

theorem ofPairs_eq_ok_iff : ofPairs pairs = .ok v ↔ v.pairs.Perm pairs ∧ v.Ascending := by
  constructor
  · intro h
    refine ⟨?_, ascending_of_ofPairs h⟩
    obtain ⟨rfl, _⟩ := ofPairs_eq_ok_iff_sorted.mp h
    exact perm_sortedPairs pairs
  · rintro ⟨hperm, hasc⟩
    have hsorted := ascending_sortedPairs (hasc.distinct.perm hperm.symm)
    apply ofPairs_eq_ok_iff_sorted.mpr
    constructor
    · exact hasc.eq_of_perm hsorted (hperm.trans (perm_sortedPairs pairs).symm)
    · exact firstRepeated_of_pairwise hsorted

/-- Sorting succeeds exactly if no index is repeated. -/
theorem exists_ofPairs_iff : (∃ v, ofPairs pairs = .ok v) ↔ Distinct pairs := by
  constructor
  · rintro ⟨v, h⟩
    obtain ⟨hperm, hasc⟩ := ofPairs_eq_ok_iff.mp h
    exact hasc.distinct.perm hperm.symm
  · intro h
    exact ⟨_, ofPairs_eq_ok_iff.mpr ⟨perm_sortedPairs pairs, ascending_sortedPairs h⟩⟩

end Sorting

section Inserting

variable {p : UInt32 × Binary32}

/-- A pair with a new index joins the others. -/
theorem perm_insertPair (h : p.1 ∉ kept.map (·.1)) :
    (insertPair p kept).Perm (p :: kept) := by
  induction kept with
  | nil => exact .refl _
  | cons first rest ih =>
      rw [List.map_cons, List.mem_cons, not_or] at h
      rw [insertPair, if_neg h.1]
      split
      · exact .refl _
      · exact ((ih h.2).cons first).trans (.swap ..)

/-- Inserting the pairs of a list into others keeps them all, if all indices are distinct. -/
theorem perm_foldl_insertPair (h : Distinct (pairs ++ kept)) :
    (pairs.foldl (fun m p => insertPair p m) kept).Perm (pairs ++ kept) := by
  induction pairs generalizing kept with
  | nil => exact .refl _
  | cons p rest ih =>
      have hmiddle : (rest ++ p :: kept).Perm (p :: rest ++ kept) := List.perm_middle
      obtain ⟨hnew, _⟩ := List.nodup_cons.mp h
      have hp : p.1 ∉ kept.map (·.1) := by
        intro hmem
        apply hnew
        change p.1 ∈ (rest ++ kept).map (·.1)
        rw [List.map_append]
        exact List.mem_append_right _ hmem
      have hinsert := (perm_insertPair hp).append_left rest
      rw [List.foldl_cons]
      exact (ih (h.perm (hinsert.trans hmiddle))).trans (hinsert.trans hmiddle)

theorem perm_mapOf (h : Distinct pairs) : (mapOf pairs).Perm pairs := by
  rw [← List.append_nil pairs] at h
  have hperm := perm_foldl_insertPair h
  rwa [List.append_nil] at hperm

end Inserting

/-- `v` is the vector of these pairs: they are its pairs, in their only ascending order. Every way
to make a vector of them gives `v`, and `v` has at an index what they have. -/
structure VectorOf (pairs : List (UInt32 × Binary32)) (v : SparseVector) : Prop where
  perm : v.pairs.Perm pairs
  ascending : v.Ascending
  unique : ∀ sorted : List (UInt32 × Binary32), sorted.Perm pairs → Ascending ⟨sorted⟩ →
    sorted = v.pairs
  ofPairs_eq : ∀ pairs', pairs'.Perm pairs → ofPairs pairs' = .ok v
  ofMap_eq : ∀ pairs', pairs'.Perm pairs → ofMap pairs' = v
  ofSorted_eq : ofSorted v.pairs = .ok v
  get?_eq_some_iff : ∀ i x, v.get? i = some x ↔ (i, x) ∈ pairs
  get?_eq_none_iff : ∀ i, v.get? i = none ↔ i ∉ pairs.map (·.1)

theorem vectorOf_of_perm (hperm : v.pairs.Perm pairs) (hasc : v.Ascending) : VectorOf pairs v where
  perm := hperm
  ascending := hasc
  unique sorted hsorted hsortedAsc := by
    have heq : ⟨sorted⟩ = v := hsortedAsc.eq_of_perm hasc (hsorted.trans hperm.symm)
    rw [← heq]
  ofPairs_eq pairs' hpairs' := ofPairs_eq_ok_iff.mpr ⟨hperm.trans hpairs'.symm, hasc⟩
  ofMap_eq pairs' hpairs' := by
    have hdistinct : Distinct pairs' := hasc.distinct.perm (hpairs'.trans hperm.symm)
    apply (ascending_ofMap pairs').eq_of_perm hasc
    exact (perm_mapOf hdistinct).trans (hpairs'.trans hperm.symm)
  ofSorted_eq := ofSorted_eq_ok_iff.mpr ⟨rfl, hasc⟩
  get?_eq_some_iff i x := hasc.get?_eq_some_iff.trans hperm.mem_iff
  get?_eq_none_iff i := by
    rw [Option.eq_none_iff_forall_ne_some, List.mem_map]
    constructor
    · rintro h ⟨p, hp, rfl⟩
      exact h p.2 (hasc.get?_eq_some_iff.mpr (hperm.mem_iff.mpr hp))
    · intro h x hx
      exact h ⟨(i, x), hperm.mem_iff.mp (hasc.get?_eq_some_iff.mp hx), rfl⟩

/-- Pairs make a vector exactly if their indices are distinct, and it is the vector of them. -/
theorem vectorOf_of_distinct (pairs : List (UInt32 × Binary32)) :
    ((∃ v, ofPairs pairs = .ok v) ↔ Distinct pairs) ∧
      ∀ v, ofPairs pairs = .ok v → VectorOf pairs v := by
  refine ⟨exists_ofPairs_iff, ?_⟩
  intro v h
  obtain ⟨hperm, hasc⟩ := ofPairs_eq_ok_iff.mp h
  exact vectorOf_of_perm hperm hasc

theorem vectorOf_of_distinct_unsorted :
    let pairs : List (UInt32 × Binary32) := [(7, .ofNat 1), (1, .ofNat 2), (3, .ofNat 3)]
    Distinct pairs ∧ ∃ v, ofPairs pairs = .ok v ∧ v.indices = [1, 3, 7] ∧ VectorOf pairs v ∧
      v.get? 3 = some (.ofNat 3) ∧ v.get? 4 = none := by
  intro pairs
  obtain ⟨hmade, hvector⟩ := vectorOf_of_distinct pairs
  have hdistinct : Distinct pairs := by decide
  obtain ⟨v, hv⟩ := hmade.mpr hdistinct
  have hof := hvector v hv
  refine ⟨hdistinct, v, hv, ?_, hof, ?_, ?_⟩
  · rw [indices, ← hof.unique [(1, .ofNat 2), (3, .ofNat 3), (7, .ofNat 1)] (by decide) (by decide)]
    rfl
  · exact (hof.get?_eq_some_iff _ _).mpr (by decide)
  · exact (hof.get?_eq_none_iff _).mpr (by decide)

end VectorClient.SparseVector
