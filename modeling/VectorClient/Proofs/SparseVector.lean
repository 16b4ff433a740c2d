import Mathlib.Data.List.Basic
import VectorClient.SparseVector

/-!
# Ascending sparse vectors

The constructors of sparse vectors keep the indices in ascending order, each in its own way:
by sorting and refusing a repeated index, by refusing pairs that are out of order, or by
inserting every pair at its place. Two operations rely on the order. Halving finds every
stored index of an ascending vector, and the payload of a vector is taken back exactly if the
vector ascends.
-/

namespace VectorClient.SparseVector

open Ieee

/-- The indices stand in ascending order, none of them twice. -/
def Ascending (v : SparseVector) : Prop := v.indices.Pairwise (· < ·)

instance (v : SparseVector) : Decidable v.Ascending :=
  inferInstanceAs (Decidable (v.indices.Pairwise (· < ·)))

variable {v : SparseVector} {pairs : List (UInt32 × Binary32)} {bytes : List UInt8} {i : UInt32}

theorem ascending_mk :
    Ascending ⟨pairs⟩ ↔ pairs.Pairwise fun a b => a.1 < b.1 := List.pairwise_map

section Constructors

theorem isAscending_iff {indices : List UInt32} :
    isAscending indices = true ↔ indices.Pairwise (· < ·) := by
  rw [← List.isChain_iff_pairwise]
  induction indices with
  | nil => simp [isAscending]
  | cons i rest ih =>
      cases rest with
      | nil => simp [isAscending]
      | cons j rest =>
          rw [isAscending, Bool.and_eq_true, decide_eq_true_eq, ih, List.isChain_cons_cons]

/-- Sorted indices ascend if none of them is followed by itself. -/
theorem pairwise_of_firstRepeated {indices : List UInt32} (hsorted : indices.Pairwise (· ≤ ·))
    (h : firstRepeated indices = none) : indices.Pairwise (· < ·) := by
  have hchain := hsorted.isChain
  rw [← List.isChain_iff_pairwise]
  induction indices with
  | nil => exact .nil
  | cons i rest ih =>
      cases rest with
      | nil => exact .singleton i
      | cons j rest =>
          rw [firstRepeated] at h
          split at h
          · cases h
          · rename_i hne
            obtain ⟨hle, hrest⟩ := List.isChain_cons_cons.mp hchain
            apply List.IsChain.cons_cons
            · exact UInt32.lt_of_le_of_ne hle hne
            · exact ih hsorted.of_cons h hrest

theorem ofSorted_eq_ok_iff : ofSorted pairs = .ok v ↔ v = ⟨pairs⟩ ∧ v.Ascending := by
  rw [ofSorted]
  constructor
  · intro h
    split at h
    · rename_i hasc
      cases h
      exact ⟨rfl, isAscending_iff.mp hasc⟩
    · cases h
  · rintro ⟨rfl, hasc⟩
    exact if_pos (isAscending_iff.mpr hasc)

theorem ofSorted_eq_error (h : ¬ Ascending ⟨pairs⟩) :
    ofSorted pairs = .error (.encoding .unsortedIndices) := by
  rw [ofSorted, if_neg]
  intro hasc
  exact h (isAscending_iff.mp hasc)

/-- The pairs in the order of their indices. -/
def sortedPairs (pairs : List (UInt32 × Binary32)) : List (UInt32 × Binary32) :=
  pairs.mergeSort fun a b => decide (a.1 ≤ b.1)

theorem perm_sortedPairs (pairs : List (UInt32 × Binary32)) : (sortedPairs pairs).Perm pairs :=
  List.mergeSort_perm ..

theorem pairwise_sortedPairs (pairs : List (UInt32 × Binary32)) :
    ((sortedPairs pairs).map (·.1)).Pairwise (· ≤ ·) := by
  have hsorted : (sortedPairs pairs).Pairwise fun a b => decide (a.1 ≤ b.1) = true := by
    apply List.pairwise_mergeSort
    · intro a b c hab hbc
      exact decide_eq_true (UInt32.le_trans (of_decide_eq_true hab) (of_decide_eq_true hbc))
    · intro a b
      simpa using UInt32.le_total a.1 b.1
  exact List.pairwise_map.mpr (hsorted.imp of_decide_eq_true)

/-- Sorting gives the sorted pairs, unless an index is repeated there. -/
theorem ofPairs_eq_ok_iff_sorted :
    ofPairs pairs = .ok v ↔
      v = ⟨sortedPairs pairs⟩ ∧ firstRepeated ((sortedPairs pairs).map (·.1)) = none := by
  constructor
  · intro h
    rw [ofPairs] at h
    split at h
    · cases h
    · rename_i hnone
      cases h
      exact ⟨rfl, hnone⟩
  · rintro ⟨rfl, hnone⟩
    rw [sortedPairs] at hnone
    simp only [ofPairs, hnone, sortedPairs]

theorem ascending_of_ofPairs (h : ofPairs pairs = .ok v) : v.Ascending := by
  obtain ⟨rfl, hnone⟩ := ofPairs_eq_ok_iff_sorted.mp h
  exact pairwise_of_firstRepeated (pairwise_sortedPairs pairs) hnone

theorem ascending_of_ofBytes (h : ofBytes bytes = .ok v) : v.Ascending := by
  rw [ofBytes] at h
  split at h
  · exact (ofSorted_eq_ok_iff.mp h).2
  · cases h

theorem mem_insertPair {p q : UInt32 × Binary32} (h : q ∈ insertPair p pairs) :
    q = p ∨ q ∈ pairs := by
  induction pairs with
  | nil => exact .inl (List.mem_singleton.mp h)
  | cons first rest ih =>
      rw [insertPair] at h
      split at h
      · exact (List.mem_cons.mp h).imp_right (List.mem_cons_of_mem _)
      split at h
      · exact List.mem_cons.mp h
      · rcases List.mem_cons.mp h with rfl | hrest
        · exact .inr (List.mem_cons_self ..)
        · exact (ih hrest).imp_right (List.mem_cons_of_mem _)

theorem Ascending.insertPair (p : UInt32 × Binary32) (h : Ascending ⟨pairs⟩) :
    Ascending ⟨insertPair p pairs⟩ := by
  rw [ascending_mk] at h ⊢
  induction pairs with
  | nil => exact List.pairwise_singleton ..
  | cons first rest ih =>
      obtain ⟨hfirst, hrest⟩ := List.pairwise_cons.mp h
      rw [SparseVector.insertPair]
      split
      · rename_i heq
        apply List.pairwise_cons.mpr
        constructor
        · intro q hq
          rw [heq]
          exact hfirst q hq
        · exact hrest
      split
      · rename_i _ hlt
        apply List.pairwise_cons.mpr
        constructor
        · intro q hq
          rcases List.mem_cons.mp hq with rfl | hmem
          · exact hlt
          · exact UInt32.lt_trans hlt (hfirst q hmem)
        · exact h
      · rename_i hne hnlt
        apply List.pairwise_cons.mpr
        constructor
        · intro q hq
          rcases mem_insertPair hq with rfl | hmem
          · exact UInt32.lt_of_le_of_ne (UInt32.not_lt.mp hnlt) (Ne.symm hne)
          · exact hfirst q hmem
        · exact ih hrest

theorem ascending_ofMap (pairs : List (UInt32 × Binary32)) : (ofMap pairs).Ascending := by
  have hfold : ∀ (rest kept : List (UInt32 × Binary32)), Ascending ⟨kept⟩ →
      Ascending ⟨rest.foldl (fun m p => SparseVector.insertPair p m) kept⟩ := by
    intro rest
    induction rest with
    | nil => exact fun _ h => h
    | cons p rest ih => exact fun kept h => ih _ (h.insertPair p)
  exact hfold pairs [] .nil

end Constructors

section Lookup

variable {p : UInt32 × Binary32} {x : Binary32}

/-- What halving ends at is among the pairs, also where they are out of order. -/
theorem mem_of_search (h : search i pairs = some p) : p ∈ pairs := by
  fun_induction search i pairs with
  | case1 pairs hlong middle hless ih => exact List.mem_of_mem_take (ih h)
  | case2 pairs hlong middle hless ih => exact List.mem_of_mem_drop (ih h)
  | case3 pairs hshort => exact List.mem_of_mem_head? h

/-- The half that is kept has the sought pair, since the other one has smaller indices only, or
greater ones. -/
theorem search_eq_some (hasc : Ascending ⟨pairs⟩) (hp : p ∈ pairs) :
    search p.1 pairs = some p := by
  rw [ascending_mk] at hasc
  generalize hi : p.1 = i
  fun_induction search i pairs with
  | case1 pairs hlong middle hless ih =>
      subst hi
      apply ih (hasc.sublist (List.take_sublist ..))
      obtain ⟨k, hk, rfl⟩ := List.mem_iff_getElem.mp hp
      have hmiddle : k < middle := by
        by_contra hge
        rcases Nat.eq_or_lt_of_le (Nat.le_of_not_lt hge) with heq | hlt
        · subst heq
          exact UInt32.lt_irrefl _ hless
        · have hafter := List.pairwise_iff_getElem.mp hasc middle k (by omega) hk hlt
          exact UInt32.lt_irrefl _ (UInt32.lt_trans hless hafter)
      exact List.mem_take_iff_getElem.mpr ⟨k, by omega, rfl⟩
  | case2 pairs hlong middle hless ih =>
      subst hi
      apply ih (hasc.sublist (List.drop_sublist ..))
      obtain ⟨k, hk, rfl⟩ := List.mem_iff_getElem.mp hp
      have hmiddle : middle ≤ k := by
        by_contra hlt
        exact hless (List.pairwise_iff_getElem.mp hasc k middle hk (by omega) (by omega))
      exact List.mem_drop_iff_getElem.mpr ⟨k - middle, by omega, by congr 1; omega⟩
  | case3 pairs hshort =>
      match pairs, hp with
      | [q], hp => rw [List.head?_cons, List.mem_singleton.mp hp]
      | _ :: _ :: _, _ => exact absurd (by simp) hshort

theorem mem_of_get? (h : v.get? i = some x) : (i, x) ∈ v.pairs := by
  rw [get?] at h
  obtain ⟨q, hq, hfound⟩ := Option.bind_eq_some_iff.mp h
  split at hfound
  · rename_i hindex
    cases hfound
    rw [← hindex]
    exact mem_of_search hq
  · cases hfound

/-- An ascending vector has a value at exactly the stored indices. -/
theorem Ascending.get?_eq_some_iff (hasc : v.Ascending) :
    v.get? i = some x ↔ (i, x) ∈ v.pairs := by
  constructor
  · exact mem_of_get?
  · intro hmem
    have hfound := search_eq_some (p := (i, x)) hasc hmem
    rw [get?, hfound, Option.bind_some, if_pos rfl]

end Lookup

section Payload

theorem encode_decode_index (i : UInt32) :
    UInt32.ofNat (LittleEndian.decode (LittleEndian.encode 4 i.toNat)) = i := by
  rw [LittleEndian.decode_encode, Nat.mod_eq_of_lt i.toNat_lt, UInt32.ofNat_toNat]

theorem encode_decode_value (x : Binary32) :
    Word.ofNat (LittleEndian.decode (LittleEndian.encode 4 x.toNat)) = x := by
  have hlt : x.toNat < Nat.pow 256 4 := x.bits.isLt
  rw [LittleEndian.decode_encode, Nat.mod_eq_of_lt hlt, Word.ofNat_toNat]

@[simp] theorem length_encodePair (p : UInt32 × Binary32) : (encodePair p).length = 8 := by
  simp [encodePair]

theorem pairsOfBytes_append (p : UInt32 × Binary32) (rest : List UInt8) :
    pairsOfBytes (encodePair p ++ rest) = p :: pairsOfBytes rest := by
  have hindex := encode_decode_index p.1
  have hvalue := encode_decode_value p.2
  simp only [LittleEndian.encode] at hindex hvalue
  simp only [encodePair, LittleEndian.encode, List.cons_append, List.nil_append, pairsOfBytes]
  rw [hindex, hvalue]

theorem pairsOfBytes_toBytes (v : SparseVector) : pairsOfBytes v.toBytes = v.pairs := by
  obtain ⟨pairs⟩ := v
  rw [toBytes]
  induction pairs with
  | nil => rfl
  | cons p rest ih => rw [List.flatMap_cons, pairsOfBytes_append, ih]

theorem length_toBytes (v : SparseVector) : v.toBytes.length = 8 * v.pairs.length := by
  rw [toBytes, List.length_flatMap]
  simp [Nat.mul_comm]

/-- A payload that was written is read like a list of pairs in order. -/
theorem ofBytes_toBytes (v : SparseVector) : ofBytes v.toBytes = ofSorted v.pairs := by
  rw [ofBytes, length_toBytes, Nat.mul_mod_right, if_pos rfl, pairsOfBytes_toBytes]

theorem ofBytes_toBytes_eq_ok_iff : ofBytes v.toBytes = .ok v ↔ v.Ascending := by
  rw [ofBytes_toBytes, ofSorted_eq_ok_iff]
  exact and_iff_right rfl

end Payload

end VectorClient.SparseVector
