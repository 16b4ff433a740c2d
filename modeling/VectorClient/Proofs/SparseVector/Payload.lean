import VectorClient.Proofs.Ieee.Widening
import VectorClient.Proofs.SparseVector

/-!
# Payloads of sparse vectors

A payload is read pair by pair, and nothing of it is lost: the pairs that were read are written as
the same bytes. So the payloads that are taken are those of ascending vectors, and they can be told
without reading the values, by their length and by the numbers at the offsets 0, 8, 16 and so on.
-/

namespace VectorClient.SparseVector

open Ieee

variable {v : SparseVector} {bytes : List UInt8}

/-- The numbers that stand at every eighth byte of a payload, four bytes each. -/
def payloadIndices (bytes : List UInt8) : List Nat :=
  (List.range (bytes.length / 8)).map fun k => LittleEndian.decode ((bytes.drop (8 * k)).take 4)

theorem payloadIndices_of_short (h : bytes.length < 8) : payloadIndices bytes = [] := by
  rw [payloadIndices, Nat.div_eq_of_lt h]
  rfl

/-- Behind the first pair a payload goes on like one of its own. -/
theorem payloadIndices_append {first rest : List UInt8} (h : first.length = 8) :
    payloadIndices (first ++ rest) =
      LittleEndian.decode (first.take 4) :: payloadIndices rest := by
  have hcount : (first ++ rest).length / 8 = rest.length / 8 + 1 := by
    rw [List.length_append, h, Nat.add_comm, Nat.add_div_right _ (by decide)]
  have hfirst : ((first ++ rest).drop (8 * 0)).take 4 = first.take 4 := by
    rw [Nat.mul_zero, List.drop_zero, List.take_append_of_le_length (by omega)]
  have hrest : ∀ k, (first ++ rest).drop (8 * (k + 1)) = rest.drop (8 * k) := by
    intro k
    rw [Nat.mul_succ, Nat.add_comm, ← List.drop_drop, ← h, List.drop_left]
  rw [payloadIndices, hcount, List.range_succ_eq_map, List.map_cons, hfirst, List.map_map,
    payloadIndices]
  congr 1
  apply List.map_congr_left
  intro k _
  rw [Function.comp_apply, Nat.succ_eq_add_one, hrest]

/-- What has no pair at its beginning is shorter than one. -/
theorem length_lt_of_no_pair
    (h : ∀ a b c d e f g i rest, bytes = a :: b :: c :: d :: e :: f :: g :: i :: rest → False) :
    bytes.length < 8 := by
  match bytes, h with
  | [], _ | [_], _ | [_, _], _ | [_, _, _], _ | [_, _, _, _], _ | [_, _, _, _, _], _
  | [_, _, _, _, _, _], _ | [_, _, _, _, _, _, _], _ => simp
  | a :: b :: c :: d :: e :: f :: g :: i :: rest, h =>
      exact absurd rfl (h a b c d e f g i rest)

theorem decode_lt_two_pow (a b c d : UInt8) : LittleEndian.decode [a, b, c, d] < 2 ^ 32 := by
  have hlt : LittleEndian.decode [a, b, c, d] < Nat.pow 256 4 := LittleEndian.decode_lt _
  have hpow : Nat.pow 256 4 = 2 ^ 32 := rfl
  rwa [hpow] at hlt

/-- The pairs that are read have the numbers at every eighth byte as their indices. -/
theorem indices_pairsOfBytes (bytes : List UInt8) :
    (pairsOfBytes bytes).map (·.1.toNat) = payloadIndices bytes := by
  fun_induction pairsOfBytes bytes with
  | case1 a b c d e f g h rest ih =>
      have hsplit : a :: b :: c :: d :: e :: f :: g :: h :: rest =
          [a, b, c, d, e, f, g, h] ++ rest := rfl
      rw [hsplit, payloadIndices_append rfl, List.map_cons, ih,
        UInt32.toNat_ofNat_of_lt' (decode_lt_two_pow a b c d)]
      rfl
  | case2 bytes hshort => rw [payloadIndices_of_short (length_lt_of_no_pair hshort), List.map_nil]

theorem encodePair_decode (a b c d e f g h : UInt8) :
    encodePair (.ofNat (LittleEndian.decode [a, b, c, d]),
      .ofNat (LittleEndian.decode [e, f, g, h])) = [a, b, c, d, e, f, g, h] := by
  have hfirst := LittleEndian.encode_decode [a, b, c, d]
  have hsecond := LittleEndian.encode_decode [e, f, g, h]
  have hwidth : Format.binary32.width = 32 := rfl
  rw [encodePair, UInt32.toNat_ofNat_of_lt' (decode_lt_two_pow a b c d), Word.toNat_ofNat, hwidth,
    Nat.mod_eq_of_lt (decode_lt_two_pow e f g h)]
  exact congrArg₂ (· ++ ·) hfirst hsecond

/-- The pairs that were read are written as the same bytes. -/
theorem toBytes_pairsOfBytes (h : bytes.length % 8 = 0) :
    toBytes ⟨pairsOfBytes bytes⟩ = bytes := by
  fun_induction pairsOfBytes bytes with
  | case1 a b c d e f g i rest ih =>
      have hrest : rest.length % 8 = 0 := by
        rw [← h]
        exact (Nat.add_mod_right rest.length 8).symm
      have hbytes := ih hrest
      rw [toBytes] at hbytes ⊢
      rw [List.flatMap_cons, encodePair_decode, hbytes]
      rfl
  | case2 bytes hshort =>
      have hlt := length_lt_of_no_pair hshort
      have hnil : bytes = [] := by
        rw [← List.length_eq_zero_iff]
        omega
      rw [hnil]
      rfl

theorem ascending_pairsOfBytes :
    Ascending ⟨pairsOfBytes bytes⟩ ↔ (payloadIndices bytes).Pairwise (· < ·) := by
  rw [ascending_mk, ← indices_pairsOfBytes, List.pairwise_map]
  rfl

theorem toBytes_of_ofBytes (h : ofBytes bytes = .ok v) : v.toBytes = bytes := by
  rw [ofBytes] at h
  split at h
  · rename_i hwhole
    rw [(ofSorted_eq_ok_iff.mp h).1, toBytes_pairsOfBytes hwhole]
  · cases h

theorem exists_ofBytes_iff :
    (∃ v, ofBytes bytes = .ok v) ↔
      bytes.length % 8 = 0 ∧ (payloadIndices bytes).Pairwise (· < ·) := by
  constructor
  · rintro ⟨v, h⟩
    rw [ofBytes] at h
    split at h
    · rename_i hwhole
      obtain ⟨rfl, hasc⟩ := ofSorted_eq_ok_iff.mp h
      exact ⟨hwhole, ascending_pairsOfBytes.mp hasc⟩
    · cases h
  · rintro ⟨hwhole, hasc⟩
    refine ⟨⟨pairsOfBytes bytes⟩, ?_⟩
    rw [ofBytes, if_pos hwhole]
    exact ofSorted_eq_ok_iff.mpr ⟨rfl, ascending_pairsOfBytes.mpr hasc⟩

/-- Writing and reading are inverse to each other on ascending vectors and the payloads that are
taken: those of whole pairs whose indices ascend. -/
theorem payloads_exact :
    (∀ v : SparseVector, v.Ascending → ofBytes v.toBytes = .ok v) ∧
    (∀ bytes, (∃ v, ofBytes bytes = .ok v) ↔
      bytes.length % 8 = 0 ∧ (payloadIndices bytes).Pairwise (· < ·)) ∧
    (∀ bytes v, ofBytes bytes = .ok v → v.toBytes = bytes) ∧
    ∀ bytes bytes' v, ofBytes bytes = .ok v → ofBytes bytes' = .ok v → bytes = bytes' := by
  refine ⟨fun _ hasc => ofBytes_toBytes_eq_ok_iff.mpr hasc, fun _ => exists_ofBytes_iff,
    fun _ _ => toBytes_of_ofBytes, ?_⟩
  intro bytes bytes' v h h'
  exact (toBytes_of_ofBytes h).symm.trans (toBytes_of_ofBytes h')

/-- Two pairs, the value of the first a signalling NaN with a payload. -/
theorem payloads_exact_nan :
    let v : SparseVector := ⟨[(1, .ofNat 0x7F812345), (256, .ofNat 0xC0200000)]⟩
    let bytes : List UInt8 := [1, 0, 0, 0, 0x45, 0x23, 0x81, 0x7F, 0, 1, 0, 0, 0, 0, 0x20, 0xC0]
    v.Ascending ∧ ofBytes v.toBytes = .ok v ∧
      (bytes.length % 8 = 0 ∧ (payloadIndices bytes).Pairwise (· < ·) ∧
        ∃ w, ofBytes bytes = .ok w ∧ w.toBytes = bytes) ∧
      v.toBytes = bytes ∧ ∀ bytes', ofBytes bytes' = .ok v → bytes' = bytes := by
  intro v bytes
  obtain ⟨htaken, hwhole, hback, hunique⟩ := payloads_exact
  have hasc : v.Ascending := by decide
  have hbytes : v.toBytes = bytes := by decide +kernel
  have hgrammar : bytes.length % 8 = 0 ∧ (payloadIndices bytes).Pairwise (· < ·) := by
    decide +kernel
  have hv := htaken v hasc
  obtain ⟨w, hw⟩ := (hwhole bytes).mpr hgrammar
  refine ⟨hasc, hv, ⟨hgrammar.1, hgrammar.2, w, hw, hback bytes w hw⟩, hbytes, ?_⟩
  intro bytes' h
  rw [hbytes] at hv
  exact hunique bytes' bytes v h hv

end VectorClient.SparseVector
