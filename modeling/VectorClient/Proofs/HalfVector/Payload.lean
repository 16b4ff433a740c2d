import VectorClient.Proofs.HalfVector
import VectorClient.Proofs.HalfVector.Truncation

/-!
# Payloads of half-precision vectors

A payload is its words, two bytes each, so every payload of an even number of bytes is that of
exactly one list of words. Elements that were read from a payload are written as the same words
again, NaNs apart: binary16 makes a signalling NaN quiet and bfloat16 drops what a NaN has besides
its sign. Elements of a bfloat16 vector that were written first come back truncated.
-/

namespace VectorClient

namespace Ieee.Word

variable {f : Format}

/-- A NaN whose quiet bit is not set. -/
def isSignalling (w : Word f) : Bool := w.isNaN && !w.toNat.testBit (f.fractionBits - 1)

/-- The word itself, a signalling NaN with its quiet bit set. -/
def quieted (w : Word f) : Word f := if w.isSignalling then ofNat (w.toNat ||| f.quietBit) else w

/-- The word itself, in place of a NaN the quiet one of its sign that has no payload. -/
def withoutPayload (w : Word f) : Word f :=
  if w.isNaN then ofMagnitude w.isNegative (f.infinity + f.quietBit) else w

theorem quieted_of_not_nan {w : Word f} (hw : w.isNaN = false) : w.quieted = w := by
  rw [quieted, isSignalling, hw, Bool.false_and, if_neg Bool.false_ne_true]

/-- Of a quiet NaN the quiet bit is set already. -/
theorem quieted_of_nan {w : Word f} (hw : w.isNaN = true) :
    w.quieted = ofNat (w.toNat ||| f.quietBit) := by
  rw [quieted, isSignalling, hw, Bool.true_and]
  split
  · rfl
  · rename_i hquiet
    have hbit : w.toNat.testBit (f.fractionBits - 1) = true := by simpa using hquiet
    have hor : w.toNat ||| f.quietBit = w.toNat := by
      apply Nat.eq_of_testBit_eq
      intro i
      rw [Nat.testBit_or, f.quietBit_eq, Nat.testBit_two_pow]
      by_cases hi : f.fractionBits - 1 = i
      · rw [← hi, hbit, Bool.true_or]
      · rw [decide_eq_false hi, Bool.or_false]
    rw [hor, ofNat_toNat]

theorem toNat_eq (w : Word f) :
    w.toNat = if w.isNegative then f.signBit + w.magnitude else w.magnitude := by
  have hlt : w.magnitude < f.signBit := Nat.mod_lt _ (Nat.two_pow_pos _)
  have hword := toNat_ofMagnitude w.isNegative hlt
  rwa [ofMagnitude_magnitude] at hword

/-- Bits below the sign bit are set in the magnitude. -/
theorem ofMagnitude_or (w : Word f) {m : Nat} (hm : m < f.signBit) :
    (ofMagnitude w.isNegative (w.magnitude ||| m) : Word f) = ofNat (w.toNat ||| m) := by
  have hlt : w.magnitude < f.signBit := Nat.mod_lt _ (Nat.two_pow_pos _)
  have hadd : ∀ n < f.signBit, f.signBit + n = f.signBit ||| n := by
    intro n hn
    have hadd := Nat.two_pow_add_eq_or_of_lt hn 1
    rwa [Nat.mul_one] at hadd
  rw [ofMagnitude, toNat_eq]
  cases w.isNegative with
  | false => rfl
  | true =>
      rw [if_pos rfl, if_pos rfl, hadd _ hlt, hadd _ (Nat.or_lt_two_pow hlt hm), Nat.or_assoc]

end Ieee.Word

namespace HalfVector

open Ieee

variable {f : Format} {payload : List UInt8}

section Words

theorem encodeWords_cons (w : Word f) (words : List (Word f)) :
    encodeWords (w :: words) = LittleEndian.encode 2 w.toNat ++ encodeWords words :=
  List.flatMap_cons

theorem wordsOf_encode_append (hf : f.width = 16) (w : Word f) (rest : List UInt8) :
    wordsOf (LittleEndian.encode 2 w.toNat ++ rest) = w :: wordsOf rest := by
  have hlt : w.toNat < 2 ^ f.width := w.bits.isLt
  rw [hf] at hlt
  have hread := LittleEndian.decode_encode 2 w.toNat
  rw [Nat.mod_eq_of_lt (show w.toNat < Nat.pow 256 2 from hlt)] at hread
  simp only [LittleEndian.encode] at hread
  simp only [LittleEndian.encode, List.cons_append, List.nil_append, wordsOf]
  rw [hread, Word.ofNat_toNat]

theorem wordsOf_encodeWords (hf : f.width = 16) (words : List (Word f)) :
    wordsOf (encodeWords words) = words := by
  induction words with
  | nil => rfl
  | cons w words ih => rw [encodeWords_cons, wordsOf_encode_append hf, ih]

@[simp] theorem length_encodeWords (words : List (Word f)) :
    (encodeWords words).length = 2 * words.length := by
  rw [encodeWords, List.length_flatMap]
  simp [Nat.mul_comm]

theorem length_wordsOf (payload : List UInt8) :
    (wordsOf (f := f) payload).length = payload.length / 2 := by
  fun_induction wordsOf (f := f) payload with
  | case1 low high rest ih =>
      rw [List.length_cons, ih, List.length_cons, List.length_cons]
      omega
  | case2 payload hshort =>
      match payload, hshort with
      | [], _ => rfl
      | [_], _ => exact (Nat.div_eq_of_lt Nat.one_lt_two).symm
      | low :: high :: rest, hshort => exact absurd rfl (hshort low high rest)

/-- The bytes of the words that were read are the payload. -/
theorem encodeWords_wordsOf (hf : f.width = 16) (heven : payload.length % 2 = 0) :
    encodeWords (wordsOf (f := f) payload) = payload := by
  fun_induction wordsOf (f := f) payload with
  | case1 low high rest ih =>
      have hlt : LittleEndian.decode [low, high] < Nat.pow 256 2 := LittleEndian.decode_lt _
      have hwidth : Nat.pow 256 2 = 2 ^ f.width := by rw [hf]; rfl
      rw [hwidth] at hlt
      have hbytes := LittleEndian.encode_decode [low, high]
      rw [List.length_cons, List.length_cons] at heven
      rw [encodeWords_cons, Word.toNat_ofNat, Nat.mod_eq_of_lt hlt, ih (by omega)]
      exact congrArg (· ++ rest) hbytes
  | case2 payload hshort =>
      match payload, hshort with
      | [], _ => rfl
      | [_], _ => cases heven
      | low :: high :: rest, hshort => exact absurd rfl (hshort low high rest)

theorem decodeWords_of_even (heven : payload.length % 2 = 0) :
    decodeWords (f := f) payload = .ok (wordsOf payload) := if_pos heven

theorem decodeWords_encodeWords (hf : f.width = 16) (words : List (Word f)) :
    decodeWords (encodeWords words) = .ok words := by
  rw [decodeWords_of_even, wordsOf_encodeWords hf]
  rw [length_encodeWords, Nat.mul_mod_right]

theorem encodeWords_of_decodeWords (hf : f.width = 16) {words : List (Word f)}
    (h : decodeWords payload = .ok words) : encodeWords words = payload := by
  rw [decodeWords] at h
  split at h
  · rename_i heven
    cases h
    exact encodeWords_wordsOf hf heven
  · cases h

/-- One value is read for each two bytes of a payload, and an odd number of bytes is refused. -/
structure ReadsWords {α : Type} (payload : List UInt8) (read : Except DataError (List α)) :
    Prop where
  even : payload.length % 2 = 0 → ∃ values, read = .ok values ∧ values.length = payload.length / 2
  odd : payload.length % 2 ≠ 0 → read = .error (.encoding (.oddHalfPayload payload.length))

theorem readsWords_decodeWords (payload : List UInt8) :
    ReadsWords payload (decodeWords (f := f) payload) where
  even heven := ⟨wordsOf payload, decodeWords_of_even heven, length_wordsOf payload⟩
  odd hodd := if_neg hodd

theorem ReadsWords.map {α β : Type} {read : Except DataError (List α)}
    (h : ReadsWords payload read) (g : α → β) : ReadsWords payload (read.map (List.map g)) where
  even heven := by
    obtain ⟨values, hread, hlength⟩ := h.even heven
    refine ⟨values.map g, ?_, ?_⟩
    · rw [hread]
      rfl
    · rw [List.length_map, hlength]
  odd hodd := by
    rw [h.odd hodd]
    rfl

end Words

section Elements

theorem toBinary16_ofBinary16_of_nan {h : Binary16} (hh : h.isNaN = true) :
    toBinary16 (ofBinary16 h) = h.quieted := by
  have hnan : Format.binary16.infinity < h.magnitude := of_decide_eq_true hh
  have hlt : h.magnitude < Format.binary16.signBit := Nat.mod_lt _ (Nat.two_pow_pos _)
  have hwide := (widenMagnitude_bounds_of_nan hnan hlt).2
  rw [toBinary16, ofBinary16, Word.isNegative_ofMagnitude _ hwide,
    Word.magnitude_ofMagnitude _ hwide, narrowMagnitude_widenMagnitude_of_nan hnan hlt,
    Word.ofMagnitude_or _ (by decide), Word.quieted_of_nan hh]

theorem toBinary16_ofBinary16_eq (h : Binary16) : toBinary16 (ofBinary16 h) = h.quieted := by
  cases hh : h.isNaN with
  | true => exact toBinary16_ofBinary16_of_nan hh
  | false => rw [toBinary16_ofBinary16 hh, Word.quieted_of_not_nan hh]

theorem toBFloat16_ofBFloat16 (h : BFloat16) : toBFloat16 (ofBFloat16 h) = h.withoutPayload := by
  rw [Word.withoutPayload]
  cases hh : h.isNaN with
  | true =>
      rw [toBFloat16_of_nan (by rw [isNaN_ofBFloat16, hh]), isNegative_ofBFloat16, if_pos rfl]
  | false =>
      rw [← Word.ofNat_toNat (toBFloat16 _), toNat_toBFloat16 (by rw [isNaN_ofBFloat16, hh]),
        toNat_ofBFloat16, Nat.mul_div_cancel _ (Nat.two_pow_pos 16), Word.ofNat_toNat,
        if_neg Bool.false_ne_true]

/-- What was read from a payload is written as its words, each of them read and written alone. -/
theorem encodeWords_of_map_decodeWords (hf : f.width = 16) {read : Word f → Binary32}
    {write : Binary32 → Word f} {change : Word f → Word f}
    (hchange : ∀ w, write (read w) = change w) {values : List Binary32}
    (h : (decodeWords payload).map (List.map read) = .ok values) :
    ∃ words : List (Word f), encodeWords words = payload ∧
      encodeWords (values.map write) = encodeWords (words.map change) := by
  cases hwords : decodeWords (f := f) payload with
  | error e =>
      rw [hwords] at h
      cases h
  | ok words =>
      rw [hwords] at h
      cases h
      refine ⟨words, encodeWords_of_decodeWords hf hwords, ?_⟩
      rw [List.map_map]
      exact congrArg encodeWords (List.map_congr_left fun w _ => hchange w)

theorem decodeBFloat16_encodeBFloat16 (values : List Binary32) :
    decodeBFloat16 (encodeBFloat16 values) =
      .ok (values.map fun x => ofBFloat16 (toBFloat16 x)) := by
  rw [decodeBFloat16, encodeBFloat16, decodeWords_encodeWords rfl]
  exact congrArg Except.ok List.map_map

end Elements

/-- Words and payloads of an even length are the same thing, and other payloads are refused. What
was read from a binary16 payload is written as its words, signalling NaNs made quiet; from a
bfloat16 payload, NaNs without their payload. What is written as bfloat16 is read back as the
number of its sign next to it in the direction of zero. -/
theorem payloads_reencoded :
    (∀ f : Format, f.width = 16 →
      (∀ payload, ReadsWords payload (decodeWords (f := f) payload)) ∧
      (∀ words : List (Word f), decodeWords (encodeWords words) = .ok words) ∧
      ∀ payload (words : List (Word f)), decodeWords payload = .ok words →
        encodeWords words = payload) ∧
    (∀ payload, ReadsWords payload (decodeBinary16 payload) ∧
      ReadsWords payload (decodeBFloat16 payload)) ∧
    (∀ payload values, decodeBinary16 payload = .ok values →
      ∃ words : List Binary16, encodeWords words = payload ∧
        encodeBinary16 values = encodeWords (words.map Word.quieted)) ∧
    (∀ payload values, decodeBFloat16 payload = .ok values →
      ∃ words : List BFloat16, encodeWords words = payload ∧
        encodeBFloat16 values = encodeWords (words.map Word.withoutPayload)) ∧
    ∀ values, ∃ kept, decodeBFloat16 (encodeBFloat16 values) = .ok kept ∧
      List.Forall₂ Truncates values kept := by
  refine ⟨?_, ?_, ?_, ?_, ?_⟩
  · intro f hf
    exact ⟨readsWords_decodeWords, decodeWords_encodeWords hf,
      fun _ _ => encodeWords_of_decodeWords hf⟩
  · intro payload
    have hread : ∀ {f : Format}, ReadsWords payload (decodeWords (f := f) payload) :=
      readsWords_decodeWords payload
    exact ⟨hread.map ofBinary16, hread.map ofBFloat16⟩
  · intro payload values h
    exact encodeWords_of_map_decodeWords rfl toBinary16_ofBinary16_eq h
  · intro payload values h
    exact encodeWords_of_map_decodeWords rfl toBFloat16_ofBFloat16 h
  · intro values
    refine ⟨_, decodeBFloat16_encodeBFloat16 values, ?_⟩
    rw [List.forall₂_map_right_iff, List.forall₂_same]
    exact fun x _ => truncates_ofBFloat16_toBFloat16 x

/-- A signalling NaN and the number 1 in both formats, and a number that is cut to 1. -/
theorem payloads_reencoded_signalling :
    let halves : List UInt8 := [0x01, 0x7C, 0x00, 0x3C]
    let halfValues : List Binary32 := [.ofNat 0x7FC02000, .ofNat 0x3F800000]
    let uppers : List UInt8 := [0x81, 0xFF, 0x80, 0x3F]
    let upperValues : List Binary32 := [.ofNat 0xFF810000, .ofNat 0x3F800000]
    Format.binary16.width = 16 ∧ halves.length % 2 = 0 ∧
      decodeBinary16 halves = .ok halfValues ∧
      encodeBinary16 halfValues = [0x01, 0x7E, 0x00, 0x3C] ∧
      (∃ words : List Binary16, encodeWords words = halves ∧
        encodeBinary16 halfValues = encodeWords (words.map Word.quieted)) ∧
      decodeBFloat16 uppers = .ok upperValues ∧
      encodeBFloat16 upperValues = [0xC0, 0xFF, 0x80, 0x3F] ∧
      (∃ words : List BFloat16, encodeWords words = uppers ∧
        encodeBFloat16 upperValues = encodeWords (words.map Word.withoutPayload)) ∧
      (∃ words : List Binary16, decodeWords halves = .ok words ∧ encodeWords words = halves) ∧
      (∃ kept, decodeBFloat16 (encodeBFloat16 [.ofNat 0x3F80FFFF]) = .ok kept ∧
        List.Forall₂ Truncates [.ofNat 0x3F80FFFF] kept) ∧
      decodeBFloat16 [0x81] = .error (.encoding (.oddHalfPayload 1)) := by
  intro halves halfValues uppers upperValues
  obtain ⟨hwords, hread, hquieted, hbare, htruncates⟩ := payloads_reencoded
  obtain ⟨hreads, _, hback⟩ := hwords Format.binary16 rfl
  have hhalves : decodeBinary16 halves = .ok halfValues := by decide +kernel
  have huppers : decodeBFloat16 uppers = .ok upperValues := by decide +kernel
  have heven : halves.length % 2 = 0 := by decide
  obtain ⟨words, hdecoded, _⟩ := (hreads halves).even heven
  refine ⟨rfl, heven, hhalves, by decide +kernel, hquieted halves halfValues hhalves, huppers,
    by decide +kernel, hbare uppers upperValues huppers, ⟨words, hdecoded, hback _ _ hdecoded⟩,
    htruncates _, (hread [0x81]).2.odd (by decide)⟩

end HalfVector

end VectorClient
