import VectorClient.DataError
import VectorClient.Ieee.Half
import VectorClient.LittleEndian

/-!
# Half-precision vectors

Binary16 elements are converted by rounding to nearest, bfloat16 elements by
cutting off the lower half of a binary32 word. A payload holds its elements one
after another, two bytes each, least significant byte first.
-/

namespace VectorClient.HalfVector

open Ieee

/-- The nearest value of half precision; from 65520 on it is an infinity. -/
def toBinary16 (x : Binary32) : Binary16 :=
  .ofMagnitude x.isNegative (narrowMagnitude x.magnitude)

def ofBinary16 (h : Binary16) : Binary32 :=
  .ofMagnitude h.isNegative (widenMagnitude h.magnitude)

/-- The upper half of the word; a NaN becomes the quiet NaN of its sign, so that
cutting off its payload cannot turn it into an infinity. -/
def toBFloat16 (x : Binary32) : BFloat16 :=
  if x.isNaN then
    Word.ofMagnitude x.isNegative (Format.bfloat16.infinity + Format.bfloat16.quietBit)
  else Word.ofNat (x.toNat >>> 16)

def ofBFloat16 (h : BFloat16) : Binary32 := Word.ofNat (h.toNat <<< 16)

variable {f : Format}

def encodeWords (words : List (Word f)) : List UInt8 :=
  words.flatMap fun w => LittleEndian.encode 2 w.toNat

/-- The words of a payload, an odd byte at the end being left out. -/
def wordsOf : List UInt8 → List (Word f)
  | low :: high :: rest => Word.ofNat (LittleEndian.decode [low, high]) :: wordsOf rest
  | _ => []

/-- The words of a payload, which has two bytes for each of them. -/
def decodeWords (payload : List UInt8) : Except DataError (List (Word f)) :=
  if payload.length % 2 = 0 then .ok (wordsOf payload)
  else .error (.encoding (.oddHalfPayload payload.length))

def encodeBinary16 (values : List Binary32) : List UInt8 := encodeWords (values.map toBinary16)

def encodeBFloat16 (values : List Binary32) : List UInt8 := encodeWords (values.map toBFloat16)

def decodeBinary16 (payload : List UInt8) : Except DataError (List Binary32) :=
  (decodeWords payload).map (List.map ofBinary16)

def decodeBFloat16 (payload : List UInt8) : Except DataError (List Binary32) :=
  (decodeWords payload).map (List.map ofBFloat16)

end VectorClient.HalfVector
