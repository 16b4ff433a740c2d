import VectorClient.DataError
import VectorClient.Ieee.Word
import VectorClient.LittleEndian

/-!
# Sparse vectors

A sparse vector lists the indices it stores with their values. The constructors
give ascending indices without repetition; a vector that was decoded from JSON
keeps the list it was given. The byte form is eight bytes a pair, the index
before the bits of the value, and is accepted only in ascending order.
-/

namespace VectorClient

open Ieee

structure SparseVector where
  pairs : List (UInt32 × Binary32)
deriving DecidableEq, Repr, Inhabited

namespace SparseVector

def empty : SparseVector := ⟨[]⟩

def indices (v : SparseVector) : List UInt32 := v.pairs.map (·.1)

def values (v : SparseVector) : List Binary32 := v.pairs.map (·.2)

/-- The first index that is followed by itself. -/
def firstRepeated : List UInt32 → Option UInt32
  | i :: j :: rest => if i = j then some i else firstRepeated (j :: rest)
  | _ => none

def isAscending : List UInt32 → Bool
  | i :: j :: rest => decide (i < j) && isAscending (j :: rest)
  | _ => true

/-- Sorts the pairs by index and refuses a repeated index. -/
def ofPairs (pairs : List (UInt32 × Binary32)) : Except DataError SparseVector :=
  let sorted := pairs.mergeSort fun a b => decide (a.1 ≤ b.1)
  match firstRepeated (sorted.map (·.1)) with
  | some i => .error (.encoding (.duplicateIndex i.toNat))
  | none => .ok ⟨sorted⟩

/-- Takes pairs that are in order already. -/
def ofSorted (pairs : List (UInt32 × Binary32)) : Except DataError SparseVector :=
  if isAscending (pairs.map (·.1)) then .ok ⟨pairs⟩
  else .error (.encoding .unsortedIndices)

/-- Puts a pair into an ascending list, in place of one with its index. -/
def insertPair (p : UInt32 × Binary32) : List (UInt32 × Binary32) → List (UInt32 × Binary32)
  | [] => [p]
  | q :: rest =>
    if p.1 = q.1 then p :: rest
    else if p.1 < q.1 then p :: q :: rest
    else q :: insertPair p rest

/-- The pairs as a map from index to value: ascending, the last of several values counting. -/
def mapOf (pairs : List (UInt32 × Binary32)) : List (UInt32 × Binary32) :=
  pairs.foldl (fun m p => insertPair p m) []

def ofMap (pairs : List (UInt32 × Binary32)) : SparseVector := ⟨mapOf pairs⟩

/-- The pair at which halving ends. What is behind the middle is kept unless its first index is
above `i`. -/
def search (i : UInt32) (pairs : List (UInt32 × Binary32)) : Option (UInt32 × Binary32) :=
  if h : 1 < pairs.length then
    let middle := pairs.length / 2
    if i < pairs[middle].1 then search i (pairs.take (pairs.length - middle))
    else search i (pairs.drop middle)
  else pairs.head?
termination_by pairs.length

/-- The value stored at an index. It is sought by halving, so that of pairs which are not in
order some may be missed. -/
def get? (v : SparseVector) (i : UInt32) : Option Binary32 :=
  (search i v.pairs).bind fun p => if p.1 = i then some p.2 else none

def encodePair (p : UInt32 × Binary32) : List UInt8 :=
  LittleEndian.encode 4 p.1.toNat ++ LittleEndian.encode 4 p.2.toNat

def toBytes (v : SparseVector) : List UInt8 := v.pairs.flatMap encodePair

/-- The pairs of a payload, an incomplete one at the end being left out. -/
def pairsOfBytes : List UInt8 → List (UInt32 × Binary32)
  | a :: b :: c :: d :: e :: f :: g :: h :: rest =>
    (UInt32.ofNat (LittleEndian.decode [a, b, c, d]), Word.ofNat (LittleEndian.decode [e, f, g, h]))
      :: pairsOfBytes rest
  | _ => []

def ofBytes (bytes : List UInt8) : Except DataError SparseVector :=
  if bytes.length % 8 = 0 then ofSorted (pairsOfBytes bytes)
  else .error (.encoding (.raggedSparsePayload bytes.length))

/-- Equality of the stored values as numbers. -/
def sameValue (a b : SparseVector) : Bool :=
  a.pairs.length == b.pairs.length
    && (a.pairs.zip b.pairs).all fun (p, q) => p.1 == q.1 && p.2.sameValue q.2

end SparseVector

end VectorClient
