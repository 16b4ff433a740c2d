import VectorClient.Proofs.Column.Range
import VectorClient.Proofs.Lists
import VectorClient.Proofs.SparseVector
import VectorClient.Wire.Document

/-!
# Where sparse vectors come from

A sparse vector is made by one of the constructors or is read from JSON, alone or as a row of
a column. `Sound` is what its users rely on: the indices ascend, every stored value is found
at its index, and the payload is taken back. Made vectors are sound. Reading takes the pairs as
they are listed, and the vector that was read is sound exactly if the constructor for pairs in
order would have accepted them.
-/

namespace VectorClient

namespace Column

mutual

/-- The sparse vectors among the rows of a column and of its parts. -/
def sparseVectors : Column → List SparseVector
  | flat _ .sparseVector rows => rows
  | flat _ _ _ => []
  | struct _ parts => partVectors parts

def partVectors : List Column → List SparseVector
  | [] => []
  | part :: rest => sparseVectors part ++ partVectors rest

end

theorem mem_partVectors {v : SparseVector} {parts : List Column} :
    v ∈ partVectors parts ↔ ∃ part ∈ parts, v ∈ part.sparseVectors := by
  induction parts with
  | nil => simp [partVectors]
  | cons part rest ih => simp [partVectors, ih]

end Column

namespace Wire

open Json

theorem exists_of_mem_list {α : Type} {r : Reading α} {levels : Nat} {tree : Tree}
    {values : List α} (h : Reading.list r levels tree = some values) {value : α}
    (hvalue : value ∈ values) : ∃ levels' tree', r levels' tree' = some value := by
  cases levels with
  | zero => cases h
  | succ levels =>
      cases tree with
      | array items =>
          obtain ⟨item, _, hread⟩ := exists_of_mem_mapM h hvalue
          exact ⟨levels, item, hread⟩
      | _ => cases h

/-- A vector that was read as one of a column was read as any other. -/
def ReadAlone (v : SparseVector) : Prop := ∃ levels tree, sparseReading levels tree = some v

theorem readAlone_of_flat {kind : RowKind} {name : String} {levels : Nat} {tree : Tree}
    {rows : List kind.Row} (h : Reading.list (rowReading kind) levels tree = some rows)
    {v : SparseVector} (hv : v ∈ (Column.flat name kind rows).sparseVectors) : ReadAlone v := by
  cases kind with
  | sparseVector => exact exists_of_mem_list h hv
  | _ => cases hv

theorem readAlone_of_array {name : String} {levels : Nat} {tree : Tree} {c : Column}
    (h : arrayReading name levels tree = some c) : ∀ v ∈ c.sparseVectors, ReadAlone v := by
  rw [arrayReading.eq_def] at h
  split at h
  · obtain ⟨s, _, h⟩ := Option.bind_eq_some_iff.mp h
    obtain ⟨rows, hrows, h⟩ := Option.bind_eq_some_iff.mp h
    cases h
    exact fun v => readAlone_of_flat hrows
  · cases h

mutual

theorem readAlone_of_column : ∀ {levels : Nat} {tree : Tree} {c : Column},
    columnReading levels tree = some c → ∀ v ∈ c.sparseVectors, ReadAlone v
  | 0, _, _, h => by cases h
  | levels + 1, tree, c, h => by
      rw [columnReading] at h
      obtain ⟨⟨_, fields⟩, _, h⟩ := Option.bind_eq_some_iff.mp h
      dsimp only at h
      split at h
      · obtain ⟨name, _, h⟩ := Option.bind_eq_some_iff.mp h
        obtain ⟨values, _, h⟩ := Option.bind_eq_some_iff.mp h
        exact readAlone_of_values h
      · cases h

theorem readAlone_of_values : ∀ {name : String} {levels : Nat} {tree : Tree} {c : Column},
    valuesReading name levels tree = some c → ∀ v ∈ c.sparseVectors, ReadAlone v
  | _, 0, _, _, h => by cases h
  | name, levels + 1, tree, c, h => by
      rw [valuesReading.eq_def] at h
      split at h
      · split at h
        · obtain ⟨parts, hparts, h⟩ := Option.map_eq_some_iff.mp h
          subst h
          exact readAlone_of_parts hparts
        split at h
        · exact readAlone_of_array h
        · obtain ⟨kind, _, h⟩ := Option.bind_eq_some_iff.mp h
          obtain ⟨rows, hrows, h⟩ := Option.bind_eq_some_iff.mp h
          cases h
          exact fun v => readAlone_of_flat hrows
      · cases h

theorem readAlone_of_parts : ∀ {levels : Nat} {tree : Tree} {parts : List Column},
    partsReading levels tree = some parts → ∀ v ∈ Column.partVectors parts, ReadAlone v
  | 0, _, _, h => by cases h
  | levels + 1, tree, parts, h => by
      intro v hv
      obtain ⟨part, hpart, hmem⟩ := Column.mem_partVectors.mp hv
      cases tree with
      | array items =>
          obtain ⟨item, _, hread⟩ := exists_of_mem_mapM h hpart
          exact readAlone_of_column hread v hmem
      | _ => cases h

end

end Wire

namespace SparseVector

open Wire

/-- What the users of a sparse vector rely on. -/
structure Sound (v : SparseVector) : Prop where
  ascending : v.Ascending
  /-- The value at an index is the stored one, and nothing is found where none is stored. -/
  get?_eq_some_iff : ∀ i x, v.get? i = some x ↔ (i, x) ∈ v.pairs
  ofBytes_toBytes : ofBytes v.toBytes = .ok v

theorem Ascending.sound {v : SparseVector} (h : v.Ascending) : v.Sound where
  ascending := h
  get?_eq_some_iff _ _ := h.get?_eq_some_iff
  ofBytes_toBytes := ofBytes_toBytes_eq_ok_iff.mpr h

theorem sound_iff {v : SparseVector} : v.Sound ↔ ofSorted v.pairs = .ok v := by
  rw [ofSorted_eq_ok_iff, and_iff_right rfl]
  constructor
  · exact Sound.ascending
  · exact Ascending.sound

/-- The vectors that the constructors make. -/
inductive Made : SparseVector → Prop
  | empty : Made empty
  | ofPairs {pairs : List (UInt32 × Ieee.Binary32)} {v : SparseVector}
      (h : ofPairs pairs = .ok v) : Made v
  | ofSorted {pairs : List (UInt32 × Ieee.Binary32)} {v : SparseVector}
      (h : ofSorted pairs = .ok v) : Made v
  | ofMap (pairs : List (UInt32 × Ieee.Binary32)) : Made (ofMap pairs)
  | ofBytes {bytes : List UInt8} {v : SparseVector} (h : ofBytes bytes = .ok v) : Made v

/-- The vectors that are read from a text, alone or as a row of a column at any depth. -/
inductive Read : SparseVector → Prop
  | alone {text : String} {v : SparseVector} (h : Document.read? text = some v) : Read v
  | inColumn {text : String} {c : Column} {v : SparseVector} (h : Document.read? text = some c)
      (hv : v ∈ c.sparseVectors) : Read v

theorem Made.ascending {v : SparseVector} (h : Made v) : v.Ascending := by
  cases h with
  | empty => exact .nil
  | ofPairs h => exact ascending_of_ofPairs h
  | ofSorted h => exact (ofSorted_eq_ok_iff.mp h).2
  | ofMap pairs => exact ascending_ofMap pairs
  | ofBytes h => exact ascending_of_ofBytes h

theorem Read.readAlone {v : SparseVector} (h : Read v) : ReadAlone v := by
  cases h with
  | alone h =>
      obtain ⟨tree, _, hread⟩ := Option.bind_eq_some_iff.mp h
      exact ⟨_, tree, hread⟩
  | inColumn h hv =>
      obtain ⟨tree, _, hread⟩ := Option.bind_eq_some_iff.mp h
      exact readAlone_of_column hread _ hv

/-- A sparse vector is sound whichever constructor has made it: its indices ascend, every stored
value and no other is found, and its payload gives the vector back. In general it is sound exactly
if the constructor for pairs in order accepts its pairs. One that is not was read from a text,
wherever it stood there, by the reading that takes the pairs as they come, and its payload is
refused. -/
theorem sound_of_made {v : SparseVector} (h : Made v ∨ Read v) :
    (Made v → v.Sound) ∧ (v.Sound ↔ ofSorted v.pairs = .ok v) ∧
      (¬ v.Sound → Read v ∧ ReadAlone v ∧
        ofBytes v.toBytes = .error (.encoding .unsortedIndices)) := by
  have hmade : Made v → v.Sound := fun hv => hv.ascending.sound
  refine ⟨hmade, sound_iff, ?_⟩
  intro hunsound
  have hread : Read v := h.resolve_left fun hv => hunsound (hmade hv)
  refine ⟨hread, hread.readAlone, ?_⟩
  rw [ofBytes_toBytes]
  exact ofSorted_eq_error fun hasc => hunsound (Ascending.sound hasc)

namespace Sample

/-- A column of one sparse vector, whose pairs are listed in order. -/
def column : String :=
  "\x7b\"name\":\"v\",\"column\":\x7b\"SparseFloatVector\":" ++
    "[\x7b\"data\":[[1,1],[3,2]]\x7d]\x7d\x7d"

/-- Two pairs in descending order. -/
def descending : String := "\x7b\"data\":[[3,1],[1,2]]\x7d"

end Sample

/-- Pairs that come unsorted, and a vector that is read as a row of a column. -/
theorem sound_of_made_unsorted :
    (∃ v, Made v ∧ v.indices = [1, 3, 7] ∧ v.Sound) ∧
    ∃ v, Read v ∧ v.indices = [1, 3] ∧ v.Sound := by
  constructor
  · have h : ofPairs [(7, .ofNat 1), (1, .ofNat 2), (3, .ofNat 3)] =
        .ok ⟨[(1, .ofNat 2), (3, .ofNat 3), (7, .ofNat 1)]⟩ := by
      simp [ofPairs, List.mergeSort, firstRepeated]
    have hv := Made.ofPairs h
    exact ⟨_, hv, rfl, (sound_of_made (.inl hv)).1 hv⟩
  · have hrows : (Document.read? Sample.column : Option Column).bind (·.rowsOf? .sparseVector) =
        some [⟨[(1, .ofInt 1), (3, .ofInt 2)]⟩] := by decide +kernel
    obtain ⟨c, hc, hrows⟩ := Option.bind_eq_some_iff.mp hrows
    have hv : Read ⟨[(1, .ofInt 1), (3, .ofInt 2)]⟩ := by
      apply Read.inColumn hc
      rw [Column.eq_flat_of_rowsOf? hrows]
      exact List.mem_singleton_self _
    obtain ⟨_, hsound, _⟩ := sound_of_made (.inr hv)
    exact ⟨_, hv, rfl, hsound.mpr (ofSorted_eq_ok_iff.mpr ⟨rfl, by decide⟩)⟩

/-- Out of order a stored index may be missed, and the payload is refused. -/
example :
    ∃ v : SparseVector, Document.read? Sample.descending = some v ∧ v.indices = [3, 1] ∧
      v.get? 3 = none ∧ (SparseVector.ofBytes v.toBytes).isOk = false := by
  refine ⟨⟨[(3, .ofInt 1), (1, .ofInt 2)]⟩, ?_⟩
  decide +kernel

end SparseVector

end VectorClient
