import Mathlib.Data.List.Basic
import VectorClient.Column.Cutting

/-!
# Ranges of rows

`between` takes a range of rows out of a column at every depth and cannot fail.
Cutting a column that is not ragged gives exactly that range, and appending two
neighbouring ranges gives the range that covers both. Names, layouts and row
counts of cut and joined columns follow from the layout alone.
-/

namespace VectorClient.Column

mutual

/-- The rows from `start` up to `stop`, as many of them as there are. -/
def between (start stop : Nat) : Column → Column
  | flat name kind rows => flat name kind ((rows.take stop).drop start)
  | struct name parts => struct name (partsBetween start stop parts)

def partsBetween (start stop : Nat) : List Column → List Column
  | [] => []
  | part :: rest => between start stop part :: partsBetween start stop rest

end

mutual

/-- The column has `n` rows, and so has every part of it at every depth. -/
def Even (n : Nat) : Column → Prop
  | flat _ _ rows => rows.length = n
  | struct name parts => rowCount (struct name parts) = n ∧ EvenParts n parts

def EvenParts (n : Nat) : List Column → Prop
  | [] => True
  | part :: rest => Even n part ∧ EvenParts n rest

end

theorem partsBetween_eq_map (start stop : Nat) (parts : List Column) :
    partsBetween start stop parts = parts.map (between start stop) := by
  induction parts with
  | nil => rfl
  | cons part rest ih => rw [partsBetween, ih, List.map_cons]

theorem evenParts_iff {n : Nat} {parts : List Column} :
    EvenParts n parts ↔ ∀ part ∈ parts, part.Even n := by
  induction parts with
  | nil => simp [EvenParts]
  | cons part rest ih => rw [EvenParts, ih, List.forall_mem_cons]

theorem Even.rowCount {n : Nat} {c : Column} (h : c.Even n) : c.rowCount = n := by
  cases c with
  | flat => exact h
  | struct => exact h.1

theorem ragged?_eq_none {n : Nat} {columns : List Column} :
    ragged? n columns = none ↔ ∀ c ∈ columns, c.rowCount = n := by
  rw [ragged?, List.find?_eq_none]
  simp

@[simp] theorem between_name (start stop : Nat) (c : Column) :
    (c.between start stop).name = c.name := by
  cases c <;> rfl

theorem between_rowCount (start stop : Nat) (c : Column) :
    (c.between start stop).rowCount = min stop c.rowCount - start := by
  induction c using Column.rowCount.induct with
  | case1 name kind rows => simp [between, Column.rowCount]
  | case2 name => simp [between, partsBetween, Column.rowCount]
  | case3 name part rest ih => simpa only [between, partsBetween, Column.rowCount] using ih

@[simp] theorem rowsOf?_flat (name : String) (kind : RowKind) (rows : List kind.Row) :
    (flat name kind rows).rowsOf? kind = some rows := by
  simp [rowsOf?]

theorem eq_flat_of_rowsOf? {kind : RowKind} {rows : List kind.Row} {c : Column}
    (h : c.rowsOf? kind = some rows) : c = flat c.name kind rows := by
  cases c with
  | struct => cases h
  | flat name k rows' =>
      by_cases hk : k = kind
      · subst hk
        rw [rowsOf?_flat, Option.some.injEq] at h
        rw [h]
        rfl
      · simp [rowsOf?, hk] at h

theorem rowsOf?_between (kind : RowKind) (start stop : Nat) (c : Column) :
    (c.between start stop).rowsOf? kind =
      (c.rowsOf? kind).map fun rows => (rows.take stop).drop start := by
  cases c with
  | struct => rfl
  | flat name k rows =>
      by_cases h : k = kind
      · subst h
        simp [between, rowsOf?]
      · simp [between, rowsOf?, h]

mutual

theorem even_between {n start stop : Nat} :
    ∀ {c : Column}, c.Even n → (c.between start stop).Even (min stop n - start)
  | flat _ _ rows, h => by
      simp only [Even] at h
      simp [between, Even, h]
  | struct name parts, h => by
      refine ⟨?_, evenParts_between h.2⟩
      have hrows := between_rowCount start stop (struct name parts)
      rw [h.1] at hrows
      exact hrows

theorem evenParts_between {n start stop : Nat} :
    ∀ {parts : List Column}, EvenParts n parts →
      EvenParts (min stop n - start) (partsBetween start stop parts)
  | [], _ => trivial
  | _ :: _, h => ⟨even_between h.1, evenParts_between h.2⟩

end

mutual

theorem between_between (a b i j : Nat) :
    ∀ c : Column, (c.between a b).between i j = c.between (a + i) (min b (a + j))
  | flat name kind rows => by
      simp only [between]
      rw [List.take_drop, List.take_take, List.drop_drop, Nat.min_comm]
  | struct name parts => by
      simp only [between]
      rw [partsBetween_partsBetween a b i j parts]

theorem partsBetween_partsBetween (a b i j : Nat) :
    ∀ parts : List Column, partsBetween i j (partsBetween a b parts) =
      partsBetween (a + i) (min b (a + j)) parts
  | [] => rfl
  | part :: rest => by
      simp only [partsBetween]
      rw [between_between a b i j part, partsBetween_partsBetween a b i j rest]

end

mutual

/-- Rows behind the last one make no difference. -/
theorem between_min {n : Nat} (start stop : Nat) :
    ∀ {c : Column}, c.Even n → c.between start (min stop n) = c.between start stop
  | flat name kind rows, h => by
      simp only [Even] at h
      simp only [between]
      rw [← h, ← List.take_take, List.take_length]
  | struct name parts, h => by
      simp only [between]
      rw [partsBetween_min start stop h.2]

theorem partsBetween_min {n : Nat} (start stop : Nat) :
    ∀ {parts : List Column}, EvenParts n parts →
      partsBetween start (min stop n) parts = partsBetween start stop parts
  | [], _ => rfl
  | _ :: _, h => by
      simp only [partsBetween]
      rw [between_min start stop h.1, partsBetween_min start stop h.2]

end

mutual

/-- A range that begins within a column that is not ragged can be cut out. -/
theorem slice_eq_between {n start stop : Nat} (hlt : start < stop) (hn : start < n) :
    ∀ {c : Column}, c.Even n → slice start stop c = .ok (c.between start stop)
  | flat name kind rows, h => by
      simp only [Even] at h
      rw [slice, if_neg (by omega), between]
  | struct name parts, h => by
      have hrows : Column.rowCount (struct name parts) = n := h.1
      rw [slice, hrows, if_neg (by omega),
        sliceParts_eq_between (Nat.lt_min.mpr ⟨hlt, hn⟩) hn h.2, between,
        partsBetween_min start stop h.2]
      rfl

theorem sliceParts_eq_between {n start stop : Nat} (hlt : start < stop) (hn : start < n) :
    ∀ {parts : List Column}, EvenParts n parts →
      sliceParts start stop parts = .ok (partsBetween start stop parts)
  | [], _ => rfl
  | _ :: _, h => by
      rw [sliceParts, slice_eq_between hlt hn h.1, sliceParts_eq_between hlt hn h.2]
      rfl

end

/-- What a cut that succeeded says about its column, also where parts are ragged. -/
theorem slice_ok {start stop : Nat} {c c' : Column} (h : slice start stop c = .ok c') :
    c'.name = c.name ∧ c'.rowCount = min stop c.rowCount - start ∧
      start < stop ∧ start < c.rowCount := by
  induction c using Column.rowCount.induct generalizing stop c' with
  | case1 name kind rows =>
      rw [slice] at h
      split at h
      · cases h
      · cases h
        refine ⟨rfl, by simp [Column.rowCount], ?_, ?_⟩
        · omega
        · simp only [Column.rowCount]
          omega
  | case2 name =>
      rw [slice, if_pos (by simp [Column.rowCount])] at h
      cases h
  | case3 name part rest ih =>
      rw [slice] at h
      split at h
      · cases h
      · rename_i hrange
        simp only [Column.rowCount] at hrange h ⊢
        rw [sliceParts] at h
        cases hpart : slice start (min stop part.rowCount) part with
        | error e => rw [hpart] at h; cases h
        | ok part' =>
            cases hrest : sliceParts start (min stop part.rowCount) rest with
            | error e => rw [hpart, hrest] at h; cases h
            | ok rest' =>
                rw [hpart, hrest] at h
                cases h
                have hcount := (ih hpart).2.1
                refine ⟨rfl, ?_, by omega, by omega⟩
                rw [Column.rowCount, hcount, Nat.min_assoc, Nat.min_self]

theorem slice_rowsOf? {kind : RowKind} {start stop : Nat} {c c' : Column}
    (h : slice start stop c = .ok c') :
    c'.rowsOf? kind = (c.rowsOf? kind).map fun rows => (rows.take stop).drop start := by
  cases c with
  | flat name k rows =>
      have hrange := (slice_ok h).2.2
      simp only [Column.rowCount] at hrange
      rw [slice, if_neg (by omega)] at h
      cases h
      exact rowsOf?_between kind start stop (flat name k rows)
  | struct name parts =>
      rw [slice] at h
      split at h
      · cases h
      · cases hparts : sliceParts start (min stop (struct name parts).rowCount) parts with
        | error e => rw [hparts] at h; cases h
        | ok parts' =>
            rw [hparts] at h
            cases h
            rfl

mutual

@[simp] theorem emptyLike_between (start stop : Nat) :
    ∀ c : Column, (c.between start stop).emptyLike = c.emptyLike
  | flat _ _ _ => rfl
  | struct name parts => by
      simp only [between, emptyLike, emptyParts_between start stop parts]

theorem emptyParts_between (start stop : Nat) :
    ∀ parts : List Column, emptyParts (partsBetween start stop parts) = emptyParts parts
  | [] => rfl
  | part :: rest => by
      simp only [partsBetween, emptyParts, emptyLike_between start stop part,
        emptyParts_between start stop rest]

end

mutual

/-- An empty range leaves the layout alone. -/
theorem between_self (start : Nat) : ∀ c : Column, c.between start start = c.emptyLike
  | flat name kind rows => by
      rw [between, emptyLike, List.drop_of_length_le (by rw [List.length_take]; omega)]
  | struct name parts => by
      simp only [between, emptyLike, partsBetween_self start parts]

theorem partsBetween_self (start : Nat) :
    ∀ parts : List Column, partsBetween start start parts = emptyParts parts
  | [] => rfl
  | part :: rest => by
      simp only [partsBetween, emptyParts, between_self start part, partsBetween_self start rest]

end

mutual

/-- The first rows of a column that was cut at its beginning can be cut out again, also where
parts are ragged. -/
theorem exists_slice_of_slice {count shorter : Nat} (hpos : 0 < shorter) :
    ∀ {c c' : Column}, slice 0 count c = .ok c' → ∃ c'', slice 0 shorter c' = .ok c''
  | flat name kind rows, c', h => by
      obtain ⟨_, _, hcount, hrows⟩ := slice_ok h
      simp only [Column.rowCount] at hrows
      rw [slice, if_neg (by omega)] at h
      cases h
      have hleft : ¬ (shorter ≤ 0 ∨ ((rows.take count).drop 0).length ≤ 0) := by
        rw [List.length_drop, List.length_take]
        omega
      exact ⟨_, by rw [slice, if_neg hleft]⟩
  | struct name parts, c', h => by
      obtain ⟨_, hcut, hcount, hrows⟩ := slice_ok h
      rw [slice, if_neg (by omega)] at h
      cases hparts : sliceParts 0 (min count (struct name parts).rowCount) parts with
      | error e => rw [hparts] at h; cases h
      | ok parts' =>
          rw [hparts] at h
          cases h
          have hleft : 0 < min shorter (struct name parts').rowCount := by omega
          obtain ⟨parts'', hshorter⟩ := exists_sliceParts_of_sliceParts hleft hparts
          exact ⟨_, by rw [slice, if_neg (by omega), hshorter]; rfl⟩

theorem exists_sliceParts_of_sliceParts {count shorter : Nat} (hpos : 0 < shorter) :
    ∀ {parts parts' : List Column}, sliceParts 0 count parts = .ok parts' →
      ∃ parts'', sliceParts 0 shorter parts' = .ok parts''
  | [], _, h => by
      cases h
      exact ⟨[], rfl⟩
  | part :: rest, _, h => by
      rw [sliceParts] at h
      cases hpart : slice 0 count part with
      | error e => rw [hpart] at h; cases h
      | ok part' =>
          cases hrest : sliceParts 0 count rest with
          | error e => rw [hpart, hrest] at h; cases h
          | ok rest' =>
              rw [hpart, hrest] at h
              cases h
              obtain ⟨part'', hpart'⟩ := exists_slice_of_slice hpos hpart
              obtain ⟨rest'', hrest'⟩ := exists_sliceParts_of_sliceParts hpos hrest
              exact ⟨part'' :: rest'', by rw [sliceParts, hpart', hrest']; rfl⟩

end

end VectorClient.Column
