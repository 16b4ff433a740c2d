import VectorClient.PrimaryKey
import VectorClient.Proofs.Column.Join

/-!
# Keys of columns

The keys that a column holds, row by row, are cut and joined where the column is. A column of
another type holds none, but if it has no rows either, none is missing.
-/

namespace VectorClient

namespace PrimaryKey

variable {c d e : Column} {keys keys' : List PrimaryKey} {start stop : Nat}

theorem ofColumn?_cases (h : ofColumn? c = some keys) :
    (∃ rows, c.rowsOf? (.scalar .int64) = some rows ∧ keys = rows.map .int) ∨
    (c.rowsOf? (.scalar .int64) = none ∧
      ∃ rows, c.rowsOf? (.scalar .varChar) = some rows ∧ keys = rows.map .text) ∨
    c.rowCount = 0 ∧ keys = [] := by
  rw [ofColumn?] at h
  split at h
  · rename_i hrows
    cases h
    exact .inl ⟨_, hrows, rfl⟩
  · rename_i hnone hrows
    cases h
    exact .inr (.inl ⟨hnone, _, hrows, rfl⟩)
  · split at h
    · rename_i hempty
      cases h
      exact .inr (.inr ⟨beq_iff_eq.mp hempty, rfl⟩)
    · cases h

theorem ofColumn?_ints {rows : List Int64} (h : c.rowsOf? (.scalar .int64) = some rows) :
    ofColumn? c = some (rows.map .int) := by
  rw [ofColumn?, h]

theorem ofColumn?_texts {rows : List String} (hints : c.rowsOf? (.scalar .int64) = none)
    (h : c.rowsOf? (.scalar .varChar) = some rows) : ofColumn? c = some (rows.map .text) := by
  rw [ofColumn?, hints, h]

theorem length_of_ofColumn? (h : ofColumn? c = some keys) : keys.length = c.rowCount := by
  rcases ofColumn?_cases h with ⟨rows, hrows, rfl⟩ | ⟨_, rows, hrows, rfl⟩ | ⟨hzero, rfl⟩
  · rw [Column.eq_flat_of_rowsOf? hrows, List.length_map]
    rfl
  · rw [Column.eq_flat_of_rowsOf? hrows, List.length_map]
    rfl
  · exact hzero.symm

theorem ofColumn?_slice (h : Column.slice start stop c = .ok d) (hkeys : ofColumn? c = some keys) :
    ofColumn? d = some ((keys.take stop).drop start) := by
  rcases ofColumn?_cases hkeys with ⟨rows, hrows, rfl⟩ | ⟨hnone, rows, hrows, rfl⟩ | ⟨hzero, _⟩
  · rw [← List.map_take, ← List.map_drop]
    refine ofColumn?_ints ?_
    rw [Column.slice_rowsOf? h, hrows]
    rfl
  · rw [← List.map_take, ← List.map_drop]
    refine ofColumn?_texts ?_ ?_
    · rw [Column.slice_rowsOf? h, hnone]
      rfl
    · rw [Column.slice_rowsOf? h, hrows]
      rfl
  · -- nothing can be cut out of a column without rows
    have hrange := (Column.slice_ok h).2.2.2
    omega

theorem ofRow?_slice {row : Nat} {key : PrimaryKey} (h : Column.slice start stop c = .ok d)
    (hkey : ofRow? c (start + row) = some key) (hrow : start + row < stop) :
    ofRow? d row = some key := by
  rw [ofRow?] at hkey ⊢
  rw [Column.slice_rowsOf? h, Column.slice_rowsOf? h]
  split at hkey
  · rename_i rows hrows
    rw [← List.getElem?_take_of_lt hrow, ← List.getElem?_drop] at hkey
    rw [hrows]
    exact hkey
  · rename_i rows hnone hrows
    rw [← List.getElem?_take_of_lt hrow, ← List.getElem?_drop] at hkey
    rw [hnone, hrows]
    exact hkey
  · cases hkey

theorem ofColumn?_other (hints : c.rowsOf? (.scalar .int64) = none)
    (htexts : c.rowsOf? (.scalar .varChar) = none) :
    ofColumn? c = if c.rowCount = 0 then some [] else none := by
  rw [ofColumn?, hints, htexts, Column.isEmpty]
  simp only [beq_iff_eq]

/-- The keys of the second column follow those of the first. A column without rows has no key
that would be missing, whatever its type. -/
theorem ofColumn?_joined (h : Column.Joined c d e) :
    ofColumn? e = (ofColumn? c).bind fun keys => (ofColumn? d).map (keys ++ ·) := by
  have hcount := h.rowCount_eq
  cases hints : c.rowsOf? (.scalar .int64) with
  | some rows =>
      rw [Column.eq_flat_of_rowsOf? hints] at h ⊢
      cases h
      simp [ofColumn?_ints (Column.rowsOf?_flat _ _ _)]
  | none =>
      cases htexts : c.rowsOf? (.scalar .varChar) with
      | some rows =>
          rw [Column.eq_flat_of_rowsOf? htexts] at h ⊢
          cases h
          simp [ofColumn?_texts rfl (Column.rowsOf?_flat _ _ _)]
      | none =>
          obtain ⟨hints', hints''⟩ := h.rowsOf?_eq_none hints
          obtain ⟨htexts', htexts''⟩ := h.rowsOf?_eq_none htexts
          rw [ofColumn?_other hints htexts, ofColumn?_other hints' htexts',
            ofColumn?_other hints'' htexts'', hcount]
          by_cases hc : c.rowCount = 0
          · by_cases hd : d.rowCount = 0
            · simp [hc, hd]
            · simp [hc, hd]
          · simp [hc]

/-- Columns of the types of keys hold nothing else. -/
theorem exists_ofColumn? (h : c.dataType.isPrimaryKeyType = true) :
    ∃ keys, ofColumn? c = some keys := by
  cases c with
  | struct => cases h
  | flat name kind rows =>
      cases kind with
      | scalar s =>
          cases s with
          | int64 => exact ⟨_, ofColumn?_ints (Column.rowsOf?_flat _ _ _)⟩
          | varChar => exact ⟨_, ofColumn?_texts rfl (Column.rowsOf?_flat _ _ _)⟩
          | _ => cases h
      | _ => cases h

end PrimaryKey

end VectorClient
