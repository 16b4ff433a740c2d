import VectorClient.Proofs.Column.Range
import VectorClient.Proofs.Lists
import VectorClient.ResultSet

/-!
# Records

A record is one row of a result set, read by column name: the order in which the
columns stand does not matter to it. `records` lists the rows of a result set, and
cutting a range out of columns that are not ragged is `take` and `drop` on that
list. What a cut that succeeded says about single columns holds for ragged ones
as well.
-/

namespace VectorClient

/-- One row by column name: the column of that name, with this row alone. -/
abbrev Record := String → Option Column

/-- The primary key that a record holds under a name. -/
def Record.key? (name : String) (record : Record) : Option PrimaryKey :=
  (record name).bind fun c => PrimaryKey.ofRow? c 0

theorem PrimaryKey.ofRow?_between (c : Column) (row : Nat) :
    ofRow? (c.between row (row + 1)) 0 = ofRow? c row := by
  cases c with
  | struct => rfl
  | flat name kind rows =>
      simp only [ofRow?, Column.rowsOf?_between]
      cases Column.rowsOf? (.scalar .int64) (.flat name kind rows) with
      | some keys => simp
      | none => cases Column.rowsOf? (.scalar .varChar) (.flat name kind rows) <;> simp

namespace ResultSet

theorem find?_name_cons (c : Column) (rest : List Column) (name : String) :
    (c :: rest).find? (fun c => c.name == name) =
      if c.name = name then some c else rest.find? fun c => c.name == name := by
  rw [List.find?_cons]
  by_cases h : c.name = name
  · simp [h]
  · simp [h, beq_false_of_ne h]

/-- Columns that correspond under their names are found under the same name. -/
theorem find?_name_of_forall₂ {R : Column → Column → Prop} {columns columns' : List Column}
    (hname : ∀ c c', R c c' → c'.name = c.name) (h : List.Forall₂ R columns columns')
    {name : String} {c : Column} (hc : columns.find? (fun c => c.name == name) = some c) :
    ∃ c', columns'.find? (fun c => c.name == name) = some c' ∧ R c c' := by
  induction h with
  | nil => cases hc
  | @cons a b as bs hab _ ih =>
      rw [find?_name_cons] at hc ⊢
      rw [hname a b hab]
      split at hc
      · rename_i ha
        cases hc
        exact ⟨b, by rw [if_pos ha], hab⟩
      · rename_i ha
        rw [if_neg ha]
        exact ih hc

theorem names_of_forall₂ {R : Column → Column → Prop} {columns columns' : List Column}
    (hname : ∀ c c', R c c' → c'.name = c.name) (h : List.Forall₂ R columns columns') :
    columns'.map Column.name = columns.map Column.name := by
  induction h with
  | nil => rfl
  | cons hcut _ ih => rw [List.map_cons, List.map_cons, hname _ _ hcut, ih]

theorem column?_isSome_iff {r : ResultSet} {name : String} :
    (r.column? name).isSome ↔ name ∈ r.columns.map Column.name := by
  simp [column?]

def record (r : ResultSet) (row : Nat) : Record :=
  fun name => (r.column? name).map fun c => c.between row (row + 1)

def records (r : ResultSet) : List Record := (List.range r.rowCount).map r.record

@[simp] theorem length_records (r : ResultSet) : r.records.length = r.rowCount := by
  simp [records]

theorem records_of_rowCount_eq_zero {r : ResultSet} (h : r.rowCount = 0) : r.records = [] := by
  rw [records, h, List.range_zero, List.map_nil]

/-- No column is ragged, and all have `n` rows. -/
def Even (n : Nat) (r : ResultSet) : Prop := ∀ c ∈ r.columns, c.Even n

/-- Every column has `n` rows; the parts of a struct below the first may have others. -/
structure Level (n : Nat) (r : ResultSet) : Prop where
  rowCount : r.rowCount = n
  columns : ∀ c ∈ r.columns, c.rowCount = n

/-- The rows from `start` up to `stop` of every column, as many as there are. -/
def between (start stop : Nat) (r : ResultSet) : ResultSet :=
  { r with columns := r.columns.map (Column.between start stop) }

theorem Even.between {n : Nat} {r : ResultSet} (h : r.Even n) (start stop : Nat) :
    (r.between start stop).Even (min stop n - start) := by
  intro c hc
  obtain ⟨c', hc', rfl⟩ := List.mem_map.mp hc
  exact Column.even_between (h c' hc')

theorem Even.level {n : Nat} {r : ResultSet} (h : r.Even n) (hne : r.columns ≠ []) :
    r.Level n := by
  refine ⟨?_, fun c hc => (h c hc).rowCount⟩
  rw [rowCount]
  cases hcolumns : r.columns with
  | nil => exact absurd hcolumns hne
  | cons c rest => exact (h c (by rw [hcolumns]; exact List.mem_cons_self ..)).rowCount

theorem slice_eq_between {r : ResultSet} {n start stop : Nat} (h : r.Even n)
    (hlt : start < stop) (hn : start < n) : r.slice start stop = .ok (r.between start stop) := by
  rw [slice, Column.sliceParts_eq_between hlt hn (Column.evenParts_iff.mpr h),
    Column.partsBetween_eq_map]
  rfl

@[simp] theorem column?_between (start stop : Nat) (r : ResultSet) (name : String) :
    (r.between start stop).column? name = (r.column? name).map (Column.between start stop) := by
  simp only [column?, between, List.find?_map, Function.comp_def, Column.between_name]

theorem rowCount_between (start stop : Nat) (r : ResultSet) :
    (r.between start stop).rowCount = min stop r.rowCount - start := by
  cases hr : r.columns with
  | nil => simp [rowCount, between, rowCountOf, hr]
  | cons c rest =>
      simp only [rowCount, between, hr, List.map_cons, rowCountOf, Column.between_rowCount]

theorem record_between {start stop row : Nat} (r : ResultSet) (h : start + row < stop) :
    (r.between start stop).record row = r.record (start + row) := by
  funext name
  simp only [record, column?_between, Option.map_map]
  congr 1
  funext c
  rw [Function.comp_apply, Column.between_between,
    Nat.min_eq_right (by omega : start + (row + 1) ≤ stop), Nat.add_assoc]

/-- Cutting columns cuts the list of rows. -/
theorem records_between (start stop : Nat) (r : ResultSet) :
    (r.between start stop).records = (r.records.take stop).drop start := by
  apply List.ext_getElem
  · simp [rowCount_between]
  · intro row h _
    rw [length_records, rowCount_between] at h
    simp only [records, List.getElem_map, List.getElem_range, List.getElem_drop,
      List.getElem_take]
    exact record_between r (by omega)

theorem key?_record (r : ResultSet) (name : String) (row : Nat) :
    (r.record row).key? name = r.primaryKeyAt? name row := by
  simp only [Record.key?, record, primaryKeyAt?, Option.bind_map, Function.comp_def,
    PrimaryKey.ofRow?_between]

theorem key?_of_records {r : ResultSet} {name : String} {row : Nat} {record : Record}
    (h : r.records[row]? = some record) : record.key? name = r.primaryKeyAt? name row := by
  have hrow : row < r.rowCount := by
    rw [← length_records]
    exact (List.getElem?_eq_some_iff.mp h).1
  rw [records, List.getElem?_map, List.getElem?_range hrow, Option.map_some] at h
  rw [← Option.some.inj h]
  exact key?_record r name row

theorem sliceParts_ok {start stop : Nat} {parts parts' : List Column}
    (h : Column.sliceParts start stop parts = .ok parts') :
    List.Forall₂ (fun c c' => Column.slice start stop c = .ok c') parts parts' := by
  induction parts generalizing parts' with
  | nil =>
      cases h
      exact .nil
  | cons part rest ih =>
      rw [Column.sliceParts] at h
      cases hpart : Column.slice start stop part with
      | error e => rw [hpart] at h; cases h
      | ok part' =>
          cases hrest : Column.sliceParts start stop rest with
          | error e => rw [hpart, hrest] at h; cases h
          | ok rest' =>
              rw [hpart, hrest] at h
              cases h
              exact .cons hpart (ih hrest)

/-- A cut of a result set cuts every column. -/
theorem slice_ok {r r' : ResultSet} {start stop : Nat} (h : r.slice start stop = .ok r') :
    r'.outputNames = r.outputNames ∧
      List.Forall₂ (fun c c' => Column.slice start stop c = .ok c') r.columns r'.columns := by
  rw [slice] at h
  cases hparts : Column.sliceParts start stop r.columns with
  | error e => rw [hparts] at h; cases h
  | ok columns =>
      rw [hparts] at h
      cases h
      exact ⟨rfl, sliceParts_ok hparts⟩

theorem column?_slice {r r' : ResultSet} {start stop : Nat} (h : r.slice start stop = .ok r')
    {name : String} {c : Column} (hc : r.column? name = some c) :
    ∃ c', r'.column? name = some c' ∧ Column.slice start stop c = .ok c' :=
  find?_name_of_forall₂ (fun _ _ hs => (Column.slice_ok hs).1) (slice_ok h).2 hc

theorem rowCount_slice {r r' : ResultSet} {start stop : Nat} (h : r.slice start stop = .ok r') :
    r'.rowCount = min stop r.rowCount - start := by
  obtain ⟨_, hcols⟩ := slice_ok h
  simp only [rowCount]
  generalize r.columns = columns at hcols
  generalize r'.columns = columns' at hcols
  cases hcols with
  | nil => simp [rowCountOf]
  | cons hc _ => exact (Column.slice_ok hc).2.1

theorem level_of_ofColumns {columns : List Column} {names : List String} {r : ResultSet}
    (h : ofColumns columns names = .ok r) :
    r = ⟨columns, .ofList names⟩ ∧ r.Level (rowCountOf columns) := by
  rw [ofColumns] at h
  split at h
  · cases h
  · rename_i hragged
    cases h
    exact ⟨rfl, rfl, Column.ragged?_eq_none.mp hragged⟩

theorem Level.slice {r r' : ResultSet} {n start stop : Nat} (hr : r.Level n)
    (h : r.slice start stop = .ok r') : r'.Level (min stop n - start) := by
  constructor
  · rw [rowCount_slice h, hr.rowCount]
  · intro c' hc'
    obtain ⟨c, hc, hslice⟩ := mem_right_of_forall₂ (slice_ok h).2 hc'
    rw [(Column.slice_ok hslice).2.1, hr.columns c hc]

end ResultSet

end VectorClient
