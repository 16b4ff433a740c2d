import VectorClient.Proofs.ResultSet.Records
import VectorClient.Read.Reply

/-!
# Rows below the first part of a struct

A result set compares the row counts of its columns, and a struct counts the rows of its
first part. So nothing is said of the other parts, nor of what is below them. `HasRow` asks
for a row at every depth, and this is what decides: a range can be cut out exactly if its
first row is there at every depth, and a row that is there at every depth has a value in
every cell.

Columns that were built by the checked constructor on every level have the same rows
everywhere, and so has a result set of such columns.
-/

namespace VectorClient

namespace Column

mutual

/-- The column has this row, and so has every part of it at every depth. -/
def HasRow (row : Nat) : Column → Prop
  | flat _ _ rows => row < rows.length
  | struct name parts => row < rowCount (struct name parts) ∧ PartsHaveRow row parts

def PartsHaveRow (row : Nat) : List Column → Prop
  | [] => True
  | part :: rest => HasRow row part ∧ PartsHaveRow row rest

end

theorem partsHaveRow_iff {row : Nat} {parts : List Column} :
    PartsHaveRow row parts ↔ ∀ part ∈ parts, part.HasRow row := by
  induction parts with
  | nil => simp [PartsHaveRow]
  | cons part rest ih => rw [PartsHaveRow, ih, List.forall_mem_cons]

mutual

theorem Even.hasRow {n row : Nat} (hrow : row < n) : ∀ {c : Column}, c.Even n → c.HasRow row
  | flat _ _ _, h => by
      simp only [Even] at h
      rw [HasRow, h]
      exact hrow
  | struct _ _, h => by
      rw [HasRow, h.1]
      exact ⟨hrow, EvenParts.hasRow hrow h.2⟩

theorem EvenParts.hasRow {n row : Nat} (hrow : row < n) :
    ∀ {parts : List Column}, EvenParts n parts → PartsHaveRow row parts
  | [], _ => trivial
  | _ :: _, h => ⟨Even.hasRow hrow h.1, EvenParts.hasRow hrow h.2⟩

end

mutual

/-- Of a range, only the first row has to be there. -/
theorem exists_slice_iff {start stop : Nat} :
    ∀ c : Column, (∃ c', slice start stop c = .ok c') ↔ start < stop ∧ c.HasRow start
  | flat name kind rows => by
      rw [slice, HasRow]
      split
      · rename_i hrange
        constructor
        · rintro ⟨_, ⟨⟩⟩
        · rintro ⟨hlt, hrow⟩
          omega
      · rename_i hrange
        constructor
        · intro _
          omega
        · intro _
          exact ⟨_, rfl⟩
  | struct name parts => by
      rw [slice, HasRow]
      split
      · rename_i hrange
        constructor
        · rintro ⟨_, ⟨⟩⟩
        · rintro ⟨hlt, hrow, _⟩
          omega
      · rename_i hrange
        have hlt : start < min stop (struct name parts).rowCount := by omega
        rw [← exists_sliceParts_iff hlt parts]
        constructor
        · rintro ⟨c', hc'⟩
          cases hparts : sliceParts start (min stop (struct name parts).rowCount) parts with
          | error e =>
              rw [hparts] at hc'
              cases hc'
          | ok parts' => exact ⟨by omega, by omega, parts', rfl⟩
        · rintro ⟨_, _, parts', hparts⟩
          exact ⟨struct name parts', by rw [hparts]; rfl⟩

theorem exists_sliceParts_iff {start stop : Nat} (hlt : start < stop) :
    ∀ parts : List Column,
      (∃ parts', sliceParts start stop parts = .ok parts') ↔ PartsHaveRow start parts
  | [] => ⟨fun _ => trivial, fun _ => ⟨[], rfl⟩⟩
  | part :: rest => by
      rw [sliceParts, PartsHaveRow, ← exists_sliceParts_iff hlt rest,
        show part.HasRow start ↔ ∃ part', slice start stop part = .ok part' from
          (exists_slice_iff part).trans (and_iff_right hlt) |>.symm]
      cases slice start stop part with
      | error e =>
          constructor
          · rintro ⟨_, ⟨⟩⟩
          · rintro ⟨⟨_, ⟨⟩⟩, _⟩
      | ok part' =>
          cases sliceParts start stop rest with
          | error e =>
              constructor
              · rintro ⟨_, ⟨⟩⟩
              · rintro ⟨_, _, ⟨⟩⟩
          | ok rest' => exact ⟨fun _ => ⟨⟨part', rfl⟩, rest', rfl⟩, fun _ => ⟨_, rfl⟩⟩

end

mutual

/-- A row that is there at every depth has a value. -/
theorem HasRow.exists_cell {row : Nat} :
    ∀ {c : Column}, c.HasRow row → ∃ value, c.cell? row = some value
  | flat _ kind rows, h => by
      rw [HasRow] at h
      exact ⟨kind.toJson rows[row], by rw [cell?, List.getElem?_eq_getElem h, Option.map_some]⟩
  | struct _ _, h => by
      obtain ⟨cells, hcells⟩ := PartsHaveRow.exists_partCells h.2
      exact ⟨Json.ofMembers cells, by rw [cell?, hcells, Option.map_some]⟩

theorem PartsHaveRow.exists_partCells {row : Nat} :
    ∀ {parts : List Column}, PartsHaveRow row parts → ∃ cells, partCells row parts = some cells
  | [], _ => ⟨[], rfl⟩
  | part :: _, h => by
      obtain ⟨value, hvalue⟩ := HasRow.exists_cell h.1
      obtain ⟨cells, hcells⟩ := PartsHaveRow.exists_partCells h.2
      exact ⟨(part.name, value) :: cells, by rw [partCells, hvalue, hcells]; rfl⟩

end

/-- The row of a struct is an object, never `null`. -/
theorem ne_null_of_cell_struct {name : String} {parts : List Column} {row : Nat} {value : Json}
    (h : (struct name parts).cell? row = some value) : value ≠ .null := by
  rw [cell?] at h
  obtain ⟨cells, _, rfl⟩ := Option.map_eq_some_iff.mp h
  exact nofun

theorem eq_map_of_partCells {row : Nat} {parts : List Column} {cells : List (String × Json)}
    (h : partCells row parts = some cells) :
    cells = parts.map fun part => (part.name, (part.cell? row).getD .null) := by
  induction parts generalizing cells with
  | nil =>
      cases h
      rfl
  | cons part rest ih =>
      rw [partCells] at h
      cases hvalue : part.cell? row with
      | none =>
          rw [hvalue] at h
          cases h
      | some value =>
          cases hcells : partCells row rest with
          | none =>
              rw [hvalue, hcells] at h
              cases h
          | some cells' =>
              rw [hvalue, hcells] at h
              cases h
              rw [List.map_cons, hvalue, ← ih hcells, Option.getD_some]

/-- A column whose structs were built by the checked constructor on every level. -/
inductive Checked : Column → Prop
  | flat (name : String) (kind : RowKind) (rows : List kind.Row) : Checked (flat name kind rows)
  | struct {name : String} {parts : List Column} {c : Column}
      (hparts : ∀ part ∈ parts, Checked part) (h : structOf? name parts = .ok c) : Checked c

theorem structOf?_ok {name : String} {parts : List Column} {c : Column}
    (h : structOf? name parts = .ok c) :
    c = struct name parts ∧ ∀ part ∈ parts, part.rowCount = c.rowCount := by
  rw [structOf?.eq_def] at h
  split at h
  · cases h
    exact ⟨rfl, by simp⟩
  · split at h
    · cases h
    · rename_i first rest _ hragged
      cases h
      exact ⟨rfl, ragged?_eq_none.mp hragged⟩

/-- What a level checks of its parts it knows of all that is below them, by induction on the
levels. -/
theorem Checked.even {c : Column} (h : c.Checked) : c.Even c.rowCount := by
  induction h with
  | flat name kind rows => rfl
  | struct hparts h ih =>
      obtain ⟨rfl, hcounts⟩ := structOf?_ok h
      refine ⟨rfl, evenParts_iff.mpr fun part hpart => ?_⟩
      rw [← hcounts part hpart]
      exact ih part hpart

end Column

namespace ResultSet

/-- The columns that rows are rendered with. -/
def shown (r : ResultSet) : List Column :=
  r.columns.filter fun c => r.outputNames.isEmpty || r.outputNames.contains c.name

theorem exists_slice_iff {r : ResultSet} {start stop : Nat} (hlt : start < stop) :
    (∃ r', r.slice start stop = .ok r') ↔ ∀ c ∈ r.columns, c.HasRow start := by
  rw [← Column.partsHaveRow_iff, ← Column.exists_sliceParts_iff hlt, slice]
  cases Column.sliceParts start stop r.columns with
  | error e =>
      constructor
      · rintro ⟨_, ⟨⟩⟩
      · rintro ⟨_, ⟨⟩⟩
  | ok columns => exact ⟨fun _ => ⟨columns, rfl⟩, fun _ => ⟨_, rfl⟩⟩

theorem exists_ofColumns_iff {columns : List Column} {names : List String} :
    (∃ r, ofColumns columns names = .ok r) ↔ ∀ c ∈ columns, c.rowCount = rowCountOf columns := by
  constructor
  · rintro ⟨r, h⟩
    obtain ⟨rfl, hlevel⟩ := level_of_ofColumns h
    exact hlevel.columns
  · intro h
    exact ⟨_, by rw [ofColumns, Column.ragged?_eq_none.mpr h]⟩

/-- A row that is there in all columns is rendered with the values of its cells. -/
theorem getElem?_rows {r : ResultSet} {row : Nat} (hrow : row < r.rowCount)
    (h : ∀ c ∈ r.columns, c.HasRow row) :
    ∃ cells, Column.partCells row r.shown = some cells ∧
      r.rows[row]? = some (Json.ofMembers cells) := by
  have hshown : Column.PartsHaveRow row r.shown :=
    Column.partsHaveRow_iff.mpr fun c hc => h c (List.mem_of_mem_filter hc)
  obtain ⟨cells, hcells⟩ := hshown.exists_partCells
  refine ⟨cells, hcells, ?_⟩
  rw [rowCount] at hrow
  rw [rows, renderRows, List.getElem?_map, List.getElem?_range hrow, Option.map_some,
    Column.eq_map_of_partCells hcells, shown]

end ResultSet

theorem QueryReply.results_ok_iff {reply : QueryReply} {requested : List String} {r : ResultSet} :
    reply.results requested = .ok r ↔
      ResultSet.ofColumns reply.columns (resolvedNames reply.outputFields requested) = .ok r := by
  rw [results]
  split
  · rename_i r' h
    rw [h, Except.ok.injEq, Except.ok.injEq]
  · rename_i e h
    rw [h]
    exact ⟨nofun, nofun⟩

/-- A result set is accepted, from columns or from a reply, if its columns have the same number
of rows; the parts of structs do not count. What follows for a single row depends on whether
it is there at every depth: a range that begins with it can be cut out exactly then. If all
parts have the same number of rows, as those have that were checked on every level, then every
row has a value in every cell, an object where it is a row of a struct, and is rendered with
these, and every range within the rows can be cut out. -/
theorem rows_of_ofColumns (columns : List Column) (names : List String) :
    ((∃ r, ResultSet.ofColumns columns names = .ok r) ↔
      ∀ c ∈ columns, c.rowCount = ResultSet.rowCountOf columns) ∧
    (∀ (reply : QueryReply) requested r, reply.results requested = .ok r ↔
      ResultSet.ofColumns reply.columns (resolvedNames reply.outputFields requested) = .ok r) ∧
    (∀ c : Column, c.Checked → c.Even c.rowCount) ∧
    ∀ r, ResultSet.ofColumns columns names = .ok r →
      (∀ start stop, start < stop →
        ((∃ r', r.slice start stop = .ok r') ↔ ∀ c ∈ columns, c.HasRow start)) ∧
      ((∀ c ∈ columns, c.Even c.rowCount) →
        (∀ c ∈ r.columns, c.Even r.rowCount) ∧
        (∀ row < r.rowCount,
          (∀ c ∈ r.columns, ∃ value, c.cell? row = some value ∧
            ∀ name parts, c = .struct name parts → value ≠ .null) ∧
          ∃ cells, Column.partCells row r.shown = some cells ∧
            r.rows[row]? = some (Json.ofMembers cells)) ∧
        (∀ start stop, start < stop → start < r.rowCount →
          r.slice start stop = .ok (r.between start stop))) := by
  refine ⟨ResultSet.exists_ofColumns_iff, fun reply requested r => QueryReply.results_ok_iff,
    fun c => Column.Checked.even, ?_⟩
  intro r h
  obtain ⟨rfl, hlevel⟩ := ResultSet.level_of_ofColumns h
  refine ⟨fun start stop hlt => ResultSet.exists_slice_iff hlt, fun hparts => ?_⟩
  have heven : ResultSet.Even (ResultSet.rowCountOf columns) ⟨columns, .ofList names⟩ := by
    intro c hc
    rw [← hlevel.columns c hc]
    exact hparts c hc
  refine ⟨heven, fun row hrow => ?_, fun start stop hlt hstart => ?_⟩
  · have hrows : ∀ c ∈ columns, c.HasRow row := fun c hc => (heven c hc).hasRow hrow
    refine ⟨fun c hc => ?_, ResultSet.getElem?_rows hrow hrows⟩
    obtain ⟨value, hvalue⟩ := (hrows c hc).exists_cell
    refine ⟨value, hvalue, ?_⟩
    rintro name parts rfl
    exact Column.ne_null_of_cell_struct hvalue
  · exact ResultSet.slice_eq_between heven hlt hstart

namespace Sample

/-- A struct with a struct in it, two rows on every level. -/
def nested : List Column :=
  [.scalars .int64 "id" [1, 2],
    .struct "author" [.scalars .varChar "name" ["Mary", "Jane"],
      .struct "life" [.scalars .int64 "born" [1797, 1775], .scalars .int64 "died" [1851, 1817]]]]

/-- The inner struct has no row of its second part. -/
def raggedBelow : List Column :=
  [.scalars .int64 "id" [1, 2],
    .struct "author" [.scalars .varChar "name" ["Mary", "Jane"],
      .struct "life" [.scalars .int64 "born" [1797, 1775], .scalars .int64 "died" []]]]

end Sample

theorem rows_of_ofColumns_nested :
    ∃ r, ResultSet.ofColumns Sample.nested [] = .ok r ∧ r.rowCount = 2 ∧
      (∀ c ∈ r.columns, c.Even 2) ∧
      (∀ row < 2, ∃ cells, Column.partCells row r.shown = some cells ∧
        r.rows[row]? = some (Json.ofMembers cells)) ∧
      r.slice 1 2 = .ok (r.between 1 2) := by
  obtain ⟨haccepted, _, _, hrows⟩ := rows_of_ofColumns Sample.nested []
  have hcounts : ∀ c ∈ Sample.nested, c.rowCount = ResultSet.rowCountOf Sample.nested := by decide
  obtain ⟨r, hr⟩ := haccepted.mpr hcounts
  have hparts : ∀ c ∈ Sample.nested, c.Even c.rowCount := by
    simp [Sample.nested, Column.Even, Column.EvenParts, Column.scalars, Column.rowCount]
  obtain ⟨_, heven, hcells, hslice⟩ := (hrows r hr).imp_right (· hparts)
  obtain ⟨rfl, _⟩ := ResultSet.level_of_ofColumns hr
  exact ⟨_, hr, rfl, heven, fun row hrow => (hcells row hrow).2,
    hslice 1 2 (by decide) (by decide)⟩

/-- Such columns are accepted, but their rows have no value in the struct and cannot be cut. -/
example :
    (ResultSet.ofColumns Sample.raggedBelow []).isOk ∧
      (Column.partCells 0 Sample.raggedBelow).isNone ∧
      (Column.sliceParts 0 1 Sample.raggedBelow).isOk = false := by
  decide +kernel

end VectorClient
