import VectorClient.Proofs.PageCache

/-!
# The columns of cached pages

The rows of a page can be read column by column, under the name of a column. Where the pages
have the columns of one schema, in any order, the rows of a column are those that the records
have under its name.
-/

namespace VectorClient

/-- The rows of a column, each of them as a column of its own. -/
def Column.singleRows (c : Column) : List Column :=
  (List.range c.rowCount).map fun row => c.between row (row + 1)

/-- The rows of the column of a name; none where the page has no such column. -/
def HitPage.columnRows (name : String) (page : HitPage) : List Column :=
  ((page.results.column? name).map Column.singleRows).getD []

/-- All pages have the columns of one schema, in any order, and no column is ragged. -/
def Uniform (pages : List HitPage) : Prop :=
  ∃ schema, ResultSet.IsSchema schema ∧ ∀ page ∈ pages, ∃ n, page.results.Conforms schema n

/-- The name and the kind of a flat column. -/
def Column.kind? : Column → Option (String × RowKind)
  | .flat name kind _ => some (name, kind)
  | .struct _ _ => none

/-- Whether all pages have flat columns of these names and kinds, with as many rows each. -/
def HitPage.allOf (kinds : List (String × RowKind)) (pages : List HitPage) : Bool :=
  pages.all fun page => (page.columns.map Column.kind?).isPerm (kinds.map some) &&
    page.columns.all fun c => c.rowCount == page.rowCount

theorem Uniform.of_allOf {kinds : List (String × RowKind)} {pages : List HitPage}
    (hne : kinds ≠ []) (hnames : (kinds.map Prod.fst).Nodup)
    (h : HitPage.allOf kinds pages = true) : Uniform pages := by
  let layout : Option (String × RowKind) → Column
    | some (name, kind) => .flat name kind []
    | none => .struct "" []
  refine ⟨kinds.map fun kind => layout (some kind), ⟨?_, ?_⟩, ?_⟩
  · simpa using hne
  · simpa [layout, Function.comp_def, Column.name] using hnames
  · intro page hpage
    have hboth := List.all_eq_true.mp h page hpage
    rw [Bool.and_eq_true, List.isPerm_iff, List.all_eq_true] at hboth
    obtain ⟨hperm, hrows⟩ := hboth
    have hflat : ∀ c ∈ page.columns, c.kind?.isSome := by
      intro c hc
      have hmem := hperm.mem_iff.mp (List.mem_map_of_mem hc)
      obtain ⟨kind, _, hkind⟩ := List.mem_map.mp hmem
      rw [← hkind]
      rfl
    refine ⟨page.rowCount, ?_, ?_⟩
    · intro c hc
      have hcount := hrows c hc
      cases c with
      | flat => exact beq_iff_eq.mp hcount
      | struct => cases hflat _ hc
    · have hlayout := hperm.map layout
      rw [List.map_map, List.map_map] at hlayout
      refine .trans (.of_eq (List.map_congr_left fun c hc => ?_)) hlayout
      cases c with
      | flat => rfl
      | struct => cases hflat _ hc

variable {schema : List Column} {page : HitPage} {pages : List HitPage} {rows : List Record}
variable {hs : ResultSet.IsSchema schema} {name : String}

namespace HitPage.ShowsRecords

theorem rowCount_column (h : ShowsRecords schema page rows) {c : Column}
    (hc : page.results.column? name = some c) : c.rowCount = page.results.rowCount := by
  have hmem := List.mem_of_find?_eq_some hc
  cases h with
  | bare hnil =>
    rw [columns] at hnil
    simp [hnil] at hmem
  | records hconforms =>
    have hlevel := hconforms.even.level (List.ne_nil_of_mem hmem)
    rw [hlevel.columns c hmem, hlevel.rowCount]

theorem columnRows_eq (h : ShowsRecords schema page rows) :
    page.columnRows name = rows.filterMap fun record => record name := by
  have hcount : ∀ c, page.results.column? name = some c → c.rowCount = page.results.rowCount :=
    fun _ => h.rowCount_column
  rw [← h.records_eq]
  cases hcolumn : page.results.column? name with
  | none =>
    simp [columnRows, hcolumn, ResultSet.records, List.filterMap_map, Function.comp_def,
      ResultSet.record]
  | some c =>
    simp [columnRows, hcolumn, Column.singleRows, hcount c hcolumn, ResultSet.records,
      List.filterMap_map, Function.comp_def, ResultSet.record]

theorem isSome_iff (h : ShowsRecords schema page rows) {record : Record} (hr : record ∈ rows) :
    (record name).isSome ↔ name ∈ schema.map Column.name := by
  cases h with
  | bare => cases hr
  | records hconforms =>
    obtain ⟨row, _, rfl⟩ := List.mem_map.mp hr
    rw [ResultSet.record, Option.isSome_map, hconforms.column?_isSome]

end HitPage.ShowsRecords

namespace PageCache

theorem Holds.isSome_iff (h : Holds (PageView.records hs) pages rows) {record : Record}
    (hr : record ∈ rows) : (record name).isSome ↔ name ∈ schema.map Column.name := by
  induction h with
  | nil => cases hr
  | cons hpage _ ih =>
    rcases List.mem_append.mp hr with hfirst | hlater
    · exact HitPage.ShowsRecords.isSome_iff hpage hfirst
    · exact ih hlater

theorem Holds.flatMap_columnRows (h : Holds (PageView.records hs) pages rows) :
    pages.flatMap (HitPage.columnRows name) = rows.filterMap fun record => record name := by
  induction h with
  | nil => rfl
  | cons hpage _ ih =>
    rw [List.flatMap_cons, List.filterMap_append, ih]
    exact congrArg (· ++ _) (HitPage.ShowsRecords.columnRows_eq hpage)

end PageCache

end VectorClient
