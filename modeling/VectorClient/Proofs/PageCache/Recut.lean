import Mathlib.Data.List.SplitLengths
import VectorClient.Proofs.PageCache.Columns

/-!
# Cutting a cache into pieces

A cache whose pages go together can be taken in pieces of any sizes. No fetch, that is, no `take`
from the cache, fails, and each returns the rows that come next, as many as were asked for until
the rows run out, whatever the sizes of the pages are on which they arrived. Only the page in
which a fetch ends is cut; those behind it stay as they are. Pages without rows may stand
anywhere and have any columns.
-/

namespace VectorClient.PageCache

/-- The pages that have rows. -/
def full (pages : List HitPage) : List HitPage :=
  pages.filter fun page => page.rowCount ≠ 0

/-- The rows of the column of a name on the pages that have rows. -/
def columnRows (name : String) (pages : List HitPage) : List Column :=
  (full pages).flatMap (HitPage.columnRows name)

/-- What is left of some pages without their first `count` rows. The cut goes between two pages
or through one, whose tail stands before the pages behind it. -/
inductive CutAfter (pages : List HitPage) (count : Nat) : List HitPage → Prop
  | between {taken rest} : pages = taken ++ rest →
      rowCount taken = min count (rowCount pages) → CutAfter pages count rest
  | through {taken page tail behind} : pages = taken ++ page :: behind →
      rowCount taken < count → count < rowCount taken + page.rowCount →
      page.slice (count - rowCount taken) page.rowCount = .ok tail →
      CutAfter pages count (tail :: behind)

/-- One fetch after the other, each with a count and a template. -/
def takeAll : List (Nat × HitPage) → List HitPage → List (Except ClientError HitPage) × List HitPage
  | [], pages => ([], pages)
  | (count, template) :: fetches, pages =>
    let (outcome, rest) := take pages count template
    let (outcomes, left) := takeAll fetches rest
    (outcome :: outcomes, left)

section Full

variable {page : HitPage} {pages : List HitPage}

theorem full_cons_of_empty (h : page.rowCount = 0) : full (page :: pages) = full pages := by
  simp [full, h]

theorem full_cons_of_rows (h : page.rowCount ≠ 0) :
    full (page :: pages) = page :: full pages := by
  simp [full, h]

theorem full_of_rowCount_eq_zero (h : rowCount pages = 0) : full pages = [] := by
  induction pages with
  | nil => rfl
  | cons page pages ih =>
    rw [rowCount_cons] at h
    rw [full_cons_of_empty (by omega)]
    exact ih (by omega)

theorem records_full (pages : List HitPage) : records (full pages) = records pages := by
  induction pages with
  | nil => rfl
  | cons page pages ih =>
    by_cases h : page.rowCount = 0
    · have hnone : page.results.records = [] := ResultSet.records_of_rowCount_eq_zero h
      rw [full_cons_of_empty h, ih, records, records, List.flatMap_cons, hnone, List.nil_append]
    · rw [full_cons_of_rows h]
      exact congrArg (page.results.records ++ ·) ih

end Full

section CutAfter

variable {page : HitPage} {pages rest : List HitPage} {count : Nat}

theorem CutAfter.cons (hle : page.rowCount ≤ count)
    (h : CutAfter pages (count - page.rowCount) rest) : CutAfter (page :: pages) count rest := by
  cases h with
  | @between taken rest hpages hcount =>
    refine @CutAfter.between _ _ (page :: taken) rest ?_ ?_
    · rw [hpages, List.cons_append]
    · rw [rowCount_cons, rowCount_cons]
      omega
  | @through taken cut tail behind hpages hstart hstop hslice =>
    have hsub : count - page.rowCount - rowCount taken = count - rowCount (page :: taken) := by
      rw [rowCount_cons, Nat.sub_sub]
    rw [hsub] at hslice
    refine @CutAfter.through _ _ (page :: taken) cut tail behind ?_ ?_ ?_ hslice
    · rw [hpages, List.cons_append]
    · rw [rowCount_cons]
      omega
    · rw [rowCount_cons]
      omega

theorem Takes.cutAfter {output : HitPage} (h : Takes output count pages (.ok page) rest) :
    CutAfter pages count rest := by
  generalize houtcome : Except.ok page = outcome at h
  induction h with
  | exhausted => exact .between (List.nil_append _).symm (Nat.min_zero _).symm
  | enough => exact .between (List.nil_append _).symm (Nat.zero_min _).symm
  | skipped _ hempty _ ih =>
    refine .cons (by omega) ?_
    rw [hempty]
    exact ih houtcome
  | whole _ hfits _ _ ih => exact .cons hfits (ih houtcome)
  | cut hwanted hlt hsplit _ =>
    have hslice := (slices_of_split hsplit).2
    refine @CutAfter.through _ _ [] _ _ _ rfl (Nat.pos_of_ne_zero hwanted) ?_ hslice
    rwa [rowCount, List.foldr_nil, Nat.zero_add]
  | refused => cases houtcome

end CutAfter

theorem takes_zero (output : HitPage) (pages : List HitPage) :
    Takes output 0 pages (.ok output) pages := by
  cases pages with
  | nil => exact .exhausted
  | cons => exact .enough

theorem rowCount_tail {page head tail : HitPage} {count : Nat}
    (h : split page count = .ok (head, tail)) : tail.rowCount = page.rowCount - count := by
  have hrows := ResultSet.rowCount_slice (HitPage.columns_of_slice (slices_of_split h).2).1
  simpa [HitPage.rowCount] using hrows

/-- Pages without rows make no difference to a fetch. -/
theorem Takes.fullPages {output : HitPage} {wanted : Nat} {pages rest : List HitPage}
    {outcome : Except ClientError HitPage} (h : Takes output wanted pages outcome rest) :
    Takes output wanted (full pages) outcome (full rest) := by
  induction h with
  | exhausted => exact .exhausted
  | enough => exact takes_zero ..
  | skipped _ hempty _ ih =>
    rw [full_cons_of_empty hempty]
    exact ih
  | whole hsome hfits hjoined _ ih =>
    rw [full_cons_of_rows hsome]
    exact .whole hsome hfits hjoined ih
  | cut hwanted hlt hsplit hjoined =>
    have htail := rowCount_tail hsplit
    rw [full_cons_of_rows (by omega), full_cons_of_rows (by omega)]
    exact .cut hwanted hlt hsplit hjoined
  | refused hwanted hsome hfailed =>
    rw [full_cons_of_rows hsome]
    exact .refused hwanted hsome hfailed

/-- A fetch that gets no rows returns an empty page with the names of the template. -/
theorem take_of_min_eq_zero {pages : List HitPage} {count : Nat}
    (h : min count (rowCount pages) = 0) (template : HitPage) :
    (take pages count template).1 = .ok template.emptyLike := by
  rcases Nat.min_eq_zero_iff.mp h with rfl | hrows
  · rw [take_zero]
  · rcases htake : take pages count template with ⟨outcome, rest⟩
    have hfull := (takes_of_takeInto htake).fullPages.takeInto_eq
    rw [full_of_rowCount_eq_zero hrows] at hfull
    exact (congrArg Prod.fst hfull).symm

section Uniform

variable {schema : List Column} {hs : ResultSet.IsSchema schema} {pages : List HitPage}
variable {rows : List Record} {name : String}

theorem Holds.records_eq (h : Holds (PageView.records hs) (full pages) rows) :
    records pages = rows := by
  rw [← records_full]
  generalize full pages = pages at h
  induction h with
  | nil => rfl
  | cons hpage _ ih =>
    rw [records, List.flatMap_cons]
    exact congrArg₂ _ (HitPage.ShowsRecords.records_eq hpage) ih

/-- The rows of a column are cut where the records are cut. -/
theorem Holds.columnRows_cut (h : Holds (PageView.records hs) (full pages) rows)
    (count : Nat) :
    ((rows.take count).filterMap fun record => record name) = (columnRows name pages).take count ∧
      ((rows.drop count).filterMap fun record => record name) =
        (columnRows name pages).drop count := by
  rw [columnRows, h.flatMap_columnRows]
  by_cases hname : name ∈ schema.map Column.name
  · -- every record has a value under the name
    let value (record : Record) : Column := (record name).getD (.struct name [])
    have hvalue : ∀ part ⊆ rows, (part.filterMap fun record => record name) = part.map value := by
      intro part hpart
      apply List.filterMap_eq_map_iff_forall_eq_some.mpr
      intro record hr
      obtain ⟨c, hc⟩ := Option.isSome_iff_exists.mp ((h.isSome_iff (hpart hr)).mpr hname)
      simp [value, hc]
    rw [hvalue _ (List.take_subset ..), hvalue _ (List.drop_subset ..),
      hvalue rows (List.Subset.refl _), List.map_take, List.map_drop]
    exact ⟨rfl, rfl⟩
  · have hnone : ∀ part ⊆ rows, (part.filterMap fun record => record name) = [] := by
      intro part hpart
      apply List.filterMap_eq_nil_iff.mpr
      intro record hr
      rw [← Option.not_isSome_iff_eq_none, h.isSome_iff (hpart hr)]
      exact hname
    rw [hnone _ (List.take_subset ..), hnone _ (List.drop_subset ..),
      hnone rows (List.Subset.refl _), List.take_nil, List.drop_nil]
    exact ⟨rfl, rfl⟩

end Uniform

/-- The first `count` rows of `pages` are those of `output`, the others are those of `rest`. -/
structure Cut (pages : List HitPage) (count : Nat) (output : HitPage) (rest : List HitPage) :
    Prop where
  records : output.results.records = (PageCache.records pages).take count
  recordsLeft : PageCache.records rest = (PageCache.records pages).drop count
  columns : ∀ name, output.columnRows name = (columnRows name pages).take count
  columnsLeft : ∀ name, columnRows name rest = (columnRows name pages).drop count

/-- The rows of `outputs` and then of `left` are those of `pages`, and `outputs` are pieces of the
given sizes as long as there are rows. -/
structure Recuts (pages : List HitPage) (sizes : List Nat) (outputs left : List HitPage) :
    Prop where
  records : outputs.map (fun output => output.results.records) =
    sizes.splitLengths (PageCache.records pages)
  recordsLeft : PageCache.records outputs ++ PageCache.records left = PageCache.records pages
  columns : ∀ name, outputs.map (HitPage.columnRows name) =
    sizes.splitLengths (columnRows name pages)
  columnsLeft : ∀ name, outputs.flatMap (HitPage.columnRows name) ++ columnRows name left =
    columnRows name pages

section Recuts

variable {pages rest left outputs : List HitPage} {output : HitPage} {count : Nat}
variable {sizes : List Nat}

theorem Recuts.none (pages : List HitPage) : Recuts pages [] [] pages where
  records := rfl
  recordsLeft := rfl
  columns _ := rfl
  columnsLeft _ := rfl

theorem Recuts.cons (hcut : Cut pages count output rest)
    (hothers : Recuts rest sizes outputs left) :
    Recuts pages (count :: sizes) (output :: outputs) left := by
  constructor
  · rw [List.map_cons, List.splitLengths_cons, hothers.records, hcut.records, hcut.recordsLeft]
  · have hafter := hothers.recordsLeft
    rw [hcut.recordsLeft] at hafter
    change output.results.records ++ PageCache.records outputs ++ _ = _
    rw [List.append_assoc, hafter, hcut.records, List.take_append_drop]
  · intro name
    rw [List.map_cons, List.splitLengths_cons, hothers.columns, hcut.columns, hcut.columnsLeft]
  · intro name
    rw [List.flatMap_cons, List.append_assoc, hothers.columnsLeft, hcut.columns,
      hcut.columnsLeft, List.take_append_drop]

end Recuts

section Fetches

variable {schema : List Column} {hs : ResultSet.IsSchema schema} {pages : List HitPage}
variable {rows : List Record}

/-- A fetch from pages that go together succeeds and cuts their rows in two. -/
theorem Holds.cut_take (h : Holds (PageView.records hs) (full pages) rows) (count : Nat)
    (template : HitPage) : ∃ output rest, take pages count template = (.ok output, rest) ∧
      Holds (PageView.records hs) (full rest) (rows.drop count) ∧ Cut pages count output rest := by
  rcases htake : take pages count template with ⟨outcome, rest⟩
  have hfull : take (full pages) count template = (outcome, full rest) :=
    (takes_of_takeInto htake).fullPages.takeInto_eq
  obtain ⟨output, _, hok⟩ : ∃ output left, take (full pages) count template = (.ok output, left) :=
    take_total (PageView.records_total hs) h
  rw [hfull] at hok
  cases hok
  obtain ⟨hshown, hleft⟩ := take_ok h hfull
  refine ⟨output, rest, rfl, hleft, ?_⟩
  constructor
  · rw [hshown.records_eq, h.records_eq]
  · rw [hleft.records_eq, h.records_eq]
  · intro name
    rw [hshown.columnRows_eq, (h.columnRows_cut count).1]
  · intro name
    rw [columnRows, hleft.flatMap_columnRows, (h.columnRows_cut count).2]

theorem Holds.recuts_takeAll (h : Holds (PageView.records hs) (full pages) rows)
    (fetches : List (Nat × HitPage)) :
    ∃ outputs left, takeAll fetches pages = (outputs.map .ok, left) ∧
      Recuts pages (fetches.map Prod.fst) outputs left := by
  induction fetches generalizing pages rows with
  | nil => exact ⟨[], pages, rfl, .none pages⟩
  | cons fetch fetches ih =>
    obtain ⟨count, template⟩ := fetch
    obtain ⟨output, rest, htake, hrest, hcut⟩ := h.cut_take count template
    obtain ⟨outputs, left, hall, hothers⟩ := ih hrest
    refine ⟨output :: outputs, left, ?_, .cons hcut hothers⟩
    simp only [takeAll, htake, hall, List.map_cons]

end Fetches

/-- Fetching from pages that go together never fails, and cuts their rows into pieces of the
sizes asked for. -/
theorem recut_of_uniform {pages : List HitPage} (h : Uniform (full pages)) :
    (∀ count template, ∃ output rest, take pages count template = (.ok output, rest) ∧
      output.rowCount = min count (rowCount pages) ∧
      (∀ name, output.columnRows name ++ columnRows name rest = columnRows name pages) ∧
      CutAfter pages count rest ∧
      (min count (rowCount pages) = 0 → output = template.emptyLike)) ∧
    ∀ fetches, ∃ outputs left, takeAll fetches pages = (outputs.map .ok, left) ∧
      Recuts pages (fetches.map Prod.fst) outputs left := by
  obtain ⟨schema, hs, hconforms⟩ := h
  obtain ⟨rows, hrows⟩ : ∃ rows, Holds (PageView.records hs) (full pages) rows := by
    apply exists_holds
    intro page hpage
    obtain ⟨n, hpage⟩ := hconforms page hpage
    exact ⟨_, .records hpage⟩
  refine ⟨?_, hrows.recuts_takeAll⟩
  intro count template
  obtain ⟨output, rest, htake, _, hcut⟩ := hrows.cut_take count template
  refine ⟨output, rest, htake, ?_, ?_, (takes_of_takeInto htake).cutAfter, ?_⟩
  · have hlength := congrArg List.length hcut.records
    rw [ResultSet.length_records, List.length_take, length_records] at hlength
    exact hlength
  · intro name
    rw [hcut.columns, hcut.columnsLeft, List.take_append_drop]
  · intro hzero
    have hnone := take_of_min_eq_zero hzero template
    rw [htake] at hnone
    cases hnone
    rfl

namespace Sample

/-- Two hits, none, and one whose columns stand in another order, with empty pages around. -/
def shelf : List HitPage :=
  [.empty,
    ⟨"id", "score", ⟨[.scalars .int64 "id" [1, 2], .scalars .float "score" [.ofNat 2, .ofNat 1]],
      .empty⟩⟩,
    ⟨"id", "score", ⟨[.scalars .varChar "title" []], .empty⟩⟩,
    ⟨"id", "score", ⟨[.scalars .float "score" [.ofNat 0], .scalars .int64 "id" [3]], .empty⟩⟩,
    .empty]

theorem uniform_shelf : Uniform (full shelf) := by
  have hall : HitPage.allOf [("id", .scalar .int64), ("score", .scalar .float)] (full shelf) := by
    decide
  exact .of_allOf (by decide) (by decide) hall

end Sample

/-- The third hit completes a batch that begins in the middle of a page. -/
theorem recut_of_uniform_shelf : Uniform (full Sample.shelf) ∧ rowCount Sample.shelf = 3 ∧
    (∃ output rest, take Sample.shelf 1 .empty = (.ok output, rest) ∧ output.rowCount = 1 ∧
      CutAfter Sample.shelf 1 rest) ∧
    ∃ outputs left, takeAll [(1, .empty), (2, .empty), (1, .empty)] Sample.shelf =
        (outputs.map .ok, left) ∧ Recuts Sample.shelf [1, 2, 1] outputs left := by
  obtain ⟨hone, hall⟩ := recut_of_uniform Sample.uniform_shelf
  obtain ⟨output, rest, htake, hcount, _, hcut, _⟩ := hone 1 .empty
  exact ⟨Sample.uniform_shelf, rfl, ⟨output, rest, htake, hcount, hcut⟩, hall _⟩

example : (takeAll [(1, .empty), (2, .empty), (1, .empty)] Sample.shelf).1.map
      (fun outcome => outcome.toOption.bind HitPage.primaryKeys?) =
    [some [.int 1], some [.int 2, .int 3], none] := rfl

end VectorClient.PageCache
