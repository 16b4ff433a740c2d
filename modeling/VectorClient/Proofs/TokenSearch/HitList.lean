import VectorClient.Proofs.SearchPages

/-!
# Hits that a server hands out in runs

A hit list is the whole answer to a search: its keys, its scores and one row of every
column for each hit. A server that continues a search sends runs of consecutive hits of
it. Every run becomes a page, which is the same range of rows of the one page that the
whole list would be. So pages of any sizes can be cut and put together again.
-/

namespace VectorClient

/-- All hits of a search, from the closest on, with the same named columns for each. -/
structure HitList where
  keys : HitKeys
  scores : List Ieee.Binary32
  columns : List Column
  outputFields : List String
  /-- Empty if the server does not name its primary key. -/
  keyName : String
  scores_length : scores.length = keys.length
  even : ∀ c ∈ columns, c.Even keys.length
  distinct : (columns.map Column.name).Nodup
  /-- Row counts have to fit 64 bits. -/
  fits : keys.length < SearchHits.maxRows

/-- A reply with the hits from `start` up to `stop`. What else a reply says does not matter. -/
structure HitList.IsRun (H : HitList) (start stop : Nat) (hits : SearchHits) : Prop where
  start_le : start ≤ stop
  stop_le : stop ≤ H.keys.length
  topks : hits.topks = [stop - start]
  keys : hits.keys = H.keys.between start stop
  scores : hits.scores = (H.scores.take stop).drop start
  columns : hits.columns = H.columns.map (Column.between start stop)
  outputFields : hits.outputFields = H.outputFields
  keyName : hits.keyName = H.keyName

namespace HitList

variable (H : HitList) (requested : String) (fields : List String)

def length : Nat := H.keys.length

def scoreName : String :=
  SearchHits.freeName (H.columns.map Column.name ++ H.outputFields)
    (H.columns.map Column.name ++ H.outputFields).length defaultScoreName

/-- The name of the key column for a caller who has requested one. -/
def resolvedKeyName : String :=
  if !H.keyName.isEmpty then H.keyName
  else if !requested.isEmpty then requested
  else defaultKeyName

/-- The columns of the whole list: keys, scores, and the others under their own names. -/
def pageColumns : List Column :=
  H.keys.column (H.resolvedKeyName requested) :: .scalars .float H.scoreName H.scores ::
    H.columns.filter fun c => c.name != H.resolvedKeyName requested

/-- The whole list as one page. -/
def page : HitPage :=
  ⟨H.resolvedKeyName requested, H.scoreName,
    ⟨H.pageColumns requested, .ofList (resolvedNames H.outputFields fields)⟩⟩

/-- The hits as rows of a page. -/
def rows : List Record := (H.page requested fields).results.records

/-- The names and layouts of the columns of every page. -/
def schema : List Column := (H.pageColumns requested).map Column.emptyLike

theorem even_page : (H.page requested fields).results.Even H.length := by
  intro c hc
  rcases List.mem_cons.mp hc with rfl | hc
  · exact H.keys.even_column _
  rcases List.mem_cons.mp hc with rfl | hc
  · exact H.scores_length
  · exact H.even c (List.mem_of_mem_filter hc)

theorem conforms_page :
    (H.page requested fields).results.Conforms (H.schema requested) H.length :=
  ⟨H.even_page requested fields, List.Perm.refl _⟩

theorem length_rows : (H.rows requested fields).length = H.length := by
  rw [rows, ResultSet.length_records]
  exact (H.keys.even_column _).rowCount

theorem scoreName_not_mem : H.scoreName ∉ H.columns.map Column.name := by
  have hfree : H.scoreName ∉ H.columns.map Column.name ++ H.outputFields :=
    SearchHits.freeName_not_mem _ _
  intro hmem
  exact hfree (List.mem_append_left _ hmem)

/-- Pages can be merged unless the score column has the name of the keys. -/
theorem isSchema (hnames : H.resolvedKeyName requested ≠ H.scoreName) :
    ResultSet.IsSchema (H.schema requested) := by
  refine ⟨by simp [schema, pageColumns], ?_⟩
  have hother : ∀ name, name ∈ (H.columns.filter fun c =>
      c.name != H.resolvedKeyName requested).map Column.name →
      name ∈ H.columns.map Column.name ∧ name ≠ H.resolvedKeyName requested := by
    intro name hname
    obtain ⟨c, hc, rfl⟩ := List.mem_map.mp hname
    obtain ⟨hmem, hne⟩ := List.mem_filter.mp hc
    exact ⟨List.mem_map_of_mem hmem, by simpa using hne⟩
  rw [schema, List.map_map, show Column.name ∘ Column.emptyLike = Column.name from
    funext Column.emptyLike_name]
  simp only [pageColumns, List.map_cons, HitKeys.column_name, List.nodup_cons,
    List.mem_cons, not_or]
  refine ⟨⟨hnames, fun hmem => (hother _ hmem).2 rfl⟩,
    fun hmem => H.scoreName_not_mem (hother _ hmem).1, ?_⟩
  exact (List.filter_sublist.map _).nodup H.distinct

/-- The page of a run. -/
def pageBetween (start stop : Nat) : HitPage :=
  { H.page requested fields with
    results := (H.page requested fields).results.between start stop }

/-- The columns of a run, cut once more as far as they reach, are those of the list. -/
theorem between_all {start stop : Nat} (h : start ≤ stop) (c : Column) :
    (c.between start stop).between 0 (stop - start) = c.between start stop := by
  rw [Column.between_between, Nat.add_zero, Nat.add_sub_cancel' h, Nat.min_self]

variable {H requested fields} {start stop : Nat} {hits : SearchHits}

namespace IsRun

theorem resolvedKeyName_eq (h : H.IsRun start stop hits) :
    hits.resolvedKeyName requested = H.resolvedKeyName requested := by
  rw [SearchHits.resolvedKeyName, h.keyName, HitList.resolvedKeyName]

theorem scoreName_eq (h : H.IsRun start stop hits) : hits.scoreName = H.scoreName := by
  have hnames : hits.takenNames = H.columns.map Column.name ++ H.outputFields := by
    rw [SearchHits.takenNames, h.columns, h.outputFields, List.map_map,
      show Column.name ∘ Column.between start stop = Column.name from
        funext (Column.between_name start stop)]
  rw [SearchHits.scoreName, hnames, HitList.scoreName]

theorem even (h : H.IsRun start stop hits) : hits.Even (stop - start) := by
  have hstop := h.stop_le
  constructor
  · rw [h.keys, HitKeys.length_between, Nat.min_eq_left hstop]
  · rw [h.scores, List.length_drop, List.length_take, H.scores_length, Nat.min_eq_left hstop]
  · intro c hc
    rw [h.columns] at hc
    obtain ⟨c, hmem, rfl⟩ := List.mem_map.mp hc
    have heven : (c.between start stop).Even (min stop H.keys.length - start) :=
      Column.even_between (H.even c hmem)
    rwa [Nat.min_eq_left hstop] at heven

theorem checkRows_ok (h : H.IsRun start stop hits) : hits.checkRows = .ok () := by
  have htotal : SearchHits.hitCount hits.topks = stop - start := by
    rw [h.topks]
    rfl
  apply SearchHits.checkRows_ok_iff.mpr
  apply h.even.consistent htotal
  have hstop := h.stop_le
  have hfits := H.fits
  omega

/-- The columns of a run are those of its range. -/
theorem pageColumns_eq (h : H.IsRun start stop hits) :
    hits.pageColumns (H.resolvedKeyName requested) =
      (H.pageColumns requested).map (Column.between start stop) := by
  rw [SearchHits.pageColumns, SearchHits.otherColumns, h.keys, h.scoreName_eq, h.scores,
    h.columns, List.filter_map, HitKeys.column_between, pageColumns]
  simp only [Function.comp_def, Column.between_name, List.map_cons]
  rfl

theorem pageBetween_eq (h : H.IsRun start stop hits) :
    hits.pageBetween (H.resolvedKeyName requested) (resolvedNames H.outputFields fields) 0
      (stop - start) = H.pageBetween requested fields start stop := by
  rw [SearchHits.pageBetween, h.pageColumns_eq, h.scoreName_eq, List.map_map]
  simp only [Function.comp_def, between_all h.start_le]
  rfl

/-- The keys, the scores and every other column of a run are those of its range. -/
theorem page_eq (h : H.IsRun start stop hits) :
    hits.page (H.resolvedKeyName requested) (resolvedNames H.outputFields fields) 0 (stop - start) =
      .ok (H.pageBetween requested fields start stop) := by
  rw [h.even.page_eq (Nat.zero_le _) (Nat.le_refl _), h.pageBetween_eq]

/-- A run is one page, whatever else the reply says. -/
theorem pages_eq (h : H.IsRun start stop hits) :
    hits.pages requested fields = .ok [H.pageBetween requested fields start stop] := by
  rw [SearchHits.pages, h.checkRows_ok]
  dsimp only
  rw [h.resolvedKeyName_eq, h.outputFields, h.topks, SearchHits.pagesFrom, Nat.zero_add, h.page_eq]
  rfl

end IsRun

theorem shows_pageBetween (H : HitList) (requested : String) (fields : List String)
    (start stop : Nat) : HitPage.ShowsRecords (H.schema requested)
      (H.pageBetween requested fields start stop)
      (((H.rows requested fields).take stop).drop start) := by
  rw [rows, ← ResultSet.records_between]
  exact .records ((H.conforms_page requested fields).between start stop)

theorem rowCount_pageBetween (H : HitList) (requested : String) (fields : List String)
    (start : Nat) {stop : Nat} (hstop : stop ≤ H.length) :
    (H.pageBetween requested fields start stop).rowCount = stop - start := by
  rw [(H.shows_pageBetween requested fields start stop).rowCount_eq, List.length_drop,
    List.length_take, H.length_rows, Nat.min_eq_left hstop]

/-- If the scores are named like the keys, no two pages can be joined: the scores of one find
the keys of the other under their name. -/
theorem joined_error (hnames : H.resolvedKeyName requested = H.scoreName) (a b c d : Nat) :
    ∃ e, (H.pageBetween requested fields a b).joined (H.pageBetween requested fields c d) =
      .error e := by
  rcases hjoin : (H.pageBetween requested fields a b).joined (H.pageBetween requested fields c d)
    with e | r
  · exact ⟨e, rfl⟩
  obtain ⟨hresults, _⟩ := HitPage.columns_of_joined hjoin
  rcases ResultSet.joined_ok hresults with ⟨hnil, _⟩ | ⟨_, hextended⟩
  · cases hnil
  change List.Forall₂ _ (_ :: _ :: _) _ at hextended
  obtain ⟨_, _, _, hothers, _⟩ := List.forall₂_cons_left_iff.mp hextended
  obtain ⟨_, _, hscores, _, _⟩ := List.forall₂_cons_left_iff.mp hothers
  obtain ⟨keys, hkeys, hjoined⟩ := hscores.joined
  have htype := hjoined.dataType_eq
  change List.find? _ (_ :: _) = _ at hkeys
  rw [ResultSet.find?_name_cons, if_pos] at hkeys
  · cases hkeys
    rw [← HitKeys.column_between] at htype
    cases hkind : H.keys.between c d with
    | ints keys => rw [hkind] at htype; cases htype
    | texts keys => rw [hkind] at htype; cases htype
  · rw [Column.between_name, Column.between_name, HitKeys.column_name]
    exact hnames

end HitList

end VectorClient
