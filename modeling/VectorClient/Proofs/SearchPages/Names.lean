import VectorClient.Proofs.PrimaryKey
import VectorClient.Proofs.SearchPages.Ranges

/-!
# The columns of a search page by name

A page puts the keys and the scores before the columns of the reply. The scores have a name that
no column and no output field of the reply has, and a column that has the name of the keys is left
out. The keys themselves can still have the name of the scores, if the reply mentions it nowhere
else. They stand first, so they are what is found under that name, and the scores are not found.
-/

namespace VectorClient

/-- The keys of a reply, whichever type they have. -/
def HitKeys.list : HitKeys → List PrimaryKey
  | ints keys => keys.map .int
  | texts keys => keys.map .text

namespace HitKeys

theorem length_list (keys : HitKeys) : keys.list.length = keys.length := by
  cases keys <;> exact List.length_map _

theorem list_between (keys : HitKeys) (start stop : Nat) :
    (keys.between start stop).list = (keys.list.take stop).drop start := by
  cases keys <;> simp only [between, list, List.map_take, List.map_drop]

theorem ofColumn?_column (keys : HitKeys) (name : String) :
    PrimaryKey.ofColumn? (keys.column name) = some keys.list := by
  cases keys with
  | ints keys => exact PrimaryKey.ofColumn?_ints (Column.rowsOf?_flat _ _ _)
  | texts keys => exact PrimaryKey.ofColumn?_texts rfl (Column.rowsOf?_flat _ _ _)

/-- Keys cannot be read as scores. -/
theorem rowsOf?_column_float (keys : HitKeys) (name : String) :
    (keys.column name).rowsOf? (.scalar .float) = none := by
  cases keys with
  | ints keys => rfl
  | texts keys => rfl

theorem of_toColumn? {keys : HitKeys} {name : String} {start stop : Nat} {column : Column}
    (h : keys.toColumn? name start stop = some column) :
    column = (keys.between start stop).column name := by
  by_cases hrange : start ≤ stop ∧ stop ≤ keys.length
  · rw [toColumn?_eq hrange.1 hrange.2, ← column_between] at h
    exact (Option.some.inj h).symm
  · cases keys <;> exact absurd h (by rw [toColumn?, if_neg hrange]; nofun)

end HitKeys

namespace SearchHits

variable {hits : SearchHits} {keyName : String} {names : List String} {page : HitPage}
variable {start stop : Nat}

/-- The keys of a page are found under their name, and so are the scores, unless they have that
of the keys. -/
theorem page_reads (h : hits.page keyName names start stop = .ok page) :
    page.primaryKeys? = some ((hits.keys.list.take stop).drop start) ∧
    page.scores? =
      if keyName = hits.scoreName then none else some ((hits.scores.take stop).drop start) := by
  obtain ⟨keys, columns, htoColumn, _, rfl, _⟩ := page_ok h
  obtain rfl := HitKeys.of_toColumn? htoColumn
  constructor
  · rw [HitPage.primaryKeys?, ResultSet.primaryKeys?, ResultSet.column?,
      ResultSet.find?_name_cons, if_pos (HitKeys.column_name ..), Option.bind_some,
      HitKeys.ofColumn?_column, HitKeys.list_between]
  · rw [HitPage.scores?, ResultSet.column?, ResultSet.find?_name_cons, HitKeys.column_name]
    split
    · exact HitKeys.rowsOf?_column_float ..
    · rw [ResultSet.find?_name_cons, Column.scalars, Column.name, if_pos rfl, Option.bind_some]
      exact Column.rowsOf?_flat ..

theorem cutColumn_name {c c' : Column} (h : cutColumn start stop c = .ok c') :
    c'.name = c.name := by
  rw [cutColumn] at h
  split at h
  · cases h
    exact Column.emptyLike_name c
  · exact (Column.slice_ok h).1

theorem names_page (h : hits.page keyName names start stop = .ok page) :
    page.columns.map Column.name =
      keyName :: hits.scoreName :: (hits.otherColumns keyName).map Column.name := by
  obtain ⟨keys, columns, htoColumn, hcut, rfl, _⟩ := page_ok h
  obtain rfl := HitKeys.of_toColumn? htoColumn
  have hothers : columns.map Column.name = (hits.otherColumns keyName).map Column.name :=
    ResultSet.names_of_forall₂ (fun _ _ => cutColumn_name) (forall₂_of_mapM hcut)
  rw [HitPage.columns, List.map_cons, List.map_cons, HitKeys.column_name, hothers]
  rfl

/-- Only the keys and the scores of a page can have the same name. -/
theorem nodup_names_page_iff (hdistinct : (hits.columns.map Column.name).Nodup)
    (h : hits.page keyName names start stop = .ok page) :
    (page.columns.map Column.name).Nodup ↔ keyName ≠ hits.scoreName := by
  have hkey : keyName ∉ (hits.otherColumns keyName).map Column.name := by
    rw [List.mem_map]
    rintro ⟨c, hc, hname⟩
    have hne := (List.mem_filter.mp hc).2
    rw [hname, bne_self_eq_false] at hne
    cases hne
  have hscore : hits.scoreName ∉ (hits.otherColumns keyName).map Column.name := by
    intro hmem
    obtain ⟨c, hc, hname⟩ := List.mem_map.mp hmem
    apply hits.scoreName_not_mem
    rw [← hname]
    exact List.mem_append_left _ (List.mem_map_of_mem (List.mem_of_mem_filter hc))
  have hothers : ((hits.otherColumns keyName).map Column.name).Nodup :=
    hdistinct.sublist (List.filter_sublist.map _)
  rw [names_page h, List.nodup_cons, List.nodup_cons, List.mem_cons, not_or]
  exact ⟨fun hnodup => hnodup.1.1, fun hne => ⟨⟨hne, hkey⟩, hscore, hothers⟩⟩

/-- Keys that the reply itself shows, in a column or as an output field, do not have the name of
the scores. -/
theorem ne_scoreName_of_mem (h : keyName ∈ hits.takenNames) : keyName ≠ hits.scoreName := by
  rintro rfl
  exact hits.scoreName_not_mem h

/-- What is found by name on the pages of a reply whose columns differ in their names: on each
page the keys of its range, and exactly if the keys do not have the name of the scores, all of its
columns differ in their names as well and the scores of its range are found. -/
theorem found_of_pages {hits : SearchHits} (hdistinct : (hits.columns.map Column.name).Nodup)
    {keyName : String} {requested : List String} {pages : List HitPage}
    (h : hits.pages keyName requested = .ok pages) :
    List.Forall₂ (fun range page =>
      page.primaryKeys? = some ((hits.keys.list.take range.2).drop range.1) ∧
      page.scores? = (if hits.resolvedKeyName keyName = hits.scoreName then none
        else some ((hits.scores.take range.2).drop range.1)) ∧
      ((page.columns.map Column.name).Nodup ↔ hits.resolvedKeyName keyName ≠ hits.scoreName))
      (ranges 0 hits.topks) pages := by
  refine (forall₂_of_pages h).imp fun range page hpage => ?_
  obtain ⟨hkeys, hscores⟩ := page_reads hpage
  exact ⟨hkeys, hscores, nodup_names_page_iff hdistinct hpage⟩

namespace Sample

/-- One hit; its keys have the name that scores have by default. -/
def keysNamedScore : SearchHits where
  targetCount := 1
  rowLimit := 1
  topks := [1]
  keys := .ints [7]
  scores := [.ofNat 1]
  columns := []
  outputFields := []
  keyName := "score"
  continuation := none

end Sample

/-- The scores of three targets are found behind the keys with the name "id", those of a hit
behind the keys with the name "score" are not. -/
theorem found_of_pages_threeTargets :
    (Sample.threeTargets.columns.map Column.name).Nodup ∧
    (∃ pages, Sample.threeTargets.pages "id" [] = .ok pages ∧
      pages.map HitPage.scores? =
        [some [.ofNat 1, .ofNat 2], some [], some [.ofNat 3]]) ∧
    ∃ page, Sample.keysNamedScore.pages "" [] = .ok [page] ∧
      page.primaryKeys? = some [.int 7] ∧ page.scores? = none ∧
      ¬ (page.columns.map Column.name).Nodup := by
  have hdistinct : (Sample.threeTargets.columns.map Column.name).Nodup := by decide
  refine ⟨hdistinct, ⟨_, rfl, ?_⟩, _, rfl, ?_⟩
  · have hne : Sample.threeTargets.resolvedKeyName "id" ≠ Sample.threeTargets.scoreName :=
      ne_scoreName_of_mem (by decide)
    obtain _ | ⟨first, _ | ⟨second, _ | ⟨third, _⟩⟩⟩ :=
      @found_of_pages Sample.threeTargets hdistinct "id" [] _ rfl
    rw [if_neg hne] at first second third
    rw [List.map_cons, List.map_cons, List.map_cons, first.2.1, second.2.1, third.2.1]
    rfl
  · have hsame : Sample.keysNamedScore.resolvedKeyName "" = Sample.keysNamedScore.scoreName := by
      decide
    obtain _ | ⟨⟨hkeys, hscores, hnames⟩, _⟩ :=
      @found_of_pages Sample.keysNamedScore List.nodup_nil "" [] _ rfl
    rw [if_pos hsame] at hscores
    exact ⟨hkeys, hscores, fun hnodup => hnames.mp hnodup hsame⟩

end SearchHits

end VectorClient
