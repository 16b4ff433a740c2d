import VectorClient.Proofs.Lists
import VectorClient.Proofs.PageCache
import VectorClient.Proofs.SearchPages.ScoreName

/-!
# Pages of search replies

A page has the columns that were cut out of the hits, the keys first and the scores
behind them, all of them with as many rows. Therefore the rows of a cache that only
such pages enter can be counted, and taking some out of it takes no more than wanted.
Where the keys, the scores and the columns of the hits have the same number of rows, at
every depth, each range of them can be made a page.
-/

namespace VectorClient

namespace HitKeys

def between (start stop : Nat) : HitKeys → HitKeys
  | ints keys => ints ((keys.take stop).drop start)
  | texts keys => texts ((keys.take stop).drop start)

def column (name : String) : HitKeys → Column
  | ints keys => .scalars .int64 name keys
  | texts keys => .scalars .varChar name keys

theorem column_between (keys : HitKeys) (name : String) (start stop : Nat) :
    (keys.between start stop).column name = (keys.column name).between start stop := by
  cases keys <;> rfl

theorem toColumn?_eq {keys : HitKeys} {start stop : Nat} (hle : start ≤ stop)
    (hstop : stop ≤ keys.length) (name : String) :
    keys.toColumn? name start stop = some ((keys.column name).between start stop) := by
  cases keys with
  | ints keys => exact if_pos ⟨hle, hstop⟩
  | texts keys => exact if_pos ⟨hle, hstop⟩

theorem length_between (keys : HitKeys) (start stop : Nat) :
    (keys.between start stop).length = min stop keys.length - start := by
  cases keys <;> simp [between, length]

@[simp] theorem column_name (keys : HitKeys) (name : String) : (keys.column name).name = name := by
  cases keys <;> rfl

theorem even_column (keys : HitKeys) (name : String) : (keys.column name).Even keys.length := by
  cases keys <;> rfl

end HitKeys

theorem HitPage.ofColumns_ok {keyName scoreName : String} {columns : List Column}
    {names : List String} {page : HitPage}
    (h : ofColumns keyName scoreName columns names = .ok page) :
    page = ⟨keyName, scoreName, ⟨columns, .ofList names⟩⟩ ∧
      page.results.Level (ResultSet.rowCountOf columns) := by
  rw [ofColumns] at h
  cases hr : ResultSet.ofColumns columns names with
  | error e => rw [hr] at h; cases h
  | ok r =>
      obtain ⟨rfl, hlevel⟩ := ResultSet.level_of_ofColumns hr
      rw [hr] at h
      change (if ResultSet.rowCountOf columns = 0 then _ else _) = _ at h
      split at h
      · cases h
        exact ⟨rfl, hlevel⟩
      · split at h
        · cases h
        · cases h
          exact ⟨rfl, hlevel⟩

theorem HitPage.ofColumns_eq {keyName scoreName : String} {columns : List Column}
    {names : List String} {rows : Nat} (hlevel : ResultSet.Level rows ⟨columns, .ofList names⟩)
    (hkey : (columns.find? fun c => c.name == keyName).isSome)
    (hscore : (columns.find? fun c => c.name == scoreName).isSome) :
    ofColumns keyName scoreName columns names =
      .ok ⟨keyName, scoreName, ⟨columns, .ofList names⟩⟩ := by
  have hragged : Column.ragged? (ResultSet.rowCountOf columns) columns = none := by
    refine Column.ragged?_eq_none.mpr ?_
    intro c hc
    have hfirst : ResultSet.rowCountOf columns = rows := hlevel.rowCount
    rw [hlevel.columns c hc, hfirst]
  have hnamed : ([keyName, scoreName].find? fun name =>
      ((⟨columns, .ofList names⟩ : ResultSet).column? name).isNone) = none := by
    rw [List.find?_eq_none]
    intro name hname
    have hsome : ((⟨columns, .ofList names⟩ : ResultSet).column? name).isSome := by
      rcases List.mem_cons.mp hname with rfl | hmem
      · exact hkey
      · rw [List.mem_singleton.mp hmem]
        exact hscore
    rw [Bool.not_eq_true, Option.isNone_eq_false_iff]
    exact hsome
  rw [ofColumns, ResultSet.ofColumns, hragged]
  change (if ResultSet.rowCountOf columns = 0 then _ else _) = _
  split
  · rfl
  · rw [hnamed]
    rfl

namespace SearchHits

variable {hits : SearchHits} {keyName : String} {names : List String} {page : HitPage}

/-- The columns that a page shows besides the keys and the scores. -/
def otherColumns (hits : SearchHits) (keyName : String) : List Column :=
  hits.columns.filter fun c => c.name != keyName

theorem page_ok {start stop : Nat} (h : hits.page keyName names start stop = .ok page) :
    ∃ keys columns, hits.keys.toColumn? keyName start stop = some keys ∧
      (hits.otherColumns keyName).mapM (cutColumn start stop) = .ok columns ∧
      page = ⟨keyName, hits.scoreName, ⟨keys ::
        .scalars .float hits.scoreName ((hits.scores.take stop).drop start) :: columns,
        .ofList names⟩⟩ ∧ page.results.Level keys.rowCount := by
  rw [SearchHits.page] at h
  cases hkeys : hits.keys.toColumn? keyName start stop with
  | none => rw [hkeys] at h; cases h
  | some keys =>
      rw [hkeys] at h
      cases hcolumns : (hits.otherColumns keyName).mapM (cutColumn start stop) with
      | error e => rw [otherColumns] at hcolumns; simp only [hcolumns] at h; cases h
      | ok columns =>
          rw [otherColumns] at hcolumns
          simp only [hcolumns] at h
          split at h
          · cases h
          · rename_i hpage
            cases h
            obtain ⟨heq, hlevel⟩ := HitPage.ofColumns_ok hpage
            exact ⟨keys, columns, rfl, rfl, heq, hlevel⟩

/-- The number of hits of targets with the given numbers of them. -/
def hitCount (topks : List Nat) : Nat := topks.foldr (· + ·) 0

theorem hitCount_cons (topk : Nat) (rest : List Nat) :
    hitCount (topk :: rest) = topk + hitCount rest := rfl

/-- The targets together have as many hits as there are keys, scores and rows of every column,
and few enough to be counted. -/
structure Consistent (hits : SearchHits) : Prop where
  fits : hitCount hits.topks < maxRows
  keys : hits.keys.length = hitCount hits.topks
  scores : hits.scores.length = hitCount hits.topks
  columns : ∀ c ∈ hits.columns, c.rowCount = hitCount hits.topks

theorem checkRows_ok_iff : hits.checkRows = .ok () ↔ hits.Consistent := by
  rw [checkRows, ← hitCount]
  split
  · rename_i hover
    exact ⟨nofun, fun h => absurd h.fits (Nat.not_lt.mpr hover)⟩
  split
  · rename_i hcounts
    refine ⟨nofun, fun h => ?_⟩
    exact absurd hcounts (not_or.mpr ⟨not_not.mpr h.keys, not_not.mpr h.scores⟩)
  rename_i hfits hcounts
  obtain ⟨hkeys, hscores⟩ := not_or.mp hcounts
  cases hragged : Column.ragged? (hitCount hits.topks) hits.columns with
  | some c =>
      refine ⟨nofun, fun h => ?_⟩
      rw [Column.ragged?_eq_none.mpr h.columns] at hragged
      cases hragged
  | none =>
      refine ⟨fun _ => ?_, fun _ => rfl⟩
      exact ⟨Nat.not_le.mp hfits, not_not.mp hkeys, not_not.mp hscores,
        Column.ragged?_eq_none.mp hragged⟩

/-- The columns that pages are cut out of: the keys, the scores and the others. -/
def pageColumns (hits : SearchHits) (keyName : String) : List Column :=
  hits.keys.column keyName :: .scalars .float hits.scoreName hits.scores ::
    hits.otherColumns keyName

/-- The page of the hits from `start` up to `stop`, as many as there are. -/
def pageBetween (hits : SearchHits) (keyName : String) (names : List String) (start stop : Nat) :
    HitPage :=
  ⟨keyName, hits.scoreName,
    ⟨(hits.pageColumns keyName).map (Column.between start stop), .ofList names⟩⟩

/-- Keys, scores and columns have `n` rows, the columns at every depth. -/
structure Even (n : Nat) (hits : SearchHits) : Prop where
  keys : hits.keys.length = n
  scores : hits.scores.length = n
  columns : ∀ c ∈ hits.columns, c.Even n

theorem cutColumn_eq_between {n start stop : Nat} {c : Column} (h : c.Even n)
    (hle : start ≤ stop) (hstop : stop ≤ n) :
    cutColumn start stop c = .ok (c.between start stop) := by
  rw [cutColumn]
  split
  · rename_i hempty
    rw [hempty, Column.between_self]
  · exact Column.slice_eq_between (by omega) (by omega) h

namespace Even

variable {n start stop : Nat}

theorem consistent (h : hits.Even n) (htotal : hitCount hits.topks = n) (hfits : n < maxRows) :
    hits.Consistent := by
  subst htotal
  exact ⟨hfits, h.keys, h.scores, fun c hc => (h.columns c hc).rowCount⟩

theorem pageColumns (h : hits.Even n) (keyName : String) (names : List String) :
    ResultSet.Even n ⟨hits.pageColumns keyName, .ofList names⟩ := by
  intro c hc
  rcases List.mem_cons.mp hc with rfl | hc
  · rw [← h.keys]
    exact hits.keys.even_column keyName
  rcases List.mem_cons.mp hc with rfl | hc
  · exact h.scores
  · exact h.columns c (List.mem_of_mem_filter hc)

theorem pageBetween (h : hits.Even n) (hstop : stop ≤ n) (keyName : String) (names : List String) :
    (hits.pageBetween keyName names start stop).results.Even (stop - start) := by
  have hcut := (h.pageColumns keyName names).between start stop
  rwa [Nat.min_eq_left hstop] at hcut

/-- Every range of the hits can be made a page. -/
theorem page_eq (h : hits.Even n) (hle : start ≤ stop) (hstop : stop ≤ n) (keyName : String)
    (names : List String) :
    hits.page keyName names start stop = .ok (hits.pageBetween keyName names start stop) := by
  have hkeys : hits.keys.toColumn? keyName start stop =
      some ((hits.keys.column keyName).between start stop) :=
    HitKeys.toColumn?_eq hle (by rw [h.keys]; exact hstop) keyName
  have hothers : (hits.columns.filter fun c => c.name != keyName).mapM (cutColumn start stop) =
      .ok ((hits.otherColumns keyName).map (Column.between start stop)) := by
    apply mapM_ok
    intro c hc
    exact cutColumn_eq_between (h.columns c (List.mem_of_mem_filter hc)) hle hstop
  have hlevel : (hits.pageBetween keyName names start stop).results.Level (stop - start) :=
    (h.pageBetween hstop keyName names).level (List.cons_ne_nil _ _)
  have hpage : HitPage.ofColumns keyName hits.scoreName
      ((hits.pageColumns keyName).map (Column.between start stop)) names =
        .ok (hits.pageBetween keyName names start stop) := by
    apply HitPage.ofColumns_eq hlevel
    · refine List.find?_isSome.mpr ⟨_, List.mem_cons_self .., ?_⟩
      rw [Column.between_name, HitKeys.column_name, beq_self_eq_true]
    · refine List.find?_isSome.mpr ⟨_, List.mem_cons_of_mem _ (List.mem_cons_self ..), ?_⟩
      rw [Column.between_name]
      exact beq_self_eq_true _
  have hscores : Column.scalars .float hits.scoreName ((hits.scores.take stop).drop start) =
      (Column.scalars .float hits.scoreName hits.scores).between start stop := rfl
  rw [SearchHits.pageColumns, List.map_cons, List.map_cons] at hpage
  simp only [SearchHits.page, hkeys, hothers, hscores, hpage]

end Even

/-- The ranges of the hits of targets with the given numbers of them, the first one at `start`. -/
def ranges : Nat → List Nat → List (Nat × Nat)
  | _, [] => []
  | start, topk :: rest => (start, start + topk) :: ranges (start + topk) rest

/-- Every page is that of its range. -/
theorem forall₂_of_pagesFrom {start : Nat} {topks : List Nat} {pages : List HitPage}
    (h : hits.pagesFrom keyName names start topks = .ok pages) :
    List.Forall₂ (fun range page => hits.page keyName names range.1 range.2 = .ok page)
      (ranges start topks) pages := by
  induction topks generalizing start pages with
  | nil =>
      cases h
      exact .nil
  | cons topk rest ih =>
      rw [pagesFrom] at h
      split at h
      · cases h
      · rename_i first hfirst
        split at h
        · cases h
        · rename_i pages' hrest
          cases h
          exact .cons hfirst (ih hrest)

theorem forall₂_of_pages {requested : List String} {pages : List HitPage}
    (h : hits.pages keyName requested = .ok pages) :
    List.Forall₂ (fun range page => hits.page (hits.resolvedKeyName keyName)
      (resolvedNames hits.outputFields requested) range.1 range.2 = .ok page)
      (ranges 0 hits.topks) pages := by
  rw [SearchHits.pages] at h
  split at h
  · cases h
  · exact forall₂_of_pagesFrom h

theorem level_of_mem_pages {pages : List HitPage} (h : hits.pages keyName names = .ok pages)
    (hpage : page ∈ pages) : ∃ rows, PageView.level.Shows page rows := by
  obtain ⟨range, _, hcut⟩ := mem_right_of_forall₂ (forall₂_of_pages h) hpage
  obtain ⟨keys, _, _, _, _, hlevel⟩ := page_ok hcut
  refine ⟨List.replicate keys.rowCount (), ?_⟩
  change page.results.Level (List.replicate keys.rowCount ()).length
  rwa [List.length_replicate]

end SearchHits

/-- Pages that the level view shows, so that their rows can be counted. -/
def PageCache.Counted (pages : List HitPage) : Prop := ∃ rows, Holds PageView.level pages rows

namespace PageCache

variable {pages rest : List HitPage} {wanted : Nat} {template page : HitPage}

theorem Counted.append (h : Counted pages) (hpage : ∃ rows, PageView.level.Shows page rows) :
    Counted (pages ++ [page]) := by
  obtain ⟨rows, hrows⟩ := h
  obtain ⟨rows', hrows'⟩ := hpage
  exact ⟨rows ++ rows', hrows.append hrows'⟩

theorem Counted.take {outcome : Except ClientError HitPage} (h : Counted pages)
    (htake : PageCache.take pages wanted template = (outcome, rest)) :
    Counted rest ∧ ∀ page, outcome = .ok page → page.rowCount ≤ wanted := by
  obtain ⟨rows, hrows⟩ := h
  refine ⟨take_rest hrows htake, ?_⟩
  intro page hpage
  subst hpage
  obtain ⟨hshows, _⟩ := take_ok hrows htake
  rw [PageView.level.rowCount_eq hshows, List.length_take]
  exact Nat.min_le_left ..

end PageCache

end VectorClient
