import VectorClient.Proofs.Column.Rows
import VectorClient.Proofs.SearchPages

/-!
# Pages of several targets

A search reply lists the hits of all targets one after another, and says how many belong to each.
Each target gets the page of its range of hits. The ranges meet, from the first hit to the last, so
the pieces of a column on the pages, appended one after another, are the column again. A target
without hits gets a page without rows, with the same columns.

That the numbers of hits do not fit the reply is the only thing that can go wrong, and it is
noticed before the first page is made.
-/

namespace VectorClient.SearchHits

variable {hits : SearchHits} {keyName : String} {names : List String} {n : Nat}

theorem mem_ranges {start : Nat} {topks : List Nat} {range : Nat × Nat}
    (h : range ∈ ranges start topks) : range.2 ≤ start + hitCount topks := by
  induction topks generalizing start with
  | nil => cases h
  | cons topk rest ih =>
      rw [hitCount_cons, ← Nat.add_assoc]
      rcases List.mem_cons.mp h with rfl | hmem
      · exact Nat.le_add_right ..
      · exact ih hmem

theorem ranges_lengths (start : Nat) (topks : List Nat) :
    (ranges start topks).map (fun range => range.2 - range.1) = topks := by
  induction topks generalizing start with
  | nil => rfl
  | cons topk rest ih =>
      rw [ranges, List.map_cons, ih]
      simp

/-- The pieces in all ranges follow the rows before the first. -/
theorem foldlM_append_ranges (c : Column) (start : Nat) (topks : List Nat) :
    ((ranges start topks).map fun range => c.between range.1 range.2).foldlM Column.append
      (c.between 0 start) = .ok (c.between 0 (start + hitCount topks)) := by
  induction topks generalizing start with
  | nil => rfl
  | cons topk rest ih =>
      have hjoin : (c.between 0 start).append (c.between start (start + topk)) =
          .ok (c.between 0 (start + topk)) :=
        Column.append_of_joined
          (Column.joined_between (Nat.zero_le start) (Nat.le_add_right start topk) c)
      rw [ranges, List.map_cons, List.foldlM_cons, hjoin, hitCount_cons, ← Nat.add_assoc]
      exact ih (start + topk)

theorem Even.pagesFrom_eq (h : hits.Even n) (keyName : String) (names : List String)
    {start : Nat} {topks : List Nat} (hfits : start + hitCount topks ≤ n) :
    hits.pagesFrom keyName names start topks =
      .ok ((ranges start topks).map fun range =>
        hits.pageBetween keyName names range.1 range.2) := by
  induction topks generalizing start with
  | nil => rfl
  | cons topk rest ih =>
      rw [hitCount_cons, ← Nat.add_assoc] at hfits
      have hpage : hits.page keyName names start (start + topk) =
          .ok (hits.pageBetween keyName names start (start + topk)) := by
        apply h.page_eq (Nat.le_add_right ..)
        exact Nat.le_trans (Nat.le_add_right ..) hfits
      simp only [pagesFrom, hpage, ih hfits, ranges, List.map_cons]

theorem Consistent.even (h : hits.Consistent) (heven : ∀ c ∈ hits.columns, c.Even c.rowCount) :
    hits.Even (hitCount hits.topks) where
  keys := h.keys
  scores := h.scores
  columns c hc := h.columns c hc ▸ heven c hc

theorem kind_of_checkRows {e : ClientError} (h : hits.checkRows = .error e) :
    e.kind = .unknown := by
  rw [checkRows] at h
  split at h
  · cases h
    rfl
  split at h
  · cases h
    rfl
  split at h
  · cases h
    rfl
  · cases h

/-- The pages of the ranges of all targets. -/
def rangePages (hits : SearchHits) (keyName : String) (names : List String) : List HitPage :=
  (ranges 0 hits.topks).map fun range => hits.pageBetween keyName names range.1 range.2

/-- Once the numbers of hits are found to fit, no page fails. -/
theorem pages_cases (heven : ∀ c ∈ hits.columns, c.Even c.rowCount) (keyName : String)
    (requested : List String) :
    (hits.Consistent ∧ hits.pages keyName requested =
      .ok (hits.rangePages (hits.resolvedKeyName keyName)
        (resolvedNames hits.outputFields requested))) ∨
    (¬ hits.Consistent ∧ ∃ e, hits.pages keyName requested = .error e ∧ e.kind = .unknown) := by
  cases hrows : hits.checkRows with
  | error e =>
      right
      refine ⟨?_, e, ?_, kind_of_checkRows hrows⟩
      · intro h
        rw [checkRows_ok_iff.mpr h] at hrows
        cases hrows
      · rw [SearchHits.pages, hrows]
  | ok =>
      left
      have hconsistent := checkRows_ok_iff.mp hrows
      refine ⟨hconsistent, ?_⟩
      rw [SearchHits.pages, hrows]
      apply (hconsistent.even heven).pagesFrom_eq
      exact Nat.le_of_eq (Nat.zero_add _)

/-- The columns that stand at one place of the pages are pieces of `whole`: all of them have its
name, type and layout, also where they have no rows, and together they have its rows. -/
def Restores (pages : List HitPage) (place : Nat) (whole : Column) : Prop :=
  ∃ pieces : List Column, pages.map (fun page => page.columns[place]?) = pieces.map some ∧
    (∀ piece ∈ pieces, piece.emptyLike = whole.emptyLike) ∧
    pieces.foldlM Column.append whole.emptyLike = .ok whole

section Pages

theorem even_rangePage (h : hits.Even (hitCount hits.topks)) {range : Nat × Nat}
    (hrange : range ∈ ranges 0 hits.topks) :
    (hits.pageBetween keyName names range.1 range.2).results.Even (range.2 - range.1) := by
  apply h.pageBetween
  rw [← Nat.zero_add (hitCount _)]
  exact mem_ranges hrange

theorem rowCount_rangePage (h : hits.Even (hitCount hits.topks)) {range : Nat × Nat}
    (hrange : range ∈ ranges 0 hits.topks) :
    (hits.pageBetween keyName names range.1 range.2).rowCount = range.2 - range.1 :=
  ((even_rangePage h hrange).level (List.cons_ne_nil _ _)).rowCount

theorem rowCounts_rangePages (h : hits.Even (hitCount hits.topks)) :
    (hits.rangePages keyName names).map HitPage.rowCount = hits.topks := by
  calc (hits.rangePages keyName names).map HitPage.rowCount
    _ = (ranges 0 hits.topks).map fun range => range.2 - range.1 := by
        rw [rangePages, List.map_map]
        apply List.map_congr_left
        intro range hrange
        exact rowCount_rangePage h hrange
    _ = hits.topks := ranges_lengths 0 hits.topks

theorem restores_rangePages (h : hits.Even (hitCount hits.topks)) {place : Nat} {whole : Column}
    (hwhole : (hits.pageColumns keyName)[place]? = some whole) :
    Restores (hits.rangePages keyName names) place whole := by
  refine ⟨(ranges 0 hits.topks).map fun range => whole.between range.1 range.2, ?_, ?_, ?_⟩
  · rw [rangePages, List.map_map, List.map_map]
    apply List.map_congr_left
    intro range _
    change ((hits.pageColumns keyName).map _)[place]? = some _
    rw [List.getElem?_map, hwhole]
    rfl
  · intro piece hpiece
    obtain ⟨range, _, rfl⟩ := List.mem_map.mp hpiece
    exact Column.emptyLike_between ..
  · have heven : whole.Even (hitCount hits.topks) :=
      h.pageColumns keyName [] whole (List.mem_of_getElem? hwhole)
    have hpieces := foldlM_append_ranges whole 0 hits.topks
    rwa [Column.between_self, Nat.zero_add, heven.between_all] at hpieces

end Pages

/-- A reply becomes pages exactly if the numbers of hits fit it, and else the error says that the
server broke the contract. There is one page for each target, with as many rows as it has hits,
and the pages together restore the keys, the scores and every column that does not have the name
of the keys, in their order. -/
theorem pages_of_even {hits : SearchHits} (heven : ∀ c ∈ hits.columns, c.Even c.rowCount)
    (keyName : String) (requested : List String) :
    ((∃ pages, hits.pages keyName requested = .ok pages) ↔ hits.Consistent) ∧
    (∀ e, hits.pages keyName requested = .error e → e.kind = .unknown) ∧
    ∀ pages, hits.pages keyName requested = .ok pages →
      pages.map HitPage.rowCount = hits.topks ∧
      (∀ page ∈ pages, page.results.Even page.rowCount ∧ page.columns.length =
        (hits.otherColumns (hits.resolvedKeyName keyName)).length + 2) ∧
      Restores pages 0 (hits.keys.column (hits.resolvedKeyName keyName)) ∧
      Restores pages 1 (.scalars .float hits.scoreName hits.scores) ∧
      ∀ i c, (hits.otherColumns (hits.resolvedKeyName keyName))[i]? = some c →
        Restores pages (i + 2) c := by
  obtain ⟨hfits, hpages⟩ | ⟨hnot, e, hpages, hkind⟩ := pages_cases heven keyName requested
  · rw [hpages]
    refine ⟨⟨fun _ => hfits, fun _ => ⟨_, rfl⟩⟩, nofun, ?_⟩
    rintro pages ⟨⟩
    have hcounts := hfits.even heven
    refine ⟨rowCounts_rangePages hcounts, ?_, ?_, ?_, ?_⟩
    · intro page hpage
      obtain ⟨range, hrange, rfl⟩ := List.mem_map.mp hpage
      constructor
      · rw [rowCount_rangePage hcounts hrange]
        exact even_rangePage hcounts hrange
      · exact List.length_map ..
    · exact restores_rangePages hcounts rfl
    · exact restores_rangePages hcounts rfl
    · intro i c hc
      exact restores_rangePages hcounts hc
  · rw [hpages]
    refine ⟨⟨nofun, fun hfits => absurd hfits hnot⟩, ?_, nofun⟩
    rintro _ ⟨⟩
    exact hkind

namespace Sample

/-- Two hits, none and one; a column has the name of the keys, and another one is a struct. -/
def threeTargets : SearchHits where
  targetCount := 3
  rowLimit := 2
  topks := [2, 0, 1]
  keys := .ints [10, 11, 20]
  scores := [.ofNat 1, .ofNat 2, .ofNat 3]
  columns := [.scalars .varChar "title" ["a", "b", "c"], .scalars .int64 "id" [10, 11, 20],
    .struct "author" [.scalars .int64 "born" [1797, 1775, 1816]]]
  outputFields := ["title", "author"]
  keyName := ""
  continuation := none

theorem even_threeTargets : ∀ c ∈ threeTargets.columns, c.Even c.rowCount := by
  simp [threeTargets, Column.Even, Column.EvenParts, Column.scalars, Column.rowCount]

/-- The same hits for two targets that together have fewer. -/
def short : SearchHits := { threeTargets with topks := [1, 1] }

end Sample

theorem pages_of_even_threeTargets :
    (∃ pages, Sample.threeTargets.pages "id" [] = .ok pages ∧
      pages.map HitPage.rowCount = [2, 0, 1] ∧
      Restores pages 0 (.scalars .int64 "id" [10, 11, 20]) ∧
      Restores pages 2 (.scalars .varChar "title" ["a", "b", "c"]) ∧
      Restores pages 3 (.struct "author" [.scalars .int64 "born" [1797, 1775, 1816]])) ∧
    ∃ e, Sample.short.pages "id" [] = .error e ∧ e.kind = .unknown := by
  have hshort : ∀ c ∈ Sample.short.columns, c.Even c.rowCount := Sample.even_threeTargets
  obtain ⟨haccepted, _, hpages⟩ := pages_of_even Sample.even_threeTargets "id" []
  obtain ⟨hrefused, hkind, _⟩ := pages_of_even hshort "id" []
  constructor
  · have hfits : Sample.threeTargets.Consistent := by
      refine ⟨by decide, rfl, rfl, ?_⟩
      decide
    obtain ⟨pages, h⟩ := haccepted.mpr hfits
    obtain ⟨hcounts, _, hkeys, _, hothers⟩ := hpages pages h
    exact ⟨pages, h, hcounts, hkeys, hothers 0 _ rfl, hothers 1 _ rfl⟩
  · cases h : Sample.short.pages "id" [] with
    | error e => exact ⟨e, rfl, hkind e h⟩
    | ok pages =>
        have hfits := hrefused.mp ⟨pages, h⟩
        exact absurd hfits.keys (by decide)

end VectorClient.SearchHits
