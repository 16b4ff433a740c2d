import VectorClient.Proofs.BandSearch.Order
import VectorClient.Proofs.SearchPages.Names

/-!
# Hits of pages

A page shows hits if its keys and its scores can be read under their names, as many as it
has rows. Pages of replies that name them alike can be cut and joined, and show the hits
in their order. What else a page has does not matter, nor whether it is ragged inside.
-/

namespace VectorClient

namespace HitPage

/-- The hits of a page, none if it has no keys or no scores. -/
def hits (p : HitPage) : List Hit :=
  match p.primaryKeys?, p.scores? with
  | some keys, some scores => List.zipWith Hit.mk keys scores
  | _, _ => []

/-- The keys of a page, none if they cannot be read under its name for them. -/
def keys (p : HitPage) : List PrimaryKey := p.primaryKeys?.getD []

section Keys

variable {p q r : HitPage} {keys keys' : List PrimaryKey}

theorem primaryKeys?_slice {start stop : Nat} (h : p.slice start stop = .ok q)
    (hkeys : p.primaryKeys? = some keys) : q.primaryKeys? = some ((keys.take stop).drop start) := by
  obtain ⟨hresults, hkeyName, _⟩ := columns_of_slice h
  rw [primaryKeys?, ResultSet.primaryKeys?, Option.bind_eq_some_iff] at hkeys
  obtain ⟨c, hc, hofColumn⟩ := hkeys
  obtain ⟨d, hd, hslice⟩ := ResultSet.column?_slice hresults hc
  rw [primaryKeys?, ResultSet.primaryKeys?, hkeyName, hd, Option.bind_some]
  exact PrimaryKey.ofColumn?_slice hslice hofColumn

theorem columns_ne_nil_of_primaryKeys? (h : p.primaryKeys? = some keys) :
    p.results.columns ≠ [] := by
  rw [primaryKeys?, ResultSet.primaryKeys?, Option.bind_eq_some_iff] at h
  obtain ⟨c, hc, _⟩ := h
  exact List.ne_nil_of_mem (List.mem_of_find?_eq_some hc)

/-- A page with keys is not joined with one that has no columns. -/
theorem columns_ne_nil_of_joined (h : p.joined q = .ok r) (hkeys : p.primaryKeys? = some keys) :
    q.columns ≠ [] := by
  rw [primaryKeys?, ResultSet.primaryKeys?, Option.bind_eq_some_iff] at hkeys
  obtain ⟨c, hc, _⟩ := hkeys
  obtain ⟨d, _, hd, _⟩ := ResultSet.column?_joined (columns_of_joined h).1 hc
  exact List.ne_nil_of_mem (List.mem_of_find?_eq_some hd)

/-- Keys are joined if both pages name them alike. -/
theorem primaryKeys?_joined (h : p.joined q = .ok r) (hname : q.keyName = p.keyName)
    (hkeys : p.primaryKeys? = some keys) (hkeys' : q.primaryKeys? = some keys') :
    r.primaryKeys? = some (keys ++ keys') := by
  obtain ⟨hresults, hkeyName, _⟩ := columns_of_joined h
  rw [primaryKeys?, ResultSet.primaryKeys?, Option.bind_eq_some_iff] at hkeys
  obtain ⟨c, hc, hofColumn⟩ := hkeys
  obtain ⟨d, e, hd, hjoin, he⟩ := ResultSet.column?_joined hresults hc
  rw [primaryKeys?, ResultSet.primaryKeys?, hname, hd, Option.bind_some] at hkeys'
  rw [primaryKeys?, ResultSet.primaryKeys?, hkeyName, he, Option.bind_some,
    PrimaryKey.ofColumn?_joined hjoin, hofColumn, hkeys']
  rfl

theorem keys_of_columns_eq_nil (h : p.columns = []) : p.keys = [] := by
  rw [columns] at h
  rw [HitPage.keys, primaryKeys?, ResultSet.primaryKeys?, ResultSet.column?, h]
  rfl

end Keys

/-- A page with these hits, its keys and scores under the given names. A page without columns
has none. -/
inductive ShowsHits (keyName scoreName : String) : HitPage → List Hit → Prop
  | bare {p : HitPage} : p.columns = [] → ShowsHits keyName scoreName p []
  | hits {p : HitPage} {hits : List Hit} : p.keyName = keyName → p.scoreName = scoreName →
      p.results.Level hits.length → p.primaryKeys? = some (hits.map Hit.key) →
      p.scores? = some (hits.map Hit.score) → ShowsHits keyName scoreName p hits

theorem zipWith_hits (hits : List Hit) :
    List.zipWith Hit.mk (hits.map Hit.key) (hits.map Hit.score) = hits := by
  induction hits with
  | nil => rfl
  | cons h rest ih => rw [List.map_cons, List.map_cons, List.zipWith_cons_cons, ih]

namespace ShowsHits

variable {keyName scoreName : String} {p q r : HitPage} {xs ys : List Hit}

theorem hits_eq (h : ShowsHits keyName scoreName p xs) : p.hits = xs := by
  cases h with
  | bare hnil =>
      rw [columns] at hnil
      rw [HitPage.hits, primaryKeys?, ResultSet.primaryKeys?, ResultSet.column?, hnil]
      rfl
  | hits _ _ _ hkeys hscores =>
      rw [HitPage.hits, hkeys, hscores]
      exact zipWith_hits xs

theorem rowCount_eq (h : ShowsHits keyName scoreName p xs) : p.rowCount = xs.length := by
  cases h with
  | bare hnil => exact rowCount_of_columns_eq_nil hnil
  | hits _ _ hlevel _ _ => exact hlevel.rowCount

theorem slice {start stop : Nat} (h : ShowsHits keyName scoreName p xs)
    (hq : p.slice start stop = .ok q) :
    ShowsHits keyName scoreName q ((xs.take stop).drop start) := by
  obtain ⟨hresults, hkeyName, hscoreName⟩ := columns_of_slice hq
  cases h with
  | bare hnil =>
      have hcut := (ResultSet.slice_ok hresults).2
      rw [columns] at hnil
      rw [hnil, List.forall₂_nil_left_iff] at hcut
      rw [List.take_nil, List.drop_nil]
      exact .bare hcut
  | hits hkey hscore hlevel hkeys hscores =>
      refine .hits (hkeyName.trans hkey) (hscoreName.trans hscore) ?_ ?_ ?_
      · rw [List.length_drop, List.length_take]
        exact hlevel.slice hresults
      · rw [List.map_drop, List.map_take]
        exact primaryKeys?_slice hq hkeys
      · rw [scores?, Option.bind_eq_some_iff] at hscores
        obtain ⟨c, hc, hrows⟩ := hscores
        obtain ⟨d, hd, hslice⟩ := ResultSet.column?_slice hresults hc
        rw [scores?, hscoreName, hd, Option.bind_some, Column.slice_rowsOf? hslice, hrows,
          Option.map_some, List.map_drop, List.map_take]

theorem joined (hp : ShowsHits keyName scoreName p xs) (hne : xs ≠ [])
    (hq : ShowsHits keyName scoreName q ys) (h : p.joined q = .ok r) :
    ShowsHits keyName scoreName r (xs ++ ys) := by
  obtain ⟨hresults, hkeyName, hscoreName⟩ := columns_of_joined h
  cases hp with
  | bare _ => exact absurd rfl hne
  | hits hkey hscore hlevel hkeys hscores =>
      cases hq with
      | bare hnil => exact absurd hnil (columns_ne_nil_of_joined h hkeys)
      | hits hkey' hscore' hlevel' hkeys' hscores' =>
          refine .hits (hkeyName.trans hkey) (hscoreName.trans hscore) ?_ ?_ ?_
          · rw [List.length_append]
            exact hlevel.joined hlevel' (columns_ne_nil_of_primaryKeys? hkeys) hresults
          · rw [List.map_append]
            exact primaryKeys?_joined h (hkey'.trans hkey.symm) hkeys hkeys'
          · rw [scores?, Option.bind_eq_some_iff] at hscores hscores'
            obtain ⟨c, hc, hrows⟩ := hscores
            obtain ⟨d, e, hd, hjoin, he⟩ := ResultSet.column?_joined hresults hc
            rw [hscore', ← hscore, hd] at hscores'
            obtain ⟨_, hsame, hrows'⟩ := hscores'
            cases hsame
            rw [scores?, hscoreName, he, Option.bind_some, List.map_append]
            exact hjoin.rowsOf?_eq hrows hrows'

end ShowsHits

end HitPage

/-- A page that has these hits, and shows them if its scores can be read at all. -/
structure HitPage.Offers (p : HitPage) (keyName scoreName : String) (hits : List Hit) : Prop where
  keyName_eq : p.keyName = keyName
  scoreName_eq : p.scoreName = scoreName
  level : p.results.Level hits.length
  keys : p.primaryKeys? = some (hits.map Hit.key)
  scores : ∀ scores, p.scores? = some scores → scores = hits.map Hit.score

theorem HitPage.Offers.shows {keyName scoreName : String} {p : HitPage} {hits : List Hit}
    {scores : List Ieee.Binary32} (h : p.Offers keyName scoreName hits)
    (hread : p.scores? = some scores) : ShowsHits keyName scoreName p hits :=
  .hits h.keyName_eq h.scoreName_eq h.level h.keys (by rw [hread, h.scores scores hread])

/-- The reading of pages as hits under given names. -/
def PageView.hits (keyName scoreName : String) : PageView Hit where
  Shows := HitPage.ShowsHits keyName scoreName
  rowCount_eq := HitPage.ShowsHits.rowCount_eq
  bare := .bare
  slice := .slice
  joined := .joined

/-- A reply to one target is one page. It has the keys; the scores can be read unless they are
named like the keys. -/
theorem SearchHits.pages_hits {hits : SearchHits} {requested : String} {fields : List String}
    {pages : List HitPage} {sent : List Hit} (h : hits.pages requested fields = .ok pages)
    (htopks : hits.topks = [sent.length]) (hkeys : hits.keys.list = sent.map Hit.key)
    (hscores : hits.scores = sent.map Hit.score) :
    ∃ page, pages = [page] ∧ page.Offers (hits.resolvedKeyName requested) hits.scoreName sent := by
  have hlength : hits.keys.length = sent.length := by
    rw [← hits.keys.length_list, hkeys, List.length_map]
  obtain ⟨page, rfl, hpage⟩ : ∃ page, pages = [page] ∧ hits.page (hits.resolvedKeyName requested)
      (resolvedNames hits.outputFields fields) 0 sent.length = .ok page := by
    have hpages := forall₂_of_pages h
    rw [htopks, ranges, ranges, List.forall₂_cons_left_iff, Nat.zero_add] at hpages
    obtain ⟨page, rest, hpage, hrest, rfl⟩ := hpages
    obtain rfl := List.forall₂_nil_left_iff.mp hrest
    exact ⟨page, rfl, hpage⟩
  obtain ⟨hreadKeys, hreadScores⟩ := page_reads hpage
  obtain ⟨keys, columns, htoColumn, _, rfl, hlevel⟩ := page_ok hpage
  obtain rfl := HitKeys.of_toColumn? htoColumn
  have hall : ∀ {α : Type} {l : List α}, l.length = sent.length →
      (l.take sent.length).drop 0 = l := by
    intro α l hl
    rw [List.drop_zero, List.take_of_length_le (Nat.le_of_eq hl)]
  refine ⟨_, rfl, rfl, rfl, ?_, ?_, ?_⟩
  · rwa [(HitKeys.even_column _ _).rowCount, HitKeys.length_between, hlength, Nat.min_self,
      Nat.sub_zero] at hlevel
  · rw [hreadKeys, hkeys, hall (List.length_map _)]
  · intro scores hread
    rw [hreadScores] at hread
    split at hread
    · cases hread
    · rw [← Option.some.inj hread, hscores, hall (List.length_map _)]

end VectorClient
