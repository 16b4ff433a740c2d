import VectorClient.Proofs.BandSearch.Accounts
import VectorClient.Proofs.BandSearch.Hits
import VectorClient.Proofs.Client
import VectorClient.Proofs.SearchParameters

/-!
# Probing a pool of hits

A service that searches a pool of hits answers with the first hits of some closest-first
order, as many as it likes. The order may be another one for every search, and any search
may fail. A page of such a reply has the hits that were sent, and after a page was taken in,
the next probe begins where it ended and excludes the hits at its end.
-/

namespace VectorClient

/-- The band that the caller has asked for. -/
def SearchIteration.band (plan : SearchIteration) : ScoreBand :=
  (plan.search.radius, plan.search.rangeFilter)

namespace BandSearch

/-- The caller's filter, without the hits that have one of these keys. -/
def excluding (plan : SearchIteration) (keys : List PrimaryKey) : String :=
  if keys.isEmpty then plan.search.options.filter
  else Iteration.andFilter plan.search.options.filter
    (plan.primaryKey.name ++ " not in [" ++ ", ".intercalate (keys.map PrimaryKey.filterLiteral)
      ++ "]")

/-- A request for the hits of a band, without those that have one of these keys. -/
structure Asks (plan : SearchIteration) (band : ScoreBand) (excluded : List PrimaryKey)
    (r : SearchRequest) : Prop where
  collection : r.collection = plan.search.options.collection
  targets : plan.search.vectors? = .ok r.targets
  filter : r.filter = excluding plan excluded
  radius : r.parameters.get? Parameter.radius = band.1.map SearchArguments.boundText
  rangeFilter : r.parameters.get? Parameter.rangeFilter = band.2.map SearchArguments.boundText

end BandSearch

namespace HitPool

/-- Hits as a reply for the only target. One without hits may leave out everything else. -/
structure Sends (pool : HitPool) (requestedKey : String) (sent : List Hit) (hits : SearchHits) :
    Prop where
  topks : hits.topks = [sent.length] ∨ hits.topks = [] ∧ sent = []
  keys : hits.keys.list = sent.map Hit.key
  scores : hits.scores = sent.map Hit.score
  keyName : sent ≠ [] → hits.resolvedKeyName requestedKey = pool.keyName
  scoreName : sent ≠ [] → hits.scoreName = pool.scoreName

/-- A service that answers searches out of a pool, if it answers them: with the first hits of a
closest-first order of those that a request asks for. -/
def Answers {σ : Type} (pool : HitPool) (service : Service σ) (plan : SearchIteration)
    (m : Metric) : Prop :=
  ∀ band excluded r deadline s reply s', BandSearch.Asks plan band excluded r →
    service.attempt (.search r) deadline s = (.ok reply, s') →
    ∃ sent, m.Leads sent (pool.eligible m band excluded) ∧
      pool.Sends plan.primaryKey.name sent reply.hits

end HitPool

namespace BandSearch

variable {σ : Type} {service : Service σ} {writes : WriteLog} {s s' : σ} {it it' : BandSearch}
variable {pool : HitPool} {m : Metric} {band : ScoreBand} {excluded : List PrimaryKey}
variable {page : HitPage} {sent : List Hit}

/-- What an iteration adds to the parameters of a search leaves the bounds alone. -/
theorem get?_bound {parameters : Dict String} {name : String} (plan : SearchIteration)
    (hiterator : name ≠ Parameter.iterator) (hcollectionId : name ≠ Parameter.collectionId) :
    ((parameters.insert Parameter.iterator (Parameter.flag true)).insertAll
      (.ofList plan.collectionIdParameters)).get? name = parameters.get? name := by
  have hnone : (Dict.ofList plan.collectionIdParameters).get? name = none := by
    apply Dict.get?_ofList_of_not_mem
    rw [SearchIteration.collectionIdParameters]
    split
    · intro hmem
      exact hcollectionId (List.mem_singleton.mp hmem)
    · exact List.not_mem_nil
  rw [Dict.get?_insertAll (Dict.sorted_ofList _), hnone, Option.none_or, Dict.get?_insert,
    if_neg hiterator]

theorem asks_of_request {rate : Nat} {r : SearchRequest}
    (h : it.request writes band (excluding it.plan excluded) rate = .ok r) :
    Asks it.plan band excluded r := by
  obtain ⟨targets, _, htargets, rfl, rfl⟩ := eq_of_request h
  refine ⟨rfl, htargets, rfl, ?_, ?_⟩
  · exact (get?_bound it.plan (by decide) (by decide)).trans (SearchArguments.get?_radius _)
  · exact (get?_bound it.plan (by decide) (by decide)).trans (SearchArguments.get?_rangeFilter _)

theorem firstPage_ok {hits : SearchHits} (h : it.firstPage hits = .ok page)
    (hsends : pool.Sends it.plan.primaryKey.name sent hits) :
    page.rowCount = sent.length ∧ (sent ≠ [] → page.Offers pool.keyName pool.scoreName sent) := by
  obtain ⟨rest, hpages⟩ := pages_of_firstPage h
  rcases hsends.topks with htopks | ⟨htopks, rfl⟩
  · obtain ⟨_, heq, hoffers⟩ := SearchHits.pages_hits hpages htopks hsends.keys hsends.scores
    cases heq
    refine ⟨hoffers.level.rowCount, fun hne => ?_⟩
    rwa [hsends.keyName hne, hsends.scoreName hne] at hoffers
  · -- a reply to no target has no page
    rw [SearchHits.pages, htopks] at hpages
    split at hpages <;> cases hpages

/-- A page of a search has the hits that were sent. -/
theorem searchBand_ok {rate : Nat} (hserver : pool.Answers service it.plan m)
    (h : it.searchBand service writes band (excluding it.plan excluded) rate s =
      (.ok page, it', s')) :
    ∃ sent, m.Leads sent (pool.eligible m band excluded) ∧ page.rowCount = sent.length ∧
      (sent ≠ [] → page.Offers pool.keyName pool.scoreName sent) := by
  rcases searchBand_cases h with ⟨_, he, _⟩ |
    ⟨r, hrequest, ⟨_, _, he, _⟩ | ⟨reply, hsend, hpage, hstamped⟩⟩
  · cases he
  · cases he
  obtain ⟨s₀, hattempt⟩ := Client.attempt_of_sendSearch hsend
  obtain ⟨sent, hleads, hsends⟩ := hserver _ _ _ _ _ _ _ (asks_of_request hrequest) hattempt
  subst hstamped
  exact ⟨sent, hleads, firstPage_ok hpage.symm hsends⟩

theorem pageScores_ok {scores : List Ieee.Binary32} (h : pageScores page = .ok scores) :
    page.scores? = some scores := by
  rw [pageScores] at h
  split at h
  · cases h
    assumption
  · cases h

theorem pageKeys_ok {keys : List PrimaryKey} (h : pageKeys page = .ok keys) :
    page.primaryKeys? = some keys := by
  rw [pageKeys] at h
  split at h
  · cases h
    assumption
  · cases h

theorem tailScore_ok {scores : List Ieee.Binary32} {tail : Ieee.Binary64}
    (hread : page.scores? = some scores) (h : tailScore page = .ok tail) :
    ∃ score, scores.getLast? = some score ∧ tail = score.convert .binary64 := by
  rw [tailScore, hread, Option.bind_some] at h
  split at h
  · rename_i score hlast
    cases h
    exact ⟨score, hlast, rfl⟩
  · cases h

theorem mem_keysAt {score : Ieee.Binary64} {key : PrimaryKey} :
    key ∈ keysAt score (sent.map Hit.key) (sent.map Hit.score) ↔
      ∃ a ∈ sent, a.key = key ∧ scoresEqual (a.score.convert .binary64) score = true := by
  rw [keysAt, List.zip_map', List.filter_map, List.map_map]
  simp only [List.mem_map, List.mem_filter, Function.comp_apply]
  constructor
  · rintro ⟨a, ⟨ha, hequal⟩, rfl⟩
    exact ⟨a, ha, rfl, hequal⟩
  · rintro ⟨a, ha, rfl, hequal⟩
    exact ⟨a, ⟨ha, hequal⟩, rfl⟩

/-- The tied keys after a page: those of all hits at its end, and those before if its end is
where the band began. -/
structure Ties (m : Metric) (tail : Ieee.Binary64) (tied : List PrimaryKey) (sent : List Hit)
    (next : Hit) (tied' : List PrimaryKey) : Prop where
  found : ∀ a ∈ sent, m.depth a.score = m.depth next.score → a.key ∈ tied'
  kept : scoresEqual (next.score.convert .binary64) tail = true → tied ⊆ tied'
  mem : ∀ key ∈ tied', key ∈ tied ∨ ∃ a ∈ sent, a.key = key

theorem ties_keysAt {next : Hit} (hfinite : ∀ a ∈ sent, a.score.isFinite = true)
    (hnext : next ∈ sent) (m : Metric) (tail : Ieee.Binary64) (tied : List PrimaryKey) :
    Ties m tail tied sent next
      (if scoresEqual (next.score.convert .binary64) tail then
        tied ++ keysAt (next.score.convert .binary64) (sent.map Hit.key) (sent.map Hit.score)
      else keysAt (next.score.convert .binary64) (sent.map Hit.key) (sent.map Hit.score)) := by
  have hfound : ∀ a ∈ sent, m.depth a.score = m.depth next.score →
      a.key ∈ keysAt (next.score.convert .binary64) (sent.map Hit.key) (sent.map Hit.score) := by
    intro a ha hdepth
    exact mem_keysAt.mpr ⟨a, ha, rfl,
      Metric.scoresEqual_of_depth_eq (hfinite a ha) (hfinite next hnext) hdepth⟩
  have hmem : ∀ key ∈ keysAt (next.score.convert .binary64) (sent.map Hit.key)
      (sent.map Hit.score), ∃ a ∈ sent, a.key = key := by
    intro key hkey
    obtain ⟨a, ha, heq, _⟩ := mem_keysAt.mp hkey
    exact ⟨a, ha, heq⟩
  split
  · refine ⟨?_, ?_, ?_⟩
    · intro a ha hdepth
      exact List.mem_append_right _ (hfound a ha hdepth)
    · intro _
      exact List.subset_append_left ..
    · intro key hkey
      rcases List.mem_append.mp hkey with hold | hnew
      · exact .inl hold
      · exact .inr (hmem key hnew)
  · rename_i hmoved
    refine ⟨hfound, ?_, ?_⟩
    · intro hequal
      exact absurd hequal hmoved
    · intro key hkey
      exact .inr (hmem key hkey)

/-- A page whose tied keys were found shows its hits, and the last of them is its tail. -/
theorem updateTied_ok (hpage : page.Offers pool.keyName pool.scoreName sent)
    (hfinite : ∀ a ∈ sent, a.score.isFinite = true) (h : it.updateTied page = (.ok (), it')) :
    HitPage.ShowsHits pool.keyName pool.scoreName page sent ∧
      ∃ next tied, sent.getLast? = some next ∧
        tailScore page = .ok (next.score.convert .binary64) ∧ it' = { it with tied } ∧
        ∀ m : Metric, Ties m it.tail it.tied sent next tied := by
  rcases updateTied_cases h with ⟨⟨_, he⟩, _⟩ |
    ⟨last, scores, keys, tied, htail, hscores, hkeys, htied, hit, _⟩
  · cases he
  have hread := pageScores_ok hscores
  obtain ⟨score, hlast, rfl⟩ := tailScore_ok hread htail
  obtain rfl := hpage.scores scores hread
  obtain rfl : keys = sent.map Hit.key :=
    Option.some.inj ((pageKeys_ok hkeys).symm.trans hpage.keys)
  rw [List.getLast?_map, Option.map_eq_some_iff] at hlast
  obtain ⟨next, hnext, rfl⟩ := hlast
  refine ⟨hpage.shows hread, next, tied, hnext, htail, hit, fun m => ?_⟩
  rw [htied]
  exact ties_keysAt hfinite (List.mem_of_getLast? hnext) m it.tail it.tied

/-- What an iteration is after it has taken in a page with these hits. -/
structure Took (it : BandSearch) (tail : Ieee.Binary64) (tied : List PrimaryKey) (page : HitPage)
    (sent : List Hit) (next : Hit) (it' : BandSearch) : Prop where
  getLast : sent.getLast? = some next
  tail_eq : it'.tail = next.score.convert .binary64
  cache_eq : it'.cache = it.cache ++ [page]
  plan_eq : it'.plan = it.plan
  metric_eq : it'.metric = it.metric
  ties : ∀ m : Metric, Ties m tail tied sent next it'.tied

theorem receive_ok (hpage : page.Offers pool.keyName pool.scoreName sent)
    (hfinite : ∀ a ∈ sent, a.score.isFinite = true) (h : it.receive page = (.ok (), it')) :
    HitPage.ShowsHits pool.keyName pool.scoreName page sent ∧
      ∃ next, Took it it.tail it.tied page sent next it' := by
  obtain ⟨it₁, hupdate, ⟨⟨_, he⟩, _⟩ | ⟨tail, width, _, htail, rfl⟩⟩ := receive_cases h
  · cases he
  · obtain ⟨hshows, next, tied, hnext, htail', rfl, hties⟩ := updateTied_ok hpage hfinite hupdate
    obtain rfl : tail = next.score.convert .binary64 := Except.ok.inj (htail.symm.trans htail')
    exact ⟨hshows, next, hnext, rfl, rfl, rfl, rfl, hties⟩

/-- The first page is taken in as if nothing had been tied before. -/
theorem begin_ok (hpage : page.Offers pool.keyName pool.scoreName sent)
    (hfinite : ∀ a ∈ sent, a.score.isFinite = true) (h : it.begin page = .ok it') :
    HitPage.ShowsHits pool.keyName pool.scoreName page sent ∧
      ∃ next tail, Took it tail [] page sent next it' := by
  obtain ⟨width, tail, tied, hupdate, htail, rfl⟩ := begin_cases h
  obtain ⟨hshows, next, _, hnext, htail', htied, hties⟩ := updateTied_ok hpage hfinite hupdate
  obtain rfl : tail = next.score.convert .binary64 := Except.ok.inj (htail.symm.trans htail')
  cases htied
  exact ⟨hshows, next, _, hnext, rfl, rfl, rfl, rfl, hties⟩

/-- The band of a probe begins where the last page ended and stays within the caller's band. -/
theorem probes_farEnd {last : Hit} (hmetric : it.metric = m) (hlast : last ∈ pool.hits)
    (hwithin : m.within it.plan.band last.score = true)
    (htail : it.tail = last.score.convert .binary64) (factor : Ieee.Binary64) :
    Probes pool m it.plan.band (some (it.farEnd factor), some it.tail) last := by
  have hfinite := pool.finite last hlast
  obtain ⟨hnear, hfar⟩ := Metric.within_iff.mp hwithin
  have hprobe : ∀ {a : Hit}, a ∈ pool.hits →
      (m.within (some (it.farEnd factor), some it.tail) a.score = true ↔
        m.depth last.score ≤ m.depth a.score ∧
          m.closer (a.score.convert .binary64) (it.farEnd factor) = true) := by
    intro a ha
    rw [Metric.within_iff, htail]
    simp only [Option.mem_def, Option.some.injEq, forall_eq']
    rw [Metric.atLeastAsClose_convert hfinite (pool.finite a ha)]
  refine ⟨?_, ?_, ?_⟩
  · intro a ha hin
    exact ((hprobe ha).mp hin).1
  · intro a ha hin
    obtain ⟨hdepth, hcloser⟩ := (hprobe ha).mp hin
    rw [Metric.within_iff]
    constructor
    · intro near hmem
      have hle := (Metric.atLeastAsClose_convert hfinite (pool.finite a ha)).mpr hdepth
      obtain ⟨hnan, _, hbefore⟩ := Metric.atLeastAsClose_iff.mp (hnear near hmem)
      obtain ⟨_, hnan', hbehind⟩ := Metric.atLeastAsClose_iff.mp hle
      exact Metric.atLeastAsClose_iff.mpr ⟨hnan, hnan', Int.le_trans hbefore hbehind⟩
    · intro bound hmem
      -- the last hit is in front of the bound, so the bound is a number
      obtain ⟨_, hnan, _⟩ := Metric.closer_iff.mp (hfar bound hmem)
      rw [← hmetric] at hcloser ⊢
      exact closer_of_closer_farEnd hmem hnan hcloser
  · intro a ha b hb hbehind hdepth hin
    obtain ⟨_, hcloser⟩ := (hprobe hb).mp hin
    refine (hprobe ha).mpr ⟨hbehind, ?_⟩
    obtain ⟨_, hnan, hlt⟩ := Metric.closer_iff.mp hcloser
    have hconvert := Metric.depth_convert_lt_iff (m := m) (pool.finite b hb) (pool.finite a ha)
    have hscore := Ieee.Word.isNaN_of_isFinite
      (Ieee.Word.isFinite_convert Metric.wider (pool.finite a ha))
    exact Metric.closer_iff.mpr ⟨hscore, hnan, by omega⟩

end BandSearch

end VectorClient
