import VectorClient.Proofs.BandSearch.Probing
import VectorClient.Proofs.Iteration.Drain
import VectorClient.Proofs.Iteration.FilterText

/-!
# Delivery of a band search

A search that is iterated by bands delivers the first hits of a closest-first order of all
hits in the caller's band, whatever part of each band the server sends. What was received
continues from probe to probe, and the hits that were received and not yet delivered are in
the cache, in the same order.

A request says which hits it asks for, so a server that looks at nothing else can answer out of
a pool.
-/

namespace VectorClient

namespace BandSearch

variable {σ : Type} {service : Service σ} {writes : WriteLog} {s s' : σ} {it it' : BandSearch}
variable {pool : HitPool} {plan : SearchIteration} {m : Metric} {page : HitPage}
variable {received pending sent : List Hit}

/-- The iteration has received these hits and still holds the pending ones. -/
structure Probed (pool : HitPool) (plan : SearchIteration) (m : Metric)
    (received pending : List Hit) (it : BandSearch) : Prop where
  plan_eq : it.plan = plan
  metric_eq : it.metric = m
  received : ∃ last, it.tail = last.score.convert .binary64 ∧
    Received pool m plan.band received last it.tied
  cached : PageCache.Holds (PageView.hits pool.keyName pool.scoreName) it.cache pending

namespace Probed

theorem receive {factor : Ieee.Binary64} (h : Probed pool plan m received pending it)
    (hsent : m.Leads sent (pool.eligible m (some (it.farEnd factor), some it.tail) it.tied))
    (hpage : page.Offers pool.keyName pool.scoreName sent)
    (hreceive : it.receive page = (.ok (), it')) :
    Probed pool plan m (received ++ sent) (pending ++ sent) it' := by
  obtain ⟨last, htail, hreceived⟩ := h.received
  have hfinite : ∀ a ∈ sent, a.score.isFinite = true :=
    fun a ha => HitPool.finite_eligible a (hsent.subset ha)
  obtain ⟨hshows, next, htook⟩ := receive_ok hpage hfinite hreceive
  obtain ⟨hlast, hwithin, _⟩ := HitPool.mem_eligible.mp (hreceived.subset hreceived.last_mem)
  have hprobe := probes_farEnd h.metric_eq hlast (h.plan_eq ▸ hwithin) htail factor
  rw [h.plan_eq] at hprobe
  have hties := htook.ties m
  refine ⟨htook.plan_eq.trans h.plan_eq, htook.metric_eq.trans h.metric_eq,
    ⟨next, htook.tail_eq, ?_⟩, ?_⟩
  · refine hreceived.append hprobe hsent htook.getLast hties.found (fun hdepth => ?_) hties.mem
    apply hties.kept
    rw [htail]
    exact Metric.scoresEqual_of_depth_eq (hfinite next (List.mem_of_getLast? htook.getLast))
      (pool.finite last hlast) hdepth
  · rw [htook.cache_eq]
    exact h.cached.append hshows

/-- Probes add what they find behind the hits received before, by induction on their number. -/
theorem fill {wanted left : Nat} (hserver : pool.Answers service plan m)
    (h : Probed pool plan m received pending it)
    (hfill : it.fill service writes wanted left s = (.ok (), it', s')) :
    ∃ more, Probed pool plan m (received ++ more) (pending ++ more) it' := by
  induction left generalizing it s received pending with
  | zero =>
      rw [BandSearch.fill] at hfill
      cases hfill
      exact ⟨[], by rwa [List.append_nil, List.append_nil]⟩
  | succ left ih =>
      rw [BandSearch.fill] at hfill
      split at hfill
      · cases hfill
        exact ⟨[], by rwa [List.append_nil, List.append_nil]⟩
      dsimp only at hfill
      split at hfill
      · cases hfill
      rename_i page it₁ s₁ hsearch
      obtain ⟨sent, hsent, hcount, hoffers⟩ := searchBand_ok (h.plan_eq ▸ hserver) hsearch
      obtain ⟨⟨ts, rfl⟩, _⟩ := searchBand_frame hsearch
      have hstamped : Probed pool plan m received pending { it with sessionTimestamp := ts } :=
        ⟨h.plan_eq, h.metric_eq, h.received, h.cached⟩
      split at hfill
      · exact ih hstamped hfill
      · rename_i hempty
        have hne : sent ≠ [] := by
          rintro rfl
          exact hempty (HitPage.isEmpty_iff.mpr hcount)
        split at hfill
        · cases hfill
        · rename_i hreceive
          obtain ⟨more, hmore⟩ := ih (hstamped.receive hsent (hoffers hne) hreceive) hfill
          refine ⟨sent ++ more, ?_⟩
          rwa [← List.append_assoc, ← List.append_assoc]

theorem deliver {wanted : Nat} (h : Probed pool plan m received pending it)
    (hdeliver : it.deliver wanted = (.ok page, it')) :
    HitPage.ShowsHits pool.keyName pool.scoreName page (pending.take wanted) ∧
      Probed pool plan m received (pending.drop wanted) it' := by
  rw [BandSearch.deliver] at hdeliver
  rcases htake : PageCache.take it.cache wanted it.template with ⟨_ | taken, rest⟩
  · rw [htake] at hdeliver
    cases hdeliver
  · obtain ⟨hshows, hrest⟩ := PageCache.take_ok h.cached htake
    rw [htake] at hdeliver
    dsimp only at hdeliver
    split at hdeliver
    · cases hdeliver
    · cases hdeliver
      exact ⟨hshows, h.plan_eq, h.metric_eq, h.received, hrest⟩

/-- A batch has the first of the hits that were received and not yet delivered. -/
theorem nextBatch (hserver : pool.Answers service plan m)
    (h : Probed pool plan m received pending it)
    (hbatch : it.nextBatch service writes s = (.ok page, it', s')) :
    ∃ more rest, pending ++ more = page.hits ++ rest ∧ page.hits.length = page.rowCount ∧
      Probed pool plan m (received ++ more) rest it' := by
  rcases nextBatch_cases hbatch with ⟨hpage, rfl, _⟩ | ⟨_, ⟨_, herror, _⟩ | ⟨it₁, hfill, hdeliver⟩⟩
  · cases hpage
    have hshows : HitPage.ShowsHits pool.keyName pool.scoreName it.template.emptyLike [] :=
      .bare rfl
    refine ⟨[], pending, ?_, ?_, ?_⟩
    · rw [hshows.hits_eq, List.append_nil, List.nil_append]
    · rw [hshows.hits_eq, hshows.rowCount_eq]
    · rw [List.append_nil]
      exact ⟨h.plan_eq, h.metric_eq, h.received, h.cached⟩
  · cases herror
  · obtain ⟨more, hmore⟩ := h.fill hserver hfill
    obtain ⟨hshows, hrest⟩ := hmore.deliver hdeliver
    refine ⟨more, _, ?_, ?_, hrest⟩
    · rw [hshows.hits_eq, List.take_append_drop]
    · rw [hshows.hits_eq, hshows.rowCount_eq]

/-- While it owes rows and holds some, an iteration hands some of them out. -/
theorem hits_ne_nil (hserver : pool.Answers service plan m)
    (h : Probed pool plan m received pending it) (hphase : it.phase ≠ .exhausted)
    (howed : Iteration.owed it.plan.limit it.returned ≠ some 0) (hpos : 0 < it.plan.batchSize)
    (hpending : pending ≠ []) (hbatch : it.nextBatch service writes s = (.ok page, it', s')) :
    page.hits ≠ [] := by
  have hopen : ¬(it.phase = .exhausted ∨ Iteration.owed it.plan.limit it.returned = some 0) :=
    not_or.mpr ⟨hphase, howed⟩
  rw [BandSearch.nextBatch, if_neg hopen] at hbatch
  dsimp only at hbatch
  split at hbatch
  · cases hbatch
  rename_i it₁ s₁ hfill
  obtain ⟨more, hmore⟩ := h.fill hserver hfill
  rcases hdeliver : it₁.deliver (Iteration.capped (Iteration.owed it.plan.limit it.returned)
    it.plan.batchSize) with ⟨_ | taken, it₂⟩
  · rw [hdeliver] at hbatch
    cases hbatch
  · rw [hdeliver] at hbatch
    cases hbatch
    obtain ⟨hshows, _⟩ := hmore.deliver hdeliver
    rw [hshows.hits_eq]
    intro hnil
    rcases List.take_eq_nil_iff.mp hnil with hzero | hnone
    · exact absurd hzero (Iteration.capped_pos howed hpos).ne'
    · exact hpending (List.append_eq_nil_iff.mp hnone).1

end Probed

/-- The iteration has delivered these hits, the first of those that it has received. -/
def Delivered (pool : HitPool) (plan : SearchIteration) (m : Metric) (delivered : List Hit)
    (it : BandSearch) : Prop :=
  ∃ pending, Probed pool plan m (delivered ++ pending) pending it

theorem delivers (hserver : pool.Answers service plan m) :
    (batches service).Delivers HitPage.hits (Delivered pool plan m) := by
  intro delivered writes it s page it' s' hit hbatch
  obtain ⟨pending, hprobed⟩ := hit
  obtain ⟨more, rest, hrows, hlength, hprobed'⟩ := hprobed.nextBatch hserver hbatch
  refine ⟨⟨rest, ?_⟩, hlength⟩
  rwa [List.append_assoc, ← hrows, ← List.append_assoc]

theorem metric_of_checkRange {search : SearchArguments} {metric : Metric}
    (h : checkRange search = .ok metric) : search.metric = some metric := by
  rw [checkRange] at h
  split at h
  · cases h
  split at h
  · cases h
  · rename_i hmetric _ _
    split at h
    · cases h
    split at h
    · cases h
    · cases h
      exact hmetric
  · cases h
    assumption

/-- The first search is one of the caller's band, with nothing to leave out, and it has found
something. -/
theorem probed_of_start {client : Client} (hmetric : plan.search.metric = some m)
    (hserver : pool.Answers service plan m)
    (h : start service writes client plan s = (.ok it, s')) :
    ∃ sent, sent ≠ [] ∧ Probed pool plan m sent sent it := by
  rcases start_cases h with ⟨_, he, _⟩ |
    ⟨metric, found, it₁, _, hrange, hsearch, ⟨_, he⟩ | ⟨page, it₂, rfl, hbegin, hit⟩⟩
  · cases he
  · cases he
  cases hit
  obtain rfl : metric = m := Option.some.inj ((metric_of_checkRange hrange).symm.trans hmetric)
  obtain ⟨sent, hsent, hcount, hoffers⟩ : ∃ sent, metric.Leads sent (pool.eligible metric
      plan.band []) ∧ page.rowCount = sent.length ∧
        (sent ≠ [] → page.Offers pool.keyName pool.scoreName sent) :=
    searchBand_ok (show pool.Answers service (ofPlan client plan metric).plan metric from hserver)
      hsearch
  obtain ⟨⟨ts, rfl⟩, _⟩ := searchBand_frame hsearch
  have hne : sent ≠ [] := by
    rintro rfl
    rw [begin, if_pos (HitPage.isEmpty_iff.mpr hcount)] at hbegin
    cases hbegin
  obtain ⟨hshows, next, tail, htook⟩ := begin_ok (hoffers hne)
    (fun a ha => HitPool.finite_eligible a (hsent.subset ha)) hbegin
  have hties := htook.ties metric
  refine ⟨sent, hne, htook.plan_eq, htook.metric_eq, ⟨next, htook.tail_eq, ?_⟩, ?_⟩
  · refine .of_leads hsent htook.getLast hties.found fun key hkey => ?_
    exact (hties.mem key hkey).resolve_left List.not_mem_nil
  · rw [htook.cache_eq]
    exact PageCache.Holds.nil.append hshows

theorem validate_of_start {client : Client}
    (h : start service writes client plan s = (.ok it, s')) : plan.validate = .ok () := by
  rcases start_cases h with ⟨_, he, _⟩ | ⟨_, _, _, hvalid, _⟩
  · cases he
  · exact hvalid

/-- The hits of all batches in front of the first error. -/
def deliveredHits (service : Service σ) (calls : List (Call × WriteLog)) (it : BandSearch) (s : σ) :
    List Hit :=
  (Outcome.batches ((batches service).run calls it s).1).flatMap HitPage.hits

/-- The first call of a run fails or delivers some of the hits at hand. -/
theorem deliveredHits_ne_nil (hserver : pool.Answers service plan m)
    (h : Probed pool plan m received pending it) (hphase : it.phase ≠ .exhausted)
    (howed : Iteration.owed it.plan.limit it.returned ≠ some 0) (hpos : 0 < it.plan.batchSize)
    (hpending : pending ≠ []) {calls : List (Call × WriteLog)} (hcalls : calls ≠ []) (s : σ) :
    deliveredHits service calls it s ≠ [] ∨
      ∃ e, ((batches service).run calls it s).1.head? = some (.failed e) := by
  obtain ⟨⟨call, writes⟩, rest, rfl⟩ := List.exists_cons_of_ne_nil hcalls
  rcases hperform : (batches service).perform call writes it s with ⟨outcome, it₁, s₁⟩
  rw [deliveredHits, (batches service).run_cons hperform]
  rcases (batches service).perform_cases hperform with ⟨hover, _⟩ | ⟨e, _, _, rfl, _⟩ |
    ⟨page, hbatch, hshown⟩
  · exact absurd hover hphase
  · exact .inr ⟨e, rfl⟩
  · have hsome := h.hits_ne_nil hserver hphase howed hpos hpending hbatch
    obtain ⟨_, _, _, hlength, _⟩ := h.nextBatch hserver hbatch
    rcases hshown with rfl | ⟨_, hzero⟩
    · refine .inl ?_
      rw [Outcome.batches, List.flatMap_cons]
      exact List.append_ne_nil_of_left_ne_nil hsome _
    · -- a batch that is kept back has no rows
      exact absurd (List.length_eq_zero_iff.mp (hlength.trans hzero)) hsome

end BandSearch

section Requests

variable {plan : SearchIteration} {band band' : ScoreBand} {excluded excluded' : List PrimaryKey}
variable {r : SearchRequest}

/-- A request says which hits it asks for: its filter gives the keys, its parameters the band. -/
theorem BandSearch.Asks.eligible_eq (h : Asks plan band excluded r)
    (h' : Asks plan band' excluded' r) (pool : HitPool) (m : Metric) :
    pool.eligible m band excluded = pool.eligible m band' excluded' := by
  obtain rfl : excluded = excluded' :=
    (excluding_inj rfl rfl).mp (h.filter.symm.trans h'.filter)
  have hfar := SearchArguments.canonical_eq_of_boundText_eq (h.radius.symm.trans h'.radius)
  have hnear :=
    SearchArguments.canonical_eq_of_boundText_eq (h.rangeFilter.symm.trans h'.rangeFilter)
  have hwithin : ∀ score, m.within band score = m.within band' score := by
    intro score
    rw [← m.within_canonical band, ← m.within_canonical band', hfar, hnear]
  simp only [HitPool.eligible, hwithin]

end Requests

namespace Sample

/-- Three hits, the first two of them equally close. -/
def tiedHits : HitPool where
  hits := [⟨.int 1, .ofNat 0x3F000000⟩, ⟨.int 2, .ofNat 0x3F000000⟩, ⟨.int 3, .ofNat 0x3F800000⟩]
  keyName := "id"
  scoreName := "score"
  distinct := by decide
  finite := by decide

def tiedHitsPlan : SearchIteration :=
  { SearchIteration.ofSearch
      { SearchArguments.ofCollection "books" with
        metric := some .l2
        targets := some (.flat "embedding" .floatVector [[]]) } (.primaryKey "id" .int64) with
    batchSize := 2 }

def bandReply (sent : List Hit) : SearchReply :=
  ⟨⟨1, sent.length, [sent.length], .ints (sent.filterMap fun h => match h.key with
    | .int i => some i
    | .text _ => none), sent.map Hit.score, [], [], "id", none⟩, 0⟩

/-- What is sent to those who ask for a band without some keys. -/
structure Round where
  band : ScoreBand
  excluded : List PrimaryKey
  sent : List Hit

/-- The score of the tied hits. -/
def tiedScore : Ieee.Binary64 := (.ofNat 0x3F000000 : Ieee.Binary32).convert .binary64

/-- One of the tied hits at first, the other one if the first is left out, and the third one once
the band reaches it. -/
def rounds : List Round :=
  [⟨(none, none), [], [⟨.int 1, .ofNat 0x3F000000⟩]⟩,
    ⟨(some (tiedScore + BandSearch.minWidth), some tiedScore), [.int 1],
      [⟨.int 2, .ofNat 0x3F000000⟩]⟩,
    ⟨(some (tiedScore + BandSearch.minWidth * .ofInt 11), some tiedScore), [.int 1, .int 2],
      [⟨.int 3, .ofNat 0x3F800000⟩]⟩]

/-- Whether a request is the one of a round. -/
def Round.Fits (round : Round) (r : SearchRequest) : Prop :=
  r.filter = BandSearch.excluding tiedHitsPlan round.excluded ∧
    r.parameters.get? Parameter.radius = round.band.1.map SearchArguments.boundText ∧
    r.parameters.get? Parameter.rangeFilter = round.band.2.map SearchArguments.boundText

instance (round : Round) (r : SearchRequest) : Decidable (round.Fits r) :=
  inferInstanceAs (Decidable (_ ∧ _))

def sentTo (r : SearchRequest) : List Hit :=
  match rounds.find? fun round => decide (round.Fits r) with
  | some round => round.sent
  | none => []

/-- Sends no more than one hit at a time. -/
def bandServer : Service Unit where
  uptime _ := 0
  epoch _ := 0
  sleep _ s := s
  attempt
    | .search r, _, s => (.ok (bandReply (sentTo r)), s)
    | .query _, _, s => (.error (.transport .unimplemented "query"), s)
    | .mutate _, _, s => (.error (.transport .unimplemented "mutate"), s)
    | .drop _, _, s => (.error (.transport .unimplemented "drop"), s)

theorem sentTo_cases (r : SearchRequest) :
    sentTo r = [] ∨ ∃ round ∈ rounds, round.Fits r ∧ sentTo r = round.sent := by
  rw [sentTo]
  split
  · rename_i round hround
    have hfits := List.find?_some hround
    exact .inr ⟨round, List.mem_of_find?_eq_some hround, of_decide_eq_true hfits, rfl⟩
  · exact .inl rfl

/-- A round sends hits of its band and leaves out nothing closer. -/
theorem leads_of_mem_rounds : ∀ round ∈ rounds,
    Metric.l2.Leads round.sent (tiedHits.eligible .l2 round.band round.excluded) ∧
      (bandReply round.sent).hits.keys.list = round.sent.map Hit.key := by
  have hrounds : ∀ round ∈ rounds, round.sent.Nodup ∧
      round.sent ⊆ tiedHits.eligible .l2 round.band round.excluded ∧
      Metric.l2.ClosestFirst round.sent ∧
      (∀ a ∈ round.sent, ∀ b ∈ tiedHits.eligible .l2 round.band round.excluded,
        Metric.l2.depth b.score < Metric.l2.depth a.score → b ∈ round.sent) ∧
      (bandReply round.sent).hits.keys.list = round.sent.map Hit.key := by
    decide +kernel
  intro round hround
  obtain ⟨hnodup, hsubset, hordered, hcomplete, hkeys⟩ := hrounds round hround
  exact ⟨.of_complete hnodup hsubset HitPool.nodup_eligible HitPool.finite_eligible hordered
    hcomplete, hkeys⟩

theorem bandServer_answers : tiedHits.Answers bandServer tiedHitsPlan .l2 := by
  rintro band excluded r deadline s reply s' hasks ⟨⟩
  rcases sentTo_cases r with hnone | ⟨round, hround, ⟨hfilter, hfar, hnear⟩, hsent⟩
  · rw [hnone]
    refine ⟨[], ?_, .inl rfl, rfl, rfl, fun hne => absurd rfl hne, fun hne => absurd rfl hne⟩
    exact .of_complete .nil (List.nil_subset _) HitPool.nodup_eligible HitPool.finite_eligible
      .nil nofun
  · obtain ⟨hleads, hkeys⟩ := leads_of_mem_rounds round hround
    have hasked : BandSearch.Asks tiedHitsPlan round.band round.excluded r :=
      ⟨hasks.collection, hasks.targets, hfilter, hfar, hnear⟩
    rw [hsent, hasks.eligible_eq hasked]
    exact ⟨round.sent, hleads, .inl rfl, hkeys, rfl, fun _ => rfl, fun _ => rfl⟩

end Sample

namespace BandSearch

variable {σ : Type}

/-- Up to its first error an iteration delivers the first hits of a closest-first order of all
hits in the caller's band, none of them twice, and a batch has a hit in each of its rows. The
first call fails or delivers some, unless the limit is zero. -/
theorem leads_of_start (service : Service σ) (pool : HitPool) (writes : WriteLog) (client : Client)
    (plan : SearchIteration) (m : Metric) (s s' : σ) (it : BandSearch)
    (hmetric : plan.search.metric = some m) (hserver : pool.Answers service plan m)
    (hstart : start service writes client plan s = (.ok it, s')) (calls : List (Call × WriteLog)) :
    ((deliveredHits service calls it s').map Hit.key).Nodup ∧
      m.ClosestFirst (deliveredHits service calls it s') ∧
      m.Leads (deliveredHits service calls it s') (pool.eligible m plan.band []) ∧
      (∀ page ∈ Outcome.batches ((batches service).run calls it s').1,
        page.hits.length = page.rowCount) ∧
      (calls ≠ [] → plan.limit ≠ some 0 → deliveredHits service calls it s' ≠ [] ∨
        ∃ e, ((batches service).run calls it s').1.head? = some (.failed e)) := by
  obtain ⟨sent, hne, hprobed⟩ := probed_of_start hmetric hserver hstart
  have hbegun : Delivered pool plan m [] it := ⟨sent, hprobed⟩
  obtain ⟨⟨it', pending, hlast⟩, hlength⟩ := (delivers hserver).run hbegun s' calls
  obtain ⟨last, _, hreceived⟩ := hlast.received
  have hleads : m.Leads (deliveredHits service calls it s') (pool.eligible m plan.band []) :=
    hreceived.leads.of_append
  refine ⟨HitPool.nodup_keys hleads, hleads.closestFirst, hleads, hlength, ?_⟩
  intro hcalls hlimit
  obtain ⟨hplan, hreturned, hphase, _⟩ := start_frame hstart
  have hpos := SearchIteration.batchSize_pos (validate_of_start hstart)
  refine deliveredHits_ne_nil hserver hprobed ?_ ?_ ?_ hne hcalls s'
  · rw [hphase]
    decide
  · rw [hplan, hreturned, Iteration.owed_zero]
    exact hlimit
  · rw [hplan]
    exact hpos

/-- The tied hits arrive on two pages and the third one in a wider band, and all are delivered. -/
theorem leads_of_start_tiedHits :
    Sample.tiedHitsPlan.search.metric = some .l2 ∧
      Sample.tiedHits.Answers Sample.bandServer Sample.tiedHitsPlan .l2 ∧
      ∃ it, start Sample.bandServer .empty .standard Sample.tiedHitsPlan () = (.ok it, ()) ∧
        (∀ calls : List (Call × WriteLog),
          ((deliveredHits Sample.bandServer calls it ()).map Hit.key).Nodup ∧
          Metric.l2.ClosestFirst (deliveredHits Sample.bandServer calls it ()) ∧
          Metric.l2.Leads (deliveredHits Sample.bandServer calls it ())
            (Sample.tiedHits.eligible .l2 (none, none) []) ∧
          (∀ page ∈ Outcome.batches ((batches Sample.bandServer).run calls it ()).1,
            page.hits.length = page.rowCount) ∧
          (calls ≠ [] → deliveredHits Sample.bandServer calls it () ≠ [] ∨
            ∃ e, ((batches Sample.bandServer).run calls it ()).1.head? = some (.failed e))) ∧
        deliveredHits Sample.bandServer [(.nextBatch, .empty), (.nextBatch, .empty)] it () =
          Sample.tiedHits.hits := by
  refine ⟨rfl, Sample.bandServer_answers, ?_⟩
  obtain ⟨it, s, hstart, hdelivered⟩ := exists_ok_of_test
    (start Sample.bandServer .empty .standard Sample.tiedHitsPlan ())
    (fun it s => deliveredHits Sample.bandServer [(.nextBatch, .empty), (.nextBatch, .empty)] it s
      == Sample.tiedHits.hits) (by decide +kernel)
  refine ⟨it, hstart, fun calls => ?_, beq_iff_eq.mp hdelivered⟩
  obtain ⟨hkeys, hordered, hleads, hlength, hfirst⟩ := leads_of_start Sample.bandServer
    Sample.tiedHits .empty .standard Sample.tiedHitsPlan .l2 () s it rfl Sample.bandServer_answers
    hstart calls
  exact ⟨hkeys, hordered, hleads, hlength, fun hcalls => hfirst hcalls (by decide)⟩

end BandSearch

end VectorClient
