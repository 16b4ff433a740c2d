import VectorClient.Proofs.Attempts
import VectorClient.Proofs.BandSearch.Probing
import VectorClient.Proofs.Iteration.Accounts

/-!
# Hits that a probe leaves out

A probe leaves out the hits whose keys are tied with the tail, so those must be hits that the
caller has or will get. There are two ways in which keys become tied and their hits are lost.
When too many keys share a score, the probe fails after they were tied and before its page is
cached. And a batch that cannot be put together, because the pages in the cache do not fit,
takes those pages with it.

`excludes_of_start` shows that there is no third way: unless a call of a run ends like that,
every tied key belongs to a hit that was handed out or is in the cache, after other errors as
well, and no request has left out anything else, or more than `maxTied` hits.
-/

namespace VectorClient

namespace HitPage

variable {p q r : HitPage} {name : String} {keys keys' : List PrimaryKey}

/-- A page whose rows have these keys under the given name. A page without columns has none. -/
inductive ShowsKeys (name : String) : HitPage → List PrimaryKey → Prop
  | bare {p : HitPage} : p.columns = [] → ShowsKeys name p []
  | keys {p : HitPage} {keys : List PrimaryKey} : p.keyName = name →
      p.results.Level keys.length → p.primaryKeys? = some keys → ShowsKeys name p keys

namespace ShowsKeys

theorem keys_eq (h : ShowsKeys name p keys) : p.keys = keys := by
  cases h with
  | bare hnil => exact keys_of_columns_eq_nil hnil
  | keys _ _ hkeys => rw [HitPage.keys, hkeys, Option.getD_some]

theorem rowCount_eq (h : ShowsKeys name p keys) : p.rowCount = keys.length := by
  cases h with
  | bare hnil => exact rowCount_of_columns_eq_nil hnil
  | keys _ hlevel _ => exact hlevel.rowCount

theorem slice {start stop : Nat} (h : ShowsKeys name p keys) (hq : p.slice start stop = .ok q) :
    ShowsKeys name q ((keys.take stop).drop start) := by
  obtain ⟨hresults, hkeyName, _⟩ := columns_of_slice hq
  cases h with
  | bare hnil =>
      have hcut := (ResultSet.slice_ok hresults).2
      rw [columns] at hnil
      rw [hnil, List.forall₂_nil_left_iff] at hcut
      rw [List.take_nil, List.drop_nil]
      exact .bare hcut
  | keys hname hlevel hkeys =>
      refine .keys (hkeyName.trans hname) ?_ (primaryKeys?_slice hq hkeys)
      rw [List.length_drop, List.length_take]
      exact hlevel.slice hresults

theorem joined (hp : ShowsKeys name p keys) (hne : keys ≠ []) (hq : ShowsKeys name q keys')
    (h : p.joined q = .ok r) : ShowsKeys name r (keys ++ keys') := by
  obtain ⟨hresults, hkeyName, _⟩ := columns_of_joined h
  cases hp with
  | bare _ => exact absurd rfl hne
  | keys hname hlevel hkeys =>
      cases hq with
      | bare hnil => exact absurd hnil (columns_ne_nil_of_joined h hkeys)
      | keys hname' hlevel' hkeys' =>
          refine .keys (hkeyName.trans hname) ?_
            (primaryKeys?_joined h (hname'.trans hname.symm) hkeys hkeys')
          rw [List.length_append]
          exact hlevel.joined hlevel' (columns_ne_nil_of_primaryKeys? hkeys) hresults

/-- A page shows its keys under its own name. -/
theorem self (h : ShowsKeys name p keys) : ShowsKeys p.keyName p p.keys := by
  rw [h.keys_eq]
  cases h with
  | bare hnil => exact .bare hnil
  | keys _ hlevel hkeys => exact .keys rfl hlevel hkeys

theorem of_level {rows : Nat} (hlevel : p.results.Level rows)
    (hkeys : p.primaryKeys? = some keys) : ShowsKeys p.keyName p p.keys := by
  have hcolumn := hkeys
  rw [primaryKeys?, ResultSet.primaryKeys?, Option.bind_eq_some_iff] at hcolumn
  obtain ⟨c, hc, hofColumn⟩ := hcolumn
  have hlength : rows = keys.length := by
    rw [PrimaryKey.length_of_ofColumn? hofColumn, hlevel.columns c (List.mem_of_find?_eq_some hc)]
  subst hlength
  exact (ShowsKeys.keys rfl hlevel hkeys).self

end ShowsKeys

end HitPage

/-- The reading of pages by their keys under a given name. -/
def PageView.keys (name : String) : PageView PrimaryKey where
  Shows := HitPage.ShowsKeys name
  rowCount_eq := HitPage.ShowsKeys.rowCount_eq
  bare := .bare
  slice := .slice
  joined := .joined

namespace PageCache

variable {pages : List HitPage} {keys : List PrimaryKey} {name : String}

/-- The keys of all pages can be read, each page under its own name for them. -/
def Keyed (pages : List HitPage) : Prop :=
  ∀ page ∈ pages, HitPage.ShowsKeys page.keyName page page.keys

theorem Keyed.holds (h : Keyed pages) (hname : ∀ page ∈ pages, page.keyName = name) :
    Holds (PageView.keys name) pages (pages.flatMap HitPage.keys) := by
  induction pages with
  | nil => exact .nil
  | cons page pages ih =>
      obtain ⟨hpage, hpages⟩ := List.forall_mem_cons.mp h
      obtain ⟨rfl, hnames⟩ := List.forall_mem_cons.mp hname
      exact .cons hpage (ih hpages hnames)

/-- Pages that name their keys alike can be read under one name. -/
theorem Keyed.exists_holds (h : Keyed pages)
    (hnames : ∀ p ∈ pages, ∀ q ∈ pages, p.keyName = q.keyName) :
    ∃ name, Holds (PageView.keys name) pages (pages.flatMap HitPage.keys) := by
  cases pages with
  | nil => exact ⟨"", .nil⟩
  | cons page pages =>
      exact ⟨page.keyName, h.holds fun q hq => hnames q hq page (List.mem_cons_self ..)⟩

theorem Holds.keyed (h : Holds (PageView.keys name) pages keys) :
    Keyed pages ∧ pages.flatMap HitPage.keys = keys := by
  induction h with
  | nil => exact ⟨List.forall_mem_nil _, rfl⟩
  | cons hpage _ ih =>
      obtain ⟨hkeyed, hkeys⟩ := ih
      refine ⟨List.forall_mem_cons.mpr ⟨HitPage.ShowsKeys.self hpage, hkeyed⟩, ?_⟩
      rw [List.flatMap_cons, hkeys, HitPage.ShowsKeys.keys_eq hpage]

end PageCache

namespace BandSearch

variable {σ : Type} {service : Service σ} {writes : WriteLog} {s s' : σ × List Attempt}
variable {it it' : BandSearch} {plan : SearchIteration} {delivered known : List PrimaryKey}

/-- The probes for a batch lose no hits: they do not fail for too many ties, and if they end
well, the batch can be put together from pages that name their keys alike. -/
def Intact {τ : Type} (wanted : Nat) : Except ClientError Unit × BandSearch × τ → Prop
  | (.error e, _) => e.kind ≠ .notSupported
  | (.ok (), it, _) => (∀ p ∈ it.cache, ∀ q ∈ it.cache, p.keyName = q.keyName) ∧
      (it.deliver wanted).1.isOk = true

instance (it : BandSearch) : Decidable it.Going := inferInstanceAs (Decidable (_ ∧ _))

instance {τ : Type} (wanted : Nat) :
    (filled : Except ClientError Unit × BandSearch × τ) → Decidable (Intact wanted filled)
  | (.error e, _) => inferInstanceAs (Decidable (e.kind ≠ .notSupported))
  | (.ok (), _, _) => inferInstanceAs (Decidable (_ ∧ _))

/-- A call does not lose hits. -/
def KeepsHits {τ : Type} (service : Service τ) (writes : WriteLog) (it : BandSearch) (s : τ) :
    Prop :=
  it.Going → Intact it.wanted (it.fill service writes it.wanted maxProbes s)

instance {τ : Type} (service : Service τ) (writes : WriteLog) (it : BandSearch) (s : τ) :
    Decidable (KeepsHits service writes it s) := inferInstanceAs (Decidable (_ → _))

/-- A search for the plan that leaves out known hits only, and not too many. -/
def Excludes (plan : SearchIteration) (known : List PrimaryKey) (request : Request) : Prop :=
  ∃ r band excluded, request = .search r ∧ Asks plan band excluded r ∧
    excluded.length ≤ maxTied ∧ excluded ⊆ known

theorem Excludes.mono {more : List PrimaryKey} {request : Request}
    (h : Excludes plan known request) (hmore : known ⊆ more) : Excludes plan more request := by
  obtain ⟨r, band, excluded, hr, hasks, hlength, hknown⟩ := h
  exact ⟨r, band, excluded, hr, hasks, hlength, List.Subset.trans hknown hmore⟩

/-- The hits that the caller has and those in the cache are all that is tied, or was ever left
out. -/
structure Known (plan : SearchIteration) (delivered : List PrimaryKey) (it : BandSearch)
    (s : σ × List Attempt) : Prop where
  plan_eq : it.plan = plan
  keyed : PageCache.Keyed it.cache
  tied : it.tied ⊆ delivered ++ it.cache.flatMap HitPage.keys
  within : it.tied.length ≤ maxTied
  sent : ∀ a ∈ s.2, Excludes plan (delivered ++ it.cache.flatMap HitPage.keys) a.request

theorem keysAt_subset (score : Ieee.Binary64) (keys : List PrimaryKey)
    (scores : List Ieee.Binary32) : keysAt score keys scores ⊆ keys := by
  intro key hkey
  rw [keysAt, List.mem_map] at hkey
  obtain ⟨hit, hmem, rfl⟩ := hkey
  exact (List.of_mem_zip (List.mem_filter.mp hmem).1).1

/-- Keys of the page become tied, unless there are too many, or the page cannot be read. -/
theorem tied_of_updateTied {page : HitPage} {outcome : Except ClientError Unit}
    (h : it.updateTied page = (outcome, it')) :
    (∃ e, outcome = .error e ∧ (e.kind = .notSupported ∨ it' = it)) ∨
      outcome = .ok () ∧ ∃ keys, page.primaryKeys? = some keys ∧ it'.tied ⊆ it.tied ++ keys ∧
        it'.tied.length ≤ maxTied := by
  rcases updateTied_cases h with ⟨⟨e, he⟩, hkept⟩ |
    ⟨last, scores, keys, tied, _, _, hkeys, htied, rfl, ⟨e, he, hmany, _⟩ | ⟨hok, hlength⟩⟩
  · exact .inl ⟨e, he, .inr hkept⟩
  · exact .inl ⟨e, he, .inl hmany⟩
  · refine .inr ⟨hok, keys, pageKeys_ok hkeys, ?_, hlength⟩
    have hfound := List.subset_append_of_subset_right it.tied (keysAt_subset last keys scores)
    rw [htied]
    split
    · exact List.append_subset.mpr ⟨List.subset_append_left .., hfound⟩
    · exact hfound

/-- A page that is cached makes its hits known, so its keys may become tied. -/
theorem Known.cached {page : HitPage} {rows : List Unit} {keys : List PrimaryKey}
    (hit : Known plan delivered it s) (hpage : PageView.level.Shows page rows)
    (hkeys : page.primaryKeys? = some keys) (hplan : it'.plan = it.plan)
    (hcache : it'.cache = it.cache ++ [page]) (htied : it'.tied ⊆ it.tied ++ keys)
    (hlength : it'.tied.length ≤ maxTied) : Known plan delivered it' s := by
  have hread : page.keys = keys := by rw [HitPage.keys, hkeys, Option.getD_some]
  have hmore : delivered ++ it.cache.flatMap HitPage.keys ++ keys =
      delivered ++ it'.cache.flatMap HitPage.keys := by
    rw [hcache, List.flatMap_append, List.flatMap_singleton, hread, List.append_assoc]
  refine ⟨hplan.trans hit.plan_eq, ?_, ?_, hlength, ?_⟩
  · rw [hcache]
    exact List.forall_mem_append.mpr
      ⟨hit.keyed, List.forall_mem_singleton.mpr (.of_level hpage hkeys)⟩
  · rw [← hmore]
    have hold := List.subset_append_of_subset_left keys hit.tied
    exact List.Subset.trans htied (List.append_subset.mpr ⟨hold, List.subset_append_right ..⟩)
  · rw [← hmore]
    exact fun a ha => (hit.sent a ha).mono (List.subset_append_left ..)

theorem Known.receive {page : HitPage} {rows : List Unit} {outcome : Except ClientError Unit}
    (hit : Known plan delivered it s) (hpage : PageView.level.Shows page rows)
    (h : it.receive page = (outcome, it'))
    (hfits : ∀ e, outcome = .error e → e.kind ≠ .notSupported) : Known plan delivered it' s := by
  obtain ⟨it₁, hupdate, hends⟩ := receive_cases h
  obtain ⟨tied, rfl⟩ := updateTied_frame hupdate
  rcases tied_of_updateTied hupdate with
    ⟨e, rfl, hmany | hkept⟩ | ⟨rfl, keys, hkeys, htied, hlength⟩
  · exact absurd hmany (hfits e rfl)
  · rcases hends with ⟨_, rfl⟩ | ⟨_, _, he, _⟩
    · rw [hkept]
      exact hit
    · cases he
  · rcases hends with ⟨⟨_, he⟩, _⟩ | ⟨_, _, _, _, rfl⟩
    · cases he
    · exact hit.cached hpage hkeys rfl rfl htied hlength

/-- A search of the iteration leaves out what it is told to. -/
theorem searchBand_excludes {band : ScoreBand} {excluded : List PrimaryKey} {rate : Nat}
    {outcome : Except ClientError HitPage} (hlength : excluded.length ≤ maxTied)
    (hknown : excluded ⊆ known) (hsent : ∀ a ∈ s.2, Excludes it.plan known a.request)
    (h : it.searchBand service.traced writes band (excluding it.plan excluded) rate s =
      (outcome, it', s')) : ∀ a ∈ s'.2, Excludes it.plan known a.request := by
  rcases searchBand_cases h with ⟨_, _, _, rfl⟩ | ⟨r, hr, hends⟩
  · exact hsent
  have hexcludes : Excludes it.plan known (.search r) :=
    ⟨r, band, excluded, rfl, asks_of_request hr, hlength, hknown⟩
  rcases hends with ⟨_, hsend, _⟩ | ⟨_, hsend, _⟩
  · exact (Client.sendSearch_traced hsend).forall_request hexcludes hsent
  · exact (Client.sendSearch_traced hsend).forall_request hexcludes hsent

theorem Known.probe {factor : Ieee.Binary64} {outcome : Except ClientError Unit}
    (hit : Known plan delivered it s)
    (h : it.probe service.traced writes factor s = (outcome, it', s'))
    (hfits : ∀ e, outcome = .error e → e.kind ≠ .notSupported) : Known plan delivered it' s' := by
  obtain ⟨found, it₁, hsearch, hprobed⟩ := probe_cases h
  obtain ⟨rfl, hkeyed, htied, hwithin, hsent⟩ := hit
  have hsent' := searchBand_excludes hwithin htied hsent hsearch
  obtain ⟨⟨ts, rfl⟩, hlevel⟩ := searchBand_frame hsearch
  have hsearched : Known it.plan delivered { it with sessionTimestamp := ts } s' :=
    ⟨rfl, hkeyed, htied, hwithin, hsent'⟩
  rcases hprobed with ⟨_, _, _, rfl⟩ | ⟨page, rfl, ⟨_, _, rfl⟩ | ⟨_, hreceive⟩⟩
  · exact hsearched
  · exact hsearched
  · obtain ⟨rows, hpage⟩ := hlevel page rfl
    exact hsearched.receive hpage hreceive hfits

theorem Known.fill {wanted left : Nat} {outcome : Except ClientError Unit}
    (hit : Known plan delivered it s)
    (h : it.fill service.traced writes wanted left s = (outcome, it', s'))
    (hfits : ∀ e, outcome = .error e → e.kind ≠ .notSupported) : Known plan delivered it' s' := by
  refine fill_induct (fun outcome it s => (∀ e, outcome = .error e → e.kind ≠ .notSupported) →
    Known plan delivered it s) ?_ (fun _ => hit) h hfits
  intro factor it₁ s₁ outcome it₂ s₂ hit₁ hprobe hfits
  exact (hit₁ (by rintro e ⟨⟩)).probe hprobe hfits

/-- A batch moves the hits in front of the cache to those that the caller has. -/
theorem Known.deliver {wanted : Nat} {page : HitPage} (hit : Known plan delivered it s)
    (hnames : ∀ p ∈ it.cache, ∀ q ∈ it.cache, p.keyName = q.keyName)
    (h : it.deliver wanted = (.ok page, it')) :
    Known plan (delivered ++ page.keys) it' s ∧ page.keys.length = page.rowCount := by
  have hsame := deliver_same h
  obtain ⟨_, htake, _, ⟨⟨_, he⟩, _⟩ | ⟨_, rfl, hpage, _⟩⟩ := deliver_cases h
  · cases he
  cases hpage
  obtain ⟨name, hholds⟩ := hit.keyed.exists_holds hnames
  obtain ⟨hpage, hrest⟩ := PageCache.take_ok hholds htake
  obtain ⟨hkeyed, hleft⟩ := hrest.keyed
  have hkeys := HitPage.ShowsKeys.keys_eq hpage
  have hmoved : delivered ++ page.keys ++ it'.cache.flatMap HitPage.keys =
      delivered ++ it.cache.flatMap HitPage.keys := by
    rw [hkeys, hleft, List.append_assoc, List.take_append_drop]
  rw [hsame]
  refine ⟨⟨hit.plan_eq, hkeyed, ?_, hit.within, ?_⟩, ?_⟩
  · exact hmoved ▸ hit.tied
  · exact hmoved ▸ hit.sent
  · rw [hkeys]
    exact (HitPage.ShowsKeys.rowCount_eq hpage).symm

theorem collects_known (service : Service σ) (plan : SearchIteration) :
    (batches service.traced).Collects HitPage.keys (KeepsHits service.traced) (Known plan) where
  batch := by
    intro delivered writes it s page it' s' hit hkeeps h
    rcases nextBatch_cases h with ⟨hpage, rfl, rfl⟩ | ⟨hgoing, ⟨_, he, _⟩ | ⟨it₁, hfill, hdeliver⟩⟩
    · cases hpage
      have hnone : it.template.emptyLike.keys = [] := HitPage.keys_of_columns_eq_nil rfl
      rw [hnone, List.append_nil]
      exact ⟨⟨hit.plan_eq, hit.keyed, hit.tied, hit.within, hit.sent⟩, rfl⟩
    · cases he
    · have hcall := hkeeps hgoing
      rw [hfill] at hcall
      exact (hit.fill hfill (by rintro e ⟨⟩)).deliver hcall.1 hdeliver
  failed := by
    intro delivered writes it s e it' s' hit hkeeps h
    rcases nextBatch_cases h with ⟨he, _⟩ | ⟨hgoing, ⟨_, _, hfill⟩ | ⟨it₁, hfill, hdeliver⟩⟩
    · cases he
    · have hcall := hkeeps hgoing
      rw [hfill] at hcall
      exact hit.fill hfill (by rintro _ ⟨⟩; exact hcall)
    · have hcall := hkeeps hgoing
      rw [hfill] at hcall
      have hok := hcall.2
      rw [hdeliver] at hok
      cases hok
  stop hit := ⟨hit.plan_eq, hit.keyed, hit.tied, hit.within, hit.sent⟩

/-- The first search leaves out nothing, and its page is cached with the keys that it ties. -/
theorem start_known {client : Client} {state : σ} {outcome : Except ClientError BandSearch}
    (h : start service.traced writes client plan (state, []) = (outcome, s')) :
    (∀ a ∈ s'.2, Excludes plan [] a.request) ∧ ∀ it, outcome = .ok it → Known plan [] it s' := by
  rcases start_cases h with ⟨_, rfl, rfl⟩ | ⟨metric, found, it₁, _, _, hsearch, hbegun⟩
  · refine ⟨List.forall_mem_nil _, ?_⟩
    rintro it ⟨⟩
  have hsent : ∀ a ∈ s'.2, Excludes (ofPlan client plan metric).plan [] a.request :=
    searchBand_excludes (Nat.zero_le _) (List.Subset.refl []) (List.forall_mem_nil _) hsearch
  refine ⟨hsent, ?_⟩
  rintro it rfl
  rcases hbegun with ⟨_, he⟩ | ⟨page, it₂, rfl, hbegin, hit⟩
  · cases he
  cases hit
  obtain ⟨⟨ts, rfl⟩, hlevel⟩ := searchBand_frame hsearch
  obtain ⟨width, tail, tied, hupdate, _, rfl⟩ := begin_cases hbegin
  rcases tied_of_updateTied hupdate with ⟨_, he, _⟩ | ⟨_, keys, hkeys, hsubset, hlength⟩
  · cases he
  obtain ⟨rows, hpage⟩ := hlevel page rfl
  have hnew : Known plan [] (ofPlan client plan metric) s' :=
    ⟨rfl, List.forall_mem_nil _, List.nil_subset _, Nat.zero_le _, hsent⟩
  exact hnew.cached hpage hkeys rfl rfl hsubset hlength

/-- The keys of the hits that calls have handed out and of those in the cache. -/
def knownKeys (outcomes : List (Outcome HitPage)) (it : BandSearch) : List PrimaryKey :=
  (outcomes.filterMap Outcome.batch?).flatMap HitPage.keys ++ it.cache.flatMap HitPage.keys

namespace Sample

def secondHit : SearchReply :=
  { VectorClient.Sample.oneHit with
    hits := { VectorClient.Sample.oneHit.hits with keys := .ints [2] } }

/-- A hit, a failure, and another hit with the same score. -/
def tiedAfterFailure : Script :=
  .ofReplies [.search VectorClient.Sample.oneHit,
    .fail (.transport .unimplemented "maintenance"), .search secondHit]

/-- A hit with the same score, in a page that has a column which the others lack. -/
def datedHit : SearchReply :=
  { VectorClient.Sample.oneHit with
    hits := { VectorClient.Sample.oneHit.hits with columns := [.scalars .int64 "year" [1818]] } }

end Sample

/-- Nothing is left out of a search before there is a first page. After that only hits are left
out that were handed out or are in the cache, and not too many, as long as no call loses hits;
the errors of other calls do not matter. -/
theorem excludes_of_start (service : Service σ) (writes : WriteLog) (client : Client)
    (plan : SearchIteration) (s : σ) (outcome : Except ClientError BandSearch)
    (s' : σ × List Attempt)
    (hstart : start service.traced writes client plan (s, []) = (outcome, s')) :
    (∀ a ∈ s'.2, Excludes plan [] a.request) ∧
      ∀ it calls outcomes it' s'', outcome = .ok it →
        (batches service.traced).Throughout (KeepsHits service.traced) calls it s' →
        (batches service.traced).run calls it s' = (outcomes, it', s'') →
        it'.tied ⊆ knownKeys outcomes it' ∧ it'.tied.length ≤ maxTied ∧
          ∀ a ∈ s''.2, Excludes plan (knownKeys outcomes it') a.request := by
  obtain ⟨hsent, hknown⟩ := start_known hstart
  refine ⟨hsent, ?_⟩
  intro it calls outcomes it' s'' hit hkeeps hrun
  have hlast := (collects_known service plan).run (hknown it hit) calls hkeeps
  rw [hrun, List.nil_append] at hlast
  exact ⟨hlast.tied, hlast.within, hlast.sent⟩

theorem excludes_of_start_tiedAfterFailure : ∃ it s' it' s'' outcomes,
    start (Script.service 0).traced .empty .standard VectorClient.Sample.search
      (Sample.tiedAfterFailure, []) = (.ok it, s') ∧
    (batches (Script.service 0).traced).Throughout (KeepsHits (Script.service 0).traced)
      [(.nextBatch, .empty), (.nextBatch, .empty)] it s' ∧
    (batches (Script.service 0).traced).run [(.nextBatch, .empty), (.nextBatch, .empty)] it s' =
      (outcomes, it', s'') ∧
    s''.2.length = 3 ∧ it'.tied = [.int 1, .int 2] ∧ it'.tied ⊆ knownKeys outcomes it' ∧
    ∀ a ∈ s''.2, Excludes VectorClient.Sample.search (knownKeys outcomes it') a.request := by
  obtain ⟨it, s', hstart, htest⟩ := exists_ok_of_test
    (start (Script.service 0).traced .empty .standard VectorClient.Sample.search
      (Sample.tiedAfterFailure, []))
    (fun it s =>
      let first := (batches (Script.service 0).traced).perform .nextBatch .empty it s
      let last := (batches (Script.service 0).traced).perform .nextBatch .empty first.2.1 first.2.2
      decide (KeepsHits (Script.service 0).traced .empty it s) &&
        decide (KeepsHits (Script.service 0).traced .empty first.2.1 first.2.2) &&
        decide (last.2.2.2.length = 3) && decide (last.2.1.tied = [.int 1, .int 2]))
    (by decide +kernel)
  simp only [Bool.and_eq_true, decide_eq_true_eq] at htest
  obtain ⟨⟨⟨hfirst, hsecond⟩, hlength⟩, htied⟩ := htest
  have hkeeps : (batches (Script.service 0).traced).Throughout
      (KeepsHits (Script.service 0).traced) [(.nextBatch, .empty), (.nextBatch, .empty)] it s' :=
    ⟨hfirst, hsecond, trivial⟩
  obtain ⟨hknown, _, hsent⟩ := (excludes_of_start _ _ _ _ _ _ _ hstart).2 it _ _ _ _ rfl hkeeps rfl
  exact ⟨it, s', _, _, _, hstart, hkeeps, rfl, hlength, htied, hknown, hsent⟩

/-- A batch of two pages that do not fit is an error. Both hits stay tied, and neither was
handed out or is in the cache. -/
example :
    (start (Script.service 0) .empty .standard VectorClient.Sample.search
      (.ofReplies [.search Sample.datedHit])).1.toOption.any (fun it =>
        let (outcome, it, _) := (batches (Script.service 0)).perform .nextBatch .empty it
          (.ofReplies [.search Sample.secondHit])
        it.tied == [.int 1, .int 2] && (knownKeys [outcome] it).isEmpty) = true := by
  decide +kernel

end BandSearch

end VectorClient
