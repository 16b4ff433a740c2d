import VectorClient.Proofs.Iteration.Calls
import VectorClient.Proofs.SearchPages
import VectorClient.Proofs.SearchParameters

/-!
# Accounts of band searches

Probing steers by scores and keys, but it never touches the plan or what was returned,
and it caches nothing but pages of replies. A batch is counted when it leaves the cache.
-/

namespace VectorClient

namespace BandSearch

variable {σ : Type} {service : Service σ} {writes : WriteLog} {s s' : σ} {it it' : BandSearch}

/-- Probing changes the cache and what it steers by, nothing else. -/
structure SameSearch (it it' : BandSearch) : Prop where
  client : it'.client = it.client
  plan : it'.plan = it.plan
  metric : it'.metric = it.metric
  returned : it'.returned = it.returned
  template : it'.template = it.template
  phase : it'.phase = it.phase

theorem SameSearch.refl (it : BandSearch) : SameSearch it it := ⟨rfl, rfl, rfl, rfl, rfl, rfl⟩

theorem SameSearch.trans {it₁ it₂ it₃ : BandSearch} (h : SameSearch it₁ it₂)
    (h' : SameSearch it₂ it₃) : SameSearch it₁ it₃ where
  client := h'.client.trans h.client
  plan := h'.plan.trans h.plan
  metric := h'.metric.trans h.metric
  returned := h'.returned.trans h.returned
  template := h'.template.trans h.template
  phase := h'.phase.trans h.phase

/-- The iteration with the timestamp of a reply, unless an earlier reply has given one. -/
def stamped (it : BandSearch) (ts : Nat) : BandSearch :=
  { it with sessionTimestamp := if it.sessionTimestamp = 0 then ts else it.sessionTimestamp }

/-- The search of the plan, for so many rows and within the bounds of a band. -/
def narrowed (it : BandSearch) (band : Option Ieee.Binary64 × Option Ieee.Binary64) (rate : Nat) :
    SearchArguments :=
  { it.plan.search with limit := it.probeLimit rate, radius := band.1, rangeFilter := band.2 }

theorem eq_of_request {band : Option Ieee.Binary64 × Option Ieee.Binary64} {filter : String}
    {rate : Nat} {r : SearchRequest} (h : it.request writes band filter rate = .ok r) :
    ∃ targets base, it.plan.search.vectors? = .ok targets ∧
      base = it.plan.search.options.request (it.client.readContext writes) ∧
      r = { base with
        filter, targets
        parameters := ((Dict.ofList (it.narrowed band rate).parameterList).insert
          Parameter.iterator (Parameter.flag true)).insertAll
          (.ofList it.plan.collectionIdParameters)
        guarantee := if 0 < it.sessionTimestamp then it.sessionTimestamp else base.guarantee } := by
  rw [request] at h
  dsimp only at h
  split at h
  · cases h
  · rename_i hrequest
    cases h
    obtain ⟨targets, htargets, rfl⟩ := SearchArguments.eq_of_request hrequest
    exact ⟨targets, _, htargets, rfl, rfl⟩

/-- A search is refused or fails, and the iteration is as before, or there is a reply. -/
theorem searchBand_cases {band : Option Ieee.Binary64 × Option Ieee.Binary64} {filter : String}
    {rate : Nat} {outcome : Except ClientError HitPage}
    (h : it.searchBand service writes band filter rate s = (outcome, it', s')) :
    (∃ e, outcome = .error e ∧ it' = it ∧ s' = s) ∨
      ∃ r, it.request writes band filter rate = .ok r ∧
        ((∃ e, it.client.sendSearch service r s = (.error e, s') ∧ outcome = .error e ∧ it' = it) ∨
          ∃ reply, it.client.sendSearch service r s = (.ok reply, s') ∧
            outcome = it'.firstPage reply.hits ∧
            it' = it.stamped (Timestamp.orClock reply.sessionTimestamp (service.epoch s'))) := by
  rw [searchBand] at h
  split at h
  · cases h
    exact .inl ⟨_, rfl, rfl, rfl⟩
  rename_i r hr
  refine .inr ⟨r, hr, ?_⟩
  split at h
  · rename_i e _ hsend
    cases h
    exact .inl ⟨e, hsend, rfl, rfl⟩
  · rename_i reply _ hsend
    cases h
    refine .inr ⟨reply, hsend, rfl, ?_⟩
    rw [stamped]
    split <;> rfl

theorem pages_of_firstPage {hits : SearchHits} {page : HitPage} (h : it.firstPage hits = .ok page) :
    ∃ rest, hits.pages it.plan.primaryKey.name it.plan.search.options.outputFields =
      .ok (page :: rest) := by
  rw [firstPage] at h
  split at h
  · cases h
  · cases h
  · rename_i first rest hpages
    cases h
    exact ⟨rest, hpages⟩

theorem searchBand_frame {band : Option Ieee.Binary64 × Option Ieee.Binary64} {filter : String}
    {rate : Nat} {outcome : Except ClientError HitPage}
    (h : it.searchBand service writes band filter rate s = (outcome, it', s')) :
    (∃ ts, it' = { it with sessionTimestamp := ts }) ∧
      ∀ page, outcome = .ok page → ∃ rows, PageView.level.Shows page rows := by
  rcases searchBand_cases h with ⟨e, rfl, rfl, _⟩ |
    ⟨r, _, ⟨e, _, rfl, rfl⟩ | ⟨reply, _, rfl, hstamped⟩⟩
  · exact ⟨⟨_, rfl⟩, nofun⟩
  · exact ⟨⟨_, rfl⟩, nofun⟩
  · refine ⟨⟨_, hstamped⟩, ?_⟩
    intro page hpage
    obtain ⟨rest, hpages⟩ := pages_of_firstPage hpage
    exact SearchHits.level_of_mem_pages hpages (List.mem_cons_self ..)

/-- A page that cannot be read leaves all as it is. Otherwise keys of it are tied, also if they
are too many. -/
theorem updateTied_cases {page : HitPage} {outcome : Except ClientError Unit}
    (h : it.updateTied page = (outcome, it')) :
    ((∃ e, outcome = .error e) ∧ it' = it) ∨
      ∃ last scores keys tied, tailScore page = .ok last ∧ pageScores page = .ok scores ∧
        pageKeys page = .ok keys ∧
        tied = (if scoresEqual last it.tail then it.tied ++ keysAt last keys scores
          else keysAt last keys scores) ∧
        it' = { it with tied } ∧
        ((∃ e, outcome = .error e ∧ e.kind = .notSupported ∧ maxTied < tied.length) ∨
          outcome = .ok () ∧ tied.length ≤ maxTied) := by
  rw [updateTied] at h
  split at h
  · rename_i last scores keys htail hscores hkeys
    refine .inr ⟨last, scores, keys, _, htail, hscores, hkeys, rfl, ?_⟩
    dsimp only at h
    generalize (if scoresEqual last it.tail = true then _ else _) = tied at h ⊢
    split at h
    · rename_i hmany
      cases h
      exact ⟨rfl, .inl ⟨_, rfl, rfl, hmany⟩⟩
    · rename_i hfits
      cases h
      exact ⟨rfl, .inr ⟨rfl, Nat.le_of_not_lt hfits⟩⟩
  all_goals
    cases h
    exact .inl ⟨⟨_, rfl⟩, rfl⟩

theorem updateTied_frame {page : HitPage} {outcome : Except ClientError Unit}
    (h : it.updateTied page = (outcome, it')) : ∃ tied, it' = { it with tied } := by
  rcases updateTied_cases h with ⟨_, rfl⟩ | ⟨_, _, _, tied, _, _, _, _, htied, _⟩
  · exact ⟨_, rfl⟩
  · exact ⟨tied, htied⟩

/-- A page is cached once its keys were tied; what was read for that is read again. -/
theorem receive_cases {page : HitPage} {outcome : Except ClientError Unit}
    (h : it.receive page = (outcome, it')) :
    ∃ it₁, it.updateTied page = (outcome, it₁) ∧
      ((∃ e, outcome = .error e) ∧ it' = it₁ ∨
        ∃ tail width, outcome = .ok () ∧ tailScore page = .ok tail ∧ it' = { it₁ with
          tail, width := it₁.width.maximum width, cache := it₁.cache ++ [page] }) := by
  rcases hupdate : it.updateTied page with ⟨updated, it₁⟩
  rw [receive, hupdate] at h
  cases updated with
  | error e =>
      cases h
      exact ⟨_, rfl, .inl ⟨⟨e, rfl⟩, rfl⟩⟩
  | ok =>
      rcases updateTied_cases hupdate with ⟨⟨_, he⟩, _⟩ |
        ⟨last, scores, _, _, htail, hscores, _⟩
      · cases he
      · rw [htail, pageWidth, hscores] at h
        cases h
        exact ⟨_, rfl, .inr ⟨last, _, rfl, htail, rfl⟩⟩

theorem receive_frame {page : HitPage} {outcome : Except ClientError Unit}
    (h : it.receive page = (outcome, it')) :
    SameSearch it it' ∧ it'.sessionTimestamp = it.sessionTimestamp ∧
      (it'.cache = it.cache ∨ it'.cache = it.cache ++ [page]) := by
  obtain ⟨it₁, hupdate, hends⟩ := receive_cases h
  obtain ⟨tied, rfl⟩ := updateTied_frame hupdate
  rcases hends with ⟨_, rfl⟩ | ⟨_, _, _, _, rfl⟩
  · exact ⟨⟨rfl, rfl, rfl, rfl, rfl, rfl⟩, rfl, .inl rfl⟩
  · exact ⟨⟨rfl, rfl, rfl, rfl, rfl, rfl⟩, rfl, .inr rfl⟩

/-- A single probe: searches the next band and takes in what it has found. -/
def probe (service : Service σ) (writes : WriteLog) (factor : Ieee.Binary64) (it : BandSearch)
    (s : σ) : Except ClientError Unit × BandSearch × σ :=
  match it.searchBand service writes (some (it.farEnd factor), some it.tail)
      it.exclusionFilter probeExtension s with
  | (.error e, it, s) => (.error e, it, s)
  | (.ok page, it, s) =>
    if page.isEmpty then (.ok (), it, s) else ((it.receive page).1, (it.receive page).2, s)

theorem probe_cases {factor : Ieee.Binary64} {outcome : Except ClientError Unit}
    (h : it.probe service writes factor s = (outcome, it', s')) :
    ∃ found it₁, it.searchBand service writes (some (it.farEnd factor), some it.tail)
        it.exclusionFilter probeExtension s = (found, it₁, s') ∧
      ((∃ e, found = .error e ∧ outcome = .error e ∧ it' = it₁) ∨
        ∃ page, found = .ok page ∧
          (page.isEmpty = true ∧ outcome = .ok () ∧ it' = it₁ ∨
            page.isEmpty = false ∧ it₁.receive page = (outcome, it'))) := by
  rw [probe] at h
  split at h
  · rename_i hsearch
    cases h
    exact ⟨_, _, hsearch, .inl ⟨_, rfl, rfl, rfl⟩⟩
  · rename_i page it₁ s₁ hsearch
    split at h
    · rename_i hempty
      cases h
      exact ⟨_, _, hsearch, .inr ⟨page, rfl, .inl ⟨hempty, rfl, rfl⟩⟩⟩
    · rename_i hfound
      cases h
      exact ⟨_, _, hsearch, .inr ⟨page, rfl, .inr ⟨eq_false_of_ne_true hfound, rfl⟩⟩⟩

theorem fill_succ (service : Service σ) (writes : WriteLog) (wanted left : Nat) (it : BandSearch)
    (s : σ) :
    it.fill service writes wanted (left + 1) s =
      if wanted ≤ PageCache.rowCount it.cache then (.ok (), it, s)
      else match it.probe service writes (Ieee.Word.ofInt (maxProbes - left : Nat)) s with
        | (.error e, it, s) => (.error e, it, s)
        | (.ok (), it, s) => it.fill service writes wanted left s := by
  rw [fill, probe]
  split
  · rfl
  dsimp only
  rcases it.searchBand service writes _ _ _ s with ⟨_ | page, it₁, s₁⟩
  · rfl
  · dsimp only
    split
    · rfl
    · rcases it₁.receive page with ⟨_ | _, _⟩ <;> rfl

/-- What every probe keeps is kept by all probes for a batch, by induction on their number. -/
theorem fill_induct (Post : Except ClientError Unit → BandSearch → σ → Prop)
    (hprobe : ∀ {factor it s outcome it' s'}, Post (.ok ()) it s →
      it.probe service writes factor s = (outcome, it', s') → Post outcome it' s')
    {wanted left : Nat} {outcome : Except ClientError Unit} (hit : Post (.ok ()) it s)
    (h : it.fill service writes wanted left s = (outcome, it', s')) : Post outcome it' s' := by
  induction left generalizing it s with
  | zero =>
      rw [fill] at h
      cases h
      exact hit
  | succ left ih =>
      rw [fill_succ] at h
      split at h
      · cases h
        exact hit
      split at h
      · rename_i hstep
        cases h
        exact hprobe hit hstep
      · rename_i hstep
        exact ih (hprobe hit hstep) h

theorem probe_same {factor : Ieee.Binary64} {outcome : Except ClientError Unit}
    (h : it.probe service writes factor s = (outcome, it', s')) : SameSearch it it' := by
  obtain ⟨_, it₁, hsearch, hprobed⟩ := probe_cases h
  obtain ⟨⟨ts, rfl⟩, _⟩ := searchBand_frame hsearch
  have hsame : SameSearch it { it with sessionTimestamp := ts } := ⟨rfl, rfl, rfl, rfl, rfl, rfl⟩
  rcases hprobed with ⟨_, _, _, rfl⟩ | ⟨_, _, ⟨_, _, rfl⟩ | ⟨_, hreceive⟩⟩
  · exact hsame
  · exact hsame
  · exact hsame.trans (receive_frame hreceive).1

theorem fill_same {wanted left : Nat} {outcome : Except ClientError Unit}
    (h : it.fill service writes wanted left s = (outcome, it', s')) : SameSearch it it' :=
  fill_induct (fun _ it₁ _ => SameSearch it it₁)
    (fun hsame hprobe => hsame.trans (probe_same hprobe)) (.refl _) h

theorem probe_frame {factor : Ieee.Binary64} {outcome : Except ClientError Unit}
    (hcache : PageCache.Counted it.cache)
    (h : it.probe service writes factor s = (outcome, it', s')) :
    SameSearch it it' ∧ PageCache.Counted it'.cache := by
  refine ⟨probe_same h, ?_⟩
  obtain ⟨found, it₁, hsearch, hprobed⟩ := probe_cases h
  obtain ⟨⟨ts, rfl⟩, hpage⟩ := searchBand_frame hsearch
  rcases hprobed with ⟨e, _, _, rfl⟩ | ⟨page, rfl, ⟨_, _, rfl⟩ | ⟨_, hreceive⟩⟩
  · exact hcache
  · exact hcache
  · obtain ⟨_, _, hsaved⟩ := receive_frame hreceive
    rcases hsaved with heq | heq
    · rw [heq]
      exact hcache
    · rw [heq]
      exact hcache.append (hpage page rfl)

theorem fill_frame {wanted left : Nat} {outcome : Except ClientError Unit}
    (hcache : PageCache.Counted it.cache)
    (h : it.fill service writes wanted left s = (outcome, it', s')) :
    SameSearch it it' ∧ PageCache.Counted it'.cache :=
  ⟨fill_same h, fill_induct (fun _ it₁ _ => PageCache.Counted it₁.cache)
    (fun hcounted hprobe => (probe_frame hcounted hprobe).2) hcache h⟩

/-- A delivery takes from the cache, counts, and sets the width and the phase. -/
theorem deliver_same {wanted : Nat} {outcome : Except ClientError HitPage}
    (h : it.deliver wanted = (outcome, it')) :
    it' = { it with
      width := it'.width, cache := it'.cache, returned := it'.returned, phase := it'.phase } := by
  rw [deliver] at h
  rcases htake : PageCache.take it.cache wanted it.template with ⟨e | page, rest⟩ <;>
    rw [htake] at h
  · cases h
    rfl
  · dsimp only at h
    split at h <;> (cases h; rfl)

/-- A batch that could be taken from the cache is counted, unless there is an error. -/
theorem deliver_cases {wanted : Nat} {outcome : Except ClientError HitPage}
    (h : it.deliver wanted = (outcome, it')) :
    ∃ taken, PageCache.take it.cache wanted it.template = (taken, it'.cache) ∧
      it'.plan = it.plan ∧
      ((∃ e, outcome = .error e) ∧ it'.returned = it.returned ∨
        ∃ page, taken = .ok page ∧ outcome = .ok page ∧
          it'.returned = it.returned + page.rowCount ∧
          it'.phase = .afterBatch page.rowCount) := by
  rw [deliver] at h
  rcases htake : PageCache.take it.cache wanted it.template with ⟨e | page, rest⟩ <;>
    rw [htake] at h
  · cases h
    exact ⟨_, rfl, rfl, .inl ⟨⟨e, rfl⟩, rfl⟩⟩
  · dsimp only at h
    split at h
    · cases h
      exact ⟨_, rfl, rfl, .inl ⟨⟨_, rfl⟩, rfl⟩⟩
    · cases h
      exact ⟨_, rfl, rfl, .inr ⟨page, rfl, rfl, rfl, rfl⟩⟩

/-- A batch has no more rows than wanted, and its rows are counted. -/
theorem deliver_ok {wanted : Nat} {page : HitPage} (hcache : PageCache.Counted it.cache)
    (h : it.deliver wanted = (.ok page, it')) :
    page.rowCount ≤ wanted ∧ it'.returned = it.returned + page.rowCount ∧
      it'.phase = .afterBatch page.rowCount := by
  obtain ⟨_, htake, _, ⟨⟨_, he⟩, _⟩ | ⟨_, rfl, hpage, hreturned, hphase⟩⟩ := deliver_cases h
  · cases he
  · cases hpage
    exact ⟨(hcache.take htake).2 page rfl, hreturned, hphase⟩

theorem deliver_error {wanted : Nat} {e : ClientError}
    (h : it.deliver wanted = (.error e, it')) : it'.returned = it.returned := by
  obtain ⟨_, _, _, ⟨_, hreturned⟩ | ⟨_, _, hpage, _⟩⟩ := deliver_cases h
  · exact hreturned
  · cases hpage

theorem deliver_frame {wanted : Nat} {outcome : Except ClientError HitPage}
    (hcache : PageCache.Counted it.cache) (h : it.deliver wanted = (outcome, it')) :
    it'.plan = it.plan ∧ PageCache.Counted it'.cache := by
  obtain ⟨_, htake, hplan, _⟩ := deliver_cases h
  exact ⟨hplan, (hcache.take htake).1⟩

/-- The rows that a call wants to have in the cache. -/
def wanted (it : BandSearch) : Nat :=
  Iteration.capped (Iteration.owed it.plan.limit it.returned) it.plan.batchSize

/-- The iteration has not ended and may still return rows. -/
def Going (it : BandSearch) : Prop :=
  it.phase ≠ .exhausted ∧ Iteration.owed it.plan.limit it.returned ≠ some 0

/-- A call is refused, or it probes until the cache suffices and takes the batch from there. -/
theorem nextBatch_cases {outcome : Except ClientError HitPage}
    (h : it.nextBatch service writes s = (outcome, it', s')) :
    (outcome = .ok it.template.emptyLike ∧ it' = { it with phase := .exhausted } ∧ s' = s) ∨
    it.Going ∧
      ((∃ e, outcome = .error e ∧
        it.fill service writes it.wanted maxProbes s = (.error e, it', s')) ∨
      ∃ it₁, it.fill service writes it.wanted maxProbes s = (.ok (), it₁, s') ∧
        it₁.deliver it.wanted = (outcome, it')) := by
  rw [nextBatch] at h
  dsimp only at h
  split at h
  · cases h
    exact .inl ⟨rfl, rfl, rfl⟩
  rename_i hgoing
  refine .inr ⟨not_or.mp hgoing, ?_⟩
  split at h
  · rename_i e it₁ s₁ hfill
    cases h
    exact .inl ⟨e, rfl, hfill⟩
  · rename_i it₁ s₁ hfill
    cases h
    exact .inr ⟨it₁, hfill, rfl⟩

theorem nextBatch_exhausted (h : it.phase = .exhausted) (writes : WriteLog) (s : σ) :
    it.nextBatch service writes s = (.ok it.template.emptyLike, it, s) := by
  rw [nextBatch, if_pos (.inl h)]
  cases it
  cases h
  rfl

/-- The plan is the one agreed on, and the rows of the cache can be counted. -/
structure Accounted (limit : Option Nat) (batchSize : Nat) (it : BandSearch) : Prop where
  plan_limit : it.plan.limit = limit
  plan_batchSize : it.plan.batchSize = batchSize
  cache : PageCache.Counted it.cache

theorem nextBatch_plan {outcome : Except ClientError HitPage}
    (h : it.nextBatch service writes s = (outcome, it', s')) : it'.plan = it.plan := by
  rcases nextBatch_cases h with ⟨_, rfl, _⟩ | ⟨_, ⟨_, _, hfill⟩ | ⟨it₁, hfill, hdeliver⟩⟩
  · rfl
  · exact (fill_same hfill).plan
  · rw [deliver_same hdeliver]
    exact (fill_same hfill).plan

theorem nextBatch_frame {outcome : Except ClientError HitPage}
    (hcache : PageCache.Counted it.cache)
    (h : it.nextBatch service writes s = (outcome, it', s')) :
    it'.plan = it.plan ∧ PageCache.Counted it'.cache := by
  refine ⟨nextBatch_plan h, ?_⟩
  rcases nextBatch_cases h with ⟨_, rfl, _⟩ | ⟨_, ⟨_, _, hfill⟩ | ⟨it₁, hfill, hdeliver⟩⟩
  · exact hcache
  · exact (fill_frame hcache hfill).2
  · exact (deliver_frame (fill_frame hcache hfill).2 hdeliver).2

theorem ledger (service : Service σ) (limit : Option Nat) (batchSize : Nat) :
    (batches service).Ledger limit batchSize (Accounted limit batchSize) where
  valid hit h := by
    obtain ⟨hplan, hcache⟩ := nextBatch_frame hit.cache h
    exact ⟨by rw [hplan, hit.plan_limit], by rw [hplan, hit.plan_batchSize], hcache⟩
  batch := by
    intro writes it s page it' s' hit h
    rcases nextBatch_cases h with ⟨hb, rfl, rfl⟩ | ⟨_, ⟨e, he, _⟩ | ⟨it₁, hfill, hdeliver⟩⟩
    · cases hb
      exact ⟨Nat.zero_le _, rfl, fun _ => rfl⟩
    · cases he
    · obtain ⟨hsame, hcache⟩ := fill_frame hit.cache hfill
      obtain ⟨hsize, hreturned, hphase⟩ := deliver_ok hcache hdeliver
      rw [wanted, hit.plan_limit, hit.plan_batchSize] at hsize
      rw [hsame.returned] at hreturned
      refine ⟨hsize, hreturned, ?_⟩
      intro hzero
      exact hphase.trans (by rw [show page.rowCount = 0 from hzero, Phase.afterBatch_zero])
  failed := by
    intro writes it s e it' s' hit h
    rcases nextBatch_cases h with ⟨he, _⟩ | ⟨_, ⟨_, _, hfill⟩ | ⟨it₁, hfill, hdeliver⟩⟩
    · cases he
    · exact (fill_frame hit.cache hfill).1.returned
    · exact (deliver_error hdeliver).trans (fill_frame hit.cache hfill).1.returned
  exhausted hphase writes s := ⟨_, nextBatch_exhausted hphase writes s, rfl⟩
  stop hit := ⟨⟨hit.plan_limit, hit.plan_batchSize, hit.cache⟩, rfl, rfl⟩

/-- The first page sets the names, the width, the tail and its keys, and is cached. -/
theorem begin_cases {page : HitPage} (h : it.begin page = .ok it') :
    ∃ width tail tied, updateTied { it with width, tail, tied := [] } page =
        (.ok (), { it with width, tail, tied }) ∧
      tailScore page = .ok tail ∧
      it' = { it with
        width, tail, tied, template := page.emptyLike, cache := it.cache ++ [page] } := by
  rw [begin] at h
  split at h
  · cases h
  split at h
  · cases h
  · cases h
  · rename_i width tail _ htail
    split at h
    · cases h
    · rename_i it₁ hupdate
      obtain ⟨tied, rfl⟩ := updateTied_frame hupdate
      cases h
      exact ⟨width, tail, tied, hupdate, htail, rfl⟩

/-- A search is refused, or its band is searched, which fails, or there is a first page. -/
theorem start_cases {client : Client} {plan : SearchIteration}
    {outcome : Except ClientError BandSearch}
    (h : start service writes client plan s = (outcome, s')) :
    (∃ e, outcome = .error e ∧ s' = s) ∨
      ∃ metric found it₁, plan.validate = .ok () ∧ checkRange plan.search = .ok metric ∧
        (ofPlan client plan metric).searchBand service writes
          (plan.search.radius, plan.search.rangeFilter) plan.search.options.filter 1 s =
            (found, it₁, s') ∧
        ((∃ e, outcome = .error e) ∨
          ∃ page it, found = .ok page ∧ it₁.begin page = .ok it ∧ outcome = .ok it) := by
  rw [start] at h
  split at h
  · cases h
    exact .inl ⟨_, rfl, rfl⟩
  · cases h
    exact .inl ⟨_, rfl, rfl⟩
  · rename_i metric hvalid hrange
    dsimp only at h
    rcases hsearch : (ofPlan client plan metric).searchBand service writes
      (plan.search.radius, plan.search.rangeFilter) plan.search.options.filter 1 s with
      ⟨found, it₁, s₁⟩
    rw [hsearch] at h
    refine .inr ⟨metric, found, it₁, hvalid, hrange, ?_⟩
    cases found with
    | error e =>
        cases h
        exact ⟨hsearch, .inl ⟨_, rfl⟩⟩
    | ok page =>
        dsimp only [Except.bind] at h
        split at h
        · cases h
          exact ⟨hsearch, .inl ⟨_, rfl⟩⟩
        · rename_i it hbegin
          cases h
          exact ⟨hsearch, .inr ⟨page, it, rfl, hbegin, rfl⟩⟩

theorem start_frame {client : Client} {plan : SearchIteration}
    (h : start service writes client plan s = (.ok it, s')) :
    it.plan = plan ∧ it.returned = 0 ∧ it.phase = .initialized ∧
      PageCache.Counted it.cache := by
  rcases start_cases h with ⟨_, he, _⟩ |
    ⟨metric, found, it₁, _, _, hsearch, ⟨_, he⟩ | ⟨page, it₂, rfl, hbegin, hit⟩⟩
  · cases he
  · cases he
  · cases hit
    obtain ⟨⟨ts, rfl⟩, hshown⟩ := searchBand_frame hsearch
    obtain ⟨width, tail, tied, _, _, rfl⟩ := begin_cases hbegin
    have hnil : PageCache.Counted (ofPlan client plan metric).cache := ⟨[], .nil⟩
    exact ⟨rfl, rfl, rfl, hnil.append (hshown page rfl)⟩

end BandSearch

end VectorClient
