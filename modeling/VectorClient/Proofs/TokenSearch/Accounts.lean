import VectorClient.Proofs.Iteration.Calls
import VectorClient.Proofs.SearchPages
import VectorClient.Proofs.SearchParameters

/-!
# Accounts of token searches

A token search takes its batches out of the same kind of cache as a band search, and
between two batches only its parameters and the pages at hand change.
-/

namespace VectorClient

namespace TokenSearch

variable {σ : Type} {service : Service σ} {writes : WriteLog} {s s' : σ} {it it' : TokenSearch}

/-- Asking for pages changes the cache and what the next request says, nothing else. -/
structure SameSearch (it it' : TokenSearch) : Prop where
  client : it'.client = it.client
  plan : it'.plan = it.plan
  returned : it'.returned = it.returned
  template : it'.template = it.template
  phase : it'.phase = it.phase

theorem SameSearch.refl (it : TokenSearch) : SameSearch it it := ⟨rfl, rfl, rfl, rfl, rfl⟩

theorem SameSearch.trans {it₁ it₂ it₃ : TokenSearch} (h : SameSearch it₁ it₂)
    (h' : SameSearch it₂ it₃) : SameSearch it₁ it₃ where
  client := h'.client.trans h.client
  plan := h'.plan.trans h.plan
  returned := h'.returned.trans h.returned
  template := h'.template.trans h.template
  phase := h'.phase.trans h.phase

theorem SameSearch.cached (h : SameSearch it it') (pages : List HitPage) :
    SameSearch it { it' with cache := pages } :=
  ⟨h.client, h.plan, h.returned, h.template, h.phase⟩

theorem eq_of_request {rows : Nat} {parameters : Dict String} {r : SearchRequest}
    (h : it.request writes rows parameters = .ok r) :
    ∃ targets base, it.plan.search.vectors? = .ok targets ∧
      base = it.plan.search.options.request (it.client.readContext writes) ∧
      r = { base with
        targets
        parameters := (Dict.ofList
          { it.plan.search with limit := rows : SearchArguments }.parameterList).insertAll
            parameters
        guarantee := if 0 < it.sessionTimestamp then it.sessionTimestamp else base.guarantee } := by
  rw [request] at h
  split at h
  · cases h
  · rename_i hrequest
    cases h
    obtain ⟨targets, htargets, rfl⟩ := SearchArguments.eq_of_request hrequest
    exact ⟨targets, _, htargets, rfl, rfl⟩

theorem onlyPage_ok {hits : SearchHits} {page : HitPage} (h : it.onlyPage hits = .ok page) :
    hits.pages it.plan.primaryKey.name it.plan.search.options.outputFields = .ok [page] := by
  rw [onlyPage] at h
  split at h
  · cases h
  · rename_i hpages
    cases h
    exact hpages
  · cases h

/-- A reply that hands the search on moves it, whether or not its page can be read. -/
theorem receive_cases {hits : SearchHits} {outcome : Except ClientError HitPage}
    (h : it.receive hits = (outcome, it')) :
    (∃ e, outcome = .error e ∧ it' = it) ∨
      ∃ c, continuation hits = .ok c ∧ it.onlyPage hits = outcome ∧ it' = it.advance c := by
  rw [receive] at h
  split at h
  · cases h
    exact .inl ⟨_, rfl, rfl⟩
  · rename_i c hc
    cases h
    exact .inr ⟨c, hc, rfl, rfl⟩

theorem receive_frame {hits : SearchHits} {outcome : Except ClientError HitPage}
    (h : it.receive hits = (outcome, it')) :
    SameSearch it it' ∧ it'.sessionTimestamp = it.sessionTimestamp ∧ it'.cache = it.cache ∧
      ∀ page, outcome = .ok page → ∃ rows, PageView.level.Shows page rows := by
  rcases receive_cases h with ⟨_, rfl, rfl⟩ | ⟨c, _, hpage, rfl⟩
  · exact ⟨.refl _, rfl, rfl, nofun⟩
  · refine ⟨⟨rfl, rfl, rfl, rfl, rfl⟩, rfl, rfl, ?_⟩
    rintro page rfl
    exact SearchHits.level_of_mem_pages (onlyPage_ok hpage) (List.mem_cons_self ..)

/-- The iteration with the timestamp of a reply, unless an earlier reply has given one. -/
def stamped (it : TokenSearch) (ts : Nat) : TokenSearch :=
  { it with sessionTimestamp := if it.sessionTimestamp = 0 then ts else it.sessionTimestamp }

/-- A page is refused or not answered, and the iteration is as before, or there is a reply. -/
theorem nextPage_cases {outcome : Except ClientError HitPage}
    (h : it.nextPage service writes s = (outcome, it', s')) :
    (∃ e, outcome = .error e ∧ it' = it ∧ s' = s) ∨
      ∃ r, it.request writes it.plan.batchSize it.parameters = .ok r ∧
        ((∃ e, it.client.sendSearch service r s = (.error e, s') ∧ outcome = .error e ∧ it' = it) ∨
          ∃ reply, it.client.sendSearch service r s = (.ok reply, s') ∧
            (it.stamped (Timestamp.orClock reply.sessionTimestamp (service.epoch s'))).receive
              reply.hits = (outcome, it')) := by
  rw [nextPage] at h
  split at h
  · cases h
    exact .inl ⟨_, rfl, rfl, rfl⟩
  rename_i r hr
  refine .inr ⟨r, hr, ?_⟩
  split at h
  · rename_i e _ hsend
    cases h
    exact .inl ⟨e, hsend, rfl, rfl⟩
  · rename_i reply s₁ hsend
    have hstamped : it.stamped (Timestamp.orClock reply.sessionTimestamp (service.epoch s₁)) =
        if it.sessionTimestamp = 0 then
          { it with
            sessionTimestamp := Timestamp.orClock reply.sessionTimestamp (service.epoch s₁) }
        else it := by
      rw [stamped]
      split <;> rfl
    rw [← hstamped] at h
    cases h
    exact .inr ⟨reply, hsend, rfl⟩

theorem nextPage_frame {outcome : Except ClientError HitPage}
    (h : it.nextPage service writes s = (outcome, it', s')) :
    SameSearch it it' ∧ it'.cache = it.cache ∧
      ∀ page, outcome = .ok page → ∃ rows, PageView.level.Shows page rows := by
  rcases nextPage_cases h with ⟨e, rfl, rfl, _⟩ |
    ⟨r, _, ⟨e, _, rfl, rfl⟩ | ⟨reply, _, hreceive⟩⟩
  · exact ⟨.refl _, rfl, nofun⟩
  · exact ⟨.refl _, rfl, nofun⟩
  · obtain ⟨hsame, _, hcache, hpage⟩ := receive_frame hreceive
    exact ⟨⟨hsame.client, hsame.plan, hsame.returned, hsame.template, hsame.phase⟩, hcache, hpage⟩

/-- What every page keeps, cached unless it is empty, is kept by all pages for a batch, by
induction on their number. -/
theorem fill_induct (Post : Except ClientError Unit → TokenSearch → σ → Prop)
    (hpage : ∀ {it s found it' s'}, Post (.ok ()) it s →
      it.nextPage service writes s = (found, it', s') →
      (∀ e, found = .error e → Post (.error e) it' s') ∧
      ∀ page, found = .ok page → if page.isEmpty then Post (.ok ()) it' s'
        else Post (.ok ()) { it' with cache := it'.cache ++ [page] } s')
    {wanted left : Nat} {outcome : Except ClientError Unit} (hit : Post (.ok ()) it s)
    (h : it.fill service writes wanted left s = (outcome, it', s')) : Post outcome it' s' := by
  induction left generalizing it s with
  | zero =>
      rw [fill] at h
      cases h
      exact hit
  | succ left ih =>
      rw [fill] at h
      split at h
      · cases h
        exact hit
      split at h
      · rename_i hfound
        cases h
        exact (hpage hit hfound).1 _ rfl
      · rename_i page it₁ s₁ hfound
        have hkept := (hpage hit hfound).2 page rfl
        split at h
        · rename_i hempty
          cases h
          rwa [if_pos hempty] at hkept
        · rename_i hsome
          rw [if_neg hsome] at hkept
          exact ih hkept h

theorem fill_frame {wanted left : Nat} {outcome : Except ClientError Unit}
    (hcache : PageCache.Counted it.cache)
    (h : it.fill service writes wanted left s = (outcome, it', s')) :
    SameSearch it it' ∧ PageCache.Counted it'.cache := by
  refine fill_induct (fun _ it₁ _ => SameSearch it it₁ ∧ PageCache.Counted it₁.cache) ?_
    ⟨.refl _, hcache⟩ h
  rintro it₁ _ found it₂ _ ⟨hsame, hcounted⟩ hnext
  obtain ⟨hsame', heq, hshown⟩ := nextPage_frame hnext
  rw [← heq] at hcounted
  refine ⟨fun _ _ => ⟨hsame.trans hsame', hcounted⟩, fun page hpage => ?_⟩
  split
  · exact ⟨hsame.trans hsame', hcounted⟩
  · exact ⟨(hsame.trans hsame').cached _, hcounted.append (hshown page hpage)⟩

/-- A delivery takes from the cache, counts, and sets the phase. -/
theorem deliver_same {wanted : Nat} {outcome : Except ClientError HitPage}
    (h : it.deliver wanted = (outcome, it')) :
    it' = { it with cache := it'.cache, returned := it'.returned, phase := it'.phase } := by
  rw [deliver] at h
  rcases htake : PageCache.take it.cache wanted it.template with ⟨e | page, rest⟩ <;>
    rw [htake] at h <;> cases h <;> rfl

/-- A batch that could be taken from the cache is counted, unless there is an error. -/
theorem deliver_cases {wanted : Nat} {outcome : Except ClientError HitPage}
    (h : it.deliver wanted = (outcome, it')) :
    ∃ taken, PageCache.take it.cache wanted it.template = (taken, it'.cache) ∧
      it'.plan = it.plan ∧
      ((∃ e, outcome = .error e) ∧ it'.returned = it.returned ∨
        ∃ page, taken = .ok page ∧ outcome = .ok page ∧
          it'.returned = it.returned + page.rowCount ∧
          it'.phase = .afterBatch page.rowCount) := by
  rw [deliver] at h
  rcases htake : PageCache.take it.cache wanted it.template with ⟨e | page, rest⟩ <;>
    rw [htake] at h
  · cases h
    exact ⟨_, rfl, rfl, .inl ⟨⟨e, rfl⟩, rfl⟩⟩
  · cases h
    exact ⟨_, rfl, rfl, .inr ⟨page, rfl, rfl, rfl, rfl⟩⟩

/-- A batch has no more rows than wanted, and its rows are counted. -/
theorem deliver_ok {wanted : Nat} {page : HitPage} (hcache : PageCache.Counted it.cache)
    (h : it.deliver wanted = (.ok page, it')) :
    page.rowCount ≤ wanted ∧ it'.returned = it.returned + page.rowCount ∧
      it'.phase = .afterBatch page.rowCount := by
  obtain ⟨_, htake, _, ⟨⟨_, he⟩, _⟩ | ⟨_, rfl, hpage, hreturned, hphase⟩⟩ := deliver_cases h
  · cases he
  · cases hpage
    exact ⟨(hcache.take htake).2 page rfl, hreturned, hphase⟩

theorem deliver_error {wanted : Nat} {e : ClientError}
    (h : it.deliver wanted = (.error e, it')) : it'.returned = it.returned := by
  obtain ⟨_, _, _, ⟨_, hreturned⟩ | ⟨_, _, hpage, _⟩⟩ := deliver_cases h
  · exact hreturned
  · cases hpage

theorem deliver_frame {wanted : Nat} {outcome : Except ClientError HitPage}
    (hcache : PageCache.Counted it.cache) (h : it.deliver wanted = (outcome, it')) :
    it'.plan = it.plan ∧ PageCache.Counted it'.cache := by
  obtain ⟨_, htake, hplan, _⟩ := deliver_cases h
  exact ⟨hplan, (hcache.take htake).1⟩

/-- The rows that a call wants to have in the cache. -/
def wanted (it : TokenSearch) : Nat :=
  Iteration.capped (Iteration.owed it.plan.limit it.returned) it.plan.batchSize

/-- The iteration has not ended and may still return rows. -/
def Going (it : TokenSearch) : Prop :=
  it.phase ≠ .exhausted ∧ Iteration.owed it.plan.limit it.returned ≠ some 0

/-- A call is refused, or it asks for pages until the cache suffices and takes the batch from
there. -/
theorem nextBatch_cases {outcome : Except ClientError HitPage}
    (h : it.nextBatch service writes s = (outcome, it', s')) :
    (outcome = .ok it.template.emptyLike ∧ it' = { it with phase := .exhausted } ∧ s' = s) ∨
    it.Going ∧
      ((∃ e, outcome = .error e ∧
        it.fill service writes it.wanted it.wanted s = (.error e, it', s')) ∨
      ∃ it₁, it.fill service writes it.wanted it.wanted s = (.ok (), it₁, s') ∧
        it₁.deliver it.wanted = (outcome, it')) := by
  rw [nextBatch] at h
  dsimp only at h
  split at h
  · cases h
    exact .inl ⟨rfl, rfl, rfl⟩
  rename_i hgoing
  refine .inr ⟨not_or.mp hgoing, ?_⟩
  split at h
  · rename_i e it₁ s₁ hfill
    cases h
    exact .inl ⟨e, rfl, hfill⟩
  · rename_i it₁ s₁ hfill
    cases h
    exact .inr ⟨it₁, hfill, rfl⟩

theorem nextBatch_exhausted (h : it.phase = .exhausted) (writes : WriteLog) (s : σ) :
    it.nextBatch service writes s = (.ok it.template.emptyLike, it, s) := by
  rw [nextBatch, if_pos (.inl h)]
  cases it
  cases h
  rfl

/-- The plan is the one agreed on, and the rows of the cache can be counted. -/
structure Accounted (limit : Option Nat) (batchSize : Nat) (it : TokenSearch) : Prop where
  plan_limit : it.plan.limit = limit
  plan_batchSize : it.plan.batchSize = batchSize
  cache : PageCache.Counted it.cache

theorem nextBatch_frame {outcome : Except ClientError HitPage}
    (hcache : PageCache.Counted it.cache)
    (h : it.nextBatch service writes s = (outcome, it', s')) :
    it'.plan = it.plan ∧ PageCache.Counted it'.cache := by
  rcases nextBatch_cases h with ⟨_, rfl, _⟩ | ⟨_, ⟨_, _, hfill⟩ | ⟨it₁, hfill, hdeliver⟩⟩
  · exact ⟨rfl, hcache⟩
  · obtain ⟨hsame, hcache'⟩ := fill_frame hcache hfill
    exact ⟨hsame.plan, hcache'⟩
  · obtain ⟨hsame, hcache₁⟩ := fill_frame hcache hfill
    obtain ⟨hplan, hcache'⟩ := deliver_frame hcache₁ hdeliver
    exact ⟨hplan.trans hsame.plan, hcache'⟩

theorem ledger (service : Service σ) (limit : Option Nat) (batchSize : Nat) :
    (batches service).Ledger limit batchSize (Accounted limit batchSize) where
  valid hit h := by
    obtain ⟨hplan, hcache⟩ := nextBatch_frame hit.cache h
    exact ⟨by rw [hplan, hit.plan_limit], by rw [hplan, hit.plan_batchSize], hcache⟩
  batch := by
    intro writes it s page it' s' hit h
    rcases nextBatch_cases h with ⟨hb, rfl, rfl⟩ | ⟨_, ⟨e, he, _⟩ | ⟨it₁, hfill, hdeliver⟩⟩
    · cases hb
      exact ⟨Nat.zero_le _, rfl, fun _ => rfl⟩
    · cases he
    · obtain ⟨hsame, hcache⟩ := fill_frame hit.cache hfill
      obtain ⟨hsize, hreturned, hphase⟩ := deliver_ok hcache hdeliver
      rw [wanted, hit.plan_limit, hit.plan_batchSize] at hsize
      rw [hsame.returned] at hreturned
      refine ⟨hsize, hreturned, ?_⟩
      intro hzero
      exact hphase.trans (by rw [show page.rowCount = 0 from hzero, Phase.afterBatch_zero])
  failed := by
    intro writes it s e it' s' hit h
    rcases nextBatch_cases h with ⟨he, _⟩ | ⟨_, ⟨_, _, hfill⟩ | ⟨it₁, hfill, hdeliver⟩⟩
    · cases he
    · exact (fill_frame hit.cache hfill).1.returned
    · exact (deliver_error hdeliver).trans (fill_frame hit.cache hfill).1.returned
  exhausted hphase writes s := ⟨_, nextBatch_exhausted hphase writes s, rfl⟩
  stop hit := ⟨⟨hit.plan_limit, hit.plan_batchSize, hit.cache⟩, rfl, rfl⟩

/-- A search is refused, or a single row is asked for; the iteration is as new after it. -/
theorem start_cases {client : Client} {plan : SearchIteration}
    {outcome : Except ClientError TokenSearch}
    (h : start service writes client plan s = (outcome, s')) :
    (∃ e, outcome = .error e ∧ s' = s) ∨
      plan.validate = .ok () ∧ ∃ seen, (ofPlan client plan).probe service writes s = (seen, s') ∧
        ((∃ e, outcome = .error e) ∨ outcome = .ok (ofPlan client plan)) := by
  rw [start] at h
  split at h
  · cases h
    exact .inl ⟨_, rfl, rfl⟩
  rename_i hvalid
  refine .inr ⟨hvalid, ?_⟩
  dsimp only at h
  split at h
  · rename_i hprobe
    cases h
    exact ⟨_, hprobe, .inl ⟨_, rfl⟩⟩
  · rename_i hprobe
    cases h
    exact ⟨_, hprobe, .inr rfl⟩

theorem start_eq {client : Client} {plan : SearchIteration}
    (h : start service writes client plan s = (.ok it, s')) : it = ofPlan client plan := by
  rcases start_cases h with ⟨_, he, _⟩ | ⟨_, _, _, ⟨_, he⟩ | hit⟩
  · cases he
  · cases he
  · cases hit
    rfl

/-- The first request is refused, or it is sent. -/
theorem probe_cases {outcome : Except ClientError Unit}
    (h : it.probe service writes s = (outcome, s')) :
    s' = s ∨ ∃ r seen, it.request writes 1 (it.parameters.insert Parameter.tokenBatchSize "1") =
      .ok r ∧ it.client.sendSearch service r s = (seen, s') := by
  rw [probe] at h
  split at h
  · cases h
    exact .inl rfl
  rename_i r hr
  split at h <;> (rename_i hsend; cases h; exact .inr ⟨r, _, hr, hsend⟩)

end TokenSearch

end VectorClient
