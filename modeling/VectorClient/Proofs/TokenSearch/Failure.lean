import VectorClient.Proofs.Iteration.Accounts
import VectorClient.Proofs.TokenSearch.Continued

/-!
# Failed pages of a token search

Where a page cannot be fetched, the pages received before it stay in the cache, and the next
call asks for that page again: with the token and the bound with which it was asked for.

The exception is a reply that hands on the search, with a token and a bound of its own, and
cannot be read as the one page it should hold. The parameters are taken over before the page
is looked at, so the next call asks for what lies behind a page that was never delivered.
`retries_of_start` says that this is the only exception.
-/

namespace VectorClient.TokenSearch

variable {σ : Type} {service : Service σ} {writes : WriteLog} {s s' : σ} {it it' : TokenSearch}
variable {e : ClientError} {r : SearchRequest}

/-- Pages fetched one after another, all of them with hits, and where they lead. -/
inductive Fetched (service : Service σ) (writes : WriteLog) :
    TokenSearch → σ → List HitPage → TokenSearch → σ → Prop
  | nil {it : TokenSearch} {s : σ} : Fetched service writes it s [] it s
  | cons {it it₁ it' : TokenSearch} {s s₁ s' : σ} {page : HitPage} {pages : List HitPage} :
      it.nextPage service writes s = (.ok page, it₁, s₁) → ¬ page.isEmpty →
      Fetched service writes { it₁ with cache := it₁.cache ++ [page] } s₁ pages it' s' →
      Fetched service writes it s (page :: pages) it' s'

theorem Fetched.frame {pages : List HitPage} (h : Fetched service writes it s pages it' s') :
    SameSearch it it' ∧ it'.cache = it.cache ++ pages := by
  induction h with
  | nil => exact ⟨.refl _, (List.append_nil _).symm⟩
  | cons hpage _ _ ih =>
    obtain ⟨hsame, hcache, _⟩ := nextPage_frame hpage
    obtain ⟨hsame', hcache'⟩ := ih
    refine ⟨(hsame.cached _).trans hsame', ?_⟩
    rw [hcache', hcache, List.append_assoc, List.singleton_append]

/-- Where filling the cache fails, some pages have come and the next one has not. -/
theorem fill_error {wanted left : Nat}
    (h : it.fill service writes wanted left s = (.error e, it', s')) :
    ∃ pages before s₁, Fetched service writes it s pages before s₁ ∧
      PageCache.rowCount before.cache < wanted ∧
      before.nextPage service writes s₁ = (.error e, it', s') := by
  induction left generalizing it s with
  | zero => cases h
  | succ left ih =>
    rw [fill] at h
    split at h
    · cases h
    rename_i hshort
    split at h
    · rename_i hpage
      cases h
      exact ⟨[], it, s, .nil, Nat.lt_of_not_le hshort, hpage⟩
    · rename_i page it₁ s₁ hpage
      split at h
      · cases h
      · rename_i hsome
        obtain ⟨pages, before, s₂, hfetched, hless, hfailed⟩ := ih h
        exact ⟨page :: pages, before, s₂, .cons hpage hsome hfetched, hless, hfailed⟩

/-- The reply to a request hands the search on, but it does not hold one page that can be read. -/
def Misread (service : Service σ) (it : TokenSearch) (r : SearchRequest) (s : σ)
    (c : Continuation) (s' : σ) : Prop :=
  ∃ reply e, it.client.sendSearch service r s = (.ok reply, s') ∧
    continuation reply.hits = .ok c ∧ it.onlyPage reply.hits = .error e

/-- A page of two targets, where there was only one to search for. -/
def Sample.twoTargets : SearchHits :=
  ⟨2, 1, [1, 1], .ints [1, 2], [.ofNat 0, .ofNat 0], [], [], "id", some ⟨"token", .ofNat 0⟩⟩

/-- A page that is misread is not asked for again, the token behind it is taken over. -/
example : let got := (ofPlan .standard VectorClient.Sample.search).receive Sample.twoTargets
    got.1.isOk = false ∧ got.2.parameters.get? Parameter.token = some "token" := by
  decide +kernel

/-- A page that could not be fetched leaves the parameters alone, unless it was misread. -/
theorem nextPage_error (hr : it.request writes it.plan.batchSize it.parameters = .ok r)
    (h : it.nextPage service writes s = (.error e, it', s')) :
    it'.parameters = it.parameters ∨
      ∃ c, Misread service it r s c s' ∧ it'.parameters = (it.advance c).parameters := by
  rcases nextPage_cases h with ⟨_, _, rfl, _⟩ |
    ⟨_, hrequest, ⟨_, _, _, rfl⟩ | ⟨reply, hanswer, hreceive⟩⟩
  · exact .inl rfl
  · exact .inl rfl
  cases hr.symm.trans hrequest
  rcases receive_cases hreceive with ⟨_, _, rfl⟩ | ⟨c, hc, hpage, rfl⟩
  · exact .inl rfl
  · exact .inr ⟨c, ⟨reply, e, hanswer, hc, hpage⟩, rfl⟩

section Requests

variable {parameters : Dict String} {rows : Nat}

/-- Requests of one search differ in the timestamp that they ask for only. -/
theorem request_congr (hclient : it'.client = it.client) (hplan : it'.plan = it.plan)
    (h : it.request writes rows parameters = .ok r) (writes' : WriteLog) :
    ∃ guarantee, it'.request writes' rows parameters = .ok { r with guarantee } := by
  cases htargets : ({ it.plan.search with limit := rows } : SearchArguments).vectors? with
  | error e =>
    rw [request, SearchArguments.request_error htargets] at h
    cases h
  | ok targets =>
    rw [request, SearchArguments.request_eq htargets] at h
    cases h
    rw [request, hclient, hplan, SearchArguments.request_eq htargets]
    exact ⟨_, rfl⟩

end Requests

section Logged

variable {t : σ × List Sent}

/-- Whatever a page gives, the request for it was sent first. -/
theorem nextPage_sends (hr : it.request writes it.plan.batchSize it.parameters = .ok r)
    (service : Service σ) (t : σ × List Sent) :
    t.2 ++ [⟨.search r, it.client.deadline⟩] <+:
      (it.nextPage service.logged writes t).2.2.2 := by
  have hsends := it.client.sendSearch_logged service r t
  rw [nextPage, hr]
  dsimp only
  split
  · rename_i hanswer
    rwa [hanswer] at hsends
  · rename_i hanswer
    rwa [hanswer] at hsends

theorem nextPage_grows (service : Service σ) (writes : WriteLog) (it : TokenSearch)
    (t : σ × List Sent) : t.2 <+: (it.nextPage service.logged writes t).2.2.2 := by
  cases hr : it.request writes it.plan.batchSize it.parameters with
  | error e => simp [nextPage, hr]
  | ok r => exact (List.prefix_append ..).trans (nextPage_sends hr service t)

theorem fill_grows (service : Service σ) (writes : WriteLog) (wanted left : Nat)
    (it : TokenSearch) (t : σ × List Sent) :
    t.2 <+: (it.fill service.logged writes wanted left t).2.2.2 := by
  induction left generalizing it t with
  | zero => exact List.prefix_rfl
  | succ left ih =>
    have hpage := nextPage_grows service writes it t
    rw [fill]
    split
    · exact List.prefix_rfl
    split
    · rename_i hnext
      rwa [hnext] at hpage
    · rename_i hnext
      rw [hnext] at hpage
      split
      · exact hpage
      · exact hpage.trans (ih ..)

/-- A call that finds too few rows in the cache begins with the request for the next page. -/
theorem nextBatch_sends (hgoing : it.Going) (hshort : PageCache.rowCount it.cache < it.wanted)
    (hr : it.request writes it.plan.batchSize it.parameters = .ok r) (service : Service σ)
    (t : σ × List Sent) : t.2 ++ [⟨.search r, it.client.deadline⟩] <+:
      (it.nextBatch service.logged writes t).2.2.2 := by
  have hfill : ∀ {left}, 0 < left → t.2 ++ [⟨.search r, it.client.deadline⟩] <+:
      (it.fill service.logged writes it.wanted left t).2.2.2 := by
    intro left hleft
    have hpage := nextPage_sends hr service t
    cases left with
    | zero => cases hleft
    | succ left =>
      rw [fill, if_neg (Nat.not_le_of_lt hshort)]
      split
      · rename_i hnext
        rwa [hnext] at hpage
      · rename_i hnext
        rw [hnext] at hpage
        split
        · exact hpage
        · exact hpage.trans (fill_grows ..)
  have hpos := hfill (Nat.zero_lt_of_lt hshort)
  rw [nextBatch]
  dsimp only
  rw [if_neg (not_or.mpr hgoing)]
  split
  · rename_i hend
    rwa [wanted, hend] at hpos
  · rename_i hend
    rwa [wanted, hend] at hpos

end Logged

/-- The next call begins with this request, whatever the client has written by then. Its
timestamp, which depends on that, may be another one. -/
def AsksFor (service : Service σ) (it : TokenSearch) (r : SearchRequest) : Prop :=
  ∀ writes (t : σ × List Sent), ∃ guarantee,
    t.2 ++ [⟨.search { r with guarantee }, it.client.deadline⟩] <+:
      (it.nextBatch service.logged writes t).2.2.2

/-- Some pages have come and are in the cache, and then `before` has asked for a page by the
request `r` and has not got it. -/
structure Missed (service : Service σ) (writes : WriteLog) (it : TokenSearch) (s : σ)
    (before : TokenSearch) (r : SearchRequest) (s₀ : σ) (e : ClientError) (it' : TokenSearch)
    (s' : σ) : Prop where
  request : before.request writes before.plan.batchSize before.parameters = .ok r
  failed : before.nextPage service writes s₀ = (.error e, it', s')
  kept : ∃ pages, Fetched service writes it s pages before s₀ ∧ it'.cache = it.cache ++ pages

theorem asksFor_of_request (hgoing : it.Going)
    (hshort : PageCache.rowCount it.cache < it.wanted)
    (hrequest : ∀ writes, ∃ guarantee,
      it.request writes it.plan.batchSize it.parameters = .ok { r with guarantee }) :
    AsksFor service it r := by
  intro writes t
  obtain ⟨guarantee, hr⟩ := hrequest writes
  exact ⟨guarantee, nextBatch_sends hgoing hshort hr service t⟩

/-- A call that fails has not fetched a page, or it could not cut a batch from those it has. -/
theorem missed_of_nextBatch {targets : Column} (htargets : it.plan.search.vectors? = .ok targets)
    (h : it.nextBatch service writes s = (.error e, it', s')) :
    (∃ it₁, it.fill service writes it.wanted it.wanted s = (.ok (), it₁, s') ∧
      it₁.deliver it.wanted = (.error e, it')) ∨
    ∃ before r s₀, Missed service writes it s before r s₀ e it' s' ∧
      ((∃ c, Misread service before r s₀ c s' ∧
        it'.parameters = (before.advance c).parameters) ∨
        it'.parameters = before.parameters ∧ AsksFor service it' r) := by
  rcases nextBatch_cases h with ⟨he, _⟩ | ⟨hgoing, ⟨_, he, hfill⟩ | hdeliver⟩
  · cases he
  · cases he
    obtain ⟨pages, before, s₀, hfetched, hshort, hfailed⟩ := fill_error hfill
    obtain ⟨hsame, hcache⟩ := hfetched.frame
    obtain ⟨hsame', hcache', _⟩ := nextPage_frame hfailed
    have hlimited : ({ before.plan.search with limit := before.plan.batchSize } :
        SearchArguments).vectors? = .ok targets := by
      rw [hsame.plan]
      exact htargets
    obtain ⟨r, hr⟩ : ∃ r, before.request writes before.plan.batchSize before.parameters = .ok r :=
      ⟨_, by rw [request, SearchArguments.request_eq hlimited]⟩
    refine .inr ⟨before, r, s₀, ⟨hr, hfailed, pages, hfetched, hcache'.trans hcache⟩, ?_⟩
    rcases nextPage_error hr hfailed with hparameters | hmisread
    · refine .inr ⟨hparameters, asksFor_of_request ?_ ?_ ?_⟩
      · rw [Going, hsame'.phase, hsame.phase, hsame'.plan, hsame.plan, hsame'.returned,
          hsame.returned]
        exact hgoing
      · rw [wanted, hsame'.plan, hsame.plan, hsame'.returned, hsame.returned, hcache']
        exact hshort
      · intro writes'
        rw [hparameters, hsame'.plan]
        exact request_congr hsame'.client hsame'.plan hr writes'
    · exact .inl hmisread
  · exact .inl hdeliver

theorem keeps_plan (service : Service σ) (plan : SearchIteration) : (batches service).Keeps
    fun it => it.plan = plan ∧ PageCache.Counted it.cache where
  nextBatch hit h := by
    obtain ⟨hplan, hcache⟩ := nextBatch_frame hit.2 h
    exact ⟨hplan.trans hit.1, hcache⟩
  stop hit := hit

namespace Sample

/-- Answers to the first search and to the one for the first page. -/
def interrupted : Script :=
  .ofReplies [.search VectorClient.Sample.oneHit,
    .fail (.transport .unimplemented "maintenance")]

end Sample

/-- After a page that could not be fetched, the pages in front of it are in the cache, and the
next call asks for it again. Only if it was misread, the search has moved on behind it. -/
theorem retries_of_start (service : Service σ) (writes : WriteLog) (client : Client)
    (plan : SearchIteration) (s : σ) (it : TokenSearch) (s' : σ)
    (hstart : start service writes client plan s = (.ok it, s')) (calls : List (Call × WriteLog))
    (outcomes : List (Outcome HitPage)) (it₁ : TokenSearch) (s₁ : σ)
    (hrun : (batches service).run calls it s' = (outcomes, it₁, s₁)) (log : WriteLog)
    (e : ClientError) (it₂ : TokenSearch) (s₂ : σ)
    (hfailed : it₁.nextBatch service log s₁ = (.error e, it₂, s₂)) :
    (∃ it₃, it₁.fill service log it₁.wanted it₁.wanted s₁ = (.ok (), it₃, s₂) ∧
      it₃.deliver it₁.wanted = (.error e, it₂)) ∨
    ∃ before r s₀, Missed service log it₁ s₁ before r s₀ e it₂ s₂ ∧
      ((∃ c, Misread service before r s₀ c s₂ ∧
        it₂.parameters = (before.advance c).parameters) ∨
        it₂.parameters = before.parameters ∧ AsksFor service it₂ r) := by
  obtain ⟨_, targets, htargets⟩ := start_ok hstart
  have hbegun : it.plan = plan ∧ PageCache.Counted it.cache := by
    rw [start_eq hstart]
    exact ⟨rfl, [], .nil⟩
  have hplan := ((keeps_plan service plan).run hbegun s' calls).1
  rw [hrun] at hplan
  exact missed_of_nextBatch (hplan ▸ htargets) hfailed

theorem retries_of_start_interrupted : ∃ it s e it' s' r,
    start (Script.service 0) .empty .standard VectorClient.Sample.search Sample.interrupted =
      (.ok it, s) ∧
    it.nextBatch (Script.service 0) .empty s = (.error e, it', s') ∧
    it.request .empty 2 it.parameters = .ok r ∧ it'.parameters = it.parameters ∧
    AsksFor (Script.service 0) it' r := by
  obtain ⟨it, s, hstart, htest⟩ := exists_ok_of_test
    (start (Script.service 0) .empty .standard VectorClient.Sample.search Sample.interrupted)
    (fun it s => !(it.nextBatch (Script.service 0) .empty s).1.isOk &&
      !(it.fill (Script.service 0) .empty it.wanted it.wanted s).1.isOk &&
      !(it.nextPage (Script.service 0) .empty s).1.isOk &&
      (it.request .empty it.plan.batchSize it.parameters).toOption.all fun r =>
        !(it.client.sendSearch (Script.service 0) r s).1.isOk)
    (by decide +kernel)
  simp only [Bool.and_eq_true, Bool.not_eq_true'] at htest
  obtain ⟨⟨⟨hbatch, hfill⟩, hpage⟩, hanswer⟩ := htest
  rcases hfailed : it.nextBatch (Script.service 0) .empty s with ⟨e | _, it', s'⟩
  · rcases retries_of_start _ _ _ _ _ _ _ hstart [] _ _ _ rfl .empty e it' s' hfailed with
      ⟨it₃, hfilled, _⟩ | ⟨before, r, s₀, ⟨hr, _, pages, hfetched, _⟩, hnext⟩
    · rw [hfilled] at hfill
      cases hfill
    cases hfetched with
    | cons hok =>
      rw [hok] at hpage
      cases hpage
    | nil =>
      rcases hnext with ⟨_, ⟨_, _, hreply, _⟩, _⟩ | ⟨hparameters, hasks⟩
      · simp [hr, Except.toOption, hreply] at hanswer
        cases hanswer
      · cases start_eq hstart
        exact ⟨_, s, e, it', s', r, hstart, hfailed, hr, hparameters, hasks⟩
  · rw [hfailed] at hbatch
    cases hbatch

end VectorClient.TokenSearch
