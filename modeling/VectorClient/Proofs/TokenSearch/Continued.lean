import VectorClient.Proofs.Client
import VectorClient.Proofs.Iteration.Drain
import VectorClient.Proofs.Lists
import VectorClient.Proofs.SearchParameters
import VectorClient.Proofs.TokenSearch.Accounts
import VectorClient.Proofs.TokenSearch.HitList

/-!
# Searches continued by tokens

A server keeps a position in a hit list for every token that it has given out. An
iteration over such a server delivers the hits of the list, up to the limit, once each
and in their order, and cuts them into batches of one size, however many hits every
single page has. All its requests but the first go by the token of the first page.

The position of that token is `seen`, and what was delivered ends at `done`. The hits
between the two are in the cache.
-/

namespace VectorClient

/-- A page of hits from `start` on, and a token. It has none only at the end of the list. -/
structure HitList.Continued (H : HitList) (start stop : Nat) (hits : SearchHits)
    (c : Continuation) : Prop where
  run : H.IsRun start stop hits
  more : start < H.length → start < stop
  continuation : hits.continuation = some c
  token_ne : c.token ≠ ""

/-- A server of a hit list. Without a token it begins at the first hit; a token that it has
given out stands at a position, and only a request with this token moves it. What happens
to other tokens does not matter, nor does the token of a later page. -/
structure HitList.Serves {σ : Type} (H : HitList) (service : Service σ)
    (position : σ → String → Option Nat) : Prop where
  opens : ∀ (r : SearchRequest) deadline s, r.parameters.get? Parameter.token = none →
    ∃ reply s' stop c, service.attempt (.search r) deadline s = (.ok reply, s') ∧
      H.Continued 0 stop reply.hits c ∧ position s' c.token = some stop
  resumes : ∀ (r : SearchRequest) deadline s token start,
    r.parameters.get? Parameter.token = some token → position s token = some start →
    ∃ reply s' stop c, service.attempt (.search r) deadline s = (.ok reply, s') ∧
      H.Continued start stop reply.hits c ∧ position s' token = some stop

/-- What a request carries after these exchanges: nothing at first, then the token of the
first page and the bound of the last one. -/
structure Continues (earlier : List Exchange) (parameters : Dict String) : Prop where
  begins : earlier = [] → parameters.get? Parameter.token = none ∧
    parameters.get? Parameter.tokenLastBound = none
  token : ∀ first ∈ earlier.head?, ∃ c, first.reply.hits.continuation = some c ∧
    parameters.get? Parameter.token = some c.token
  bound : ∀ last ∈ earlier.getLast?, ∃ c, last.reply.hits.continuation = some c ∧
    parameters.get? Parameter.tokenLastBound =
      some (SearchArguments.boundText (c.lastBound.convert .binary64))

/-- Every request carries what the exchanges in front of it say. -/
def Chained (exchanges : List Exchange) : Prop :=
  ∀ earlier e later, exchanges = earlier ++ e :: later → Continues earlier e.request.parameters

theorem Chained.nil : Chained [] := by
  intro earlier e later h
  cases earlier <;> cases h

theorem Chained.append {earlier : List Exchange} {e : Exchange} (h : Chained earlier)
    (he : Continues earlier e.request.parameters) : Chained (earlier ++ [e]) := by
  intro earlier' e' later heq
  rcases List.eq_nil_or_concat later with rfl | ⟨later', last, rfl⟩
  · obtain ⟨rfl, hlast⟩ := List.append_inj' heq rfl
    cases hlast
    exact he
  · rw [List.concat_eq_append, ← List.cons_append, ← List.append_assoc] at heq
    exact h _ _ _ (List.append_inj_left' heq rfl)

namespace TokenSearch

variable {σ : Type} {service : Service σ} {position : σ → String → Option Nat}
variable {H : HitList} {it it' : TokenSearch} {targets : Column} {hits : SearchHits}
variable {c : Continuation} {probes : List Exchange} {seen : Nat}

/-- The token of the first page stays. -/
theorem get?_token_advance (it : TokenSearch) (c : Continuation) :
    (it.advance c).parameters.get? Parameter.token =
      some ((it.parameters.get? Parameter.token).getD c.token) := by
  have hnames : Parameter.token ≠ Parameter.tokenLastBound := by decide
  cases htoken : it.parameters.get? Parameter.token with
  | none =>
      simp only [advance, Dict.get?_insert, if_neg hnames, htoken, Option.isNone_none, if_true,
        Option.getD_none]
  | some token =>
      simp only [advance, Dict.get?_insert, if_neg hnames, htoken, Option.isNone_some,
        Bool.false_eq_true, if_false, Option.getD_some]

theorem get?_tokenLastBound_advance (it : TokenSearch) (c : Continuation) :
    (it.advance c).parameters.get? Parameter.tokenLastBound =
      some (SearchArguments.boundText (c.lastBound.convert .binary64)) := by
  have hnames : Parameter.tokenLastBound ≠ Parameter.token := by decide
  rw [advance]
  dsimp only
  split
  · rw [Dict.get?_insert, if_neg hnames, Dict.get?_insert, if_pos rfl]
  · rw [Dict.get?_insert, if_pos rfl]

theorem sorted_advance (h : it.parameters.Sorted) (c : Continuation) :
    (it.advance c).parameters.Sorted := by
  rw [advance]
  dsimp only
  split
  · exact (h.insert _ _).insert _ _
  · exact h.insert _ _

theorem continuation_ok (hc : hits.continuation = some c) (hne : c.token ≠ "") :
    continuation hits = .ok c := by
  rw [continuation, hc]
  exact if_neg fun hempty => hne (String.isEmpty_iff.mp hempty)

/-- The names of an iteration are not among those of a search. -/
theorem request_ok (h : it.plan.search.vectors? = .ok targets) (writes : WriteLog) (rows : Nat)
    {parameters : Dict String} (hsorted : parameters.Sorted) :
    ∃ r, it.request writes rows parameters = .ok r ∧
      ∀ name, name ∉ SearchArguments.parameterNames →
        r.parameters.get? name = parameters.get? name := by
  have hlimited : ({ it.plan.search with limit := rows } : SearchArguments).vectors? =
      .ok targets := h
  refine ⟨_, by rw [request, SearchArguments.request_eq hlimited], ?_⟩
  intro name hname
  change ((Dict.ofList _).insertAll parameters).get? name = _
  rw [Dict.get?_insertAll hsorted, SearchArguments.get?_other _ hname, Option.or_none]

end TokenSearch

theorem Continues.congr {earlier : List Exchange} {parameters parameters' : Dict String}
    (h : Continues earlier parameters)
    (htoken : parameters'.get? Parameter.token = parameters.get? Parameter.token)
    (hbound : parameters'.get? Parameter.tokenLastBound =
      parameters.get? Parameter.tokenLastBound) : Continues earlier parameters' := by
  refine ⟨?_, ?_, ?_⟩
  · rw [htoken, hbound]
    exact h.begins
  · rw [htoken]
    exact h.token
  · rw [hbound]
    exact h.bound

/-- A page sets the token if it is the first one, and the bound in any case. -/
theorem Continues.advance {earlier : List Exchange} {e : Exchange} {c : Continuation}
    {it : TokenSearch} (h : Continues earlier it.parameters)
    (hc : e.reply.hits.continuation = some c) :
    Continues (earlier ++ [e]) (it.advance c).parameters := by
  refine ⟨fun hnil => absurd hnil (by simp), ?_, ?_⟩
  · intro first hfirst
    rw [it.get?_token_advance c]
    cases hearlier : earlier with
    | nil =>
        rw [hearlier] at hfirst
        cases hfirst
        rw [(h.begins hearlier).1]
        exact ⟨c, hc, rfl⟩
    | cons first' rest =>
        rw [hearlier] at hfirst
        obtain ⟨c', hc', htoken⟩ := h.token first (by rw [hearlier]; exact hfirst)
        rw [htoken]
        exact ⟨c', hc', rfl⟩
  · intro last hlast
    rw [List.getLast?_concat] at hlast
    cases hlast
    exact ⟨c, hc, it.get?_tokenLastBound_advance c⟩

/-- The hits as rows of the pages that an iteration makes. -/
def HitList.rowsFor (H : HitList) (plan : SearchIteration) : List Record :=
  H.rows plan.primaryKey.name plan.search.options.outputFields

theorem HitList.length_rowsFor (H : HitList) (plan : SearchIteration) :
    (H.rowsFor plan).length = H.length :=
  H.length_rows _ _

namespace TokenSearch

variable {σ : Type} {service : Service σ} {position : σ → String → Option Nat}
variable {H : HitList} {plan : SearchIteration} {it it' : TokenSearch} {targets : Column}
variable {probes : List Exchange} {seen : Nat} {s : σ × List Exchange}

/-- The next request goes on at `seen`, and the requests so far were chained. -/
structure Connected (position : σ → String → Option Nat) (probes : List Exchange) (seen : Nat)
    (it : TokenSearch) (s : σ × List Exchange) : Prop where
  sorted : it.parameters.Sorted
  stands : (it.parameters.get? Parameter.token = none ∧ seen = 0) ∨
    ∃ token, it.parameters.get? Parameter.token = some token ∧ position s.1 token = some seen
  log : ∃ exchanges, s.2 = probes ++ exchanges ∧ Chained exchanges ∧
    Continues exchanges it.parameters

/-- The server answers with the hits from `seen` on, and then stands behind them for the token
that the next request will carry. -/
theorem Connected.answer (h : Connected position probes seen it s)
    (hserves : H.Serves service position) {r : SearchRequest}
    (hr : r.parameters.get? Parameter.token = it.parameters.get? Parameter.token) (deadline : Nat) :
    ∃ reply s' stop c, service.attempt (.search r) deadline s.1 = (.ok reply, s') ∧
      H.Continued seen stop reply.hits c ∧
      position s' ((it.parameters.get? Parameter.token).getD c.token) = some stop := by
  rcases h.stands with ⟨hnone, rfl⟩ | ⟨token, htoken, hstands⟩
  · rw [hnone] at hr ⊢
    exact hserves.opens r deadline s.1 hr
  · rw [htoken] at hr ⊢
    exact hserves.resumes r deadline s.1 token seen hr hstands

theorem nextPage_ok (hserves : H.Serves service position) (hplan : it.plan = plan)
    (htargets : plan.search.vectors? = .ok targets) (h : Connected position probes seen it s)
    (writes : WriteLog) :
    ∃ it' s' stop, it.nextPage service.answered writes s =
        (.ok (H.pageBetween plan.primaryKey.name plan.search.options.outputFields seen stop),
          it', s') ∧
      Connected position probes stop it' s' ∧ seen ≤ stop ∧ stop ≤ H.length ∧
      (seen < H.length → seen < stop) := by
  subst hplan
  obtain ⟨r, hrequest, hnames⟩ := request_ok htargets writes it.plan.batchSize h.sorted
  have htoken := hnames Parameter.token (by decide)
  have hbound := hnames Parameter.tokenLastBound (by decide)
  obtain ⟨reply, s', stop, c, hattempt, hcontinued, hposition⟩ :=
    h.answer hserves htoken it.client.deadline
  have hsend : it.client.sendSearch service.answered r s =
      (.ok reply, s', s.2 ++ [⟨r, reply⟩]) :=
    Client.sendSearch_of_ok (Service.answered_search hattempt s.2)
  obtain ⟨exchanges, hlog, hchained, hcontinues⟩ := h.log
  rw [nextPage, hrequest]
  simp only [hsend]
  generalize hit : (if it.sessionTimestamp = 0 then { it with sessionTimestamp := _ } else it) = it₁
  have hparameters : it₁.parameters = it.parameters := by
    rw [← hit]
    split <;> rfl
  have hplan : it₁.plan = it.plan := by
    rw [← hit]
    split <;> rfl
  have hreceive : it₁.receive reply.hits =
      (.ok (H.pageBetween it.plan.primaryKey.name it.plan.search.options.outputFields seen stop),
        it₁.advance c) := by
    rw [receive, continuation_ok hcontinued.continuation hcontinued.token_ne]
    simp only [onlyPage, hplan, hcontinued.run.pages_eq]
  rw [← hparameters] at hcontinues hposition
  rw [hreceive]
  refine ⟨_, _, stop, rfl, ⟨?_, .inr ⟨_, it₁.get?_token_advance c, hposition⟩, ?_⟩,
    hcontinued.run.start_le, hcontinued.run.stop_le, hcontinued.more⟩
  · exact sorted_advance (hparameters ▸ h.sorted) c
  · refine ⟨exchanges ++ [⟨r, reply⟩], by rw [hlog, List.append_assoc], ?_,
      hcontinues.advance hcontinued.continuation⟩
    rw [← hparameters] at htoken hbound
    exact hchained.append (hcontinues.congr htoken hbound)

/-- The iteration has received the hits up to `seen` and delivered those up to `done`. -/
structure Positioned (hs : ResultSet.IsSchema (H.schema plan.primaryKey.name))
    (position : σ → String → Option Nat) (probes : List Exchange) (done seen : Nat)
    (it : TokenSearch) (s : σ × List Exchange) : Prop where
  plan_eq : it.plan = plan
  done_le : done ≤ seen
  seen_le : seen ≤ H.length
  cached : PageCache.Holds (PageView.records hs) it.cache
    (((H.rowsFor plan).take seen).drop done)
  connected : Connected position probes seen it s

variable {hs : ResultSet.IsSchema (H.schema plan.primaryKey.name)} {done : Nat}

theorem Positioned.rowCount_eq (h : Positioned hs position probes done seen it s) :
    PageCache.rowCount it.cache = seen - done := by
  have hseen := h.seen_le
  rw [← H.length_rowsFor plan] at hseen
  rw [h.cached.rowCount_eq, List.length_drop, List.length_take, Nat.min_eq_left hseen]

/-- As many pages are asked for as rows are wanted, and each has one at least. -/
theorem fill_ok (hserves : H.Serves service position)
    (htargets : plan.search.vectors? = .ok targets) (writes : WriteLog) {wanted left : Nat}
    (h : Positioned hs position probes done seen it s) (hleft : wanted ≤ seen - done + left) :
    ∃ it' s' seen', it.fill service.answered writes wanted left s = (.ok (), it', s') ∧
      SameSearch it it' ∧ Positioned hs position probes done seen' it' s' ∧
      (wanted ≤ seen' - done ∨ seen' = H.length) := by
  induction left generalizing it s seen with
  | zero => exact ⟨it, s, seen, by rw [fill], .refl it, h, .inl hleft⟩
  | succ left ih =>
      rw [fill, h.rowCount_eq]
      split
      · rename_i henough
        exact ⟨it, s, seen, rfl, .refl it, h, .inl henough⟩
      obtain ⟨it', s', stop, hpage, hconnected, hstart, hstop, hmore⟩ :=
        nextPage_ok hserves h.plan_eq htargets h.connected writes
      obtain ⟨hsame, hcache, _⟩ := nextPage_frame hpage
      have hrows := H.rowCount_pageBetween plan.primaryKey.name plan.search.options.outputFields
        seen hstop
      have hdone := h.done_le
      rw [hpage]
      dsimp only
      split
      · -- the page is empty only where the list ends
        rename_i hempty
        rw [HitPage.isEmpty_iff, hrows] at hempty
        obtain rfl : seen = stop := by omega
        refine ⟨it', s', seen, rfl, hsame, ⟨hsame.plan.trans h.plan_eq, hdone, hstop, ?_,
          hconnected⟩, .inr (by omega)⟩
        rw [hcache]
        exact h.cached
      · rename_i hsome
        rw [HitPage.isEmpty_iff, hrows] at hsome
        have hmoved : Positioned hs position probes done stop
            { it' with cache := it'.cache ++ [H.pageBetween plan.primaryKey.name
              plan.search.options.outputFields seen stop] } s' := by
          refine ⟨hsame.plan.trans h.plan_eq, by omega, hstop, ?_,
            ⟨hconnected.sorted, hconnected.stands, hconnected.log⟩⟩
          rw [hcache, ← take_drop_append hdone hstart]
          exact h.cached.append (H.shows_pageBetween ..)
        obtain ⟨it'', s'', seen', hfill, hsame', hlast, henough⟩ := ih hmoved (by omega)
        exact ⟨it'', s'', seen', hfill, (hsame.cached _).trans hsame', hlast, henough⟩

/-- The hits that are still to come, none once the iteration is over. -/
def Pending (hs : ResultSet.IsSchema (H.schema plan.primaryKey.name))
    (position : σ → String → Option Nat) (probes : List Exchange) (rows : List Record)
    (it : TokenSearch) (s : σ × List Exchange) : Prop :=
  ∃ done seen, Positioned hs position probes done seen it s ∧
    rows = Iteration.firstRows (Iteration.owed plan.limit it.returned)
      ((H.rowsFor plan).drop done) ∧ (it.phase = .exhausted → rows = [])

/-- What is taken from the cache are the next hits of the list. -/
theorem take_positioned {wanted : Nat} (h : Positioned hs position probes done seen it s)
    (henough : wanted ≤ seen - done ∨ seen = H.length) :
    ∃ page rest, PageCache.take it.cache wanted it.template = (.ok page, rest) ∧
      page.results.records = ((H.rowsFor plan).drop done).take page.rowCount ∧
      page.rowCount = min wanted ((H.rowsFor plan).drop done).length ∧
      done + page.rowCount ≤ seen ∧
      PageCache.Holds (PageView.records hs) rest
        (((H.rowsFor plan).take seen).drop (done + page.rowCount)) := by
  obtain ⟨page, rest, htake⟩ : ∃ page rest,
      PageCache.take it.cache wanted it.template = (.ok page, rest) :=
    PageCache.take_total (PageView.records_total hs) h.cached
  obtain ⟨hshown, hrest⟩ := PageCache.take_ok h.cached htake
  have hshows : HitPage.ShowsRecords (H.schema plan.primaryKey.name) page _ := hshown
  have hlength := H.length_rowsFor plan
  have hseen := h.seen_le
  have hdone := h.done_le
  have hnext : (((H.rowsFor plan).take seen).drop done).take wanted =
      ((H.rowsFor plan).drop done).take wanted := by
    rcases henough with hwanted | hall
    · rw [List.drop_take, List.take_take, Nat.min_eq_left hwanted]
    · have hwhole : (H.rowsFor plan).take seen = H.rowsFor plan :=
        List.take_of_length_le (by omega)
      rw [hwhole]
  rw [hnext] at hshows
  have hcount : page.rowCount = min wanted ((H.rowsFor plan).drop done).length := by
    rw [hshows.rowCount_eq, List.length_take]
  refine ⟨page, rest, htake, ?_, hcount, ?_, ?_⟩
  · rw [hshows.records_eq, hcount, ← List.take_eq_take_min]
  · rw [List.length_drop] at hcount
    omega
  rw [List.length_drop] at hcount
  rw [List.drop_drop] at hrest
  rcases Nat.le_total wanted ((H.rowsFor plan).length - done) with hall | hfew
  · rwa [hcount, Nat.min_eq_left hall]
  · -- nothing is left in either case
    rw [List.drop_of_length_le (by rw [List.length_take]; omega)] at hrest ⊢
    exact hrest

/-- Every call hands out the next hits of the list, as many as fit into a batch. -/
theorem drains (hserves : H.Serves service position) (htargets : plan.search.vectors? = .ok targets)
    (hpos : 0 < plan.batchSize) : (batches service.answered).Drains
      (fun page => page.results.records) plan.batchSize True (Pending hs position probes) := by
  intro rows it s hpending writes
  obtain ⟨done, seen, hposition, hrows, hover⟩ := hpending
  by_cases hrefused : it.phase = .exhausted ∨ Iteration.owed plan.limit it.returned = some 0
  · have hnil : rows = [] := by
      rcases hrefused with hphase | howed
      · exact hover hphase
      · rw [hrows, howed, Iteration.firstRows_zero]
    subst hnil
    refine ⟨it.template.emptyLike, [], { it with phase := .exhausted }, s, ?_, rfl, rfl, ?_,
      fun _ => rfl, fun _ h => absurd rfl h⟩
    · change it.nextBatch service.answered writes s = _
      rw [nextBatch, hposition.plan_eq]
      exact if_pos hrefused
    · refine ⟨done, seen, ⟨hposition.plan_eq, hposition.done_le, hposition.seen_le,
        hposition.cached, ?_⟩, hrows, fun _ => rfl⟩
      exact ⟨hposition.connected.sorted, hposition.connected.stands, hposition.connected.log⟩
  · obtain ⟨hphase, howed⟩ := not_or.mp hrefused
    obtain ⟨it₁, s₁, seen', hfill, hsame, hmoved, henough⟩ := fill_ok hserves htargets writes
      hposition (Nat.le_add_left (Iteration.capped (Iteration.owed plan.limit it.returned)
        plan.batchSize) (seen - done))
    obtain ⟨page, rest, htake, hrecords, hcount, hle, hrest⟩ := take_positioned hmoved henough
    have hwanted := Iteration.capped_pos howed hpos
    have hwithin : ∀ n, Iteration.owed plan.limit it.returned = some n → page.rowCount ≤ n := by
      intro n hn
      rw [hn] at hcount
      have hcapped : Iteration.capped (some n) plan.batchSize ≤ n := Nat.min_le_right ..
      omega
    have hsplit := Iteration.firstRows_take hwithin ((H.rowsFor plan).drop done)
    have hnone : page.rowCount = 0 → (H.rowsFor plan).drop done = [] := by
      intro hzero
      exact List.length_eq_zero_iff.mp (by omega)
    rw [← hrows, ← Iteration.owed_add, ← hrecords] at hsplit
    refine ⟨page, _, { it₁ with
      cache := rest, returned := it₁.returned + page.rowCount, phase := .afterBatch page.rowCount },
      s₁, ?_, ?_, hsplit, ⟨done + page.rowCount, seen', ?_, ?_, ?_⟩, ?_, ?_⟩
    · change it.nextBatch service.answered writes s = _
      rw [nextBatch, hposition.plan_eq, if_neg hrefused]
      simp only [hfill, deliver, htake]
    · change page.results.records.length = page.rowCount
      rw [ResultSet.length_records, HitPage.rowCount]
    · exact ⟨hmoved.plan_eq, hle, hmoved.seen_le, hrest, ⟨hmoved.connected.sorted,
        hmoved.connected.stands, hmoved.connected.log⟩⟩
    · rw [List.drop_drop, ← hsame.returned]
    · intro hexhausted
      have hzero : page.rowCount = 0 := by
        by_contra hne
        rw [Phase.afterBatch, if_neg hne] at hexhausted
        cases hexhausted
      rw [hnone hzero, List.drop_nil, Iteration.firstRows_nil]
    · intro hzero
      rw [hnone hzero, List.drop_nil, Iteration.firstRows_nil]
    · intro _ hlater
      have hmore : page.rowCount < ((H.rowsFor plan).drop done).length := by
        by_contra hall
        rw [List.drop_of_length_le (Nat.not_lt.mp hall), Iteration.firstRows_nil] at hlater
        exact hlater rfl
      have hfull : page.rowCount =
          Iteration.capped (Iteration.owed plan.limit it.returned) plan.batchSize := by
        omega
      rcases Iteration.capped_cases (Iteration.owed plan.limit it.returned) plan.batchSize
        with hsize | hmet
      · exact hfull.trans hsize
      · rw [← hfull, ← Iteration.owed_add] at hmet
        rw [hmet, Iteration.firstRows_zero] at hlater
        exact absurd rfl hlater

/-- The first search, which is not used otherwise, has shown that there are targets. -/
theorem start_ok {client : Client} {writes : WriteLog} {s s' : σ}
    (h : start service writes client plan s = (.ok it, s')) :
    plan.validate = .ok () ∧ ∃ targets, plan.search.vectors? = .ok targets := by
  rw [start] at h
  split at h
  · cases h
  rename_i hplan
  refine ⟨hplan, ?_⟩
  cases htargets : plan.search.vectors? with
  | ok targets => exact ⟨targets, rfl⟩
  | error e =>
      have hrequest : (ofPlan client plan).request writes 1
          ((ofPlan client plan).parameters.insert Parameter.tokenBatchSize "1") = .error e := by
        have hlimited : ({ plan.search with limit := 1 } : SearchArguments).vectors? = .error e :=
          htargets
        rw [request]
        simp only [ofPlan, SearchArguments.request_error hlimited]
      simp only [probe, hrequest] at h
      cases h

theorem positioned_ofPlan (hs : ResultSet.IsSchema (H.schema plan.primaryKey.name))
    (position : σ → String → Option Nat) (client : Client) (s : σ) (probes : List Exchange) :
    Positioned hs position probes 0 0 (ofPlan client plan) (s, probes) := by
  have hnames : ∀ name, name ∉ [Parameter.iterator, Parameter.tokenSearch,
      Parameter.tokenBatchSize, Parameter.collectionId] →
      (initialParameters plan).get? name = none := by
    intro name hname
    refine Dict.get?_ofList_of_not_mem fun hmem => hname ?_
    rw [SearchIteration.collectionIdParameters] at hmem
    split at hmem
    · exact hmem
    · exact List.mem_append_left [Parameter.collectionId] hmem
  have htoken := hnames Parameter.token (by decide)
  refine ⟨rfl, Nat.le_refl _, Nat.zero_le _, .nil, Dict.sorted_ofList _, .inl ⟨htoken, rfl⟩, ?_⟩
  exact ⟨[], (List.append_nil _).symm, .nil,
    fun _ => ⟨htoken, hnames Parameter.tokenLastBound (by decide)⟩, nofun, nofun⟩

end TokenSearch

/-- A reply with the hits from `start` up to `stop`. -/
def HitList.reply (H : HitList) (start stop : Nat) (token : String) : SearchReply :=
  { hits :=
      { targetCount := 1
        rowLimit := stop - start
        topks := [stop - start]
        keys := H.keys.between start stop
        scores := (H.scores.take stop).drop start
        columns := H.columns.map (Column.between start stop)
        outputFields := H.outputFields
        keyName := H.keyName
        continuation := some ⟨token, ((H.scores.take stop).getLast?).getD (.ofNat 0)⟩ }
    sessionTimestamp := 0 }

theorem HitList.continued_reply (H : HitList) {start stop : Nat} {token : String}
    (hle : start ≤ stop) (hstop : stop ≤ H.length) (hmore : start < H.length → start < stop)
    (htoken : token ≠ "") :
    ∃ c, c.token = token ∧ H.Continued start stop (H.reply start stop token).hits c :=
  ⟨_, rfl, ⟨hle, hstop, rfl, rfl, rfl, rfl, rfl, rfl⟩, hmore, rfl, htoken⟩

namespace Sample

/-- As many tokens can be told apart as there are numbers. -/
def token (n : Nat) : String := String.ofList (List.replicate (n + 1) 't')

theorem length_token (n : Nat) : (token n).length = n + 1 := by
  rw [token, String.length_ofList, List.length_replicate]

theorem token_ne (n : Nat) : token n ≠ "" := by
  intro hempty
  have hlength := length_token n
  rw [hempty] at hlength
  cases hlength

variable (H : HitList)

/-- The end of a page with up to two hits. -/
def pageEnd (start : Nat) : Fin (H.length + 1) :=
  ⟨min (start + 2) H.length, Nat.lt_succ_of_le (Nat.min_le_right ..)⟩

def hitPosition (s : List (Fin (H.length + 1))) (token : String) : Option Nat :=
  s[token.length - 1]?.map Fin.val

/-- A server of a hit list with two hits in a page. It keeps the positions of its tokens. -/
def hitServer : Service (List (Fin (H.length + 1))) where
  uptime _ := 0
  epoch _ := 0
  sleep _ s := s
  attempt
    | .query _, _, s => (.error (.transport .unimplemented "query"), s)
    | .search r, _, s =>
      match r.parameters.get? Parameter.token with
      | none => (.ok (H.reply 0 (pageEnd H 0) (token s.length)), s ++ [pageEnd H 0])
      | some token =>
        match s[token.length - 1]? with
        | some start =>
          (.ok (H.reply start (pageEnd H start) "later"),
            s.set (token.length - 1) (pageEnd H start))
        | none => (.error (.transport .unavailable "token"), s)
    | .mutate _, _, s => (.error (.transport .unimplemented "mutate"), s)
    | .drop _, _, s => (.error (.transport .unimplemented "drop"), s)

theorem hitServer_serves : H.Serves (hitServer H) (hitPosition H) where
  opens := by
    intro r deadline s hnone
    obtain ⟨c, hc, hcontinued⟩ := H.continued_reply (Nat.zero_le (pageEnd H 0).val)
      (Nat.min_le_right ..) (fun hlt => by simp only [pageEnd]; omega) (token_ne s.length)
    refine ⟨_, s ++ [pageEnd H 0], pageEnd H 0, c, ?_, hcontinued, ?_⟩
    · simp only [hitServer, hnone]
    · rw [hc, hitPosition, length_token, Nat.add_sub_cancel, List.getElem?_concat_length]
      rfl
  resumes := by
    intro r deadline s token start htoken hposition
    rw [hitPosition, Option.map_eq_some_iff] at hposition
    obtain ⟨start, hstart, rfl⟩ := hposition
    have hle : start.val ≤ (pageEnd H start).val := by
      have hlt := start.isLt
      simp only [pageEnd]
      omega
    obtain ⟨c, _, hcontinued⟩ := H.continued_reply hle (Nat.min_le_right ..)
      (fun hlt => by simp only [pageEnd]; omega) (by decide : "later" ≠ "")
    refine ⟨_, s.set (token.length - 1) (pageEnd H start), pageEnd H start, c, ?_, hcontinued, ?_⟩
    · simp only [hitServer, htoken, hstart]
    · have hlt : token.length - 1 < s.length := (List.getElem?_eq_some_iff.mp hstart).1
      rw [hitPosition, List.getElem?_set_self hlt]
      rfl

end Sample

namespace Sample

def threeHits : HitList where
  keys := .ints [1, 2, 3]
  scores := [.ofNat 0, .ofNat 1, .ofNat 2]
  columns := []
  outputFields := []
  keyName := "id"
  scores_length := rfl
  even := nofun
  distinct := .nil
  fits := by decide

def threeHitsPlan : SearchIteration :=
  { SearchIteration.ofSearch
      { SearchArguments.ofCollection "books" with
        targets := some (.flat "embedding" .floatVector [[]]) } (.primaryKey "id" .int64) with
    batchSize := 2 }

end Sample

namespace TokenSearch

variable {σ : Type}

/-- A drained search has delivered exactly the hits of the list, up to the limit, and all its
batches but the last one are full. Each of its requests goes by the token of the first page and
by the bound of the page in front of it. -/
theorem continued_of_start (service : Service σ) (position : σ → String → Option Nat)
    (H : HitList) (writes : WriteLog) (client : Client) (plan : SearchIteration)
    (s s' : σ × List Exchange) (it : TokenSearch)
    (hnames : H.resolvedKeyName plan.primaryKey.name ≠ H.scoreName)
    (hserves : H.Serves service position)
    (hstart : start service.answered writes client plan s = (.ok it, s'))
    (logs : List WriteLog)
    (hlogs : (Iteration.firstRows plan.limit (H.rowsFor plan)).length < logs.length) :
    ∃ outcomes full empty it' s'' exchanges,
      (batches service.answered).run (logs.map fun writes => (.nextBatch, writes)) it s' =
        (outcomes, it', s'', s'.2 ++ exchanges) ∧
      (batches service.answered).Drained (fun page => page.results.records)
        (Iteration.firstRows plan.limit (H.rowsFor plan)) outcomes full empty ∧
      (batches service.answered).Whole plan.batchSize full ∧ Chained exchanges := by
  obtain ⟨hplan, targets, htargets⟩ := start_ok hstart
  have hs := H.isSchema plan.primaryKey.name hnames
  have hbegun := positioned_ofPlan hs position client s'.1 s'.2
  rw [start_eq hstart]
  have hpending : Pending hs position s'.2 (Iteration.firstRows plan.limit (H.rowsFor plan))
      (ofPlan client plan) s' := by
    refine ⟨0, 0, hbegun, ?_, nofun⟩
    change _ = Iteration.firstRows (Iteration.owed plan.limit 0) _
    rw [Iteration.owed_zero, List.drop_zero]
  obtain ⟨outcomes, full, empty, it', s'', hrun, hlast, hdrained, hwhole⟩ :=
    (drains hserves htargets (SearchIteration.batchSize_pos hplan)).drained hpending logs hlogs
  obtain ⟨_, _, hposition, _⟩ := hlast
  obtain ⟨exchanges, hlog, hchained, _⟩ := hposition.connected.log
  refine ⟨outcomes, full, empty, it', s''.1, exchanges, ?_, hdrained, hwhole trivial, hchained⟩
  rw [hrun, ← hlog]

theorem continued_of_start_threeHits :
    Sample.threeHits.resolvedKeyName "id" ≠ Sample.threeHits.scoreName ∧
      Sample.threeHits.Serves (Sample.hitServer Sample.threeHits)
        (Sample.hitPosition Sample.threeHits) ∧
      ∃ it s, start (Sample.hitServer Sample.threeHits).answered .empty .standard
          Sample.threeHitsPlan ([], []) = (.ok it, s) ∧
        ∀ logs : List WriteLog, 3 < logs.length → ∃ outcomes full empty it' s' exchanges,
          (batches (Sample.hitServer Sample.threeHits).answered).run
              (logs.map fun writes => (.nextBatch, writes)) it s =
            (outcomes, it', s', s.2 ++ exchanges) ∧
          (batches (Sample.hitServer Sample.threeHits).answered).Drained
            (fun page => page.results.records) (Sample.threeHits.rowsFor Sample.threeHitsPlan)
            outcomes full empty ∧
          (batches (Sample.hitServer Sample.threeHits).answered).Whole 2 full ∧
          Chained exchanges := by
  have hnames : Sample.threeHits.resolvedKeyName "id" ≠ Sample.threeHits.scoreName := by decide
  refine ⟨hnames, Sample.hitServer_serves _, ?_⟩
  obtain ⟨it, s, hstart⟩ : ∃ it s, start (Sample.hitServer Sample.threeHits).answered .empty
      .standard Sample.threeHitsPlan ([], []) = (.ok it, s) := exists_ok_of_isOk (by decide +kernel)
  refine ⟨it, s, hstart, fun logs hlogs => ?_⟩
  have hcalls : (Iteration.firstRows Sample.threeHitsPlan.limit
      (Sample.threeHits.rowsFor Sample.threeHitsPlan)).length < logs.length := by
    change (Sample.threeHits.rowsFor Sample.threeHitsPlan).length < logs.length
    rw [HitList.length_rowsFor]
    exact hlogs
  exact continued_of_start (Sample.hitServer Sample.threeHits)
    (Sample.hitPosition Sample.threeHits) Sample.threeHits .empty .standard Sample.threeHitsPlan
    ([], []) s it hnames (Sample.hitServer_serves _) hstart logs hcalls

end TokenSearch

end VectorClient
