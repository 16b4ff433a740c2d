import VectorClient.Proofs.Iteration.Accounts
import VectorClient.Proofs.Iteration.Agreement
import VectorClient.Proofs.TokenSearch.Failure

/-!
# How many calls an iteration makes

Whatever a service answers, every call on an iteration ends after a number of requests that is
known in advance. What a cursor still has to skip shrinks by the rows of every page, and so
do the rows that a token search still has to cache, since a page without rows ends both
loops; a band search that finds nothing goes on, but not beyond its probes.

`Client.Issues` lists the requests between two states of a service. Every request costs one
attempt at least and as many as the policy allows at most. So the list can be read off the
attempts, and their number is bounded as well.
-/

namespace VectorClient

namespace Client

variable {σ : Type}

/-- Sends one request until the policy is satisfied. -/
def send (c : Client) (service : Service σ) (r : Request) (s : σ) :
    Except ClientError r.Reply × σ :=
  c.retry.execute service.toClock (service.attempt r c.deadline) s

/-- These requests were sent one after another between two states. Only the last one can have
failed. -/
inductive Issues (c : Client) (service : Service σ) : List Request → σ → σ → Prop
  | nothing (s : σ) : Issues c service [] s s
  | failed {r : Request} {e : ClientError} {s s' : σ} (h : c.send service r s = (.error e, s')) :
      Issues c service [r] s s'
  | answered {r : Request} {reply : r.Reply} {rest : List Request} {s s₁ s' : σ}
      (h : c.send service r s = (.ok reply, s₁)) (hrest : Issues c service rest s₁ s') :
      Issues c service (r :: rest) s s'

def IssuesAtMost (c : Client) (service : Service σ) (n : Nat) (s s' : σ) : Prop :=
  ∃ requests, requests.length ≤ n ∧ c.Issues service requests s s'

namespace IssuesAtMost

variable {c : Client} {service : Service σ} {s s₁ s' : σ} {m n : Nat}

theorem mono (h : c.IssuesAtMost service m s s') (hle : m ≤ n) :
    c.IssuesAtMost service n s s' := by
  obtain ⟨requests, hlength, hissues⟩ := h
  exact ⟨requests, Nat.le_trans hlength hle, hissues⟩

theorem nothing (c : Client) (service : Service σ) (n : Nat) (s : σ) :
    c.IssuesAtMost service n s s :=
  ⟨[], Nat.zero_le n, .nothing s⟩

theorem one {r : Request} {outcome : Except ClientError r.Reply}
    (h : c.send service r s = (outcome, s')) : c.IssuesAtMost service 1 s s' := by
  cases outcome with
  | error e => exact ⟨[r], Nat.le_refl 1, .failed h⟩
  | ok reply => exact ⟨[r], Nat.le_refl 1, .answered h (.nothing s')⟩

theorem answered {r : Request} {reply : r.Reply} (h : c.send service r s = (.ok reply, s₁))
    (hrest : c.IssuesAtMost service n s₁ s') : c.IssuesAtMost service (n + 1) s s' := by
  obtain ⟨rest, hlength, hissues⟩ := hrest
  exact ⟨r :: rest, Nat.succ_le_succ hlength, .answered h hissues⟩

end IssuesAtMost

theorem send_of_query {c : Client} {service : Service σ} {r : QueryRequest}
    {outcome : Except ClientError QueryReply} {s s' : σ}
    (h : c.sendQuery service r s = (outcome, s')) :
    c.send service (.query r) s = (outcome, s') := by
  rwa [sendQuery_eq] at h

theorem send_of_search {c : Client} {service : Service σ} {r : SearchRequest}
    {outcome : Except ClientError SearchReply} {s s' : σ}
    (h : c.sendSearch service r s = (outcome, s')) :
    c.send service (.search r) s = (outcome, s') := by
  rwa [sendSearch_eq] at h

end Client

section Attempts

variable {σ : Type} {service : Service σ} {r : Request} {s s₁ s' : σ × List Attempt}

theorem Service.length_attempt {deadline : Nat} {outcome : Except Failure r.Reply}
    (h : service.traced.attempt r deadline s = (outcome, s')) :
    s'.2.length = s.2.length + 1 := by
  obtain ⟨_, hstate⟩ := Prod.mk.inj h
  rw [← hstate, List.length_append, List.length_singleton]

namespace RetryPolicy

variable {p : RetryPolicy} {deadline : Nat} {outcome : Except ClientError r.Reply}

/-- An attempt is made, and no more of them than are left. -/
theorem Runs.length_attempts {started left backoff : Nat}
    (h : p.Runs service.traced.toClock (service.traced.attempt r deadline) started left backoff s
      outcome s') :
    s.2.length < s'.2.length ∧ s'.2.length ≤ s.2.length + (left + 1) := by
  have hslept : ∀ ms (t : σ × List Attempt), (service.traced.sleep ms t).2 = t.2 :=
    fun _ _ => rfl
  induction h with
  | reply hattempt | terminal hattempt | lastAttempt hattempt =>
      have hlength := Service.length_attempt hattempt
      omega
  | timeIsUp hattempt =>
      have hlength := Service.length_attempt hattempt
      rw [hslept]
      omega
  | again hattempt _ _ _ ih =>
      have hlength := Service.length_attempt hattempt
      rw [hslept] at ih
      omega

theorem length_execute
    (h : p.execute service.traced.toClock (service.traced.attempt r deadline) s = (outcome, s')) :
    s.2.length < s'.2.length ∧ s'.2.length ≤ s.2.length + max 1 p.maxTimes := by
  rcases execute_runs h with ⟨_, _, hattempt, _⟩ | ⟨_, hruns⟩
  · have hlength := Service.length_attempt hattempt
    omega
  · have hlength := hruns.length_attempts
    omega

end RetryPolicy

namespace Client

variable {c : Client}

/-- The attempts of a call: all of its request, one at least, and no more than the policy
allows. -/
theorem attempts_of_send {outcome : Except ClientError r.Reply}
    (h : c.send service.traced r s = (outcome, s')) :
    ∃ first others, s'.2 = s.2 ++ first :: others ∧ first.request = r ∧
      (∀ a ∈ others, a.request = r) ∧ others.length < max 1 c.retry.maxTimes := by
  obtain ⟨attempts, hattempts, hrequests⟩ :
      ∃ attempts, s'.2 = s.2 ++ attempts ∧ ∀ a ∈ attempts, a.request = r := by
    obtain ⟨failures, hfailures, ⟨_, _, hs'⟩ | ⟨reply, _, hs'⟩⟩ := RetryPolicy.execute_traced h
    · exact ⟨failures, hs', fun a ha => (hfailures a ha).1⟩
    · rw [List.append_assoc] at hs'
      refine ⟨_, hs', List.forall_mem_append.mpr ⟨fun a ha => (hfailures a ha).1, ?_⟩⟩
      exact List.forall_mem_singleton.mpr rfl
  have hlength := RetryPolicy.length_execute h
  rw [hattempts, List.length_append] at hlength
  cases attempts with
  | nil => exact absurd hlength.1 (Nat.lt_irrefl _)
  | cons first others =>
      obtain ⟨hfirst, hothers⟩ := List.forall_mem_cons.mp hrequests
      rw [List.length_cons] at hlength
      exact ⟨first, others, hattempts, hfirst, hothers, by omega⟩

namespace Issues

variable {requests requests' : List Request}

/-- Requests cost attempts, by induction on the calls. -/
theorem attempts (h : c.Issues service.traced requests s s') :
    ∃ attempts, s'.2 = s.2 ++ attempts ∧ requests.length ≤ attempts.length ∧
      attempts.length ≤ requests.length * max 1 c.retry.maxTimes := by
  induction h with
  | nothing => exact ⟨[], (List.append_nil _).symm, Nat.le_refl 0, Nat.zero_le _⟩
  | failed hsend =>
      obtain ⟨first, others, hs', _, _, hcount⟩ := attempts_of_send hsend
      refine ⟨_, hs', Nat.succ_le_succ (Nat.zero_le _), ?_⟩
      rw [List.length_singleton, Nat.one_mul, List.length_cons]
      exact hcount
  | answered hsend _ ih =>
      obtain ⟨first, others, hs₁, _, _, hcount⟩ := attempts_of_send hsend
      obtain ⟨later, hs', hmin, hmax⟩ := ih
      rw [hs₁, List.append_assoc] at hs'
      refine ⟨_, hs', ?_, ?_⟩
      · rw [List.length_append, List.length_cons, List.length_cons]
        omega
      · rw [List.length_append, List.length_cons, List.length_cons, Nat.succ_mul]
        omega

/-- The first attempt is for the first request. -/
theorem head_eq (h : c.Issues service.traced (r :: requests) s s') :
    ∃ first others, s'.2 = s.2 ++ first :: others ∧ first.request = r := by
  cases h with
  | failed hsend =>
      obtain ⟨first, others, hs', hfirst, _⟩ := attempts_of_send hsend
      exact ⟨first, others, hs', hfirst⟩
  | answered hsend hrest =>
      obtain ⟨first, others, hs₁, hfirst, _⟩ := attempts_of_send hsend
      obtain ⟨later, hs', _⟩ := hrest.attempts
      rw [hs₁, List.append_assoc, List.cons_append] at hs'
      exact ⟨first, others ++ later, hs', hfirst⟩

theorem not_nothing (h : c.Issues service.traced (r :: requests) s s) : False := by
  obtain ⟨first, others, hs, _⟩ := h.head_eq
  exact List.cons_ne_nil first others (List.self_eq_append_right.mp hs)

theorem head_unique {r' : Request} (h : c.Issues service.traced (r :: requests) s s')
    (h' : c.Issues service.traced (r' :: requests') s s') : r = r' := by
  obtain ⟨first, others, hs', hfirst⟩ := h.head_eq
  obtain ⟨first', others', hs'', hfirst'⟩ := h'.head_eq
  rw [hs'] at hs''
  obtain ⟨rfl, _⟩ := List.cons.inj (List.append_cancel_left hs'')
  exact hfirst.symm.trans hfirst'

/-- What was attempted tells what was issued, by induction on the calls. -/
theorem unique (h : c.Issues service.traced requests s s')
    (h' : c.Issues service.traced requests' s s') : requests = requests' := by
  induction h generalizing requests' with
  | nothing =>
      cases requests' with
      | nil => rfl
      | cons => exact h'.not_nothing.elim
  | failed hsend =>
      cases requests' with
      | nil =>
          cases h'
          exact (Issues.failed hsend).not_nothing.elim
      | cons =>
          obtain rfl := (Issues.failed hsend).head_unique h'
          cases h' with
          | failed => rfl
          | answered hsend' =>
              rw [hsend] at hsend'
              cases hsend'
  | answered hsend hrest ih =>
      cases requests' with
      | nil =>
          cases h'
          exact (Issues.answered hsend hrest).not_nothing.elim
      | cons =>
          obtain rfl := (Issues.answered hsend hrest).head_unique h'
          cases h' with
          | failed hsend' =>
              rw [hsend] at hsend'
              cases hsend'
          | answered hsend' hrest' =>
              rw [hsend] at hsend'
              cases hsend'
              rw [ih hrest']

end Issues

theorem IssuesAtMost.length_le {n : Nat} (h : c.IssuesAtMost service.traced n s s') :
    s'.2.length ≤ s.2.length + n * max 1 c.retry.maxTimes := by
  obtain ⟨requests, hlength, hissues⟩ := h
  obtain ⟨attempts, hs', _, hmax⟩ := hissues.attempts
  have hbound := Nat.mul_le_mul_right (max 1 c.retry.maxTimes) hlength
  rw [hs', List.length_append]
  omega

end Client

end Attempts

section Iterations

open Client

variable {σ : Type} {service : Service σ} {writes : WriteLog} {s s' : σ}

namespace RowCursor

/-- Every page but the last one has rows, and so fewer are left to skip after it. -/
theorem seek_issues (service : Service σ) (writes : WriteLog) (left : Nat) (it : RowCursor)
    (s : σ) : it.client.IssuesAtMost service left s (seek service writes left it s).2 := by
  fun_induction seek service writes left it s with
  | case1 => exact .nothing _ _ _ _
  | case2 left it s hleft e s₁ hsend =>
      exact (IssuesAtMost.one (send_of_query hsend)).mono (Nat.pos_of_ne_zero hleft)
  | case3 left it s hleft reply s₁ hsend =>
      exact (IssuesAtMost.one (send_of_query hsend)).mono (Nat.pos_of_ne_zero hleft)
  | case4 left it s hleft reply s₁ hsend =>
      exact (IssuesAtMost.one (send_of_query hsend)).mono (Nat.pos_of_ne_zero hleft)
  | case5 left it s hleft reply s₁ hsend =>
      exact (IssuesAtMost.one (send_of_query hsend)).mono (Nat.pos_of_ne_zero hleft)
  | case6 left it s hleft reply s₁ hsend page _ hrows key _ ih =>
      exact (IssuesAtMost.answered (send_of_query hsend) ih).mono (by omega)

theorem start_issues (service : Service σ) (writes : WriteLog) (client : Client)
    (plan : QueryIteration) (s : σ) :
    client.IssuesAtMost service (1 + plan.query.offset) s
      (start service writes client plan s).2 := by
  rcases h : start service writes client plan s with ⟨outcome, s'⟩
  rcases start_cases h with ⟨_, _, rfl⟩ |
    ⟨_, ⟨_, _, rfl⟩ | ⟨_, hsend, _⟩ | ⟨reply, s₁, skipped, hsend, hseek, _⟩⟩
  · exact .nothing _ _ _ _
  · exact .nothing _ _ _ _
  · exact (IssuesAtMost.one (send_of_query hsend)).mono (Nat.le_add_right 1 _)
  · have hskipped := seek_issues service writes plan.query.offset
      (pinned client plan (Timestamp.orClock reply.sessionTimestamp (service.epoch s₁))) s₁
    rw [hseek] at hskipped
    have hissues := hskipped.answered (send_of_query hsend)
    exact hissues.mono (Nat.le_of_eq (Nat.add_comm _ 1))

theorem nextBatch_issues (service : Service σ) (writes : WriteLog) (it : RowCursor) (s : σ) :
    it.client.IssuesAtMost service 1 s (it.nextBatch service writes s).2.2 := by
  have hrows : ∀ {batch it' s'}, it.nextRows service writes s = (batch, it', s') →
      it.client.IssuesAtMost service 1 s s' := by
    intro batch it' s' hnext
    rcases nextRows_cases hnext with ⟨_, rfl⟩ | ⟨_, answer, hsend, _⟩
    · exact .nothing _ _ _ _
    · exact .one (send_of_query hsend)
  rcases h : it.nextBatch service writes s with ⟨outcome, it', s'⟩
  rcases nextBatch_cases h with ⟨_, _, rfl⟩ | ⟨_, _, hnext⟩ | ⟨_, _, _, hnext, _⟩
  · exact .nothing _ _ _ _
  · exact hrows hnext
  · exact hrows hnext

end RowCursor

namespace BandSearch

/-- What a search of a band has sent, and that it was answered if there is a page. -/
theorem searchBand_issues {it it' : BandSearch}
    {band : Option Ieee.Binary64 × Option Ieee.Binary64} {filter : String} {rate : Nat}
    {outcome : Except ClientError HitPage}
    (h : it.searchBand service writes band filter rate s = (outcome, it', s')) :
    it.client.IssuesAtMost service 1 s s' ∧
      ∀ page, outcome = .ok page → ∃ r reply, it.client.send service r s = (.ok reply, s') := by
  rcases searchBand_cases h with ⟨_, rfl, _, rfl⟩ |
    ⟨r, _, ⟨_, hsend, rfl, _⟩ | ⟨reply, hsend, _, _⟩⟩
  · exact ⟨.nothing _ _ _ _, nofun⟩
  · exact ⟨.one (send_of_search hsend), nofun⟩
  · exact ⟨.one (send_of_search hsend), fun _ _ => ⟨.search r, reply, send_of_search hsend⟩⟩

/-- A probe without hits does not bring the rows nearer, but it is counted. -/
theorem fill_issues (service : Service σ) (writes : WriteLog) (wanted left : Nat)
    (it : BandSearch) (s : σ) :
    it.client.IssuesAtMost service left s (it.fill service writes wanted left s).2.2 := by
  induction left generalizing it s with
  | zero => exact .nothing _ _ _ _
  | succ left ih =>
      rw [fill_succ]
      split
      · exact .nothing _ _ _ _
      rcases hprobe : it.probe service writes (Ieee.Word.ofInt (maxProbes - left : Nat)) s with
        ⟨outcome, it₁, s₁⟩
      obtain ⟨found, it₂, hsearch, hprobed⟩ := probe_cases hprobe
      obtain ⟨hone, hanswered⟩ := searchBand_issues hsearch
      cases outcome with
      | error e => exact hone.mono (Nat.le_add_left 1 left)
      | ok =>
          rcases hprobed with ⟨_, _, he, _⟩ | ⟨page, rfl, _⟩
          · cases he
          · obtain ⟨r, reply, hsend⟩ := hanswered page rfl
            have hrest := ih it₁ s₁
            rw [probe_client hprobe] at hrest
            exact hrest.answered hsend

theorem start_issues (service : Service σ) (writes : WriteLog) (client : Client)
    (plan : SearchIteration) (s : σ) :
    client.IssuesAtMost service 1 s (start service writes client plan s).2 := by
  rcases h : start service writes client plan s with ⟨outcome, s'⟩
  rcases start_cases h with ⟨_, _, rfl⟩ | ⟨metric, found, it₁, _, _, hsearch, _⟩
  · exact .nothing _ _ _ _
  · exact (searchBand_issues hsearch).1

theorem nextBatch_issues (service : Service σ) (writes : WriteLog) (it : BandSearch) (s : σ) :
    it.client.IssuesAtMost service maxProbes s (it.nextBatch service writes s).2.2 := by
  have hfilled := fill_issues service writes it.wanted maxProbes it s
  rcases h : it.nextBatch service writes s with ⟨outcome, it', s'⟩
  rcases nextBatch_cases h with ⟨_, _, rfl⟩ | ⟨_, ⟨_, _, hfill⟩ | ⟨_, hfill, _⟩⟩
  · exact .nothing _ _ _ _
  · rw [hfill] at hfilled
    exact hfilled
  · rw [hfill] at hfilled
    exact hfilled

end BandSearch

namespace TokenSearch

theorem nextPage_issues {it it' : TokenSearch} {outcome : Except ClientError HitPage}
    (h : it.nextPage service writes s = (outcome, it', s')) :
    it.client.IssuesAtMost service 1 s s' ∧
      ∀ page, outcome = .ok page → ∃ r reply, it.client.send service r s = (.ok reply, s') := by
  rcases nextPage_cases h with ⟨_, rfl, _, rfl⟩ | ⟨r, _, ⟨_, hsend, rfl, _⟩ | ⟨reply, hsend, _⟩⟩
  · exact ⟨.nothing _ _ _ _, nofun⟩
  · exact ⟨.one (send_of_search hsend), nofun⟩
  · exact ⟨.one (send_of_search hsend), fun _ _ => ⟨.search r, reply, send_of_search hsend⟩⟩

theorem fill_issues (service : Service σ) (writes : WriteLog) (wanted left : Nat)
    (it : TokenSearch) (s : σ) :
    it.client.IssuesAtMost service left s (it.fill service writes wanted left s).2.2 := by
  induction left generalizing it s with
  | zero => exact .nothing _ _ _ _
  | succ left ih =>
      rw [fill]
      split
      · exact .nothing _ _ _ _
      rcases hpage : it.nextPage service writes s with ⟨outcome, it₁, s₁⟩
      obtain ⟨hone, hanswered⟩ := nextPage_issues hpage
      cases outcome with
      | error e => exact hone.mono (Nat.le_add_left 1 left)
      | ok page =>
          dsimp only
          split
          · exact hone.mono (Nat.le_add_left 1 left)
          · obtain ⟨r, reply, hsend⟩ := hanswered page rfl
            have hrest := ih { it₁ with cache := it₁.cache ++ [page] } s₁
            rw [← (nextPage_frame hpage).1.client] at hsend ⊢
            exact hrest.answered hsend

theorem start_issues (service : Service σ) (writes : WriteLog) (client : Client)
    (plan : SearchIteration) (s : σ) :
    client.IssuesAtMost service 1 s (start service writes client plan s).2 := by
  rcases h : start service writes client plan s with ⟨outcome, s'⟩
  rcases start_cases h with ⟨_, _, rfl⟩ | ⟨_, seen, hprobe, _⟩
  · exact .nothing _ _ _ _
  rcases probe_cases hprobe with rfl | ⟨r, _, _, hsend⟩
  · exact .nothing _ _ _ _
  · exact .one (send_of_search hsend)

theorem nextBatch_issues (service : Service σ) (writes : WriteLog) (it : TokenSearch) (s : σ) :
    it.client.IssuesAtMost service it.wanted s (it.nextBatch service writes s).2.2 := by
  have hfilled := fill_issues service writes it.wanted it.wanted it s
  rcases h : it.nextBatch service writes s with ⟨outcome, it', s'⟩
  rcases nextBatch_cases h with ⟨_, _, rfl⟩ | ⟨_, ⟨_, _, hfill⟩ | ⟨_, hfill, _⟩⟩
  · exact .nothing _ _ _ _
  · rw [hfill] at hfilled
    exact hfilled
  · rw [hfill] at hfilled
    exact hfilled

/-- The number of pages that are left does not matter once it covers the rows that are wanting,
because every page that the loop goes on after has a row. -/
theorem fill_eq_of_le (service : Service σ) (writes : WriteLog) {wanted left left' : Nat}
    (it : TokenSearch) (s : σ) (hleft : wanted ≤ left + PageCache.rowCount it.cache)
    (hleft' : wanted ≤ left' + PageCache.rowCount it.cache) :
    it.fill service writes wanted left s = it.fill service writes wanted left' s := by
  induction left generalizing it s left' with
  | zero =>
      cases left' with
      | zero => rfl
      | succ left' =>
          rw [fill, fill, if_pos (by omega)]
  | succ left ih =>
      cases left' with
      | zero => rw [fill, fill, if_pos (by omega)]
      | succ left' =>
          rw [fill, fill]
          split
          · rfl
          rcases hpage : it.nextPage service writes s with ⟨_ | page, it₁, s₁⟩
          · rfl
          dsimp only
          split
          · rfl
          · rename_i hsome
            have hrows : page.rowCount ≠ 0 := fun hzero => hsome (HitPage.isEmpty_iff.mpr hzero)
            have hcached : PageCache.rowCount (it₁.cache ++ [page]) =
                PageCache.rowCount it.cache + page.rowCount := by
              rw [PageCache.rowCount_append, (nextPage_frame hpage).2.1]
              rfl
            refine ih _ s₁ ?_ ?_
            · show wanted ≤ left + PageCache.rowCount (it₁.cache ++ [page])
              omega
            · show wanted ≤ left' + PageCache.rowCount (it₁.cache ++ [page])
              omega

/-- One round of the loop for a batch, with what is done after it if it was not the last. -/
def fillRound (service : Service σ) (writes : WriteLog) (wanted : Nat)
    (again : TokenSearch → σ → Except ClientError Unit × TokenSearch × σ) (it : TokenSearch)
    (s : σ) : Except ClientError Unit × TokenSearch × σ :=
  if wanted ≤ PageCache.rowCount it.cache then (.ok (), it, s)
  else
    match it.nextPage service writes s with
    | (.error e, it, s) => (.error e, it, s)
    | (.ok page, it, s) =>
      if page.isEmpty then (.ok (), it, s)
      else again { it with cache := it.cache ++ [page] } s

/-- So the loop is repeated until it ends by itself: the rows are there, the server has no more,
or a page cannot be had. -/
theorem fill_eq_fillRound (service : Service σ) (writes : WriteLog) (wanted : Nat)
    (it : TokenSearch) (s : σ) :
    it.fill service writes wanted wanted s =
      it.fillRound service writes wanted (fill service writes wanted wanted) s := by
  have hmore : it.fill service writes wanted wanted s =
      it.fill service writes wanted (wanted + 1) s :=
    fill_eq_of_le service writes it s (by omega) (by omega)
  rw [hmore]
  rcases hnext : it.nextPage service writes s with ⟨_ | page, it₁, s₁⟩ <;>
    simp only [fill, fillRound, hnext]

end TokenSearch

end Iterations

/-- Every call on an iteration ends, whatever the service answers. A request costs an attempt at
least and no more than the policy allows, and the attempts tell which requests were sent. The
construction of a row cursor sends one request and one more for each row to skip at most, a
batch of it one, a batch of a band search twenty, a batch of a token search one for each row
that it may have. The loop of the latter is not cut short: it ends by its own conditions. -/
theorem issues_at_most {σ : Type} (service : Service σ) (writes : WriteLog) (client : Client)
    (s : σ × List Attempt) :
    (∀ r, s.2.length < (client.send service.traced r s).2.2.length ∧
      (client.send service.traced r s).2.2.length ≤ s.2.length + max 1 client.retry.maxTimes) ∧
    (∀ s', {requests | client.Issues service.traced requests s s'}.Subsingleton) ∧
    (∀ plan, client.IssuesAtMost service.traced (1 + plan.query.offset) s
      (RowCursor.start service.traced writes client plan s).2) ∧
    (∀ plan, client.IssuesAtMost service.traced 1 s
      (BandSearch.start service.traced writes client plan s).2) ∧
    (∀ plan, client.IssuesAtMost service.traced 1 s
      (TokenSearch.start service.traced writes client plan s).2) ∧
    (∀ it : RowCursor, it.client.IssuesAtMost service.traced 1 s
      (it.nextBatch service.traced writes s).2.2) ∧
    (∀ it : BandSearch, it.client.IssuesAtMost service.traced 20 s
      (it.nextBatch service.traced writes s).2.2) ∧
    (∀ it : TokenSearch, it.client.IssuesAtMost service.traced
      (Iteration.capped (Iteration.owed it.plan.limit it.returned) it.plan.batchSize) s
      (it.nextBatch service.traced writes s).2.2) ∧
    (∀ (it : TokenSearch) (wanted : Nat), it.fill service.traced writes wanted wanted s =
      it.fillRound service.traced writes wanted
        (TokenSearch.fill service.traced writes wanted wanted) s) := by
  refine ⟨?_, ?_, ?_, ?_, ?_, ?_, ?_, ?_, ?_⟩
  · intro r
    exact RetryPolicy.length_execute rfl
  · intro s' requests h requests' h'
    exact h.unique h'
  · intro plan
    exact RowCursor.start_issues service.traced writes client plan s
  · intro plan
    exact BandSearch.start_issues service.traced writes client plan s
  · intro plan
    exact TokenSearch.start_issues service.traced writes client plan s
  · intro it
    exact it.nextBatch_issues service.traced writes s
  · intro it
    exact it.nextBatch_issues service.traced writes s
  · intro it
    exact it.nextBatch_issues service.traced writes s
  · intro it wanted
    exact it.fill_eq_fillRound service.traced writes wanted s

section Runs

variable {σ : Type} {service : Service σ} {client : Client} {s s' : σ × List Attempt}

/-- What every call of a run costs at most, all calls together cost as often as there are calls,
by induction on them. -/
theorem BatchIterator.Advances.length_run {ι β : Type} {I : BatchIterator ι β (σ × List Attempt)}
    {Inv : ι → σ × List Attempt → Prop} {cost : Nat}
    (advances : I.Advances Inv fun _ s s' => s'.2.length ≤ s.2.length + cost) {it : ι}
    (hit : Inv it s) (calls : List (Call × WriteLog)) :
    (I.run calls it s).2.2.2.length ≤ s.2.length + calls.length * cost := by
  induction calls generalizing it s with
  | nil => exact Nat.le_add_right _ _
  | cons call calls ih =>
      obtain ⟨call, writes⟩ := call
      rcases hperform : I.perform call writes it s with ⟨outcome, it₁, s₁⟩
      obtain ⟨hit₁, hcost⟩ := advances.perform hit hperform
      have hlater := ih hit₁
      rw [I.run_cons hperform, List.length_cons, Nat.succ_mul]
      dsimp only
      omega

/-- The requests of a batch cost attempts of the client that the iteration keeps. -/
theorem BatchIterator.Keeps.advances_attempts {ι β : Type}
    {I : BatchIterator ι β (σ × List Attempt)} {Valid : ι → Prop} {n : Nat}
    (keeps : I.Keeps Valid) (service : Service σ) (hissues : ∀ {it}, Valid it → ∀ writes s,
      client.IssuesAtMost service.traced n s (I.nextBatch writes it s).2.2) :
    I.Advances (fun it _ => Valid it) fun _ s s' =>
      s'.2.length ≤ s.2.length + n * max 1 client.retry.maxTimes where
  nextBatch := by
    intro writes it s outcome it' s' hit h
    have hlength := (hissues hit writes s).length_le
    rw [h] at hlength
    exact ⟨keeps.nextBatch hit h, hlength⟩
  stop hit := keeps.stop hit
  rest _ _ := Nat.le_add_right _ _

theorem RowCursor.advances_attempts (service : Service σ) (client : Client) :
    (batches service.traced).Advances (fun it _ => it.client = client) fun _ s s' =>
      s'.2.length ≤ s.2.length + 1 * max 1 client.retry.maxTimes := by
  refine (keeps_client service.traced client).advances_attempts service ?_
  rintro it rfl writes s
  exact it.nextBatch_issues service.traced writes s

theorem BandSearch.advances_attempts (service : Service σ) (client : Client) :
    (batches service.traced).Advances (fun it _ => it.client = client) fun _ s s' =>
      s'.2.length ≤ s.2.length + maxProbes * max 1 client.retry.maxTimes := by
  refine (keeps_client service.traced client).advances_attempts service ?_
  rintro it rfl writes s
  exact it.nextBatch_issues service.traced writes s

/-- No more rows are wanted for a batch than the plan gives it, so no more pages either. -/
theorem TokenSearch.advances_attempts (service : Service σ) (client : Client)
    (plan : SearchIteration) :
    (batches service.traced).Advances
      (fun it _ => it.client = client ∧ it.plan = plan ∧ PageCache.Counted it.cache)
      fun _ s s' => s'.2.length ≤ s.2.length + plan.batchSize * max 1 client.retry.maxTimes := by
  refine ((keeps_client service.traced client).and
    (keeps_plan service.traced plan)).advances_attempts service ?_
  rintro it ⟨rfl, rfl, _⟩ writes s
  exact (it.nextBatch_issues service.traced writes s).mono (Iteration.capped_le _ _)

/-- An iteration on which some calls are made attempts no more than so often, whatever the
service answers and whichever calls fail. -/
theorem attempts_le_of_run (service : Service σ) (writes : WriteLog) (client : Client)
    (s : σ × List Attempt) (calls : List (Call × WriteLog)) :
    (∀ plan it s', RowCursor.start service.traced writes client plan s = (.ok it, s') →
      ((RowCursor.batches service.traced).run calls it s').2.2.2.length ≤
        s'.2.length + calls.length * (1 * max 1 client.retry.maxTimes)) ∧
    (∀ plan it s', BandSearch.start service.traced writes client plan s = (.ok it, s') →
      ((BandSearch.batches service.traced).run calls it s').2.2.2.length ≤
        s'.2.length + calls.length * (BandSearch.maxProbes * max 1 client.retry.maxTimes)) ∧
    (∀ plan it s', TokenSearch.start service.traced writes client plan s = (.ok it, s') →
      ((TokenSearch.batches service.traced).run calls it s').2.2.2.length ≤
        s'.2.length + calls.length * (plan.batchSize * max 1 client.retry.maxTimes)) := by
  refine ⟨?_, ?_, ?_⟩
  · intro plan it s' h
    exact (RowCursor.advances_attempts service client).length_run (RowCursor.client_of_start h)
      calls
  · intro plan it s' h
    exact (BandSearch.advances_attempts service client).length_run (BandSearch.client_of_start h)
      calls
  · intro plan it s' h
    have hclient := TokenSearch.client_of_start h
    obtain rfl := TokenSearch.start_eq h
    exact (TokenSearch.advances_attempts service client plan).length_run ⟨rfl, rfl, [], .nil⟩ calls

end Runs

end VectorClient
