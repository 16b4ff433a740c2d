import VectorClient.Client
import VectorClient.Proofs.Retry

/-!
# Calls of a client and attempts of its service

A call repeats one attempt. So a call whose first attempt succeeds is that attempt, a call
that succeeded in any way ends with an attempt that did, and a call sends the same request
again and again.

`Service.answered` lists the searches that were answered, as `Service.logged` lists all
attempts. A call adds its answer to that list, however often it has tried.
-/

namespace VectorClient

/-- A search that was answered. -/
structure Exchange where
  request : SearchRequest
  reply : SearchReply

/-- The same service, the searches it has answered listed from the first to the last. -/
def Service.answered {σ : Type} (service : Service σ) : Service (σ × List Exchange) where
  uptime s := service.uptime s.1
  epoch s := service.epoch s.1
  sleep ms s := (service.sleep ms s.1, s.2)
  attempt
    | .search r, deadline, s =>
      match service.attempt (.search r) deadline s.1 with
      | (.ok reply, state) => (.ok reply, state, s.2 ++ [⟨r, reply⟩])
      | (.error e, state) => (.error e, state, s.2)
    | r, deadline, s =>
      let (reply, state) := service.attempt r deadline s.1
      (reply, state, s.2)

theorem Service.answered_search {σ : Type} {service : Service σ} {r : SearchRequest}
    {deadline : Nat} {s s' : σ} {reply : SearchReply}
    (h : service.attempt (.search r) deadline s = (.ok reply, s')) (log : List Exchange) :
    service.answered.attempt (.search r) deadline (s, log) =
      (.ok reply, s', log ++ [⟨r, reply⟩]) := by
  simp only [answered, h]

namespace RetryPolicy

variable {σ : Type}

/-- All attempts of a call send the same request, and there is one at least. -/
theorem execute_logged (p : RetryPolicy) (service : Service σ) (r : Request) (deadline : Nat)
    (s : σ × List Sent) :
    ∃ n, (p.execute service.logged.toClock (service.logged.attempt r deadline) s).2.2 =
      s.2 ++ List.replicate (n + 1) ⟨r, deadline⟩ := by
  rcases h : p.execute service.logged.toClock (service.logged.attempt r deadline) s with
    ⟨outcome, s'⟩
  have hattempt : ∀ n (t : σ × List Sent), t.2 = s.2 ++ List.replicate n ⟨r, deadline⟩ →
      (service.logged.attempt r deadline t).2.2 =
        s.2 ++ List.replicate (n + 1) ⟨r, deadline⟩ := by
    intro n t ht
    show t.2 ++ [⟨r, deadline⟩] = _
    rw [ht, List.append_assoc, List.replicate_succ']
  have hcases := execute_cases
    (fun t => ∃ n, t.2 = s.2 ++ List.replicate n ⟨r, deadline⟩)
    (fun t => ∃ n, t.2 = s.2 ++ List.replicate (n + 1) ⟨r, deadline⟩)
    ⟨0, (List.append_nil _).symm⟩ ?_ (fun _ _ ht => ht) (fun _ ⟨n, ht⟩ => ⟨n + 1, ht⟩) h
  · rcases hcases with ⟨_, t, _, ⟨n, ht⟩, hok⟩ | ⟨_, _, hafter⟩
    · refine ⟨n, ?_⟩
      rw [← hattempt n t ht, hok]
    · exact hafter
  · rintro t f t' ⟨n, ht⟩ herror
    refine ⟨n, ?_⟩
    rw [← hattempt n t ht, herror]

end RetryPolicy

/-- A call is refused, or the request is sent and the reply, if there is one, is read. -/
theorem Pipeline.run_cases {σ ρ α β : Type} {p : Pipeline} {clock : Clock σ}
    {validate : ρ → Except ClientError ρ} {transport : ρ → Nat → σ → Except Failure α × σ}
    {finalize : α → Except ClientError β} {request : ρ} {s s' : σ}
    {outcome : Except ClientError β}
    (h : p.run clock validate transport finalize request s = (outcome, s')) :
    (∃ e, validate request = .error e ∧ outcome = .error e ∧ s' = s) ∨
    (∃ r e, validate request = .ok r ∧ outcome = .error e ∧
      p.policy.execute clock (transport r p.deadline) s = (.error e, s')) ∨
    (∃ r reply, validate request = .ok r ∧ outcome = finalize reply ∧
      p.policy.execute clock (transport r p.deadline) s = (.ok reply, s')) := by
  rw [run] at h
  split at h
  · rename_i e hrefused
    cases h
    exact .inl ⟨e, hrefused, rfl, rfl⟩
  · rename_i r hvalid
    refine .inr ?_
    split at h
    · rename_i e s₁ hexecute
      cases h
      exact .inl ⟨r, e, hvalid, rfl, hexecute⟩
    · rename_i reply s₁ hexecute
      cases h
      exact .inr ⟨r, reply, hvalid, rfl, hexecute⟩

/-- A call that does not adjust its request and reads nothing off the reply is refused, or it
is what the policy makes of the request. -/
theorem Pipeline.run_called {σ ρ α : Type} {p : Pipeline} {clock : Clock σ}
    {validate : ρ → Except ClientError ρ} {transport : ρ → Nat → σ → Except Failure α × σ}
    {request : ρ} {s s' : σ} {outcome : Except ClientError α}
    (hsame : ∀ r, validate request = .ok r → r = request)
    (h : p.run clock validate transport .ok request s = (outcome, s')) :
    (s' = s ∧ ∃ e, outcome = .error e) ∨
      p.policy.execute clock (transport request p.deadline) s = (outcome, s') := by
  rcases run_cases h with ⟨e, _, rfl, rfl⟩ | ⟨r, e, hvalid, rfl, hexecute⟩ |
    ⟨r, reply, hvalid, rfl, hexecute⟩
  · exact .inl ⟨rfl, e, rfl⟩
  · cases hsame r hvalid
    exact .inr hexecute
  · cases hsame r hvalid
    exact .inr hexecute

namespace Client

variable {σ : Type} {c : Client} {service : Service σ} {s s' : σ}

theorem sendQuery_eq (c : Client) (service : Service σ) (r : QueryRequest) (s : σ) :
    c.sendQuery service r s =
      c.retry.execute service.toClock (service.attempt (.query r) c.deadline) s := by
  simp only [sendQuery, Pipeline.run, pipeline]
  split <;> simp only [*]

theorem sendSearch_eq (c : Client) (service : Service σ) (r : SearchRequest) (s : σ) :
    c.sendSearch service r s =
      c.retry.execute service.toClock (service.attempt (.search r) c.deadline) s := by
  simp only [sendSearch, Pipeline.run, pipeline]
  split <;> simp only [*]

theorem sendQuery_of_ok {r : QueryRequest} {reply : QueryReply}
    (h : service.attempt (.query r) c.deadline s = (.ok reply, s')) :
    c.sendQuery service r s = (.ok reply, s') := by
  rw [sendQuery_eq]
  exact RetryPolicy.execute_of_ok h

theorem sendSearch_of_ok {r : SearchRequest} {reply : SearchReply}
    (h : service.attempt (.search r) c.deadline s = (.ok reply, s')) :
    c.sendSearch service r s = (.ok reply, s') := by
  rw [sendSearch_eq]
  exact RetryPolicy.execute_of_ok h

theorem attempt_of_sendSearch {r : SearchRequest} {reply : SearchReply}
    (h : c.sendSearch service r s = (.ok reply, s')) :
    ∃ s₀, service.attempt (.search r) c.deadline s₀ = (.ok reply, s') := by
  rw [sendSearch_eq] at h
  exact RetryPolicy.attempt_of_execute h

theorem sendSearch_logged (c : Client) (service : Service σ) (r : SearchRequest)
    (s : σ × List Sent) :
    s.2 ++ [⟨.search r, c.deadline⟩] <+: (c.sendSearch service.logged r s).2.2 := by
  obtain ⟨n, hsent⟩ := c.retry.execute_logged service (.search r) c.deadline s
  refine ⟨List.replicate n ⟨.search r, c.deadline⟩, ?_⟩
  rw [sendSearch_eq, hsent, List.append_assoc, List.singleton_append, List.replicate_succ]

/-- However often a call has tried, it adds one answer, or none if it has failed. -/
theorem sendSearch_answered {r : SearchRequest} {outcome : Except ClientError SearchReply}
    {s s' : σ × List Exchange} (h : c.sendSearch service.answered r s = (outcome, s')) :
    (∃ reply, outcome = .ok reply ∧ s'.2 = s.2 ++ [⟨r, reply⟩]) ∨
      (∃ e, outcome = .error e ∧ s'.2 = s.2) := by
  rw [sendSearch_eq] at h
  have hcases := RetryPolicy.execute_cases (fun t => t.2 = s.2) (fun t => t.2 = s.2) rfl ?_
    (fun _ _ ht => ht) (fun _ ht => ht) h
  · rcases hcases with ⟨reply, t, rfl, ht, hok⟩ | herror
    · refine .inl ⟨reply, rfl, ?_⟩
      simp only [Service.answered] at hok
      split at hok
      · cases hok
        rw [ht]
      · cases hok
    · exact .inr herror
  · intro t f t' ht herror
    simp only [Service.answered] at herror
    split at herror
    · cases herror
    · cases herror
      exact ht

end Client

end VectorClient
