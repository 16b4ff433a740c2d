import VectorClient.Proofs.Client

/-!
# Attempts and what came of them

`Service.traced` lists every attempt with its outcome and with the wall clock at that time.
A call adds attempts of one request to that list. All of them have failed, except for the
last one if the call succeeds.
-/

namespace VectorClient

namespace Request

def read? : Request → Option QueryRequest
  | query r => some r
  | search r => some r.toQueryRequest
  | mutate _ | drop _ => none

/-- The collection that is to be written or dropped. -/
def changed? : Request → Option CollectionId
  | mutate r => some ⟨r.database, r.collection⟩
  | drop r => some ⟨r.database, r.collection⟩
  | query _ | search _ => none

/-- What the reply to a read says of the time at which it was made, 0 if it does not say. -/
def reported? : (r : Request) → r.Reply → Option Nat
  | query _, reply => some reply.sessionTimestamp
  | search _, reply => some reply.sessionTimestamp
  | mutate _, _ | drop _, _ => none

end Request

/-- An attempt that was made, with the wall clock as it stood when the outcome was there. -/
structure Attempt where
  request : Request
  deadline : Nat
  outcome : Except Failure request.Reply
  clock : Nat

namespace Attempt

def Failed (a : Attempt) : Prop := ∃ f, a.outcome = .error f

/-- The timestamp at which a read is to be made. -/
def guarantee? (a : Attempt) : Option Nat := a.request.read?.map (·.guarantee)

/-- The timestamp at which a read was made: the one that its reply reports, or the wall clock
if it reports none. -/
def timestamp? (a : Attempt) : Option Nat :=
  match a.outcome with
  | .ok reply => (a.request.reported? reply).map fun reported => Timestamp.orClock reported a.clock
  | .error _ => none

/-- The reply, with the request that it answers. -/
def reply? (a : Attempt) : Option ((r : Request) × r.Reply) :=
  match a.outcome with
  | .ok reply => some ⟨a.request, reply⟩
  | .error _ => none

theorem Failed.timestamp?_eq {a : Attempt} (h : a.Failed) : a.timestamp? = none := by
  obtain ⟨f, hf⟩ := h
  rw [timestamp?, hf]

theorem Failed.reply?_eq {a : Attempt} (h : a.Failed) : a.reply? = none := by
  obtain ⟨f, hf⟩ := h
  rw [reply?, hf]

end Attempt

/-- The same service, its attempts listed with their outcomes from the first to the last. -/
def Service.traced {σ : Type} (service : Service σ) : Service (σ × List Attempt) where
  uptime s := service.uptime s.1
  epoch s := service.epoch s.1
  sleep ms s := (service.sleep ms s.1, s.2)
  attempt r deadline s :=
    let (outcome, state) := service.attempt r deadline s.1
    (outcome, state, s.2 ++ [⟨r, deadline, outcome, service.epoch state⟩])

/-- A call to send `r` has led to this outcome, and added attempts to the list: some that have
failed, and the one that was answered if there was one. -/
def Service.Called {σ : Type} (service : Service σ) (r : Request) (deadline : Nat)
    (s : σ × List Attempt) (outcome : Except ClientError r.Reply) (s' : σ × List Attempt) : Prop :=
  ∃ failures, (∀ a ∈ failures, a.request = r ∧ a.Failed) ∧
    ((∃ e, outcome = .error e ∧ s'.2 = s.2 ++ failures) ∨
      ∃ reply, outcome = .ok reply ∧
        s'.2 = s.2 ++ failures ++ [⟨r, deadline, .ok reply, service.epoch s'.1⟩])

variable {σ : Type} {service : Service σ} {s s' : σ × List Attempt}

/-- However a call ends, it has sent nothing but its request. -/
theorem Service.Called.forall_request {P : Request → Prop} {r : Request} {deadline : Nat}
    {outcome : Except ClientError r.Reply} (h : service.Called r deadline s outcome s') (hr : P r)
    (hs : ∀ a ∈ s.2, P a.request) : ∀ a ∈ s'.2, P a.request := by
  obtain ⟨failures, hfailures, hends⟩ := h
  have hfailed : ∀ a ∈ s.2 ++ failures, P a.request := by
    refine List.forall_mem_append.mpr ⟨hs, fun a ha => ?_⟩
    rw [(hfailures a ha).1]
    exact hr
  rcases hends with ⟨_, _, hs'⟩ | ⟨_, _, hs'⟩ <;> rw [hs']
  · exact hfailed
  · exact List.forall_mem_append.mpr ⟨hfailed, List.forall_mem_singleton.mpr hr⟩

/-- A call gets one reply if it succeeds, and none if it fails. -/
theorem Service.Called.replies_eq {r : Request} {deadline : Nat}
    {outcome : Except ClientError r.Reply} (h : service.Called r deadline s outcome s') :
    s'.2.filterMap Attempt.reply? =
      s.2.filterMap Attempt.reply? ++ (outcome.toOption.map fun reply => ⟨r, reply⟩).toList := by
  obtain ⟨failures, hfailures, hends⟩ := h
  have hnone : failures.filterMap Attempt.reply? = [] :=
    List.filterMap_eq_nil_iff.mpr fun a ha => (hfailures a ha).2.reply?_eq
  rcases hends with ⟨_, rfl, hs'⟩ | ⟨_, rfl, hs'⟩
  · rw [hs', List.filterMap_append, hnone]
    rfl
  · rw [hs', List.filterMap_append, List.filterMap_append, hnone, List.append_nil]
    rfl

theorem RetryPolicy.execute_traced {p : RetryPolicy} {r : Request} {deadline : Nat}
    {outcome : Except ClientError r.Reply}
    (h : p.execute service.traced.toClock (service.traced.attempt r deadline) s = (outcome, s')) :
    service.Called r deadline s outcome s' := by
  have hcases := execute_cases
    (fun t => ∃ failures, (∀ a ∈ failures, a.request = r ∧ a.Failed) ∧ t.2 = s.2 ++ failures)
    (fun t => ∃ failures, (∀ a ∈ failures, a.request = r ∧ a.Failed) ∧ t.2 = s.2 ++ failures)
    ⟨[], List.forall_mem_nil _, (List.append_nil _).symm⟩ ?_ (fun _ _ ht => ht) (fun _ ht => ht) h
  · rcases hcases with ⟨reply, t, rfl, ⟨failures, hfailures, ht⟩, hok⟩ |
      ⟨e, rfl, failures, hfailures, hs'⟩
    · obtain ⟨houtcome, hstate⟩ := Prod.mk.inj hok
      subst hstate
      rw [houtcome, ht]
      exact ⟨failures, hfailures, .inr ⟨reply, rfl, rfl⟩⟩
    · exact ⟨failures, hfailures, .inl ⟨e, rfl, hs'⟩⟩
  · rintro t f t' ⟨failures, hfailures, ht⟩ herror
    obtain ⟨houtcome, hstate⟩ := Prod.mk.inj herror
    subst hstate
    refine ⟨failures ++ [⟨r, deadline, .error f, service.epoch (service.attempt r deadline t.1).2⟩],
      List.forall_mem_append.mpr ⟨hfailures, ?_⟩, ?_⟩
    · exact List.forall_mem_singleton.mpr ⟨rfl, f, rfl⟩
    · rw [houtcome, ht, List.append_assoc]

namespace Client

variable {c : Client}

theorem sendQuery_traced {r : QueryRequest} {outcome : Except ClientError QueryReply}
    (h : c.sendQuery service.traced r s = (outcome, s')) :
    service.Called (.query r) c.deadline s outcome s' := by
  rw [sendQuery_eq] at h
  exact RetryPolicy.execute_traced h

theorem sendSearch_traced {r : SearchRequest} {outcome : Except ClientError SearchReply}
    (h : c.sendSearch service.traced r s = (outcome, s')) :
    service.Called (.search r) c.deadline s outcome s' := by
  rw [sendSearch_eq] at h
  exact RetryPolicy.execute_traced h

end Client

end VectorClient
