import VectorClient.Proofs.Iteration.Accounts
import VectorClient.Proofs.Iteration.Agreement

/-!
# Failures that pass

A script is disturbed by failures in front of its outcomes, which pass by if the policy tries
again often enough. A client cannot tell the disturbed script from the other one: its
operations and its iterations come out the same, and all that is different is that some
requests were sent more than once.

This takes a policy that counts attempts and not milliseconds. With a time budget the sleep
between the attempts could end a call.
-/

namespace VectorClient

namespace Script

variable {r : Request} {reply : ScriptedReply} {f : Failure}

theorem fail_of_answer (h : answer r reply = .error f) : reply = .fail f ∨ f = otherKind := by
  cases r <;> cases reply <;> cases h <;> first | exact .inl rfl | exact .inr rfl

/-- What a script refuses by itself is not tried again, its codes not being a rate limit. -/
theorem not_retryable_refusal {code : Int} {reason : String} (hcode : code ≠ 8) (b : Bool) :
    (refusal code reason).isRetryable b = false := by
  have hlimit : (code == ServerStatus.rateLimitCode) = false := beq_eq_false_iff_ne.mpr hcode
  rw [refusal, Failure.isRetryable, ServerStatus.isRateLimit, hlimit]
  exact Bool.and_false b

/-- What the next attempt gives. -/
def first (r : Request) : List ScriptedReply → Except Failure r.Reply
  | [] => .error exhausted
  | reply :: _ => answer r reply

theorem attempt_logged (epoch : Nat) (r : Request) (deadline : Nat)
    (replies : List ScriptedReply) (slept : Nat) (sent : List Sent) :
    (service epoch).logged.attempt r deadline (⟨replies, slept⟩, sent) =
      (first r replies, ⟨replies.tail, slept⟩, sent ++ [⟨r, deadline⟩]) := by
  cases replies <;> rfl

end Script

namespace RetryPolicy

/-- The policy tries again, and as long as it takes. -/
structure Patient (p : RetryPolicy) : Prop where
  maxTimes : 1 < p.maxTimes
  timeout : p.timeout = 0

/-- An outcome that ends a call: a reply, which says when it was made if it is one to a read, or
a failure that is not tried again. -/
def Ends (p : RetryPolicy) : ScriptedReply → Prop
  | .query reply => reply.sessionTimestamp ≠ 0
  | .search reply => reply.sessionTimestamp ≠ 0
  | .mutate _ | .drop => True
  | .fail f => f.isRetryable p.retryRateLimit = false

/-- The second script has failures in front of outcomes of the first one, each of them to be
tried again, and fewer in a row than the policy has attempts. -/
inductive Disturbs (p : RetryPolicy) : List ScriptedReply → List ScriptedReply → Prop
  | nil : Disturbs p [] []
  | cons {failures : List Failure} {reply : ScriptedReply} {rest rest' : List ScriptedReply} :
      (∀ f ∈ failures, f.isRetryable p.retryRateLimit = true) → failures.length < p.maxTimes →
      Disturbs p rest rest' →
      Disturbs p (reply :: rest) (failures.map .fail ++ reply :: rest')

/-- The second list has every entry of the first one, up to so many times in a row. -/
inductive Repeats (times : Nat) : List Sent → List Sent → Prop
  | nil : Repeats times [] []
  | concat {sent sent' : List Sent} {n : Nat} (a : Sent) : Repeats times sent sent' →
      n < times → Repeats times (sent ++ [a]) (sent' ++ List.replicate (n + 1) a)

/-- What is left of a script and of the same script with failures, and what was sent so far. -/
structure Indistinct (p : RetryPolicy) (s t : Script × List Sent) : Prop where
  ends : ∀ reply ∈ s.1.replies, p.Ends reply
  disturbs : p.Disturbs s.1.replies t.1.replies
  sent : Repeats p.maxTimes s.2 t.2

variable {p : RetryPolicy} {r : Request} {deadline epoch started : Nat}

theorem Ends.not_retryable {reply : ScriptedReply} {f : Failure} (h : p.Ends reply)
    (hanswer : Script.answer r reply = .error f) : f.isRetryable p.retryRateLimit = false := by
  rcases Script.fail_of_answer hanswer with rfl | rfl
  · exact h
  · exact Script.not_retryable_refusal (by decide) _

theorem Ends.reported {reply : ScriptedReply} {answer : r.Reply} (h : p.Ends reply)
    (hanswer : Script.answer r reply = .ok answer) : r.reported? answer ≠ some 0 := by
  cases r <;> cases reply <;> cases hanswer
  · exact fun hzero => h (Option.some.inj hzero)
  · exact fun hzero => h (Option.some.inj hzero)
  · nofun
  · nofun

section Execution

variable {σ α : Type} {clock : Clock σ} {attempt : σ → Except Failure α × σ} {s s' : σ}

/-- An attempt that ends the call, however often was tried before. -/
theorem executeFrom_of_settled {left backoff : Nat}
    (hends : ∀ f s', attempt s = (.error f, s') → f.isRetryable p.retryRateLimit = false) :
    p.executeFrom clock attempt started left backoff s = settled (attempt s) := by
  rw [executeFrom.eq_def]
  dsimp only
  rcases hattempt : attempt s with ⟨f | a, s'⟩
  · dsimp only
    rw [hends f s' hattempt, if_neg Bool.false_ne_true, settled]
  · rfl

/-- An attempt that is tried again, by a policy that counts no time. -/
theorem executeFrom_of_retryable {f : Failure} {left : Nat} (htimeout : p.timeout = 0)
    (hattempt : attempt s = (.error f, s')) (hretry : f.isRetryable p.retryRateLimit = true)
    (backoff : Nat) :
    p.executeFrom clock attempt started (left + 1) backoff s =
      p.executeFrom clock attempt started left (p.nextBackoff backoff)
        (clock.sleep backoff s') := by
  rw [executeFrom.eq_def]
  dsimp only
  rw [hattempt]
  dsimp only
  rw [if_pos hretry, if_neg (by omega)]

end Execution

/-- Failures are tried again until the outcome behind them comes, by induction on them. -/
theorem executeFrom_disturbed {failures : List Failure} (htimeout : p.timeout = 0)
    (hretry : ∀ f ∈ failures, f.isRetryable p.retryRateLimit = true) {left backoff slept : Nat}
    (hleft : failures.length ≤ left) (replies : List ScriptedReply) (sent : List Sent) :
    ∃ left' backoff' slept',
      p.executeFrom (Script.service epoch).logged.toClock
          ((Script.service epoch).logged.attempt r deadline) started left backoff
          (⟨failures.map .fail ++ replies, slept⟩, sent) =
        p.executeFrom (Script.service epoch).logged.toClock
          ((Script.service epoch).logged.attempt r deadline) started left' backoff'
          (⟨replies, slept'⟩, sent ++ List.replicate failures.length ⟨r, deadline⟩) := by
  induction failures generalizing left backoff slept sent with
  | nil =>
      refine ⟨left, backoff, slept, ?_⟩
      rw [List.map_nil, List.nil_append, List.length_nil, List.replicate_zero, List.append_nil]
  | cons f failures ih =>
      obtain ⟨hf, hretry⟩ := List.forall_mem_cons.mp hretry
      obtain ⟨left, rfl⟩ : ∃ n, left = n + 1 := Nat.exists_eq_add_one.mpr (by
        rw [List.length_cons] at hleft
        omega)
      have hattempt : (Script.service epoch).logged.attempt r deadline
          (⟨(f :: failures).map .fail ++ replies, slept⟩, sent) =
          (.error f, ⟨failures.map .fail ++ replies, slept⟩, sent ++ [⟨r, deadline⟩]) := by
        rw [Script.attempt_logged]
        cases r <;> rfl
      rw [executeFrom_of_retryable htimeout hattempt hf]
      obtain ⟨left', backoff', slept', hrest⟩ := ih hretry
        (Nat.le_of_succ_le_succ hleft) (sent ++ [⟨r, deadline⟩])
      rw [List.append_assoc, List.singleton_append, ← List.replicate_succ] at hrest
      exact ⟨left', backoff', slept', hrest⟩

/-- A call ends with the first outcome behind the failures, which were tried again. -/
theorem execute_disturbed (epoch deadline : Nat) {failures : List Failure}
    {replies : List ScriptedReply} (hp : p.Patient)
    (hretry : ∀ f ∈ failures, f.isRetryable p.retryRateLimit = true)
    (hlength : failures.length < p.maxTimes)
    (hends : ∀ f, Script.first r replies = .error f → f.isRetryable p.retryRateLimit = false)
    (slept : Nat) (sent : List Sent) :
    ∃ slept', p.execute (Script.service epoch).logged.toClock
        ((Script.service epoch).logged.attempt r deadline)
        (⟨failures.map .fail ++ replies, slept⟩, sent) =
      ((Script.first r replies).mapError Failure.toError, ⟨replies.tail, slept'⟩,
        sent ++ List.replicate (failures.length + 1) ⟨r, deadline⟩) := by
  have hmaxTimes := hp.maxTimes
  rw [execute, if_neg (by omega)]
  obtain ⟨left, backoff, slept', hrest⟩ := executeFrom_disturbed hp.timeout hretry
    (Nat.le_sub_one_of_lt hlength) replies sent
  refine ⟨slept', ?_⟩
  rw [hrest, executeFrom_of_settled]
  · rw [Script.attempt_logged, settled_eq, List.append_assoc, ← List.replicate_succ']
  · intro f s' hattempt
    rw [Script.attempt_logged] at hattempt
    exact hends f (Prod.mk.inj hattempt).1

/-- The failures at the front of a disturbed script, and the outcome behind them. -/
theorem Disturbs.front {replies replies' : List ScriptedReply} (hp : p.Patient)
    (h : p.Disturbs replies replies') :
    ∃ (failures : List Failure) (rest : List ScriptedReply),
      replies' = failures.map .fail ++ rest ∧
      (∀ f ∈ failures, f.isRetryable p.retryRateLimit = true) ∧ failures.length < p.maxTimes ∧
      (∀ r, Script.first r rest = Script.first r replies) ∧ p.Disturbs replies.tail rest.tail := by
  cases h with
  | nil =>
      exact ⟨[], [], rfl, List.forall_mem_nil _, Nat.zero_lt_of_lt hp.maxTimes, fun _ => rfl, .nil⟩
  | cons hretry hlength hrest => exact ⟨_, _, rfl, hretry, hlength, fun _ => rfl, hrest⟩

theorem not_retryable_first {replies : List ScriptedReply} {f : Failure}
    (h : ∀ reply ∈ replies, p.Ends reply) (hfirst : Script.first r replies = .error f) :
    f.isRetryable p.retryRateLimit = false := by
  cases replies with
  | nil =>
      cases hfirst
      exact Script.not_retryable_refusal (by decide) _
  | cons reply rest => exact (h reply (List.mem_cons_self ..)).not_retryable hfirst

/-- A call over two scripts, of which one disturbs the other. -/
theorem Indistinct.execute {s t : Script × List Sent} (hp : p.Patient) (h : p.Indistinct s t)
    (epoch epoch' : Nat) (r : Request) (deadline : Nat) :
    ∃ s' t', p.execute (Script.service epoch).logged.toClock
          ((Script.service epoch).logged.attempt r deadline) s =
        ((Script.first r s.1.replies).mapError Failure.toError, s') ∧
      p.execute (Script.service epoch').logged.toClock
          ((Script.service epoch').logged.attempt r deadline) t =
        ((Script.first r s.1.replies).mapError Failure.toError, t') ∧ p.Indistinct s' t' := by
  obtain ⟨⟨replies, slept⟩, sent⟩ := s
  obtain ⟨⟨replies', slept'⟩, sent'⟩ := t
  obtain ⟨hends, hdisturbs, hsent⟩ := h
  dsimp only at hends hdisturbs hsent
  obtain ⟨failures, rest, rfl, hretry, hlength, hfirst, htail⟩ := hdisturbs.front hp
  have hnot := fun f => not_retryable_first (r := r) (f := f) hends
  obtain ⟨slept₁, hs⟩ := execute_disturbed epoch deadline hp (List.forall_mem_nil _)
    (Nat.zero_lt_of_lt hp.maxTimes) hnot slept sent
  rw [← hfirst] at hnot
  obtain ⟨slept₂, ht⟩ := execute_disturbed epoch' deadline hp hretry hlength
    hnot slept' sent'
  rw [hfirst] at ht
  refine ⟨_, _, hs, ht, ?_, htail, hsent.concat _ hlength⟩
  exact fun reply hreply => hends reply (List.mem_of_mem_tail hreply)

end RetryPolicy

namespace Client

variable {σ : Type} {c : Client} {service : Service σ} {writes writes' : WriteLog}
variable {s s' : σ} {reply : MutationReply}

end Client

namespace Sample

def rateLimit : Failure := .server ⟨8, .rateLimit, "slow down"⟩

end Sample

end VectorClient
