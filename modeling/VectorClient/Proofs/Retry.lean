import VectorClient.Retry

/-!
# How a call goes

`RetryPolicy.Runs` is the way of a call from one attempt to its end, with one rule for each
thing that can come of an attempt: a reply, a failure that is not tried again, a failure of the
last attempt, a sleep after which the time is up, and a sleep after which the next attempt
begins. `execute` follows these rules, so what holds of every call is proved by induction on
them. Among it is what every failed attempt and every sleep keep: it holds when the call has
failed, and when the attempt that succeeded begins.
-/

namespace VectorClient.RetryPolicy

variable {σ α : Type} {p : RetryPolicy} {clock : Clock σ} {attempt : σ → Except Failure α × σ}
variable {a : α} {s s' : σ} {outcome : Except ClientError α} {started left backoff : Nat}

/-- The time budget of a call is used up. -/
def TimeIsUp (p : RetryPolicy) (clock : Clock σ) (started : Nat) (s : σ) : Prop :=
  0 < p.timeout ∧ started + p.timeout ≤ clock.uptime s

/-- From an attempt in the first state, with `left` more of them behind it and the next sleep
being `backoff`, a call comes to this outcome in the second state. -/
inductive Runs (p : RetryPolicy) (clock : Clock σ) (attempt : σ → Except Failure α × σ)
    (started : Nat) : (left backoff : Nat) → σ → Except ClientError α → σ → Prop
  | reply {left backoff : Nat} {s s' : σ} {a : α} (hattempt : attempt s = (.ok a, s')) :
      Runs p clock attempt started left backoff s (.ok a) s'
  | terminal {left backoff : Nat} {s s' : σ} {f : Failure}
      (hattempt : attempt s = (.error f, s')) (hretry : f.isRetryable p.retryRateLimit = false) :
      Runs p clock attempt started left backoff s (.error f.toError) s'
  | lastAttempt {backoff : Nat} {s s' : σ} {f : Failure}
      (hattempt : attempt s = (.error f, s')) (hretry : f.isRetryable p.retryRateLimit = true) :
      Runs p clock attempt started 0 backoff s (.error (p.attemptsExhausted f)) s'
  | timeIsUp {rest backoff : Nat} {s s' : σ} {f : Failure}
      (hattempt : attempt s = (.error f, s')) (hretry : f.isRetryable p.retryRateLimit = true)
      (htime : p.TimeIsUp clock started (clock.sleep backoff s')) :
      Runs p clock attempt started (rest + 1) backoff s
        (.error (p.timeExhausted (p.maxTimes - (rest + 1)) f)) (clock.sleep backoff s')
  | again {rest backoff : Nat} {s s₁ s' : σ} {f : Failure} {outcome : Except ClientError α}
      (hattempt : attempt s = (.error f, s₁)) (hretry : f.isRetryable p.retryRateLimit = true)
      (htime : ¬ p.TimeIsUp clock started (clock.sleep backoff s₁))
      (hrest : Runs p clock attempt started rest (p.nextBackoff backoff) (clock.sleep backoff s₁)
        outcome s') :
      Runs p clock attempt started (rest + 1) backoff s outcome s'

/-- By induction on the attempts that are left. -/
theorem runs_of_executeFrom
    (h : p.executeFrom clock attempt started left backoff s = (outcome, s')) :
    p.Runs clock attempt started left backoff s outcome s' := by
  induction left generalizing backoff s with
  | zero =>
      rw [executeFrom.eq_def] at h
      dsimp only at h
      split at h
      · rename_i hattempt
        cases h
        exact .reply hattempt
      · rename_i hattempt
        split at h
        · rename_i hretry
          cases h
          exact .lastAttempt hattempt hretry
        · rename_i hretry
          cases h
          exact .terminal hattempt (Bool.eq_false_iff.mpr hretry)
  | succ rest ih =>
      rw [executeFrom.eq_def] at h
      dsimp only at h
      split at h
      · rename_i hattempt
        cases h
        exact .reply hattempt
      · rename_i hattempt
        split at h
        · rename_i hretry
          split at h
          · rename_i htime
            cases h
            exact .timeIsUp hattempt hretry htime
          · rename_i htime
            exact .again hattempt hretry htime (ih h)
        · rename_i hretry
          cases h
          exact .terminal hattempt (Bool.eq_false_iff.mpr hretry)

theorem settled_eq (x : Except Failure α × σ) :
    settled x = (x.1.mapError Failure.toError, x.2) := by
  rcases x with ⟨_ | _, _⟩ <;> rfl

/-- A policy of one attempt answers what comes of it, and every other one lets the call run. -/
theorem execute_runs (h : p.execute clock attempt s = (outcome, s')) :
    (p.maxTimes ≤ 1 ∧ ∃ first, attempt s = (first, s') ∧
      outcome = first.mapError Failure.toError) ∨
    (1 < p.maxTimes ∧ p.Runs clock attempt (clock.uptime s) (p.maxTimes - 1) p.initialBackoff s
      outcome s') := by
  rw [execute] at h
  split at h
  · rename_i hone
    rw [settled_eq] at h
    obtain ⟨rfl, rfl⟩ := Prod.mk.inj h
    exact .inl ⟨hone, _, rfl, rfl⟩
  · rename_i hmore
    exact .inr ⟨Nat.lt_of_not_le hmore, runs_of_executeFrom h⟩

theorem execute_of_ok (h : attempt s = (.ok a, s')) : p.execute clock attempt s = (.ok a, s') := by
  rw [execute]
  split
  · rw [h, settled]
  · rw [executeFrom.eq_def]
    dsimp only
    rw [h]

section Invariant

variable (Before After : σ → Prop)

theorem Runs.cases_of_invariant (hs : Before s)
    (hfail : ∀ s f s', Before s → attempt s = (.error f, s') → After s')
    (hsleep : ∀ ms s, After s → After (clock.sleep ms s)) (hagain : ∀ s, After s → Before s)
    (h : p.Runs clock attempt started left backoff s outcome s') :
    (∃ a s₀, outcome = .ok a ∧ Before s₀ ∧ attempt s₀ = (.ok a, s')) ∨
      (∃ e, outcome = .error e ∧ After s') := by
  induction h with
  | reply hattempt => exact .inl ⟨_, _, rfl, hs, hattempt⟩
  | terminal hattempt => exact .inr ⟨_, rfl, hfail _ _ _ hs hattempt⟩
  | lastAttempt hattempt => exact .inr ⟨_, rfl, hfail _ _ _ hs hattempt⟩
  | timeIsUp hattempt => exact .inr ⟨_, rfl, hsleep _ _ (hfail _ _ _ hs hattempt)⟩
  | again hattempt _ _ _ ih => exact ih (hagain _ (hsleep _ _ (hfail _ _ _ hs hattempt)))

/-- `Before` holds when an attempt begins, `After` when one has failed and while the call
sleeps. -/
theorem execute_cases (hs : Before s)
    (hfail : ∀ s f s', Before s → attempt s = (.error f, s') → After s')
    (hsleep : ∀ ms s, After s → After (clock.sleep ms s)) (hagain : ∀ s, After s → Before s)
    (h : p.execute clock attempt s = (outcome, s')) :
    (∃ a s₀, outcome = .ok a ∧ Before s₀ ∧ attempt s₀ = (.ok a, s')) ∨
      (∃ e, outcome = .error e ∧ After s') := by
  rcases execute_runs h with ⟨_, first, hattempt, rfl⟩ | ⟨_, hruns⟩
  · cases first with
    | ok a => exact .inl ⟨a, s, rfl, hs, hattempt⟩
    | error f => exact .inr ⟨_, rfl, hfail _ _ _ hs hattempt⟩
  · exact hruns.cases_of_invariant Before After hs hfail hsleep hagain

end Invariant

theorem attempt_of_execute (h : p.execute clock attempt s = (.ok a, s')) :
    ∃ s₀, attempt s₀ = (.ok a, s') := by
  have hcases := execute_cases (fun _ => True) (fun _ => True) trivial
    (fun _ _ _ _ _ => trivial) (fun _ _ _ => trivial) (fun _ _ => trivial) h
  rcases hcases with ⟨_, s₀, hok, _, hattempt⟩ | ⟨_, herror, _⟩
  · cases hok
    exact ⟨s₀, hattempt⟩
  · cases herror

end VectorClient.RetryPolicy
