import Mathlib.Data.List.Basic
import Mathlib.Order.Bounds.Basic
import VectorClient.Proofs.Retry

/-!
# The attempts of a call

The course of a call is what its attempts would give, one after another, and the time that
would have passed behind the sleep after each of them, if the call never came to an end.
`Course.IsLast` says of a course which attempt ends the call, and `Course.verdict` what the
call answers then. A call makes exactly the attempts up to that one, and it sleeps behind those
that failed and are to be repeated.

What a call does is seen by a clock and an attempt that are `recorded`: they list every attempt
with its outcome and every sleep with its length.
-/

namespace VectorClient

namespace Failure

/-- The kind of the error for a failure that is shown as it is. -/
inductive Classified : Failure → ErrorKind → Prop
  | deadline (message : String) : Classified (.transport .deadlineExceeded message) .timeout
  | transport {code : TransportCode} (message : String) (h : code ≠ .deadlineExceeded) :
      Classified (.transport code message) .rpcFailed
  | schema {status : ServerStatus} (h : status.legacyCode = .schemaMismatch) :
      Classified (.server status) .dataSchemaMismatch
  | server {status : ServerStatus} (h : status.legacyCode ≠ .schemaMismatch) :
      Classified (.server status) .serverFailed

theorem classified_toError (f : Failure) : f.Classified f.toError.kind := by
  cases f with
  | transport code message =>
      rw [toError]
      split
      · rename_i hcode
        subst hcode
        exact .deadline message
      · rename_i hcode
        exact .transport message hcode
  | server status =>
      rw [toError]
      split
      · rename_i hschema
        exact .schema (beq_iff_eq.mp hschema)
      · rename_i hschema
        exact .server fun h => hschema (beq_iff_eq.mpr h)

/-- Another attempt would not help, or is not wanted. -/
inductive Terminal (retryRateLimit : Bool) : Failure → Prop
  | transport {code : TransportCode} (message : String) (h : code.isTerminal = true) :
      Terminal retryRateLimit (.transport code message)
  | server {status : ServerStatus} (h : status.isRateLimit = false) :
      Terminal retryRateLimit (.server status)
  | unwanted (status : ServerStatus) (h : retryRateLimit = false) :
      Terminal retryRateLimit (.server status)

theorem terminal_iff {retryRateLimit : Bool} {f : Failure} :
    f.Terminal retryRateLimit ↔ f.isRetryable retryRateLimit = false := by
  constructor
  · intro h
    cases h with
    | transport message hcode => simp [isRetryable, hcode]
    | server hlimit => simp [isRetryable, hlimit]
    | unwanted status hflag => simp [isRetryable, hflag]
  · intro h
    cases f with
    | transport code message => exact .transport message (by simpa [isRetryable] using h)
    | server status =>
        rw [isRetryable, Bool.and_eq_false_iff] at h
        rcases h with hflag | hlimit
        · exact .unwanted status hflag
        · exact .server hlimit

theorem not_terminal {retryRateLimit : Bool} {f : Failure}
    (h : f.isRetryable retryRateLimit = true) : ¬ f.Terminal retryRateLimit := by
  rw [terminal_iff, h]
  exact Bool.noConfusion

end Failure

/-- What the attempts of a call give, counted from 0, and the milliseconds from its start to the
end of the sleep behind each of them, if it never comes to an end. -/
structure Course (α : Type) where
  outcome : Nat → Except Failure α
  elapsed : Nat → Nat

/-- What is seen of a call: its attempts and its sleeps. -/
inductive Step (α : Type) where
  | attempted (outcome : Except Failure α)
  | slept (ms : Nat)

namespace RetryPolicy

/-- The sleep behind the attempt with this number. -/
def backoff (p : RetryPolicy) : Nat → Nat
  | 0 => p.initialBackoff
  | k + 1 => p.nextBackoff (p.backoff k)

end RetryPolicy

namespace Course

variable {α : Type} (c : Course α) (p : RetryPolicy)

/-- The attempt does not leave a call that may be repeated another one: it has succeeded, or its
failure is terminal, or it was the last that is allowed, or the time is up behind its sleep. -/
def Stops (k : Nat) : Prop :=
  (∃ a, c.outcome k = .ok a) ∨
  (∃ f, c.outcome k = .error f ∧ f.Terminal p.retryRateLimit) ∨
  k + 1 = p.maxTimes ∨
  (0 < p.timeout ∧ p.timeout ≤ c.elapsed k)

/-- The attempt that ends the call: the first one if there is one only, else the first one that
stops it. -/
def IsLast (k : Nat) : Prop :=
  (p.maxTimes ≤ 1 → k = 0) ∧ (1 < p.maxTimes → IsLeast {j | c.Stops p j} k)

/-- What the call answers if this attempt is the last. -/
def verdict (k : Nat) : Except ClientError α :=
  match c.outcome k with
  | .ok a => .ok a
  | .error f =>
    if p.maxTimes ≤ 1 ∨ f.isRetryable p.retryRateLimit = false then .error f.toError
    else if k + 1 = p.maxTimes then .error (p.attemptsExhausted f)
    else .error (p.timeExhausted (k + 1) f)

/-- Whether the call sleeps behind the attempt: it has failed and can be repeated, and it is not
the last that is allowed. -/
def sleeps (k : Nat) : Bool :=
  match c.outcome k with
  | .ok _ => false
  | .error f => f.isRetryable p.retryRateLimit && decide (1 < p.maxTimes ∧ k + 1 ≠ p.maxTimes)

/-- The attempt and the sleep behind it. -/
def steps (k : Nat) : List (Step α) :=
  .attempted (c.outcome k) :: if c.sleeps p k then [.slept (p.backoff k)] else []

variable {c p} {k last : Nat} {a : α} {f : Failure}

theorem IsLast.eq {k' : Nat} (h : c.IsLast p k) (h' : c.IsLast p k') : k = k' := by
  rcases Nat.lt_or_ge 1 p.maxTimes with hmore | hone
  · exact (h.2 hmore).unique (h'.2 hmore)
  · rw [h.1 hone, h'.1 hone]

theorem isLast_of_stops (hmore : 1 < p.maxTimes) (hstops : c.Stops p k)
    (hbefore : ∀ j < k, ¬ c.Stops p j) : c.IsLast p k := by
  refine ⟨fun hone => absurd hmore (Nat.not_lt.mpr hone), fun _ => ⟨hstops, fun j hj => ?_⟩⟩
  exact Nat.le_of_not_lt fun hlt => hbefore j hlt hj

/-- An attempt that does not stop the call is followed by a sleep. -/
theorem sleeps_of_not_stops (hmore : 1 < p.maxTimes) (h : ¬ c.Stops p k) :
    c.sleeps p k = true := by
  rw [sleeps]
  cases houtcome : c.outcome k with
  | ok a => exact absurd (.inl ⟨a, houtcome⟩) h
  | error f =>
      have hretry : f.isRetryable p.retryRateLimit = true := by
        by_contra hterminal
        refine h (.inr (.inl ⟨f, houtcome, Failure.terminal_iff.mpr ?_⟩))
        exact Bool.eq_false_iff.mpr hterminal
      have hlast : k + 1 ≠ p.maxTimes := fun hlast => h (.inr (.inr (.inl hlast)))
      simp [hretry, hmore, hlast]

theorem IsLast.sleeps (h : c.IsLast p last) (hk : k < last) : c.sleeps p k = true := by
  rcases Nat.lt_or_ge 1 p.maxTimes with hmore | hone
  · exact sleeps_of_not_stops hmore fun hstops => Nat.not_le.mpr hk ((h.2 hmore).2 hstops)
  · exact absurd hk (by rw [h.1 hone]; exact Nat.not_lt_zero k)

/-- An answer is a reply, or the failure as it is, or a timeout with the words of the failure. -/
structure Answers (p : RetryPolicy) (outcome : Except Failure α)
    (answer : Except ClientError α) : Prop where
  reply : ∀ a, outcome = .ok a → answer = .ok a
  unwrapped : ∀ f, outcome = .error f → p.maxTimes ≤ 1 ∨ f.Terminal p.retryRateLimit →
    answer = .error f.toError ∧ f.Classified f.toError.kind
  exhausted : ∀ f, outcome = .error f → 1 < p.maxTimes → ¬ f.Terminal p.retryRateLimit →
    ∃ reason, answer = .error ⟨.timeout, reason ++ f.message⟩

theorem answers_verdict (c : Course α) (p : RetryPolicy) (k : Nat) :
    Answers p (c.outcome k) (c.verdict p k) where
  reply a houtcome := by rw [verdict, houtcome]
  unwrapped f houtcome hends := by
    rw [Failure.terminal_iff] at hends
    refine ⟨?_, f.classified_toError⟩
    simp only [verdict, houtcome, if_pos hends]
  exhausted f houtcome hmore hretry := by
    rw [Failure.terminal_iff] at hretry
    have hgoes : ¬ (p.maxTimes ≤ 1 ∨ f.isRetryable p.retryRateLimit = false) :=
      not_or.mpr ⟨Nat.not_le.mpr hmore, hretry⟩
    simp only [verdict, houtcome, if_neg hgoes]
    split
    · exact ⟨_, rfl⟩
    · exact ⟨_, rfl⟩

end Course

/-- The same clock, the sleeps being listed. -/
def Clock.recorded {σ : Type} (α : Type) (clock : Clock σ) : Clock (σ × List (Step α)) where
  uptime s := clock.uptime s.1
  epoch s := clock.epoch s.1
  sleep ms s := (clock.sleep ms s.1, s.2 ++ [.slept ms])

/-- The same attempt, every one being listed with its outcome. -/
def recorded {σ α : Type} (attempt : σ → Except Failure α × σ) (s : σ × List (Step α)) :
    Except Failure α × σ × List (Step α) :=
  let (outcome, state) := attempt s.1
  (outcome, state, s.2 ++ [.attempted outcome])

namespace RetryPolicy

section

variable {σ α : Type} (p : RetryPolicy) (clock : Clock σ) (attempt : σ → Except Failure α × σ)
variable (s : σ)

/-- The state in which the attempt with this number begins, if all before it are followed by
their sleeps. -/
def before : Nat → σ
  | 0 => s
  | k + 1 => clock.sleep (p.backoff k) (attempt (before k)).2

/-- The course of the call that begins in the state. -/
def course : Course α where
  outcome k := (attempt (p.before clock attempt s k)).1
  elapsed k := clock.uptime (p.before clock attempt s (k + 1)) - clock.uptime s

/-- The state in which the call ends if this attempt is the last. -/
def after (k : Nat) : σ :=
  if (p.course clock attempt s).sleeps p k then p.before clock attempt s (k + 1)
  else (attempt (p.before clock attempt s k)).2

end

variable {σ α : Type} {p : RetryPolicy} {clock : Clock σ} {attempt : σ → Except Failure α × σ}
variable {s t t' : σ} {outcome : Except ClientError α}

theorem timeIsUp_iff (k : Nat) :
    p.TimeIsUp clock (clock.uptime s) (p.before clock attempt s (k + 1)) ↔
      0 < p.timeout ∧ p.timeout ≤ (p.course clock attempt s).elapsed k := by
  change _ ↔ 0 < p.timeout ∧
    p.timeout ≤ clock.uptime (p.before clock attempt s (k + 1)) - clock.uptime s
  rw [TimeIsUp]
  omega

section Attempt

variable {k : Nat} {gives : Except Failure α} {s₁ : σ}

theorem outcome_of_attempt (h : attempt (p.before clock attempt s k) = (gives, s₁)) :
    (p.course clock attempt s).outcome k = gives := congrArg Prod.fst h

theorem after_of_not_sleeps (h : attempt (p.before clock attempt s k) = (gives, s₁))
    (hsleeps : (p.course clock attempt s).sleeps p k = false) :
    p.after clock attempt s k = s₁ := by
  rw [after, hsleeps, if_neg Bool.false_ne_true, h]

theorem after_of_sleeps (hsleeps : (p.course clock attempt s).sleeps p k = true) :
    p.after clock attempt s k = p.before clock attempt s (k + 1) := if_pos hsleeps

theorem before_succ (h : attempt (p.before clock attempt s k) = (gives, s₁)) :
    p.before clock attempt s (k + 1) = clock.sleep (p.backoff k) s₁ := by
  rw [before, h]

end Attempt

/-- A call that has come to an attempt without being stopped before ends at the first attempt
that stops it, by induction on its way from there. -/
theorem Runs.exists_isLast {left backoff : Nat}
    (h : p.Runs clock attempt (clock.uptime s) left backoff t outcome t') (hmore : 1 < p.maxTimes)
    {k : Nat} (ht : t = p.before clock attempt s k) (hbackoff : backoff = p.backoff k)
    (hleft : left + (k + 1) = p.maxTimes)
    (hbefore : ∀ j < k, ¬ (p.course clock attempt s).Stops p j) :
    ∃ last, (p.course clock attempt s).IsLast p last ∧
      outcome = (p.course clock attempt s).verdict p last ∧ t' = p.after clock attempt s last := by
  induction h generalizing k with
  | reply hattempt =>
      subst ht
      have houtcome := outcome_of_attempt hattempt
      refine ⟨k, Course.isLast_of_stops hmore (.inl ⟨_, houtcome⟩) hbefore, ?_, ?_⟩
      · rw [Course.verdict, houtcome]
      · rw [after_of_not_sleeps hattempt (by rw [Course.sleeps, houtcome])]
  | terminal hattempt hretry =>
      subst ht
      have houtcome := outcome_of_attempt hattempt
      have hterminal := Failure.terminal_iff.mpr hretry
      refine ⟨k, Course.isLast_of_stops hmore (.inr (.inl ⟨_, houtcome, hterminal⟩)) hbefore,
        ?_, ?_⟩
      · simp only [Course.verdict, houtcome, if_pos (Or.inr hretry)]
      · rw [after_of_not_sleeps hattempt (by simp [Course.sleeps, houtcome, hretry])]
  | lastAttempt hattempt hretry =>
      subst ht
      have houtcome := outcome_of_attempt hattempt
      have hlast : k + 1 = p.maxTimes := by omega
      refine ⟨k, Course.isLast_of_stops hmore (.inr (.inr (.inl hlast))) hbefore, ?_, ?_⟩
      · simp [Course.verdict, houtcome, hretry, hlast, Nat.not_le.mpr hmore]
      · rw [after_of_not_sleeps hattempt (by simp [Course.sleeps, houtcome, hlast])]
  | @timeIsUp rest _ _ _ f hattempt hretry htime =>
      subst ht hbackoff
      have houtcome := outcome_of_attempt hattempt
      rw [← before_succ hattempt] at htime ⊢
      have hlast : k + 1 ≠ p.maxTimes := by omega
      have hcount : p.maxTimes - (rest + 1) = k + 1 := by omega
      refine ⟨k, Course.isLast_of_stops hmore (.inr (.inr (.inr ?_))) hbefore, ?_, ?_⟩
      · exact (timeIsUp_iff k).mp htime
      · simp [Course.verdict, houtcome, hretry, hlast, hcount, Nat.not_le.mpr hmore]
      · rw [after_of_sleeps (by simp [Course.sleeps, houtcome, hretry, hmore, hlast])]
  | @again rest _ _ _ _ f _ hattempt hretry htime _ ih =>
      subst ht hbackoff
      have houtcome := outcome_of_attempt hattempt
      rw [← before_succ hattempt] at htime
      have hgoes : ¬ (p.course clock attempt s).Stops p k := by
        rw [Course.Stops, houtcome]
        rintro (⟨_, ⟨⟩⟩ | ⟨_, ⟨⟩, hterminal⟩ | hlast | hup)
        · exact Failure.not_terminal hretry hterminal
        · omega
        · exact htime ((timeIsUp_iff k).mpr hup)
      have hleft' : rest + (k + 1 + 1) = p.maxTimes := by omega
      refine ih (before_succ hattempt).symm rfl hleft' fun j hj => ?_
      rcases Nat.lt_or_eq_of_le (Nat.le_of_lt_succ hj) with hlt | rfl
      · exact hbefore j hlt
      · exact hgoes

/-- Every call ends at the last attempt of its course. -/
theorem execute_isLast (p : RetryPolicy) (clock : Clock σ)
    (attempt : σ → Except Failure α × σ) (s : σ) :
    ∃ last, (p.course clock attempt s).IsLast p last ∧
      p.execute clock attempt s =
        ((p.course clock attempt s).verdict p last, p.after clock attempt s last) := by
  rcases h : p.execute clock attempt s with ⟨outcome, s'⟩
  rcases execute_runs h with ⟨hone, first, hattempt, rfl⟩ | ⟨hmore, hruns⟩
  · refine ⟨0, ⟨fun _ => rfl, fun hmore => absurd hmore (Nat.not_lt.mpr hone)⟩, ?_⟩
    have houtcome : (p.course clock attempt s).outcome 0 = first := outcome_of_attempt hattempt
    have hsleeps : (p.course clock attempt s).sleeps p 0 = false := by
      rw [Course.sleeps, houtcome]
      cases first <;> simp [Nat.not_lt.mpr hone]
    rw [after_of_not_sleeps hattempt hsleeps, Course.verdict, houtcome]
    cases first <;> simp [hone, Except.mapError]
  · obtain ⟨last, hlast, rfl, rfl⟩ := hruns.exists_isLast hmore (k := 0) rfl rfl (by omega)
      (fun _ hj => absurd hj (Nat.not_lt_zero _))
    exact ⟨last, hlast, rfl⟩

section Recorded

variable (p clock attempt s) (log : List (Step α))

/-- Recording a call changes nothing else about it. -/
theorem before_recorded (k : Nat) :
    p.before (clock.recorded α) (recorded attempt) (s, log) k =
      (p.before clock attempt s k, log ++ (List.range k).flatMap fun j =>
        [.attempted ((p.course clock attempt s).outcome j), .slept (p.backoff j)]) := by
  induction k with
  | zero => simp [before]
  | succ k ih =>
      rw [before, ih, List.range_succ, List.flatMap_append, List.flatMap_singleton,
        ← List.append_assoc]
      simp [recorded, Clock.recorded, before, course]

theorem course_recorded :
    p.course (clock.recorded α) (recorded attempt) (s, log) = p.course clock attempt s := by
  rw [course, course]
  congr 1
  · funext k
    rw [before_recorded]
    rfl
  · funext k
    rw [before_recorded]
    rfl

/-- The list of a recorded call that ends at the last attempt of its course. -/
theorem after_recorded {last : Nat} (hlast : (p.course clock attempt s).IsLast p last) :
    p.after (clock.recorded α) (recorded attempt) (s, log) last =
      (p.after clock attempt s last,
        log ++ (List.range (last + 1)).flatMap ((p.course clock attempt s).steps p)) := by
  have hsteps : (List.range last).flatMap ((p.course clock attempt s).steps p) =
      (List.range last).flatMap fun j =>
        [.attempted ((p.course clock attempt s).outcome j), .slept (p.backoff j)] := by
    refine List.flatMap_congr fun j hj => ?_
    rw [Course.steps, if_pos (hlast.sleeps (List.mem_range.mp hj))]
  rw [List.range_succ, List.flatMap_append, List.flatMap_singleton, hsteps, Course.steps, after,
    after, course_recorded]
  split
  · rw [before_recorded, List.range_succ, List.flatMap_append, List.flatMap_singleton]
  · rw [before_recorded, ← List.append_assoc]
    rfl

end Recorded

/-- A recorded call does the same as the call, and lists the steps of its course. -/
theorem execute_recorded (p : RetryPolicy) (clock : Clock σ)
    (attempt : σ → Except Failure α × σ) (s : σ) :
    ∃ last, (p.course clock attempt s).IsLast p last ∧
      (p.execute clock attempt s).1 = (p.course clock attempt s).verdict p last ∧
      p.execute (clock.recorded α) (recorded attempt) (s, []) =
        ((p.execute clock attempt s).1, (p.execute clock attempt s).2,
          (List.range (last + 1)).flatMap ((p.course clock attempt s).steps p)) := by
  obtain ⟨last, hlast, hexecute⟩ := p.execute_isLast clock attempt s
  obtain ⟨last', hlast', hrecorded⟩ :=
    p.execute_isLast (clock.recorded α) (recorded attempt) (s, [])
  rw [course_recorded] at hlast' hrecorded
  obtain rfl := hlast.eq hlast'
  refine ⟨last, hlast, ?_, ?_⟩
  · rw [hexecute]
  · rw [hrecorded, after_recorded _ _ _ _ _ hlast, hexecute, List.nil_append]

/-- A call makes the attempts of its course up to the last one, sleeps behind each of them that
has failed and can be repeated, unless it is the last that is allowed, and answers what comes of
the last one. -/
theorem attempts_until_isLast (p : RetryPolicy) (clock : Clock σ)
    (attempt : σ → Except Failure α × σ) (s : σ) :
    ∃ last, (p.course clock attempt s).IsLast p last ∧
      Course.Answers p ((p.course clock attempt s).outcome last)
        (p.execute clock attempt s).1 ∧
      p.execute (clock.recorded α) (recorded attempt) (s, []) =
        ((p.execute clock attempt s).1, (p.execute clock attempt s).2,
          (List.range (last + 1)).flatMap ((p.course clock attempt s).steps p)) := by
  obtain ⟨last, hlast, hanswer, hrecorded⟩ := p.execute_recorded clock attempt s
  refine ⟨last, hlast, ?_, hrecorded⟩
  rw [hanswer]
  exact Course.answers_verdict _ p last

end RetryPolicy

end VectorClient
