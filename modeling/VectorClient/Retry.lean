import VectorClient.Service

/-!
# Retrying

`RetryPolicy.execute` repeats an attempt until it succeeds, fails in a way that
another attempt cannot mend, or the policy gives up: after `maxTimes` attempts, or
when the time budget is used up. It sleeps after every failed attempt but the
last, first for `initialBackoff` milliseconds and then for `backoffMultiplier`
times as long each time, up to `maxBackoff`.
-/

namespace VectorClient

structure RetryPolicy where
  /-- Attempts in all; a number below two means that there is one. -/
  maxTimes : Nat
  /-- Milliseconds since the first attempt; 0 is no bound. -/
  timeout : Nat
  initialBackoff : Nat
  backoffMultiplier : Nat
  maxBackoff : Nat
  retryRateLimit : Bool
deriving DecidableEq, Repr

namespace RetryPolicy

def standard : RetryPolicy := ⟨75, 0, 10, 3, 3000, true⟩

instance : Inhabited RetryPolicy := ⟨standard⟩

def noRetry : RetryPolicy := { standard with maxTimes := 1 }

/-- Changes to a policy. The three settings of the sleep ignore a zero. -/
inductive Setting where
  | maxTimes (n : Nat)
  | timeout (ms : Nat)
  | initialBackoff (ms : Nat)
  | backoffMultiplier (n : Nat)
  | maxBackoff (ms : Nat)
  | retryRateLimit (b : Bool)
deriving DecidableEq, Repr

def set (p : RetryPolicy) : Setting → RetryPolicy
  | .maxTimes n => { p with maxTimes := n }
  | .timeout ms => { p with timeout := ms }
  | .initialBackoff ms => if 0 < ms then { p with initialBackoff := ms } else p
  | .backoffMultiplier n => if 0 < n then { p with backoffMultiplier := n } else p
  | .maxBackoff ms => if 0 < ms then { p with maxBackoff := ms } else p
  | .retryRateLimit b => { p with retryRateLimit := b }

/-- Durations are counted in 64 bits and stop at the greatest number. -/
def maxMilliseconds : Nat := UInt64.size - 1

/-- The sleep that follows a sleep. -/
def nextBackoff (p : RetryPolicy) (ms : Nat) : Nat :=
  min (min (ms * p.backoffMultiplier) maxMilliseconds) p.maxBackoff

def attemptsExhausted (p : RetryPolicy) (last : Failure) : ClientError :=
  ⟨.timeout, s!"{p.maxTimes} retry times, stop retry, last failure: {last.message}"⟩

def timeExhausted (p : RetryPolicy) (attempts : Nat) (last : Failure) : ClientError :=
  ⟨.timeout,
   s!"retry timeout {p.timeout}ms exceeded after {attempts} attempts, last failure: {last.message}"⟩

/-- The failure of an attempt that is not repeated. -/
def settled {σ α : Type} : Except Failure α × σ → Except ClientError α × σ
  | (.ok a, s) => (.ok a, s)
  | (.error f, s) => (.error f.toError, s)

/-- Attempts up to `left` times more after this one; `backoff` is the next sleep. -/
def executeFrom {σ α : Type} (p : RetryPolicy) (clock : Clock σ)
    (attempt : σ → Except Failure α × σ) (started : Nat) :
    (left backoff : Nat) → σ → Except ClientError α × σ
  | left, backoff, s =>
    match attempt s with
    | (.ok a, s) => (.ok a, s)
    | (.error f, s) =>
      if f.isRetryable p.retryRateLimit then
        match left with
        | 0 => (.error (p.attemptsExhausted f), s)
        | rest + 1 =>
          let s := clock.sleep backoff s
          if 0 < p.timeout ∧ started + p.timeout ≤ clock.uptime s then
            (.error (p.timeExhausted (p.maxTimes - (rest + 1)) f), s)
          else executeFrom p clock attempt started rest (p.nextBackoff backoff) s
      else (.error f.toError, s)

/-- Attempts until success, a failure that cannot be mended, or the end of the policy. -/
def execute {σ α : Type} (p : RetryPolicy) (clock : Clock σ)
    (attempt : σ → Except Failure α × σ) (s : σ) : Except ClientError α × σ :=
  if p.maxTimes ≤ 1 then settled (attempt s)
  else executeFrom p clock attempt (clock.uptime s) (p.maxTimes - 1) p.initialBackoff s

end RetryPolicy

end VectorClient
