import VectorClient.Retry

/-!
# The stages of a call

A call checks its request, and may adjust it, sends it until the policy is
satisfied, and reads the reply. A request that is refused is never sent.
-/

namespace VectorClient

/-- What all calls of a client share. -/
structure Pipeline where
  policy : RetryPolicy
  /-- Milliseconds for every attempt. -/
  deadline : Nat

namespace Pipeline

def run {σ ρ α β : Type} (p : Pipeline) (clock : Clock σ)
    (validate : ρ → Except ClientError ρ)
    (transport : ρ → Nat → σ → Except Failure α × σ)
    (finalize : α → Except ClientError β) (request : ρ) (s : σ) : Except ClientError β × σ :=
  match validate request with
  | .error e => (.error e, s)
  | .ok request =>
    match p.policy.execute clock (transport request p.deadline) s with
    | (.error e, s) => (.error e, s)
    | (.ok reply, s) => (finalize reply, s)

end Pipeline

end VectorClient
