import VectorClient.Failure
import VectorClient.Request

/-!
# Services

A service answers one attempt of a request at a time and may fail. It lives in a
state of its own kind, in which time passes as well; sleeping is a step of that
state like any other. `Service.logged` adds the list of all attempts to the state.
-/

namespace VectorClient

structure Clock (σ : Type) where
  /-- Milliseconds on a clock that never goes back. -/
  uptime : σ → Nat
  /-- Wall-clock milliseconds since the epoch. -/
  epoch : σ → Nat
  sleep : Nat → σ → σ

structure Service (σ : Type) extends Clock σ where
  /-- One attempt, with the milliseconds it may take. -/
  attempt : (r : Request) → Nat → σ → Except Failure r.Reply × σ

/-- A request as it was sent. -/
structure Sent where
  request : Request
  deadline : Nat

namespace Service

variable {σ : Type}

/-- The same service, its attempts listed from the first to the last. -/
def logged (service : Service σ) : Service (σ × List Sent) where
  uptime s := service.uptime s.1
  epoch s := service.epoch s.1
  sleep ms s := (service.sleep ms s.1, s.2)
  attempt r deadline s :=
    let (reply, state) := service.attempt r deadline s.1
    (reply, state, s.2 ++ [⟨r, deadline⟩])

end Service

end VectorClient
