import VectorClient.Service

/-!
# Scripted services

A service that gives prepared answers, one per attempt and in order, whatever is
asked. An attempt whose answer is for another kind of request fails, and so does
every attempt after the last answer. Time passes in a script only by sleeping.
-/

namespace VectorClient

inductive ScriptedReply where
  | query (r : QueryReply)
  | search (r : SearchReply)
  | mutate (r : MutationReply)
  | drop
  | fail (f : Failure)

structure Script where
  replies : List ScriptedReply
  /-- Milliseconds slept so far. -/
  slept : Nat

namespace Script

def ofReplies (replies : List ScriptedReply) : Script := ⟨replies, 0⟩

def refusal (code : Int) (reason : String) : Failure := .server ⟨code, .other, reason⟩

def otherKind : Failure := refusal 9998 "scripted reply of another kind"

def exhausted : Failure := refusal 9999 "script exhausted"

/-- The answer that a prepared reply gives to a request. -/
def answer : (r : Request) → ScriptedReply → Except Failure r.Reply
  | _, .fail f => .error f
  | .query _, .query r => .ok r
  | .search _, .search r => .ok r
  | .mutate _, .mutate r => .ok r
  | .drop _, .drop => .ok ()
  | _, _ => .error otherKind

/-- The service of a script, its wall clock standing at the given time. -/
def service (epoch : Nat) : Service Script where
  uptime s := s.slept
  epoch _ := epoch
  sleep ms s := { s with slept := s.slept + ms }
  attempt r _ s :=
    match s.replies with
    | [] => (.error exhausted, s)
    | reply :: rest => (answer r reply, { s with replies := rest })

end Script

end VectorClient
