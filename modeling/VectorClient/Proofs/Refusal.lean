import VectorClient.PageCache
import VectorClient.Proofs.Operation

/-!
# Refused arguments

An error of the kind `invalidArgument` tells callers that their arguments were refused and
that nothing has happened. Such errors come from the checks in front of a request. Whatever
is done with a request or a reply is blameless: attempts fail in kinds of their own, and a
data error that a reply causes is the server's. So an operation that is refused leaves
everything as it was.
-/

namespace VectorClient

/-- The caller is not to blame: there is a result, or an error of another kind. -/
def Blameless {α : Type} (outcome : Except ClientError α) : Prop :=
  ∀ e, outcome = .error e → e.kind ≠ .invalidArgument

namespace Blameless

variable {α β : Type} {e : ClientError}

@[simp] theorem ok (a : α) : Blameless (.ok a) := nofun

@[simp] theorem error_iff :
    Blameless (.error e : Except ClientError α) ↔ e.kind ≠ .invalidArgument := by
  constructor
  · intro h
    exact h e rfl
  · intro h e' he'
    cases he'
    exact h

instance (outcome : Except ClientError α) : Decidable (Blameless outcome) :=
  match outcome with
  | .ok a => isTrue (ok a)
  | .error _ => decidable_of_iff _ error_iff.symm

theorem exists_of_not {τ : Type} (step : Except ClientError α × τ) (h : ¬ Blameless step.1) :
    ∃ e t, step = (.error e, t) ∧ e.kind = .invalidArgument := by
  rcases step with ⟨e | a, t⟩
  · exact ⟨e, t, rfl, not_not.mp (error_iff.not.mp h)⟩
  · exact absurd (ok a) h

theorem ofReply (e : DataError) : Blameless (.error (.ofReply e) : Except ClientError α) :=
  error_iff.mpr nofun

/-- An error that is passed on. -/
theorem failed {x : Except ClientError α} (hx : Blameless x) (h : x = .error e) :
    Blameless (.error e : Except ClientError β) :=
  error_iff.mpr (hx e h)

theorem map {x : Except ClientError α} (hx : Blameless x) (f : α → β) : Blameless (x.map f) := by
  cases x with
  | error e => exact hx.failed rfl
  | ok a => exact .ok _

theorem of_eq {τ : Type} {step : Except ClientError α × τ} {outcome : Except ClientError α} {t : τ}
    (hstep : Blameless step.1) (h : step = (outcome, t)) : Blameless outcome := by
  rw [h] at hstep
  exact hstep

end Blameless

theorem Failure.kind_toError (f : Failure) : f.toError.kind ≠ .invalidArgument := by
  cases f with
  | transport code message =>
      rw [toError]
      split <;> exact nofun
  | server status =>
      rw [toError]
      split <;> exact nofun

section Calls

variable {σ : Type} {service : Service σ}

namespace RetryPolicy

variable {α : Type} (p : RetryPolicy) (clock : Clock σ) (attempt : σ → Except Failure α × σ)

theorem Runs.blameless {p : RetryPolicy} {clock : Clock σ} {attempt : σ → Except Failure α × σ}
    {started left backoff : Nat} {s s' : σ} {outcome : Except ClientError α}
    (h : p.Runs clock attempt started left backoff s outcome s') : Blameless outcome := by
  induction h with
  | reply => exact .ok _
  | terminal => exact Blameless.error_iff.mpr (Failure.kind_toError _)
  | lastAttempt => simp [attemptsExhausted]
  | timeIsUp => simp [timeExhausted]
  | again _ _ _ _ ih => exact ih

/-- However a call fails, its request was not refused. -/
theorem blameless_execute (s : σ) : Blameless (p.execute clock attempt s).1 := by
  rcases h : p.execute clock attempt s with ⟨outcome, s'⟩
  rcases execute_runs h with ⟨_, first, _, rfl⟩ | ⟨_, hruns⟩
  · cases first with
    | ok a => exact .ok a
    | error f => exact Blameless.error_iff.mpr f.kind_toError
  · exact hruns.blameless

end RetryPolicy

/-- A call that reads every reply is blamed on nobody but the check of its request. -/
theorem Pipeline.refused_of_run {ρ α : Type} {p : Pipeline} {clock : Clock σ}
    {validate : ρ → Except ClientError ρ} {transport : ρ → Nat → σ → Except Failure α × σ}
    {request : ρ} {e : ClientError} {s s' : σ}
    (h : p.run clock validate transport .ok request s = (.error e, s'))
    (he : e.kind = .invalidArgument) : s' = s := by
  rcases run_cases h with ⟨_, _, _, rfl⟩ | ⟨r, _, _, hfailed, hexecute⟩ | ⟨_, _, _, hread, _⟩
  · rfl
  · cases hfailed
    exact absurd he ((p.policy.blameless_execute clock _ s).of_eq hexecute e rfl)
  · cases hread

namespace Client

theorem blameless_sendQuery (c : Client) (service : Service σ) (r : QueryRequest) (s : σ) :
    Blameless (c.sendQuery service r s).1 := by
  rw [sendQuery_eq]
  exact c.retry.blameless_execute _ _ s

theorem blameless_sendSearch (c : Client) (service : Service σ) (r : SearchRequest) (s : σ) :
    Blameless (c.sendSearch service r s).1 := by
  rw [sendSearch_eq]
  exact c.retry.blameless_execute _ _ s

end Client

end Calls

section Replies

theorem QueryReply.blameless_results (reply : QueryReply) (requested : List String) :
    Blameless (reply.results requested) := by
  rw [results]
  split
  · exact .ok _
  · exact .ofReply _

namespace SearchHits

variable (hits : SearchHits) (keyName : String)

theorem blameless_checkRows : Blameless hits.checkRows := by
  rw [checkRows]
  split
  · simp
  split
  · simp [wrongCounts]
  split
  · simp
  · exact .ok _

theorem blameless_page (names : List String) (start stop : Nat) :
    Blameless (hits.page keyName names start stop) := by
  rw [page]
  split
  · simp
  dsimp only
  split
  · exact .ofReply _
  split
  · exact .ofReply _
  · exact .ok _

/-- By induction on the targets. -/
theorem blameless_pagesFrom (names : List String) (start : Nat) (topks : List Nat) :
    Blameless (hits.pagesFrom keyName names start topks) := by
  induction topks generalizing start with
  | nil => exact .ok _
  | cons topk rest ih =>
      rw [pagesFrom]
      split
      · rename_i hpage
        exact (hits.blameless_page keyName names _ _).failed hpage
      split
      · rename_i hrest
        exact (ih _).failed hrest
      · exact .ok _

theorem blameless_pages (requested : List String) : Blameless (hits.pages keyName requested) := by
  rw [pages]
  split
  · rename_i hrows
    exact hits.blameless_checkRows.failed hrows
  · exact hits.blameless_pagesFrom _ _ _ _

end SearchHits

namespace PageCache

/-- Cutting and joining pages that were received is never the caller's fault, by induction on
the pages. -/
theorem blameless_takeInto (output : HitPage) (wanted : Nat) (pages : List HitPage) :
    Blameless (takeInto output wanted pages).1 := by
  fun_induction takeInto output wanted pages with
  | case1 => exact .ok _
  | case2 => exact .ok _
  | case3 _ _ _ _ _ _ ih => exact ih
  | case4 => exact .ofReply _
  | case5 _ _ _ _ _ _ _ _ _ ih => exact ih
  | case6 => exact .ofReply _
  | case7 => exact .ofReply _
  | case8 => exact .ok _

theorem blameless_take (pages : List HitPage) (count : Nat) (template : HitPage) :
    Blameless (take pages count template).1 :=
  blameless_takeInto _ _ pages

end PageCache

end Replies

namespace Client

variable {σ : Type} {c : Client} {service : Service σ} {writes writes' : WriteLog} {s s' : σ}
variable {e : ClientError}

theorem query_refused {args : QueryArguments} (h : c.query service writes args s = (.error e, s'))
    (he : e.kind = .invalidArgument) : s' = s := by
  rw [query] at h
  split at h
  · cases h
    rfl
  split at h
  · rename_i hsend
    cases h
    exact absurd he ((c.blameless_sendQuery service _ s).of_eq hsend e rfl)
  · rename_i reply s₁ _
    exact absurd he (reply.blameless_results _ e (Prod.mk.inj h).1)

theorem search_refused {args : SearchArguments}
    (h : c.search service writes args s = (.error e, s')) (he : e.kind = .invalidArgument) :
    s' = s := by
  rw [search] at h
  split at h
  · cases h
    rfl
  split at h
  · cases h
    rfl
  split at h
  · rename_i hsend
    cases h
    exact absurd he ((c.blameless_sendSearch service _ s).of_eq hsend e rfl)
  · rename_i reply s₁ _
    exact absurd he (reply.hits.blameless_pages _ _ e (Prod.mk.inj h).1)

theorem mutate_refused {collection : String} {kind : MutationKind} {columns : List Column}
    {filter : String}
    (h : c.mutate service writes collection kind columns filter s = (.error e, writes', s'))
    (he : e.kind = .invalidArgument) : writes' = writes ∧ s' = s := by
  rw [mutate] at h
  split at h
  · rename_i hrun
    cases h
    exact ⟨rfl, Pipeline.refused_of_run hrun he⟩
  · cases h

theorem dropCollection_refused {collection : String}
    (h : c.dropCollection service writes collection s = (.error e, writes', s'))
    (he : e.kind = .invalidArgument) : writes' = writes ∧ s' = s := by
  rw [dropCollection] at h
  split at h
  · rename_i hrun
    cases h
    exact ⟨rfl, Pipeline.refused_of_run hrun he⟩
  · cases h

end Client

/-- The error that an operation has ended with. -/
def Answer.error? : Answer → Option ClientError
  | written (.error e) | dropped (.error e) | rows (.error e) | pages (.error e) => some e
  | _ => none

/-- An operation that is refused leaves everything as it was: the client, the log of writes and
the service. -/
theorem Client.perform_refused {σ : Type} {c c' : Client} {service : Service σ}
    {writes writes' : WriteLog} {op : Operation} {s s' : σ} {answer : Answer} {e : ClientError}
    (h : c.perform service writes op s = (answer, c', writes', s'))
    (hanswer : answer.error? = some e) (he : e.kind = .invalidArgument) :
    c' = c ∧ writes' = writes ∧ s' = s := by
  cases op with
  | insert collection columns =>
      rcases hrun : c.insert service writes collection columns s with ⟨_ | _, writes₁, s₁⟩ <;>
        (rw [perform, hrun] at h; cases h; cases hanswer)
      exact ⟨rfl, mutate_refused hrun he⟩
  | upsert collection columns =>
      rcases hrun : c.upsert service writes collection columns s with ⟨_ | _, writes₁, s₁⟩ <;>
        (rw [perform, hrun] at h; cases h; cases hanswer)
      exact ⟨rfl, mutate_refused hrun he⟩
  | delete collection filter =>
      rcases hrun : c.delete service writes collection filter s with ⟨_ | _, writes₁, s₁⟩ <;>
        (rw [perform, hrun] at h; cases h; cases hanswer)
      exact ⟨rfl, mutate_refused hrun he⟩
  | dropCollection collection =>
      rcases hrun : c.dropCollection service writes collection s with ⟨_ | _, writes₁, s₁⟩ <;>
        (rw [perform, hrun] at h; cases h; cases hanswer)
      exact ⟨rfl, dropCollection_refused hrun he⟩
  | useDatabase database =>
      cases h
      cases hanswer
  | query args =>
      rcases hrun : c.query service writes args s with ⟨_ | _, s₁⟩ <;>
        (rw [perform, hrun] at h; cases h; cases hanswer)
      exact ⟨rfl, rfl, query_refused hrun he⟩
  | search args =>
      rcases hrun : c.search service writes args s with ⟨_ | _, s₁⟩ <;>
        (rw [perform, hrun] at h; cases h; cases hanswer)
      exact ⟨rfl, rfl, search_refused hrun he⟩

end VectorClient
