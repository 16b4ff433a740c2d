import VectorClient.Proofs.Attempts
import VectorClient.Proofs.SearchParameters

/-!
# Operations of a client

An operation is refused, or it is one call for one request that carries the client's
database. A write and a drop change the log of writes if the service has confirmed them, and
leave it alone otherwise; reads never touch it.
-/

namespace VectorClient

/-- An operation of a client that begins and ends before another one does. -/
inductive Operation where
  | insert (collection : String) (columns : List Column)
  | upsert (collection : String) (columns : List Column)
  | delete (collection filter : String)
  | dropCollection (collection : String)
  | useDatabase (database : String)
  | query (args : QueryArguments)
  | search (args : SearchArguments)

namespace Operation

/-- The collection that is written or dropped. -/
def changed? : Operation → Option String
  | insert collection _ | upsert collection _ | delete collection _ | dropCollection collection =>
    some collection
  | useDatabase _ | query _ | search _ => none

/-- The database that a client switches to. -/
def switched? : Operation → Option String
  | useDatabase database => some database
  | _ => none

/-- What a read is asked for. -/
def options? : Operation → Option ReadOptions
  | query args => some args.options
  | search args => some args.options
  | _ => none

theorem switched?_of_options? {op : Operation} {options : ReadOptions}
    (h : op.options? = some options) : op.switched? = none := by
  cases op <;> first | rfl | cases h

end Operation

inductive Answer where
  | written (outcome : Except ClientError MutationReply)
  | dropped (outcome : Except ClientError Unit)
  | switched
  | rows (outcome : Except ClientError ResultSet)
  | pages (outcome : Except ClientError (List HitPage))

namespace Answer

/-- Whether the operation was rejected or has failed. -/
def Failed : Answer → Prop
  | written (.error _) | dropped (.error _) | rows (.error _) | pages (.error _) => True
  | _ => False

def IsRead : Answer → Prop
  | rows _ | pages _ => True
  | _ => False

end Answer

/-- Carries out an operation. Only a switch changes the client itself. -/
def Client.perform {σ : Type} (c : Client) (service : Service σ) (writes : WriteLog)
    (op : Operation) (s : σ) : Answer × Client × WriteLog × σ :=
  match op with
  | .insert collection columns =>
    let (outcome, writes, s) := c.insert service writes collection columns s
    (.written outcome, c, writes, s)
  | .upsert collection columns =>
    let (outcome, writes, s) := c.upsert service writes collection columns s
    (.written outcome, c, writes, s)
  | .delete collection filter =>
    let (outcome, writes, s) := c.delete service writes collection filter s
    (.written outcome, c, writes, s)
  | .dropCollection collection =>
    let (outcome, writes, s) := c.dropCollection service writes collection s
    (.dropped outcome, c, writes, s)
  | .useDatabase database =>
    let (c, writes) := c.useDatabase database
    (.switched, c, writes, s)
  | .query args =>
    let (outcome, s) := c.query service writes args s
    (.rows outcome, c, writes, s)
  | .search args =>
    let (outcome, s) := c.search service writes args s
    (.pages outcome, c, writes, s)

namespace Client

variable {σ : Type} {c : Client} {service : Service σ} {writes writes' : WriteLog}

theorem validateMutation_ok {r r' : MutationRequest} (h : validateMutation r = .ok r') :
    r' = r := by
  rw [validateMutation] at h
  split at h
  · cases h
  split at h
  · split at h <;> cases h
    rfl
  all_goals
    split at h
    · cases h
    · split at h <;> cases h
      rfl

theorem validateDrop_ok {r r' : DropRequest} (h : validateDrop r = .ok r') : r' = r := by
  rw [validateDrop] at h
  split at h <;> cases h
  rfl

/-- A write is recorded if it succeeds, in the client's database. -/
theorem mutate_cases {collection : String} {kind : MutationKind} {columns : List Column}
    {filter : String} {s s' : σ} {outcome : Except ClientError MutationReply}
    (h : c.mutate service writes collection kind columns filter s = (outcome, writes', s')) :
    (∃ e, outcome = .error e ∧ writes' = writes) ∨
      ∃ reply, outcome = .ok reply ∧
        writes' = writes.record ⟨c.database, collection⟩ reply.timestamp := by
  simp only [mutate] at h
  split at h <;> cases h
  · exact .inl ⟨_, rfl, rfl⟩
  · exact .inr ⟨_, rfl, rfl⟩

theorem dropCollection_cases {collection : String} {s s' : σ} {outcome : Except ClientError Unit}
    (h : c.dropCollection service writes collection s = (outcome, writes', s')) :
    (∃ e, outcome = .error e ∧ writes' = writes) ∨
      (outcome = .ok () ∧ writes' = writes.forget ⟨c.database, collection⟩) := by
  simp only [dropCollection] at h
  split at h <;> cases h
  · exact .inl ⟨_, rfl, rfl⟩
  · exact .inr ⟨rfl, rfl⟩

section Traced

variable {s s' : σ × List Attempt}

/-- A write is refused, or it is a call for a request with the client's database. -/
theorem mutate_called {collection : String} {kind : MutationKind} {columns : List Column}
    {filter : String} {outcome : Except ClientError MutationReply}
    (h : c.mutate service.traced writes collection kind columns filter s = (outcome, writes', s')) :
    (s' = s ∧ ∃ e, outcome = .error e) ∨
      service.Called (.mutate ⟨c.database, collection, "", kind, columns, filter⟩) c.deadline s
        outcome s' := by
  simp only [mutate] at h
  split at h <;> (rename_i hrun; cases h)
  all_goals
    rcases Pipeline.run_called (fun _ => validateMutation_ok) hrun with hrefused | hexecute
    · exact .inl hrefused
    · exact .inr (RetryPolicy.execute_traced hexecute)

theorem dropCollection_called {collection : String} {outcome : Except ClientError Unit}
    (h : c.dropCollection service.traced writes collection s = (outcome, writes', s')) :
    (s' = s ∧ ∃ e, outcome = .error e) ∨
      service.Called (.drop ⟨c.database, collection⟩) c.deadline s outcome s' := by
  simp only [dropCollection] at h
  split at h <;> (rename_i hrun; cases h)
  all_goals
    rcases Pipeline.run_called (fun _ => validateDrop_ok) hrun with hrefused | hexecute
    · exact .inl hrefused
    · exact .inr (RetryPolicy.execute_traced hexecute)

/-- A read is refused, or it is a call for a request that looks at the log. It can fail after
it was answered. -/
theorem query_called {args : QueryArguments} {outcome : Except ClientError ResultSet}
    (h : c.query service.traced writes args s = (outcome, s')) :
    (s' = s ∧ ∃ e, outcome = .error e) ∨
      ∃ called, service.Called (.query (args.request (c.readContext writes))) c.deadline s called
          s' ∧ ((∃ e, called = .error e) → ∃ e, outcome = .error e) := by
  rw [query] at h
  cases hvalid : args.options.validate with
  | error e =>
      rw [hvalid] at h
      cases h
      exact .inl ⟨rfl, _, rfl⟩
  | ok =>
      rcases hsend : c.sendQuery service.traced (args.request (c.readContext writes)) s with
        ⟨called, s₁⟩
      refine .inr ⟨called, ?_⟩
      have hcalled := sendQuery_traced hsend
      rw [hvalid, hsend] at h
      cases called with
      | error e =>
          cases h
          exact ⟨hcalled, fun _ => ⟨_, rfl⟩⟩
      | ok reply =>
          cases h
          exact ⟨hcalled, nofun⟩

theorem search_called {args : SearchArguments} {outcome : Except ClientError (List HitPage)}
    (h : c.search service.traced writes args s = (outcome, s')) :
    (s' = s ∧ ∃ e, outcome = .error e) ∨
      ∃ r called, args.request (c.readContext writes) = .ok r ∧
        service.Called (.search r) c.deadline s called s' ∧
        ((∃ e, called = .error e) → ∃ e, outcome = .error e) := by
  rw [search] at h
  cases hvalid : args.options.validate with
  | error e =>
      rw [hvalid] at h
      cases h
      exact .inl ⟨rfl, _, rfl⟩
  | ok =>
      cases hrequest : args.request (c.readContext writes) with
      | error e =>
          rw [hvalid, hrequest] at h
          cases h
          exact .inl ⟨rfl, _, rfl⟩
      | ok r =>
          rcases hsend : c.sendSearch service.traced r s with ⟨called, s₁⟩
          refine .inr ⟨r, called, rfl, ?_⟩
          have hcalled := sendSearch_traced hsend
          rw [hvalid, hrequest] at h
          simp only [hsend] at h
          cases called with
          | error e =>
              cases h
              exact ⟨hcalled, fun _ => ⟨_, rfl⟩⟩
          | ok reply =>
              cases h
              exact ⟨hcalled, nofun⟩

end Traced

end Client

end VectorClient
