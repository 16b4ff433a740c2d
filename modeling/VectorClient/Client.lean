import VectorClient.Pipeline
import VectorClient.Read.Reply
import VectorClient.Read.Request

/-!
# Clients

A client holds the database it works in, the time that an attempt may take and the
policy by which calls are retried. The log of writes is kept beside it, because
clients can share one: reads look at the log, and every operation that can change
it returns the new one. A write is recorded when it has succeeded, in the database
that is current then.
-/

namespace VectorClient

structure Client where
  database : String
  /-- Milliseconds for every attempt. -/
  deadline : Nat
  retry : RetryPolicy
deriving DecidableEq, Repr

namespace Client

/-- A client of the default database, with a minute for every attempt. -/
def standard : Client := ⟨"default", 60000, .standard⟩

instance : Inhabited Client := ⟨standard⟩

def pipeline (c : Client) : Pipeline := ⟨c.retry, c.deadline⟩

def readContext (c : Client) (writes : WriteLog) : ReadContext := ⟨c.database, writes⟩

variable {σ : Type}

def sendQuery (c : Client) (service : Service σ) (r : QueryRequest) (s : σ) :
    Except ClientError QueryReply × σ :=
  c.pipeline.run service.toClock .ok (fun r => service.attempt (.query r)) .ok r s

def sendSearch (c : Client) (service : Service σ) (r : SearchRequest) (s : σ) :
    Except ClientError SearchReply × σ :=
  c.pipeline.run service.toClock .ok (fun r => service.attempt (.search r)) .ok r s

def query (c : Client) (service : Service σ) (writes : WriteLog) (args : QueryArguments) (s : σ) :
    Except ClientError ResultSet × σ :=
  match args.options.validate with
  | .error e => (.error e, s)
  | .ok () =>
    match c.sendQuery service (args.request (c.readContext writes)) s with
    | (.error e, s) => (.error e, s)
    | (.ok reply, s) => (reply.results args.options.outputFields, s)

/-- One page of hits per target vector. -/
def search (c : Client) (service : Service σ) (writes : WriteLog) (args : SearchArguments) (s : σ) :
    Except ClientError (List HitPage) × σ :=
  match args.options.validate with
  | .error e => (.error e, s)
  | .ok () =>
    match args.request (c.readContext writes) with
    | .error e => (.error e, s)
    | .ok request =>
      match c.sendSearch service request s with
      | (.error e, s) => (.error e, s)
      | (.ok reply, s) => (reply.hits.pages "" args.options.outputFields, s)

/-- A collection is named; a deletion has a filter; what is written has columns, all
with the same number of rows. -/
def validateMutation (r : MutationRequest) : Except ClientError MutationRequest :=
  if r.collection.isEmpty then .error ⟨.invalidArgument, "collection name must not be empty"⟩
  else match r.kind with
    | .delete =>
      if Text.isBlank r.filter then
        .error ⟨.invalidArgument, "delete requires a filter expression"⟩
      else .ok r
    | .insert | .upsert =>
      match r.columns with
      | [] => .error ⟨.invalidArgument, "no columns to write"⟩
      | first :: _ =>
        match Column.ragged? first.rowCount r.columns with
        | some c =>
          .error ⟨.invalidArgument,
            s!"column '{c.name}' holds {c.rowCount} rows, expected {first.rowCount}"⟩
        | none => .ok r

def mutate (c : Client) (service : Service σ) (writes : WriteLog) (collection : String)
    (kind : MutationKind) (columns : List Column) (filter : String) (s : σ) :
    Except ClientError MutationReply × WriteLog × σ :=
  let request : MutationRequest := ⟨c.database, collection, "", kind, columns, filter⟩
  match c.pipeline.run service.toClock validateMutation (fun r => service.attempt (.mutate r))
      .ok request s with
  | (.error e, s) => (.error e, writes, s)
  | (.ok reply, s) => (.ok reply, writes.record ⟨c.database, collection⟩ reply.timestamp, s)

def insert (c : Client) (service : Service σ) (writes : WriteLog) (collection : String)
    (columns : List Column) (s : σ) : Except ClientError MutationReply × WriteLog × σ :=
  c.mutate service writes collection .insert columns "" s

def upsert (c : Client) (service : Service σ) (writes : WriteLog) (collection : String)
    (columns : List Column) (s : σ) : Except ClientError MutationReply × WriteLog × σ :=
  c.mutate service writes collection .upsert columns "" s

def delete (c : Client) (service : Service σ) (writes : WriteLog) (collection filter : String)
    (s : σ) : Except ClientError MutationReply × WriteLog × σ :=
  c.mutate service writes collection .delete [] filter s

def validateDrop (r : DropRequest) : Except ClientError DropRequest :=
  if r.collection.isEmpty then .error ⟨.invalidArgument, "collection name must not be empty"⟩
  else .ok r

/-- Drops a collection and forgets its writes. -/
def dropCollection (c : Client) (service : Service σ) (writes : WriteLog) (collection : String)
    (s : σ) : Except ClientError Unit × WriteLog × σ :=
  match c.pipeline.run service.toClock validateDrop (fun r => service.attempt (.drop r))
      .ok ⟨c.database, collection⟩ s with
  | (.error e, s) => (.error e, writes, s)
  | (.ok (), s) => (.ok (), writes.forget ⟨c.database, collection⟩, s)

/-- Switches to another database. The log of writes is cleared, for whoever shares it. -/
def useDatabase (c : Client) (database : String) : Client × WriteLog :=
  ({ c with database }, .empty)

end Client

end VectorClient
