import VectorClient.Client
import VectorClient.Iteration.Basic

/-!
# Iterating a query by key

Rows come in the order of their primary keys. Every request asks for the rows
behind the last key seen, and all requests read at the timestamp of the first
reply. The offset is skipped page by page before the first batch, without output
fields. Whole batches that a reply holds beyond the one asked for are cached;
what is left of it after them is asked for again.

A reply is taken in by `receive`, which returns the batch and the cursor as it
stands afterwards, also when the batch is an error.
-/

namespace VectorClient

structure RowCursor where
  client : Client
  plan : QueryIteration
  returned : Nat
  /-- The timestamp all requests read at, 0 before the first reply. -/
  sessionTimestamp : Nat
  /-- The last key that was seen. -/
  lastKey : Option PrimaryKey
  cache : ResultSet
  phase : Phase

def QueryIteration.validate (plan : QueryIteration) : Except ClientError Unit := do
  plan.query.options.validate
  Iteration.checkBatchSize plan.batchSize
  Iteration.checkPrimaryKey plan.primaryKey

namespace RowCursor

def ofPlan (client : Client) (plan : QueryIteration) : RowCursor :=
  ⟨client, plan, 0, 0, none, .empty, .initialized⟩

/-- The caller's filter, restricted to the rows behind the last key. -/
def filter (it : RowCursor) : String :=
  match it.lastKey with
  | none => it.plan.query.options.filter
  | some key =>
    Iteration.andFilter it.plan.query.options.filter
      s!"{it.plan.primaryKey.name} > {key.filterLiteral}"

def parameterList (it : RowCursor) (limit : Nat) (iterating : Bool) : List (String × String) :=
  [(Parameter.iterator, Parameter.flag iterating),
    (Parameter.reduceStopForBest, Parameter.flag (iterating && it.plan.reduceStopForBest))]
  ++ (if 0 < it.plan.collectionId then [(Parameter.collectionId, toString it.plan.collectionId)]
      else [])
  ++ [(Parameter.limit, toString limit)]
  ++ (if it.plan.query.ignoreGrowing then [(Parameter.ignoreGrowing, Parameter.flag true)] else [])

def request (it : RowCursor) (writes : WriteLog) (limit : Nat) (iterating : Bool) : QueryRequest :=
  let base := it.plan.query.options.request (it.client.readContext writes)
  { base with
    filter := it.filter
    parameters := .ofList (it.parameterList limit iterating)
    guarantee := if 0 < it.sessionTimestamp then it.sessionTimestamp else base.guarantee }

/-- Asks for rows that are skipped. -/
def seekRequest (it : RowCursor) (writes : WriteLog) (limit : Nat) : QueryRequest :=
  { it.request writes limit false with outputFields := [] }

def keyAt (it : RowCursor) (page : ResultSet) (row : Nat) : Except ClientError PrimaryKey :=
  match page.primaryKeyAt? it.plan.primaryKey.name row with
  | some key => .ok key
  | none =>
    .error ⟨.unknown, s!"primary key '{it.plan.primaryKey.name}' not found in query result"⟩

variable {σ : Type}

/-- Skips `left` rows, or all there are. -/
def seek (service : Service σ) (writes : WriteLog) (left : Nat) (it : RowCursor) (s : σ) :
    Except ClientError RowCursor × σ :=
  if left = 0 then (.ok it, s)
  else
    match it.client.sendQuery service (it.seekRequest writes (min left maxBatchSize)) s with
    | (.error e, s) => (.error e, s)
    | (.ok reply, s) =>
      match reply.results [] with
      | .error e => (.error e, s)
      | .ok page =>
        if min page.rowCount (min left maxBatchSize) = 0 then (.ok it, s)
        else
          match it.keyAt page (min page.rowCount (min left maxBatchSize) - 1) with
          | .error e => (.error e, s)
          | .ok key =>
            seek service writes (left - min page.rowCount (min left maxBatchSize))
              { it with lastKey := some key } s
termination_by left
decreasing_by omega

/-- Pins the timestamp by a first query and skips the offset. With a limit of no rows
nothing is asked. -/
def start (service : Service σ) (writes : WriteLog) (client : Client) (plan : QueryIteration)
    (s : σ) : Except ClientError RowCursor × σ :=
  match plan.validate with
  | .error e => (.error e, s)
  | .ok () =>
    let it := ofPlan client plan
    if plan.query.limit = some 0 then (.ok { it with phase := .exhausted }, s)
    else
      match client.sendQuery service (it.request writes 1 true) s with
      | (.error e, s) => (.error e, s)
      | (.ok reply, s) =>
        let ts := Timestamp.orClock reply.sessionTimestamp (service.epoch s)
        match seek service writes plan.query.offset { it with sessionTimestamp := ts } s with
        | (.error e, s) => (.error (e.inContext "iterator fails to seek"), s)
        | (.ok it, s) => (.ok it, s)

/-- The first batch of the cache. -/
def takeCached (it : RowCursor) : Except ClientError ResultSet × RowCursor :=
  let batch := it.plan.batchSize
  let rows := it.cache.rowCount
  match it.cache.slice 0 batch with
  | .error e => (.error (.ofReply e), it)
  | .ok output =>
    if batch < rows then
      match it.cache.slice batch rows with
      | .error e => (.error (.ofReply e), it)
      | .ok rest => (.ok output, { it with cache := rest })
    else (.ok output, { it with cache := it.cache.emptyLike })

/-- Cuts the first batch off the rows at hand and caches the whole batches behind it. -/
def cutBatch (it : RowCursor) (combined : ResultSet) : Except ClientError ResultSet × RowCursor :=
  let batch := it.plan.batchSize
  let rows := combined.rowCount
  let kept := (rows - batch) / batch * batch
  match it.keyAt combined (batch + kept - 1) with
  | .error e => (.error e, it)
  | .ok key =>
    let it := { it with lastKey := some key }
    match combined.slice 0 batch with
    | .error e => (.error (.ofReply e), it)
    | .ok output =>
      if 0 < kept then
        match combined.slice batch (batch + kept) with
        | .error e => (.error (.ofReply e), it)
        | .ok rest => (.ok output, { it with cache := rest })
      else (.ok output, { it with cache := combined.emptyLike })

/-- Takes in the reply to a request for a batch. The rows left in the cache come first;
from here on they are no longer in it, whatever the outcome. -/
def receive (it : RowCursor) (reply : QueryReply) : Except ClientError ResultSet × RowCursor :=
  match reply.results it.plan.query.options.outputFields with
  | .error e => (.error e, it)
  | .ok page =>
    let cached := it.cache
    let it := { it with cache := .empty }
    match cached.joined page with
    | .error e => (.error (.ofReply e), it)
    | .ok combined =>
      if combined.rowCount = 0 then (.ok combined, it)
      else if combined.rowCount ≤ it.plan.batchSize then
        match it.keyAt combined (combined.rowCount - 1) with
        | .error e => (.error e, it)
        | .ok key => (.ok combined, { it with lastKey := some key })
      else it.cutBatch combined

def fetch (service : Service σ) (writes : WriteLog) (it : RowCursor) (s : σ) :
    Except ClientError ResultSet × RowCursor × σ :=
  match it.client.sendQuery service (it.request writes it.plan.batchSize true) s with
  | (.error e, s) => (.error e, it, s)
  | (.ok reply, s) =>
    let (batch, it) := it.receive reply
    (batch, it, s)

/-- Counts a batch as delivered, cut to the rows still owed. -/
def deliver (it : RowCursor) (batch : ResultSet) : Except ClientError ResultSet × RowCursor :=
  let count := Iteration.capped (Iteration.owed it.plan.query.limit it.returned) batch.rowCount
  let output := if count < batch.rowCount then batch.slice 0 count else .ok batch
  match output with
  | .error e => (.error (.ofReply e), it)
  | .ok output =>
    (.ok output,
      { it with returned := it.returned + output.rowCount, phase := .afterBatch output.rowCount })

/-- The next batch of rows; an empty one once the limit is met or the data ran out. -/
def nextBatch (service : Service σ) (writes : WriteLog) (it : RowCursor) (s : σ) :
    Except ClientError ResultSet × RowCursor × σ :=
  if it.phase = .exhausted ∨ Iteration.owed it.plan.query.limit it.returned = some 0 then
    (.ok it.cache.emptyLike, { it with phase := .exhausted }, s)
  else
    let (batch, it, s) :=
      if it.plan.batchSize ≤ it.cache.rowCount then
        let (batch, it) := it.takeCached
        (batch, it, s)
      else it.fetch service writes s
    match batch with
    | .error e => (.error e, it, s)
    | .ok batch =>
      let (output, it) := it.deliver batch
      (output, it, s)

/-- The next batch, nothing after the last one or after an error. -/
def next (service : Service σ) (writes : WriteLog) (it : RowCursor) (s : σ) :
    Option (Except ClientError ResultSet) × RowCursor × σ :=
  if it.phase = .exhausted then (none, it, s)
  else Iteration.handOut ResultSet.isEmpty (fun it => { it with phase := .exhausted })
    (it.nextBatch service writes s)

end RowCursor

end VectorClient
