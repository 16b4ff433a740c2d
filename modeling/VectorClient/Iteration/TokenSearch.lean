import VectorClient.Iteration.SearchPlan
import VectorClient.PageCache

/-!
# Iterating a search by continuation tokens

The server gives out a token with its first page. Every later request carries that
token and the score bound of the page before it. A first search for a single row
only finds out whether the server gives out tokens; the iteration itself begins
anew after it.
-/

namespace VectorClient

structure TokenSearch where
  client : Client
  plan : SearchIteration
  /-- What every request carries besides the search: the marks of the iteration, and
  how it goes on. -/
  parameters : Dict String
  returned : Nat
  /-- The timestamp all requests read at, 0 before the first page. -/
  sessionTimestamp : Nat
  cache : List HitPage
  /-- Gives the names to empty batches. -/
  template : HitPage
  phase : Phase

namespace TokenSearch

def initialParameters (plan : SearchIteration) : Dict String :=
  .ofList ([(Parameter.iterator, Parameter.flag true),
    (Parameter.tokenSearch, Parameter.flag true),
    (Parameter.tokenBatchSize, toString plan.batchSize)] ++ plan.collectionIdParameters)

def ofPlan (client : Client) (plan : SearchIteration) : TokenSearch :=
  { client
    plan
    parameters := initialParameters plan
    returned := 0
    sessionTimestamp := 0
    cache := []
    template :=
      ⟨plan.primaryKey.name, defaultScoreName, [], .ofList plan.search.options.outputFields⟩
    phase := .initialized }

def request (it : TokenSearch) (writes : WriteLog) (rows : Nat) (parameters : Dict String) :
    Except ClientError SearchRequest :=
  match ({ it.plan.search with limit := rows }).request (it.client.readContext writes) with
  | .error e => .error e
  | .ok r =>
    .ok { r with
      parameters := r.parameters.insertAll parameters
      guarantee := if 0 < it.sessionTimestamp then it.sessionTimestamp else r.guarantee }

/-- How the search goes on, if the server says so. -/
def continuation (hits : SearchHits) : Except ClientError Continuation :=
  let refused : ClientError := ⟨.notSupported,
    "the server does not issue search iterator tokens, use range probing instead"⟩
  match hits.continuation with
  | none => .error refused
  | some c => if c.token.isEmpty then .error refused else .ok c

/-- Keeps the token that the iteration began with and takes over the bound. -/
def advance (it : TokenSearch) (c : Continuation) : TokenSearch :=
  let bound := it.parameters.insert Parameter.tokenLastBound
    (SearchArguments.boundText (c.lastBound.convert .binary64))
  { it with parameters :=
      if (bound.get? Parameter.token).isNone then bound.insert Parameter.token c.token else bound }

/-- The page of the only target. -/
def onlyPage (it : TokenSearch) (hits : SearchHits) : Except ClientError HitPage :=
  match hits.pages it.plan.primaryKey.name it.plan.search.options.outputFields with
  | .error e => .error e
  | .ok [page] => .ok page
  | .ok pages =>
    .error ⟨.unknown, s!"expected one search result, the server returned {pages.length}"⟩

/-- Takes in a reply. The iteration has moved on already when the page is looked at. -/
def receive (it : TokenSearch) (hits : SearchHits) : Except ClientError HitPage × TokenSearch :=
  match continuation hits with
  | .error e => (.error e, it)
  | .ok c => (it.onlyPage hits, it.advance c)

variable {σ : Type}

def nextPage (service : Service σ) (writes : WriteLog) (it : TokenSearch) (s : σ) :
    Except ClientError HitPage × TokenSearch × σ :=
  match it.request writes it.plan.batchSize it.parameters with
  | .error e => (.error e, it, s)
  | .ok r =>
    match it.client.sendSearch service r s with
    | (.error e, s) => (.error e, it, s)
    | (.ok reply, s) =>
      let it :=
        if it.sessionTimestamp = 0 then
          { it with sessionTimestamp := Timestamp.orClock reply.sessionTimestamp (service.epoch s) }
        else it
      let (page, it) := it.receive reply.hits
      (page, it, s)

/-- Asks for a single row, to see whether there is a token. -/
def probe (service : Service σ) (writes : WriteLog) (it : TokenSearch) (s : σ) :
    Except ClientError Unit × σ :=
  match it.request writes 1 (it.parameters.insert Parameter.tokenBatchSize "1") with
  | .error e => (.error e, s)
  | .ok r =>
    match it.client.sendSearch service r s with
    | (.error e, s) => (.error e, s)
    | (.ok reply, s) => ((continuation reply.hits).map fun _ => (), s)

def start (service : Service σ) (writes : WriteLog) (client : Client) (plan : SearchIteration)
    (s : σ) : Except ClientError TokenSearch × σ :=
  match plan.validate with
  | .error e => (.error e, s)
  | .ok () =>
    let it := ofPlan client plan
    match it.probe service writes s with
    | (.error e, s) => (.error (e.inContext "failed to init search iterator"), s)
    | (.ok (), s) => (.ok it, s)

/-- Asks for pages until `wanted` rows are cached or the server has no more. Every page
has a row at least, so no more than `wanted` pages are needed. -/
def fill (service : Service σ) (writes : WriteLog) (wanted : Nat) :
    (left : Nat) → TokenSearch → σ → Except ClientError Unit × TokenSearch × σ
  | 0, it, s => (.ok (), it, s)
  | left + 1, it, s =>
    if wanted ≤ PageCache.rowCount it.cache then (.ok (), it, s)
    else
      match it.nextPage service writes s with
      | (.error e, it, s) => (.error e, it, s)
      | (.ok page, it, s) =>
        if page.isEmpty then (.ok (), it, s)
        else fill service writes wanted left { it with cache := it.cache ++ [page] } s

/-- Takes a batch from the cache and counts it as delivered. -/
def deliver (it : TokenSearch) (wanted : Nat) : Except ClientError HitPage × TokenSearch :=
  let (page, cache) := PageCache.take it.cache wanted it.template
  let it := { it with cache }
  match page with
  | .error e => (.error e, it)
  | .ok page =>
    (.ok page,
      { it with returned := it.returned + page.rowCount, phase := .afterBatch page.rowCount })

/-- The next batch of hits; an empty one once the limit is met or the server has no more. -/
def nextBatch (service : Service σ) (writes : WriteLog) (it : TokenSearch) (s : σ) :
    Except ClientError HitPage × TokenSearch × σ :=
  let owed := Iteration.owed it.plan.limit it.returned
  if it.phase = .exhausted ∨ owed = some 0 then
    (.ok it.template.emptyLike, { it with phase := .exhausted }, s)
  else
    let wanted := Iteration.capped owed it.plan.batchSize
    match it.fill service writes wanted wanted s with
    | (.error e, it, s) => (.error e, it, s)
    | (.ok (), it, s) =>
      let (page, it) := it.deliver wanted
      (page, it, s)

/-- The next batch, nothing after the last one or after an error. -/
def next (service : Service σ) (writes : WriteLog) (it : TokenSearch) (s : σ) :
    Option (Except ClientError HitPage) × TokenSearch × σ :=
  if it.phase = .exhausted then (none, it, s)
  else Iteration.handOut HitPage.isEmpty (fun it => { it with phase := .exhausted })
    (it.nextBatch service writes s)

end TokenSearch

end VectorClient
