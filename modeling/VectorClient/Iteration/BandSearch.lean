import VectorClient.Ieee.Arithmetic
import VectorClient.Iteration.SearchPlan
import VectorClient.PageCache

/-!
# Iterating a search by score bands

Every probe searches the band of scores that begins at the last score seen, the
tail. The far end of the band is the width times a factor that grows with every
probe of a batch, unless the caller's own radius comes first. Hits with the score
of the tail are excluded by their keys, because the band includes them again.

The width is the spread of the scores of a page. It starts from the first page,
grows with wider ones, and is set anew by every full batch.
-/

namespace VectorClient

open Ieee

structure BandSearch where
  client : Client
  plan : SearchIteration
  metric : Metric
  returned : Nat
  /-- The timestamp all requests read at, 0 before the first reply. -/
  sessionTimestamp : Nat
  width : Binary64
  /-- The score of the last hit that was received. -/
  tail : Binary64
  /-- The keys of the hits with that score. -/
  tied : List PrimaryKey
  cache : List HitPage
  /-- Gives the names to empty batches. -/
  template : HitPage
  phase : Phase

namespace BandSearch

/-- Probes for one batch at most. -/
def maxProbes : Nat := 20

/-- Keys that may share one score at most. -/
def maxTied : Nat := 100000

/-- A probe asks for this many times the rows of a batch. -/
def probeExtension : Nat := 10

/-- The width where a page has no spread: `0.05`, rounded. -/
def minWidth : Binary64 := Word.ofNat 0x3FA999999999999A

/-- The relative difference up to which scores count as equal: `2 ^ -23`. -/
def scoreTolerance : Binary64 := Word.ofNat 0x3E80000000000000

def one : Binary64 := Word.ofInt 1

def scoresEqual (a b : Binary64) : Bool :=
  (a - b).abs.lessEq (scoreTolerance * a.abs.maximum one)

def missingColumn (name : String) : ClientError :=
  ⟨.unknown, s!"search result is missing column '{name}'"⟩

def pageScores (page : HitPage) : Except ClientError (List Binary32) :=
  match page.scores? with
  | some scores => .ok scores
  | none => .error (missingColumn page.scoreName)

def pageKeys (page : HitPage) : Except ClientError (List PrimaryKey) :=
  match page.primaryKeys? with
  | some keys => .ok keys
  | none => .error (missingColumn page.keyName)

def tailScore (page : HitPage) : Except ClientError Binary64 :=
  match page.scores?.bind List.getLast? with
  | some score => .ok (score.convert .binary64)
  | none => .error (missingColumn page.scoreName)

/-- The distance of the first score from the last; `minWidth` where there is none. -/
def spread (scores : List Binary32) : Binary64 :=
  match scores.head?, scores.getLast? with
  | some first, some last =>
    let width := (first.convert .binary64 - last.convert .binary64).abs
    if width.lessEq (Word.ofInt 0) then minWidth else width
  | _, _ => minWidth

def pageWidth (page : HitPage) : Except ClientError Binary64 := (pageScores page).map spread

/-- The keys of the hits whose score equals the given one. -/
def keysAt (score : Binary64) (keys : List PrimaryKey) (scores : List Binary32) :
    List PrimaryKey :=
  ((keys.zip scores).filter fun hit => scoresEqual (hit.2.convert .binary64) score).map (·.1)

def tooManyTied (count : Nat) (score : Binary64) : ClientError :=
  ⟨.notSupported,
    s!"{count} hits share the score {SearchArguments.boundText score}, more than {maxTied}"⟩

/-- The keys with the tail score of a page join those known so far if the tail has not
moved, and replace them if it has. -/
def updateTied (it : BandSearch) (page : HitPage) : Except ClientError Unit × BandSearch :=
  match tailScore page, pageScores page, pageKeys page with
  | .ok last, .ok scores, .ok keys =>
    let found := keysAt last keys scores
    let tied := if scoresEqual last it.tail then it.tied ++ found else found
    let it := { it with tied }
    if maxTied < tied.length then
      (.error (tooManyTied tied.length last), it)
    else (.ok (), it)
  | .error e, _, _ => (.error e, it)
  | _, .error e, _ => (.error e, it)
  | _, _, .error e => (.error e, it)

/-- The far end of the band of a probe. -/
def farEnd (it : BandSearch) (factor : Binary64) : Binary64 :=
  let step := it.width * factor.maximum one
  if it.metric.smallerIsCloser then
    let next := it.tail + step
    match it.plan.search.radius with
    | some bound => if bound.less next then bound else next
    | none => next
  else
    let next := it.tail - step
    match it.plan.search.radius with
    | some bound => if next.less bound then bound else next
    | none => next

/-- The caller's filter, without the hits at the tail. -/
def exclusionFilter (it : BandSearch) : String :=
  if it.tied.isEmpty then it.plan.search.options.filter
  else Iteration.andFilter it.plan.search.options.filter
    (it.plan.primaryKey.name ++ " not in ["
      ++ ", ".intercalate (it.tied.map PrimaryKey.filterLiteral) ++ "]")

/-- Rows that a search asks for: no more than the server gives, nor than the index has
candidates. -/
def probeLimit (it : BandSearch) (rate : Nat) : Nat :=
  let limit := min (it.plan.batchSize * rate) maxBatchSize
  match it.plan.search.ef? with
  | none => limit
  | some ef => min limit ef

/-- A search of a band with a filter of its own. -/
def request (it : BandSearch) (writes : WriteLog) (band : Option Binary64 × Option Binary64)
    (filter : String) (rate : Nat) : Except ClientError SearchRequest :=
  let search := { it.plan.search with
    limit := it.probeLimit rate, radius := band.1, rangeFilter := band.2 }
  match search.request (it.client.readContext writes) with
  | .error e => .error e
  | .ok r =>
    .ok { r with
      filter
      parameters := (r.parameters.insert Parameter.iterator (Parameter.flag true)).insertAll
        (.ofList it.plan.collectionIdParameters)
      guarantee := if 0 < it.sessionTimestamp then it.sessionTimestamp else r.guarantee }

/-- The page of the only target. -/
def firstPage (it : BandSearch) (hits : SearchHits) : Except ClientError HitPage :=
  match hits.pages it.plan.primaryKey.name it.plan.search.options.outputFields with
  | .error e => .error e
  | .ok [] => .error ⟨.unknown, "the server returned an empty search result"⟩
  | .ok (page :: _) => .ok page

variable {σ : Type}

/-- Searches a band. The first reply pins the timestamp, also if it holds no page. -/
def searchBand (service : Service σ) (writes : WriteLog) (it : BandSearch)
    (band : Option Binary64 × Option Binary64) (filter : String) (rate : Nat) (s : σ) :
    Except ClientError HitPage × BandSearch × σ :=
  match it.request writes band filter rate with
  | .error e => (.error e, it, s)
  | .ok r =>
    match it.client.sendSearch service r s with
    | (.error e, s) => (.error e, it, s)
    | (.ok reply, s) =>
      let it :=
        if it.sessionTimestamp = 0 then
          { it with sessionTimestamp := Timestamp.orClock reply.sessionTimestamp (service.epoch s) }
        else it
      (it.firstPage reply.hits, it, s)

/-- Takes in the page of a probe that found something. -/
def receive (it : BandSearch) (page : HitPage) : Except ClientError Unit × BandSearch :=
  match it.updateTied page with
  | (.error e, it) => (.error e, it)
  | (.ok (), it) =>
    match tailScore page with
    | .error e => (.error e, it)
    | .ok tail =>
      let it := { it with tail }
      match pageWidth page with
      | .error e => (.error e, it)
      | .ok width =>
        (.ok (), { it with width := it.width.maximum width, cache := it.cache ++ [page] })

/-- Probes until `wanted` rows are cached, at most `left` times more. -/
def fill (service : Service σ) (writes : WriteLog) (wanted : Nat) :
    (left : Nat) → BandSearch → σ → Except ClientError Unit × BandSearch × σ
  | 0, it, s => (.ok (), it, s)
  | left + 1, it, s =>
    if wanted ≤ PageCache.rowCount it.cache then (.ok (), it, s)
    else
      let factor := Word.ofInt (maxProbes - left : Nat)
      match it.searchBand service writes (some (it.farEnd factor), some it.tail)
          it.exclusionFilter probeExtension s with
      | (.error e, it, s) => (.error e, it, s)
      | (.ok page, it, s) =>
        if page.isEmpty then fill service writes wanted left it s
        else
          match it.receive page with
          | (.error e, it) => (.error e, it, s)
          | (.ok (), it) => fill service writes wanted left it s

/-- The metric, if the bounds of the scores suit it. -/
def checkRange (search : SearchArguments) : Except ClientError Metric :=
  if 0 < search.offset then
    .error ⟨.invalidArgument, "offset is not supported by the search iterator"⟩
  else
    match search.metric, search.radius, search.rangeFilter with
    | none, _, _ => .error ⟨.invalidArgument, "search iterator requires a metric type"⟩
    | some metric, some radius, some rangeFilter =>
      if metric.smallerIsCloser && radius.lessEq rangeFilter then
        .error ⟨.invalidArgument,
          s!"{metric.name} metric type requires radius larger than range_filter"⟩
      else if !metric.smallerIsCloser && rangeFilter.lessEq radius then
        .error ⟨.invalidArgument,
          s!"{metric.name} metric type requires radius smaller than range_filter"⟩
      else .ok metric
    | some metric, _, _ => .ok metric

def ofPlan (client : Client) (plan : SearchIteration) (metric : Metric) : BandSearch :=
  ⟨client, plan, metric, 0, 0, minWidth, Word.ofInt 0, [], [], .empty, .initialized⟩

/-- Takes in the first page, which sets the width and the tail. -/
def begin (it : BandSearch) (page : HitPage) : Except ClientError BandSearch :=
  if page.isEmpty then
    .error ⟨.invalidArgument, "first page matched no rows, check the radius and range_filter"⟩
  else
    match pageWidth page, tailScore page with
    | .error e, _ => .error e
    | _, .error e => .error e
    | .ok width, .ok tail =>
      match ({ it with width, tail, tied := [] }).updateTied page with
      | (.error e, _) => .error e
      | (.ok (), it) => .ok { it with template := page.emptyLike, cache := it.cache ++ [page] }

/-- Runs the first search, within the caller's own bounds. -/
def start (service : Service σ) (writes : WriteLog) (client : Client) (plan : SearchIteration)
    (s : σ) : Except ClientError BandSearch × σ :=
  match plan.validate, checkRange plan.search with
  | .error e, _ => (.error e, s)
  | .ok (), .error e => (.error e, s)
  | .ok (), .ok metric =>
    let (page, it, s) := (ofPlan client plan metric).searchBand service writes
      (plan.search.radius, plan.search.rangeFilter) plan.search.options.filter 1 s
    match page.bind it.begin with
    | .error e => (.error (e.inContext "failed to init search iterator"), s)
    | .ok it => (.ok it, s)

/-- Takes a batch from the cache and counts it as delivered. -/
def deliver (it : BandSearch) (wanted : Nat) : Except ClientError HitPage × BandSearch :=
  let (page, cache) := PageCache.take it.cache wanted it.template
  let it := { it with cache }
  match page with
  | .error e => (.error e, it)
  | .ok page =>
    let width := if page.rowCount = it.plan.batchSize then pageWidth page else .ok it.width
    match width with
    | .error e => (.error e, it)
    | .ok width =>
      (.ok page,
        { it with
          width
          returned := it.returned + page.rowCount
          phase := .afterBatch page.rowCount })

/-- The next batch of hits; an empty one once the limit is met or probing finds nothing. -/
def nextBatch (service : Service σ) (writes : WriteLog) (it : BandSearch) (s : σ) :
    Except ClientError HitPage × BandSearch × σ :=
  let owed := Iteration.owed it.plan.limit it.returned
  if it.phase = .exhausted ∨ owed = some 0 then
    (.ok it.template.emptyLike, { it with phase := .exhausted }, s)
  else
    let wanted := Iteration.capped owed it.plan.batchSize
    match it.fill service writes wanted maxProbes s with
    | (.error e, it, s) => (.error e, it, s)
    | (.ok (), it, s) =>
      let (page, it) := it.deliver wanted
      (page, it, s)

/-- The next batch, nothing after the last one or after an error. -/
def next (service : Service σ) (writes : WriteLog) (it : BandSearch) (s : σ) :
    Option (Except ClientError HitPage) × BandSearch × σ :=
  if it.phase = .exhausted then (none, it, s)
  else Iteration.handOut HitPage.isEmpty (fun it => { it with phase := .exhausted })
    (it.nextBatch service writes s)

end BandSearch

end VectorClient
