import VectorClient.ClientError
import VectorClient.HitPage
import VectorClient.Request

/-!
# Replies of reads

A query reply becomes a result set, a search reply one page of hits per target
vector. The pages cut the keys, the scores and every column at the same places;
a column named like the primary key is left out, because the keys have a column of
their own. The score column takes a name that no other column has.
-/

namespace VectorClient

/-- The names that the server resolved, or else those that were requested. -/
def resolvedNames (resolved requested : List String) : List String :=
  if resolved.isEmpty then requested else resolved

def QueryReply.results (reply : QueryReply) (requested : List String) :
    Except ClientError ResultSet :=
  match ResultSet.ofColumns reply.columns (resolvedNames reply.outputFields requested) with
  | .ok results => .ok results
  | .error e => .error (.ofReply e)

def defaultScoreName : String := "score"

def defaultKeyName : String := "pk"

namespace SearchHits

/-- The names of columns and output fields, which the score column must not have. -/
def takenNames (hits : SearchHits) : List String :=
  hits.columns.map Column.name ++ hits.outputFields

/-- The first of `name`, `_name`, `__name` and so on that is not taken. Each of the
taken names rules out one of them at most. -/
def freeName (taken : List String) : Nat → String → String
  | 0, name => name
  | n + 1, name => if taken.contains name then freeName taken n ("_" ++ name) else name

def scoreName (hits : SearchHits) : String :=
  freeName hits.takenNames hits.takenNames.length defaultScoreName

/-- The name of the key column: the server's, else the caller's, else the default. -/
def resolvedKeyName (hits : SearchHits) (keyName : String) : String :=
  if !hits.keyName.isEmpty then hits.keyName
  else if !keyName.isEmpty then keyName
  else defaultKeyName

/-- Row counts have to fit 64 bits. -/
def maxRows : Nat := UInt64.size

def wrongCounts (keys scores total : Nat) : ClientError :=
  ⟨.unknown, s!"search result holds {keys} ids and {scores} scores for {total} hits"⟩

/-- Checks that keys, scores and columns have as many rows as the targets have hits. -/
def checkRows (hits : SearchHits) : Except ClientError Unit :=
  let total := hits.topks.foldr (· + ·) 0
  if maxRows ≤ total then .error ⟨.unknown, "search result row count overflows"⟩
  else if hits.keys.length ≠ total ∨ hits.scores.length ≠ total then
    .error (wrongCounts hits.keys.length hits.scores.length total)
  else
    match Column.ragged? total hits.columns with
    | some c =>
      .error ⟨.unknown,
        s!"search result column '{c.name}' holds {c.rowCount} rows for {total} hits"⟩
    | none => .ok ()

/-- The rows from `start` up to `stop`, the layout alone if there are none. -/
def cutColumn (start stop : Nat) (c : Column) : Except DataError Column :=
  if start = stop then .ok c.emptyLike else c.slice start stop

/-- The page of the hits from `start` up to `stop`. -/
def page (hits : SearchHits) (keyName : String) (names : List String) (start stop : Nat) :
    Except ClientError HitPage :=
  match hits.keys.toColumn? keyName start stop with
  | none => .error ⟨.unknown, "search result ids out of range"⟩
  | some keys =>
    let scores := Column.scalars .float hits.scoreName ((hits.scores.take stop).drop start)
    let others := hits.columns.filter fun c => c.name != keyName
    match others.mapM (cutColumn start stop) with
    | .error e => .error (.ofReply e)
    | .ok columns =>
      match HitPage.ofColumns keyName hits.scoreName (keys :: scores :: columns) names with
      | .error e => .error (.ofReply e)
      | .ok page => .ok page

/-- The pages of targets with the given numbers of hits, the first of them at `start`. -/
def pagesFrom (hits : SearchHits) (keyName : String) (names : List String) :
    Nat → List Nat → Except ClientError (List HitPage)
  | _, [] => .ok []
  | start, topk :: rest =>
    match hits.page keyName names start (start + topk) with
    | .error e => .error e
    | .ok page =>
      match pagesFrom hits keyName names (start + topk) rest with
      | .error e => .error e
      | .ok pages => .ok (page :: pages)

/-- One page per target vector. -/
def pages (hits : SearchHits) (keyName : String) (requested : List String) :
    Except ClientError (List HitPage) :=
  match hits.checkRows with
  | .error e => .error e
  | .ok () =>
    hits.pagesFrom (hits.resolvedKeyName keyName) (resolvedNames hits.outputFields requested) 0
      hits.topks

end SearchHits

end VectorClient
