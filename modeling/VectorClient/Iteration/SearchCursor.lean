import VectorClient.Iteration.BandSearch
import VectorClient.Iteration.TokenSearch

/-!
# Iterating a search

A search is iterated by continuation tokens, or by score bands where the server has
no tokens.
-/

namespace VectorClient

/-- An iterated search of either kind. -/
inductive SearchCursor where
  | bands (it : BandSearch)
  | tokens (it : TokenSearch)

namespace SearchCursor

variable {σ : Type}

/-- Tries tokens first. Only a server that does not support them is searched by bands; any
other error is final. -/
def start (service : Service σ) (writes : WriteLog) (client : Client) (plan : SearchIteration)
    (s : σ) : Except ClientError SearchCursor × σ :=
  match TokenSearch.start service writes client plan s with
  | (.ok it, s) => (.ok (.tokens it), s)
  | (.error e, s) =>
    if e.kind = .notSupported then
      let (it, s) := BandSearch.start service writes client plan s
      (it.map .bands, s)
    else (.error e, s)

/-- Where the iteration stands. -/
def phase : SearchCursor → Phase
  | bands it => it.phase
  | tokens it => it.phase

def returned : SearchCursor → Nat
  | bands it => it.returned
  | tokens it => it.returned

/-- The next batch, in the way in which the iteration was started. -/
def nextBatch (service : Service σ) (writes : WriteLog) (it : SearchCursor) (s : σ) :
    Except ClientError HitPage × SearchCursor × σ :=
  match it with
  | bands it =>
    let (page, it, s) := it.nextBatch service writes s
    (page, bands it, s)
  | tokens it =>
    let (page, it, s) := it.nextBatch service writes s
    (page, tokens it, s)

def next (service : Service σ) (writes : WriteLog) (it : SearchCursor) (s : σ) :
    Option (Except ClientError HitPage) × SearchCursor × σ :=
  match it with
  | bands it =>
    let (page, it, s) := it.next service writes s
    (page, bands it, s)
  | tokens it =>
    let (page, it, s) := it.next service writes s
    (page, tokens it, s)

end SearchCursor

end VectorClient
