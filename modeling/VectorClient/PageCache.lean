import VectorClient.ClientError
import VectorClient.HitPage

/-!
# Page caches

Pages that were received and not yet delivered, the oldest first. `take` cuts a
given number of rows off the front: whole pages while they fit, then the head of
one page, whose tail goes back. A page that is at hand when an error occurs is not
put back, so `take` returns what is left of the cache also next to an error.
-/

namespace VectorClient.PageCache

def rowCount (pages : List HitPage) : Nat :=
  pages.foldr (fun page rows => page.rowCount + rows) 0

/-- Puts a page behind the rows taken so far; the first page is taken as it is. -/
def absorb (output page : HitPage) : Except DataError HitPage :=
  if output.columns.isEmpty then .ok page else output.joined page

/-- Both parts of a page that is cut after `count` rows. -/
def split (page : HitPage) (count : Nat) : Except DataError (HitPage × HitPage) := do
  let head ← page.slice 0 count
  let tail ← page.slice count page.rowCount
  return (head, tail)

/-- Takes up to `wanted` rows behind the rows of `output`. -/
def takeInto (output : HitPage) : Nat → List HitPage → Except ClientError HitPage × List HitPage
  | _, [] => (.ok output, [])
  | wanted, page :: rest =>
    if wanted = 0 then (.ok output, page :: rest)
    else if page.rowCount = 0 then takeInto output wanted rest
    else if page.rowCount ≤ wanted then
      match absorb output page with
      | .error e => (.error (.ofReply e), rest)
      | .ok output => takeInto output (wanted - page.rowCount) rest
    else
      match split page wanted with
      | .error e => (.error (.ofReply e), rest)
      | .ok (head, tail) =>
        match absorb output head with
        | .error e => (.error (.ofReply e), rest)
        | .ok output => (.ok output, tail :: rest)

/-- Takes up to `count` rows; without any the result is an empty page with the names
of the template. -/
def take (pages : List HitPage) (count : Nat) (template : HitPage) :
    Except ClientError HitPage × List HitPage :=
  takeInto template.emptyLike count pages

end VectorClient.PageCache
