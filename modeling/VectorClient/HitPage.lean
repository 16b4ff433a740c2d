import VectorClient.ResultSet

/-!
# Pages of search hits

A page is a result set that knows which of its columns holds the primary keys and
which the scores. Both columns exist once `ofColumns` has seen a row; appending
goes by the columns alone and keeps the names of the target.
-/

namespace VectorClient

structure HitPage where
  keyName : String
  scoreName : String
  results : ResultSet

namespace HitPage

def empty : HitPage := ⟨"", "", .empty⟩

instance : Inhabited HitPage := ⟨empty⟩

def rowCount (p : HitPage) : Nat := p.results.rowCount

def isEmpty (p : HitPage) : Bool := p.results.isEmpty

def columns (p : HitPage) : List Column := p.results.columns

/-- A page of checked columns. Once it has rows, a key column and a score column are among them. -/
def ofColumns (keyName scoreName : String) (columns : List Column) (names : List String) :
    Except DataError HitPage := do
  let results ← ResultSet.ofColumns columns names
  if results.rowCount = 0 then return ⟨keyName, scoreName, results⟩
  match [keyName, scoreName].find? fun name => (results.column? name).isNone with
  | some name => .error (.invalidValue (.missingSearched name))
  | none => return ⟨keyName, scoreName, results⟩

/-- The same names without columns. -/
def emptyLike (p : HitPage) : HitPage := { p with results := p.results.emptyLike }

def scores? (p : HitPage) : Option (List Ieee.Binary32) :=
  (p.results.column? p.scoreName).bind (Column.rowsOf? (.scalar .float))

def primaryKeys? (p : HitPage) : Option (List PrimaryKey) := p.results.primaryKeys? p.keyName

def slice (p : HitPage) (start stop : Nat) : Except DataError HitPage := do
  let results ← p.results.slice start stop
  return { p with results }

/-- Appends the rows of another page, see `ResultSet.append`. -/
def append (target source : HitPage) : Except DataError Unit × HitPage :=
  let (outcome, results) := target.results.append source.results
  (outcome, { target with results })

/-- The rows of both pages under the names of the first. -/
def joined (target source : HitPage) : Except DataError HitPage := do
  let results ← target.results.joined source.results
  return { target with results }

/-- Every row with its key, its score and the requested columns. -/
def rows (p : HitPage) : List Json :=
  ResultSet.renderRows
    (fun name => name == p.keyName || name == p.scoreName || p.results.outputNames.contains name)
    p.results.columns

def sameValue (a b : HitPage) : Bool :=
  a.keyName == b.keyName && a.scoreName == b.scoreName && a.results.sameValue b.results

end HitPage

end VectorClient
