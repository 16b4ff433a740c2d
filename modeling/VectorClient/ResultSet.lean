import VectorClient.Column.Cell
import VectorClient.Column.Cutting
import VectorClient.PrimaryKey

/-!
# Result sets

A result set is the columns of a reply together with the names that were asked
for. `ofColumns` compares the row counts of the columns themselves, not those of
the parts of structs.

Appending goes by column name. The columns are checked before any is touched, but
the check compares their types only: a struct column whose parts differ is
noticed when its turn comes, and the columns before it stay extended. `append`
therefore returns what the target has become next to the outcome.
-/

namespace VectorClient

structure ResultSet where
  columns : List Column
  outputNames : NameSet

namespace ResultSet

def empty : ResultSet := ⟨[], .empty⟩

instance : Inhabited ResultSet := ⟨empty⟩

/-- The number of rows of the first column. -/
def rowCountOf : List Column → Nat
  | [] => 0
  | first :: _ => first.rowCount

def ofColumns (columns : List Column) (names : List String) : Except DataError ResultSet :=
  match Column.ragged? (rowCountOf columns) columns with
  | some c => .error (.rowCountMismatch c.name (rowCountOf columns) c.rowCount)
  | none => .ok ⟨columns, .ofList names⟩

/-- The same output names without columns. -/
def emptyLike (r : ResultSet) : ResultSet := { r with columns := [] }

def column? (r : ResultSet) (name : String) : Option Column :=
  r.columns.find? fun c => c.name == name

def rowCount (r : ResultSet) : Nat := rowCountOf r.columns

def isEmpty (r : ResultSet) : Bool := r.rowCount == 0

/-- The rows from `start` up to `stop` of every column. -/
def slice (r : ResultSet) (start stop : Nat) : Except DataError ResultSet := do
  let columns ← Column.sliceParts start stop r.columns
  return { r with columns }

/-- The column to append to `target`, if there is one of the same type. -/
def counterpart (source : List Column) (target : Column) : Except DataError Column :=
  match source.find? fun c => c.name == target.name with
  | none => .error (.invalidValue (.missingAppended target.name))
  | some c =>
    if target.dataType = c.dataType ∧ target.elementType = c.elementType then .ok c
    else .error (.typeMismatch target.name target.dataType c.dataType)

/-- Extends columns one after another; after an error the rest is left as it is. -/
def extend : List (Column × Column) → Except DataError Unit × List Column
  | [] => (.ok (), [])
  | (target, source) :: rest =>
    match target.extend source with
    | (.error e, left) => (.error e, left :: rest.map (·.1))
    | (.ok (), joined) =>
      let (outcome, columns) := extend rest
      (outcome, joined :: columns)

def appendColumns (target source : List Column) : Except DataError Unit × List Column :=
  if target.isEmpty then (.ok (), source)
  else
    match target.mapM (counterpart source) with
    | .error e => (.error e, target)
    | .ok sources => extend (target.zip sources)

/-- Appends the rows of `source`. A target without columns takes those of the source. -/
def append (target source : ResultSet) : Except DataError Unit × ResultSet :=
  match appendColumns target.columns source.columns with
  | (.ok (), columns) => (.ok (), ⟨columns, target.outputNames.union source.outputNames⟩)
  | (.error e, columns) => (.error e, { target with columns })

/-- The target with the rows of `source`, if they can be appended. -/
def joined (target source : ResultSet) : Except DataError ResultSet :=
  match target.append source with
  | (.ok (), r) => .ok r
  | (.error e, _) => .error e

def primaryKeys? (r : ResultSet) (keyName : String) : Option (List PrimaryKey) :=
  (r.column? keyName).bind PrimaryKey.ofColumn?

def primaryKeyAt? (r : ResultSet) (keyName : String) (row : Nat) : Option PrimaryKey :=
  (r.column? keyName).bind fun c => PrimaryKey.ofRow? c row

/-- Every row as an object with the columns that `shown` selects. -/
def renderRows (shown : String → Bool) (columns : List Column) : List Json :=
  let selected := columns.filter fun c => shown c.name
  (List.range (rowCountOf columns)).map fun row =>
    Json.ofMembers (selected.map fun c => (c.name, (c.cell? row).getD .null))

/-- Every row with the requested columns, or with all of them if none was requested. -/
def rows (r : ResultSet) : List Json :=
  renderRows (fun name => r.outputNames.isEmpty || r.outputNames.contains name) r.columns

def sameValue (a b : ResultSet) : Bool :=
  Column.sameParts a.columns b.columns && a.outputNames == b.outputNames

end ResultSet

end VectorClient
