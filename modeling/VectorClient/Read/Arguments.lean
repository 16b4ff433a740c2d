import VectorClient.Column.Cutting
import VectorClient.ClientError
import VectorClient.Metric
import VectorClient.Text.Blank

/-!
# Arguments of reads

What a caller says about a query, a search, or the iteration of one. Every kind of
read shares `ReadOptions`.
-/

namespace VectorClient

structure ReadOptions where
  /-- The client's current database if empty. -/
  database : String
  collection : String
  /-- All partitions if empty. -/
  partitions : List String
  filter : String
  outputFields : List String
  consistency : Consistency

namespace ReadOptions

def ofCollection (collection : String) : ReadOptions :=
  ⟨"", collection, [], "", [], .collectionDefault⟩

end ReadOptions

structure QueryArguments where
  options : ReadOptions
  /-- Every match without a limit. -/
  limit : Option Nat
  offset : Nat
  ignoreGrowing : Bool

namespace QueryArguments

def ofCollection (collection : String) : QueryArguments :=
  ⟨.ofCollection collection, none, 0, false⟩

end QueryArguments

structure SearchArguments where
  options : ReadOptions
  /-- The only vector field if empty. -/
  annsField : String
  /-- One row per target vector. -/
  targets : Option Column
  metric : Option Metric
  /-- Rows per target vector. -/
  limit : Nat
  offset : Nat
  /-- The far bound of the scores. -/
  radius : Option Ieee.Binary64
  /-- The near bound of the scores. -/
  rangeFilter : Option Ieee.Binary64
  roundDecimal : Int
  ignoreGrowing : Bool
  groupBy : Option String
  /-- Parameters of the index. -/
  extra : Dict Json

namespace SearchArguments

def ofCollection (collection : String) : SearchArguments :=
  { options := .ofCollection collection
    annsField := ""
    targets := none
    metric := none
    limit := 10
    offset := 0
    radius := none
    rangeFilter := none
    roundDecimal := -1
    ignoreGrowing := false
    groupBy := none
    extra := .empty }

/-- Adds the rows of a target column to those given so far. -/
def addTargets (args : SearchArguments) (column : Column) : Except ClientError SearchArguments :=
  match args.targets with
  | none => .ok { args with targets := some column }
  | some targets =>
    match targets.append column with
    | .ok joined => .ok { args with targets := some joined }
    | .error e => .error (.ofRequest e)

def addFloatVector (args : SearchArguments) (vector : List Ieee.Binary32) :
    Except ClientError SearchArguments :=
  args.addTargets (.flat args.annsField .floatVector [vector])

def addSparseVector (args : SearchArguments) (vector : SparseVector) :
    Except ClientError SearchArguments :=
  args.addTargets (.flat args.annsField .sparseVector [vector])

def targetCount (args : SearchArguments) : Nat :=
  match args.targets with
  | none => 0
  | some targets => targets.rowCount

/-- The index parameter `ef`: a number that is not negative, or the text of one. -/
def ef? (args : SearchArguments) : Option Nat :=
  match args.extra.get? "ef" with
  | some (.int i) => if 0 ≤ i then some i.toNat else none
  | some (.string s) => Text.natural? (Text.trimmed s)
  | _ => none

end SearchArguments

/-- Rows of one batch unless the caller says otherwise. -/
def defaultBatchSize : Nat := 1000

/-- The iteration of a query. Its limit and its offset count over all batches. -/
structure QueryIteration where
  query : QueryArguments
  batchSize : Nat
  primaryKey : FieldSchema
  /-- Sent if positive. -/
  collectionId : Int
  reduceStopForBest : Bool

namespace QueryIteration

def ofCollection (collection : String) (primaryKey : FieldSchema) : QueryIteration :=
  ⟨.ofCollection collection, defaultBatchSize, primaryKey, 0, false⟩

end QueryIteration

/-- The iteration of a search with one target vector. -/
structure SearchIteration where
  search : SearchArguments
  batchSize : Nat
  /-- Rows of all batches together. -/
  limit : Option Nat
  primaryKey : FieldSchema
  collectionId : Int

namespace SearchIteration

def ofSearch (search : SearchArguments) (primaryKey : FieldSchema) : SearchIteration :=
  ⟨search, defaultBatchSize, none, primaryKey, 0⟩

end SearchIteration

end VectorClient
