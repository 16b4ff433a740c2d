import VectorClient.Metric
import VectorClient.Column.Basic
import VectorClient.PrimaryKey

/-!
# Requests and replies

What a client hands to a service and what it gets back. Parameters are texts under
fixed names. `Request.Reply` gives the type of the reply that each request has.
-/

namespace VectorClient

namespace Parameter

def iterator : String := "iterator"
def reduceStopForBest : String := "reduce_stop_for_best"
def collectionId : String := "collection_id"
def limit : String := "limit"
def offset : String := "offset"
def topk : String := "topk"
def radius : String := "radius"
def rangeFilter : String := "range_filter"
def annsField : String := "anns_field"
def metricType : String := "metric_type"
def params : String := "params"
def roundDecimal : String := "round_decimal"
def ignoreGrowing : String := "ignore_growing"
def groupByField : String := "group_by_field"
def tokenSearch : String := "search_iter_v2"
def tokenBatchSize : String := "search_iter_batch_size"
def tokenLastBound : String := "search_iter_last_bound"
def token : String := "search_iter_id"

/-- The text of a yes-or-no parameter. -/
def flag (b : Bool) : String := if b then "True" else "False"

end Parameter

structure QueryRequest where
  database : String
  collection : String
  /-- All partitions if empty. -/
  partitions : List String
  filter : String
  outputFields : List String
  parameters : Dict String
  /-- Data of at least this timestamp is to be read. -/
  guarantee : Nat
  consistency : Consistency
  useDefaultConsistency : Bool

/-- A vector search: a query with one target vector per row of `targets`. -/
structure SearchRequest extends QueryRequest where
  targets : Column

/-- Rows as columns. -/
structure QueryReply where
  columns : List Column
  outputFields : List String
  /-- The timestamp the query was served at, or 0. -/
  sessionTimestamp : Nat

/-- How a token-continued search goes on. -/
structure Continuation where
  token : String
  lastBound : Ieee.Binary32

/-- The hits of all target vectors one after another: `topks` says how many rows of
the keys, the scores and every column belong to each of them. -/
structure SearchHits where
  targetCount : Nat
  rowLimit : Nat
  topks : List Nat
  keys : HitKeys
  scores : List Ieee.Binary32
  columns : List Column
  outputFields : List String
  /-- Empty if the server does not name its primary key. -/
  keyName : String
  continuation : Option Continuation

structure SearchReply where
  hits : SearchHits
  sessionTimestamp : Nat

inductive MutationKind where
  | insert
  | upsert
  | delete
deriving DecidableEq, Repr

namespace MutationKind

def name : MutationKind → String
  | insert => "Insert"
  | upsert => "Upsert"
  | delete => "Delete"

def all : List MutationKind := [insert, upsert, delete]

end MutationKind

/-- Rows to be written, or a filter for those to be deleted. -/
structure MutationRequest where
  database : String
  collection : String
  /-- The default partition if empty. -/
  partition : String
  kind : MutationKind
  columns : List Column
  /-- For deletions only. -/
  filter : String

/-- What was written or deleted, and the timestamp from which on reads see it. -/
structure MutationReply where
  keys : HitKeys
  inserted : Nat
  upserted : Nat
  deleted : Nat
  timestamp : Nat

/-- A collection to be dropped with all its rows. -/
structure DropRequest where
  database : String
  collection : String
deriving DecidableEq, Repr

inductive Request where
  | query (r : QueryRequest)
  | search (r : SearchRequest)
  | mutate (r : MutationRequest)
  | drop (r : DropRequest)

abbrev Request.Reply : Request → Type
  | query _ => QueryReply
  | search _ => SearchReply
  | mutate _ => MutationReply
  | drop _ => Unit

end VectorClient
