import VectorClient.Request
import VectorClient.Retry
import VectorClient.Wire.Result

/-!
# Requests, replies, statuses and policies as JSON text

The fields stand in the order in which they are declared; unsigned counts and
timestamps fit 64 bits.
-/

namespace VectorClient.Wire

open Json

/-- A count or a timestamp: not negative and below `2 ^ 64`. -/
def wordReading64 : Reading Nat := Reading.nat (UInt64.size - 1)

/-- A metric is encoded by its tag, while the parameters of a search have its name. -/
def metricText (m : Metric) : String := stringText m.tag

def metricReading : Reading Metric := nameReading Metric.tag Metric.all

def consistencyText (c : Consistency) : String := stringText c.name

def consistencyReading : Reading Consistency := nameReading Consistency.name Consistency.all

def transportCodeText (c : TransportCode) : String := stringText c.name

def transportCodeReading : Reading TransportCode := nameReading TransportCode.name TransportCode.all

/-- Parameters in the order of their names, each a text whatever it means. -/
def parametersText (p : Dict String) : String :=
  objectText (p.entries.map fun e => (e.1, stringText e.2))

def parametersReading : Reading (Dict String) := Reading.dict Reading.string

/-- No field is left out, not even one that is empty. -/
def queryRequestText (r : QueryRequest) : String :=
  objectText [("db_name", stringText r.database), ("collection_name", stringText r.collection),
    ("partition_names", namesText r.partitions), ("expr", stringText r.filter),
    ("output_fields", namesText r.outputFields), ("params", parametersText r.parameters),
    ("guarantee_timestamp", natText r.guarantee),
    ("consistency_level", consistencyText r.consistency),
    ("use_default_consistency", boolText r.useDefaultConsistency)]

/-- All fields are required, and the parameters come back in the order of their names. -/
def queryRequestReading : Reading QueryRequest := fun n t => do
  let names := ["db_name", "collection_name", "partition_names", "expr", "output_fields", "params",
    "guarantee_timestamp", "consistency_level", "use_default_consistency"]
  let (n, fields) ← Reading.record names n t
  match fields with
  | [database, collection, partitions, filter, outputFields, parameters, guarantee, consistency,
      useDefault] =>
    return {
      database := ← Reading.required Reading.string n database
      collection := ← Reading.required Reading.string n collection
      partitions := ← Reading.required namesReading n partitions
      filter := ← Reading.required Reading.string n filter
      outputFields := ← Reading.required namesReading n outputFields
      parameters := ← Reading.required parametersReading n parameters
      guarantee := ← Reading.required wordReading64 n guarantee
      consistency := ← Reading.required consistencyReading n consistency
      useDefaultConsistency := ← Reading.required Reading.bool n useDefault }
  | _ => none

/-- A query with the column of its targets in the middle. -/
def searchRequestText (r : SearchRequest) : String :=
  objectText [("db_name", stringText r.database), ("collection_name", stringText r.collection),
    ("partition_names", namesText r.partitions), ("expr", stringText r.filter),
    ("output_fields", namesText r.outputFields), ("targets", columnText r.targets),
    ("params", parametersText r.parameters), ("guarantee_timestamp", natText r.guarantee),
    ("consistency_level", consistencyText r.consistency),
    ("use_default_consistency", boolText r.useDefaultConsistency)]

def searchRequestReading : Reading SearchRequest := fun n t => do
  let names := ["db_name", "collection_name", "partition_names", "expr", "output_fields", "targets",
    "params", "guarantee_timestamp", "consistency_level", "use_default_consistency"]
  let (n, fields) ← Reading.record names n t
  match fields with
  | [database, collection, partitions, filter, outputFields, targets, parameters, guarantee,
      consistency, useDefault] =>
    return {
      database := ← Reading.required Reading.string n database
      collection := ← Reading.required Reading.string n collection
      partitions := ← Reading.required namesReading n partitions
      filter := ← Reading.required Reading.string n filter
      outputFields := ← Reading.required namesReading n outputFields
      targets := ← Reading.required columnReading n targets
      parameters := ← Reading.required parametersReading n parameters
      guarantee := ← Reading.required wordReading64 n guarantee
      consistency := ← Reading.required consistencyReading n consistency
      useDefaultConsistency := ← Reading.required Reading.bool n useDefault }
  | _ => none

def queryReplyText (r : QueryReply) : String :=
  objectText [("fields_data", columnsText r.columns), ("output_fields", namesText r.outputFields),
    ("session_ts", natText r.sessionTimestamp)]

def queryReplyReading : Reading QueryReply := fun n t => do
  let (n, fields) ← Reading.record ["fields_data", "output_fields", "session_ts"] n t
  match fields with
  | [columns, outputFields, sessionTimestamp] =>
    return {
      columns := ← Reading.required columnsReading n columns
      outputFields := ← Reading.required namesReading n outputFields
      sessionTimestamp := ← Reading.required wordReading64 n sessionTimestamp }
  | _ => none

/-- The last bound is written with the digits that give back a single-precision score. -/
def continuationText (c : Continuation) : String :=
  objectText [("token", stringText c.token), ("last_bound", floatText c.lastBound)]

def continuationReading : Reading Continuation := fun n t => do
  let (n, fields) ← Reading.record ["token", "last_bound"] n t
  match fields with
  | [token, lastBound] =>
    return {
      token := ← Reading.required Reading.string n token
      lastBound := ← Reading.required (Reading.float .binary32) n lastBound }
  | _ => none

/-- The hits of all targets in one list each; a continuation that is missing is `null`. -/
def searchHitsText (h : SearchHits) : String :=
  objectText [("num_queries", natText h.targetCount), ("top_k", natText h.rowLimit),
    ("topks", listText natText h.topks), ("ids", hitKeysText h.keys),
    ("scores", listText floatText h.scores), ("fields_data", columnsText h.columns),
    ("output_fields", namesText h.outputFields), ("primary_field_name", stringText h.keyName),
    ("iterator_v2", optionText continuationText h.continuation)]

/-- The counts are taken as they stand: whether they fit the lists is found out later,
when the hits are cut into pages. -/
def searchHitsReading : Reading SearchHits := fun n t => do
  let names := ["num_queries", "top_k", "topks", "ids", "scores", "fields_data", "output_fields",
    "primary_field_name", "iterator_v2"]
  let (n, fields) ← Reading.record names n t
  match fields with
  | [targetCount, rowLimit, topks, keys, scores, columns, outputFields, keyName, continuation] =>
    return {
      targetCount := ← Reading.required wordReading64 n targetCount
      rowLimit := ← Reading.required wordReading64 n rowLimit
      topks := ← Reading.required (Reading.list wordReading64) n topks
      keys := ← Reading.required hitKeysReading n keys
      scores := ← Reading.required (Reading.list (Reading.float .binary32)) n scores
      columns := ← Reading.required columnsReading n columns
      outputFields := ← Reading.required namesReading n outputFields
      keyName := ← Reading.required Reading.string n keyName
      continuation := ← Reading.optional continuationReading n continuation }
  | _ => none

def searchReplyText (r : SearchReply) : String :=
  objectText [("results", searchHitsText r.hits), ("session_ts", natText r.sessionTimestamp)]

def searchReplyReading : Reading SearchReply := fun n t => do
  let (n, fields) ← Reading.record ["results", "session_ts"] n t
  match fields with
  | [hits, sessionTimestamp] =>
    return {
      hits := ← Reading.required searchHitsReading n hits
      sessionTimestamp := ← Reading.required wordReading64 n sessionTimestamp }
  | _ => none

def mutationKindText (k : MutationKind) : String := stringText k.name

def mutationKindReading : Reading MutationKind := nameReading MutationKind.name MutationKind.all

/-- Insertions have columns and deletions a filter, but both fields are always there. -/
def mutationRequestText (r : MutationRequest) : String :=
  objectText [("db_name", stringText r.database), ("collection_name", stringText r.collection),
    ("partition_name", stringText r.partition), ("kind", mutationKindText r.kind),
    ("fields_data", columnsText r.columns), ("expr", stringText r.filter)]

def mutationRequestReading : Reading MutationRequest := fun n t => do
  let names := ["db_name", "collection_name", "partition_name", "kind", "fields_data", "expr"]
  let (n, fields) ← Reading.record names n t
  match fields with
  | [database, collection, partition, kind, columns, filter] =>
    return {
      database := ← Reading.required Reading.string n database
      collection := ← Reading.required Reading.string n collection
      partition := ← Reading.required Reading.string n partition
      kind := ← Reading.required mutationKindReading n kind
      columns := ← Reading.required columnsReading n columns
      filter := ← Reading.required Reading.string n filter }
  | _ => none

/-- All three counts stand there, of which one belongs to the kind of the mutation. -/
def mutationReplyText (r : MutationReply) : String :=
  objectText [("ids", hitKeysText r.keys), ("insert_count", natText r.inserted),
    ("upsert_count", natText r.upserted), ("delete_count", natText r.deleted),
    ("timestamp", natText r.timestamp)]

def mutationReplyReading : Reading MutationReply := fun n t => do
  let names := ["ids", "insert_count", "upsert_count", "delete_count", "timestamp"]
  let (n, fields) ← Reading.record names n t
  match fields with
  | [keys, inserted, upserted, deleted, timestamp] =>
    return {
      keys := ← Reading.required hitKeysReading n keys
      inserted := ← Reading.required wordReading64 n inserted
      upserted := ← Reading.required wordReading64 n upserted
      deleted := ← Reading.required wordReading64 n deleted
      timestamp := ← Reading.required wordReading64 n timestamp }
  | _ => none

def dropRequestText (r : DropRequest) : String :=
  objectText [("db_name", stringText r.database), ("collection_name", stringText r.collection)]

def dropRequestReading : Reading DropRequest := fun n t => do
  let (n, fields) ← Reading.record ["db_name", "collection_name"] n t
  match fields with
  | [database, collection] =>
    return {
      database := ← Reading.required Reading.string n database
      collection := ← Reading.required Reading.string n collection }
  | _ => none

/-- The older classification, by its name. -/
def legacyCodeText (c : LegacyCode) : String := stringText c.name

def legacyCodeReading : Reading LegacyCode := nameReading LegacyCode.name LegacyCode.all

def serverStatusText (s : ServerStatus) : String :=
  objectText [("code", intText s.code), ("legacy_code", legacyCodeText s.legacyCode),
    ("reason", stringText s.reason)]

/-- The code may be any signed number of 32 bits. -/
def serverStatusReading : Reading ServerStatus := fun n t => do
  let (n, fields) ← Reading.record ["code", "legacy_code", "reason"] n t
  match fields with
  | [code, legacyCode, reason] =>
    return {
      code := ← Reading.required (Reading.int Int32.minValue.toInt Int32.maxValue.toInt) n code
      legacyCode := ← Reading.required legacyCodeReading n legacyCode
      reason := ← Reading.required Reading.string n reason }
  | _ => none

def retryPolicyText (p : RetryPolicy) : String :=
  objectText [("max_retry_times", natText p.maxTimes), ("max_retry_timeout_ms", natText p.timeout),
    ("initial_backoff_ms", natText p.initialBackoff),
    ("backoff_multiplier", natText p.backoffMultiplier), ("max_backoff_ms", natText p.maxBackoff),
    ("retry_on_rate_limit", boolText p.retryRateLimit)]

/-- A policy is read with any numbers, also with a zero that no setting gives a sleep. -/
def retryPolicyReading : Reading RetryPolicy := fun n t => do
  let names := ["max_retry_times", "max_retry_timeout_ms", "initial_backoff_ms",
    "backoff_multiplier", "max_backoff_ms", "retry_on_rate_limit"]
  let (n, fields) ← Reading.record names n t
  match fields with
  | [maxTimes, timeout, initialBackoff, backoffMultiplier, maxBackoff, retryRateLimit] =>
    return {
      maxTimes := ← Reading.required wordReading64 n maxTimes
      timeout := ← Reading.required wordReading64 n timeout
      initialBackoff := ← Reading.required wordReading64 n initialBackoff
      backoffMultiplier := ← Reading.required wordReading64 n backoffMultiplier
      maxBackoff := ← Reading.required wordReading64 n maxBackoff
      retryRateLimit := ← Reading.required Reading.bool n retryRateLimit }
  | _ => none

end VectorClient.Wire
