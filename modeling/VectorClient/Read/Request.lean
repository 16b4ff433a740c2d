import VectorClient.Decimal.Layout
import VectorClient.Json.Text
import VectorClient.Read.Arguments
import VectorClient.Request
import VectorClient.WriteLog

/-!
# Requests of reads

Arguments become requests in the context of a client: the context names the
database that is read where the arguments name none, and knows the writes that a
read has to see.
-/

namespace VectorClient

/-- What a client adds to the arguments of a read. -/
structure ReadContext where
  defaultDatabase : String
  writes : WriteLog

namespace ReadContext

def databaseFor (context : ReadContext) (options : ReadOptions) : String :=
  if options.database.isEmpty then context.defaultDatabase else options.database

end ReadContext

namespace ReadOptions

def validate (options : ReadOptions) : Except ClientError Unit :=
  if options.collection.isEmpty then
    .error ⟨.invalidArgument, "collection name must not be empty"⟩
  else .ok ()

/-- The part of a request that all reads share, without parameters. -/
def request (options : ReadOptions) (context : ReadContext) : QueryRequest :=
  let database := context.databaseFor options
  { database
    collection := options.collection
    partitions := options.partitions
    filter := options.filter
    outputFields := options.outputFields
    parameters := .empty
    guarantee := context.writes.guarantee options.consistency ⟨database, options.collection⟩
    consistency := options.consistency
    useDefaultConsistency := options.consistency == .collectionDefault }

end ReadOptions

namespace QueryArguments

/-- Parameters that are sent only if they say something. -/
def parameterList (args : QueryArguments) : List (String × String) :=
  (match args.limit with
    | some n => [(Parameter.limit, toString n)]
    | none => [])
  ++ (if 0 < args.offset then [(Parameter.offset, toString args.offset)] else [])
  ++ (if args.ignoreGrowing then [(Parameter.ignoreGrowing, Parameter.flag true)] else [])

def request (args : QueryArguments) (context : ReadContext) : QueryRequest :=
  { args.options.request context with parameters := .ofList args.parameterList }

end QueryArguments

namespace SearchArguments

/-- Score bounds are written with the fewest digits, never with an exponent. -/
def boundLayout : FloatLayout := ⟨.upward, none, "", "NaN", "inf", "-inf"⟩

def boundText (x : Ieee.Binary64) : String := boundLayout.write x

def optionalParameter {α : Type} (name : String) (text : α → String) :
    Option α → List (String × String)
  | none => []
  | some a => [(name, text a)]

def extraText (args : SearchArguments) : String :=
  Json.text (.object args.extra.entries)

def parameterList (args : SearchArguments) : List (String × String) :=
  (if args.annsField.isEmpty then [] else [(Parameter.annsField, args.annsField)])
  ++ [(Parameter.topk, toString args.limit),
      (Parameter.offset, toString args.offset),
      (Parameter.roundDecimal, toString args.roundDecimal),
      (Parameter.ignoreGrowing, Parameter.flag args.ignoreGrowing)]
  ++ optionalParameter Parameter.metricType Metric.name args.metric
  ++ optionalParameter Parameter.radius boundText args.radius
  ++ optionalParameter Parameter.rangeFilter boundText args.rangeFilter
  ++ optionalParameter Parameter.groupByField id args.groupBy
  ++ [(Parameter.params, args.extraText)]

/-- The target vectors, if there are any and they are vectors. -/
def vectors? (args : SearchArguments) : Except ClientError Column :=
  match args.targets with
  | none => .error ⟨.invalidArgument, "search requires at least one target vector"⟩
  | some targets =>
    if targets.isEmpty then .error ⟨.invalidArgument, "search requires at least one target vector"⟩
    else if targets.dataType.isVector then .ok targets
    else .error ⟨.invalidArgument, s!"search targets must be vectors, got {targets.dataType.name}"⟩

def request (args : SearchArguments) (context : ReadContext) : Except ClientError SearchRequest :=
  match args.vectors? with
  | .error e => .error e
  | .ok targets =>
    .ok { args.options.request context with parameters := .ofList args.parameterList, targets }

end SearchArguments

end VectorClient
