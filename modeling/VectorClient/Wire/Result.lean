import VectorClient.HitPage
import VectorClient.Wire.Column

/-!
# Results, keys and schemas as JSON text
-/

namespace VectorClient.Wire

open Json

/-- A field without an element type or a dimension has `null` there. -/
def fieldSchemaText (s : FieldSchema) : String :=
  objectText [("name", stringText s.name), ("data_type", dataTypeText s.dataType),
    ("element_type", optionText dataTypeText s.elementType),
    ("is_primary_key", boolText s.isPrimaryKey), ("auto_id", boolText s.autoId),
    ("dimension", optionText natText s.dimension)]

/-- The element type and the dimension may be missing; a dimension fits 32 bits. -/
def fieldSchemaReading : Reading FieldSchema := fun n t => do
  let names := ["name", "data_type", "element_type", "is_primary_key", "auto_id", "dimension"]
  let (n, fields) ← Reading.record names n t
  match fields with
  | [name, dataType, elementType, isPrimaryKey, autoId, dimension] =>
    return {
      name := ← Reading.required Reading.string n name
      dataType := ← Reading.required dataTypeReading n dataType
      elementType := ← Reading.optional dataTypeReading n elementType
      isPrimaryKey := ← Reading.required Reading.bool n isPrimaryKey
      autoId := ← Reading.required Reading.bool n autoId
      dimension := ← Reading.optional (Reading.nat (UInt32.size - 1)) n dimension }
  | _ => none

/-- A key under the name of its type. -/
def primaryKeyText : PrimaryKey → String
  | .int i => choiceText "Int64" (intText i.toInt)
  | .text s => choiceText "VarChar" (stringText s)

def primaryKeyReading : Reading PrimaryKey := fun n t => do
  match ← Reading.choice n t with
  | ("Int64", some (n, t)) => return .int (← scalarReading .int64 n t)
  | ("VarChar", some (n, t)) => return .text (← Reading.string n t)
  | _ => none

/-- All keys of a reply have one type, which is named once. -/
def hitKeysText : HitKeys → String
  | .ints keys => choiceText "Int" (listText (scalarText .int64) keys)
  | .texts keys => choiceText "Str" (listText stringText keys)

def hitKeysReading : Reading HitKeys := fun n t => do
  match ← Reading.choice n t with
  | ("Int", some (n, t)) => return .ints (← Reading.list (scalarReading .int64) n t)
  | ("Str", some (n, t)) => return .texts (← Reading.list Reading.string n t)
  | _ => none

def columnsText (columns : List Column) : String := listText columnText columns

def namesText (names : List String) : String := listText stringText names

def columnsReading : Reading (List Column) := Reading.list columnReading

def namesReading : Reading (List String) := Reading.list Reading.string

/-- The columns and the names asked for, also those of which there is no column. -/
def resultSetText (r : ResultSet) : String :=
  objectText [("fields", columnsText r.columns), ("output_names", namesText r.outputNames.names)]

/-- Reads columns as they stand, ragged ones as well. Names are put in order and kept once. -/
def resultSetReading : Reading ResultSet := fun n t => do
  let (n, fields) ← Reading.record ["fields", "output_names"] n t
  match fields with
  | [columns, names] =>
    return {
      columns := ← Reading.required columnsReading n columns
      outputNames := .ofList (← Reading.required namesReading n names) }
  | _ => none

/-- A page with the names under which its keys and scores stand among its columns. -/
def hitPageText (p : HitPage) : String :=
  objectText [("pk_name", stringText p.keyName), ("score_name", stringText p.scoreName),
    ("results", resultSetText p.results)]

def hitPageReading : Reading HitPage := fun n t => do
  let (n, fields) ← Reading.record ["pk_name", "score_name", "results"] n t
  match fields with
  | [keyName, scoreName, results] =>
    return {
      keyName := ← Reading.required Reading.string n keyName
      scoreName := ← Reading.required Reading.string n scoreName
      results := ← Reading.required resultSetReading n results }
  | _ => none

end VectorClient.Wire
