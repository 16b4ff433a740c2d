import VectorClient.Column.Basic
import VectorClient.Json.Reading
import VectorClient.Json.Text

/-!
# Columns as JSON text

A column is an object with its name and its values, the values an object with one
member, which tells the kind. Reading does not check the values against each other:
a struct may be ragged and a sparse vector out of order.
-/

namespace VectorClient

open Ieee Json

namespace Wire

def intText (i : Int) : String := toString i

def natText (n : Nat) : String := toString n

def listText {α : Type} (text : α → String) (items : List α) : String := arrayText (items.map text)

def optionText {α : Type} (text : α → String) : Option α → String
  | none => "null"
  | some a => text a

/-- A choice that holds something. -/
def choiceText (tag content : String) : String := objectText [(tag, content)]

/-- A choice that holds nothing, read by its name. -/
def nameReading {α : Type} (tag : α → String) (all : List α) : Reading α :=
  Reading.name (all.map fun a => (tag a, a))

def dataTypeText (t : DataType) : String := stringText t.tag

def dataTypeReading : Reading DataType := nameReading DataType.tag DataType.all

def sparseText (v : SparseVector) : String :=
  objectText [("data", listText (fun p => arrayText [natText p.1.toNat, floatText p.2]) v.pairs)]

def sparseReading : Reading SparseVector := fun n t => do
  let (n, fields) ← Reading.record ["data"] n t
  match fields with
  | [data] =>
    let pair :=
      Reading.pair ((Reading.nat (UInt32.size - 1)).map UInt32.ofNat) (Reading.float .binary32)
    return ⟨← Reading.required (Reading.list pair) n data⟩
  | _ => none

def scalarText : (s : Scalar) → s.Value → String
  | .bool, b => boolText b
  | .int8, i => intText i.toInt
  | .int16, i => intText i.toInt
  | .int32, i => intText i.toInt
  | .int64, i => intText i.toInt
  | .float, x => floatText (f := .binary32) x
  | .double, x => floatText (f := .binary64) x
  | .varChar, s => stringText s

def scalarReading : (s : Scalar) → Reading s.Value
  | .bool => Reading.bool
  | .int8 => (Reading.int Int8.minValue.toInt Int8.maxValue.toInt).map Int8.ofInt
  | .int16 => (Reading.int Int16.minValue.toInt Int16.maxValue.toInt).map Int16.ofInt
  | .int32 => (Reading.int Int32.minValue.toInt Int32.maxValue.toInt).map Int32.ofInt
  | .int64 => (Reading.int Int64.minValue.toInt Int64.maxValue.toInt).map Int64.ofInt
  | .float => Reading.float .binary32
  | .double => Reading.float .binary64
  | .varChar => Reading.string

def wordText {f : Format} (w : Word f) : String := natText w.toNat

def wordReading (f : Format) : Reading (Word f) :=
  (Reading.nat (Nat.pow 2 f.width - 1)).map Word.ofNat

def rowText : (k : RowKind) → k.Row → String
  | .scalar s, x => scalarText s x
  | .json, x => Json.text x
  | .array s, xs => listText (scalarText s) xs
  | .binaryVector, bytes => listText (fun b => natText b.toNat) bytes
  | .floatVector, xs => listText floatText xs
  | .float16Vector, xs => listText wordText xs
  | .bfloat16Vector, xs => listText wordText xs
  | .int8Vector, xs => listText (fun i => intText i.toInt) xs
  | .sparseVector, v => sparseText v

def rowReading : (k : RowKind) → Reading k.Row
  | .scalar s => scalarReading s
  | .json => Reading.document
  | .array s => Reading.list (scalarReading s)
  | .binaryVector => Reading.list ((Reading.nat 255).map UInt8.ofNat)
  | .floatVector => Reading.list (Reading.float .binary32)
  | .float16Vector => Reading.list (wordReading .binary16)
  | .bfloat16Vector => Reading.list (wordReading .bfloat16)
  | .int8Vector => Reading.list (scalarReading .int8)
  | .sparseVector => sparseReading

def scalars : List Scalar := [.bool, .int8, .int16, .int32, .int64, .float, .double, .varChar]

/-- The kinds that are told by one name. -/
def kinds : List RowKind :=
  scalars.map .scalar
    ++ [.json, .binaryVector, .floatVector, .float16Vector, .bfloat16Vector, .int8Vector,
      .sparseVector]

/-- The values of a flat column; arrays name the type of their elements inside. -/
def rowsText (kind : RowKind) (rows : List kind.Row) : String :=
  let content := listText (rowText kind) rows
  match kind with
  | .array s => choiceText DataType.array.tag (choiceText s.dataType.tag content)
  | k => choiceText k.dataType.tag content

mutual

/-- The values of a column, without its name. -/
def valuesText : Column → String
  | .flat _ kind rows => rowsText kind rows
  | .struct _ parts => choiceText DataType.struct.tag (arrayText (partTexts parts))

def partTexts : List Column → List String
  | [] => []
  | part :: rest =>
    objectText [("name", stringText part.name), ("column", valuesText part)] :: partTexts rest

end

def columnText (c : Column) : String :=
  objectText [("name", stringText c.name), ("column", valuesText c)]

/-- The rows of an array column, from the object that names the type of the elements. -/
def arrayReading (name : String) : Reading Column
  | n + 1, .object [(some tag, t)] => do
    let s ← scalars.find? fun s => s.dataType.tag == tag
    return .flat name (.array s) (← Reading.list (rowReading (.array s)) n t)
  | _, _ => none

mutual

def columnReading : Reading Column
  | 0, _ => none
  | n + 1, t => do
    let (_, fields) ← Reading.record ["name", "column"] (n + 1) t
    match fields with
    | [name, values] =>
      let name ← Reading.required Reading.string n name
      valuesReading name n (← values)
    | _ => none

/-- The values of a column that has the given name. -/
def valuesReading (name : String) : Reading Column
  | n + 1, .object [(some tag, t)] =>
    if tag = DataType.struct.tag then (partsReading n t).map (.struct name)
    else if tag = DataType.array.tag then arrayReading name n t
    else do
      let kind ← kinds.find? fun k => k.dataType.tag == tag
      return .flat name kind (← Reading.list (rowReading kind) n t)
  | _, _ => none

def partsReading : Reading (List Column)
  | n + 1, .array items => items.mapM fun t => columnReading n t
  | _, _ => none

end

end Wire

end VectorClient
