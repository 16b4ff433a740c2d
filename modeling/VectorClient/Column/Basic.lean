import VectorClient.HalfVector
import VectorClient.Json.Value
import VectorClient.SparseVector

/-!
# Columns

A column is a name with one entry per row. Flat columns hold the rows of one
kind; a struct column holds named parts, each a column of its own, and has as
many rows as its first part. Nothing here forces the parts of a struct to agree
in their number of rows: `Column.structOf?` checks it, the constructor does not.
-/

namespace VectorClient

open Ieee

/-- The kinds of values that columns and arrays hold one by one. -/
inductive Scalar where
  | bool
  | int8
  | int16
  | int32
  | int64
  | float
  | double
  | varChar
deriving DecidableEq, Repr

namespace Scalar

abbrev Value : Scalar → Type
  | bool => Bool
  | int8 => Int8
  | int16 => Int16
  | int32 => Int32
  | int64 => Int64
  | float => Binary32
  | double => Binary64
  | varChar => String

def dataType : Scalar → DataType
  | bool => .bool
  | int8 => .int8
  | int16 => .int16
  | int32 => .int32
  | int64 => .int64
  | float => .float
  | double => .double
  | varChar => .varChar

/-- Equality of values as numbers: a NaN equals nothing, the zeros each other. -/
def sameValue : (s : Scalar) → s.Value → s.Value → Bool
  | bool, a, b => a == b
  | int8, a, b => a == b
  | int16, a, b => a == b
  | int32, a, b => a == b
  | int64, a, b => a == b
  | float, a, b => Word.sameValue a b
  | double, a, b => Word.sameValue a b
  | varChar, a, b => a == b

end Scalar

/-- The kinds of rows of flat columns. -/
inductive RowKind where
  | scalar (s : Scalar)
  | json
  | array (s : Scalar)
  | binaryVector
  | floatVector
  | float16Vector
  | bfloat16Vector
  | int8Vector
  | sparseVector
deriving DecidableEq, Repr

namespace RowKind

/-- Binary vectors are packed bits, half-precision vectors the words of their elements. -/
abbrev Row : RowKind → Type
  | scalar s => s.Value
  | json => Json
  | array s => List s.Value
  | binaryVector => List UInt8
  | floatVector => List Binary32
  | float16Vector => List Binary16
  | bfloat16Vector => List BFloat16
  | int8Vector => List Int8
  | sparseVector => SparseVector

def dataType : RowKind → DataType
  | scalar s => s.dataType
  | json => .json
  | array _ => .array
  | binaryVector => .binaryVector
  | floatVector => .floatVector
  | float16Vector => .float16Vector
  | bfloat16Vector => .bfloat16Vector
  | int8Vector => .int8Vector
  | sparseVector => .sparseFloatVector

def elementType : RowKind → Option DataType
  | array s => some s.dataType
  | _ => none

/-- Whether two lists agree in length and, entry by entry, in value. -/
def sameList {α : Type} (same : α → α → Bool) : List α → List α → Bool
  | [], [] => true
  | a :: as, b :: bs => same a b && sameList same as bs
  | _, _ => false

def sameRow : (k : RowKind) → k.Row → k.Row → Bool
  | scalar s, a, b => s.sameValue a b
  | json, a, b => Json.sameValue a b
  | array s, a, b => sameList s.sameValue a b
  | binaryVector, a, b => a == b
  | floatVector, a, b => sameList Word.sameValue a b
  | float16Vector, a, b => decide (a = b)
  | bfloat16Vector, a, b => decide (a = b)
  | int8Vector, a, b => a == b
  | sparseVector, a, b => SparseVector.sameValue a b

end RowKind

inductive Column where
  | flat (name : String) (kind : RowKind) (rows : List kind.Row)
  | struct (name : String) (parts : List Column)

namespace Column

instance : Inhabited Column := ⟨.struct "" []⟩

def name : Column → String
  | flat name _ _ => name
  | struct name _ => name

def rename (name : String) : Column → Column
  | flat _ kind rows => flat name kind rows
  | struct _ parts => struct name parts

/-- The number of rows; a struct has as many as its first part, or none without parts. -/
def rowCount : Column → Nat
  | flat _ _ rows => rows.length
  | struct _ [] => 0
  | struct _ (part :: _) => part.rowCount

def isEmpty (c : Column) : Bool := c.rowCount == 0

def dataType : Column → DataType
  | flat _ kind _ => kind.dataType
  | struct _ _ => .struct

def elementType : Column → Option DataType
  | flat _ kind _ => kind.elementType
  | struct _ _ => none

/-- The rows of a column of a given kind. -/
def rowsOf? (kind : RowKind) : Column → Option (List kind.Row)
  | flat _ k rows => if h : k = kind then some (h ▸ rows) else none
  | struct _ _ => none

def parts? : Column → Option (List Column)
  | flat _ _ _ => none
  | struct _ parts => some parts

def scalars (s : Scalar) (name : String) (rows : List s.Value) : Column :=
  flat name (.scalar s) rows

/-- The first column that does not have the given number of rows. -/
def ragged? (rows : Nat) (columns : List Column) : Option Column :=
  columns.find? fun c => c.rowCount != rows

/-- A struct column whose parts agree in their number of rows. -/
def structOf? (name : String) (parts : List Column) : Except DataError Column :=
  match parts with
  | [] => .ok (struct name [])
  | first :: _ =>
    match ragged? first.rowCount parts with
    | some part =>
      .error (.rowCountMismatch s!"{name}.{part.name}" first.rowCount part.rowCount)
    | none => .ok (struct name parts)

mutual

/-- Equality of columns, their floating-point values being compared as numbers. -/
def sameValue : Column → Column → Bool
  | flat n k a, flat m l b =>
    n == m && if h : l = k then RowKind.sameList k.sameRow a (h ▸ b) else false
  | struct n ps, struct m qs => n == m && sameParts ps qs
  | _, _ => false

def sameParts : List Column → List Column → Bool
  | [], [] => true
  | p :: ps, q :: qs => sameValue p q && sameParts ps qs
  | _, _ => false

end

end Column

end VectorClient
