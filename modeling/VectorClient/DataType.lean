/-!
# Data types and field schemas

The closed list of column types, their display names, and the schema of one
field as a server reports it.
-/

namespace VectorClient

inductive DataType where
  | bool
  | int8
  | int16
  | int32
  | int64
  | float
  | double
  | varChar
  | json
  | array
  | binaryVector
  | floatVector
  | float16Vector
  | bfloat16Vector
  | int8Vector
  | sparseFloatVector
  | struct
deriving DecidableEq, Repr, Inhabited

namespace DataType

/-- The name shown in messages. -/
def name : DataType → String
  | bool => "Bool"
  | int8 => "Int8"
  | int16 => "Int16"
  | int32 => "Int32"
  | int64 => "Int64"
  | float => "Float"
  | double => "Double"
  | varChar => "VarChar"
  | json => "JSON"
  | array => "Array"
  | binaryVector => "BinaryVector"
  | floatVector => "FloatVector"
  | float16Vector => "Float16Vector"
  | bfloat16Vector => "BFloat16Vector"
  | int8Vector => "Int8Vector"
  | sparseFloatVector => "SparseFloatVector"
  | struct => "Struct"

/-- The name used in encoded data, which differs from the shown one for JSON alone. -/
def tag : DataType → String
  | json => "Json"
  | t => t.name

def all : List DataType :=
  [bool, int8, int16, int32, int64, float, double, varChar, json, array, binaryVector,
    floatVector, float16Vector, bfloat16Vector, int8Vector, sparseFloatVector, struct]

def isVector : DataType → Bool
  | binaryVector | floatVector | float16Vector | bfloat16Vector | int8Vector
  | sparseFloatVector => true
  | _ => false

def isPrimaryKeyType : DataType → Bool
  | int64 | varChar => true
  | _ => false

end DataType

/-- Schema of a single field. -/
structure FieldSchema where
  name : String
  dataType : DataType
  /-- For arrays only. -/
  elementType : Option DataType
  isPrimaryKey : Bool
  /-- The server generates the primary key. -/
  autoId : Bool
  /-- For dense vectors only. -/
  dimension : Option Nat
deriving DecidableEq, Repr, Inhabited

namespace FieldSchema

def plain (name : String) (type : DataType) : FieldSchema :=
  ⟨name, type, none, false, false, none⟩

def primaryKey (name : String) (type : DataType) : FieldSchema :=
  { plain name type with isPrimaryKey := true }

end FieldSchema

end VectorClient
