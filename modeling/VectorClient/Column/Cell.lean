import VectorClient.Column.Basic

/-!
# Cells as documents

One row of a column as a JSON document. Floating-point values of every precision
are shown as doubles, and as `null` where they are not finite. A sparse vector is
an object keyed by its indices, a struct row an object keyed by its parts.
-/

namespace VectorClient

open Ieee

def Json.ofFloat {f : Format} (x : Word f) : Json := Json.ofDouble (x.convert .binary64)

def Scalar.toJson : (s : Scalar) → s.Value → Json
  | bool, b => .bool b
  | int8, i => .int i.toInt
  | int16, i => .int i.toInt
  | int32, i => .int i.toInt
  | int64, i => .int i.toInt
  | float, x => Json.ofFloat (f := .binary32) x
  | double, x => Json.ofDouble x
  | varChar, s => .string s

def SparseVector.toJson (v : SparseVector) : Json :=
  Json.ofMembers (v.pairs.map fun (i, x) => (toString i.toNat, Json.ofFloat x))

def RowKind.toJson : (k : RowKind) → k.Row → Json
  | scalar s, x => s.toJson x
  | json, x => x
  | array s, xs => .array (xs.map s.toJson)
  | binaryVector, bytes => .array (bytes.map fun b => .int b.toNat)
  | floatVector, xs => .array (xs.map Json.ofFloat)
  | float16Vector, xs => .array (xs.map fun h => Json.ofFloat (HalfVector.ofBinary16 h))
  | bfloat16Vector, xs => .array (xs.map fun h => Json.ofFloat (HalfVector.ofBFloat16 h))
  | int8Vector, xs => .array (xs.map fun i => .int i.toInt)
  | sparseVector, v => SparseVector.toJson v

namespace Column

mutual

/-- The cell in a row; a struct row needs a cell in every part. -/
def cell? (row : Nat) : Column → Option Json
  | flat _ kind rows => rows[row]?.map kind.toJson
  | struct _ parts => (partCells row parts).map Json.ofMembers

def partCells (row : Nat) : List Column → Option (List (String × Json))
  | [] => some []
  | part :: rest => do
    let value ← cell? row part
    let values ← partCells row rest
    return (part.name, value) :: values

end

/-- The row of a half-precision vector column, widened. -/
def halfVector? (row : Nat) (c : Column) : Option (List Binary32) :=
  match c.rowsOf? .float16Vector, c.rowsOf? .bfloat16Vector with
  | some rows, _ => rows[row]?.map (List.map HalfVector.ofBinary16)
  | none, some rows => rows[row]?.map (List.map HalfVector.ofBFloat16)
  | none, none => none

end Column

end VectorClient
