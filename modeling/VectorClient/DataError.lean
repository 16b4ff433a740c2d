import VectorClient.DataType

/-!
# Errors of columns and their encodings

An error names its cause; `DataError.message` is the one place where causes are
put into words. The text of an unacceptable value is cut to a hundred bytes, at
a character boundary.
-/

namespace VectorClient

/-- Why a payload cannot be decoded, or a vector not be encoded. -/
inductive EncodingFault where
  | oddHalfPayload (length : Nat)
  | raggedSparsePayload (length : Nat)
  | duplicateIndex (index : Nat)
  | unsortedIndices
  | other (text : String)
deriving DecidableEq, Repr

/-- Why a value is not acceptable. -/
inductive ValueFault where
  | structLayout (field : String)
  | missingAppended (column : String)
  | missingSearched (column : String)
  | unknownMetric (text : String)
  | other (text : String)
deriving DecidableEq, Repr

inductive DataError where
  | encoding (fault : EncodingFault)
  | typeMismatch (field : String) (expected actual : DataType)
  | rowCountMismatch (field : String) (expected actual : Nat)
  | invalidRange (field : String) (start stop rows : Nat)
  | invalidValue (fault : ValueFault)
  | unsupported (type : DataType) (position : String)
deriving DecidableEq, Repr

namespace EncodingFault

def message : EncodingFault → String
  | oddHalfPayload n => s!"half-precision payload has odd length {n}"
  | raggedSparsePayload n => s!"sparse vector byte length {n} is not a multiple of 8"
  | duplicateIndex i => s!"duplicate index {i} in sparse vector"
  | unsortedIndices => "sparse vector indices not sorted"
  | other text => text

end EncodingFault

namespace ValueFault

def description : ValueFault → String
  | structLayout field => s!"struct field '{field}' has a different sub-field layout"
  | missingAppended column => s!"appended rows are missing column '{column}'"
  | missingSearched column => s!"search result is missing column '{column}'"
  | unknownMetric text => s!"unknown metric type '{text}'"
  | other text => text

/-- Longest text shown in full, in bytes. -/
def maxShown : Nat := 100

/-- The characters that fit into a number of bytes. -/
def takeBytes : Nat → List Char → List Char
  | _, [] => []
  | n, c :: cs => if c.utf8Size ≤ n then c :: takeBytes (n - c.utf8Size) cs else []

def message (fault : ValueFault) : String :=
  let text := fault.description
  if text.utf8ByteSize ≤ maxShown then text
  else String.ofList (takeBytes maxShown text.toList) ++ "..."

end ValueFault

namespace DataError

/-- The name of the cause. -/
def tag : DataError → String
  | encoding _ => "Encoding"
  | typeMismatch _ _ _ => "TypeMismatch"
  | rowCountMismatch _ _ _ => "RowCountMismatch"
  | invalidRange _ _ _ _ => "InvalidRange"
  | invalidValue _ => "InvalidValue"
  | unsupported _ _ => "Unsupported"

def message : DataError → String
  | encoding fault => "encoding error: " ++ fault.message
  | typeMismatch field expected actual =>
    s!"type mismatch on field '{field}': expected {expected.name}, got {actual.name}"
  | rowCountMismatch field expected actual =>
    s!"row count mismatch on field '{field}': expected {expected}, got {actual}"
  | invalidRange field start stop rows =>
    s!"invalid range [{start}, {stop}) for field '{field}' with {rows} rows"
  | invalidValue fault => "invalid value: " ++ fault.message
  | unsupported type position => s!"unsupported data type {type.name} for {position}"

end DataError

end VectorClient
