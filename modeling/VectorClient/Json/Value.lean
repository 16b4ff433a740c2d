import VectorClient.Dict
import VectorClient.Ieee.Word

/-!
# JSON documents

A number is either a whole number, kept exactly, or a double. Objects hold each
key once, in ascending order; `ofMembers` builds one from members in any order,
the last of several with one key counting.
-/

namespace VectorClient

inductive Json where
  | null
  | bool (b : Bool)
  | int (i : Int)
  | double (x : Ieee.Binary64)
  | string (s : String)
  | array (items : List Json)
  | object (members : List (String × Json))

namespace Json

instance : Inhabited Json := ⟨.null⟩

def ofMembers (members : List (String × Json)) : Json :=
  .object (Dict.ofList members).entries

/-- A double as a number; values that are not finite have no number and become `null`. -/
def ofDouble (x : Ieee.Binary64) : Json := if x.isFinite then .double x else .null

mutual

/-- Equality of documents as values: doubles compare as numbers, and a whole
number never equals a double. -/
def sameValue : Json → Json → Bool
  | .null, .null => true
  | .bool a, .bool b => a == b
  | .int a, .int b => a == b
  | .double a, .double b => a.sameValue b
  | .string a, .string b => a == b
  | .array a, .array b => sameItems a b
  | .object a, .object b => sameMembers a b
  | _, _ => false

def sameItems : List Json → List Json → Bool
  | [], [] => true
  | a :: as, b :: bs => sameValue a b && sameItems as bs
  | _, _ => false

def sameMembers : List (String × Json) → List (String × Json) → Bool
  | [], [] => true
  | (k, a) :: as, (l, b) :: bs => k == l && sameValue a b && sameMembers as bs
  | _, _ => false

end

end Json

end VectorClient
