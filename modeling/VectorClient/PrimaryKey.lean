import VectorClient.Column.Basic

/-!
# Primary keys

A key is an integer or a text. Integers come before texts, and texts are ordered
by their characters. In a filter expression a key stands as a literal: an integer
in decimal, a text in quotes, where a backslash protects quotes and backslashes, so
that the text of a key ends at its own closing quote.
-/

namespace VectorClient

inductive PrimaryKey where
  | int (i : Int64)
  | text (s : String)
deriving DecidableEq, Repr

namespace PrimaryKey

def dataType : PrimaryKey → DataType
  | int _ => .int64
  | text _ => .varChar

def lessEq : PrimaryKey → PrimaryKey → Bool
  | int a, int b => decide (a ≤ b)
  | int _, text _ => true
  | text _, int _ => false
  | text a, text b => decide (a ≤ b)

def sorted (keys : List PrimaryKey) : List PrimaryKey := keys.mergeSort lessEq

/-- The key as it is shown, without quotes. -/
def display : PrimaryKey → String
  | int i => toString i.toInt
  | text s => s

/-- A character inside a quoted literal. -/
def escapeChar (c : Char) : List Char := if c = '"' ∨ c = '\\' then ['\\', c] else [c]

def filterLiteral : PrimaryKey → String
  | int i => toString i.toInt
  | text s => "\"" ++ String.ofList (s.toList.flatMap escapeChar) ++ "\""

/-- The keys of all rows of a column, if every row holds one; so a column without rows
has the keys `[]`, whatever its type. -/
def ofColumn? (c : Column) : Option (List PrimaryKey) :=
  match c.rowsOf? (.scalar .int64), c.rowsOf? (.scalar .varChar) with
  | some rows, _ => some (rows.map .int)
  | none, some rows => some (rows.map .text)
  | none, none => if c.isEmpty then some [] else none

/-- The key in one row of a column. -/
def ofRow? (c : Column) (row : Nat) : Option PrimaryKey :=
  match c.rowsOf? (.scalar .int64), c.rowsOf? (.scalar .varChar) with
  | some rows, _ => rows[row]?.map .int
  | none, some rows => rows[row]?.map .text
  | none, none => none

end PrimaryKey

/-- The keys of search hits, all of one type. -/
inductive HitKeys where
  | ints (keys : List Int64)
  | texts (keys : List String)
deriving DecidableEq, Repr

namespace HitKeys

instance : Inhabited HitKeys := ⟨.ints []⟩

def length : HitKeys → Nat
  | ints keys => keys.length
  | texts keys => keys.length

def isEmpty (k : HitKeys) : Bool := k.length == 0

def get? (k : HitKeys) (i : Nat) : Option PrimaryKey :=
  match k with
  | ints keys => keys[i]?.map .int
  | texts keys => keys[i]?.map .text

/-- The keys from `start` up to `stop` as a column, if that is a range of them. -/
def toColumn? (k : HitKeys) (name : String) (start stop : Nat) : Option Column :=
  if start ≤ stop ∧ stop ≤ k.length then
    match k with
    | ints keys => some (.scalars .int64 name ((keys.take stop).drop start))
    | texts keys => some (.scalars .varChar name ((keys.take stop).drop start))
  else none

end HitKeys

end VectorClient
