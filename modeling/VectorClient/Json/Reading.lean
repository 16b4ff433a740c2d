import VectorClient.Json.Tree

/-!
# Reading values from JSON

A reading takes the number of container levels that may still be opened and a
tree. `depthLimit` levels are allowed in all. Records are read from objects in
any order, unknown keys being skipped and a repeated one being an error, or from
arrays that hold the fields in order. A choice is read from an object with one
member, or from its name alone if it holds nothing.
-/

namespace VectorClient.Json

open Ieee

/-- Containers nest at most this deep. -/
def depthLimit : Nat := 127

abbrev Reading (α : Type) := Nat → Tree → Option α

namespace Reading

variable {α β : Type}

/-- Reads a whole text. -/
def ofText (r : Reading α) (s : String) : Option α := (Tree.parse s).bind (r depthLimit)

def map (h : α → β) (r : Reading α) : Reading β := fun n t => (r n t).map h

def bool : Reading Bool
  | _, .bool b => some b
  | _, _ => none

def string : Reading String
  | _, .string s => s
  | _, _ => none

/-- A whole number between two bounds. -/
def int (least greatest : Int) : Reading Int
  | _, .number n => n.toInt?.bind fun i => if least ≤ i ∧ i ≤ greatest then some i else none
  | _, _ => none

def nat (greatest : Nat) : Reading Nat := (int 0 greatest).map Int.toNat

/-- A number as a floating-point value: whole numbers are rounded once, others pass
through a double. -/
def float (f : Format) : Reading (Word f)
  | _, .number n =>
    match n.toInt? with
    | some i => some (Word.ofInt i)
    | none => n.toDouble?.map (Word.convert f)
  | _, _ => none

def option (r : Reading α) : Reading (Option α)
  | _, .null => some none
  | n, t => (r n t).map some

def list (r : Reading α) : Reading (List α)
  | n + 1, .array items => items.mapM (r n)
  | _, _ => none

def pair (r : Reading α) (s : Reading β) : Reading (α × β)
  | n + 1, .array [a, b] => do return (← r n a, ← s n b)
  | _, _ => none

def member (r : Reading α) (n : Nat) (m : Option String × Tree) : Option (String × α) := do
  return (← m.1, ← r n m.2)

/-- An object with arbitrary keys. -/
def dict (r : Reading α) : Reading (Dict α)
  | n + 1, .object members => (members.mapM (member r n)).map Dict.ofList
  | _, _ => none

/-- The one field of that name; `none` if there are several. -/
def uniqueField (members : List (Option String × Tree)) (name : String) : Option (Option Tree) :=
  match members.filter (fun m => m.1 == some name) with
  | [] => some none
  | [(_, t)] => some (some t)
  | _ => none

/-- The fields of a record by name, and the levels left inside it. -/
def record (names : List String) : Reading (Nat × List (Option Tree))
  | n + 1, .object members =>
    if members.all (fun m => m.1.isSome) then
      (names.mapM (uniqueField members)).map fun fields => (n, fields)
    else none
  | n + 1, .array items =>
    if items.length = names.length then some (n, items.map some) else none
  | _, _ => none

/-- A field that must be present. -/
def required (r : Reading α) (n : Nat) (field : Option Tree) : Option α := field.bind (r n)

/-- A field that may be missing or `null`. -/
def optional (r : Reading α) (n : Nat) : Option Tree → Option (Option α)
  | none => some none
  | some t => option r n t

/-- The name of a choice, and what it holds if it is written with a content. -/
def choice : Reading (String × Option (Nat × Tree))
  | _, .string (some name) => some (name, none)
  | n + 1, .object [(some name, t)] => some (name, some (n, t))
  | _, _ => none

/-- A choice among names that hold nothing. -/
def name (values : List (String × α)) : Reading α := fun n t => do
  let (name, content) ← choice n t
  match content with
  | none => values.lookup name
  | some (_, .null) => values.lookup name
  | some _ => none

mutual

/-- A document. -/
def document : Reading Json
  | _, .null => some .null
  | _, .bool b => some (.bool b)
  | _, .number n => n.toJson?
  | _, .string s => s.map .string
  | 0, .array _ => none
  | n + 1, .array items => (documents n items).map .array
  | 0, .object _ => none
  | n + 1, .object members => (memberDocuments n members).map ofMembers

def documents : Nat → List Tree → Option (List Json)
  | _, [] => some []
  | n, t :: rest => do return (← document n t) :: (← documents n rest)

def memberDocuments : Nat → List (Option String × Tree) → Option (List (String × Json))
  | _, [] => some []
  | n, (key, t) :: rest => do
    let key ← key
    return (key, ← document n t) :: (← memberDocuments n rest)

end

end Reading

/-- The document that a text holds. -/
def parse (s : String) : Option Json := Reading.document.ofText s

end VectorClient.Json
