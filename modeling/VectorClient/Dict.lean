import VectorClient.Lookup

/-!
# Dictionaries with text keys

A dictionary keeps its entries in ascending order of their keys, so that it is
printed in one way only and two dictionaries with the same look-ups are equal.
`NameSet` is the same for names alone.
-/

namespace VectorClient

structure Dict (α : Type) where
  entries : List (String × α)
deriving DecidableEq, Repr

namespace Dict

variable {α : Type}

instance : Inhabited (Dict α) := ⟨⟨[]⟩⟩

def empty : Dict α := ⟨[]⟩

/-- Places an entry before the first greater key, in place of an equal one. -/
def insertEntry (key : String) (value : α) : List (String × α) → List (String × α)
  | [] => [(key, value)]
  | (k, v) :: rest =>
    if key = k then (key, value) :: rest
    else if key < k then (key, value) :: (k, v) :: rest
    else (k, v) :: insertEntry key value rest

def insert (d : Dict α) (key : String) (value : α) : Dict α :=
  ⟨insertEntry key value d.entries⟩

def get? (d : Dict α) (key : String) : Option α := d.entries.lookup key

/-- The dictionary of some entries; of two with one key the later one stays. -/
def ofList (entries : List (String × α)) : Dict α :=
  entries.foldl (fun d e => d.insert e.1 e.2) empty

/-- The entries of `other` inserted into `d`. -/
def insertAll (d other : Dict α) : Dict α :=
  other.entries.foldl (fun d e => d.insert e.1 e.2) d

theorem lookup_insertEntry (key k : String) (value : α) (entries : List (String × α)) :
    (insertEntry key value entries).lookup k
      = if k = key then some value else entries.lookup k := by
  induction entries with
  | nil => rw [insertEntry, lookup_cons_eq]
  | cons e rest ih =>
    obtain ⟨k', v'⟩ := e
    rw [insertEntry]
    split
    · rename_i h
      subst h
      rw [lookup_cons_eq, lookup_cons_eq]
      split <;> rfl
    · split
      · rw [lookup_cons_eq]
      · rename_i h _
        rw [lookup_cons_eq, lookup_cons_eq, ih]
        by_cases hk : k = key
        · rw [if_pos hk, if_pos hk, if_neg (by rw [hk]; exact h)]
        · rw [if_neg hk, if_neg hk]

@[simp] theorem get?_insert (d : Dict α) (key k : String) (value : α) :
    (d.insert key value).get? k = if k = key then some value else d.get? k :=
  lookup_insertEntry key k value d.entries

@[simp] theorem get?_empty (k : String) : (empty : Dict α).get? k = none := rfl

theorem get?_foldl_of_not_mem {k : String} {entries : List (String × α)}
    (h : k ∉ entries.map Prod.fst) (d : Dict α) :
    (entries.foldl (fun d e => d.insert e.1 e.2) d).get? k = d.get? k := by
  induction entries generalizing d with
  | nil => rfl
  | cons e rest ih =>
    rw [List.map_cons, List.mem_cons, not_or] at h
    rw [List.foldl_cons, ih h.2, get?_insert, if_neg h.1]

theorem get?_foldl_of_mem {k : String} {v : α} {entries : List (String × α)}
    (hnames : (entries.map Prod.fst).Nodup) (h : (k, v) ∈ entries) (d : Dict α) :
    (entries.foldl (fun d e => d.insert e.1 e.2) d).get? k = some v := by
  induction entries generalizing d with
  | nil => cases h
  | cons e rest ih =>
    rw [List.map_cons, List.nodup_cons] at hnames
    rw [List.foldl_cons]
    rcases List.mem_cons.mp h with rfl | hmem
    · rw [get?_foldl_of_not_mem hnames.1, get?_insert, if_pos rfl]
    · exact ih hnames.2 hmem _

/-- An entry of a list without repeated keys is found under its key. -/
theorem get?_ofList_of_mem {k : String} {v : α} {entries : List (String × α)}
    (hnames : (entries.map Prod.fst).Nodup) (h : (k, v) ∈ entries) :
    (ofList entries).get? k = some v :=
  get?_foldl_of_mem hnames h empty

end Dict

/-- A set of names in ascending order. -/
structure NameSet where
  names : List String
deriving DecidableEq, Repr, Inhabited

namespace NameSet

def empty : NameSet := ⟨[]⟩

def isEmpty (s : NameSet) : Bool := s.names.isEmpty

def contains (s : NameSet) (name : String) : Bool := s.names.contains name

def insertName (name : String) : List String → List String
  | [] => [name]
  | n :: rest =>
    if name = n then n :: rest
    else if name < n then name :: n :: rest
    else n :: insertName name rest

def insert (s : NameSet) (name : String) : NameSet := ⟨insertName name s.names⟩

def ofList (names : List String) : NameSet := names.foldl insert empty

def union (s t : NameSet) : NameSet := t.names.foldl insert s

theorem mem_insertName {n name : String} {names : List String} :
    n ∈ insertName name names ↔ n = name ∨ n ∈ names := by
  induction names with
  | nil => simp [insertName]
  | cons m rest ih =>
    by_cases h : name = m
    · subst h
      simp [insertName]
    · by_cases hlt : name < m
      · simp [insertName, h, hlt]
      · simp only [insertName, h, hlt, if_false, List.mem_cons, ih]
        constructor
        · rintro (rfl | rfl | hr) <;> simp [*]
        · rintro (rfl | rfl | hr) <;> simp [*]

end NameSet

end VectorClient
