import VectorClient.Lookup
import VectorClient.Metric
import VectorClient.Timestamp

/-!
# Timestamps of writes

A write log remembers, for every collection of every database, the latest
timestamp at which this client or one that shares the log has written to it. A
read at session consistency asks for data at least that fresh.
-/

namespace VectorClient

/-- A collection within a database. -/
structure CollectionId where
  database : String
  collection : String
deriving DecidableEq, Repr

structure WriteLog where
  entries : List (CollectionId × Nat)
deriving DecidableEq, Repr, Inhabited

namespace WriteLog

def empty : WriteLog := ⟨[]⟩

def get? (log : WriteLog) (id : CollectionId) : Option Nat := log.entries.lookup id

/-- Keeps the later of the recorded and the new timestamp. -/
def recordEntry (id : CollectionId) (ts : Nat) :
    List (CollectionId × Nat) → List (CollectionId × Nat)
  | [] => [(id, ts)]
  | (key, old) :: rest =>
    if key = id then (key, max old ts) :: rest else (key, old) :: recordEntry id ts rest

def record (log : WriteLog) (id : CollectionId) (ts : Nat) : WriteLog :=
  ⟨recordEntry id ts log.entries⟩

def forget (log : WriteLog) (id : CollectionId) : WriteLog :=
  ⟨log.entries.filter fun e => e.1 != id⟩

def length (log : WriteLog) : Nat := log.entries.length

/-- The timestamp that a read has to wait for. -/
def guarantee (log : WriteLog) (level : Consistency) (id : CollectionId) : Nat :=
  match level with
  | .strong => Timestamp.strong
  | .bounded => Timestamp.bounded
  | .eventually => Timestamp.eventual
  | .session | .collectionDefault => (log.get? id).getD Timestamp.eventual

theorem lookup_recordEntry (id other : CollectionId) (ts : Nat)
    (entries : List (CollectionId × Nat)) :
    (recordEntry id ts entries).lookup other =
      if other = id then some (max ((entries.lookup id).getD 0) ts) else entries.lookup other := by
  induction entries with
  | nil =>
    rw [recordEntry, lookup_cons_eq]
    split <;> simp
  | cons e rest ih =>
    obtain ⟨key, old⟩ := e
    rw [recordEntry]
    split
    · rename_i h
      subst h
      simp only [lookup_cons_eq, if_pos]
      split <;> rfl
    · rename_i h
      rw [lookup_cons_eq, ih, lookup_cons_eq, lookup_cons_eq, if_neg (Ne.symm h)]
      by_cases ho : other = id
      · rw [if_pos ho, if_pos ho, if_neg (by rw [ho]; exact Ne.symm h)]
      · rw [if_neg ho, if_neg ho]

@[simp] theorem get?_record (log : WriteLog) (id other : CollectionId) (ts : Nat) :
    (log.record id ts).get? other =
      if other = id then some (max ((log.get? id).getD 0) ts) else log.get? other :=
  lookup_recordEntry id other ts log.entries

@[simp] theorem get?_empty (id : CollectionId) : empty.get? id = none := rfl

theorem lookup_filter_ne (id other : CollectionId) (entries : List (CollectionId × Nat)) :
    (entries.filter fun e => e.1 != id).lookup other =
      if other = id then none else entries.lookup other := by
  induction entries with
  | nil => simp
  | cons e rest ih =>
    obtain ⟨key, old⟩ := e
    by_cases hk : key = id
    · rw [List.filter_cons_of_neg (by simp [hk]), ih, lookup_cons_eq]
      by_cases ho : other = id
      · rw [if_pos ho, if_pos ho]
      · rw [if_neg ho, if_neg ho, if_neg (by rw [hk]; exact ho)]
    · rw [List.filter_cons_of_pos (by simp [hk]), lookup_cons_eq, lookup_cons_eq, ih]
      by_cases ho : other = id
      · rw [if_pos ho, if_pos ho, if_neg (by rw [ho]; exact Ne.symm hk)]
      · rw [if_neg ho, if_neg ho]

@[simp] theorem get?_forget (log : WriteLog) (id other : CollectionId) :
    (log.forget id).get? other = if other = id then none else log.get? other :=
  lookup_filter_ne id other log.entries

end WriteLog

end VectorClient
