import VectorClient.Iteration.RowCursor
import VectorClient.Proofs.ResultSet.Records

/-!
# Tables that queries read

A table has its rows in the ascending order of their keys, and no key twice. So the rows
behind a key are those behind its row. `Serves` says how a service answers queries from
such a table: with the first rows of those that the filter selects, as many as it likes
each time, but never none if there are some.
-/

namespace VectorClient

namespace PrimaryKey

/-- The order in which keys are iterated. -/
def before (a b : PrimaryKey) : Bool := !b.lessEq a

theorem before_irrefl (a : PrimaryKey) : a.before a = false := by
  cases a <;> simp [before, lessEq]

theorem before_asymm {a b : PrimaryKey} (h : a.before b = true) : b.before a = false := by
  cases a with
  | int i =>
      cases b with
      | int j =>
          simp only [before, lessEq, Bool.not_eq_true', decide_eq_false_iff_not,
            Bool.not_eq_false', decide_eq_true_eq] at h ⊢
          exact Int64.le_of_lt (Int64.not_le.mp h)
      | text t => rfl
  | text s =>
      cases b with
      | int j => simp [before, lessEq] at h
      | text t =>
          simp only [before, lessEq, Bool.not_eq_true', decide_eq_false_iff_not,
            Bool.not_eq_false', decide_eq_true_eq] at h ⊢
          exact (String.le_total s t).resolve_right h

end PrimaryKey

/-- Rows with their keys, in strictly ascending order. -/
structure Table (keyName : String) where
  rows : List Record
  keys : List PrimaryKey
  keys_eq : rows.map (Record.key? keyName) = keys.map some
  ascending : keys.Pairwise fun a b => a.before b = true

namespace Table

variable {keyName : String} (T : Table keyName)

/-- The rows with greater keys. -/
def after (key : PrimaryKey) : List Record :=
  T.rows.filter fun row => (row.key? keyName).any key.before

/-- The key of the row in front of a position. -/
def keyBefore : Nat → Option PrimaryKey
  | 0 => none
  | i + 1 => T.keys[i]?

theorem length_keys : T.keys.length = T.rows.length := by
  have hlength := congrArg List.length T.keys_eq
  rw [List.length_map, List.length_map] at hlength
  exact hlength.symm

theorem key?_getElem {i : Nat} {row : Record} (h : T.rows[i]? = some row) :
    row.key? keyName = T.keys[i]? := by
  have hkeys := congrArg (fun l => l[i]?) T.keys_eq
  simp only [List.getElem?_map, h, Option.map_some] at hkeys
  cases hkey : T.keys[i]? with
  | none =>
      rw [hkey] at hkeys
      cases hkeys
  | some key =>
      rw [hkey] at hkeys
      exact Option.some.inj hkeys

theorem before_getElem {i j : Nat} {a b : PrimaryKey} (ha : T.keys[i]? = some a)
    (hb : T.keys[j]? = some b) : a.before b = true ↔ i < j := by
  obtain ⟨hi, rfl⟩ := List.getElem?_eq_some_iff.mp ha
  obtain ⟨hj, rfl⟩ := List.getElem?_eq_some_iff.mp hb
  have hordered := List.pairwise_iff_getElem.mp T.ascending
  constructor
  · intro h
    rcases Nat.lt_trichotomy i j with hlt | rfl | hgt
    · exact hlt
    · rw [PrimaryKey.before_irrefl] at h
      cases h
    · rw [PrimaryKey.before_asymm (hordered j i hj hi hgt)] at h
      cases h
  · exact hordered i j hi hj

/-- The rows with greater keys than that of a row are those behind the row. -/
theorem after_eq_drop {i : Nat} {key : PrimaryKey} (h : T.keys[i]? = some key) :
    T.after key = T.rows.drop (i + 1) := by
  have hselect : ∀ j row, T.rows[j]? = some row →
      (row.key? keyName).any key.before = decide (i < j) := by
    intro j row hrow
    have hkey := T.key?_getElem hrow
    have hj : j < T.keys.length := by
      rw [T.length_keys]
      exact (List.getElem?_eq_some_iff.mp hrow).1
    rw [List.getElem?_eq_getElem hj] at hkey
    rw [hkey, Option.any_some, Bool.eq_iff_iff, decide_eq_true_eq]
    exact T.before_getElem h (List.getElem?_eq_getElem hj)
  conv_lhs => rw [after, ← List.take_append_drop (i + 1) T.rows, List.filter_append]
  rw [List.filter_eq_nil_iff.mpr, List.filter_eq_self.mpr, List.nil_append]
  · intro row hrow
    obtain ⟨j, hj⟩ := List.mem_iff_getElem?.mp hrow
    rw [List.getElem?_drop] at hj
    rw [hselect _ row hj, decide_eq_true_eq]
    omega
  · intro row hrow
    obtain ⟨j, hj⟩ := List.mem_iff_getElem?.mp hrow
    rw [List.getElem?_take] at hj
    split at hj
    · rw [hselect _ row hj, decide_eq_true_eq]
      omega
    · cases hj

/-- What a filter selects: everything under the caller's own filter, and the rows with greater
keys under the filter that a cursor makes of the key of a row. -/
inductive Selected (user : String) : String → List Record → Prop
  | all : Selected user user T.rows
  | after (key : PrimaryKey) : key ∈ T.keys →
      Selected user (Iteration.andFilter user s!"{keyName} > {key.filterLiteral}") (T.after key)

end Table

/-- A reply that holds the rows `sent`, the first of those that were selected. A reply to
an iterating query has all their columns, any other at least the keys. -/
structure Sends (keyName : String) (r : QueryRequest) (selected sent : List Record)
    (page : ResultSet) : Prop where
  first : sent <+: selected
  sent_ne_nil : selected ≠ [] → sent ≠ []
  even : page.Even sent.length
  keys : ∀ i row, sent[i]? = some row → page.primaryKeyAt? keyName i = row.key? keyName
  rows : r.parameters.get? Parameter.iterator = some (Parameter.flag true) →
    page.records = sent

namespace Table

variable {keyName : String} {σ : Type}

/-- The service answers every query of the iteration from the table. -/
def Serves (T : Table keyName) (service : Service σ) (user : String) : Prop :=
  ∀ (r : QueryRequest) deadline s selected, T.Selected user r.filter selected →
    ∃ reply s' sent, service.attempt (.query r) deadline s = (.ok reply, s') ∧
      Sends keyName r selected sent ⟨reply.columns, .empty⟩

/-- Its replies have as many rows as were asked for, if there are so many. -/
def ServesAmply (T : Table keyName) (service : Service σ) (user : String) : Prop :=
  ∀ (r : QueryRequest) deadline s selected reply s' sent n, T.Selected user r.filter selected →
    service.attempt (.query r) deadline s = (.ok reply, s') →
    Sends keyName r selected sent ⟨reply.columns, .empty⟩ →
    r.parameters.get? Parameter.limit = some (toString n) → min n selected.length ≤ sent.length

end Table

end VectorClient
