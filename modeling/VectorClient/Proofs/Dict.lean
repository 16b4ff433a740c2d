import Mathlib.Data.String.Basic
import VectorClient.Dict

/-!
# Dictionaries in order

A dictionary that was built by insertions has its entries in strictly ascending order,
so no key occurs twice in it. Inserting all of its entries into another dictionary
therefore gives precedence to it, entry by entry. A set of names is in order as well, so that
names it has already do not change it.
-/

namespace VectorClient

namespace Dict

variable {α : Type}

def Sorted (d : Dict α) : Prop := d.entries.Pairwise fun a b => a.1 < b.1

theorem mem_insertEntry {key : String} {value : α} {entries : List (String × α)} {e : String × α}
    (h : e ∈ insertEntry key value entries) : e = (key, value) ∨ e ∈ entries := by
  induction entries with
  | nil => exact .inl (List.mem_singleton.mp h)
  | cons first rest ih =>
      obtain ⟨k, v⟩ := first
      rw [insertEntry] at h
      split at h
      · rcases List.mem_cons.mp h with rfl | hmem
        · exact .inl rfl
        · exact .inr (List.mem_cons_of_mem _ hmem)
      split at h
      · rcases List.mem_cons.mp h with rfl | hmem
        · exact .inl rfl
        · exact .inr hmem
      · rcases List.mem_cons.mp h with rfl | hmem
        · exact .inr (List.mem_cons_self ..)
        · exact (ih hmem).imp_right (List.mem_cons_of_mem _)

theorem pairwise_insertEntry (key : String) (value : α) {entries : List (String × α)}
    (h : entries.Pairwise fun a b => a.1 < b.1) :
    (insertEntry key value entries).Pairwise fun a b => a.1 < b.1 := by
  induction entries with
  | nil => exact List.pairwise_singleton ..
  | cons first rest ih =>
      obtain ⟨k, v⟩ := first
      obtain ⟨hfirst, hrest⟩ := List.pairwise_cons.mp h
      rw [insertEntry]
      split
      · rename_i heq
        subst heq
        exact List.pairwise_cons.mpr ⟨hfirst, hrest⟩
      split
      · rename_i _ hlt
        refine List.pairwise_cons.mpr ⟨?_, h⟩
        intro e he
        rcases List.mem_cons.mp he with rfl | hmem
        · exact hlt
        · exact lt_trans hlt (hfirst e hmem)
      · rename_i hne hnlt
        refine List.pairwise_cons.mpr ⟨?_, ih hrest⟩
        intro e he
        rcases mem_insertEntry he with rfl | hmem
        · exact lt_of_le_of_ne (not_lt.mp hnlt) (Ne.symm hne)
        · exact hfirst e hmem

theorem Sorted.insert {d : Dict α} (h : d.Sorted) (key : String) (value : α) :
    (d.insert key value).Sorted :=
  pairwise_insertEntry key value h

/-- In whatever order the entries come, the keys are in ascending order. -/
theorem sorted_ofList (entries : List (String × α)) : (ofList entries).Sorted := by
  have hfold : ∀ (rest : List (String × α)) {d : Dict α}, d.Sorted →
      (rest.foldl (fun d e => d.insert e.1 e.2) d).Sorted := by
    intro rest
    induction rest with
    | nil => exact fun h => h
    | cons e rest ih => exact fun h => ih (h.insert e.1 e.2)
  exact hfold entries .nil

theorem Sorted.nodup {d : Dict α} (h : d.Sorted) : (d.entries.map Prod.fst).Nodup :=
  List.pairwise_map.mpr (h.imp fun hlt => ne_of_lt hlt)

theorem get?_ofList_of_not_mem {k : String} {entries : List (String × α)}
    (h : k ∉ entries.map Prod.fst) : (ofList entries).get? k = none :=
  get?_foldl_of_not_mem h empty

/-- What is found under a key is an entry. -/
theorem mem_entries_of_get? {d : Dict α} {k : String} {v : α} (h : d.get? k = some v) :
    (k, v) ∈ d.entries := by
  rw [get?] at h
  induction hentries : d.entries generalizing d with
  | nil =>
      rw [hentries] at h
      cases h
  | cons e rest ih =>
      obtain ⟨key, value⟩ := e
      rw [hentries, lookup_cons_eq] at h
      split at h
      · rename_i heq
        cases h
        rw [heq]
        exact List.mem_cons_self ..
      · exact List.mem_cons_of_mem _ (ih (d := ⟨rest⟩) h rfl)

theorem not_mem_of_get?_eq_none {d : Dict α} {k : String} (h : d.get? k = none) :
    k ∉ d.entries.map Prod.fst := by
  rw [get?, List.lookup_eq_none_iff] at h
  intro hmem
  obtain ⟨e, he, rfl⟩ := List.mem_map.mp hmem
  simpa using h e he

/-- Entries that are inserted take the place of those with the same key. -/
theorem get?_insertAll {d other : Dict α} (hother : other.Sorted) (k : String) :
    (d.insertAll other).get? k = (other.get? k).or (d.get? k) := by
  rw [insertAll]
  cases hfound : other.get? k with
  | some v => rw [get?_foldl_of_mem hother.nodup (mem_entries_of_get? hfound), Option.some_or]
  | none => rw [get?_foldl_of_not_mem (not_mem_of_get?_eq_none hfound), Option.none_or]

end Dict

namespace NameSet

def Sorted (s : NameSet) : Prop := s.names.Pairwise (· < ·)

theorem pairwise_insertName (name : String) {names : List String}
    (h : names.Pairwise (· < ·)) : (insertName name names).Pairwise (· < ·) := by
  induction names with
  | nil => exact List.pairwise_singleton ..
  | cons n rest ih =>
      obtain ⟨hfirst, hrest⟩ := List.pairwise_cons.mp h
      rw [insertName]
      split
      · exact h
      split
      · rename_i _ hlt
        apply List.pairwise_cons.mpr
        refine ⟨?_, h⟩
        intro m hm
        rcases List.mem_cons.mp hm with rfl | hmem
        · exact hlt
        · exact lt_trans hlt (hfirst m hmem)
      · rename_i hne hnlt
        apply List.pairwise_cons.mpr
        refine ⟨?_, ih hrest⟩
        intro m hm
        rcases mem_insertName.mp hm with rfl | hmem
        · exact lt_of_le_of_ne (not_lt.mp hnlt) (Ne.symm hne)
        · exact hfirst m hmem

theorem insertName_of_mem {name : String} {names : List String}
    (h : names.Pairwise (· < ·)) (hmem : name ∈ names) : insertName name names = names := by
  induction names with
  | nil => cases hmem
  | cons n rest ih =>
      obtain ⟨hfirst, hrest⟩ := List.pairwise_cons.mp h
      rw [insertName]
      split
      · rfl
      · rename_i hne
        have hlater : name ∈ rest := (List.mem_cons.mp hmem).resolve_left hne
        rw [if_neg (lt_asymm (hfirst name hlater)), ih hrest hlater]

theorem sorted_foldl_insert (names : List String) {s : NameSet} (h : s.Sorted) :
    (names.foldl insert s).Sorted := by
  induction names generalizing s with
  | nil => exact h
  | cons name rest ih =>
      apply ih
      exact pairwise_insertName name h

theorem sorted_ofList (names : List String) : (ofList names).Sorted :=
  sorted_foldl_insert names .nil

theorem Sorted.union {s : NameSet} (h : s.Sorted) (t : NameSet) : (s.union t).Sorted :=
  sorted_foldl_insert t.names h

/-- Names that are there already change nothing. -/
theorem Sorted.union_of_subset {s t : NameSet} (h : s.Sorted) (hsub : t.names ⊆ s.names) :
    s.union t = s := by
  rw [NameSet.union]
  generalize t.names = names at hsub
  induction names with
  | nil => rfl
  | cons name rest ih =>
      obtain ⟨hname, hrest⟩ := List.cons_subset.mp hsub
      have hinsert : s.insert name = s := congrArg mk (insertName_of_mem h hname)
      rw [List.foldl_cons, hinsert, ih hrest]

theorem mem_foldl_insert {name : String} (names : List String) (s : NameSet) :
    name ∈ (names.foldl insert s).names ↔ name ∈ s.names ∨ name ∈ names := by
  induction names generalizing s with
  | nil => simp
  | cons first rest ih =>
      rw [List.foldl_cons, ih, List.mem_cons, insert, mem_insertName]
      constructor
      · rintro ((hfirst | hs) | hrest)
        · exact .inr (.inl hfirst)
        · exact .inl hs
        · exact .inr (.inr hrest)
      · rintro (hs | hfirst | hrest)
        · exact .inl (.inr hs)
        · exact .inl (.inl hfirst)
        · exact .inr hrest

theorem contains_union (s t : NameSet) (name : String) :
    (s.union t).contains name = (s.contains name || t.contains name) := by
  rw [Bool.eq_iff_iff, Bool.or_eq_true]
  simp only [contains, List.contains_iff_mem]
  exact mem_foldl_insert t.names s

end NameSet

end VectorClient
