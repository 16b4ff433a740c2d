import VectorClient.Proofs.Iteration.Calls

/-!
# Draining an iteration

A caller who asks for batches until an empty one comes gets some batches with rows and
then only empty ones. `Drained` describes the outcomes of such a run, and `Pending` is
what a kind of iteration shows to prove it: the rows that are still to come, and a step
by which every call hands out the first of them.
-/

namespace VectorClient

/-- The first rows, up to the limit if there is one. -/
def Iteration.firstRows {ρ : Type} (limit : Option Nat) (rows : List ρ) : List ρ :=
  match limit with
  | none => rows
  | some n => rows.take n

namespace Iteration

variable {ρ : Type}

theorem firstRows_zero (rows : List ρ) : firstRows (some 0) rows = [] := by
  rw [firstRows, List.take_zero]

theorem firstRows_nil (limit : Option Nat) : firstRows limit ([] : List ρ) = [] := by
  cases limit with
  | none => rfl
  | some n => exact List.take_nil

theorem owed_zero (limit : Option Nat) : owed limit 0 = limit := by
  cases limit <;> rfl

theorem owed_add (limit : Option Nat) (returned count : Nat) :
    owed limit (returned + count) = (owed limit returned).map (· - count) := by
  cases limit with
  | none => rfl
  | some n => simp only [owed, Option.map_some, Nat.sub_add_eq]

/-- A batch is cut only if it meets the limit. -/
theorem capped_cases (owed : Option Nat) (rows : Nat) :
    capped owed rows = rows ∨ owed.map (· - capped owed rows) = some 0 := by
  cases owed with
  | none => exact .inl rfl
  | some n =>
      simp only [capped, Option.map_some]
      rcases Nat.le_total rows n with hle | hle
      · exact .inl (Nat.min_eq_left hle)
      · rw [Nat.min_eq_right hle, Nat.sub_self]
        exact .inr rfl

/-- The rows still owed are some of the first of them, and those owed behind these. -/
theorem firstRows_take {owed : Option Nat} {count : Nat} (h : ∀ n, owed = some n → count ≤ n)
    (rows : List ρ) :
    firstRows owed rows =
      rows.take count ++ firstRows (owed.map (· - count)) (rows.drop count) := by
  cases owed with
  | none => exact (List.take_append_drop count rows).symm
  | some n =>
      simp only [firstRows, Option.map_some]
      rw [← List.take_add, Nat.add_sub_cancel' (h n rfl)]

/-- The rows still owed are those of a batch, cut to their number, and those behind it. -/
theorem firstRows_split (owed : Option Nat) (rows : List ρ) (count : Nat) :
    firstRows owed rows = rows.take (capped owed count) ++
      firstRows (owed.map (· - capped owed count)) (rows.drop count) := by
  have hle : ∀ n, owed = some n → capped owed count ≤ n := by
    rintro n rfl
    exact Nat.min_le_right ..
  rw [firstRows_take hle rows]
  rcases capped_cases owed count with hall | hmet
  · rw [hall]
  · rw [hmet, firstRows_zero, firstRows_zero]

end Iteration

namespace BatchIterator

variable {ι β σ ρ : Type}

/-- Batches with rows, all rows in their order, and then nothing any more. -/
structure Drained (I : BatchIterator ι β σ) (records : β → List ρ) (rows : List ρ)
    (outcomes : List (Outcome β)) (full empty : List β) : Prop where
  outcomes_eq : outcomes = (full ++ empty).map .batch
  rows_eq : full.flatMap records = rows
  full_pos : ∀ b ∈ full, 0 < I.rowCount b
  full_length : ∀ b ∈ full, (records b).length = I.rowCount b
  empty_ne_nil : empty ≠ []
  empty_zero : ∀ b ∈ empty, I.rowCount b = 0

/-- All batches but the last one have the given number of rows. -/
def Whole (I : BatchIterator ι β σ) (size : Nat) (batches : List β) : Prop :=
  ∀ b ∈ batches.dropLast, I.rowCount b = size

/-- Every call hands out the first of the pending rows, and nothing only if there are none.
Where `exact` holds, a batch is followed by more rows only if it has the size of a batch. -/
def Drains (I : BatchIterator ι β σ) (records : β → List ρ) (size : Nat) (exact : Prop)
    (Pending : List ρ → ι → σ → Prop) : Prop :=
  ∀ rows it s, Pending rows it s → ∀ writes, ∃ b later it' s',
    I.nextBatch writes it s = (.ok b, it', s') ∧ (records b).length = I.rowCount b ∧
      rows = records b ++ later ∧ Pending later it' s' ∧ (I.rowCount b = 0 → later = []) ∧
      (exact → later ≠ [] → I.rowCount b = size)

namespace Drains

variable {I : BatchIterator ι β σ} {records : β → List ρ} {size : Nat} {exact : Prop}
variable {Pending : List ρ → ι → σ → Prop} {rows : List ρ} {it : ι} {s : σ}

/-- Once no rows are pending, every call gives an empty batch. -/
theorem run_nil (drains : I.Drains records size exact Pending) (h : Pending [] it s)
    (logs : List WriteLog) : ∃ (empty : List β) (it' : ι) (s' : σ),
      I.run (logs.map fun writes => (.nextBatch, writes)) it s = (empty.map .batch, it', s') ∧
        Pending [] it' s' ∧ ∀ b ∈ empty, I.rowCount b = 0 := by
  induction logs generalizing it s with
  | nil => exact ⟨[], it, s, rfl, h, nofun⟩
  | cons writes logs ih =>
      obtain ⟨b, later, it', s', hcall, hlength, hrows, hpending, _⟩ := drains _ _ _ h writes
      obtain ⟨hnil, rfl⟩ := List.append_eq_nil_iff.mp hrows.symm
      obtain ⟨empty, it'', s'', hrun, hlast, hzero⟩ := ih hpending
      refine ⟨b :: empty, it'', s'', ?_, hlast, ?_⟩
      · rw [List.map_cons, I.run_cons (I.perform_nextBatch hcall), hrun, List.map_cons]
      · intro b' hb'
        rcases List.mem_cons.mp hb' with rfl | hmem
        · rw [← hlength, hnil, List.length_nil]
        · exact hzero b' hmem

/-- With more calls than rows the iteration is drained, by induction on the calls. -/
theorem drained (drains : I.Drains records size exact Pending) (h : Pending rows it s)
    (logs : List WriteLog) (hlogs : rows.length < logs.length) :
    ∃ outcomes full empty it' s',
      I.run (logs.map fun writes => (.nextBatch, writes)) it s = (outcomes, it', s') ∧
      Pending [] it' s' ∧ I.Drained records rows outcomes full empty ∧
      (exact → I.Whole size full) := by
  induction logs generalizing rows it s with
  | nil => exact absurd hlogs (Nat.not_lt_zero _)
  | cons writes logs ih =>
      obtain ⟨b, later, it', s', hcall, hlength, hrows, hpending, hzero, hsize⟩ :=
        drains _ _ _ h writes
      rw [List.map_cons, I.run_cons (I.perform_nextBatch hcall)]
      by_cases hb : I.rowCount b = 0
      · have hlater := hzero hb
        subst hlater
        rw [hb, List.length_eq_zero_iff] at hlength
        obtain ⟨empty, it'', s'', hempty, hlast, hall⟩ := drains.run_nil hpending logs
        rw [hempty]
        refine ⟨_, [], b :: empty, it'', s'', rfl, hlast,
          ⟨?_, ?_, nofun, nofun, List.cons_ne_nil _ _, ?_⟩, fun _ => nofun⟩
        · rw [List.nil_append, List.map_cons]
        · rw [hrows, hlength]
          rfl
        · intro b' hb'
          rcases List.mem_cons.mp hb' with rfl | hmem
          · exact hb
          · exact hall b' hmem
      · have hfewer : later.length < logs.length := by
          rw [hrows, List.length_append, List.length_cons] at hlogs
          omega
        obtain ⟨outcomes, full, empty, it'', s'', hrun, hlast, hdrained, hwhole⟩ :=
          ih hpending hfewer
        rw [hrun]
        refine ⟨_, b :: full, empty, it'', s'', rfl, hlast,
          ⟨?_, ?_, ?_, ?_, hdrained.empty_ne_nil, hdrained.empty_zero⟩, ?_⟩
        · rw [hdrained.outcomes_eq, List.cons_append, List.map_cons]
        · rw [List.flatMap_cons, hdrained.rows_eq, hrows]
        · exact List.forall_mem_cons.mpr ⟨Nat.pos_of_ne_zero hb, hdrained.full_pos⟩
        · exact List.forall_mem_cons.mpr ⟨hlength, hdrained.full_length⟩
        · intro hexact
          cases full with
          | nil => nofun
          | cons next rest =>
              refine List.forall_mem_cons.mpr ⟨hsize hexact ?_, hwhole hexact⟩
              -- the next batch has rows, so some were still to come
              rintro rfl
              have hnext := hdrained.full_pos next (List.mem_cons_self ..)
              have hnone := hdrained.rows_eq
              rw [List.flatMap_cons, List.append_eq_nil_iff] at hnone
              rw [← hdrained.full_length next (List.mem_cons_self ..), hnone.1] at hnext
              exact Nat.lt_irrefl 0 hnext

end Drains

end BatchIterator

end VectorClient
