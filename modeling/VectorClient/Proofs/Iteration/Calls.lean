import Mathlib.Data.List.Forall2
import VectorClient.Iteration.RowCursor
import VectorClient.Iteration.SearchCursor

/-!
# Calls on an iteration

The kinds of iterations differ in how they get a batch, not in how they are used.
A caller asks by `nextBatch` or by `next` in any order, and other work of the client
may change the log of writes from one call to the next. `run` makes a list of such
calls, and `Ledger` says what a single `nextBatch` has to keep for the accounts of
every run to be right.
-/

namespace VectorClient

theorem exists_ok_of_isOk {α σ : Type} {outcome : Except ClientError α × σ}
    (h : outcome.1.isOk = true) : ∃ a s, outcome = (.ok a, s) := by
  rcases outcome with ⟨_ | a, s⟩
  · cases h
  · exact ⟨a, s, rfl⟩

theorem exists_ok_of_test {α σ : Type} (outcome : Except ClientError α × σ) (test : α → σ → Bool)
    (h : outcome.1.toOption.any (fun a => test a outcome.2) = true) :
    ∃ a s, outcome = (.ok a, s) ∧ test a s = true := by
  rcases outcome with ⟨_ | a, s⟩
  · cases h
  · exact ⟨a, s, rfl, h⟩

theorem exists_ok_of_bind {α β : Type} {x : Except ClientError α} {f : α → Except ClientError β}
    {b : β} (h : x >>= f = .ok b) : ∃ a, x = .ok a ∧ f a = .ok b := by
  cases x with
  | error e => cases h
  | ok a => exact ⟨a, rfl, h⟩

/-- The two ways to ask for a batch. -/
inductive Call where
  | nextBatch
  | next
deriving DecidableEq, Repr

/-- What a call gave. -/
inductive Outcome (β : Type) where
  | batch (b : β)
  | failed (e : ClientError)
  | over

/-- What callers see of an iteration `ι` that gives batches `β` out of the states `σ` of a
service. -/
structure BatchIterator (ι β σ : Type) where
  nextBatch : WriteLog → ι → σ → Except ClientError β × ι × σ
  next : WriteLog → ι → σ → Option (Except ClientError β) × ι × σ
  phase : ι → Phase
  returned : ι → Nat
  rowCount : β → Nat
  /-- The iteration after an error that `next` has shown. -/
  stop : ι → ι
  next_eq : ∀ writes it s, next writes it s =
    if phase it = .exhausted then (none, it, s)
    else Iteration.handOut (fun b => rowCount b == 0) stop (nextBatch writes it s)

namespace Iteration

theorem pos_of_checkBatchSize {batchSize : Nat} (h : checkBatchSize batchSize = .ok ()) :
    0 < batchSize := by
  rw [checkBatchSize] at h
  split at h
  · cases h
  · omega

theorem capped_le (owed : Option Nat) (rows : Nat) : capped owed rows ≤ rows := by
  cases owed with
  | none => exact Nat.le_refl _
  | some n => exact Nat.min_le_left ..

theorem capped_mono (owed : Option Nat) {rows rows' : Nat} (h : rows ≤ rows') :
    capped owed rows ≤ capped owed rows' := by
  cases owed with
  | none => exact h
  | some n =>
      simp only [capped]
      omega

theorem capped_pos {owed : Option Nat} {rows : Nat} (howed : owed ≠ some 0) (hrows : 0 < rows) :
    0 < capped owed rows := by
  cases owed with
  | none => exact hrows
  | some n =>
      have hn : n ≠ 0 := fun hzero => howed (by rw [hzero])
      simp only [capped]
      omega

/-- An iteration that stands for another one hands out the same batches. -/
theorem handOut_map {ι κ σ β : Type} {stop : ι → ι} {stop' : κ → κ} (wrap : ι → κ)
    (hstop : ∀ it, stop' (wrap it) = wrap (stop it)) (isEmpty : β → Bool)
    (step : Except ClientError β × ι × σ) :
    handOut isEmpty stop' (step.1, wrap step.2.1, step.2.2) =
      ((handOut isEmpty stop step).1, wrap (handOut isEmpty stop step).2.1,
        (handOut isEmpty stop step).2.2) := by
  rcases step with ⟨_ | b, it, s⟩
  · simp only [handOut, hstop]
  · simp only [handOut]
    split <;> rfl

/-- Rows up to those still owed keep what was returned within the limit. -/
theorem returned_add_le {limit : Option Nat} {returned rows count n : Nat}
    (hwithin : ∀ n, limit = some n → returned ≤ n)
    (hcount : count ≤ capped (owed limit returned) rows) (hlimit : limit = some n) :
    returned + count ≤ n := by
  have hle := hwithin n hlimit
  subst hlimit
  have howed : count ≤ n - returned := Nat.le_trans hcount (Nat.min_le_right ..)
  omega

end Iteration

theorem QueryIteration.batchSize_pos {plan : QueryIteration} (hplan : plan.validate = .ok ()) :
    0 < plan.batchSize := by
  obtain ⟨_, _, hchecked⟩ := exists_ok_of_bind hplan
  obtain ⟨_, hsize, _⟩ := exists_ok_of_bind hchecked
  exact Iteration.pos_of_checkBatchSize hsize

theorem SearchIteration.batchSize_pos {plan : SearchIteration} (hplan : plan.validate = .ok ()) :
    0 < plan.batchSize := by
  obtain ⟨_, _, hchecked⟩ := exists_ok_of_bind hplan
  obtain ⟨_, hsize, _⟩ := exists_ok_of_bind hchecked
  exact Iteration.pos_of_checkBatchSize hsize

theorem Phase.afterBatch_zero : afterBatch 0 = exhausted := rfl

def RowCursor.batches {σ : Type} (service : Service σ) : BatchIterator RowCursor ResultSet σ where
  nextBatch := nextBatch service
  next := next service
  phase := phase
  returned := returned
  rowCount := ResultSet.rowCount
  stop it := { it with phase := .exhausted }
  next_eq _ _ _ := rfl

def BandSearch.batches {σ : Type} (service : Service σ) : BatchIterator BandSearch HitPage σ where
  nextBatch := nextBatch service
  next := next service
  phase := phase
  returned := returned
  rowCount := HitPage.rowCount
  stop it := { it with phase := .exhausted }
  next_eq _ _ _ := rfl

def TokenSearch.batches {σ : Type} (service : Service σ) : BatchIterator TokenSearch HitPage σ where
  nextBatch := nextBatch service
  next := next service
  phase := phase
  returned := returned
  rowCount := HitPage.rowCount
  stop it := { it with phase := .exhausted }
  next_eq _ _ _ := rfl

def SearchCursor.stop : SearchCursor → SearchCursor
  | bands it => bands { it with phase := .exhausted }
  | tokens it => tokens { it with phase := .exhausted }

def SearchCursor.batches {σ : Type} (service : Service σ) :
    BatchIterator SearchCursor HitPage σ where
  nextBatch := nextBatch service
  next := next service
  phase := phase
  returned := returned
  rowCount := HitPage.rowCount
  stop := stop
  next_eq := by
    intro writes it s
    cases it with
    | bands it =>
        by_cases hphase : it.phase = .exhausted
        · simp only [next, phase, BandSearch.next, hphase, if_true]
        · simp only [next, phase, BandSearch.next, hphase, if_false]
          exact (Iteration.handOut_map bands (fun _ => rfl) HitPage.isEmpty _).symm
    | tokens it =>
        by_cases hphase : it.phase = .exhausted
        · simp only [next, phase, TokenSearch.next, hphase, if_true]
        · simp only [next, phase, TokenSearch.next, hphase, if_false]
          exact (Iteration.handOut_map tokens (fun _ => rfl) HitPage.isEmpty _).symm

/-- The batch that a call has handed out. -/
def Outcome.batch? {β : Type} : Outcome β → Option β
  | .batch b => some b
  | .failed _ | .over => none

/-- The batches in front of the first error. -/
def Outcome.batches {β : Type} : List (Outcome β) → List β
  | [] => []
  | .batch b :: rest => b :: batches rest
  | .over :: rest => batches rest
  | .failed _ :: _ => []

namespace BatchIterator

variable {ι β σ : Type}

def perform (I : BatchIterator ι β σ) (call : Call) (writes : WriteLog) (it : ι) (s : σ) :
    Outcome β × ι × σ :=
  match call with
  | .nextBatch =>
    match I.nextBatch writes it s with
    | (.ok b, it, s) => (.batch b, it, s)
    | (.error e, it, s) => (.failed e, it, s)
  | .next =>
    match I.next writes it s with
    | (none, it, s) => (.over, it, s)
    | (some (.ok b), it, s) => (.batch b, it, s)
    | (some (.error e), it, s) => (.failed e, it, s)

/-- Makes calls one after another, each with the log of writes at its time. -/
def run (I : BatchIterator ι β σ) : List (Call × WriteLog) → ι → σ → List (Outcome β) × ι × σ
  | [], it, s => ([], it, s)
  | (call, writes) :: rest, it, s =>
    let (outcome, it, s) := I.perform call writes it s
    let (outcomes, it, s) := run I rest it s
    (outcome :: outcomes, it, s)

/-- The rows that calls delivered. -/
def delivered (I : BatchIterator ι β σ) : List (Outcome β) → Nat
  | [] => 0
  | .batch b :: rest => I.rowCount b + delivered I rest
  | _ :: rest => delivered I rest

/-- The outcomes that end an iteration. An error ends it only if `next` has shown it. -/
def Ends (I : BatchIterator ι β σ) (call : Call) : Outcome β → Prop
  | .batch b => I.rowCount b = 0
  | .failed _ => call = .next
  | .over => True

/-- The outcomes of an iteration that has ended. -/
def Rests (I : BatchIterator ι β σ) : Call → Outcome β → Prop
  | .nextBatch, .batch b => I.rowCount b = 0
  | .next, .over => True
  | _, _ => False

/-- What a single `nextBatch` has to keep, as long as the iteration is `Valid`: it delivers
no more rows than the limit leaves and a batch may have, and it counts what it delivers. -/
structure Ledger (I : BatchIterator ι β σ) (limit : Option Nat) (batchSize : Nat)
    (Valid : ι → Prop) : Prop where
  valid : ∀ {writes it s outcome it' s'}, Valid it →
    I.nextBatch writes it s = (outcome, it', s') → Valid it'
  batch : ∀ {writes it s b it' s'}, Valid it → I.nextBatch writes it s = (.ok b, it', s') →
    I.rowCount b ≤ Iteration.capped (Iteration.owed limit (I.returned it)) batchSize ∧
      I.returned it' = I.returned it + I.rowCount b ∧ (I.rowCount b = 0 → I.phase it' = .exhausted)
  failed : ∀ {writes it s e it' s'}, Valid it → I.nextBatch writes it s = (.error e, it', s') →
    I.returned it' = I.returned it
  exhausted : ∀ {it}, I.phase it = .exhausted → ∀ writes s,
    ∃ b, I.nextBatch writes it s = (.ok b, it, s) ∧ I.rowCount b = 0
  stop : ∀ {it}, Valid it → Valid (I.stop it) ∧ I.returned (I.stop it) = I.returned it ∧
    I.phase (I.stop it) = .exhausted

/-- The accounts of an iteration from here on: what was returned is what was delivered, no
more than the limit allows, in batches of the agreed size, and once the iteration has ended
it stays so and leaves the service alone. -/
structure Accounts (I : BatchIterator ι β σ) (limit : Option Nat) (batchSize : Nat)
    (it : ι) (s : σ) : Prop where
  returned_eq : ∀ calls, I.returned (I.run calls it s).2.1 = I.delivered (I.run calls it s).1
  within_limit : ∀ calls n, limit = some n → I.returned (I.run calls it s).2.1 ≤ n
  batch_le : ∀ calls b, .batch b ∈ (I.run calls it s).1 → I.rowCount b ≤ batchSize
  final : ∀ calls call writes outcomes it₁ s₁ outcome it₂ s₂,
    I.run calls it s = (outcomes, it₁, s₁) →
    I.perform call writes it₁ s₁ = (outcome, it₂, s₂) → I.Ends call outcome →
    ∀ later, ∃ outcomes' it₃, I.run later it₂ s₂ = (outcomes', it₃, s₂) ∧
      I.returned it₃ = I.returned it₂ ∧ List.Forall₂ (fun c o => I.Rests c.1 o) later outcomes'

theorem run_cons (I : BatchIterator ι β σ) {call : Call} {writes : WriteLog}
    {rest : List (Call × WriteLog)} {it it' : ι} {s s' : σ} {outcome : Outcome β}
    (h : I.perform call writes it s = (outcome, it', s')) :
    I.run ((call, writes) :: rest) it s =
      (outcome :: (I.run rest it' s').1, (I.run rest it' s').2) := by
  rw [run, h]

/-- What holds at all times of a run holds when it begins and at all times behind its first call. -/
theorem forall_prefix_cons (I : BatchIterator ι β σ) {P : ι → Prop} {call : Call}
    {writes : WriteLog} {rest : List (Call × WriteLog)} {it it' : ι} {s s' : σ}
    {outcome : Outcome β} (h : I.perform call writes it s = (outcome, it', s')) :
    (∀ front, front <+: (call, writes) :: rest → P (I.run front it s).2.1) ↔
      P it ∧ ∀ front, front <+: rest → P (I.run front it' s').2.1 := by
  have hcons : ∀ front, I.run ((call, writes) :: front) it s =
      (outcome :: (I.run front it' s').1, (I.run front it' s').2) := fun front => I.run_cons h
  constructor
  · intro hall
    refine ⟨hall [] List.nil_prefix, fun front hfront => ?_⟩
    have hlater := hall _ (List.cons_prefix_cons.mpr ⟨rfl, hfront⟩)
    rwa [hcons] at hlater
  · rintro ⟨hfirst, hlater⟩ front hfront
    cases front with
    | nil => exact hfirst
    | cons c front =>
        obtain ⟨rfl, hrest⟩ := List.cons_prefix_cons.mp hfront
        rw [hcons]
        exact hlater front hrest

theorem perform_nextBatch (I : BatchIterator ι β σ) {writes : WriteLog} {it it' : ι} {s s' : σ}
    {b : β} (h : I.nextBatch writes it s = (.ok b, it', s')) :
    I.perform .nextBatch writes it s = (.batch b, it', s') := by
  rw [perform, h]

/-- A call finds the iteration ended, shows an error, or gets a batch, which `next` keeps to
itself if it is empty. -/
theorem perform_cases (I : BatchIterator ι β σ) {call : Call} {writes : WriteLog} {it it' : ι}
    {s s' : σ} {outcome : Outcome β} (h : I.perform call writes it s = (outcome, it', s')) :
    (I.phase it = .exhausted ∧ outcome = .over ∧ it' = it ∧ s' = s) ∨
    (∃ e it₁, I.nextBatch writes it s = (.error e, it₁, s') ∧ outcome = .failed e ∧
      (it' = it₁ ∧ call = .nextBatch ∨ it' = I.stop it₁)) ∨
    ∃ b, I.nextBatch writes it s = (.ok b, it', s') ∧
      (outcome = .batch b ∨ outcome = .over ∧ I.rowCount b = 0) := by
  rcases hbatch : I.nextBatch writes it s with ⟨_ | b, it₁, s₁⟩
  · cases call with
    | nextBatch =>
        rw [perform, hbatch] at h
        cases h
        exact .inr (.inl ⟨_, _, rfl, rfl, .inl ⟨rfl, rfl⟩⟩)
    | next =>
        rw [perform, I.next_eq, hbatch] at h
        by_cases hphase : I.phase it = .exhausted
        · rw [if_pos hphase] at h
          cases h
          exact .inl ⟨hphase, rfl, rfl, rfl⟩
        · rw [if_neg hphase] at h
          cases h
          exact .inr (.inl ⟨_, _, rfl, rfl, .inr rfl⟩)
  · cases call with
    | nextBatch =>
        rw [perform, hbatch] at h
        cases h
        exact .inr (.inr ⟨b, rfl, .inl rfl⟩)
    | next =>
        rw [perform, I.next_eq, hbatch] at h
        by_cases hphase : I.phase it = .exhausted
        · rw [if_pos hphase] at h
          cases h
          exact .inl ⟨hphase, rfl, rfl, rfl⟩
        · rw [if_neg hphase] at h
          by_cases hzero : I.rowCount b = 0
          · simp only [Iteration.handOut, hzero, beq_self_eq_true, if_true] at h
            cases h
            exact .inr (.inr ⟨b, rfl, .inr ⟨rfl, hzero⟩⟩)
          · simp only [Iteration.handOut, beq_iff_eq, hzero, if_false] at h
            cases h
            exact .inr (.inr ⟨b, rfl, .inl rfl⟩)

/-- What every call keeps, whatever its outcome: an invariant of the iteration and its
service, and how the service stands before and after the call. -/
structure Advances (I : BatchIterator ι β σ) (Inv : ι → σ → Prop)
    (Moves : WriteLog → σ → σ → Prop) : Prop where
  nextBatch : ∀ {writes it s outcome it' s'}, Inv it s →
    I.nextBatch writes it s = (outcome, it', s') → Inv it' s' ∧ Moves writes s s'
  stop : ∀ {it s}, Inv it s → Inv (I.stop it) s
  rest : ∀ writes s, Moves writes s s

namespace Advances

variable {I : BatchIterator ι β σ} {Inv : ι → σ → Prop} {Moves : WriteLog → σ → σ → Prop}
variable {it it' : ι} {s s' : σ}

theorem perform (advances : I.Advances Inv Moves) (hit : Inv it s) {call : Call}
    {writes : WriteLog} {outcome : Outcome β}
    (h : I.perform call writes it s = (outcome, it', s')) : Inv it' s' ∧ Moves writes s s' := by
  rcases I.perform_cases h with ⟨_, _, rfl, rfl⟩ | ⟨_, it₁, hbatch, _, hstopped⟩ | ⟨_, hbatch, _⟩
  · exact ⟨hit, advances.rest writes _⟩
  · obtain ⟨hvalid, hmoves⟩ := advances.nextBatch hit hbatch
    rcases hstopped with ⟨rfl, _⟩ | rfl
    · exact ⟨hvalid, hmoves⟩
    · exact ⟨advances.stop hvalid, hmoves⟩
  · exact advances.nextBatch hit hbatch

/-- The invariant holds after every run, by induction on its calls. -/
theorem run (advances : I.Advances Inv Moves) (hit : Inv it s) (calls : List (Call × WriteLog)) :
    Inv (I.run calls it s).2.1 (I.run calls it s).2.2 := by
  induction calls generalizing it s with
  | nil => exact hit
  | cons call calls ih =>
      obtain ⟨call, writes⟩ := call
      rcases hperform : I.perform call writes it s with ⟨outcome, it₁, s₁⟩
      rw [I.run_cons hperform]
      exact ih (advances.perform hit hperform).1

end Advances

/-- A property of iterations that every call keeps, whatever its outcome. -/
structure Keeps (I : BatchIterator ι β σ) (Valid : ι → Prop) : Prop where
  nextBatch : ∀ {writes it s outcome it' s'}, Valid it →
    I.nextBatch writes it s = (outcome, it', s') → Valid it'
  stop : ∀ {it}, Valid it → Valid (I.stop it)

namespace Keeps

variable {I : BatchIterator ι β σ} {Valid : ι → Prop} {it it' : ι} {s s' : σ}

theorem advances (keeps : I.Keeps Valid) :
    I.Advances (fun it _ => Valid it) (fun _ _ _ => True) where
  nextBatch hit h := ⟨keeps.nextBatch hit h, trivial⟩
  stop hit := keeps.stop hit
  rest _ _ := trivial

theorem and {Valid' : ι → Prop} (keeps : I.Keeps Valid) (keeps' : I.Keeps Valid') :
    I.Keeps fun it => Valid it ∧ Valid' it where
  nextBatch hit h := ⟨keeps.nextBatch hit.1 h, keeps'.nextBatch hit.2 h⟩
  stop hit := ⟨keeps.stop hit.1, keeps'.stop hit.2⟩

theorem perform (keeps : I.Keeps Valid) (hit : Valid it) {call : Call} {writes : WriteLog}
    {outcome : Outcome β} (h : I.perform call writes it s = (outcome, it', s')) : Valid it' :=
  (keeps.advances.perform hit h).1

theorem run (keeps : I.Keeps Valid) (hit : Valid it) (s : σ) (calls : List (Call × WriteLog)) :
    Valid (I.run calls it s).2.1 :=
  keeps.advances.run (s := s) hit calls

end Keeps

/-- `Delivered` says what an iteration is after it has delivered some rows, and every batch
adds its own to them. -/
def Delivers {ρ : Type} (I : BatchIterator ι β σ) (records : β → List ρ)
    (Delivered : List ρ → ι → Prop) : Prop :=
  ∀ rows writes it s b it' s', Delivered rows it → I.nextBatch writes it s = (.ok b, it', s') →
    Delivered (rows ++ records b) it' ∧ (records b).length = I.rowCount b

namespace Delivers

variable {ρ : Type} {I : BatchIterator ι β σ} {records : β → List ρ}
variable {Delivered : List ρ → ι → Prop} {rows : List ρ} {it it' : ι} {s s' : σ}
variable {call : Call} {writes : WriteLog} {outcome : Outcome β}

theorem perform (delivers : I.Delivers records Delivered) (hit : Delivered rows it)
    (h : I.perform call writes it s = (outcome, it', s')) :
    (∀ b, outcome = .batch b →
      Delivered (rows ++ records b) it' ∧ (records b).length = I.rowCount b) ∧
    (outcome = .over → Delivered rows it') := by
  rcases I.perform_cases h with ⟨_, rfl, rfl, _⟩ | ⟨e, _, _, rfl, _⟩ | ⟨b, hbatch, hshown⟩
  · exact ⟨nofun, fun _ => hit⟩
  · exact ⟨nofun, nofun⟩
  · obtain ⟨hdelivered, hlength⟩ := delivers _ _ _ _ _ _ _ hit hbatch
    rcases hshown with rfl | ⟨rfl, hzero⟩
    · refine ⟨?_, nofun⟩
      rintro _ ⟨⟩
      exact ⟨hdelivered, hlength⟩
    · refine ⟨nofun, fun _ => ?_⟩
      have hnil := List.length_eq_zero_iff.mp (hlength.trans hzero)
      rwa [hnil, List.append_nil] at hdelivered

/-- What a run has delivered up to its first error, by induction on its calls. -/
theorem run (delivers : I.Delivers records Delivered) (hit : Delivered rows it) (s : σ)
    (calls : List (Call × WriteLog)) :
    (∃ it', Delivered (rows ++ (Outcome.batches (I.run calls it s).1).flatMap records) it') ∧
      ∀ b ∈ Outcome.batches (I.run calls it s).1, (records b).length = I.rowCount b := by
  induction calls generalizing rows it s with
  | nil =>
      refine ⟨⟨it, ?_⟩, nofun⟩
      rw [BatchIterator.run, Outcome.batches, List.flatMap_nil, List.append_nil]
      exact hit
  | cons call rest ih =>
      obtain ⟨call, writes⟩ := call
      rcases hperform : I.perform call writes it s with ⟨outcome, it₁, s₁⟩
      obtain ⟨hbatch, hover⟩ := delivers.perform hit hperform
      rw [I.run_cons hperform]
      cases outcome with
      | batch b =>
          obtain ⟨hdelivered, hlength⟩ := hbatch b rfl
          obtain ⟨⟨it', hlast⟩, hall⟩ := ih hdelivered s₁
          refine ⟨⟨it', ?_⟩, List.forall_mem_cons.mpr ⟨hlength, hall⟩⟩
          rw [Outcome.batches, List.flatMap_cons, ← List.append_assoc]
          exact hlast
      | failed e =>
          refine ⟨⟨it, ?_⟩, nofun⟩
          rw [Outcome.batches, List.flatMap_nil, List.append_nil]
          exact hit
      | _ => exact ih (hover rfl) s₁

end Delivers

/-- A condition on an iteration and its service that holds whenever a call of a run begins. -/
def Throughout (I : BatchIterator ι β σ) (Cond : WriteLog → ι → σ → Prop) :
    List (Call × WriteLog) → ι → σ → Prop
  | [], _, _ => True
  | (call, writes) :: rest, it, s =>
    Cond writes it s ∧
      Throughout I Cond rest (I.perform call writes it s).2.1 (I.perform call writes it s).2.2

/-- `Inv` knows the rows that calls have handed out so far. Every call that begins under `Cond`
adds its own to them, or none if it fails. -/
structure Collects {ρ : Type} (I : BatchIterator ι β σ) (records : β → List ρ)
    (Cond : WriteLog → ι → σ → Prop) (Inv : List ρ → ι → σ → Prop) : Prop where
  batch : ∀ {rows writes it s b it' s'}, Inv rows it s → Cond writes it s →
    I.nextBatch writes it s = (.ok b, it', s') →
    Inv (rows ++ records b) it' s' ∧ (records b).length = I.rowCount b
  failed : ∀ {rows writes it s e it' s'}, Inv rows it s → Cond writes it s →
    I.nextBatch writes it s = (.error e, it', s') → Inv rows it' s'
  stop : ∀ {rows it s}, Inv rows it s → Inv rows (I.stop it) s

namespace Collects

variable {ρ : Type} {I : BatchIterator ι β σ} {records : β → List ρ}
variable {Cond : WriteLog → ι → σ → Prop} {Inv : List ρ → ι → σ → Prop}
variable {rows : List ρ} {it it' : ι} {s s' : σ}

theorem perform (collects : I.Collects records Cond Inv) (hit : Inv rows it s) {call : Call}
    {writes : WriteLog} {outcome : Outcome β} (hcond : Cond writes it s)
    (h : I.perform call writes it s = (outcome, it', s')) :
    Inv (rows ++ outcome.batch?.elim [] records) it' s' := by
  rcases I.perform_cases h with ⟨_, rfl, rfl, rfl⟩ | ⟨e, it₁, hbatch, rfl, hstopped⟩ |
    ⟨b, hbatch, hshown⟩
  · rw [Outcome.batch?, Option.elim_none, List.append_nil]
    exact hit
  · rw [Outcome.batch?, Option.elim_none, List.append_nil]
    have hfailed := collects.failed hit hcond hbatch
    rcases hstopped with ⟨rfl, _⟩ | rfl
    · exact hfailed
    · exact collects.stop hfailed
  · obtain ⟨hgot, hlength⟩ := collects.batch hit hcond hbatch
    rcases hshown with rfl | ⟨rfl, hzero⟩
    · exact hgot
    · rwa [List.length_eq_zero_iff.mp (hlength.trans hzero)] at hgot

/-- What a run has handed out, behind errors as well, by induction on its calls. -/
theorem run (collects : I.Collects records Cond Inv) (hit : Inv rows it s)
    (calls : List (Call × WriteLog)) (hcond : I.Throughout Cond calls it s) :
    Inv (rows ++ ((I.run calls it s).1.filterMap Outcome.batch?).flatMap records)
      (I.run calls it s).2.1 (I.run calls it s).2.2 := by
  induction calls generalizing rows it s with
  | nil =>
      rw [BatchIterator.run, List.filterMap_nil, List.flatMap_nil, List.append_nil]
      exact hit
  | cons call calls ih =>
      obtain ⟨call, writes⟩ := call
      rcases hperform : I.perform call writes it s with ⟨outcome, it₁, s₁⟩
      obtain ⟨hfirst, hrest⟩ := hcond
      rw [hperform] at hrest
      have hlast := ih (collects.perform hit hfirst hperform) hrest
      rw [List.append_assoc] at hlast
      rw [I.run_cons hperform]
      cases outcome <;> exact hlast

end Collects

theorem delivered_cons (I : BatchIterator ι β σ) (outcome : Outcome β) (rest : List (Outcome β)) :
    I.delivered (outcome :: rest) = I.delivered [outcome] + I.delivered rest := by
  cases outcome <;> simp [delivered]

namespace Ledger

variable {I : BatchIterator ι β σ} {limit : Option Nat} {batchSize : Nat} {Valid : ι → Prop}
variable {it it' : ι} {s s' : σ} {writes : WriteLog} {call : Call} {outcome : Outcome β}

/-- What a single call keeps, whichever way it is made. -/
theorem perform (ledger : I.Ledger limit batchSize Valid) (hit : Valid it)
    (h : I.perform call writes it s = (outcome, it', s')) :
    Valid it' ∧ I.returned it' = I.returned it + I.delivered [outcome] ∧
      I.delivered [outcome] ≤ Iteration.capped (Iteration.owed limit (I.returned it)) batchSize ∧
      (I.Ends call outcome → I.phase it' = .exhausted) := by
  rcases I.perform_cases h with ⟨hphase, rfl, rfl, rfl⟩ | ⟨e, it₁, hbatch, rfl, hstopped⟩ |
    ⟨b, hbatch, hshown⟩
  · exact ⟨hit, rfl, Nat.zero_le _, fun _ => hphase⟩
  · -- both calls show the error, but only `next` ends the iteration for it
    have hvalid := ledger.valid hit hbatch
    have hreturned := ledger.failed hit hbatch
    rcases hstopped with ⟨rfl, rfl⟩ | rfl
    · exact ⟨hvalid, hreturned, Nat.zero_le _, nofun⟩
    · obtain ⟨hvalid', hreturned', hphase'⟩ := ledger.stop hvalid
      exact ⟨hvalid', hreturned'.trans hreturned, Nat.zero_le _, fun _ => hphase'⟩
  · have hvalid := ledger.valid hit hbatch
    obtain ⟨hsize, hreturned, hempty⟩ := ledger.batch hit hbatch
    rcases hshown with rfl | ⟨rfl, hzero⟩
    · exact ⟨hvalid, hreturned, hsize, hempty⟩
    · refine ⟨hvalid, ?_, Nat.zero_le _, fun _ => hempty hzero⟩
      rw [hreturned, hzero]
      rfl

theorem perform_exhausted (ledger : I.Ledger limit batchSize Valid)
    (hphase : I.phase it = .exhausted) (call : Call) (writes : WriteLog) (s : σ) :
    ∃ outcome, I.perform call writes it s = (outcome, it, s) ∧ I.Rests call outcome := by
  cases call with
  | nextBatch =>
      obtain ⟨b, hb, hzero⟩ := ledger.exhausted hphase writes s
      exact ⟨.batch b, I.perform_nextBatch hb, hzero⟩
  | next =>
      refine ⟨.over, ?_, trivial⟩
      rw [BatchIterator.perform, I.next_eq, if_pos hphase]

theorem run_exhausted (ledger : I.Ledger limit batchSize Valid)
    (hphase : I.phase it = .exhausted) (s : σ) (calls : List (Call × WriteLog)) :
    ∃ outcomes, I.run calls it s = (outcomes, it, s) ∧
      List.Forall₂ (fun c o => I.Rests c.1 o) calls outcomes := by
  induction calls with
  | nil => exact ⟨[], rfl, .nil⟩
  | cons call rest ih =>
      obtain ⟨call, writes⟩ := call
      obtain ⟨outcome, hperform, hrests⟩ := ledger.perform_exhausted hphase call writes s
      obtain ⟨outcomes, hrun, hall⟩ := ih
      refine ⟨outcome :: outcomes, ?_, .cons hrests hall⟩
      rw [I.run_cons hperform, hrun]

/-- What a run keeps, by induction on its calls. -/
theorem run (ledger : I.Ledger limit batchSize Valid) (hit : Valid it)
    (hwithin : ∀ n, limit = some n → I.returned it ≤ n) (s : σ) (calls : List (Call × WriteLog)) :
    Valid (I.run calls it s).2.1 ∧
      I.returned (I.run calls it s).2.1 = I.returned it + I.delivered (I.run calls it s).1 ∧
      (∀ n, limit = some n → I.returned (I.run calls it s).2.1 ≤ n) ∧
      ∀ b, .batch b ∈ (I.run calls it s).1 → I.rowCount b ≤ batchSize := by
  induction calls generalizing it s with
  | nil => exact ⟨hit, rfl, hwithin, nofun⟩
  | cons call rest ih =>
      obtain ⟨call, writes⟩ := call
      rcases hperform : I.perform call writes it s with ⟨outcome, it₁, s₁⟩
      obtain ⟨hvalid, hreturned, hsize, _⟩ := ledger.perform hit hperform
      have hwithin₁ : ∀ n, limit = some n → I.returned it₁ ≤ n := by
        intro n hn
        rw [hreturned]
        exact Iteration.returned_add_le hwithin hsize hn
      obtain ⟨hvalid', hreturned', hwithin', hsize'⟩ := ih hvalid hwithin₁ s₁
      rw [I.run_cons hperform]
      refine ⟨hvalid', ?_, hwithin', ?_⟩
      · change I.returned (I.run rest it₁ s₁).2.1 =
          I.returned it + I.delivered (outcome :: (I.run rest it₁ s₁).1)
        rw [delivered_cons, hreturned', hreturned, Nat.add_assoc]
      · intro b hb
        rcases List.mem_cons.mp hb with heq | hmem
        · subst heq
          exact Nat.le_trans hsize (Iteration.capped_le ..)
        · exact hsize' b hmem

theorem accounts (ledger : I.Ledger limit batchSize Valid) (hit : Valid it)
    (hzero : I.returned it = 0) (s : σ) : I.Accounts limit batchSize it s := by
  have hrun := ledger.run hit (fun n _ => by rw [hzero]; exact Nat.zero_le n) s
  refine ⟨?_, fun calls => (hrun calls).2.2.1, fun calls => (hrun calls).2.2.2, ?_⟩
  · intro calls
    rw [(hrun calls).2.1, hzero, Nat.zero_add]
  · intro calls call writes outcomes it₁ s₁ outcome it₂ s₂ hcalls hperform hends later
    have hvalid := (hrun calls).1
    rw [hcalls] at hvalid
    obtain ⟨_, _, _, hphase⟩ := ledger.perform hvalid hperform
    obtain ⟨outcomes', hlater, hall⟩ := ledger.run_exhausted (hphase hends) s₂ later
    exact ⟨outcomes', it₂, hlater, rfl, hall⟩

end Ledger

end BatchIterator

end VectorClient
