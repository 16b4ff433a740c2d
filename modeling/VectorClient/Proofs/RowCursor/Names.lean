import VectorClient.Proofs.RowCursor.Accounts

/-!
# Output names of cached rows

A result set carries names of output fields next to its columns. Those of the cache of a
row cursor are handed on to batches, but no request and no row depends on them. `unnamed`
leaves the names out. It commutes with every step of an iteration, so two cursors that
differ in such names only have the same future: they leave the service in the same states
and give the same columns and the same errors.
-/

namespace VectorClient

namespace ResultSet

/-- The same columns without names of output fields. -/
def unnamed (r : ResultSet) : ResultSet := ⟨r.columns, .empty⟩

@[simp] theorem columns_unnamed (r : ResultSet) : r.unnamed.columns = r.columns := rfl

@[simp] theorem rowCount_unnamed (r : ResultSet) : r.unnamed.rowCount = r.rowCount := rfl

@[simp] theorem isEmpty_unnamed (r : ResultSet) : r.unnamed.isEmpty = r.isEmpty := rfl

@[simp] theorem unnamed_unnamed (r : ResultSet) : r.unnamed.unnamed = r.unnamed := rfl

@[simp] theorem primaryKeyAt?_unnamed (r : ResultSet) (name : String) (row : Nat) :
    r.unnamed.primaryKeyAt? name row = r.primaryKeyAt? name row := rfl

theorem unnamed_eq_iff {r r' : ResultSet} : r.unnamed = r'.unnamed ↔ r.columns = r'.columns := by
  simp [unnamed]

theorem slice_unnamed (r : ResultSet) (start stop : Nat) :
    r.unnamed.slice start stop = (r.slice start stop).map unnamed := by
  rw [slice, slice, columns_unnamed]
  cases Column.sliceParts start stop r.columns <;> rfl

theorem joined_unnamed (target source : ResultSet) :
    (target.unnamed.joined source).map unnamed = (target.joined source).map unnamed := by
  simp only [joined, append, columns_unnamed]
  rcases appendColumns target.columns source.columns with ⟨_ | _, _⟩ <;> rfl

end ResultSet

/-- What is made of the batch in an outcome. -/
def Outcome.map {β γ : Type} (f : β → γ) : Outcome β → Outcome γ
  | .batch b => .batch (f b)
  | .failed e => .failed e
  | .over => .over

namespace RowCursor

/-- The cursor without the names that its cache gives to batches. -/
def unnamed (it : RowCursor) : RowCursor := { it with cache := it.cache.unnamed }

/-- A batch and the cursor behind it, without names. -/
def forget (got : Except ClientError ResultSet × RowCursor) :
    Except ClientError ResultSet × RowCursor :=
  (got.1.map ResultSet.unnamed, got.2.unnamed)

@[simp] theorem plan_unnamed (it : RowCursor) : it.unnamed.plan = it.plan := rfl

@[simp] theorem returned_unnamed (it : RowCursor) : it.unnamed.returned = it.returned := rfl

@[simp] theorem phase_unnamed (it : RowCursor) : it.unnamed.phase = it.phase := rfl

@[simp] theorem cache_unnamed (it : RowCursor) : it.unnamed.cache = it.cache.unnamed := rfl

@[simp] theorem request_unnamed (it : RowCursor) (writes : WriteLog) (limit : Nat)
    (iterating : Bool) : it.unnamed.request writes limit iterating =
      it.request writes limit iterating := rfl

theorem takeCached_unnamed (it : RowCursor) :
    forget it.unnamed.takeCached = forget it.takeCached := by
  simp only [takeCached, cache_unnamed, plan_unnamed, ResultSet.slice_unnamed,
    ResultSet.rowCount_unnamed]
  cases it.cache.slice 0 it.plan.batchSize with
  | error e => rfl
  | ok output =>
    simp only [Except.map]
    split
    · cases it.cache.slice it.plan.batchSize it.cache.rowCount <;> rfl
    · rfl

theorem cutBatch_unnamed (it : RowCursor) (combined : ResultSet) :
    forget (it.unnamed.cutBatch combined.unnamed) = forget (it.cutBatch combined) := by
  simp only [cutBatch, plan_unnamed, ResultSet.slice_unnamed, ResultSet.rowCount_unnamed, keyAt,
    ResultSet.primaryKeyAt?_unnamed]
  generalize (combined.rowCount - it.plan.batchSize) / it.plan.batchSize * it.plan.batchSize = kept
  split
  · rfl
  cases combined.slice 0 it.plan.batchSize with
  | error e => rfl
  | ok output =>
    simp only [Except.map]
    split
    · cases combined.slice it.plan.batchSize (it.plan.batchSize + kept) <;> rfl
    · rfl

theorem receive_unnamed (it : RowCursor) (reply : QueryReply) :
    forget (it.unnamed.receive reply) = forget (it.receive reply) := by
  simp only [receive, plan_unnamed, cache_unnamed]
  split
  · rfl
  rename_i page _
  have hjoined := ResultSet.joined_unnamed it.cache page
  rcases h : it.cache.joined page with e | combined <;>
    rcases h' : it.cache.unnamed.joined page with e' | combined' <;>
    simp only [h, h', Except.map, Except.ok.injEq, Except.error.injEq, reduceCtorEq] at hjoined
  · subst hjoined
    rfl
  have hcolumns := ResultSet.unnamed_eq_iff.mp hjoined
  have hrows : combined'.rowCount = combined.rowCount := by
    rw [ResultSet.rowCount, hcolumns, ResultSet.rowCount]
  have hkey : ∀ (it : RowCursor) row, it.keyAt combined' row = it.keyAt combined row := by
    intro it row
    rw [keyAt, ResultSet.primaryKeyAt?, ResultSet.column?, hcolumns]
    rfl
  simp only [hrows, hkey]
  split
  · simp [forget, Except.map, hjoined, unnamed]
  split
  · simp only [keyAt]
    split
    · rfl
    · simp [forget, Except.map, hjoined, unnamed]
  · rw [← cutBatch_unnamed, hjoined, cutBatch_unnamed]
    rfl

section Service

variable {σ : Type} {service : Service σ} {it it' : RowCursor}

/-- What a call gives, without names. -/
def forgetState (got : Except ClientError ResultSet × RowCursor × σ) :
    Except ClientError ResultSet × RowCursor × σ :=
  (got.1.map ResultSet.unnamed, got.2.1.unnamed, got.2.2)

theorem fetch_unnamed (service : Service σ) (writes : WriteLog) (it : RowCursor) (s : σ) :
    forgetState (it.unnamed.fetch service writes s) = forgetState (it.fetch service writes s) := by
  simp only [fetch, request_unnamed, plan_unnamed]
  rw [show it.unnamed.client = it.client from rfl]
  split
  · rfl
  · rename_i reply _ _
    have hreceive := receive_unnamed it reply
    simp only [forget, Prod.mk.injEq] at hreceive
    simp only [forgetState, hreceive]

theorem deliver_unnamed (it : RowCursor) (batch : ResultSet) :
    forget (it.unnamed.deliver batch.unnamed) = forget (it.deliver batch) := by
  simp only [deliver, plan_unnamed, returned_unnamed, ResultSet.rowCount_unnamed,
    ResultSet.slice_unnamed]
  generalize
    Iteration.capped (Iteration.owed it.plan.query.limit it.returned) batch.rowCount = count
  by_cases hcut : count < batch.rowCount
  · simp only [hcut, if_true]
    cases batch.slice 0 count <;> rfl
  · simp only [hcut, if_false]
    rfl

theorem nextRows_unnamed (service : Service σ) (writes : WriteLog) (it : RowCursor) (s : σ) :
    forgetState (it.unnamed.nextRows service writes s) =
      forgetState (it.nextRows service writes s) := by
  rw [nextRows, nextRows]
  by_cases hcached : it.plan.batchSize ≤ it.cache.rowCount
  · have htake := takeCached_unnamed it
    simp only [forget, Prod.mk.injEq] at htake
    rw [if_pos hcached,
      if_pos (show it.unnamed.plan.batchSize ≤ it.unnamed.cache.rowCount from hcached)]
    simp only [forgetState, htake]
  · rw [if_neg hcached,
      if_neg (show ¬ it.unnamed.plan.batchSize ≤ it.unnamed.cache.rowCount from hcached)]
    exact fetch_unnamed service writes it s

theorem nextBatch_unnamed (service : Service σ) (writes : WriteLog) (it : RowCursor) (s : σ) :
    forgetState (it.unnamed.nextBatch service writes s) =
      forgetState (it.nextBatch service writes s) := by
  have hnext := nextRows_unnamed service writes it s
  rw [nextBatch_eq, nextBatch_eq]
  generalize it.nextRows service writes s = got at hnext ⊢
  generalize it.unnamed.nextRows service writes s = got' at hnext ⊢
  split
  · rename_i hover
    rw [if_pos (show it.phase = .exhausted ∨
      Iteration.owed it.plan.query.limit it.returned = some 0 from hover)]
    rfl
  rename_i hover
  rw [if_neg (show ¬ (it.phase = .exhausted ∨
    Iteration.owed it.plan.query.limit it.returned = some 0) from hover)]
  obtain ⟨e | batch, it₁, s₁⟩ := got <;> obtain ⟨e' | batch', it₁', s₁'⟩ := got' <;>
    simp only [forgetState, Except.map, Prod.mk.injEq, Except.ok.injEq, Except.error.injEq,
      reduceCtorEq, false_and] at hnext
  · simpa only [forgetState, Prod.mk.injEq, Except.map, Except.error.injEq] using hnext
  · obtain ⟨hbatch, hit, rfl⟩ := hnext
    have hdeliver := deliver_unnamed it₁' batch'
    rw [hbatch, hit, deliver_unnamed] at hdeliver
    simp only [forget, Prod.mk.injEq] at hdeliver
    simp only [forgetState, hdeliver]

theorem nextBatch_congr (service : Service σ) (h : it'.unnamed = it.unnamed) (writes : WriteLog)
    (s : σ) :
    forgetState (it'.nextBatch service writes s) = forgetState (it.nextBatch service writes s) := by
  rw [← nextBatch_unnamed service writes it', h, nextBatch_unnamed]

/-- What a call shows, without names. -/
def forgetOutcome (got : Outcome ResultSet × RowCursor × σ) : Outcome ResultSet × RowCursor × σ :=
  (got.1.map ResultSet.unnamed, got.2.1.unnamed, got.2.2)

theorem perform_congr (service : Service σ) (h : it'.unnamed = it.unnamed) (call : Call)
    (writes : WriteLog) (s : σ) :
    forgetOutcome ((batches service).perform call writes it' s) =
      forgetOutcome ((batches service).perform call writes it s) := by
  have hbatch := nextBatch_congr service h writes s
  have hphase : it'.phase = it.phase := (congrArg phase h : it'.unnamed.phase = it.unnamed.phase)
  cases call with
  | nextBatch =>
    simp only [BatchIterator.perform, batches]
    generalize it.nextBatch service writes s = got at hbatch ⊢
    generalize it'.nextBatch service writes s = got' at hbatch ⊢
    obtain ⟨e | batch, it₁, s₁⟩ := got <;> obtain ⟨e' | batch', it₁', s₁'⟩ := got' <;>
      simp only [forgetState, Except.map, Prod.mk.injEq, Except.ok.injEq, Except.error.injEq,
        reduceCtorEq, false_and] at hbatch
    all_goals
      obtain ⟨hgot, hit, rfl⟩ := hbatch
      simp only [forgetOutcome, Outcome.map, hgot, hit]
  | next =>
    simp only [BatchIterator.perform, batches, next, hphase]
    generalize it.nextBatch service writes s = got at hbatch ⊢
    generalize it'.nextBatch service writes s = got' at hbatch ⊢
    by_cases hover : it.phase = .exhausted
    · simp only [if_pos hover, forgetOutcome, h]
    simp only [if_neg hover]
    obtain ⟨e | batch, it₁, s₁⟩ := got <;> obtain ⟨e' | batch', it₁', s₁'⟩ := got' <;>
      simp only [forgetState, Except.map, Prod.mk.injEq, Except.ok.injEq, Except.error.injEq,
        reduceCtorEq, false_and] at hbatch
    · obtain ⟨rfl, hit, rfl⟩ := hbatch
      have hstopped := congrArg (fun it : RowCursor => { it with phase := .exhausted }) hit
      exact Prod.ext rfl (Prod.ext hstopped rfl)
    · obtain ⟨hgot, hit, rfl⟩ := hbatch
      have hempty : batch'.isEmpty = batch.isEmpty := by
        rw [← ResultSet.isEmpty_unnamed, hgot, ResultSet.isEmpty_unnamed]
      simp only [Iteration.handOut, hempty]
      cases batch.isEmpty <;> simp [forgetOutcome, Outcome.map, hgot, hit]

/-- Two runs that are the same but for names: the outcomes have the same columns and errors, and
the service ends in the same state. -/
structure Alike (got got' : List (Outcome ResultSet) × RowCursor × σ) : Prop where
  outcomes : got'.1.map (Outcome.map ResultSet.unnamed) = got.1.map (Outcome.map ResultSet.unnamed)
  cursor : got'.2.1.unnamed = got.2.1.unnamed
  state : got'.2.2 = got.2.2

/-- Cursors that differ in names only have the same future, by induction on the calls. -/
theorem run_alike (h : it'.unnamed = it.unnamed) (calls : List (Call × WriteLog)) (s : σ) :
    Alike ((batches service).run calls it s) ((batches service).run calls it' s) := by
  induction calls generalizing it it' s with
  | nil => exact ⟨rfl, h, rfl⟩
  | cons call calls ih =>
    obtain ⟨call, writes⟩ := call
    have hperform := perform_congr service h call writes s
    rcases hgot : (batches service).perform call writes it s with ⟨outcome, it₁, s₁⟩
    rcases hgot' : (batches service).perform call writes it' s with ⟨outcome', it₁', s₁'⟩
    simp only [hgot, hgot', forgetOutcome, Prod.mk.injEq] at hperform
    obtain ⟨houtcome, hit, rfl⟩ := hperform
    obtain ⟨houtcomes, hcursor, hstate⟩ := ih hit s₁'
    rw [BatchIterator.run_cons _ hgot, BatchIterator.run_cons _ hgot']
    exact ⟨by simp only [List.map_cons, houtcome, houtcomes], hcursor, hstate⟩

end Service

end RowCursor

end VectorClient
