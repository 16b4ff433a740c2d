import VectorClient.Proofs.PrimaryKey
import VectorClient.Proofs.RowCursor.Failure

/-!
# The surplus of a reply

A reply may hold more rows than the batch that was asked for. As many of them as fill
batches go into the cache, the last key moves to the last row of these, and whatever the
service sent behind it will be asked for again. So two numbers have to go together: where
the cache ends and where the next request begins. `Stocked` says that they do, for replies
of any size and content and after any failure, because a call that fails on its way to a
new cache leaves an empty one.

Hence there is nothing to put the rows of a reply behind when it comes in. The general way
of joining two result sets by the names and types of their columns, which may fail, is not
taken: the page becomes the rows at hand as it is.
-/

namespace VectorClient

theorem ResultSet.primaryKeyAt?_slice {r r' : ResultSet} {start stop row : Nat} {name : String}
    {key : PrimaryKey} (h : r.slice start stop = .ok r')
    (hkey : r.primaryKeyAt? name (start + row) = some key) (hrow : start + row < stop) :
    r'.primaryKeyAt? name row = some key := by
  rw [primaryKeyAt?, Option.bind_eq_some_iff] at hkey
  obtain ⟨c, hc, hread⟩ := hkey
  obtain ⟨c', hc', hcut⟩ := column?_slice h hc
  rw [primaryKeyAt?, hc', Option.bind_some]
  exact PrimaryKey.ofRow?_slice hcut hread hrow

namespace RowCursor

/-- Where rows are cached, the last key is that of the last one. -/
def EndsAtKey (it : RowCursor) : Prop :=
  0 < it.cache.rowCount → ∃ key, it.lastKey = some key ∧
    it.cache.primaryKeyAt? it.plan.primaryKey.name (it.cache.rowCount - 1) = some key

/-- The cached rows fill batches and end at the last key. -/
structure Stocked (it : RowCursor) : Prop where
  whole : it.plan.batchSize ∣ it.cache.rowCount
  ends : it.EndsAtKey

variable {it it' : RowCursor} {outcome : Except ClientError ResultSet}

theorem endsAtKey_of_drained (h : it.cache.columns = []) : it.EndsAtKey := by
  intro hsome
  rw [ResultSet.rowCount_of_columns_eq_nil h] at hsome
  exact absurd hsome (Nat.lt_irrefl 0)

theorem primaryKeyAt?_of_keyAt {page : ResultSet} {row : Nat} {key : PrimaryKey}
    (h : it.keyAt page row = .ok key) :
    page.primaryKeyAt? it.plan.primaryKey.name row = some key := by
  rw [keyAt] at h
  split at h
  · rename_i hread
    cases h
    exact hread
  · cases h

/-- Rows that are cut out end at the key in front of the cut. -/
theorem endsAtKey_of_slice {rows : ResultSet} {start stop : Nat} {key : PrimaryKey}
    (hcut : rows.slice start stop = .ok it.cache) (hstop : stop ≤ rows.rowCount)
    (hlast : it.lastKey = some key)
    (hread : rows.primaryKeyAt? it.plan.primaryKey.name (stop - 1) = some key) :
    it.EndsAtKey := by
  intro hsome
  have hcount := ResultSet.rowCount_slice hcut
  rw [Nat.min_eq_left hstop] at hcount
  refine ⟨key, hlast, ResultSet.primaryKeyAt?_slice hcut ?_ (by omega)⟩
  rwa [show start + (it.cache.rowCount - 1) = stop - 1 by omega]

/-- The batch is cut off the front, so the cache ends where it did. -/
theorem endsAtKey_takeCached (hit : it.EndsAtKey) (h : it.takeCached = (outcome, it')) :
    it'.EndsAtKey := by
  rcases takeCached_cases h with ⟨e, _, rfl⟩ |
    ⟨output, _, _, ⟨rest, hmore, hrest, rfl⟩ | ⟨_, rfl⟩⟩
  · exact hit
  · obtain ⟨key, hlast, hread⟩ := hit (Nat.zero_lt_of_lt hmore)
    exact endsAtKey_of_slice hrest (Nat.le_refl _) hlast hread
  · exact endsAtKey_of_drained rfl

/-- The key that is read is the one in the last row that is kept. -/
theorem endsAtKey_cutBatch {combined : ResultSet} (hnil : it.cache.columns = [])
    (hmore : it.plan.batchSize < combined.rowCount) (h : it.cutBatch combined = (outcome, it')) :
    it'.EndsAtKey := by
  obtain ⟨kept, hkept, hends⟩ := cutBatch_cases h
  have hle := surplus_le it.plan.batchSize combined.rowCount
  rw [← hkept] at hle
  rcases hends with ⟨e, _, _, rfl⟩ | ⟨key, hkey, ⟨e, _, _, rfl⟩ |
    ⟨output, _, _, ⟨rest, _, hrest, rfl⟩ | ⟨_, rfl⟩⟩⟩
  · exact endsAtKey_of_drained hnil
  · exact endsAtKey_of_drained hnil
  · exact endsAtKey_of_slice hrest (by omega) rfl (primaryKeyAt?_of_keyAt hkey)
  · exact endsAtKey_of_drained rfl

theorem endsAtKey_receive {reply : QueryReply} (hit : it.EndsAtKey)
    (h : it.receive reply = (outcome, it')) : it'.EndsAtKey := by
  rcases receive_cases h with ⟨e, _, _, rfl⟩ | ⟨page, _, ⟨e, _, _, rfl⟩ | ⟨combined, _, hends⟩⟩
  · exact hit
  · exact endsAtKey_of_drained rfl
  rcases hends with ⟨_, _, rfl⟩ | ⟨_, ⟨e, _, _, rfl⟩ | ⟨key, _, _, rfl⟩⟩ | ⟨hmore, hcut⟩
  · exact endsAtKey_of_drained rfl
  · exact endsAtKey_of_drained rfl
  · exact endsAtKey_of_drained rfl
  · have hnil : ({ it with cache := .empty } : RowCursor).cache.columns = [] := rfl
    exact endsAtKey_cutBatch hnil hmore hcut

section Calls

variable {σ : Type} {service : Service σ} {writes : WriteLog} {s s' : σ}

theorem endsAtKey_nextRows (hit : it.EndsAtKey)
    (h : it.nextRows service writes s = (outcome, it', s')) : it'.EndsAtKey := by
  rcases nextRows_cases h with ⟨htake, _⟩ | ⟨_, _, _, ⟨_, _, _, rfl⟩ | ⟨reply, _, hreceive⟩⟩
  · exact endsAtKey_takeCached hit htake
  · exact hit
  · exact endsAtKey_receive hit hreceive

theorem endsAtKey_nextBatch (hit : it.EndsAtKey)
    (h : it.nextBatch service writes s = (outcome, it', s')) : it'.EndsAtKey := by
  rcases nextBatch_cases h with ⟨_, rfl, _⟩ | ⟨_, _, hnext⟩ | ⟨_, batch, it₁, hnext, hdeliver⟩
  · exact hit
  · exact endsAtKey_nextRows hit hnext
  · have hends := endsAtKey_nextRows hit hnext
    cases outcome with
    | error e =>
      cases deliver_error hdeliver
      exact hends
    | ok output =>
      obtain ⟨_, rfl⟩ := deliver_ok hdeliver
      exact hends

theorem keeps_endsAtKey (service : Service σ) : (batches service).Keeps EndsAtKey where
  nextBatch := endsAtKey_nextBatch
  stop hit := hit

/-- A batch that comes out of the cache is a full one, and the service is not asked for it. -/
theorem rowCount_of_cached {batch : ResultSet} (hfull : it.plan.batchSize ≤ it.cache.rowCount)
    (h : it.nextRows service writes s = (.ok batch, it', s')) :
    batch.rowCount = it.plan.batchSize ∧ s' = s := by
  rcases nextRows_cases h with ⟨htake, hs⟩ | ⟨hshort, _⟩
  · refine ⟨?_, hs⟩
    rcases takeCached_cases htake with ⟨_, he, _⟩ | ⟨output, houtput, hbatch, _⟩
    · cases he
    · cases hbatch
      rw [ResultSet.rowCount_slice houtput, Nat.sub_zero, Nat.min_eq_left hfull]
  · exact absurd hfull (Nat.not_le_of_lt hshort)

end Calls

namespace Sample

/-- The first query finds a row, and the next reply has five of them. -/
def generous : Script :=
  .ofReplies [.query VectorClient.Sample.oneRow,
    .query { VectorClient.Sample.oneRow with columns := [.scalars .int64 "id" [1, 2, 3, 4, 5]] }]

end Sample

/-- Whatever the service answers and whichever calls fail, the cached rows fill batches and end
at the last key. So rows are asked for only when there is neither a row nor a column in the
cache, any page is joined to it as it stands, and a batch from the cache is a full one. -/
theorem stocked_of_start {σ : Type} (service : Service σ) (writes : WriteLog) (client : Client)
    (plan : QueryIteration) (s : σ) (it : RowCursor) (s' : σ)
    (hstart : start service writes client plan s = (.ok it, s')) (calls : List (Call × WriteLog))
    (outcomes : List (Outcome ResultSet)) (it₁ : RowCursor) (s₁ : σ)
    (hrun : (batches service).run calls it s' = (outcomes, it₁, s₁)) :
    Stocked it₁ ∧
      (it₁.cache.rowCount < it₁.plan.batchSize →
        it₁.cache.rowCount = 0 ∧ it₁.cache.columns = [] ∧
        ∀ page, it₁.cache.append page =
          (.ok (), ⟨page.columns, it₁.cache.outputNames.union page.outputNames⟩)) ∧
      (it₁.plan.batchSize ≤ it₁.cache.rowCount → ∀ log batch it₂ s₂,
        it₁.nextRows service log s₁ = (.ok batch, it₂, s₂) →
          batch.rowCount = it₁.plan.batchSize ∧ s₂ = s₁) := by
  have hrested : Rested it₁ := by
    have hlast := (keeps_rested service).run (rested_of_start hstart) s' calls
    rwa [hrun] at hlast
  have hends : it₁.EndsAtKey := by
    have hfirst : it.EndsAtKey := by
      obtain ⟨_, _, _, rfl⟩ := start_eq hstart
      exact endsAtKey_of_drained rfl
    have hlast := (keeps_endsAtKey service).run hfirst s' calls
    rwa [hrun] at hlast
  refine ⟨⟨hrested.whole.dvd, hends⟩, fun hshort => ?_, fun hfull log batch it₂ s₂ hnext =>
    rowCount_of_cached hfull hnext⟩
  have hnil := hrested.whole.columns_eq_nil hshort
  refine ⟨ResultSet.rowCount_of_columns_eq_nil hnil, hnil, fun page => ?_⟩
  rw [ResultSet.append, ResultSet.appendColumns, hnil]
  rfl

theorem stocked_of_start_generous : ∃ it s it₁ s₁ batch,
    start (Script.service 0) .empty .standard VectorClient.Sample.query Sample.generous =
      (.ok it, s) ∧
    (batches (Script.service 0)).run [(.nextBatch, .empty)] it s = ([.batch batch], it₁, s₁) ∧
    it₁.cache.rowCount = 2 ∧ it₁.lastKey = some (.int 4) ∧ Stocked it₁ := by
  obtain ⟨it, s, hstart, htest⟩ := exists_ok_of_test
    (start (Script.service 0) .empty .standard VectorClient.Sample.query Sample.generous)
    (fun it s => ((it.nextBatch (Script.service 0) .empty s).1.isOk &&
      (it.nextBatch (Script.service 0) .empty s).2.1.cache.rowCount == 2) &&
      (it.nextBatch (Script.service 0) .empty s).2.1.lastKey == some (.int 4))
    (by decide +kernel)
  rw [Bool.and_eq_true, Bool.and_eq_true] at htest
  obtain ⟨⟨hbatch, hrows⟩, hkey⟩ := htest
  obtain ⟨batch, ⟨it₁, s₁⟩, hnext⟩ := exists_ok_of_isOk hbatch
  have hrun : (batches (Script.service 0)).run [(.nextBatch, .empty)] it s =
      ([.batch batch], it₁, s₁) := by
    rw [BatchIterator.run_cons _ (BatchIterator.perform_nextBatch _ hnext)]
    rfl
  rw [hnext] at hrows hkey
  exact ⟨it, s, it₁, s₁, batch, hstart, hrun, beq_iff_eq.mp hrows, beq_iff_eq.mp hkey,
    (stocked_of_start _ _ _ _ _ _ _ hstart _ _ _ _ hrun).1⟩

end RowCursor

end VectorClient
