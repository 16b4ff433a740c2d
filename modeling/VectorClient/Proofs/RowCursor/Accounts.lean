import VectorClient.Proofs.Iteration.Calls
import VectorClient.Proofs.ResultSet.Records

/-!
# Accounts of row cursors

Every batch of a query is cut out of rows at hand, so the bounds on its size are those
of the cuts, whatever columns the service sent. What is counted as returned is what is
left after the last cut.
-/

namespace VectorClient

namespace RowCursor

/-- Getting a batch moves the cursor and changes the cache, and the batch has a size. -/
structure Gathers (it : RowCursor) (batch : Except ClientError ResultSet) (it' : RowCursor) :
    Prop where
  same : it' = { it with lastKey := it'.lastKey, cache := it'.cache }
  size : ∀ b, batch = .ok b → b.rowCount ≤ it.plan.batchSize

variable {it it' : RowCursor}

theorem Gathers.plan {batch : Except ClientError ResultSet} (h : it.Gathers batch it') :
    it'.plan = it.plan := by
  rw [h.same]

theorem Gathers.returned {batch : Except ClientError ResultSet} (h : it.Gathers batch it') :
    it'.returned = it.returned := by
  rw [h.same]

theorem rowCount_firstBatch {r output : ResultSet} {batch : Nat}
    (h : r.slice 0 batch = .ok output) : output.rowCount ≤ batch := by
  rw [ResultSet.rowCount_slice h, Nat.sub_zero]
  exact Nat.min_le_left ..

theorem gathers_ok {b : ResultSet}
    (hsame : it' = { it with lastKey := it'.lastKey, cache := it'.cache })
    (hsize : b.rowCount ≤ it.plan.batchSize) : it.Gathers (.ok b) it' := by
  refine ⟨hsame, ?_⟩
  intro b' hb'
  cases hb'
  exact hsize

theorem gathers_error {e : ClientError}
    (hsame : it' = { it with lastKey := it'.lastKey, cache := it'.cache }) :
    it.Gathers (.error e) it' := by
  refine ⟨hsame, ?_⟩
  intro b hb
  cases hb

/-- A cut that fails changes nothing. Otherwise the first batch comes out of the cache, and what is
behind it stays there. -/
theorem takeCached_cases {outcome : Except ClientError ResultSet}
    (h : it.takeCached = (outcome, it')) :
    (∃ e, outcome = .error (.ofReply e) ∧ it' = it) ∨
      ∃ output, it.cache.slice 0 it.plan.batchSize = .ok output ∧ outcome = .ok output ∧
        ((∃ rest, it.plan.batchSize < it.cache.rowCount ∧
            it.cache.slice it.plan.batchSize it.cache.rowCount = .ok rest ∧
            it' = { it with cache := rest }) ∨
          it.cache.rowCount ≤ it.plan.batchSize ∧
            it' = { it with cache := it.cache.emptyLike }) := by
  rw [takeCached] at h
  split at h
  · cases h
    exact .inl ⟨_, rfl, rfl⟩
  rename_i output houtput
  split at h
  · rename_i hmore
    split at h
    · cases h
      exact .inl ⟨_, rfl, rfl⟩
    · rename_i rest hrest
      cases h
      exact .inr ⟨output, houtput, rfl, .inl ⟨rest, hmore, hrest, rfl⟩⟩
  · rename_i hlast
    cases h
    exact .inr ⟨output, houtput, rfl, .inr ⟨Nat.le_of_not_lt hlast, rfl⟩⟩

/-- The number of rows behind the first batch that fill batches. -/
def surplus (batchSize rows : Nat) : Nat := (rows - batchSize) / batchSize * batchSize

theorem surplus_le (batchSize rows : Nat) : surplus batchSize rows ≤ rows - batchSize :=
  Nat.div_mul_le_self ..

theorem dvd_surplus (batchSize rows : Nat) : batchSize ∣ surplus batchSize rows :=
  Nat.dvd_mul_left ..

/-- The key of the last row to keep is missing and nothing has changed, or the last key is this
one. Then a cut fails, or the first batch is cut off and the surplus is cached. -/
theorem cutBatch_cases {combined : ResultSet} {outcome : Except ClientError ResultSet}
    (h : it.cutBatch combined = (outcome, it')) :
    ∃ kept, kept = surplus it.plan.batchSize combined.rowCount ∧
      ((∃ e, it.keyAt combined (it.plan.batchSize + kept - 1) = .error e ∧
          outcome = .error e ∧ it' = it) ∨
        ∃ key, it.keyAt combined (it.plan.batchSize + kept - 1) = .ok key ∧
          ((∃ e, (combined.slice 0 it.plan.batchSize = .error e ∨ 0 < kept ∧
                combined.slice it.plan.batchSize (it.plan.batchSize + kept) = .error e) ∧
              outcome = .error (.ofReply e) ∧ it' = { it with lastKey := some key }) ∨
            ∃ output, combined.slice 0 it.plan.batchSize = .ok output ∧ outcome = .ok output ∧
              ((∃ rest, 0 < kept ∧
                  combined.slice it.plan.batchSize (it.plan.batchSize + kept) = .ok rest ∧
                  it' = { it with lastKey := some key, cache := rest }) ∨
                kept = 0 ∧
                  it' = { it with lastKey := some key, cache := combined.emptyLike }))) := by
  rw [cutBatch] at h
  dsimp only at h
  refine ⟨_, rfl, ?_⟩
  rw [surplus]
  split at h
  · rename_i e hkey
    cases h
    exact .inl ⟨e, hkey, rfl, rfl⟩
  rename_i key hkey
  refine .inr ⟨key, hkey, ?_⟩
  split at h
  · rename_i e hfailed
    cases h
    exact .inl ⟨e, .inl hfailed, rfl, rfl⟩
  rename_i output houtput
  split at h
  · rename_i hsome
    split at h
    · rename_i e hfailed
      cases h
      exact .inl ⟨e, .inr ⟨hsome, hfailed⟩, rfl, rfl⟩
    · rename_i rest hrest
      cases h
      exact .inr ⟨output, houtput, rfl, .inl ⟨rest, hsome, hrest, rfl⟩⟩
  · rename_i hnone
    cases h
    exact .inr ⟨output, houtput, rfl, .inr ⟨Nat.eq_zero_of_not_pos hnone, rfl⟩⟩

/-- A reply that cannot be read changes nothing. Otherwise the cache is taken out, and its rows and
those of the reply are no rows, or no more than a batch, or more than that. -/
theorem receive_cases {reply : QueryReply} {outcome : Except ClientError ResultSet}
    (h : it.receive reply = (outcome, it')) :
    (∃ e, reply.results it.plan.query.options.outputFields = .error e ∧ outcome = .error e ∧
        it' = it) ∨
      ∃ page, reply.results it.plan.query.options.outputFields = .ok page ∧
        ((∃ e, it.cache.joined page = .error e ∧ outcome = .error (.ofReply e) ∧
            it' = { it with cache := .empty }) ∨
          ∃ combined, it.cache.joined page = .ok combined ∧
            (combined.rowCount = 0 ∧ outcome = .ok combined ∧ it' = { it with cache := .empty } ∨
              combined.rowCount ≤ it.plan.batchSize ∧
                ((∃ e, it.keyAt combined (combined.rowCount - 1) = .error e ∧
                    outcome = .error e ∧ it' = { it with cache := .empty }) ∨
                  ∃ key, it.keyAt combined (combined.rowCount - 1) = .ok key ∧
                    outcome = .ok combined ∧
                    it' = { it with lastKey := some key, cache := .empty }) ∨
              it.plan.batchSize < combined.rowCount ∧
                cutBatch { it with cache := .empty } combined = (outcome, it'))) := by
  rw [receive] at h
  split at h
  · rename_i e hfailed
    cases h
    exact .inl ⟨e, hfailed, rfl, rfl⟩
  rename_i page hpage
  refine .inr ⟨page, hpage, ?_⟩
  dsimp only at h
  split at h
  · rename_i e hfailed
    cases h
    exact .inl ⟨e, hfailed, rfl, rfl⟩
  rename_i combined hjoined
  refine .inr ⟨combined, hjoined, ?_⟩
  split at h
  · rename_i hzero
    cases h
    exact .inl ⟨hzero, rfl, rfl⟩
  refine .inr ?_
  split at h
  · rename_i hfits
    split at h
    · rename_i e hfailed
      cases h
      exact .inl ⟨hfits, .inl ⟨e, hfailed, rfl, rfl⟩⟩
    · rename_i key hkey
      cases h
      exact .inl ⟨hfits, .inr ⟨key, hkey, rfl, rfl⟩⟩
  · rename_i hmore
    exact .inr ⟨Nat.lt_of_not_le hmore, h⟩

theorem gathers_takeCached {outcome : Except ClientError ResultSet}
    (h : it.takeCached = (outcome, it')) : it.Gathers outcome it' := by
  rcases takeCached_cases h with ⟨e, rfl, rfl⟩ |
    ⟨output, houtput, rfl, ⟨rest, _, _, rfl⟩ | ⟨_, rfl⟩⟩
  · exact gathers_error rfl
  · exact gathers_ok rfl (rowCount_firstBatch houtput)
  · exact gathers_ok rfl (rowCount_firstBatch houtput)

theorem gathers_cutBatch {combined : ResultSet} {outcome : Except ClientError ResultSet}
    (h : it.cutBatch combined = (outcome, it')) : it.Gathers outcome it' := by
  obtain ⟨kept, _, ⟨e, _, rfl, rfl⟩ | ⟨key, _, ⟨e, _, rfl, rfl⟩ |
    ⟨output, houtput, rfl, ⟨rest, _, _, rfl⟩ | ⟨_, rfl⟩⟩⟩⟩ := cutBatch_cases h
  · exact gathers_error rfl
  · exact gathers_error rfl
  · exact gathers_ok rfl (rowCount_firstBatch houtput)
  · exact gathers_ok rfl (rowCount_firstBatch houtput)

theorem gathers_receive {reply : QueryReply} {outcome : Except ClientError ResultSet}
    (h : it.receive reply = (outcome, it')) : it.Gathers outcome it' := by
  rcases receive_cases h with ⟨e, _, rfl, rfl⟩ | ⟨page, _, ⟨e, _, rfl, rfl⟩ | ⟨combined, _, hends⟩⟩
  · exact gathers_error rfl
  · exact gathers_error rfl
  rcases hends with ⟨hzero, rfl, rfl⟩ |
    ⟨hfits, ⟨e, _, rfl, rfl⟩ | ⟨key, _, rfl, rfl⟩⟩ | ⟨_, hcut⟩
  · exact gathers_ok rfl (by omega)
  · exact gathers_error rfl
  · exact gathers_ok rfl hfits
  · obtain ⟨hsame, hsize⟩ := gathers_cutBatch hcut
    exact ⟨hsame, hsize⟩

variable {σ : Type} {service : Service σ} {writes : WriteLog} {s s' : σ}

/-- A batch is counted with the rows that are left of it. -/
theorem deliver_ok {batch output : ResultSet} (h : it.deliver batch = (.ok output, it')) :
    output.rowCount ≤
        Iteration.capped (Iteration.owed it.plan.query.limit it.returned) batch.rowCount ∧
      it' = { it with
        returned := it.returned + output.rowCount
        phase := .afterBatch output.rowCount } := by
  rw [deliver] at h
  have hle := Iteration.capped_le (Iteration.owed it.plan.query.limit it.returned) batch.rowCount
  split at h
  · cases h
  · rename_i output' houtput
    cases h
    split at houtput
    · rw [ResultSet.rowCount_slice houtput]
      exact ⟨by omega, rfl⟩
    · cases houtput
      exact ⟨by omega, rfl⟩

theorem deliver_error {batch : ResultSet} {e : ClientError}
    (h : it.deliver batch = (.error e, it')) : it' = it := by
  rw [deliver] at h
  split at h <;> cases h
  rfl

/-- The plan is the one agreed on. -/
structure Accounted (limit : Option Nat) (batchSize : Nat) (it : RowCursor) : Prop where
  plan_limit : it.plan.query.limit = limit
  plan_batchSize : it.plan.batchSize = batchSize

theorem nextBatch_exhausted (h : it.phase = .exhausted) (writes : WriteLog) (s : σ) :
    it.nextBatch service writes s = (.ok it.cache.emptyLike, it, s) := by
  rw [nextBatch, if_pos (.inl h)]
  cases it
  cases h
  rfl

/-- Gets a batch from the cache or from the service, before the limit is looked at. -/
def nextRows (service : Service σ) (writes : WriteLog) (it : RowCursor) (s : σ) :
    Except ClientError ResultSet × RowCursor × σ :=
  if it.plan.batchSize ≤ it.cache.rowCount then (it.takeCached.1, it.takeCached.2, s)
  else it.fetch service writes s

theorem nextBatch_eq (service : Service σ) (writes : WriteLog) (it : RowCursor) (s : σ) :
    it.nextBatch service writes s =
      if it.phase = .exhausted ∨ Iteration.owed it.plan.query.limit it.returned = some 0 then
        (.ok it.cache.emptyLike, { it with phase := .exhausted }, s)
      else match it.nextRows service writes s with
        | (.error e, it, s) => (.error e, it, s)
        | (.ok batch, it, s) => ((it.deliver batch).1, (it.deliver batch).2, s) := by
  rw [nextBatch]
  split
  · rfl
  · rw [← nextRows]
    rcases it.nextRows service writes s with ⟨_ | _, _, _⟩ <;> rfl

/-- Rows come out of the cache as long as it has a batch of them; then the service is asked. -/
theorem nextRows_cases {batch : Except ClientError ResultSet}
    (h : it.nextRows service writes s = (batch, it', s')) :
    (it.takeCached = (batch, it') ∧ s' = s) ∨
    it.cache.rowCount < it.plan.batchSize ∧ ∃ answer,
      it.client.sendQuery service (it.request writes it.plan.batchSize true) s = (answer, s') ∧
      ((∃ e, answer = .error e ∧ batch = .error e ∧ it' = it) ∨
        ∃ reply, answer = .ok reply ∧ it.receive reply = (batch, it')) := by
  rw [nextRows] at h
  split at h
  · cases h
    exact .inl ⟨rfl, rfl⟩
  rename_i hshort
  refine .inr ⟨Nat.lt_of_not_le hshort, ?_⟩
  rw [fetch] at h
  split at h
  · rename_i e _ hanswer
    cases h
    exact ⟨_, hanswer, .inl ⟨e, rfl, rfl, rfl⟩⟩
  · rename_i reply _ hanswer
    cases h
    exact ⟨_, hanswer, .inr ⟨reply, rfl, rfl⟩⟩

theorem gathers_nextRows {batch : Except ClientError ResultSet}
    (h : it.nextRows service writes s = (batch, it', s')) : it.Gathers batch it' := by
  rcases nextRows_cases h with ⟨htake, _⟩ | ⟨_, _, _, ⟨e, _, rfl, rfl⟩ | ⟨reply, _, hreceive⟩⟩
  · exact gathers_takeCached htake
  · exact gathers_error rfl
  · exact gathers_receive hreceive

/-- Every call that is not refused gets a batch and delivers it. -/
theorem nextBatch_cases {outcome : Except ClientError ResultSet}
    (h : it.nextBatch service writes s = (outcome, it', s')) :
    (outcome = .ok it.cache.emptyLike ∧ it' = { it with phase := .exhausted } ∧ s' = s) ∨
    (∃ e, outcome = .error e ∧ it.nextRows service writes s = (.error e, it', s')) ∨
    (Iteration.owed it.plan.query.limit it.returned ≠ some 0 ∧ ∃ batch it₁,
      it.nextRows service writes s = (.ok batch, it₁, s') ∧
        it₁.deliver batch = (outcome, it')) := by
  rw [nextBatch_eq] at h
  split at h
  · cases h
    exact .inl ⟨rfl, rfl, rfl⟩
  · rename_i hgoing
    refine .inr ?_
    split at h
    · rename_i e it₁ s₁ hnext
      cases h
      exact .inl ⟨e, rfl, hnext⟩
    · rename_i batch it₁ s₁ hnext
      cases h
      exact .inr ⟨fun howed => hgoing (.inr howed), batch, it₁, hnext, rfl⟩

theorem nextBatch_plan {outcome : Except ClientError ResultSet}
    (h : it.nextBatch service writes s = (outcome, it', s')) : it'.plan = it.plan := by
  rcases nextBatch_cases h with ⟨_, rfl, _⟩ | ⟨_, _, hnext⟩ | ⟨_, batch, it₁, hnext, hdeliver⟩
  · rfl
  · exact (gathers_nextRows hnext).plan
  · cases outcome with
    | error e =>
        rw [deliver_error hdeliver]
        exact (gathers_nextRows hnext).plan
    | ok output =>
        obtain ⟨_, rfl⟩ := deliver_ok hdeliver
        exact (gathers_nextRows hnext).plan

theorem ledger (service : Service σ) (limit : Option Nat) (batchSize : Nat) :
    (batches service).Ledger limit batchSize (Accounted limit batchSize) where
  valid hit h := by
    have hplan := nextBatch_plan h
    exact ⟨by rw [hplan, hit.plan_limit], by rw [hplan, hit.plan_batchSize]⟩
  batch := by
    intro writes it s b it' s' hit h
    rcases nextBatch_cases h with ⟨hb, rfl, rfl⟩ | ⟨e, he, _⟩ | ⟨_, batch, it₁, hnext, hdeliver⟩
    · cases hb
      exact ⟨Nat.zero_le _, rfl, fun _ => rfl⟩
    · cases he
    · obtain ⟨hcapped, rfl⟩ := deliver_ok hdeliver
      have hgathers := gathers_nextRows hnext
      rw [hgathers.plan, hgathers.returned, hit.plan_limit] at hcapped
      refine ⟨?_, ?_, ?_⟩
      · rw [← hit.plan_batchSize]
        exact Nat.le_trans hcapped (Iteration.capped_mono _ (hgathers.size batch rfl))
      · change it₁.returned + b.rowCount = it.returned + b.rowCount
        rw [hgathers.returned]
      · intro hzero
        change Phase.afterBatch b.rowCount = .exhausted
        rw [show b.rowCount = 0 from hzero, Phase.afterBatch_zero]
  failed := by
    intro writes it s e it' s' hit h
    rcases nextBatch_cases h with ⟨he, _⟩ | ⟨_, _, hnext⟩ | ⟨_, batch, it₁, hnext, hdeliver⟩
    · cases he
    · exact (gathers_nextRows hnext).returned
    · rw [deliver_error hdeliver]
      exact (gathers_nextRows hnext).returned
  exhausted hphase writes s := ⟨_, nextBatch_exhausted hphase writes s, rfl⟩
  stop hit := ⟨⟨hit.plan_limit, hit.plan_batchSize⟩, rfl, rfl⟩

/-- Skipping rows moves the cursor and does nothing else. -/
theorem seek_frame {left : Nat} (h : seek service writes left it s = (.ok it', s')) :
    ∃ key, it' = { it with lastKey := key } := by
  fun_induction seek service writes left it s with
  | case1 =>
      cases h
      exact ⟨_, rfl⟩
  | case2 => cases h
  | case3 => cases h
  | case4 =>
      cases h
      exact ⟨_, rfl⟩
  | case5 => cases h
  | case6 _ _ _ _ _ _ _ _ _ _ _ _ ih => exact ih h

/-- The iteration that a first reply with this timestamp begins. -/
def pinned (client : Client) (plan : QueryIteration) (ts : Nat) : RowCursor :=
  { ofPlan client plan with sessionTimestamp := ts }

/-- A query is refused, or nothing is to be asked for, or a first query is sent; if there is a
reply to it, rows are skipped. -/
theorem start_cases {client : Client} {plan : QueryIteration}
    {outcome : Except ClientError RowCursor}
    (h : start service writes client plan s = (outcome, s')) :
    (∃ e, outcome = .error e ∧ s' = s) ∨
    plan.validate = .ok () ∧
      ((plan.query.limit = some 0 ∧
          outcome = .ok { ofPlan client plan with phase := .exhausted } ∧ s' = s) ∨
        (∃ e, client.sendQuery service ((ofPlan client plan).request writes 1 true) s =
          (.error e, s') ∧ outcome = .error e) ∨
        ∃ reply s₁ skipped,
          client.sendQuery service ((ofPlan client plan).request writes 1 true) s =
            (.ok reply, s₁) ∧
          seek service writes plan.query.offset
            (pinned client plan (Timestamp.orClock reply.sessionTimestamp (service.epoch s₁))) s₁ =
            (skipped, s') ∧
          ((∃ e, outcome = .error e) ∨ skipped = outcome)) := by
  rw [start] at h
  split at h
  · cases h
    exact .inl ⟨_, rfl, rfl⟩
  rename_i hvalid
  refine .inr ⟨hvalid, ?_⟩
  dsimp only at h
  split at h
  · rename_i hlimit
    cases h
    exact .inl ⟨hlimit, rfl, rfl⟩
  refine .inr ?_
  split at h
  · rename_i e _ hsend
    cases h
    exact .inl ⟨e, hsend, rfl⟩
  rename_i reply s₁ hsend
  split at h
  · rename_i hseek
    cases h
    exact .inr ⟨reply, s₁, _, hsend, hseek, .inl ⟨_, rfl⟩⟩
  · rename_i hseek
    cases h
    exact .inr ⟨reply, s₁, _, hsend, hseek, .inr rfl⟩

theorem validate_of_start {client : Client} {plan : QueryIteration}
    (h : start service writes client plan s = (.ok it, s')) : plan.validate = .ok () := by
  rcases start_cases h with ⟨_, he, _⟩ | ⟨hvalid, _⟩
  · cases he
  · exact hvalid

theorem start_eq {client : Client} {plan : QueryIteration}
    (h : start service writes client plan s = (.ok it, s')) :
    ∃ ts key phase, it =
      { ofPlan client plan with sessionTimestamp := ts, lastKey := key, phase := phase } := by
  rcases start_cases h with ⟨_, he, _⟩ |
    ⟨_, ⟨_, hit, _⟩ | ⟨_, _, he⟩ | ⟨_, _, _, _, hseek, ⟨_, he⟩ | rfl⟩⟩
  · cases he
  · cases hit
    exact ⟨_, _, _, rfl⟩
  · cases he
  · cases he
  · obtain ⟨key, rfl⟩ := seek_frame hseek
    exact ⟨_, _, _, rfl⟩

theorem start_frame {client : Client} {plan : QueryIteration}
    (h : start service writes client plan s = (.ok it, s')) : it.plan = plan ∧ it.returned = 0 := by
  obtain ⟨_, _, _, rfl⟩ := start_eq h
  exact ⟨rfl, rfl⟩

end RowCursor

end VectorClient
