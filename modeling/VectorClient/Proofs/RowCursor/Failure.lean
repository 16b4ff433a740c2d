import VectorClient.Proofs.Iteration.Accounts
import VectorClient.Proofs.RowCursor.Names
import VectorClient.Proofs.RowCursor.Window

/-!
# Failed batches of a row cursor

A call that fails hands out no rows, so the rows it has asked for must be asked for again.
Nothing that a caller can see changes with it, and neither do the rows in the cache: a
request is only sent when the cache has none, and where rows are in the cache they are cut
before anything is replaced.

The last key, however, moves before the rows of a reply are cut. Cutting fails where a
struct column has parts of different lengths, which the checks of a reply let pass, and then
the rows in front of that key are skipped. `resumes_of_start` shows that there is no other
way to lose them: unless a reply has a ragged column, the iteration goes on as if the call
that has failed had never been made.
-/

namespace VectorClient

/-- No column has parts of different lengths. -/
def QueryReply.Regular (reply : QueryReply) : Prop := ∀ c ∈ reply.columns, c.Even c.rowCount

namespace ResultSet

/-- The first rows can be cut out. -/
def CutsShort (r : ResultSet) : Prop :=
  ∀ count, 0 < count → count < r.rowCount → ∃ r', r.slice 0 count = .ok r'

theorem cutsShort_of_slice {r r' : ResultSet} {count : Nat} (h : r.slice 0 count = .ok r') :
    r'.CutsShort := by
  intro shorter hpos _
  rw [slice] at h
  cases hparts : Column.sliceParts 0 count r.columns with
  | error e => rw [hparts] at h; cases h
  | ok columns =>
    rw [hparts] at h
    cases h
    obtain ⟨columns', hshorter⟩ := Column.exists_sliceParts_of_sliceParts hpos hparts
    exact ⟨{ r with columns := columns' }, by rw [slice, hshorter]; rfl⟩

theorem Even.cutsShort {r : ResultSet} (h : r.Even r.rowCount) : r.CutsShort := by
  intro count hpos hcount
  exact ⟨_, slice_eq_between h hpos (Nat.lt_trans hpos hcount)⟩

theorem rowCount_of_columns_eq_nil {r : ResultSet} (h : r.columns = []) : r.rowCount = 0 := by
  rw [rowCount, h, rowCountOf]

end ResultSet

theorem QueryReply.Regular.even {reply : QueryReply} (h : reply.Regular) {requested : List String}
    {page : ResultSet} (hpage : reply.results requested = .ok page) :
    page.columns = reply.columns ∧ page.Even page.rowCount := by
  rw [results] at hpage
  split at hpage
  · rename_i r hcolumns
    cases hpage
    obtain ⟨rfl, hlevel⟩ := ResultSet.level_of_ofColumns hcolumns
    refine ⟨rfl, fun c hc => ?_⟩
    have heven := h c hc
    rwa [hlevel.columns c hc] at heven
  · cases hpage

namespace RowCursor

/-- The rows at hand between two calls are whole batches, or there are no columns. -/
def Whole (batchSize : Nat) (cache : ResultSet) : Prop :=
  cache.columns = [] ∨ 0 < cache.rowCount ∧ batchSize ∣ cache.rowCount

theorem Whole.dvd {batchSize : Nat} {cache : ResultSet} (h : Whole batchSize cache) :
    batchSize ∣ cache.rowCount := by
  rcases h with hnil | ⟨_, hdvd⟩
  · rw [ResultSet.rowCount_of_columns_eq_nil hnil]
    exact Nat.dvd_zero _
  · exact hdvd

/-- Less than a batch of whole batches is nothing, not even columns. -/
theorem Whole.columns_eq_nil {batchSize : Nat} {cache : ResultSet} (h : Whole batchSize cache)
    (hshort : cache.rowCount < batchSize) : cache.columns = [] := by
  rcases h with hnil | ⟨hsome, hdvd⟩
  · exact hnil
  · exact absurd (Nat.le_of_dvd hsome hdvd) (Nat.not_le_of_lt hshort)

/-- How getting a batch ends. It changes nothing but the last key and the cache. With an error
the rows in the cache stay, and the last key stays unless there is a fault; a batch can be cut
to the limit, or there is a fault and the rows in the cache stay as well. -/
structure Gets (it : RowCursor) (fault : Prop) (outcome : Except ClientError ResultSet)
    (it' : RowCursor) : Prop where
  same : it' = { it with lastKey := it'.lastKey, cache := it'.cache }
  whole : Whole it.plan.batchSize it'.cache
  error : ∀ e, outcome = .error e →
    it'.cache.columns = it.cache.columns ∧ (it'.lastKey = it.lastKey ∨ fault)
  cut : ∀ b, outcome = .ok b → b.CutsShort ∨ it'.cache.columns = it.cache.columns ∧ fault

namespace Gets

variable {it it' : RowCursor} {fault fault' : Prop} {outcome : Except ClientError ResultSet}

theorem of_error {e : ClientError}
    (hsame : it' = { it with lastKey := it'.lastKey, cache := it'.cache })
    (hwhole : Whole it.plan.batchSize it'.cache)
    (hrows : it'.cache.columns = it.cache.columns) (hkey : it'.lastKey = it.lastKey ∨ fault) :
    Gets it fault (.error e) it' := by
  refine ⟨hsame, hwhole, fun _ _ => ⟨hrows, hkey⟩, ?_⟩
  rintro _ ⟨⟩

theorem of_ok {b : ResultSet}
    (hsame : it' = { it with lastKey := it'.lastKey, cache := it'.cache })
    (hwhole : Whole it.plan.batchSize it'.cache)
    (hcut : b.CutsShort ∨ it'.cache.columns = it.cache.columns ∧ fault) :
    Gets it fault (.ok b) it' := by
  refine ⟨hsame, hwhole, ?_, ?_⟩
  · rintro _ ⟨⟩
  · rintro _ ⟨⟩
    exact hcut

theorem mono (h : Gets it fault outcome it') (himp : fault → fault') : Gets it fault' outcome it' :=
  ⟨h.same, h.whole, fun e he => (h.error e he).imp_right (.imp_right himp),
    fun b hb => (h.cut b hb).imp_right (.imp_right himp)⟩

theorem unmoved {e : ClientError} (hwhole : Whole it.plan.batchSize it.cache) :
    Gets it fault (.error e) it :=
  .of_error rfl hwhole rfl (.inl rfl)

theorem of_cleared (hnil : it.cache.columns = [])
    (h : Gets { it with cache := .empty } fault outcome it') : Gets it fault outcome it' :=
  ⟨h.same, h.whole, fun e he => (h.error e he).imp_left (·.trans hnil.symm),
    fun b hb => (h.cut b hb).imp_right (.imp_left (·.trans hnil.symm))⟩

end Gets

variable {it it' : RowCursor} {outcome : Except ClientError ResultSet}

theorem gets_takeCached (hwhole : Whole it.plan.batchSize it.cache)
    (h : it.takeCached = (outcome, it')) : Gets it False outcome it' := by
  rcases takeCached_cases h with ⟨e, rfl, rfl⟩ |
    ⟨output, houtput, rfl, ⟨rest, hmore, hrest, rfl⟩ | ⟨_, rfl⟩⟩
  · exact .unmoved hwhole
  · refine .of_ok rfl (.inr ?_) (.inl (ResultSet.cutsShort_of_slice houtput))
    rw [ResultSet.rowCount_slice hrest, Nat.min_self]
    exact ⟨by omega, Nat.dvd_sub hwhole.dvd (Nat.dvd_refl _)⟩
  · exact .of_ok rfl (.inl rfl) (.inl (ResultSet.cutsShort_of_slice houtput))

theorem gets_cutBatch {combined : ResultSet} (hnil : it.cache.columns = [])
    (hrows : it.plan.batchSize < combined.rowCount) (hpos : 0 < it.plan.batchSize)
    (h : it.cutBatch combined = (outcome, it')) :
    Gets it (¬ combined.Even combined.rowCount) outcome it' := by
  -- only ragged columns keep a range of rows from being cut out
  have hragged : ∀ {start stop e}, start < stop → start < combined.rowCount →
      combined.slice start stop = .error e → ¬ combined.Even combined.rowCount := by
    intro start stop e hlt hstart herror heven
    rw [ResultSet.slice_eq_between heven hlt hstart] at herror
    cases herror
  obtain ⟨kept, hkept, hends⟩ := cutBatch_cases h
  have hle := surplus_le it.plan.batchSize combined.rowCount
  have hdvd := dvd_surplus it.plan.batchSize combined.rowCount
  rw [← hkept] at hle hdvd
  rcases hends with ⟨e, _, rfl, rfl⟩ | ⟨key, _, ⟨e, hfailed, rfl, rfl⟩ |
    ⟨output, houtput, rfl, ⟨rest, hsome, hrest, rfl⟩ | ⟨_, rfl⟩⟩⟩
  · exact .unmoved (.inl hnil)
  · refine .of_error rfl (.inl hnil) rfl (.inr ?_)
    rcases hfailed with hfailed | ⟨hsome, hfailed⟩
    · exact hragged hpos (by omega) hfailed
    · exact hragged (by omega) hrows hfailed
  · refine .of_ok rfl (.inr ?_) (.inl (ResultSet.cutsShort_of_slice houtput))
    rw [ResultSet.rowCount_slice hrest, Nat.min_eq_left (by omega), Nat.add_sub_cancel_left]
    exact ⟨hsome, hdvd⟩
  · exact .of_ok rfl (.inl rfl) (.inl (ResultSet.cutsShort_of_slice houtput))

theorem gets_receive {reply : QueryReply} (hnil : it.cache.columns = [])
    (hpos : 0 < it.plan.batchSize) (h : it.receive reply = (outcome, it')) :
    Gets it (¬ reply.Regular) outcome it' := by
  rcases receive_cases h with ⟨e, _, rfl, rfl⟩ | ⟨page, hpage, hjoins⟩
  · exact .unmoved (.inl hnil)
  rw [ResultSet.joined_of_columns_eq_nil hnil] at hjoins
  rcases hjoins with ⟨e, he, _⟩ | ⟨combined, hcombined, hends⟩
  · cases he
  have hragged : ¬ combined.Even combined.rowCount → ¬ reply.Regular := by
    intro heven hregular
    cases hcombined
    exact heven (hregular.even hpage).2
  rcases hends with ⟨hzero, rfl, rfl⟩ |
    ⟨_, ⟨e, _, rfl, rfl⟩ | ⟨key, _, rfl, rfl⟩⟩ | ⟨hmore, hcut⟩
  · refine .of_ok rfl (.inl rfl) (.inl fun count _ hcount => ?_)
    omega
  · exact .of_error rfl (.inl rfl) hnil.symm (.inl rfl)
  · refine .of_ok rfl (.inl rfl) ?_
    by_cases heven : combined.Even combined.rowCount
    · exact .inl heven.cutsShort
    · exact .inr ⟨hnil.symm, hragged heven⟩
  · have hgets : Gets { it with cache := .empty } (¬ combined.Even combined.rowCount) outcome it' :=
      gets_cutBatch rfl hmore hpos hcut
    exact .of_cleared hnil (hgets.mono hragged)

/-- A struct whose second part has no rows. -/
def Sample.raggedReply : QueryReply :=
  ⟨[.scalars .int64 "id" [1, 2, 3],
    .struct "author" [.scalars .int64 "born" [1797, 1775, 1816], .scalars .int64 "died" []]], [], 0⟩

/-- The batch is an error, but the key has moved past its two rows. -/
example : let it := { ofPlan .standard VectorClient.Sample.query with lastKey := some (.int 0) }
    (it.receive Sample.raggedReply).1.isOk = false ∧
      (it.receive Sample.raggedReply).2.lastKey = some (.int 2) := by
  decide +kernel

section Calls

variable {σ : Type} {service : Service σ} {writes : WriteLog} {s s' : σ}

/-- The call asks the service for rows, because the cache has not enough of them, and this is
the reply. -/
structure Fetched (service : Service σ) (writes : WriteLog) (it : RowCursor) (s : σ)
    (reply : QueryReply) (s' : σ) : Prop where
  short : it.cache.rowCount < it.plan.batchSize
  answer : it.client.sendQuery service (it.request writes it.plan.batchSize true) s =
    (.ok reply, s')

theorem gets_nextRows (hwhole : Whole it.plan.batchSize it.cache) (hpos : 0 < it.plan.batchSize)
    (h : it.nextRows service writes s = (outcome, it', s')) :
    Gets it (∃ reply, it.Fetched service writes s reply s' ∧ ¬ reply.Regular) outcome it' := by
  rcases nextRows_cases h with ⟨htake, _⟩ | ⟨hshort, _, hanswer, hends⟩
  · exact (gets_takeCached hwhole htake).mono False.elim
  have hnil := hwhole.columns_eq_nil hshort
  rcases hends with ⟨e, _, rfl, rfl⟩ | ⟨reply, rfl, hreceive⟩
  · exact .unmoved (.inl hnil)
  · exact (gets_receive hnil hpos hreceive).mono fun hragged => ⟨reply, ⟨hshort, hanswer⟩, hragged⟩

/-- What no error changes: all that a caller can see, and the rows in the cache. -/
structure Stays (it it' : RowCursor) : Prop where
  client : it'.client = it.client
  plan : it'.plan = it.plan
  returned : it'.returned = it.returned
  sessionTimestamp : it'.sessionTimestamp = it.sessionTimestamp
  phase : it'.phase = it.phase
  rows : it'.cache.columns = it.cache.columns

theorem Stays.unnamed_eq (h : Stays it it') (hkey : it'.lastKey = it.lastKey) :
    it'.unnamed = it.unnamed := by
  obtain ⟨hclient, hplan, hreturned, hts, hphase, hrows⟩ := h
  simp only [unnamed, ResultSet.unnamed, hclient, hplan, hreturned, hts, hphase, hrows, hkey]

theorem Gets.stays {fault : Prop} (h : Gets it fault outcome it')
    (hrows : it'.cache.columns = it.cache.columns) : Stays it it' := by
  rw [h.same]
  exact ⟨rfl, rfl, rfl, rfl, rfl, hrows⟩

/-- A batch that can be cut is delivered. -/
theorem cut_of_deliver_error {batch : ResultSet} {e : ClientError}
    (howed : Iteration.owed it.plan.query.limit it.returned ≠ some 0)
    (h : it.deliver batch = (.error e, it')) : ¬ batch.CutsShort := by
  intro hcut
  rw [deliver] at h
  split at h
  · rename_i herror
    split at herror
    · rename_i hless
      obtain ⟨output, houtput⟩ :=
        hcut _ (Iteration.capped_pos howed (Nat.zero_lt_of_lt hless)) hless
      rw [houtput] at herror
      cases herror
    · cases herror
  · cases h

/-- Between two calls the rows at hand are whole batches. -/
structure Rested (it : RowCursor) : Prop where
  pos : 0 < it.plan.batchSize
  whole : Whole it.plan.batchSize it.cache

theorem rested_of_nextBatch (hit : Rested it)
    (h : it.nextBatch service writes s = (outcome, it', s')) : Rested it' := by
  have hplan := nextBatch_plan h
  rcases nextBatch_cases h with ⟨_, rfl, _⟩ | ⟨_, _, hnext⟩ | ⟨_, batch, it₁, hnext, hdeliver⟩
  · exact ⟨hit.pos, hit.whole⟩
  · exact ⟨hplan ▸ hit.pos, hplan ▸ (gets_nextRows hit.whole hit.pos hnext).whole⟩
  · have hwhole := (gets_nextRows hit.whole hit.pos hnext).whole
    cases outcome with
    | error e =>
      cases deliver_error hdeliver
      exact ⟨hplan ▸ hit.pos, hplan ▸ hwhole⟩
    | ok output =>
      obtain ⟨_, rfl⟩ := deliver_ok hdeliver
      exact ⟨hplan ▸ hit.pos, hplan ▸ hwhole⟩

theorem stays_of_nextBatch {e : ClientError} (hit : Rested it)
    (h : it.nextBatch service writes s = (.error e, it', s')) :
    Stays it it' ∧ (it'.lastKey = it.lastKey ∨
      ∃ reply, it.Fetched service writes s reply s' ∧ ¬ reply.Regular) := by
  rcases nextBatch_cases h with ⟨he, _⟩ | ⟨_, he, hnext⟩ | ⟨howed, batch, it₁, hnext, hdeliver⟩
  · cases he
  · have hgets := gets_nextRows hit.whole hit.pos hnext
    obtain ⟨hrows, hkey⟩ := hgets.error _ rfl
    exact ⟨hgets.stays hrows, hkey⟩
  · have hgets := gets_nextRows hit.whole hit.pos hnext
    have hreturned := (gathers_nextRows hnext).returned
    have hplan := (gathers_nextRows hnext).plan
    rw [← hreturned, ← hplan] at howed
    cases deliver_error hdeliver
    rcases hgets.cut batch rfl with hcut | ⟨hrows, hfault⟩
    · exact absurd hcut (cut_of_deliver_error howed hdeliver)
    · exact ⟨hgets.stays hrows, .inr hfault⟩

theorem keeps_rested (service : Service σ) : (batches service).Keeps Rested where
  nextBatch := rested_of_nextBatch
  stop hit := ⟨hit.pos, hit.whole⟩

theorem rested_of_start {client : Client} {plan : QueryIteration}
    (h : start service writes client plan s = (.ok it, s')) : Rested it := by
  have hpos := QueryIteration.batchSize_pos (validate_of_start h)
  obtain ⟨_, _, _, rfl⟩ := start_eq h
  exact ⟨hpos, .inl rfl⟩

end Calls

namespace Sample

/-- The first query succeeds, the first batch fails, and the service recovers. -/
def interrupted : Script :=
  .ofReplies [.query VectorClient.Sample.oneRow, .fail (.transport .unimplemented "maintenance"),
    .query VectorClient.Sample.oneRow]

end Sample

/-- A call that fails takes no rows. Unless the reply to it has a ragged column, the next request
is the same again, and the iteration goes on as if the call had not been made. -/
theorem resumes_of_start {σ : Type} (service : Service σ) (writes : WriteLog) (client : Client)
    (plan : QueryIteration) (s : σ) (it : RowCursor) (s' : σ)
    (hstart : start service writes client plan s = (.ok it, s')) (calls : List (Call × WriteLog))
    (outcomes : List (Outcome ResultSet)) (it₁ : RowCursor) (s₁ : σ)
    (hrun : (batches service).run calls it s' = (outcomes, it₁, s₁)) (log : WriteLog)
    (e : ClientError) (it₂ : RowCursor) (s₂ : σ)
    (hfailed : it₁.nextBatch service log s₁ = (.error e, it₂, s₂)) :
    Stays it₁ it₂ ∧
      ((∃ reply, it₁.Fetched service log s₁ reply s₂ ∧ ¬ reply.Regular) ∨
        it₂.lastKey = it₁.lastKey ∧
        (∀ writes limit iterating,
          it₂.request writes limit iterating = it₁.request writes limit iterating) ∧
        ∀ later s,
          Alike ((batches service).run later it₁ s) ((batches service).run later it₂ s)) := by
  have hrested : Rested it₁ := by
    have hlast := (keeps_rested service).run (rested_of_start hstart) s' calls
    rwa [hrun] at hlast
  obtain ⟨hstays, hkey⟩ := stays_of_nextBatch hrested hfailed
  refine ⟨hstays, ?_⟩
  rcases hkey with hkey | hragged
  · have hunnamed := hstays.unnamed_eq hkey
    refine .inr ⟨hkey, fun writes limit iterating => ?_, fun later s => run_alike hunnamed later s⟩
    rw [← request_unnamed, hunnamed, request_unnamed]
  · exact .inl hragged

theorem resumes_of_start_interrupted : ∃ it s e it' s',
    start (Script.service 0) .empty .standard VectorClient.Sample.query Sample.interrupted =
      (.ok it, s) ∧
    it.nextBatch (Script.service 0) .empty s = (.error e, it', s') ∧
    Stays it it' ∧ it'.request .empty 2 true = it.request .empty 2 true ∧
    ∀ later, Alike ((batches (Script.service 0)).run later it s')
      ((batches (Script.service 0)).run later it' s') := by
  obtain ⟨it, s, hstart, htest⟩ := exists_ok_of_test
    (start (Script.service 0) .empty .standard VectorClient.Sample.query Sample.interrupted)
    (fun it s => !(it.nextBatch (Script.service 0) .empty s).1.isOk &&
      !(it.client.sendQuery (Script.service 0) (it.request .empty it.plan.batchSize true) s).1.isOk)
    (by decide +kernel)
  rw [Bool.and_eq_true, Bool.not_eq_true', Bool.not_eq_true'] at htest
  obtain ⟨hbatch, hanswer⟩ := htest
  rcases hfailed : it.nextBatch (Script.service 0) .empty s with ⟨e | _, it', s'⟩
  · obtain ⟨hstays, ⟨reply, hfetched, _⟩ | ⟨_, hrequest, halike⟩⟩ :=
      resumes_of_start _ _ _ _ _ _ _ hstart [] _ _ _ rfl .empty e it' s' hfailed
    · rw [hfetched.answer] at hanswer
      cases hanswer
    · refine ⟨it, s, e, it', s', hstart, hfailed, hstays, hrequest _ _ _, ?_⟩
      exact fun later => halike later s'
  · rw [hfailed] at hbatch
    cases hbatch

end RowCursor

end VectorClient
