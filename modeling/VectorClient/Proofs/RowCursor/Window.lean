import VectorClient.Proofs.Client
import VectorClient.Proofs.Iteration.Drain
import VectorClient.Proofs.ResultSet.Merge
import VectorClient.Proofs.RowCursor.Accounts
import VectorClient.Proofs.RowCursor.Table

/-!
# The window of a query

An iteration of a query over a table delivers the rows behind the offset, up to the
limit, once each and in their order, however many rows every single reply holds.

Two positions in the table carry the proof. The cursor stands at `seen`: its last key is
that of the row in front of it, and the next request selects what lies behind. What was
delivered ends at `done`. The rows between the two are in the cache, and they are whole
batches, so that the cache is empty whenever a request is sent. `Positioned` says this,
and every way to get a batch moves both positions on.
-/

namespace VectorClient

namespace ResultSet

theorem joined_of_columns_eq_nil {target : ResultSet} (h : target.columns = [])
    (source : ResultSet) :
    target.joined source = .ok ⟨source.columns, target.outputNames.union source.outputNames⟩ := by
  rw [joined, append, appendColumns, h]
  rfl

end ResultSet

theorem Sends.congr {keyName : String} {r : QueryRequest} {selected sent : List Record}
    {page page' : ResultSet} (h : Sends keyName r selected sent page)
    (hcolumns : page'.columns = page.columns) : Sends keyName r selected sent page' := by
  obtain ⟨columns, names⟩ := page
  obtain ⟨columns', names'⟩ := page'
  cases hcolumns
  exact ⟨h.first, h.sent_ne_nil, h.even, h.keys, h.rows⟩

theorem QueryReply.results_ok {reply : QueryReply} {n : Nat}
    (h : ResultSet.Even n ⟨reply.columns, .empty⟩) (requested : List String) :
    ∃ names, reply.results requested = .ok ⟨reply.columns, names⟩ := by
  have hragged : Column.ragged? (ResultSet.rowCountOf reply.columns) reply.columns = none := by
    refine Column.ragged?_eq_none.mpr ?_
    intro c hc
    have hrows := (h c hc).rowCount
    have hfirst : ResultSet.rowCountOf reply.columns = n := by
      cases hcolumns : reply.columns with
      | nil =>
          rw [hcolumns] at hc
          cases hc
      | cons first rest =>
          exact (h first (by rw [hcolumns]; exact List.mem_cons_self ..)).rowCount
    rw [hrows, hfirst]
  exact ⟨_, by rw [results, ResultSet.ofColumns, hragged]⟩

namespace RowCursor

theorem get?_iterator (it : RowCursor) (writes : WriteLog) (limit : Nat) (iterating : Bool) :
    (it.request writes limit iterating).parameters.get? Parameter.iterator =
      some (Parameter.flag iterating) := by
  refine Dict.get?_ofList_of_mem ?_ (List.mem_cons_self ..)
  rw [parameterList]
  split <;> split <;> simp [Parameter.iterator, Parameter.reduceStopForBest,
    Parameter.collectionId, Parameter.limit, Parameter.ignoreGrowing]

theorem get?_limit (it : RowCursor) (writes : WriteLog) (limit : Nat) (iterating : Bool) :
    (it.request writes limit iterating).parameters.get? Parameter.limit =
      some (toString limit) := by
  refine Dict.get?_ofList_of_mem ?_ (by simp [parameterList])
  rw [parameterList]
  split <;> split <;> simp [Parameter.iterator, Parameter.reduceStopForBest,
    Parameter.collectionId, Parameter.limit, Parameter.ignoreGrowing]

variable {plan : QueryIteration} (T : Table plan.primaryKey.name)

/-- The cursor has delivered the rows up to `done` and stands at `seen`. -/
structure Positioned (done seen : Nat) (it : RowCursor) : Prop where
  plan_eq : it.plan = plan
  done_le : done ≤ seen
  seen_le : seen ≤ T.rows.length
  lastKey : it.lastKey = T.keyBefore seen
  cached : it.cache.records = (T.rows.take seen).drop done
  even : it.cache.Even (seen - done)
  whole : plan.batchSize ∣ seen - done
  drained : done = seen → it.cache.columns = []

/-- A batch with the next `count` rows, after which the cursor has moved on. -/
structure Took (done count : Nat) (batch : ResultSet) (it : RowCursor) : Prop where
  even : batch.Even count
  records : batch.records = (T.rows.drop done).take count
  within : count ≤ (T.rows.drop done).length
  moved : ∃ seen, Positioned T (done + count) seen it

variable {T} {it it' : RowCursor} {done seen count : Nat} {sent : List Record} {page : ResultSet}

theorem Positioned.rowCount_eq (h : Positioned T done seen it) :
    it.cache.rowCount = seen - done := by
  have hseen := h.seen_le
  rw [← ResultSet.length_records, h.cached, List.length_drop, List.length_take]
  omega

/-- The filter of the next request selects the rows behind the cursor. -/
theorem selected_filter (hplan : it.plan = plan) (hkey : it.lastKey = T.keyBefore seen)
    (hseen : seen ≤ T.rows.length) :
    T.Selected plan.query.options.filter it.filter (T.rows.drop seen) := by
  rw [filter, hkey, hplan]
  cases seen with
  | zero =>
      rw [Table.keyBefore, List.drop_zero]
      exact .all
  | succ i =>
      have hi : i < T.keys.length := by
        rw [T.length_keys]
        exact hseen
      have hget := List.getElem?_eq_getElem hi
      rw [Table.keyBefore, hget, ← T.after_eq_drop hget]
      exact .after _ (List.getElem_mem hi)

/-- The key of a row of a reply is that of its place in the table. -/
theorem exists_keyAt {r : QueryRequest} (hplan : it.plan = plan)
    (hsends : Sends plan.primaryKey.name r (T.rows.drop seen) sent page) {i : Nat}
    (hi : i < sent.length) :
    ∃ key, it.keyAt page i = .ok key ∧ T.keyBefore (seen + i + 1) = some key := by
  obtain ⟨behind, hbehind⟩ := hsends.first
  have hrow : T.rows[seen + i]? = some sent[i] := by
    rw [← List.getElem?_drop, ← hbehind, List.getElem?_append_left hi, List.getElem?_eq_getElem hi]
  have hkey := T.key?_getElem hrow
  have hlt : seen + i < T.keys.length := by
    rw [T.length_keys]
    exact (List.getElem?_eq_some_iff.mp hrow).1
  rw [List.getElem?_eq_getElem hlt] at hkey
  have hread := hsends.keys i sent[i] (List.getElem?_eq_getElem hi)
  rw [hkey] at hread
  refine ⟨T.keys[seen + i], ?_, List.getElem?_eq_getElem hlt⟩
  rw [keyAt, hplan, hread]

/-- Where nothing stays in the cache, the cursor stands behind the batch. -/
theorem took_of_drained {batch : ResultSet} (heven : batch.Even count)
    (hrecords : batch.records = (T.rows.drop done).take count)
    (hwithin : count ≤ (T.rows.drop done).length) (hdone : done ≤ T.rows.length)
    (hplan : it.plan = plan) (hkey : it.lastKey = T.keyBefore (done + count))
    (hcache : it.cache.columns = []) : Took T done count batch it := by
  refine ⟨heven, hrecords, hwithin, done + count, ?_⟩
  rw [List.length_drop] at hwithin
  refine ⟨hplan, Nat.le_refl _, by omega, hkey, ?_, ?_, ?_, fun _ => hcache⟩
  · have hzero : it.cache.rowCount = 0 := by
      rw [ResultSet.rowCount, hcache, ResultSet.rowCountOf]
    rw [ResultSet.records_of_rowCount_eq_zero hzero, List.drop_eq_nil_of_le]
    exact List.length_take_le ..
  · intro c hc
    rw [hcache] at hc
    cases hc
  · rw [Nat.sub_self]
    exact Nat.dvd_zero _

/-- The first batch of the cache is the next one. -/
theorem took_takeCached (h : Positioned T done seen it) (hpos : 0 < plan.batchSize)
    (hrows : plan.batchSize ≤ it.cache.rowCount) :
    ∃ batch it', it.takeCached = (.ok batch, it') ∧ Took T done plan.batchSize batch it' := by
  have hplan := h.plan_eq
  have hcount := h.rowCount_eq
  have hseen := h.seen_le
  have houtput := ResultSet.slice_eq_between h.even hpos (by omega : 0 < seen - done)
  have hrecords : (it.cache.between 0 plan.batchSize).records =
      (T.rows.drop done).take plan.batchSize := by
    rw [ResultSet.records_between, h.cached, List.drop_zero, List.drop_take, List.take_take,
      Nat.min_eq_left (by omega)]
  have heven : (it.cache.between 0 plan.batchSize).Even plan.batchSize := by
    have hcut := h.even.between 0 plan.batchSize
    rwa [Nat.sub_zero, Nat.min_eq_left (by omega)] at hcut
  have hwithin : plan.batchSize ≤ (T.rows.drop done).length := by
    rw [List.length_drop]
    omega
  simp only [takeCached, hplan, houtput, hcount]
  split
  · rename_i hmore
    have hrest := ResultSet.slice_eq_between h.even hmore hmore
    simp only [hrest]
    refine ⟨_, _, rfl, heven, hrecords, hwithin, seen, ?_⟩
    refine ⟨rfl, by omega, hseen, h.lastKey, ?_, ?_, ?_, by omega⟩
    · have hall : it.cache.records.length ≤ seen - done := by
        rw [ResultSet.length_records]
        exact Nat.le_of_eq hcount
      rw [ResultSet.records_between, List.take_of_length_le hall, h.cached, List.drop_drop]
    · have hcut := h.even.between plan.batchSize (seen - done)
      rwa [Nat.min_self, ← Nat.sub_add_eq] at hcut
    · rw [Nat.sub_add_eq]
      exact (Nat.dvd_sub_iff_left (by omega) (Nat.dvd_refl _)).mpr h.whole
  · have hlast : seen = done + plan.batchSize := by omega
    refine ⟨_, _, rfl, took_of_drained heven hrecords hwithin (by omega) rfl ?_ rfl⟩
    rw [← hlast]
    exact h.lastKey

/-- Rows beyond the first batch are cached as far as they fill batches; the cursor stands
behind the last of these, and the rows left over will be asked for again. -/
theorem took_cutBatch {r : QueryRequest} (hplan : it.plan = plan)
    (hdone : done ≤ T.rows.length) (hpos : 0 < plan.batchSize)
    (hsends : Sends plan.primaryKey.name r (T.rows.drop done) sent page)
    (hrecords : page.records = sent) (hmore : plan.batchSize < sent.length) :
    ∃ batch it', it.cutBatch page = (.ok batch, it') ∧ Took T done plan.batchSize batch it' := by
  have heven := hsends.even
  have hcount : page.rowCount = sent.length := by
    rw [← ResultSet.length_records, hrecords]
  have hlength : sent.length ≤ (T.rows.drop done).length := hsends.first.length_le
  have hsent : sent = (T.rows.drop done).take sent.length := List.prefix_iff_eq_take.mp hsends.first
  obtain ⟨kept, hkept⟩ : ∃ kept, kept =
    (sent.length - plan.batchSize) / plan.batchSize * plan.batchSize := ⟨_, rfl⟩
  have hkept_le : kept ≤ sent.length - plan.batchSize := by
    rw [hkept]
    exact Nat.div_mul_le_self ..
  have hdivides : plan.batchSize ∣ kept := by
    rw [hkept]
    exact Nat.dvd_mul_left ..
  obtain ⟨key, hkey, hbefore⟩ := exists_keyAt hplan hsends
    (by omega : plan.batchSize + kept - 1 < sent.length)
  rw [show done + (plan.batchSize + kept - 1) + 1 = done + plan.batchSize + kept by omega]
    at hbefore
  have houtput := ResultSet.slice_eq_between heven hpos (by omega : 0 < sent.length)
  have hbatch : (page.between 0 plan.batchSize).records =
      (T.rows.drop done).take plan.batchSize := by
    rw [ResultSet.records_between, hrecords, List.drop_zero, hsent, List.take_take,
      Nat.min_eq_left (by omega)]
  have hbatchEven : (page.between 0 plan.batchSize).Even plan.batchSize := by
    have hcut := heven.between 0 plan.batchSize
    rwa [Nat.sub_zero, Nat.min_eq_left (by omega)] at hcut
  have hwithin : plan.batchSize ≤ (T.rows.drop done).length := by omega
  simp only [cutBatch, hplan, hcount, ← hkept, hkey, houtput]
  split
  · rename_i hsome
    have hrest := ResultSet.slice_eq_between heven
      (by omega : plan.batchSize < plan.batchSize + kept) hmore
    simp only [hrest]
    rw [List.length_drop] at hlength
    refine ⟨_, _, rfl, hbatchEven, hbatch, hwithin, done + plan.batchSize + kept, ?_⟩
    refine ⟨rfl, by omega, by omega, hbefore.symm, ?_, ?_, ?_, by omega⟩
    · rw [ResultSet.records_between, hrecords, hsent, List.take_take,
        Nat.min_eq_left (by omega), List.take_drop, List.drop_drop, Nat.add_assoc]
    · have hcut := heven.between plan.batchSize (plan.batchSize + kept)
      rw [Nat.min_eq_left (by omega)] at hcut
      rwa [Nat.add_sub_cancel_left] at hcut ⊢
    · rwa [Nat.add_sub_cancel_left]
  · have hnone : kept = 0 := by omega
    rw [hnone, Nat.add_zero] at hbefore
    exact ⟨_, _, rfl, took_of_drained hbatchEven hbatch hwithin hdone rfl hbefore.symm rfl⟩

/-- Less than a batch of whole batches is nothing. -/
theorem Positioned.done_eq (h : Positioned T done seen it)
    (hempty : it.cache.rowCount < plan.batchSize) : done = seen := by
  have hle := h.done_le
  rw [h.rowCount_eq] at hempty
  have hzero := Nat.eq_zero_of_dvd_of_lt h.whole hempty
  omega

/-- A reply gives the first of its rows, no more than a batch. -/
theorem took_receive {r : QueryRequest} {reply : QueryReply} (h : Positioned T done done it)
    (hpos : 0 < plan.batchSize)
    (hiterating : r.parameters.get? Parameter.iterator = some (Parameter.flag true))
    (hsends : Sends plan.primaryKey.name r (T.rows.drop done) sent ⟨reply.columns, .empty⟩) :
    ∃ batch it', it.receive reply = (.ok batch, it') ∧
      Took T done (min plan.batchSize sent.length) batch it' := by
  obtain ⟨names, hresults⟩ := QueryReply.results_ok hsends.even it.plan.query.options.outputFields
  have hjoined := ResultSet.joined_of_columns_eq_nil (h.drained rfl) ⟨reply.columns, names⟩
  generalize hcombined : (⟨reply.columns, it.cache.outputNames.union names⟩ : ResultSet) =
    combined at hjoined
  replace hsends : Sends plan.primaryKey.name r (T.rows.drop done) sent combined :=
    hsends.congr (by rw [← hcombined])
  have hrecords := hsends.rows hiterating
  have hcount : combined.rowCount = sent.length := by
    rw [← ResultSet.length_records, hrecords]
  have hlength := hsends.first.length_le
  have hsent := List.prefix_iff_eq_take.mp hsends.first
  have hplan : ({ it with cache := .empty } : RowCursor).plan = plan := h.plan_eq
  rw [receive, hresults]
  simp only [hjoined, hcount]
  split
  · rename_i hzero
    refine ⟨_, _, rfl, ?_⟩
    rw [hzero, Nat.min_zero]
    refine took_of_drained ?_ ?_ (Nat.zero_le _) h.seen_le hplan h.lastKey rfl
    · rw [← hzero]
      exact hsends.even
    · rw [hrecords, List.take_zero]
      exact List.length_eq_zero_iff.mp hzero
  split
  · rename_i hsome hfits
    rw [h.plan_eq] at hfits
    obtain ⟨key, hkey, hbefore⟩ := exists_keyAt hplan hsends
      (by omega : sent.length - 1 < sent.length)
    rw [show done + (sent.length - 1) + 1 = done + sent.length by omega] at hbefore
    rw [hkey, Nat.min_eq_right hfits]
    exact ⟨_, _, rfl, took_of_drained hsends.even (hrecords.trans hsent) hlength h.seen_le hplan
      hbefore.symm rfl⟩
  · rename_i hsome hlarge
    rw [h.plan_eq] at hlarge
    rw [Nat.min_eq_left (by omega)]
    exact took_cutBatch hplan h.seen_le hpos hsends hrecords (by omega)

section Calls

variable {σ : Type} {service : Service σ}

/-- A batch comes from the cache or from the service; it is short only at the end of the table
or after a short reply. -/
theorem took_nextRows (hserves : T.Serves service plan.query.options.filter)
    (h : Positioned T done seen it) (hpos : 0 < plan.batchSize) (writes : WriteLog) (s : σ) :
    ∃ batch it' s' count, it.nextRows service writes s = (.ok batch, it', s') ∧
      Took T done count batch it' ∧ (T.rows.drop done ≠ [] → 0 < count) ∧
      (T.ServesAmply service plan.query.options.filter → T.rows.drop (done + count) ≠ [] →
        count = plan.batchSize) := by
  rw [nextRows]
  split
  · rename_i hrows
    rw [h.plan_eq] at hrows
    obtain ⟨batch, it', htake, htook⟩ := took_takeCached h hpos hrows
    exact ⟨batch, it', s, plan.batchSize, by rw [htake], htook, fun _ => hpos, fun _ _ => rfl⟩
  · rename_i hrows
    have hdone := h.done_eq (by rw [← h.plan_eq]; omega)
    subst hdone
    have hselected := selected_filter h.plan_eq h.lastKey h.seen_le
    obtain ⟨reply, s', sent, hattempt, hsends⟩ := hserves
      (it.request writes it.plan.batchSize true) it.client.deadline s _ hselected
    obtain ⟨batch, it', hreceive, htook⟩ := took_receive h hpos (get?_iterator ..) hsends
    refine ⟨batch, it', s', _, ?_, htook, ?_, ?_⟩
    · rw [fetch, Client.sendQuery_of_ok hattempt]
      simp only [hreceive]
    · intro hsome
      have hsent := List.length_pos_iff.mpr (hsends.sent_ne_nil hsome)
      omega
    · intro hamply hmore
      have hlimit := get?_limit it writes it.plan.batchSize true
      have hleast := hamply _ _ _ _ _ _ _ _ hselected hattempt hsends hlimit
      rw [h.plan_eq, List.length_drop] at hleast
      rw [Ne, List.drop_eq_nil_iff] at hmore
      omega

/-- Of a batch the rows still owed are delivered. -/
theorem deliver_took {batch : ResultSet} {count : Nat} (htook : Took T done count batch it)
    (hplan : it.plan = plan)
    (howed : Iteration.owed plan.query.limit it.returned ≠ some 0) :
    ∃ output given, given = Iteration.capped (Iteration.owed plan.query.limit it.returned) count ∧
      it.deliver batch = (.ok output, { it with
        returned := it.returned + given
        phase := .afterBatch given }) ∧
      output.records = (T.rows.drop done).take given ∧ output.rowCount = given := by
  have hcount : batch.rowCount = count := by
    have hwithin := htook.within
    rw [← ResultSet.length_records, htook.records, List.length_take]
    omega
  generalize hgiven : Iteration.capped (Iteration.owed plan.query.limit it.returned) count = given
  have hle : given ≤ count := by
    rw [← hgiven]
    exact Iteration.capped_le ..
  rw [deliver, hplan, hcount, hgiven]
  by_cases hcut : given < count
  · have hsome : 0 < given := by
      rw [← hgiven]
      exact Iteration.capped_pos howed (by omega)
    have houtput := ResultSet.slice_eq_between htook.even hsome (by omega : 0 < count)
    have hrows : (batch.between 0 given).rowCount = given := by
      rw [ResultSet.rowCount_between, hcount]
      omega
    refine ⟨batch.between 0 given, given, rfl, ?_, ?_, hrows⟩
    · simp only [if_pos hcut, houtput, hrows]
    · rw [ResultSet.records_between, htook.records, List.drop_zero, List.take_take,
        Nat.min_eq_left hle]
  · have hall : given = count := by omega
    refine ⟨batch, given, rfl, ?_, ?_, hcount.trans hall.symm⟩
    · rw [if_neg hcut]
      simp only [hcount, hall]
    · rw [hall]
      exact htook.records

/-- The rows that are still to come: those behind the delivered ones, up to the limit. -/
def Pending (T : Table plan.primaryKey.name) (rows : List Record) (it : RowCursor) (_ : σ) : Prop :=
  it.plan = plan ∧
    ((rows = [] ∧ (it.phase = .exhausted ∨
        Iteration.owed plan.query.limit it.returned = some 0)) ∨
      (it.phase ≠ .exhausted ∧ Iteration.owed plan.query.limit it.returned ≠ some 0 ∧
        ∃ done seen, Positioned T done seen it ∧ rows =
          Iteration.firstRows (Iteration.owed plan.query.limit it.returned) (T.rows.drop done)))

theorem drains (T : Table plan.primaryKey.name) (hpos : 0 < plan.batchSize)
    (hserves : T.Serves service plan.query.options.filter) :
    (batches service).Drains ResultSet.records plan.batchSize
      (T.ServesAmply service plan.query.options.filter) (Pending T) := by
  intro rows it s hpending writes
  obtain ⟨hplan, ⟨hnil, hover⟩ | ⟨hphase, howed, done, seen, hposition, hrows⟩⟩ := hpending
  · refine ⟨it.cache.emptyLike, [], { it with phase := .exhausted }, s, ?_, rfl, hnil, ?_,
      fun _ => rfl, fun _ h => absurd rfl h⟩
    · change it.nextBatch service writes s = _
      rw [nextBatch, hplan, if_pos hover]
    · exact ⟨hplan, .inl ⟨rfl, .inl rfl⟩⟩
  · obtain ⟨batch, it₁, s', count, hnext, htook, hsome, hwhole⟩ :=
      took_nextRows hserves hposition hpos writes s
    have hreturned : it₁.returned = it.returned := (gathers_nextRows hnext).returned
    obtain ⟨seen', hmoved⟩ := htook.moved
    rw [← hreturned] at howed hrows
    obtain ⟨output, given, hgiven, hdeliver, hrecords, hcount⟩ :=
      deliver_took htook hmoved.plan_eq howed
    have hsplit := Iteration.firstRows_split (Iteration.owed plan.query.limit it₁.returned)
      (T.rows.drop done) count
    rw [← hrows, ← hgiven, ← Iteration.owed_add, ← hrecords, List.drop_drop] at hsplit
    have hnone : given = 0 → T.rows.drop (done + count) = [] := by
      intro hzero
      have hno : count = 0 := by
        by_contra hne
        have hgiven_pos := Iteration.capped_pos howed (Nat.pos_of_ne_zero hne)
        omega
      by_contra hmore
      rw [hno, Nat.add_zero] at hmore
      have hpos_count := hsome hmore
      omega
    refine ⟨output, _, { it₁ with returned := it₁.returned + given, phase := .afterBatch given },
      s', ?_, ?_, hsplit, ⟨hmoved.plan_eq, ?_⟩, ?_, ?_⟩
    · change it.nextBatch service writes s = _
      rw [nextBatch_eq, hplan, if_neg (by rintro (h | h); exacts [hphase h, howed (hreturned ▸ h)])]
      simp only [hnext, hdeliver]
    · change output.records.length = output.rowCount
      rw [ResultSet.length_records]
    · by_cases hzero : given = 0
      · rw [hnone hzero, Iteration.firstRows_nil, hzero]
        exact .inl ⟨rfl, .inl rfl⟩
      · by_cases hmet : Iteration.owed plan.query.limit (it₁.returned + given) = some 0
        · refine .inl ⟨?_, .inr hmet⟩
          rw [hmet, Iteration.firstRows_zero]
        · refine .inr ⟨?_, hmet, done + count, seen', ?_, rfl⟩
          · change Phase.afterBatch given ≠ .exhausted
            rw [Phase.afterBatch, if_neg hzero]
            decide
          · exact ⟨hmoved.plan_eq, hmoved.done_le, hmoved.seen_le, hmoved.lastKey, hmoved.cached,
              hmoved.even, hmoved.whole, hmoved.drained⟩
    · intro hzero
      rw [hnone (hcount.symm.trans hzero), Iteration.firstRows_nil]
    · intro hamply hlater
      have hall : given = count := by
        rcases Iteration.capped_cases (Iteration.owed plan.query.limit it₁.returned) count
          with heq | hmet
        · exact hgiven.trans heq
        · rw [← hgiven, ← Iteration.owed_add] at hmet
          rw [hmet, Iteration.firstRows_zero] at hlater
          exact absurd rfl hlater
      refine hcount.trans (hall.trans (hwhole hamply ?_))
      intro hnil
      rw [hnil, Iteration.firstRows_nil] at hlater
      exact hlater rfl

/-- A reply has a row for each that was sent, also where it carries nothing but keys. -/
theorem rowCount_of_sends {r : QueryRequest}
    (hsends : Sends plan.primaryKey.name r (T.rows.drop seen) sent page) :
    page.rowCount = sent.length := by
  have heven := hsends.even
  rw [ResultSet.rowCount]
  cases hcolumns : page.columns with
  | cons first rest => exact (heven first (by rw [hcolumns]; exact List.mem_cons_self ..)).rowCount
  | nil =>
      -- without columns there is no key, so no row was sent
      cases hsent : sent with
      | nil => rfl
      | cons row later =>
          have hplan : (ofPlan .standard plan).plan = plan := rfl
          have hsome : 0 < sent.length := by
            rw [hsent]
            exact Nat.succ_pos _
          obtain ⟨key, hkey, _⟩ := exists_keyAt hplan hsends hsome
          rw [keyAt, ResultSet.primaryKeyAt?, ResultSet.column?, hcolumns] at hkey
          cases hkey

/-- Skipping rows moves the cursor by their number, or to the end of the table. -/
theorem seek_ok (hserves : T.Serves service plan.query.options.filter) (writes : WriteLog)
    (left : Nat) (it : RowCursor) (hplan : it.plan = plan)
    (hkey : it.lastKey = T.keyBefore seen) (hseen : seen ≤ T.rows.length) (s : σ) :
    ∃ s', seek service writes left it s =
      (.ok { it with lastKey := T.keyBefore (min (seen + left) T.rows.length) }, s') := by
  induction left using Nat.strongRecOn generalizing it seen s with
  | ind left ih =>
      have hstay : min seen T.rows.length = seen := Nat.min_eq_left hseen
      rw [seek]
      split
      · rename_i hzero
        refine ⟨s, ?_⟩
        rw [hzero, Nat.add_zero, hstay, ← hkey]
      rename_i hleft
      have hselected := selected_filter hplan hkey hseen
      obtain ⟨reply, s', sent, hattempt, hsends⟩ := hserves
        (it.seekRequest writes (min left maxBatchSize)) it.client.deadline s _ hselected
      obtain ⟨names, hresults⟩ := QueryReply.results_ok hsends.even []
      replace hsends : Sends plan.primaryKey.name _ (T.rows.drop seen) sent
        ⟨reply.columns, names⟩ := hsends.congr rfl
      have hlength := hsends.first.length_le
      rw [List.length_drop] at hlength
      rw [Client.sendQuery_of_ok hattempt]
      simp only [hresults, rowCount_of_sends hsends]
      have hmax : 0 < maxBatchSize := by decide
      split
      · rename_i hnone
        have hsent : sent = [] := List.length_eq_zero_iff.mp (by omega)
        have hend : T.rows.drop seen = [] := by
          by_contra hmore
          exact hsends.sent_ne_nil hmore hsent
        rw [List.drop_eq_nil_iff] at hend
        refine ⟨s', ?_⟩
        rw [show min (seen + left) T.rows.length = seen by omega, ← hkey]
      · rename_i hsome
        generalize hcount : min sent.length (min left maxBatchSize) = count at hsome
        obtain ⟨key, hread, hbefore⟩ := exists_keyAt hplan hsends
          (by omega : count - 1 < sent.length)
        rw [show seen + (count - 1) + 1 = seen + count by omega] at hbefore
        rw [hread]
        obtain ⟨s'', hseek⟩ := ih (left - count) (by omega) { it with lastKey := some key } hplan
          hbefore.symm (by omega) s'
        refine ⟨s'', ?_⟩
        rw [show seen + count + (left - count) = seen + left by omega] at hseek
        exact hseek

end Calls

namespace Sample

def books : ResultSet := ⟨[.scalars .int64 "id" [1, 2, 3]], .empty⟩

def booksTable : Table "id" where
  rows := books.records
  keys := [.int 1, .int 2, .int 3]
  keys_eq := rfl
  ascending := by decide

def booksPlan : QueryIteration :=
  { QueryIteration.ofCollection "books" (.primaryKey "id" .int64) with
    query := { QueryArguments.ofCollection "books" with limit := some 2, offset := 1 }
    batchSize := 1 }

/-- The number of rows in front of those that a filter selects. -/
def booksSkipped (filter : String) : Nat :=
  if filter = "" then 0 else if filter = "id > 1" then 1 else if filter = "id > 2" then 2 else 3

def bookServer : Service Unit where
  uptime _ := 0
  epoch _ := 0
  sleep _ s := s
  attempt
    | .query r, _, s => (.ok ⟨(books.between (booksSkipped r.filter) 3).columns, [], 0⟩, s)
    | .search _, _, s => (.error (.transport .unimplemented "search"), s)
    | .mutate _, _, s => (.error (.transport .unimplemented "mutate"), s)
    | .drop _, _, s => (.error (.transport .unimplemented "drop"), s)

theorem sends_books (r : QueryRequest) (n : Nat) :
    Sends "id" r (booksTable.rows.drop n) (booksTable.rows.drop n) (books.between n 3) := by
  have hrecords : (books.between n 3).records = booksTable.rows.drop n :=
    ResultSet.records_between n 3 books
  have heven : books.Even 3 := by
    intro c hc
    cases List.mem_singleton.mp hc
    rfl
  refine ⟨List.prefix_refl _, id, ?_, ?_, fun _ => hrecords⟩
  · rw [List.length_drop]
    exact heven.between n 3
  · intro i row hrow
    rw [← hrecords] at hrow
    exact (ResultSet.key?_of_records hrow).symm

theorem bookServer_serves : booksTable.Serves bookServer "" := by
  intro r deadline s selected hselected
  obtain ⟨n, hskipped, rfl⟩ : ∃ n, booksSkipped r.filter = n ∧
      selected = booksTable.rows.drop n := by
    generalize r.filter = filter at hselected
    cases hselected with
    | all => exact ⟨0, rfl, rfl⟩
    | after key hkey =>
        have hkeys : key = .int 1 ∨ key = .int 2 ∨ key = .int 3 := by
          simpa [booksTable] using hkey
        rcases hkeys with rfl | rfl | rfl
        · exact ⟨1, by decide +kernel, booksTable.after_eq_drop (i := 0) rfl⟩
        · exact ⟨2, by decide +kernel, booksTable.after_eq_drop (i := 1) rfl⟩
        · exact ⟨3, by decide +kernel, booksTable.after_eq_drop (i := 2) rfl⟩
  refine ⟨_, s, booksTable.rows.drop n, rfl, ?_⟩
  rw [hskipped]
  exact (sends_books r n).congr rfl

end Sample

/-- A drained query has delivered exactly the rows behind the offset, up to the limit. If the
replies always hold what was asked for, all its batches but the last one are full. -/
theorem drained_of_start {σ : Type} (service : Service σ) (writes : WriteLog) (client : Client)
    (plan : QueryIteration) (T : Table plan.primaryKey.name) (s : σ)
    (hplan : plan.validate = .ok ()) (hserves : T.Serves service plan.query.options.filter) :
    ∃ it s', start service writes client plan s = (.ok it, s') ∧ ∀ logs : List WriteLog,
      (Iteration.firstRows plan.query.limit (T.rows.drop plan.query.offset)).length < logs.length →
      ∃ full empty, (batches service).Drained ResultSet.records
          (Iteration.firstRows plan.query.limit (T.rows.drop plan.query.offset))
          ((batches service).run (logs.map fun writes => (.nextBatch, writes)) it s').1 full empty ∧
        (T.ServesAmply service plan.query.options.filter →
          (batches service).Whole plan.batchSize full) := by
  have hdrains := drains T (QueryIteration.batchSize_pos hplan) hserves
  obtain ⟨it, s', hstart, hpending⟩ : ∃ it s', start service writes client plan s = (.ok it, s') ∧
      Pending T (Iteration.firstRows plan.query.limit (T.rows.drop plan.query.offset)) it s' := by
    rw [start, hplan]
    dsimp only
    split
    · rename_i hnone
      refine ⟨_, _, rfl, rfl, .inl ⟨?_, .inl rfl⟩⟩
      rw [hnone, Iteration.firstRows_zero]
    · rename_i hsome
      obtain ⟨reply, s₁, sent, hattempt, _⟩ := hserves
        ((ofPlan client plan).request writes 1 true) client.deadline s _ .all
      have hsend : client.sendQuery service ((ofPlan client plan).request writes 1 true) s =
        (.ok reply, s₁) := Client.sendQuery_of_ok hattempt
      obtain ⟨s', hseek⟩ := seek_ok hserves writes plan.query.offset { ofPlan client plan with
        sessionTimestamp := Timestamp.orClock reply.sessionTimestamp (service.epoch s₁) }
        rfl rfl (Nat.zero_le _) s₁
      rw [Nat.zero_add] at hseek
      simp only [hsend, hseek]
      refine ⟨_, _, rfl, rfl, .inr ⟨Phase.noConfusion, ?_, min plan.query.offset T.rows.length,
        min plan.query.offset T.rows.length, ?_, ?_⟩⟩
      · change Iteration.owed plan.query.limit 0 ≠ some 0
        rw [Iteration.owed_zero]
        exact hsome
      · refine ⟨rfl, Nat.le_refl _, Nat.min_le_right .., rfl, ?_, ?_, by simp, fun _ => rfl⟩
        · rw [List.drop_eq_nil_of_le (List.length_take_le ..)]
          rfl
        · intro _ hmem
          exact absurd hmem List.not_mem_nil
      · change _ = Iteration.firstRows (Iteration.owed plan.query.limit 0) _
        rw [Iteration.owed_zero]
        congr 1
        exact List.drop_eq_drop_min
  refine ⟨it, s', hstart, fun logs hlogs => ?_⟩
  obtain ⟨outcomes, full, empty, _, _, hrun, _, hdrained, hwhole⟩ :=
    hdrains.drained hpending logs hlogs
  rw [hrun]
  exact ⟨full, empty, hdrained, hwhole⟩

theorem drained_of_start_books :
    Sample.booksPlan.validate = .ok () ∧ Sample.booksTable.Serves Sample.bookServer "" ∧
      ∃ it s, start Sample.bookServer .empty .standard Sample.booksPlan () = (.ok it, s) ∧
        ∀ logs : List WriteLog, 2 < logs.length → ∃ full empty,
          (batches Sample.bookServer).Drained ResultSet.records
            ((Sample.booksTable.rows.drop 1).take 2)
            ((batches Sample.bookServer).run (logs.map fun writes => (.nextBatch, writes)) it s).1
            full empty := by
  have hplan : Sample.booksPlan.validate = .ok () := by decide
  refine ⟨hplan, Sample.bookServer_serves, ?_⟩
  obtain ⟨it, s, hstart, hdrained⟩ := drained_of_start Sample.bookServer .empty .standard
    Sample.booksPlan Sample.booksTable () hplan Sample.bookServer_serves
  refine ⟨it, s, hstart, fun logs hlogs => ?_⟩
  obtain ⟨full, empty, hall, _⟩ := hdrained logs hlogs
  exact ⟨full, empty, hall⟩

end RowCursor

end VectorClient
