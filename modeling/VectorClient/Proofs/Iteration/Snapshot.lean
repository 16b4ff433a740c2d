import VectorClient.Proofs.Attempts
import VectorClient.Proofs.Iteration.Accounts

/-!
# Iterations read one snapshot

The first answer to a read of an iteration gives the timestamp at which all its later
requests read. Before that a request reads at the timestamp which the log of writes gives at
that moment; a call makes no more than one such request, because it fails without an answer.
What other clients write, drop or clear in between does not matter any more once there has
been an answer, and neither do errors: the timestamp is taken over before the reply is looked
at.

A token search begins anew after its first request, so there the answers count from then on.
-/

namespace VectorClient

/-- The timestamp of the first answer. -/
def snapshot? (attempts : List Attempt) : Option Nat := attempts.findSome? Attempt.timestamp?

/-- Every new attempt reads at the timestamp of the first answer before it, or at `derived` if
there was none. -/
def ReadsAt (derived : Nat) (earlier new : List Attempt) : Prop :=
  ∀ front a back, new = front ++ a :: back →
    a.guarantee? = some ((snapshot? (earlier ++ front)).getD derived)

/-- The timestamp that a client reads at by itself, as the log of writes is now. -/
def Client.derivedGuarantee (c : Client) (options : ReadOptions) (writes : WriteLog) : Nat :=
  writes.guarantee options.consistency
    ⟨if options.database = "" then c.database else options.database, options.collection⟩

/-- The wall clock stands behind the epoch, and its milliseconds fit into a timestamp. -/
def Clock.Fits {σ : Type} (clock : Clock σ) : Prop :=
  ∀ s, 1 ≤ clock.epoch s ∧ clock.epoch s < 2 ^ 46

namespace Timestamp

theorem ofClock_ne_zero {milliseconds : Nat} (hpos : 1 ≤ milliseconds)
    (hlt : milliseconds < 2 ^ 46) : ofClock milliseconds ≠ 0 := by
  have hsize : UInt64.size = 2 ^ 64 := rfl
  have hfits : milliseconds < UInt64.size := by omega
  rw [ofClock, if_pos hfits, compose, Nat.or_zero, logicalBits, Nat.shiftLeft_eq, hsize,
    Nat.mod_eq_of_lt (by omega)]
  omega

theorem orClock_ne_zero {milliseconds : Nat} (reported : Nat) (hpos : 1 ≤ milliseconds)
    (hlt : milliseconds < 2 ^ 46) : orClock reported milliseconds ≠ 0 := by
  rw [orClock]
  split
  · exact ofClock_ne_zero hpos hlt
  · assumption

end Timestamp

section Attempts

variable {earlier xs ys failures : List Attempt} {a : Attempt} {r : Request} {derived ts : Nat}

theorem snapshot?_append (xs ys : List Attempt) :
    snapshot? (xs ++ ys) = (snapshot? xs).or (snapshot? ys) := List.findSome?_append

theorem snapshot?_failures (h : ∀ a ∈ failures, a.request = r ∧ a.Failed) :
    snapshot? failures = none :=
  List.findSome?_eq_none_iff.mpr fun a ha => (h a ha).2.timestamp?_eq

theorem ReadsAt.nil (derived : Nat) (earlier : List Attempt) : ReadsAt derived earlier [] := by
  intro front a back h
  cases front <;> cases h

theorem ReadsAt.append (hx : ReadsAt derived earlier xs) (hy : ReadsAt derived (earlier ++ xs) ys) :
    ReadsAt derived earlier (xs ++ ys) := by
  intro front a back h
  rcases List.append_eq_append_iff.mp h with ⟨more, rfl, hback⟩ | ⟨rest, hfront, hback⟩
  · rw [← List.append_assoc]
    exact hy more a back hback
  · cases rest with
    | nil =>
        rw [List.append_nil] at hfront
        subst hfront
        have hread := hy [] a back (by simpa using hback.symm)
        rwa [List.append_nil] at hread
    | cons b rest =>
        cases hback
        exact hx front a rest hfront

/-- Attempts of one request that have failed read where the request says. -/
theorem ReadsAt.of_failed (h : ∀ a ∈ failures, a.request = r ∧ a.Failed)
    (hr : r.read?.map (·.guarantee) = some ((snapshot? earlier).getD derived)) :
    ReadsAt derived earlier failures := by
  rintro front a back rfl
  have hfront : snapshot? front = none :=
    snapshot?_failures fun b hb => h b (List.mem_append_left _ hb)
  have ha : a.request = r := (h a (List.mem_append_right _ (List.mem_cons_self ..))).1
  rw [snapshot?_append, hfront, Option.or_none, ← hr, ← ha]
  rfl

theorem ReadsAt.singleton (h : a.guarantee? = some ((snapshot? earlier).getD derived)) :
    ReadsAt derived earlier [a] := by
  intro front b back hsplit
  cases front with
  | nil =>
      cases hsplit
      rwa [List.append_nil]
  | cons _ front => cases front <;> cases hsplit

/-- The list goes on with attempts that read at the snapshot. -/
def Follows (derived : Nat) (earlier later : List Attempt) : Prop :=
  ∃ new, later = earlier ++ new ∧ ReadsAt derived earlier new

theorem Follows.refl (derived : Nat) (attempts : List Attempt) :
    Follows derived attempts attempts :=
  ⟨[], (List.append_nil _).symm, ReadsAt.nil derived attempts⟩

theorem Follows.trans (h : Follows derived earlier xs) (h' : Follows derived xs ys) :
    Follows derived earlier ys := by
  obtain ⟨new, rfl, hreads⟩ := h
  obtain ⟨new', rfl, hreads'⟩ := h'
  exact ⟨new ++ new', List.append_assoc .., hreads.append hreads'⟩

/-- The timestamp of an iteration, 0 before there is a snapshot, is that of the snapshot. -/
structure Pinned (attempts : List Attempt) (ts : Nat) : Prop where
  eq : ts = (snapshot? attempts).getD 0
  ne_zero : snapshot? attempts ≠ some 0

namespace Pinned

theorem empty : Pinned [] 0 := ⟨rfl, nofun⟩

theorem guarantee_eq (h : Pinned earlier ts) (derived : Nat) :
    (if 0 < ts then ts else derived) = (snapshot? earlier).getD derived := by
  obtain ⟨rfl, hzero⟩ := h
  cases hsnapshot : snapshot? earlier with
  | none => rfl
  | some t =>
      have hpos : 0 < t := Nat.pos_of_ne_zero fun ht => hzero (by rw [hsnapshot, ht])
      exact if_pos hpos

theorem isSome (h : Pinned earlier ts) (hts : ts ≠ 0) : (snapshot? earlier).isSome := by
  cases hsnapshot : snapshot? earlier with
  | none => exact absurd (by rw [h.eq, hsnapshot]; rfl) hts
  | some t => rfl

theorem failed (h : Pinned earlier ts) (hfailures : ∀ a ∈ failures, a.request = r ∧ a.Failed) :
    Pinned (earlier ++ failures) ts := by
  have hsame : snapshot? (earlier ++ failures) = snapshot? earlier := by
    rw [snapshot?_append, snapshot?_failures hfailures, Option.or_none]
  exact ⟨by rw [hsame, h.eq], by rw [hsame]; exact h.ne_zero⟩

/-- The first answer pins its timestamp, later ones change nothing. -/
theorem answered {t : Nat} (h : Pinned earlier ts) (ha : a.timestamp? = some t) (ht : t ≠ 0) :
    Pinned (earlier ++ [a]) (if ts = 0 then t else ts) := by
  obtain ⟨rfl, hzero⟩ := h
  have hlast : snapshot? [a] = some t := by
    rw [snapshot?, List.findSome?_singleton, ha]
  cases hsnapshot : snapshot? earlier with
  | none =>
      have hpinned : snapshot? (earlier ++ [a]) = some t := by
        rw [snapshot?_append, hsnapshot, hlast, Option.none_or]
      exact ⟨by rw [hpinned]; rfl, by rw [hpinned]; exact fun h => ht (Option.some.inj h)⟩
  | some t₀ =>
      rw [hsnapshot] at hzero
      have hpinned : snapshot? (earlier ++ [a]) = some t₀ := by
        rw [snapshot?_append, hsnapshot, Option.some_or]
      have ht₀ : t₀ ≠ 0 := fun h => hzero (by rw [h])
      exact ⟨by rw [hpinned]; exact if_neg ht₀, by rw [hpinned]; exact hzero⟩

end Pinned

end Attempts

variable {σ : Type} {service : Service σ} {writes : WriteLog} {s s' : σ × List Attempt}

/-- A call to read sends requests at the snapshot. Its answer gives the timestamp of the
iteration if there was none; without an answer everything stays. -/
theorem Service.Called.pinned {r : Request} {deadline derived ts : Nat}
    {outcome : Except ClientError r.Reply} (h : service.Called r deadline s outcome s')
    (hclock : service.Fits) (hpinned : Pinned s.2 ts)
    (hr : r.read?.map (·.guarantee) = some (if 0 < ts then ts else derived)) :
    Follows derived s.2 s'.2 ∧ (∀ e, outcome = .error e → Pinned s'.2 ts) ∧
      ∀ reply reported, outcome = .ok reply → r.reported? reply = some reported →
        Pinned s'.2
          (if ts = 0 then Timestamp.orClock reported (service.epoch s'.1) else ts) := by
  rw [hpinned.guarantee_eq] at hr
  obtain ⟨failures, hfailures, ⟨e, rfl, hs'⟩ | ⟨reply, rfl, hs'⟩⟩ := h <;> rw [hs']
  · refine ⟨⟨failures, rfl, .of_failed hfailures hr⟩, fun _ _ => hpinned.failed hfailures, ?_⟩
    rintro _ _ ⟨⟩
  · refine ⟨⟨_, List.append_assoc .., (ReadsAt.of_failed hfailures hr).append (.singleton ?_)⟩,
      ?_, ?_⟩
    · rw [snapshot?_append, snapshot?_failures hfailures, Option.or_none]
      exact hr
    · rintro _ ⟨⟩
    · rintro _ reported ⟨⟩ hreported
      obtain ⟨hpos, hlt⟩ := hclock s'.1
      refine (hpinned.failed hfailures).answered ?_ (Timestamp.orClock_ne_zero reported hpos hlt)
      simp only [Attempt.timestamp?, hreported, Option.map_some]

theorem Client.guarantee_request (c : Client) (options : ReadOptions) (writes : WriteLog) :
    (options.request (c.readContext writes)).guarantee = c.derivedGuarantee options writes := by
  simp only [ReadOptions.request, ReadContext.databaseFor, readContext, derivedGuarantee,
    String.isEmpty_iff]

namespace BatchIterator

variable {ι β : Type}

/-- Whatever calls were made, the next one reads at the snapshot. -/
def ReadsSnapshot (I : BatchIterator ι β (σ × List Attempt)) (derived : WriteLog → Nat) (it : ι)
    (s : σ × List Attempt) : Prop :=
  ∀ calls outcomes it₁ s₁ call writes outcome it₂ s₂, I.run calls it s = (outcomes, it₁, s₁) →
    I.perform call writes it₁ s₁ = (outcome, it₂, s₂) →
    Follows (derived writes) s₁.2 s₂.2 ∧ snapshot? s₂.2 ≠ some 0

theorem Advances.readsSnapshot {I : BatchIterator ι β (σ × List Attempt)}
    {Inv : ι → σ × List Attempt → Prop} {derived : WriteLog → Nat} {it : ι}
    {s : σ × List Attempt}
    (advances : I.Advances Inv fun writes s s' => Follows (derived writes) s.2 s'.2)
    (hpinned : ∀ it s, Inv it s → snapshot? s.2 ≠ some 0) (hit : Inv it s) :
    I.ReadsSnapshot derived it s := by
  intro calls outcomes it₁ s₁ call writes outcome it₂ s₂ hrun hperform
  have hit₁ := advances.run hit calls
  rw [hrun] at hit₁
  obtain ⟨hit₂, hfollows⟩ := advances.perform hit₁ hperform
  exact ⟨hfollows, hpinned it₂ s₂ hit₂⟩

end BatchIterator

namespace RowCursor

variable {it it' : RowCursor}

theorem guarantee_request (it : RowCursor) (writes : WriteLog) (limit : Nat) (iterating : Bool) :
    (it.request writes limit iterating).guarantee = if 0 < it.sessionTimestamp then
      it.sessionTimestamp else it.client.derivedGuarantee it.plan.query.options writes := by
  rw [← Client.guarantee_request]
  rfl

theorem guarantee_seekRequest (it : RowCursor) (writes : WriteLog) (limit : Nat) :
    (it.seekRequest writes limit).guarantee = if 0 < it.sessionTimestamp then
      it.sessionTimestamp else it.client.derivedGuarantee it.plan.query.options writes :=
  it.guarantee_request writes limit false

/-- Once there was an answer, queries read at the snapshot and do not change it. -/
theorem sendQuery_pinned (hclock : service.Fits) {r : QueryRequest}
    {outcome : Except ClientError QueryReply}
    (h : it.client.sendQuery service.traced r s = (outcome, s'))
    (hr : r.guarantee = if 0 < it.sessionTimestamp then it.sessionTimestamp
      else it.client.derivedGuarantee it.plan.query.options writes)
    (hpinned : Pinned s.2 it.sessionTimestamp) (hset : it.sessionTimestamp ≠ 0) :
    Follows (it.client.derivedGuarantee it.plan.query.options writes) s.2 s'.2 ∧
      Pinned s'.2 it.sessionTimestamp := by
  have hcalled := Client.sendQuery_traced h
  obtain ⟨hfollows, herror, hok⟩ := hcalled.pinned hclock hpinned (congrArg some hr)
  refine ⟨hfollows, ?_⟩
  cases outcome with
  | error e => exact herror e rfl
  | ok reply =>
      have hpinned' := hok reply _ rfl rfl
      rwa [if_neg hset] at hpinned'

/-- All requests that skip rows read at the snapshot, by induction on the rows left. -/
theorem seek_pinned (hclock : service.Fits) {left : Nat} {outcome : Except ClientError RowCursor}
    (hpinned : Pinned s.2 it.sessionTimestamp) (hset : it.sessionTimestamp ≠ 0)
    (h : seek service.traced writes left it s = (outcome, s')) :
    Follows (it.client.derivedGuarantee it.plan.query.options writes) s.2 s'.2 ∧
      Pinned s'.2 it.sessionTimestamp := by
  fun_induction seek service.traced writes left it s with
  | case1 =>
      cases h
      exact ⟨.refl .., hpinned⟩
  | case2 _ it _ _ _ _ hsend | case3 _ it _ _ _ _ hsend | case4 _ it _ _ _ _ hsend
  | case5 _ it _ _ _ _ hsend =>
      cases h
      exact sendQuery_pinned hclock hsend (it.guarantee_seekRequest ..) hpinned hset
  | case6 _ it _ _ _ _ hsend _ _ _ _ _ ih =>
      obtain ⟨hfollows, hpinned₁⟩ :=
        sendQuery_pinned hclock hsend (it.guarantee_seekRequest ..) hpinned hset
      obtain ⟨hfollows', hpinned'⟩ := ih hpinned₁ hset h
      exact ⟨hfollows.trans hfollows', hpinned'⟩

theorem nextRows_pinned (hclock : service.Fits) {outcome : Except ClientError ResultSet}
    (hpinned : Pinned s.2 it.sessionTimestamp) (hset : it.sessionTimestamp ≠ 0)
    (h : it.nextRows service.traced writes s = (outcome, it', s')) :
    Follows (it.client.derivedGuarantee it.plan.query.options writes) s.2 s'.2 ∧
      Pinned s'.2 it.sessionTimestamp := by
  rcases nextRows_cases h with ⟨_, rfl⟩ | ⟨_, _, hsend, _⟩
  · exact ⟨.refl .., hpinned⟩
  · exact sendQuery_pinned hclock hsend (it.guarantee_request ..) hpinned hset

/-- The iteration is over, or it has the timestamp of the snapshot. -/
structure Reading (client : Client) (options : ReadOptions) (it : RowCursor)
    (s : σ × List Attempt) : Prop where
  client_eq : it.client = client
  options_eq : it.plan.query.options = options
  ne_zero : snapshot? s.2 ≠ some 0
  pinned : it.phase = .exhausted ∨ Pinned s.2 it.sessionTimestamp ∧ it.sessionTimestamp ≠ 0

theorem advances_reading (hclock : service.Fits) (client : Client) (options : ReadOptions) :
    (batches service.traced).Advances (Reading client options) fun writes s s' =>
      Follows (client.derivedGuarantee options writes) s.2 s'.2 where
  nextBatch := by
    intro writes it s outcome it' s' hit h
    obtain ⟨rfl, rfl, hzero, hpinned⟩ := hit
    by_cases hphase : it.phase = .exhausted
    · rw [show (batches service.traced).nextBatch = nextBatch service.traced from rfl,
        nextBatch_exhausted hphase] at h
      cases h
      exact ⟨⟨rfl, rfl, hzero, .inl hphase⟩, .refl ..⟩
    obtain ⟨hpinned, hset⟩ := hpinned.resolve_left hphase
    rcases nextBatch_cases h with ⟨_, rfl, rfl⟩ | ⟨_, _, hnext⟩ | ⟨_, batch, it₁, hnext, hdeliver⟩
    · exact ⟨⟨rfl, rfl, hzero, .inl rfl⟩, .refl ..⟩
    · obtain ⟨hfollows, hpinned'⟩ := nextRows_pinned hclock hpinned hset hnext
      rw [(gathers_nextRows hnext).same]
      exact ⟨⟨rfl, rfl, hpinned'.ne_zero, .inr ⟨hpinned', hset⟩⟩, hfollows⟩
    · obtain ⟨hfollows, hpinned'⟩ := nextRows_pinned hclock hpinned hset hnext
      refine ⟨?_, hfollows⟩
      have hsame := (gathers_nextRows hnext).same
      cases outcome with
      | error e =>
          rw [deliver_error hdeliver, hsame]
          exact ⟨rfl, rfl, hpinned'.ne_zero, .inr ⟨hpinned', hset⟩⟩
      | ok output =>
          rw [(deliver_ok hdeliver).2, hsame]
          exact ⟨rfl, rfl, hpinned'.ne_zero, .inr ⟨hpinned', hset⟩⟩
  stop hit := ⟨hit.client_eq, hit.options_eq, hit.ne_zero, .inl rfl⟩
  rest _ _ := .refl ..

/-- What is sent to begin an iteration reads at the snapshot from the first answer on, and the
iteration has its timestamp. -/
theorem start_pinned (hclock : service.Fits) {client : Client} {plan : QueryIteration} {state : σ}
    {outcome : Except ClientError RowCursor}
    (h : start service.traced writes client plan (state, []) = (outcome, s')) :
    ReadsAt (client.derivedGuarantee plan.query.options writes) [] s'.2 ∧
      snapshot? s'.2 ≠ some 0 ∧
      ∀ it, outcome = .ok it → Reading client plan.query.options it s' ∧
        (plan.query.limit ≠ some 0 → (snapshot? s'.2).isSome) := by
  rcases start_cases h with ⟨e, rfl, rfl⟩ | ⟨_, ⟨hlimit, rfl, rfl⟩ | hsent⟩
  · refine ⟨ReadsAt.nil _ [], Pinned.empty.ne_zero, ?_⟩
    rintro it ⟨⟩
  · refine ⟨ReadsAt.nil _ [], Pinned.empty.ne_zero, ?_⟩
    rintro it ⟨⟩
    exact ⟨⟨rfl, rfl, Pinned.empty.ne_zero, .inl rfl⟩, fun hne => absurd hlimit hne⟩
  have hfirst := fun {seen s₁} (hsend : client.sendQuery service.traced
      ((ofPlan client plan).request writes 1 true) (state, []) = (seen, s₁)) =>
    (Client.sendQuery_traced hsend).pinned hclock Pinned.empty
      (congrArg some ((ofPlan client plan).guarantee_request writes 1 true))
  rcases hsent with ⟨e, hsend, rfl⟩ | ⟨reply, s₁, skipped, hsend, hseek, hskipped⟩
  · obtain ⟨⟨new, hs', hreads⟩, herror, _⟩ := hfirst hsend
    rw [List.nil_append] at hs'
    refine ⟨hs' ▸ hreads, (herror e rfl).ne_zero, ?_⟩
    rintro it ⟨⟩
  · obtain ⟨hfollows, _, hok⟩ := hfirst hsend
    obtain ⟨hpos, hlt⟩ := hclock s₁.1
    have hset := Timestamp.orClock_ne_zero reply.sessionTimestamp hpos hlt
    obtain ⟨hfollows', hpinned'⟩ := seek_pinned hclock (hok reply _ rfl rfl) hset hseek
    obtain ⟨new, hs', hreads⟩ := hfollows.trans hfollows'
    rw [List.nil_append] at hs'
    refine ⟨hs' ▸ hreads, hpinned'.ne_zero, ?_⟩
    rintro it rfl
    rcases hskipped with ⟨_, he⟩ | rfl
    · cases he
    · obtain ⟨key, rfl⟩ := seek_frame hseek
      exact ⟨⟨rfl, rfl, hpinned'.ne_zero, .inr ⟨hpinned', hset⟩⟩, fun _ => hpinned'.isSome hset⟩

end RowCursor

/-- What the requests of a search depend on when it comes to timestamps: who sends them, what
they read, and the timestamp of the snapshot, 0 as long as there is none. -/
structure Reader where
  client : Client
  options : ReadOptions
  timestamp : Nat

namespace Reader

variable {r r₁ r₂ : Reader}

def guarantee (r : Reader) (writes : WriteLog) : Nat :=
  if 0 < r.timestamp then r.timestamp else r.client.derivedGuarantee r.options writes

/-- If a reader has the timestamp of the snapshot, it has it later as well, and what was
attempted meanwhile has read at the snapshot. -/
def Reads (writes : WriteLog) (r : Reader) (attempts : List Attempt) (r' : Reader)
    (attempts' : List Attempt) : Prop :=
  Pinned attempts r.timestamp → r'.client = r.client ∧ r'.options = r.options ∧
    Pinned attempts' r'.timestamp ∧
    Follows (r.client.derivedGuarantee r.options writes) attempts attempts'

namespace Reads

variable {attempts attempts₁ attempts₂ : List Attempt}

theorem refl : Reads writes r attempts r attempts :=
  fun hpinned => ⟨rfl, rfl, hpinned, .refl ..⟩

theorem trans (h : Reads writes r attempts r₁ attempts₁)
    (h' : Reads writes r₁ attempts₁ r₂ attempts₂) : Reads writes r attempts r₂ attempts₂ := by
  intro hpinned
  obtain ⟨hclient, hoptions, hpinned₁, hfollows⟩ := h hpinned
  obtain ⟨hclient', hoptions', hpinned₂, hfollows'⟩ := h' hpinned₁
  rw [hclient, hoptions] at hfollows'
  exact ⟨hclient'.trans hclient, hoptions'.trans hoptions, hpinned₂, hfollows.trans hfollows'⟩

end Reads

/-- A search that is sent reads at the snapshot. The reader takes over the timestamp of the
reply if it has none yet, and stays as it is if there is no reply. -/
theorem sendSearch_reads (hclock : service.Fits) {request : SearchRequest}
    {outcome : Except ClientError SearchReply} (hrequest : request.guarantee = r.guarantee writes)
    (h : r.client.sendSearch service.traced request s = (outcome, s')) :
    (∀ e, outcome = .error e → Reads writes r s.2 r s'.2) ∧
      ∀ reply, outcome = .ok reply → Reads writes r s.2
        { r with
          timestamp := if r.timestamp = 0 then
            Timestamp.orClock reply.sessionTimestamp (service.epoch s'.1) else r.timestamp }
        s'.2 := by
  have hcalled := Client.sendSearch_traced h
  have hsent := fun hpinned => hcalled.pinned hclock hpinned (congrArg some hrequest)
  refine ⟨?_, ?_⟩
  · rintro e rfl hpinned
    obtain ⟨hfollows, herror, _⟩ := hsent hpinned
    exact ⟨rfl, rfl, herror e rfl, hfollows⟩
  · rintro reply rfl hpinned
    obtain ⟨hfollows, _, hok⟩ := hsent hpinned
    exact ⟨rfl, rfl, hok reply _ rfl rfl, hfollows⟩

/-- The reader of this client and these options has the timestamp of the snapshot. -/
structure Reading (client : Client) (options : ReadOptions) (r : Reader)
    (attempts : List Attempt) : Prop where
  client_eq : r.client = client
  options_eq : r.options = options
  pinned : Pinned attempts r.timestamp

end Reader

/-- Every batch reads at the snapshot if its requests are those of a reader. -/
theorem BatchIterator.advances_reading {ι β : Type} (I : BatchIterator ι β (σ × List Attempt))
    (reader : ι → Reader) (hstop : ∀ it, reader (I.stop it) = reader it)
    (hbatch : ∀ {writes it s outcome it' s'}, I.nextBatch writes it s = (outcome, it', s') →
      Reader.Reads writes (reader it) s.2 (reader it') s'.2)
    (client : Client) (options : ReadOptions) :
    I.Advances (fun it s => Reader.Reading client options (reader it) s.2) fun writes s s' =>
      Follows (client.derivedGuarantee options writes) s.2 s'.2 where
  nextBatch := by
    rintro writes it s outcome it' s' ⟨rfl, rfl, hpinned⟩ h
    obtain ⟨hclient, hoptions, hpinned', hfollows⟩ := hbatch h hpinned
    exact ⟨⟨hclient, hoptions, hpinned'⟩, hfollows⟩
  stop := by
    intro it s hit
    rwa [hstop]
  rest _ _ := .refl ..

namespace BandSearch

variable {it it' : BandSearch}

def reader (it : BandSearch) : Reader :=
  ⟨it.client, it.plan.search.options, it.sessionTimestamp⟩

theorem guarantee_request {band : Option Ieee.Binary64 × Option Ieee.Binary64} {filter : String}
    {rate : Nat} {r : SearchRequest} (h : it.request writes band filter rate = .ok r) :
    r.guarantee = it.reader.guarantee writes := by
  obtain ⟨_, _, _, rfl, rfl⟩ := eq_of_request h
  rw [Reader.guarantee, reader, ← Client.guarantee_request]

theorem searchBand_reads (hclock : service.Fits)
    {band : Option Ieee.Binary64 × Option Ieee.Binary64} {filter : String} {rate : Nat}
    {outcome : Except ClientError HitPage}
    (h : it.searchBand service.traced writes band filter rate s = (outcome, it', s')) :
    it.reader.Reads writes s.2 it'.reader s'.2 := by
  rcases searchBand_cases h with ⟨_, rfl, rfl, rfl⟩ | ⟨r, hr, hsent⟩
  · exact .refl
  rcases hsent with ⟨e, hsend, rfl, rfl⟩ | ⟨reply, hsend, _, rfl⟩
  · exact (Reader.sendSearch_reads hclock (guarantee_request hr) hsend).1 e rfl
  · exact (Reader.sendSearch_reads hclock (guarantee_request hr) hsend).2 reply rfl

/-- Whoever has a page has a timestamp. -/
theorem timestamp_ne_zero_of_searchBand (hclock : service.Fits)
    {band : Option Ieee.Binary64 × Option Ieee.Binary64} {filter : String} {rate : Nat}
    {page : HitPage}
    (h : it.searchBand service.traced writes band filter rate s = (.ok page, it', s')) :
    it'.sessionTimestamp ≠ 0 := by
  rcases searchBand_cases h with ⟨_, he, _⟩ | ⟨r, _, ⟨_, _, he, _⟩ | ⟨reply, _, _, rfl⟩⟩
  · cases he
  · cases he
  · obtain ⟨hpos, hlt⟩ := hclock s'.1
    simp only [stamped]
    split
    · exact Timestamp.orClock_ne_zero _ hpos hlt
    · assumption

theorem probe_reads (hclock : service.Fits) {factor : Ieee.Binary64}
    {outcome : Except ClientError Unit}
    (h : it.probe service.traced writes factor s = (outcome, it', s')) :
    it.reader.Reads writes s.2 it'.reader s'.2 := by
  obtain ⟨found, it₁, hsearch, hprobed⟩ := probe_cases h
  have hreads := searchBand_reads hclock hsearch
  rcases hprobed with ⟨_, _, _, rfl⟩ | ⟨page, _, ⟨_, _, rfl⟩ | ⟨_, hreceive⟩⟩
  · exact hreads
  · exact hreads
  · obtain ⟨hsame, htimestamp, _⟩ := receive_frame hreceive
    have hreader : it'.reader = it₁.reader := by
      rw [reader, reader, hsame.client, hsame.plan, htimestamp]
    rwa [hreader]

/-- All probes for a batch read at the snapshot, by induction on their number. -/
theorem fill_reads (hclock : service.Fits) {wanted left : Nat} {outcome : Except ClientError Unit}
    (h : it.fill service.traced writes wanted left s = (outcome, it', s')) :
    it.reader.Reads writes s.2 it'.reader s'.2 :=
  fill_induct (fun _ it₁ s₁ => it.reader.Reads writes s.2 it₁.reader s₁.2)
    (fun hreads hprobe => hreads.trans (probe_reads hclock hprobe)) .refl h

theorem nextBatch_reads (hclock : service.Fits) {outcome : Except ClientError HitPage}
    (h : it.nextBatch service.traced writes s = (outcome, it', s')) :
    it.reader.Reads writes s.2 it'.reader s'.2 := by
  rcases nextBatch_cases h with ⟨_, rfl, rfl⟩ | ⟨_, ⟨_, _, hfill⟩ | ⟨it₁, hfill, hdeliver⟩⟩
  · exact .refl
  · exact fill_reads hclock hfill
  · have hreads := fill_reads hclock hfill
    rw [deliver_same hdeliver]
    exact hreads

theorem start_reads (hclock : service.Fits) {client : Client} {plan : SearchIteration} {state : σ}
    {outcome : Except ClientError BandSearch}
    (h : start service.traced writes client plan (state, []) = (outcome, s')) :
    ReadsAt (client.derivedGuarantee plan.search.options writes) [] s'.2 ∧
      ∀ it, outcome = .ok it →
        (snapshot? s'.2).isSome ∧ it.reader.Reading client plan.search.options s'.2 := by
  rcases start_cases h with ⟨e, rfl, rfl⟩ | ⟨metric, found, it₁, _, _, hsearch, hbegun⟩
  · refine ⟨ReadsAt.nil _ [], ?_⟩
    rintro it ⟨⟩
  · obtain ⟨hclient, hoptions, hpinned, new, hs', hreads⟩ :=
      searchBand_reads hclock hsearch Pinned.empty
    rw [List.nil_append] at hs'
    refine ⟨hs' ▸ hreads, ?_⟩
    rintro it rfl
    rcases hbegun with ⟨_, he⟩ | ⟨page, it₂, rfl, hbegin, hit⟩
    · cases he
    · cases hit
      have hset := timestamp_ne_zero_of_searchBand hclock hsearch
      obtain ⟨_, _, _, _, _, rfl⟩ := begin_cases hbegin
      exact ⟨hpinned.isSome hset, hclient, hoptions, hpinned⟩

end BandSearch

namespace TokenSearch

variable {it it' : TokenSearch}

def reader (it : TokenSearch) : Reader :=
  ⟨it.client, it.plan.search.options, it.sessionTimestamp⟩

theorem guarantee_request {rows : Nat} {parameters : Dict String} {r : SearchRequest}
    (h : it.request writes rows parameters = .ok r) :
    r.guarantee = it.reader.guarantee writes := by
  obtain ⟨_, _, _, rfl, rfl⟩ := eq_of_request h
  rw [Reader.guarantee, reader, ← Client.guarantee_request]

theorem nextPage_reads (hclock : service.Fits) {outcome : Except ClientError HitPage}
    (h : it.nextPage service.traced writes s = (outcome, it', s')) :
    it.reader.Reads writes s.2 it'.reader s'.2 := by
  rcases nextPage_cases h with ⟨_, _, rfl, rfl⟩ | ⟨r, hr, hsent⟩
  · exact .refl
  rcases hsent with ⟨e, hsend, _, rfl⟩ | ⟨reply, hsend, hreceive⟩
  · exact (Reader.sendSearch_reads hclock (guarantee_request hr) hsend).1 e rfl
  · have hreads := (Reader.sendSearch_reads hclock (guarantee_request hr) hsend).2 reply rfl
    obtain ⟨hsame, htimestamp, _⟩ := receive_frame hreceive
    have hreader : it'.reader = (it.stamped (Timestamp.orClock reply.sessionTimestamp
        (service.epoch s'.1))).reader := by
      rw [reader, hsame.client, hsame.plan, htimestamp]
      rfl
    rw [hreader]
    exact hreads

/-- All pages for a batch read at the snapshot, by induction on their number. -/
theorem fill_reads (hclock : service.Fits) {wanted left : Nat} {outcome : Except ClientError Unit}
    (h : it.fill service.traced writes wanted left s = (outcome, it', s')) :
    it.reader.Reads writes s.2 it'.reader s'.2 := by
  refine fill_induct (fun _ it₁ s₁ => it.reader.Reads writes s.2 it₁.reader s₁.2) ?_ .refl h
  intro it₁ s₁ _ it₂ s₂ hreads hpage
  have hlater := hreads.trans (nextPage_reads hclock hpage)
  refine ⟨fun _ _ => hlater, fun page _ => ?_⟩
  split <;> exact hlater

theorem nextBatch_reads (hclock : service.Fits) {outcome : Except ClientError HitPage}
    (h : it.nextBatch service.traced writes s = (outcome, it', s')) :
    it.reader.Reads writes s.2 it'.reader s'.2 := by
  rcases nextBatch_cases h with ⟨_, rfl, rfl⟩ | ⟨_, ⟨_, _, hfill⟩ | ⟨it₁, hfill, hdeliver⟩⟩
  · exact .refl
  · exact fill_reads hclock hfill
  · have hreads := fill_reads hclock hfill
    rw [deliver_same hdeliver]
    exact hreads

/-- What is sent to find out about tokens reads as if there were no iteration yet. -/
theorem start_derived {client : Client} {plan : SearchIteration} {state : σ}
    {outcome : Except ClientError TokenSearch}
    (h : start service.traced writes client plan (state, []) = (outcome, s')) :
    ∀ a ∈ s'.2, a.guarantee? = some (client.derivedGuarantee plan.search.options writes) := by
  rcases start_cases h with ⟨_, _, rfl⟩ | ⟨_, seen, hprobe, _⟩
  · exact List.forall_mem_nil _
  rcases probe_cases hprobe with rfl | ⟨r, reply, hr, hsend⟩
  · exact List.forall_mem_nil _
  · have hcalled := Client.sendSearch_traced hsend
    exact hcalled.forall_request
      (P := fun r => r.read?.map (·.guarantee) =
        some (client.derivedGuarantee plan.search.options writes))
      (congrArg some (guarantee_request hr)) (List.forall_mem_nil _)

end TokenSearch

/-- Iterations of every kind read one snapshot, whatever the service answers and whatever
happens to the log of writes between two calls. It is the timestamp of the first answer, which
is not 0; for a token search, of the first one after it has begun. Until then requests read at
the timestamp that the log gives. -/
theorem snapshots_of_start {σ : Type} (service : Service σ) (hclock : service.Fits)
    (writes : WriteLog) (client : Client) (s : σ) :
    (∀ plan outcome s', RowCursor.start service.traced writes client plan (s, []) =
        (outcome, s') →
      ReadsAt (client.derivedGuarantee plan.query.options writes) [] s'.2 ∧
      snapshot? s'.2 ≠ some 0 ∧
      ∀ it, outcome = .ok it →
        (plan.query.limit ≠ some 0 → (snapshot? s'.2).isSome) ∧
        (RowCursor.batches service.traced).ReadsSnapshot
          (client.derivedGuarantee plan.query.options) it s') ∧
    (∀ plan outcome s', BandSearch.start service.traced writes client plan (s, []) =
        (outcome, s') →
      ReadsAt (client.derivedGuarantee plan.search.options writes) [] s'.2 ∧
      ∀ it, outcome = .ok it → (snapshot? s'.2).isSome ∧
        (BandSearch.batches service.traced).ReadsSnapshot
          (client.derivedGuarantee plan.search.options) it s') ∧
    (∀ plan outcome s', TokenSearch.start service.traced writes client plan (s, []) =
        (outcome, s') →
      (∀ a ∈ s'.2, a.guarantee? = some (client.derivedGuarantee plan.search.options writes)) ∧
      ∀ it, outcome = .ok it →
        (TokenSearch.batches service.traced).ReadsSnapshot
          (client.derivedGuarantee plan.search.options) it (s'.1, [])) := by
  refine ⟨?_, ?_, ?_⟩
  · intro plan outcome s' h
    obtain ⟨hreads, hzero, hok⟩ := RowCursor.start_pinned hclock h
    refine ⟨hreads, hzero, fun it hit => ?_⟩
    obtain ⟨hread, hsome⟩ := hok it hit
    exact ⟨hsome, (RowCursor.advances_reading hclock _ _).readsSnapshot
      (fun _ _ h => h.ne_zero) hread⟩
  · intro plan outcome s' h
    obtain ⟨hreads, hok⟩ := BandSearch.start_reads hclock h
    refine ⟨hreads, fun it hit => ?_⟩
    obtain ⟨hsome, hread⟩ := hok it hit
    have hadvances := (BandSearch.batches service.traced).advances_reading BandSearch.reader
      (fun _ => rfl) (BandSearch.nextBatch_reads hclock) client plan.search.options
    exact ⟨hsome, hadvances.readsSnapshot (fun _ _ h => h.pinned.ne_zero) hread⟩
  · intro plan outcome s' h
    refine ⟨TokenSearch.start_derived h, ?_⟩
    rintro it rfl
    obtain rfl := TokenSearch.start_eq h
    have hadvances := (TokenSearch.batches service.traced).advances_reading TokenSearch.reader
      (fun _ => rfl) (TokenSearch.nextBatch_reads hclock) client plan.search.options
    exact hadvances.readsSnapshot (fun _ _ h => h.pinned.ne_zero) ⟨rfl, rfl, Pinned.empty⟩

/-- A write that comes after the first answer is not waited for, nor does a failure matter. -/
example : ((TokenSearch.batches (Script.service 1).traced).run
      [(.nextBatch, .empty), (.nextBatch, .record .empty ⟨"default", "books"⟩ 40)]
      (.ofPlan .standard Sample.search)
      (.ofReplies [.search Sample.oneHit, .fail (.transport .unimplemented "maintenance"),
        .search Sample.oneHit], [])).2.2.2.map Attempt.guarantee? =
    [some 1, some (2 ^ 18), some (2 ^ 18)] := by
  decide +kernel

namespace Sample

/-- Calls for two batches after another client's write. -/
def callsAfterWrite : List (Call × WriteLog) :=
  [(.nextBatch, .record .empty ⟨"default", "books"⟩ 40),
    (.next, .record .empty ⟨"default", "books"⟩ 40)]

/-- These calls give three rows, and all requests so far have read at the given timestamps. -/
def HandsOutThree {ι β σ : Type} (I : BatchIterator ι β (σ × List Attempt)) (it : ι)
    (s : σ × List Attempt) (guarantees : List (Option Nat)) : Prop :=
  I.delivered (I.run callsAfterWrite it s).1 = 3 ∧
    (I.run callsAfterWrite it s).2.2.2.map Attempt.guarantee? = guarantees

instance {ι β σ : Type} (I : BatchIterator ι β (σ × List Attempt)) (it : ι)
    (s : σ × List Attempt) (guarantees : List (Option Nat)) :
    Decidable (HandsOutThree I it s guarantees) :=
  inferInstanceAs (Decidable (_ ∧ _))

end Sample

/-- The replies report no timestamp, so the iterations read at that of the wall clock. The write
counts for the token search only, which has had no answer before it. -/
theorem snapshots_of_start_unreported :
    (Script.service 1).Fits ∧
    (∃ it s', RowCursor.start (Script.service 1).traced .empty .standard Sample.query
        (.ofReplies (Sample.threeRowPages.map .query), []) = (.ok it, s') ∧
      snapshot? s'.2 = some (2 ^ 18) ∧
      (RowCursor.batches (Script.service 1).traced).ReadsSnapshot
        (Client.standard.derivedGuarantee Sample.query.query.options) it s' ∧
      Sample.HandsOutThree (RowCursor.batches (Script.service 1).traced) it s'
        [some 1, some (2 ^ 18), some (2 ^ 18)]) ∧
    (∃ it s', BandSearch.start (Script.service 1).traced .empty .standard Sample.search
        (.ofReplies (Sample.threeHitPages.map .search), []) = (.ok it, s') ∧
      snapshot? s'.2 = some (2 ^ 18) ∧
      (BandSearch.batches (Script.service 1).traced).ReadsSnapshot
        (Client.standard.derivedGuarantee Sample.search.search.options) it s' ∧
      Sample.HandsOutThree (BandSearch.batches (Script.service 1).traced) it s'
        [some 1, some (2 ^ 18)]) ∧
    (∃ it s', TokenSearch.start (Script.service 1).traced .empty .standard Sample.search
        (.ofReplies (.search Sample.oneHit :: Sample.threeHitPages.map .search), []) =
          (.ok it, s') ∧
      s'.2.map Attempt.guarantee? = [some 1] ∧
      (TokenSearch.batches (Script.service 1).traced).ReadsSnapshot
        (Client.standard.derivedGuarantee Sample.search.search.options) it (s'.1, []) ∧
      Sample.HandsOutThree (TokenSearch.batches (Script.service 1).traced) it (s'.1, [])
        [some 40, some (2 ^ 18)]) := by
  have hclock : (Script.service 1).Fits := fun _ => ⟨Nat.le_refl 1, show 1 < 2 ^ 46 by decide⟩
  refine ⟨hclock, ?_, ?_, ?_⟩
  · obtain ⟨it, s', h, htest⟩ := exists_ok_of_test
      (RowCursor.start (Script.service 1).traced .empty .standard Sample.query
        (.ofReplies (Sample.threeRowPages.map .query), []))
      (fun it s => snapshot? s.2 == some (2 ^ 18) && decide (Sample.HandsOutThree
        (RowCursor.batches (Script.service 1).traced) it s [some 1, some (2 ^ 18), some (2 ^ 18)]))
      (by decide +kernel)
    obtain ⟨hfirst, hrun⟩ := Bool.and_eq_true_iff.mp htest
    obtain ⟨_, _, hok⟩ := (snapshots_of_start _ hclock _ _ _).1 _ _ _ h
    exact ⟨it, s', h, beq_iff_eq.mp hfirst, (hok it rfl).2, of_decide_eq_true hrun⟩
  · obtain ⟨it, s', h, htest⟩ := exists_ok_of_test
      (BandSearch.start (Script.service 1).traced .empty .standard Sample.search
        (.ofReplies (Sample.threeHitPages.map .search), []))
      (fun it s => snapshot? s.2 == some (2 ^ 18) && decide (Sample.HandsOutThree
        (BandSearch.batches (Script.service 1).traced) it s [some 1, some (2 ^ 18)]))
      (by decide +kernel)
    obtain ⟨hfirst, hrun⟩ := Bool.and_eq_true_iff.mp htest
    obtain ⟨_, hok⟩ := (snapshots_of_start _ hclock _ _ _).2.1 _ _ _ h
    exact ⟨it, s', h, beq_iff_eq.mp hfirst, (hok it rfl).2, of_decide_eq_true hrun⟩
  · obtain ⟨it, s', h, htest⟩ := exists_ok_of_test
      (TokenSearch.start (Script.service 1).traced .empty .standard Sample.search
        (.ofReplies (.search Sample.oneHit :: Sample.threeHitPages.map .search), []))
      (fun it s => s.2.map Attempt.guarantee? == [some 1] && decide (Sample.HandsOutThree
        (TokenSearch.batches (Script.service 1).traced) it (s.1, []) [some 40, some (2 ^ 18)]))
      (by decide +kernel)
    obtain ⟨hfirst, hrun⟩ := Bool.and_eq_true_iff.mp htest
    obtain ⟨_, hok⟩ := (snapshots_of_start _ hclock _ _ _).2.2 _ _ _ h
    exact ⟨it, s', h, beq_iff_eq.mp hfirst, hok it rfl, of_decide_eq_true hrun⟩

end VectorClient
