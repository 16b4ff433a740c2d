import VectorClient.Proofs.BandSearch.Accounts
import VectorClient.Proofs.Operation
import VectorClient.Proofs.RowCursor.Accounts
import VectorClient.Proofs.TokenSearch.Accounts

/-!
# Services that cannot be told apart

Whatever a client does, it sees a service through its calls alone, and every call goes through
the policy. So if all calls to two services have the same outcome, the client does the same
with both of them, and its iterations stay the same. The one other thing that it looks at is
the wall clock, when a reply does not report a time; the replies of services that agree do.
-/

namespace VectorClient

/-- Two runs with the same result that end in related states. -/
def Concur {α σ τ : Type} (R : σ → τ → Prop) (x : α × σ) (y : α × τ) : Prop :=
  x.1 = y.1 ∧ R x.2 y.2

namespace Concur

variable {α β σ τ : Type} {R : σ → τ → Prop}

theorem exists_eq {x : α × σ} {y : α × τ} (h : Concur R x y) :
    ∃ a s t, x = (a, s) ∧ y = (a, t) ∧ R s t :=
  ⟨x.1, x.2, y.2, rfl, Prod.ext h.1.symm rfl, h.2⟩

theorem exists_eq₂ {x : α × β × σ} {y : α × β × τ} (h : Concur (Concur R) x y) :
    ∃ a b s t, x = (a, b, s) ∧ y = (a, b, t) ∧ R s t := by
  obtain ⟨a, s, t, hx, hy, hst⟩ := h.exists_eq
  obtain ⟨b, s', t', rfl, rfl, hst'⟩ := hst.exists_eq
  exact ⟨a, b, s', t', hx, hy, hst'⟩

end Concur

/-- All calls to two services have the same outcome, from related states on, and a reply to a
read reports its time. -/
structure Service.Agree {σ τ : Type} (p : RetryPolicy) (S : Service σ) (T : Service τ)
    (R : σ → τ → Prop) : Prop where
  execute : ∀ {s t}, R s t → ∀ r deadline,
    Concur R (p.execute S.toClock (S.attempt r deadline) s)
      (p.execute T.toClock (T.attempt r deadline) t)
  reported : ∀ {s t}, R s t → ∀ r deadline reply,
    (p.execute S.toClock (S.attempt r deadline) s).1 = .ok reply → r.reported? reply ≠ some 0

variable {σ τ : Type} {S : Service σ} {T : Service τ} {R : σ → τ → Prop} {s : σ} {t : τ}
variable {writes : WriteLog} {c : Client}

theorem Service.Agree.call {p : RetryPolicy} (h : S.Agree p T R) (hst : R s t) (r : Request)
    (deadline : Nat) :
    ∃ outcome s' t', p.execute S.toClock (S.attempt r deadline) s = (outcome, s') ∧
      p.execute T.toClock (T.attempt r deadline) t = (outcome, t') ∧ R s' t' ∧
      ∀ reply, outcome = .ok reply → r.reported? reply ≠ some 0 := by
  have hreported := h.reported hst r deadline
  obtain ⟨outcome, s', t', hs, ht, hst'⟩ := (h.execute hst r deadline).exists_eq
  rw [hs] at hreported
  exact ⟨outcome, s', t', hs, ht, hst', hreported⟩

theorem Timestamp.orClock_of_ne_zero {reported milliseconds : Nat} (h : reported ≠ 0) :
    orClock reported milliseconds = reported := if_neg h

namespace Client

theorem sendQuery_concur (h : S.Agree c.retry T R) (hst : R s t) (r : QueryRequest) :
    ∃ outcome s' t', c.sendQuery S r s = (outcome, s') ∧ c.sendQuery T r t = (outcome, t') ∧
      R s' t' ∧ ∀ reply, outcome = .ok reply → reply.sessionTimestamp ≠ 0 := by
  rw [sendQuery_eq, sendQuery_eq]
  obtain ⟨outcome, s', t', hs, ht, hst', hreported⟩ := h.call hst (.query r) c.deadline
  refine ⟨outcome, s', t', hs, ht, hst', ?_⟩
  intro reply hreply hzero
  exact hreported reply hreply (congrArg some hzero)

theorem sendSearch_concur (h : S.Agree c.retry T R) (hst : R s t) (r : SearchRequest) :
    ∃ outcome s' t', c.sendSearch S r s = (outcome, s') ∧ c.sendSearch T r t = (outcome, t') ∧
      R s' t' ∧ ∀ reply, outcome = .ok reply → reply.sessionTimestamp ≠ 0 := by
  rw [sendSearch_eq, sendSearch_eq]
  obtain ⟨outcome, s', t', hs, ht, hst', hreported⟩ := h.call hst (.search r) c.deadline
  refine ⟨outcome, s', t', hs, ht, hst', ?_⟩
  intro reply hreply hzero
  exact hreported reply hreply (congrArg some hzero)

end Client

namespace BatchIterator

variable {ι β : Type}

/-- The same kind of iteration over two services, whose single batches are alike. -/
structure Agree (I : BatchIterator ι β σ) (J : BatchIterator ι β τ) (Valid : ι → Prop)
    (R : σ → τ → Prop) : Prop where
  phase : J.phase = I.phase
  rowCount : J.rowCount = I.rowCount
  stop : J.stop = I.stop
  keeps : I.Keeps Valid
  nextBatch : ∀ {it s t}, Valid it → R s t → ∀ writes,
    Concur (Concur R) (I.nextBatch writes it s) (J.nextBatch writes it t)

/-- An iteration from its construction on: what its calls gave, and how it stands then. -/
def session (I : BatchIterator ι β σ) (calls : List (Call × WriteLog)) :
    Except ClientError ι × σ → Except ClientError (List (Outcome β) × ι) × σ
  | (.error e, s) => (.error e, s)
  | (.ok it, s) =>
    let (outcomes, it, s) := I.run calls it s
    (.ok (outcomes, it), s)

namespace Agree

variable {I : BatchIterator ι β σ} {J : BatchIterator ι β τ} {Valid : ι → Prop} {it : ι}

/-- Single batches are alike because an iteration looks at its services only through the calls
of its client, and it keeps that client. -/
theorem of_concur {client : ι → Client} (hphase : J.phase = I.phase)
    (hrowCount : J.rowCount = I.rowCount) (hstop : J.stop = I.stop)
    (hkeeps : I.Keeps fun it => client it = c)
    (hconcur : ∀ {it s t}, S.Agree (client it).retry T R → R s t → ∀ writes,
      Concur (Concur R) (I.nextBatch writes it s) (J.nextBatch writes it t))
    (h : S.Agree c.retry T R) : I.Agree J (fun it => client it = c) R where
  phase := hphase
  rowCount := hrowCount
  stop := hstop
  keeps := hkeeps
  nextBatch := by
    rintro it s t rfl hst writes
    exact hconcur h hst writes

theorem next (agree : I.Agree J Valid R) (hit : Valid it) (hst : R s t) (writes : WriteLog) :
    Concur (Concur R) (I.next writes it s) (J.next writes it t) := by
  obtain ⟨outcome, it', s', t', hs, ht, hst'⟩ := (agree.nextBatch hit hst writes).exists_eq₂
  rw [I.next_eq, J.next_eq, agree.phase, agree.rowCount, agree.stop, hs, ht]
  split
  · exact ⟨rfl, rfl, hst⟩
  cases outcome with
  | error e => exact ⟨rfl, rfl, hst'⟩
  | ok b =>
      simp only [Iteration.handOut]
      split <;> exact ⟨rfl, rfl, hst'⟩

theorem perform (agree : I.Agree J Valid R) (hit : Valid it) (hst : R s t) (call : Call)
    (writes : WriteLog) :
    Concur (Concur R) (I.perform call writes it s) (J.perform call writes it t) := by
  cases call with
  | nextBatch =>
      obtain ⟨outcome, it', s', t', hs, ht, hst'⟩ := (agree.nextBatch hit hst writes).exists_eq₂
      simp only [BatchIterator.perform, hs, ht]
      cases outcome <;> exact ⟨rfl, rfl, hst'⟩
  | next =>
      obtain ⟨shown, it', s', t', hs, ht, hst'⟩ := (agree.next hit hst writes).exists_eq₂
      simp only [BatchIterator.perform, hs, ht]
      rcases shown with _ | _ | _ <;> exact ⟨rfl, rfl, hst'⟩

/-- All calls of a run are alike, by induction on them. -/
theorem run (agree : I.Agree J Valid R) (hit : Valid it) (hst : R s t)
    (calls : List (Call × WriteLog)) :
    Concur (Concur R) (I.run calls it s) (J.run calls it t) := by
  induction calls generalizing it s t with
  | nil => exact ⟨rfl, rfl, hst⟩
  | cons call calls ih =>
      obtain ⟨call, writes⟩ := call
      obtain ⟨outcome, it', s', t', hs, ht, hst'⟩ :=
        (agree.perform hit hst call writes).exists_eq₂
      rw [I.run_cons hs, J.run_cons ht]
      obtain ⟨houtcomes, hstates⟩ := ih (agree.keeps.perform hit hs) hst'
      exact ⟨congrArg (outcome :: ·) houtcomes, hstates⟩

theorem session (agree : I.Agree J Valid R) {x : Except ClientError ι × σ}
    {y : Except ClientError ι × τ} (hbegun : Concur R x y) (hvalid : ∀ it, x.1 = .ok it → Valid it)
    (calls : List (Call × WriteLog)) : Concur R (I.session calls x) (J.session calls y) := by
  obtain ⟨begun, s, t, rfl, rfl, hst⟩ := hbegun.exists_eq
  cases begun with
  | error e => exact ⟨rfl, hst⟩
  | ok it =>
      obtain ⟨outcomes, it', s', t', hs, ht, hst'⟩ :=
        (agree.run (hvalid it rfl) hst calls).exists_eq₂
      simp only [BatchIterator.session, hs, ht]
      exact ⟨rfl, hst'⟩

end Agree

end BatchIterator

namespace RowCursor

variable {it : RowCursor}

theorem nextRows_concur (h : S.Agree it.client.retry T R) (hst : R s t) (writes : WriteLog) :
    Concur (Concur R) (it.nextRows S writes s) (it.nextRows T writes t) := by
  rw [nextRows, nextRows]
  split
  · exact ⟨rfl, rfl, hst⟩
  · obtain ⟨outcome, s', t', hs, ht, hst', _⟩ :=
      Client.sendQuery_concur h hst (it.request writes it.plan.batchSize true)
    simp only [fetch, hs, ht]
    cases outcome <;> exact ⟨rfl, rfl, hst'⟩

theorem nextBatch_concur (h : S.Agree it.client.retry T R) (hst : R s t) (writes : WriteLog) :
    Concur (Concur R) (it.nextBatch S writes s) (it.nextBatch T writes t) := by
  rw [nextBatch_eq, nextBatch_eq]
  split
  · exact ⟨rfl, rfl, hst⟩
  · obtain ⟨outcome, it', s', t', hs, ht, hst'⟩ := (nextRows_concur h hst writes).exists_eq₂
    rw [hs, ht]
    cases outcome <;> exact ⟨rfl, rfl, hst'⟩

theorem client_of_start {plan : QueryIteration} {s' : σ}
    (h : start S writes c plan s = (.ok it, s')) : it.client = c := by
  obtain ⟨_, _, _, rfl⟩ := start_eq h
  rfl

theorem keeps_client (service : Service σ) (c : Client) :
    (batches service).Keeps fun it => it.client = c where
  nextBatch := by
    intro writes it s outcome it' s' hit h
    have hrows : ∀ {batch it₁ s₁}, it.nextRows service writes s = (batch, it₁, s₁) →
        it₁.client = c := by
      intro batch it₁ s₁ hnext
      rw [(gathers_nextRows hnext).same]
      exact hit
    rcases nextBatch_cases h with ⟨_, rfl, _⟩ | ⟨_, _, hnext⟩ | ⟨_, batch, it₁, hnext, hdeliver⟩
    · exact hit
    · exact hrows hnext
    · cases outcome with
      | error e =>
          rw [deliver_error hdeliver]
          exact hrows hnext
      | ok output =>
          have hclient := hrows hnext
          obtain ⟨_, rfl⟩ := deliver_ok hdeliver
          exact hclient
  stop hit := hit

theorem agree (h : S.Agree c.retry T R) :
    (batches S).Agree (batches T) (fun it => it.client = c) R :=
  .of_concur rfl rfl rfl (keeps_client S c) nextBatch_concur h

end RowCursor

namespace BandSearch

variable {it : BandSearch}

theorem searchBand_concur (h : S.Agree it.client.retry T R) (hst : R s t) (writes : WriteLog)
    (band : Option Ieee.Binary64 × Option Ieee.Binary64) (filter : String) (rate : Nat) :
    Concur (Concur R) (it.searchBand S writes band filter rate s)
      (it.searchBand T writes band filter rate t) := by
  rw [searchBand, searchBand]
  cases it.request writes band filter rate with
  | error e => exact ⟨rfl, rfl, hst⟩
  | ok r =>
      obtain ⟨outcome, s', t', hs, ht, hst', hreported⟩ := Client.sendSearch_concur h hst r
      simp only [hs, ht]
      cases outcome with
      | error e => exact ⟨rfl, rfl, hst'⟩
      | ok reply =>
          dsimp only
          rw [Timestamp.orClock_of_ne_zero (hreported reply rfl),
            Timestamp.orClock_of_ne_zero (hreported reply rfl)]
          exact ⟨rfl, rfl, hst'⟩

theorem probe_concur (h : S.Agree it.client.retry T R) (hst : R s t) (writes : WriteLog)
    (factor : Ieee.Binary64) :
    Concur (Concur R) (it.probe S writes factor s) (it.probe T writes factor t) := by
  obtain ⟨outcome, it', s', t', hs, ht, hst'⟩ := (searchBand_concur h hst writes
    (some (it.farEnd factor), some it.tail) it.exclusionFilter probeExtension).exists_eq₂
  rw [probe, probe, hs, ht]
  cases outcome with
  | error e => exact ⟨rfl, rfl, hst'⟩
  | ok page =>
      dsimp only
      split <;> exact ⟨rfl, rfl, hst'⟩

theorem probe_client {factor : Ieee.Binary64} {outcome : Except ClientError Unit} {it' : BandSearch}
    {s' : σ} (h : it.probe S writes factor s = (outcome, it', s')) : it'.client = it.client := by
  obtain ⟨found, it₁, hsearch, hprobed⟩ := probe_cases h
  obtain ⟨⟨ts, rfl⟩, _⟩ := searchBand_frame hsearch
  rcases hprobed with ⟨_, _, _, rfl⟩ | ⟨page, _, ⟨_, _, rfl⟩ | ⟨_, hreceive⟩⟩
  · rfl
  · rfl
  · exact (receive_frame hreceive).1.client

/-- All probes for a batch are alike, by induction on their number. -/
theorem fill_concur (h : S.Agree it.client.retry T R) (hst : R s t) (writes : WriteLog)
    (wanted left : Nat) :
    Concur (Concur R) (it.fill S writes wanted left s) (it.fill T writes wanted left t) := by
  induction left generalizing it s t with
  | zero => exact ⟨rfl, rfl, hst⟩
  | succ left ih =>
      rw [fill_succ, fill_succ]
      split
      · exact ⟨rfl, rfl, hst⟩
      obtain ⟨outcome, it', s', t', hs, ht, hst'⟩ :=
        (probe_concur h hst writes (Ieee.Word.ofInt (maxProbes - left : Nat))).exists_eq₂
      rw [hs, ht]
      cases outcome with
      | error e => exact ⟨rfl, rfl, hst'⟩
      | ok =>
          rw [← probe_client hs] at h
          exact ih h hst'

theorem nextBatch_concur (h : S.Agree it.client.retry T R) (hst : R s t) (writes : WriteLog) :
    Concur (Concur R) (it.nextBatch S writes s) (it.nextBatch T writes t) := by
  rw [nextBatch, nextBatch]
  dsimp only
  split
  · exact ⟨rfl, rfl, hst⟩
  · obtain ⟨outcome, it', s', t', hs, ht, hst'⟩ :=
      (fill_concur h hst writes it.wanted maxProbes).exists_eq₂
    rw [wanted] at hs ht
    rw [hs, ht]
    cases outcome <;> exact ⟨rfl, rfl, hst'⟩

theorem client_of_start {plan : SearchIteration} {s' : σ}
    (h : start S writes c plan s = (.ok it, s')) : it.client = c := by
  rcases start_cases h with ⟨_, he, _⟩ |
    ⟨metric, found, it₁, _, _, hsearch, ⟨_, he⟩ | ⟨page, it₂, _, hbegin, hit⟩⟩
  · cases he
  · cases he
  · cases hit
    obtain ⟨⟨ts, rfl⟩, _⟩ := searchBand_frame hsearch
    obtain ⟨width, tail, tied, _, _, rfl⟩ := begin_cases hbegin
    rfl

theorem keeps_client (service : Service σ) (c : Client) :
    (batches service).Keeps fun it => it.client = c where
  nextBatch := by
    intro writes it s outcome it' s' hit h
    have hfill : ∀ {outcome it₁ s₁}, it.fill service writes it.wanted maxProbes s =
        (outcome, it₁, s₁) → it₁.client = c :=
      fill_induct (fun _ it _ => it.client = c)
        (fun hit₁ hprobe => (probe_client hprobe).trans hit₁) hit
    rcases nextBatch_cases h with ⟨_, rfl, _⟩ | ⟨_, ⟨_, _, hfilled⟩ | ⟨it₁, hfilled, hdeliver⟩⟩
    · exact hit
    · exact hfill hfilled
    · have hclient := hfill hfilled
      rw [deliver_same hdeliver]
      exact hclient
  stop hit := hit

theorem agree (h : S.Agree c.retry T R) :
    (batches S).Agree (batches T) (fun it => it.client = c) R :=
  .of_concur rfl rfl rfl (keeps_client S c) nextBatch_concur h

end BandSearch

namespace TokenSearch

variable {it : TokenSearch}

theorem nextPage_concur (h : S.Agree it.client.retry T R) (hst : R s t) (writes : WriteLog) :
    Concur (Concur R) (it.nextPage S writes s) (it.nextPage T writes t) := by
  rw [nextPage, nextPage]
  cases it.request writes it.plan.batchSize it.parameters with
  | error e => exact ⟨rfl, rfl, hst⟩
  | ok r =>
      obtain ⟨outcome, s', t', hs, ht, hst', hreported⟩ := Client.sendSearch_concur h hst r
      simp only [hs, ht]
      cases outcome with
      | error e => exact ⟨rfl, rfl, hst'⟩
      | ok reply =>
          dsimp only
          rw [Timestamp.orClock_of_ne_zero (hreported reply rfl),
            Timestamp.orClock_of_ne_zero (hreported reply rfl)]
          exact ⟨rfl, rfl, hst'⟩

theorem probe_concur (h : S.Agree it.client.retry T R) (hst : R s t) (writes : WriteLog) :
    Concur R (it.probe S writes s) (it.probe T writes t) := by
  rw [probe, probe]
  cases it.request writes 1 (it.parameters.insert Parameter.tokenBatchSize "1") with
  | error e => exact ⟨rfl, hst⟩
  | ok r =>
      obtain ⟨outcome, s', t', hs, ht, hst', _⟩ := Client.sendSearch_concur h hst r
      simp only [hs, ht]
      cases outcome <;> exact ⟨rfl, hst'⟩

/-- All pages for a batch are alike, by induction on their number. -/
theorem fill_concur (h : S.Agree it.client.retry T R) (hst : R s t) (writes : WriteLog)
    (wanted left : Nat) :
    Concur (Concur R) (it.fill S writes wanted left s) (it.fill T writes wanted left t) := by
  induction left generalizing it s t with
  | zero => exact ⟨rfl, rfl, hst⟩
  | succ left ih =>
      rw [fill, fill]
      split
      · exact ⟨rfl, rfl, hst⟩
      obtain ⟨outcome, it', s', t', hs, ht, hst'⟩ := (nextPage_concur h hst writes).exists_eq₂
      rw [hs, ht]
      cases outcome with
      | error e => exact ⟨rfl, rfl, hst'⟩
      | ok page =>
          dsimp only
          split
          · exact ⟨rfl, rfl, hst'⟩
          · rw [← (nextPage_frame hs).1.client] at h
            exact ih h hst'

theorem nextBatch_concur (h : S.Agree it.client.retry T R) (hst : R s t) (writes : WriteLog) :
    Concur (Concur R) (it.nextBatch S writes s) (it.nextBatch T writes t) := by
  rw [nextBatch, nextBatch]
  dsimp only
  split
  · exact ⟨rfl, rfl, hst⟩
  · obtain ⟨outcome, it', s', t', hs, ht, hst'⟩ :=
      (fill_concur h hst writes it.wanted it.wanted).exists_eq₂
    rw [wanted] at hs ht
    rw [hs, ht]
    cases outcome <;> exact ⟨rfl, rfl, hst'⟩

theorem client_of_start {plan : SearchIteration} {s' : σ}
    (h : start S writes c plan s = (.ok it, s')) : it.client = c := by
  rw [start_eq h]
  rfl

theorem keeps_client (service : Service σ) (c : Client) :
    (batches service).Keeps fun it => it.client = c where
  nextBatch := by
    intro writes it s outcome it' s' hit h
    have hfill : ∀ {outcome it₁ s₁}, it.fill service writes it.wanted it.wanted s =
        (outcome, it₁, s₁) → it₁.client = c := by
      refine fill_induct (fun _ it _ => it.client = c) ?_ hit
      intro it₁ s₁ found it₂ s₂ hit₁ hpage
      have hclient := (nextPage_frame hpage).1.client.trans hit₁
      refine ⟨fun _ _ => hclient, fun _ _ => ?_⟩
      split <;> exact hclient
    rcases nextBatch_cases h with ⟨_, rfl, _⟩ | ⟨_, ⟨_, _, hfilled⟩ | ⟨it₁, hfilled, hdeliver⟩⟩
    · exact hit
    · exact hfill hfilled
    · have hclient := hfill hfilled
      rw [deliver_same hdeliver]
      exact hclient
  stop hit := hit

theorem agree (h : S.Agree c.retry T R) :
    (batches S).Agree (batches T) (fun it => it.client = c) R :=
  .of_concur rfl rfl rfl (keeps_client S c) nextBatch_concur h

end TokenSearch

namespace SearchCursor

variable {it : SearchCursor}

def client : SearchCursor → Client
  | bands it => it.client
  | tokens it => it.client

theorem client_of_start {plan : SearchIteration} {s' : σ}
    (h : start S writes c plan s = (.ok it, s')) : it.client = c := by
  rw [start] at h
  split at h
  · rename_i it₁ s₁ htokens
    cases h
    rw [TokenSearch.start_eq htokens]
    rfl
  split at h
  · rcases hbands : BandSearch.start S writes c plan _ with ⟨_ | it₁, s₁⟩
    · rw [hbands] at h
      cases h
    · rw [hbands] at h
      cases h
      exact BandSearch.client_of_start hbands
  · cases h

theorem nextBatch_concur (h : S.Agree it.client.retry T R) (hst : R s t) (writes : WriteLog) :
    Concur (Concur R) (it.nextBatch S writes s) (it.nextBatch T writes t) := by
  cases it with
  | bands it =>
      obtain ⟨outcome, it', s', t', hs, ht, hst'⟩ :=
        (BandSearch.nextBatch_concur h hst writes).exists_eq₂
      simp only [nextBatch, hs, ht]
      exact ⟨rfl, rfl, hst'⟩
  | tokens it =>
      obtain ⟨outcome, it', s', t', hs, ht, hst'⟩ :=
        (TokenSearch.nextBatch_concur h hst writes).exists_eq₂
      simp only [nextBatch, hs, ht]
      exact ⟨rfl, rfl, hst'⟩

theorem keeps_client (service : Service σ) (c : Client) :
    (batches service).Keeps fun it => it.client = c where
  nextBatch := by
    intro writes it s outcome it' s' hit h
    cases it with
    | bands it =>
        cases h
        exact (BandSearch.keeps_client service c).nextBatch hit rfl
    | tokens it =>
        cases h
        exact (TokenSearch.keeps_client service c).nextBatch hit rfl
  stop := by
    intro it hit
    cases it <;> exact hit

theorem agree (h : S.Agree c.retry T R) :
    (batches S).Agree (batches T) (fun it => it.client = c) R :=
  .of_concur rfl rfl rfl (keeps_client S c) nextBatch_concur h

end SearchCursor

end VectorClient
