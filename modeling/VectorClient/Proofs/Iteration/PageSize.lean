import VectorClient.Proofs.Attempts
import VectorClient.Proofs.BandSearch.Probing
import VectorClient.Proofs.Iteration.Accounts
import VectorClient.Proofs.RowCursor.Window

/-!
# Rows that a request asks for

A server gives no more than a page for one request, so no request of an iteration asks for
more, nor for nothing. A search whose index looks at a number of candidates asks for no more
than those. Requests that skip the offset of a query ask for no more than is left of it, as
the answers before them tell.
-/

namespace VectorClient

namespace Request

/-- The request asks for up to `n` rows. -/
def AsksRows (n : Nat) : Request → Prop
  | query r => r.parameters.get? Parameter.limit = some (toString n)
  | search r => r.parameters.get? Parameter.topk = some (toString n)
  | mutate _ | drop _ => False

/-- The request asks for a row at least and for a page at most, within the candidates. -/
def FitsPage (candidates : Option Nat) (r : Request) : Prop :=
  ∃ n, r.AsksRows n ∧ 1 ≤ n ∧ n ≤ maxBatchSize ∧ ∀ ef, candidates = some ef → n ≤ ef

/-- The rows of the query are to be skipped. -/
def Seeks : Request → Prop
  | query r => r.parameters.get? Parameter.iterator = some (Parameter.flag false)
  | search _ | mutate _ | drop _ => False

end Request

/-- Attempts to skip rows while `left` rows are to be skipped. Each asks for no more than that,
and the rows of an answer that were asked for are skipped by it. -/
inductive Skips : (left : Nat) → List Attempt → Prop
  | nil {left : Nat} : Skips left []
  | failed {left n : Nat} {a : Attempt} {rest : List Attempt} :
      a.request.Seeks → a.request.AsksRows n → n ≤ left → a.Failed → Skips left rest →
      Skips left (a :: rest)
  | answered {left n deadline clock : Nat} {r : QueryRequest} {reply : QueryReply}
      {rest : List Attempt} :
      (Request.query r).Seeks → (Request.query r).AsksRows n → n ≤ left →
      Skips (left - min (ResultSet.rowCountOf reply.columns) n) rest →
      Skips left (⟨.query r, deadline, .ok reply, clock⟩ :: rest)

theorem Skips.append_failed {left n : Nat} {r : Request} {failures rest : List Attempt}
    (hseeks : r.Seeks) (hrows : r.AsksRows n) (hle : n ≤ left)
    (hfailures : ∀ a ∈ failures, a.request = r ∧ a.Failed) (hrest : Skips left rest) :
    Skips left (failures ++ rest) := by
  induction failures with
  | nil => exact hrest
  | cons a failures ih =>
      obtain ⟨⟨rfl, hfailed⟩, hfailures⟩ := List.forall_mem_cons.mp hfailures
      exact .failed hseeks hrows hle hfailed (ih hfailures)

theorem QueryReply.rowCount_of_results {reply : QueryReply} {requested : List String}
    {page : ResultSet} (h : reply.results requested = .ok page) :
    page.rowCount = ResultSet.rowCountOf reply.columns := by
  rw [results] at h
  split at h
  · rename_i hcolumns
    cases h
    rw [(ResultSet.level_of_ofColumns hcolumns).1]
    rfl
  · cases h

theorem Dict.get?_insertAll_of_none {α : Type} {d other : Dict α} {k : String}
    (h : other.get? k = none) : (d.insertAll other).get? k = d.get? k :=
  get?_foldl_of_not_mem (not_mem_of_get?_eq_none h) d

theorem SearchArguments.get?_topk (args : SearchArguments) :
    (Dict.ofList args.parameterList).get? Parameter.topk = some (toString args.limit) :=
  Dict.get?_ofList_of_mem args.nodup_parameterList (by simp [parameterList])

namespace Iteration

theorem le_of_checkBatchSize {batchSize : Nat} (h : checkBatchSize batchSize = .ok ()) :
    batchSize ≤ maxBatchSize := by
  rw [checkBatchSize] at h
  split at h
  · cases h
  · omega

end Iteration

variable {σ : Type} {service : Service σ} {writes : WriteLog} {s s' : σ × List Attempt}

namespace RowCursor

variable {it it' : RowCursor}

theorem fitsPage_request {limit : Nat} (hpos : 1 ≤ limit) (hle : limit ≤ maxBatchSize)
    (it : RowCursor) (writes : WriteLog) (iterating : Bool) :
    (Request.query (it.request writes limit iterating)).FitsPage none :=
  ⟨limit, it.get?_limit writes limit iterating, hpos, hle, nofun⟩

theorem not_seeks_request (it : RowCursor) (writes : WriteLog) (limit : Nat) :
    ¬ (Request.query (it.request writes limit true)).Seeks := by
  intro hseeks
  rw [Request.Seeks, it.get?_iterator] at hseeks
  exact absurd hseeks (by decide)

theorem seeks_seekRequest (it : RowCursor) (writes : WriteLog) (limit : Nat) :
    (Request.query (it.seekRequest writes limit)).Seeks :=
  it.get?_iterator writes limit false

theorem asksRows_seekRequest (it : RowCursor) (writes : WriteLog) (limit : Nat) :
    (Request.query (it.seekRequest writes limit)).AsksRows limit :=
  it.get?_limit writes limit false

/-- A single request to skip rows, before the attempts that follow it. -/
theorem sendSeek_skips {left limit : Nat} {outcome : Except ClientError QueryReply}
    (hpos : 1 ≤ limit) (hpage : limit ≤ maxBatchSize) (hleft : limit ≤ left)
    (h : it.client.sendQuery service.traced (it.seekRequest writes limit) s = (outcome, s')) :
    ∃ seeks, s'.2 = s.2 ++ seeks ∧ (∀ a ∈ seeks, a.request.FitsPage none) ∧
      ∀ rest, (∀ reply, outcome = .ok reply →
        Skips (left - min (ResultSet.rowCountOf reply.columns) limit) rest) →
      (∀ e, outcome = .error e → rest = []) → Skips left (seeks ++ rest) := by
  have hseeks := it.seeks_seekRequest writes limit
  have hrows := it.asksRows_seekRequest writes limit
  have hfits : (Request.query (it.seekRequest writes limit)).FitsPage none :=
    ⟨limit, hrows, hpos, hpage, nofun⟩
  obtain ⟨failures, hfailures, hends⟩ := Client.sendQuery_traced h
  have hfailed : ∀ a ∈ failures, a.request.FitsPage none := by
    intro a ha
    rw [(hfailures a ha).1]
    exact hfits
  rcases hends with ⟨e, rfl, hs'⟩ | ⟨reply, rfl, hs'⟩
  · refine ⟨failures, hs', hfailed, fun rest _ hrest => ?_⟩
    rw [hrest e rfl]
    exact .append_failed hseeks hrows hleft hfailures .nil
  · refine ⟨_, hs'.trans (List.append_assoc ..),
      List.forall_mem_append.mpr ⟨hfailed, List.forall_mem_singleton.mpr hfits⟩, ?_⟩
    intro rest hrest _
    rw [List.append_assoc]
    exact .append_failed hseeks hrows hleft hfailures
      (.answered hseeks hrows hleft (hrest reply rfl))

/-- What skipping rows adds to the attempts, by induction on the rows left. -/
theorem seek_skips {left : Nat} {outcome : Except ClientError RowCursor}
    (h : seek service.traced writes left it s = (outcome, s')) :
    ∃ seeks, s'.2 = s.2 ++ seeks ∧ Skips left seeks ∧ ∀ a ∈ seeks, a.request.FitsPage none := by
  have hmax : 0 < maxBatchSize := by decide
  fun_induction seek service.traced writes left it s with
  | case1 =>
      cases h
      exact ⟨[], (List.append_nil _).symm, .nil, List.forall_mem_nil _⟩
  | case2 left it _ hleft _ _ hsend | case3 left it _ hleft _ _ hsend
  | case4 left it _ hleft _ _ hsend | case5 left it _ hleft _ _ hsend =>
      cases h
      obtain ⟨seeks, hs', hfits, hskips⟩ := sendSeek_skips (by omega) (by omega)
        (Nat.min_le_left left maxBatchSize) hsend
      have hlast := hskips [] (fun _ _ => .nil) (fun _ _ => rfl)
      rw [List.append_nil] at hlast
      exact ⟨seeks, hs', hlast, hfits⟩
  | case6 left it _ hleft reply _ hsend page hpage _ _ _ ih =>
      obtain ⟨seeks, hs', hfits, hskips⟩ := sendSeek_skips (by omega) (by omega)
        (Nat.min_le_left left maxBatchSize) hsend
      obtain ⟨more, hs'', hskipped, hfits'⟩ := ih h
      rw [QueryReply.rowCount_of_results hpage] at hskipped
      refine ⟨seeks ++ more, by rw [hs'', hs', List.append_assoc], ?_,
        List.forall_mem_append.mpr ⟨hfits, hfits'⟩⟩
      refine hskips more ?_ ?_
      · rintro _ ⟨⟩
        exact hskipped
      · rintro _ ⟨⟩

/-- Everything sent for the batches asks for a page of rows, none of them to be skipped. -/
structure Sized (batchSize : Nat) (it : RowCursor) (s : σ × List Attempt) : Prop where
  batchSize_eq : it.plan.batchSize = batchSize
  sent : ∀ a ∈ s.2, a.request.FitsPage none ∧ ¬ a.request.Seeks

theorem nextRows_sized {batchSize : Nat} {outcome : Except ClientError ResultSet}
    (hpos : 1 ≤ batchSize) (hle : batchSize ≤ maxBatchSize) (hit : Sized batchSize it s)
    (h : it.nextRows service.traced writes s = (outcome, it', s')) : Sized batchSize it' s' := by
  obtain ⟨rfl, hsent⟩ := hit
  have hplan := (gathers_nextRows h).plan
  refine ⟨by rw [hplan], ?_⟩
  rcases nextRows_cases h with ⟨_, rfl⟩ | ⟨_, _, hsend, _⟩
  · exact hsent
  · exact (Client.sendQuery_traced hsend).forall_request
      (P := fun r => r.FitsPage none ∧ ¬ r.Seeks)
      ⟨fitsPage_request hpos hle it writes true, it.not_seeks_request writes _⟩ hsent

theorem advances_sized {batchSize : Nat} (hpos : 1 ≤ batchSize) (hle : batchSize ≤ maxBatchSize)
    (service : Service σ) :
    (batches service.traced).Advances (Sized batchSize) fun _ _ _ => True where
  nextBatch := by
    intro writes it s outcome it' s' hit h
    refine ⟨?_, trivial⟩
    rcases nextBatch_cases h with ⟨_, rfl, rfl⟩ | ⟨_, _, hnext⟩ | ⟨_, batch, it₁, hnext, hdeliver⟩
    · exact ⟨hit.batchSize_eq, hit.sent⟩
    · exact nextRows_sized hpos hle hit hnext
    · obtain ⟨hsize, hsent⟩ := nextRows_sized hpos hle hit hnext
      cases outcome with
      | error e =>
          rw [deliver_error hdeliver]
          exact ⟨hsize, hsent⟩
      | ok output =>
          rw [(deliver_ok hdeliver).2]
          exact ⟨hsize, hsent⟩
  stop hit := ⟨hit.batchSize_eq, hit.sent⟩
  rest _ _ := trivial

/-- What is sent to begin an iteration: the first query, and behind it what skips the offset. -/
theorem start_sized {client : Client} {plan : QueryIteration} {state : σ}
    {outcome : Except ClientError RowCursor}
    (h : start service.traced writes client plan (state, []) = (outcome, s')) :
    (∀ a ∈ s'.2, a.request.FitsPage none) ∧
      ∃ front seeks, s'.2 = front ++ seeks ∧ (∀ a ∈ front, ¬ a.request.Seeks) ∧
        Skips plan.query.offset seeks := by
  have hfirst : ∀ {seen s₁}, client.sendQuery service.traced
      ((ofPlan client plan).request writes 1 true) (state, []) = (seen, s₁) →
      ∀ a ∈ s₁.2, a.request.FitsPage none ∧ ¬ a.request.Seeks := by
    intro seen s₁ hsend
    have hcalled := Client.sendQuery_traced hsend
    exact hcalled.forall_request
      (P := fun r => r.FitsPage none ∧ ¬ r.Seeks)
      ⟨fitsPage_request (Nat.le_refl 1) (by decide) _ _ _, not_seeks_request _ _ _⟩
      (List.forall_mem_nil _)
  rcases start_cases h with ⟨_, _, rfl⟩ | ⟨_, ⟨_, _, rfl⟩ | ⟨_, hsend, _⟩ |
    ⟨reply, s₁, skipped, hsend, hseek, _⟩⟩
  · exact ⟨List.forall_mem_nil _, [], [], rfl, List.forall_mem_nil _, .nil⟩
  · exact ⟨List.forall_mem_nil _, [], [], rfl, List.forall_mem_nil _, .nil⟩
  · exact ⟨fun a ha => (hfirst hsend a ha).1, s'.2, [], (List.append_nil _).symm,
      fun a ha => (hfirst hsend a ha).2, .nil⟩
  · obtain ⟨seeks, hs', hskips, hfits⟩ := seek_skips hseek
    refine ⟨?_, s₁.2, seeks, hs', fun a ha => (hfirst hsend a ha).2, hskips⟩
    rw [hs']
    exact List.forall_mem_append.mpr ⟨fun a ha => (hfirst hsend a ha).1, hfits⟩

end RowCursor

/-- The sizes of a plan: a batch is a row at least and a page at most, within the candidates. -/
structure SearchIteration.Sized (plan : SearchIteration) : Prop where
  pos : 1 ≤ plan.batchSize
  le : plan.batchSize ≤ maxBatchSize
  le_candidates : ∀ ef, plan.search.ef? = some ef → plan.batchSize ≤ ef

theorem SearchIteration.sized_of_validate {plan : SearchIteration}
    (h : plan.validate = .ok ()) : plan.Sized := by
  have hpos := batchSize_pos h
  obtain ⟨_, _, hchecked⟩ := exists_ok_of_bind h
  obtain ⟨_, hsize, hchecked⟩ := exists_ok_of_bind hchecked
  obtain ⟨_, _, hchecked⟩ := exists_ok_of_bind hchecked
  obtain ⟨_, _, hcandidates⟩ := exists_ok_of_bind hchecked
  refine ⟨hpos, Iteration.le_of_checkBatchSize hsize, fun ef hef => ?_⟩
  rw [checkCandidates, hef] at hcandidates
  dsimp only at hcandidates
  split at hcandidates
  · cases hcandidates
  · omega

namespace BandSearch

variable {it it' : BandSearch} {plan : SearchIteration}

/-- Everything sent so far asks for a page of rows, within the candidates of the plan. -/
structure Sized (plan : SearchIteration) (it : BandSearch) (s : σ × List Attempt) : Prop where
  plan_eq : it.plan = plan
  sent : ∀ a ∈ s.2, a.request.FitsPage plan.search.ef?

theorem fitsPage_request {band : Option Ieee.Binary64 × Option Ieee.Binary64} {filter : String}
    {rate : Nat} {r : SearchRequest} (hplan : it.plan.Sized) (hrate : 1 ≤ rate)
    (h : it.request writes band filter rate = .ok r) :
    (Request.search r).FitsPage it.plan.search.ef? := by
  have hmax : 1 ≤ maxBatchSize := by decide
  have hrows : 1 ≤ it.plan.batchSize * rate := Nat.mul_pos hplan.pos hrate
  refine ⟨it.probeLimit rate, ?_, ?_⟩
  · obtain ⟨_, _, _, rfl, rfl⟩ := eq_of_request h
    exact (get?_bound it.plan (by decide) (by decide)).trans (SearchArguments.get?_topk _)
  · rw [probeLimit]
    cases hef : it.plan.search.ef? with
    | none =>
        dsimp only
        refine ⟨by omega, by omega, ?_⟩
        rintro _ ⟨⟩
    | some ef =>
        have hcandidates := hplan.le_candidates ef hef
        have hpos := hplan.pos
        dsimp only
        refine ⟨by omega, by omega, ?_⟩
        rintro _ ⟨⟩
        omega

theorem searchBand_sized {band : Option Ieee.Binary64 × Option Ieee.Binary64} {filter : String}
    {rate : Nat} {outcome : Except ClientError HitPage} (hplan : plan.Sized) (hrate : 1 ≤ rate)
    (hit : Sized plan it s)
    (h : it.searchBand service.traced writes band filter rate s = (outcome, it', s')) :
    Sized plan it' s' := by
  obtain ⟨rfl, hsent⟩ := hit
  rcases searchBand_cases h with ⟨_, _, rfl, rfl⟩ | ⟨r, hr, hends⟩
  · exact ⟨rfl, hsent⟩
  have hfits := fitsPage_request hplan hrate hr
  rcases hends with ⟨_, hsend, _, rfl⟩ | ⟨_, hsend, _, rfl⟩
  · exact ⟨rfl, (Client.sendSearch_traced hsend).forall_request hfits hsent⟩
  · exact ⟨rfl, (Client.sendSearch_traced hsend).forall_request hfits hsent⟩

theorem fill_sized {wanted left : Nat} {outcome : Except ClientError Unit} (hplan : plan.Sized)
    (hit : Sized plan it s)
    (h : it.fill service.traced writes wanted left s = (outcome, it', s')) : Sized plan it' s' := by
  refine fill_induct (fun _ it₁ s₁ => Sized plan it₁ s₁) ?_ hit h
  intro factor it₁ s₁ outcome it₂ s₂ hit₁ hprobe
  obtain ⟨found, it₃, hsearch, hprobed⟩ := probe_cases hprobe
  have hit₃ := searchBand_sized hplan (by decide) hit₁ hsearch
  rcases hprobed with ⟨_, _, _, rfl⟩ | ⟨page, _, ⟨_, _, rfl⟩ | ⟨_, hreceive⟩⟩
  · exact hit₃
  · exact hit₃
  · exact ⟨(receive_frame hreceive).1.plan.trans hit₃.plan_eq, hit₃.sent⟩

theorem advances_sized (hplan : plan.Sized) (service : Service σ) :
    (batches service.traced).Advances (Sized plan) fun _ _ _ => True where
  nextBatch := by
    intro writes it s outcome it' s' hit h
    refine ⟨?_, trivial⟩
    rcases nextBatch_cases h with ⟨_, rfl, rfl⟩ | ⟨_, ⟨_, _, hfill⟩ | ⟨it₁, hfill, hdeliver⟩⟩
    · exact ⟨hit.plan_eq, hit.sent⟩
    · exact fill_sized hplan hit hfill
    · obtain ⟨hplan₁, hsent⟩ := fill_sized hplan hit hfill
      rw [deliver_same hdeliver]
      exact ⟨hplan₁, hsent⟩
  stop hit := ⟨hit.plan_eq, hit.sent⟩
  rest _ _ := trivial

theorem start_sized {client : Client} {state : σ} {outcome : Except ClientError BandSearch}
    (h : start service.traced writes client plan (state, []) = (outcome, s')) :
    (∀ a ∈ s'.2, a.request.FitsPage plan.search.ef?) ∧
      ∀ it, outcome = .ok it → plan.Sized ∧ it.plan = plan := by
  rcases start_cases h with ⟨_, rfl, rfl⟩ | ⟨metric, found, it₁, hvalid, _, hsearch, hbegun⟩
  · refine ⟨List.forall_mem_nil _, ?_⟩
    rintro it ⟨⟩
  · have hplan := SearchIteration.sized_of_validate hvalid
    have hnew : Sized plan (ofPlan client plan metric) (state, []) :=
      ⟨rfl, List.forall_mem_nil _⟩
    refine ⟨(searchBand_sized hplan (Nat.le_refl 1) hnew hsearch).sent, ?_⟩
    rintro it rfl
    exact ⟨hplan, (start_frame h).1⟩

end BandSearch

namespace TokenSearch

variable {it it' : TokenSearch} {plan : SearchIteration}

/-- Everything sent so far asks for a page of rows, within the candidates of the plan, and what
the iteration adds to a search leaves the number of rows alone. -/
structure Sized (plan : SearchIteration) (it : TokenSearch) (s : σ × List Attempt) : Prop where
  plan_eq : it.plan = plan
  topk : it.parameters.get? Parameter.topk = none
  sent : ∀ a ∈ s.2, a.request.FitsPage plan.search.ef?

theorem fitsPage_request {rows : Nat} {parameters : Dict String} {r : SearchRequest}
    (htopk : parameters.get? Parameter.topk = none) (hplan : it.plan.Sized) (hpos : 1 ≤ rows)
    (hle : rows ≤ it.plan.batchSize) (h : it.request writes rows parameters = .ok r) :
    (Request.search r).FitsPage it.plan.search.ef? := by
  refine ⟨rows, ?_, hpos, Nat.le_trans hle hplan.le,
    fun ef hef => Nat.le_trans hle (hplan.le_candidates ef hef)⟩
  obtain ⟨_, _, _, rfl, rfl⟩ := eq_of_request h
  exact (Dict.get?_insertAll_of_none htopk).trans (SearchArguments.get?_topk _)

theorem get?_topk_initialParameters (plan : SearchIteration) :
    (initialParameters plan).get? Parameter.topk = none := by
  refine Dict.get?_ofList_of_not_mem ?_
  rw [SearchIteration.collectionIdParameters]
  split <;> simp [Parameter.topk, Parameter.iterator, Parameter.tokenSearch,
    Parameter.tokenBatchSize, Parameter.collectionId]

theorem get?_topk_receive {hits : SearchHits} {outcome : Except ClientError HitPage}
    (h : it.receive hits = (outcome, it')) (hit : it.parameters.get? Parameter.topk = none) :
    it'.parameters.get? Parameter.topk = none := by
  have hbound : Parameter.topk ≠ Parameter.tokenLastBound := by decide
  have htoken : Parameter.topk ≠ Parameter.token := by decide
  rcases receive_cases h with ⟨_, _, rfl⟩ | ⟨c, _, _, rfl⟩
  · exact hit
  · rw [advance]
    dsimp only
    split
    · rw [Dict.get?_insert, if_neg htoken, Dict.get?_insert, if_neg hbound, hit]
    · rw [Dict.get?_insert, if_neg hbound, hit]

theorem nextPage_sized {outcome : Except ClientError HitPage} (hplan : plan.Sized)
    (hit : Sized plan it s) (h : it.nextPage service.traced writes s = (outcome, it', s')) :
    Sized plan it' s' := by
  obtain ⟨rfl, htopk, hsent⟩ := hit
  rcases nextPage_cases h with ⟨_, _, rfl, rfl⟩ | ⟨r, hr, hends⟩
  · exact ⟨rfl, htopk, hsent⟩
  have hfits := fitsPage_request htopk hplan hplan.pos (Nat.le_refl _) hr
  rcases hends with ⟨_, hsend, _, rfl⟩ | ⟨_, hsend, hreceive⟩
  · exact ⟨rfl, htopk, (Client.sendSearch_traced hsend).forall_request hfits hsent⟩
  · exact ⟨(receive_frame hreceive).1.plan, get?_topk_receive hreceive htopk,
      (Client.sendSearch_traced hsend).forall_request hfits hsent⟩

theorem advances_sized (hplan : plan.Sized) (service : Service σ) :
    (batches service.traced).Advances (Sized plan) fun _ _ _ => True where
  nextBatch := by
    intro writes it s outcome it' s' hit h
    refine ⟨?_, trivial⟩
    have hfill : ∀ {wanted left outcome it₁ s₁}, it.fill service.traced writes wanted left s =
        (outcome, it₁, s₁) → Sized plan it₁ s₁ := by
      intro wanted left outcome it₁ s₁
      refine fill_induct (fun _ it s => Sized plan it s) ?_ hit
      intro it₁ s₁ found it₂ s₂ hit₁ hpage
      obtain ⟨hplan₂, htopk, hsent⟩ := nextPage_sized hplan hit₁ hpage
      refine ⟨fun _ _ => ⟨hplan₂, htopk, hsent⟩, fun _ _ => ?_⟩
      split <;> exact ⟨hplan₂, htopk, hsent⟩
    rcases nextBatch_cases h with ⟨_, rfl, rfl⟩ | ⟨_, ⟨_, _, hfilled⟩ | ⟨it₁, hfilled, hdeliver⟩⟩
    · exact ⟨hit.plan_eq, hit.topk, hit.sent⟩
    · exact hfill hfilled
    · obtain ⟨hplan₁, htopk, hsent⟩ := hfill hfilled
      rw [deliver_same hdeliver]
      exact ⟨hplan₁, htopk, hsent⟩
  stop hit := ⟨hit.plan_eq, hit.topk, hit.sent⟩
  rest _ _ := trivial

theorem start_sized {client : Client} {state : σ} {outcome : Except ClientError TokenSearch}
    (h : start service.traced writes client plan (state, []) = (outcome, s')) :
    (∀ a ∈ s'.2, a.request.FitsPage plan.search.ef?) ∧
      ∀ it, outcome = .ok it → plan.Sized ∧ it = ofPlan client plan := by
  rcases start_cases h with ⟨_, rfl, rfl⟩ | ⟨hvalid, seen, hprobe, hends⟩
  · refine ⟨List.forall_mem_nil _, ?_⟩
    rintro it ⟨⟩
  have hplan := SearchIteration.sized_of_validate hvalid
  refine ⟨?_, ?_⟩
  · rcases probe_cases hprobe with rfl | ⟨r, _, hr, hsend⟩
    · exact List.forall_mem_nil _
    · have htopk : ((initialParameters plan).insert Parameter.tokenBatchSize "1").get?
          Parameter.topk = none := by
        rw [Dict.get?_insert, if_neg (by decide), get?_topk_initialParameters]
      exact (Client.sendSearch_traced hsend).forall_request
        (fitsPage_request htopk hplan (Nat.le_refl 1) hplan.pos hr) (List.forall_mem_nil _)
  · rintro it rfl
    exact ⟨hplan, start_eq h⟩

end TokenSearch

namespace Sample

def offsetQuery : QueryIteration := { query with query := { query.query with offset := 3 } }

def twoRows : QueryReply := { oneRow with columns := [.scalars .int64 "id" [1, 2]] }

/-- An offset of three rows is skipped in two steps, the second one after a failure. -/
def skipping : Script :=
  .ofReplies [.query oneRow, .query twoRows, .fail (.transport .unavailable "restart"),
    .query oneRow]

def candidateSearch : SearchIteration :=
  { search with search := { search.search with extra := .ofList [("ef", .int 3)] } }

end Sample

/-- No request of an iteration asks for more than a page, or for nothing, whatever was agreed on
and whatever the service answers. Requests that skip rows belong to the beginning of a query
and ask for no more than is left to skip. -/
theorem pageSizes_of_start {σ : Type} (service : Service σ) (writes : WriteLog) (client : Client)
    (s : σ) :
    (∀ plan outcome s', RowCursor.start service.traced writes client plan (s, []) =
        (outcome, s') →
      (∀ a ∈ s'.2, a.request.FitsPage none) ∧
      (∃ front seeks, s'.2 = front ++ seeks ∧ (∀ a ∈ front, ¬ a.request.Seeks) ∧
        Skips plan.query.offset seeks) ∧
      ∀ it calls, outcome = .ok it →
        ∀ a ∈ ((RowCursor.batches service.traced).run calls it (s'.1, [])).2.2.2,
          a.request.FitsPage none ∧ ¬ a.request.Seeks) ∧
    (∀ plan outcome s', BandSearch.start service.traced writes client plan (s, []) =
        (outcome, s') →
      (∀ a ∈ s'.2, a.request.FitsPage plan.search.ef?) ∧
      ∀ it calls, outcome = .ok it →
        ∀ a ∈ ((BandSearch.batches service.traced).run calls it (s'.1, [])).2.2.2,
          a.request.FitsPage plan.search.ef?) ∧
    (∀ plan outcome s', TokenSearch.start service.traced writes client plan (s, []) =
        (outcome, s') →
      (∀ a ∈ s'.2, a.request.FitsPage plan.search.ef?) ∧
      ∀ it calls, outcome = .ok it →
        ∀ a ∈ ((TokenSearch.batches service.traced).run calls it (s'.1, [])).2.2.2,
          a.request.FitsPage plan.search.ef?) := by
  refine ⟨?_, ?_, ?_⟩
  · intro plan outcome s' h
    obtain ⟨hfits, hskips⟩ := RowCursor.start_sized h
    refine ⟨hfits, hskips, ?_⟩
    rintro it calls rfl
    have hvalid := RowCursor.validate_of_start h
    obtain ⟨_, _, hchecked⟩ := exists_ok_of_bind hvalid
    obtain ⟨_, hsize, _⟩ := exists_ok_of_bind hchecked
    exact ((RowCursor.advances_sized (QueryIteration.batchSize_pos hvalid)
      (Iteration.le_of_checkBatchSize hsize) service).run
      ⟨by rw [(RowCursor.start_frame h).1], List.forall_mem_nil _⟩ calls).sent
  · intro plan outcome s' h
    obtain ⟨hfits, hok⟩ := BandSearch.start_sized h
    refine ⟨hfits, fun it calls hit => ?_⟩
    obtain ⟨hsized, hplan⟩ := hok it hit
    exact ((BandSearch.advances_sized hsized service).run ⟨hplan, List.forall_mem_nil _⟩ calls).sent
  · intro plan outcome s' h
    obtain ⟨hfits, hok⟩ := TokenSearch.start_sized h
    refine ⟨hfits, fun it calls hit => ?_⟩
    obtain ⟨hsized, rfl⟩ := hok it hit
    exact ((TokenSearch.advances_sized hsized service).run
      ⟨rfl, TokenSearch.get?_topk_initialParameters plan, List.forall_mem_nil _⟩ calls).sent

theorem pageSizes_of_start_scripted :
    (∃ it s', RowCursor.start (Script.service 0).traced .empty .standard Sample.offsetQuery
        (Sample.skipping, []) = (.ok it, s') ∧ s'.2.length = 4 ∧
      (∃ front seeks, s'.2 = front ++ seeks ∧ (∀ a ∈ front, ¬ a.request.Seeks) ∧
        Skips 3 seeks) ∧
      ∀ calls, ∀ a ∈ ((RowCursor.batches (Script.service 0).traced).run calls it (s'.1, [])).2.2.2,
        a.request.FitsPage none ∧ ¬ a.request.Seeks) ∧
    (∃ it s', BandSearch.start (Script.service 0).traced .empty .standard Sample.candidateSearch
        (.ofReplies [.search Sample.oneHit], []) = (.ok it, s') ∧
      (∀ a ∈ s'.2, a.request.FitsPage (some 3)) ∧
      ∀ calls, ∀ a ∈ ((BandSearch.batches (Script.service 0).traced).run calls it (s'.1, [])).2.2.2,
        a.request.FitsPage (some 3)) ∧
    (∃ it s', TokenSearch.start (Script.service 0).traced .empty .standard Sample.candidateSearch
        (.ofReplies [.search Sample.oneHit], []) = (.ok it, s') ∧
      (∀ a ∈ s'.2, a.request.FitsPage (some 3)) ∧
      ∀ calls, ∀ a ∈
          ((TokenSearch.batches (Script.service 0).traced).run calls it (s'.1, [])).2.2.2,
        a.request.FitsPage (some 3)) := by
  refine ⟨?_, ?_, ?_⟩
  · obtain ⟨it, s', h, hlength⟩ := exists_ok_of_test
      (RowCursor.start (Script.service 0).traced .empty .standard Sample.offsetQuery
        (Sample.skipping, []))
      (fun _ s => s.2.length == 4) (by decide +kernel)
    obtain ⟨_, hskips, hrun⟩ := (pageSizes_of_start (Script.service 0) _ _ _).1 _ _ _ h
    exact ⟨it, s', h, beq_iff_eq.mp hlength, hskips, fun calls => hrun it calls rfl⟩
  · obtain ⟨it, s', h⟩ : ∃ it s', BandSearch.start (Script.service 0).traced .empty .standard
        Sample.candidateSearch (.ofReplies [.search Sample.oneHit], []) = (.ok it, s') :=
      exists_ok_of_isOk (by decide +kernel)
    obtain ⟨hfits, hrun⟩ := (pageSizes_of_start (Script.service 0) _ _ _).2.1 _ _ _ h
    exact ⟨it, s', h, hfits, fun calls => hrun it calls rfl⟩
  · obtain ⟨it, s', h⟩ : ∃ it s', TokenSearch.start (Script.service 0).traced .empty .standard
        Sample.candidateSearch (.ofReplies [.search Sample.oneHit], []) = (.ok it, s') :=
      exists_ok_of_isOk (by decide +kernel)
    obtain ⟨hfits, hrun⟩ := (pageSizes_of_start (Script.service 0) _ _ _).2.2 _ _ _ h
    exact ⟨it, s', h, hfits, fun calls => hrun it calls rfl⟩

end VectorClient
