import VectorClient.Proofs.Client
import VectorClient.Proofs.Iteration.Accounts
import VectorClient.Proofs.PageCache.Columns

/-!
# Conservation of hits

A search iteration hands out the hits that the server has sent, all of them once and in
the order in which they came. Every hit that was received and not delivered is in the
cache: the rows of the delivered batches and behind them those of the cache are the rows
of the pages that were received.

`SearchIteration.received` reads these pages off the searches that were answered. The law
is proved for whole records first, by a view under which pages can be cut and joined, and
then read column by column.
-/

namespace VectorClient

namespace SearchIteration

/-- The page of the only target in an answer, unless it is empty. -/
def page? (plan : SearchIteration) (exchange : Exchange) : Option HitPage :=
  match exchange.reply.hits.pages plan.primaryKey.name plan.search.options.outputFields with
  | .ok (page :: _) => if page.isEmpty then none else some page
  | _ => none

/-- The pages received, in the order of their arrival. -/
def received (plan : SearchIteration) (exchanges : List Exchange) : List HitPage :=
  exchanges.filterMap plan.page?

theorem received_append (plan : SearchIteration) (earlier later : List Exchange) :
    plan.received (earlier ++ later) = plan.received earlier ++ plan.received later :=
  List.filterMap_append

end SearchIteration

/-- As long as no call fails, the delivered rows and those in the cache are the received
ones, column by column. -/
def BatchIterator.Conserves {ι σ : Type} (I : BatchIterator ι HitPage (σ × List Exchange))
    (cache : ι → List HitPage) (plan : SearchIteration) (it : ι) (s : σ × List Exchange) : Prop :=
  ∀ calls outcomes it' s', I.run calls it s = (outcomes, it', s') →
    (∀ e, .failed e ∉ outcomes) → Uniform (plan.received s'.2) →
    ∀ name, (Outcome.batches outcomes ++ cache it').flatMap (HitPage.columnRows name) =
      (plan.received s'.2).flatMap (HitPage.columnRows name)

theorem Outcome.batches_cons {β : Type} {outcome : Outcome β} (h : ∀ e, outcome ≠ .failed e)
    (rest : List (Outcome β)) : batches (outcome :: rest) = batches [outcome] ++ batches rest := by
  cases outcome with
  | batch b => rfl
  | failed e => exact absurd rfl (h e)
  | _ => rfl

namespace BatchIterator

variable {ι σ : Type} {I : BatchIterator ι HitPage (σ × List Exchange)}
variable {cache : ι → List HitPage} {plan : SearchIteration} {Follows : ι → Prop}

/-- A call that succeeds puts the pages it has received behind the cache and takes its batch
from the front. -/
structure TakesFrom (I : BatchIterator ι HitPage (σ × List Exchange)) (cache : ι → List HitPage)
    (plan : SearchIteration) (Follows : ι → Prop) : Prop where
  rowCount : I.rowCount = HitPage.rowCount
  nextBatch : ∀ {writes it s b it' s'}, Follows it → I.nextBatch writes it s = (.ok b, it', s') →
    Follows it' ∧ ∃ new wanted template, s'.2 = s.2 ++ new ∧
      PageCache.take (cache it ++ plan.received new) wanted template = (.ok b, cache it')

section View

variable {ρ : Type} {V : PageView ρ} {batches : List HitPage} {it it' : ι}
variable {s s' : σ × List Exchange} {writes : WriteLog} {call : Call} {outcome : Outcome HitPage}
variable {calls : List (Call × WriteLog)} {outcomes : List (Outcome HitPage)}

/-- The rows delivered and those in the cache are the rows received. -/
def Balanced (V : PageView ρ) (cache : ι → List HitPage) (plan : SearchIteration)
    (batches : List HitPage) (it : ι) (s : σ × List Exchange) : Prop :=
  ∃ xs ys, PageCache.Holds V batches xs ∧ PageCache.Holds V (cache it) ys ∧
    PageCache.Holds V (plan.received s.2) (xs ++ ys)

theorem Balanced.concat {new : List Exchange} {b template : HitPage} {wanted : Nat}
    (h : Balanced V cache plan batches it s) (hs : s'.2 = s.2 ++ new)
    (hshown : ∀ page ∈ plan.received new, ∃ rows, V.Shows page rows)
    (htake : PageCache.take (cache it ++ plan.received new) wanted template = (.ok b, cache it')) :
    Balanced V cache plan (batches ++ [b]) it' s' := by
  obtain ⟨xs, ys, hxs, hys, hreceived⟩ := h
  obtain ⟨zs, hzs⟩ := PageCache.exists_holds hshown
  obtain ⟨htaken, hleft⟩ := PageCache.take_ok (hys.append_pages hzs) htake
  refine ⟨_, _, hxs.append htaken, hleft, ?_⟩
  rw [hs, plan.received_append, List.append_assoc, List.take_append_drop, ← List.append_assoc]
  exact hreceived.append_pages hzs

/-- A batch without rows adds nothing. -/
theorem Balanced.of_concat {b : HitPage} (h : Balanced V cache plan (batches ++ [b]) it s)
    (hzero : b.rowCount = 0) : Balanced V cache plan batches it s := by
  obtain ⟨xs, ys, hxs, hys, hreceived⟩ := h
  exact ⟨xs, ys, hxs.of_concat hzero, hys, hreceived⟩

theorem TakesFrom.perform (takes : I.TakesFrom cache plan Follows) (hit : Follows it)
    (h : I.perform call writes it s = (outcome, it', s')) (hok : ∀ e, outcome ≠ .failed e) :
    Follows it' ∧ ∃ new, s'.2 = s.2 ++ new ∧
      ∀ {ρ : Type} {V : PageView ρ} {batches : List HitPage},
        (∀ page ∈ plan.received new, ∃ rows, V.Shows page rows) →
        Balanced V cache plan batches it s →
        Balanced V cache plan (batches ++ Outcome.batches [outcome]) it' s' := by
  rcases I.perform_cases h with ⟨_, rfl, rfl, rfl⟩ | ⟨e, _, _, rfl, _⟩ | ⟨b, hbatch, hshown⟩
  · refine ⟨hit, [], (List.append_nil _).symm, ?_⟩
    intro _ _ batches _ hbalanced
    simpa [Outcome.batches] using hbalanced
  · exact absurd rfl (hok e)
  · obtain ⟨hit', new, wanted, template, hs, htake⟩ := takes.nextBatch hit hbatch
    refine ⟨hit', new, hs, ?_⟩
    intro _ _ batches hnew hbalanced
    have hconcat := hbalanced.concat hs hnew htake
    rcases hshown with rfl | ⟨rfl, hzero⟩
    · exact hconcat
    · rw [takes.rowCount] at hzero
      simpa [Outcome.batches] using hconcat.of_concat hzero

/-- What a run without errors has received and how it is balanced, by induction on its calls. -/
theorem TakesFrom.run (takes : I.TakesFrom cache plan Follows) (hit : Follows it)
    (h : I.run calls it s = (outcomes, it', s')) (hok : ∀ e, .failed e ∉ outcomes) :
    ∃ new, s'.2 = s.2 ++ new ∧
      ∀ {ρ : Type} {V : PageView ρ} {batches : List HitPage},
        (∀ page ∈ plan.received new, ∃ rows, V.Shows page rows) →
        Balanced V cache plan batches it s →
        Balanced V cache plan (batches ++ Outcome.batches outcomes) it' s' := by
  induction calls generalizing it s outcomes with
  | nil =>
    cases h
    refine ⟨[], (List.append_nil _).symm, ?_⟩
    intro _ _ batches _ hbalanced
    simpa [Outcome.batches] using hbalanced
  | cons call calls ih =>
    obtain ⟨call, writes⟩ := call
    rcases hperform : I.perform call writes it s with ⟨outcome, it₁, s₁⟩
    rcases hrun : I.run calls it₁ s₁ with ⟨later, it₂, s₂⟩
    rw [I.run_cons hperform, hrun] at h
    cases h
    have hfirst : ∀ e, outcome ≠ .failed e := fun e heq => hok e (heq ▸ List.mem_cons_self ..)
    have hlater : ∀ e, .failed e ∉ later := fun e hmem => hok e (List.mem_cons_of_mem _ hmem)
    obtain ⟨hit₁, new₁, hs₁, hbalanced₁⟩ := takes.perform hit hperform hfirst
    obtain ⟨new₂, hs₂, hbalanced₂⟩ := ih hit₁ hrun hlater
    refine ⟨new₁ ++ new₂, by rw [hs₂, hs₁, List.append_assoc], ?_⟩
    intro ρ V batches hshown hbalanced
    rw [plan.received_append, List.forall_mem_append] at hshown
    rw [Outcome.batches_cons hfirst, ← List.append_assoc]
    exact hbalanced₂ hshown.2 (hbalanced₁ hshown.1 hbalanced)

theorem TakesFrom.conserves (takes : I.TakesFrom cache plan Follows) (hit : Follows it)
    (hcache : cache it = plan.received s.2) : I.Conserves cache plan it s := by
  intro calls outcomes it' s' h hok ⟨schema, hs, hconforms⟩ name
  obtain ⟨new, hnew, hbalanced⟩ := takes.run hit h hok
  have hshown : ∀ page ∈ plan.received s'.2, ∃ rows, (PageView.records hs).Shows page rows := by
    intro page hpage
    obtain ⟨n, hpage⟩ := hconforms page hpage
    exact ⟨_, .records hpage⟩
  rw [hnew, plan.received_append, List.forall_mem_append] at hshown
  obtain ⟨rows, hrows⟩ := PageCache.exists_holds hshown.1
  have hbegun : Balanced (PageView.records hs) cache plan [] it s :=
    ⟨[], rows, .nil, hcache ▸ hrows, hrows⟩
  obtain ⟨xs, ys, hxs, hys, hreceived⟩ := hbalanced hshown.2 hbegun
  rw [List.flatMap_append, hreceived.flatMap_columnRows, List.filterMap_append]
  exact congrArg₂ _ hxs.flatMap_columnRows hys.flatMap_columnRows

end View

end BatchIterator

section Searches

variable {σ : Type} {service : Service σ} {writes : WriteLog} {s s' : σ × List Exchange}
variable {page : HitPage} {pages : List HitPage} {plan : SearchIteration} {e : Exchange}

theorem SearchIteration.received_singleton
    (h : e.reply.hits.pages plan.primaryKey.name plan.search.options.outputFields =
      .ok (page :: pages)) :
    plan.received [e] = if page.isEmpty then [] else [page] := by
  cases hempty : page.isEmpty <;> simp [received, page?, h, hempty]

namespace BandSearch

variable {it it' : BandSearch}

theorem firstPage_received (h : it.firstPage e.reply.hits = .ok page) :
    it.plan.received [e] = if page.isEmpty then [] else [page] := by
  obtain ⟨rest, hpages⟩ := pages_of_firstPage h
  exact SearchIteration.received_singleton hpages

theorem searchBand_received {band : Option Ieee.Binary64 × Option Ieee.Binary64}
    {filter : String} {rate : Nat}
    (h : it.searchBand service.answered writes band filter rate s = (.ok page, it', s')) :
    it'.plan = it.plan ∧ it'.cache = it.cache ∧ ∃ e, s'.2 = s.2 ++ [e] ∧
      it.plan.received [e] = if page.isEmpty then [] else [page] := by
  obtain ⟨⟨ts, rfl⟩, _⟩ := searchBand_frame h
  refine ⟨rfl, rfl, ?_⟩
  rcases searchBand_cases h with ⟨_, he, _⟩ | ⟨r, _, ⟨_, _, he, _⟩ | ⟨reply, hcall, hpage, _⟩⟩
  · cases he
  · cases he
  rcases Client.sendSearch_answered hcall with ⟨_, hreply, hanswer⟩ | ⟨_, herror, _⟩
  · cases hreply
    exact ⟨⟨r, reply⟩, hanswer, firstPage_received (e := ⟨r, reply⟩) hpage.symm⟩
  · cases herror

theorem receive_cache (h : it.receive page = (.ok (), it')) :
    it'.cache = it.cache ++ [page] := by
  obtain ⟨it₁, hupdate, ⟨⟨_, he⟩, _⟩ | ⟨_, _, _, _, rfl⟩⟩ := receive_cases h
  · cases he
  · obtain ⟨tied, rfl⟩ := updateTied_frame hupdate
    rfl

theorem probe_received {factor : Ieee.Binary64}
    (h : it.probe service.answered writes factor s = (.ok (), it', s')) :
    it'.plan = it.plan ∧ ∃ e, s'.2 = s.2 ++ [e] ∧
      it'.cache = it.cache ++ it.plan.received [e] := by
  obtain ⟨_, it₁, hsearch, ⟨_, _, he, _⟩ | ⟨page, rfl, hpage⟩⟩ := probe_cases h
  · cases he
  obtain ⟨hplan, hcache, e, hs, hreceived⟩ := searchBand_received hsearch
  rcases hpage with ⟨hempty, _, rfl⟩ | ⟨hnonempty, hreceive⟩
  · refine ⟨hplan, e, hs, ?_⟩
    rw [hcache, hreceived, if_pos hempty, List.append_nil]
  · refine ⟨(receive_frame hreceive).1.plan.trans hplan, e, hs, ?_⟩
    rw [receive_cache hreceive, hcache, hreceived, if_neg (ne_true_of_eq_false hnonempty)]

theorem fill_received {wanted left : Nat}
    (h : it.fill service.answered writes wanted left s = (.ok (), it', s')) :
    it'.plan = it.plan ∧ ∃ new, s'.2 = s.2 ++ new ∧
      it'.cache = it.cache ++ it.plan.received new := by
  refine fill_induct (fun outcome it' s' => outcome = .ok () → it'.plan = it.plan ∧
    ∃ new, s'.2 = s.2 ++ new ∧ it'.cache = it.cache ++ it.plan.received new) ?_ ?_ h rfl
  · rintro factor it₁ s₁ outcome it₂ s₂ hbefore hprobe rfl
    obtain ⟨hplan₁, new, hs₁, hcache₁⟩ := hbefore rfl
    obtain ⟨hplan, e, hs, hcache⟩ := probe_received hprobe
    refine ⟨hplan.trans hplan₁, new ++ [e], by rw [hs, hs₁, List.append_assoc], ?_⟩
    rw [hcache, hcache₁, hplan₁, SearchIteration.received_append, List.append_assoc]
  · exact fun _ => ⟨rfl, [], by simp, by simp [SearchIteration.received]⟩

theorem deliver_take {wanted : Nat} (h : it.deliver wanted = (.ok page, it')) :
    it'.plan = it.plan ∧
      PageCache.take it.cache wanted it.template = (.ok page, it'.cache) := by
  obtain ⟨_, htake, hplan, ⟨⟨_, he⟩, _⟩ | ⟨_, rfl, hpage, _⟩⟩ := deliver_cases h
  · cases he
  · cases hpage
    exact ⟨hplan, htake⟩

theorem takesFrom (service : Service σ) (plan : SearchIteration) :
    (batches service.answered).TakesFrom cache plan fun it => it.plan = plan where
  rowCount := rfl
  nextBatch := by
    intro writes it s b it' s' hit h
    rcases nextBatch_cases h with ⟨hb, rfl, rfl⟩ | ⟨_, ⟨_, he, _⟩ | ⟨it₁, hfill, hdeliver⟩⟩
    · -- nothing is asked for, and nothing taken
      refine ⟨hit, [], 0, it.template, (List.append_nil _).symm, ?_⟩
      cases hb
      simp [SearchIteration.received, PageCache.take_zero]
    · cases he
    · obtain ⟨hplan₁, new, hs, hcache⟩ := fill_received hfill
      obtain ⟨hplan, htake⟩ := deliver_take hdeliver
      rw [hcache, hit] at htake
      exact ⟨hplan.trans (hplan₁.trans hit), new, _, _, hs, htake⟩

theorem begin_received (h : it.begin page = .ok it') :
    it'.plan = it.plan ∧ it'.cache = it.cache ++ if page.isEmpty then [] else [page] := by
  have hnonempty : ¬page.isEmpty = true := by
    intro hempty
    rw [begin, if_pos hempty] at h
    cases h
  obtain ⟨_, _, _, _, _, rfl⟩ := begin_cases h
  exact ⟨rfl, by rw [if_neg hnonempty]⟩

theorem start_received {client : Client} {s : σ} {s' : σ × List Exchange}
    (h : start service.answered writes client plan (s, []) = (.ok it, s')) :
    it.plan = plan ∧ it.cache = plan.received s'.2 := by
  rcases start_cases h with ⟨_, he, _⟩ |
    ⟨metric, found, it₁, _, _, hsearch, ⟨_, he⟩ | ⟨page, it₂, rfl, hbegin, hit⟩⟩
  · cases he
  · cases he
  cases hit
  obtain ⟨hplan₁, hcache₁, e, hs, hreceived⟩ := searchBand_received hsearch
  obtain ⟨hplan, hcache⟩ := begin_received hbegin
  refine ⟨hplan.trans hplan₁, ?_⟩
  rw [hcache, hcache₁, hs]
  exact hreceived.symm

end BandSearch

namespace TokenSearch

variable {it it' : TokenSearch}

theorem receive_received (h : it.receive e.reply.hits = (.ok page, it')) :
    it.plan.received [e] = if page.isEmpty then [] else [page] := by
  rcases receive_cases h with ⟨_, he, _⟩ | ⟨_, _, hpage, _⟩
  · cases he
  · exact SearchIteration.received_singleton (onlyPage_ok hpage)

theorem nextPage_received (h : it.nextPage service.answered writes s = (.ok page, it', s')) :
    it'.plan = it.plan ∧ it'.cache = it.cache ∧ ∃ e, s'.2 = s.2 ++ [e] ∧
      it.plan.received [e] = if page.isEmpty then [] else [page] := by
  obtain ⟨hsame, hcache, _⟩ := nextPage_frame h
  refine ⟨hsame.plan, hcache, ?_⟩
  rcases nextPage_cases h with ⟨_, he, _⟩ | ⟨r, _, ⟨_, _, he, _⟩ | ⟨reply, hcall, hreceive⟩⟩
  · cases he
  · cases he
  rcases Client.sendSearch_answered hcall with ⟨_, hreply, hanswer⟩ | ⟨_, herror, _⟩
  · cases hreply
    have hreceived := receive_received (e := ⟨r, reply⟩) hreceive
    exact ⟨⟨r, reply⟩, hanswer, hreceived⟩
  · cases herror

theorem fill_received {wanted left : Nat}
    (h : it.fill service.answered writes wanted left s = (.ok (), it', s')) :
    it'.plan = it.plan ∧ ∃ new, s'.2 = s.2 ++ new ∧
      it'.cache = it.cache ++ it.plan.received new := by
  refine fill_induct (fun outcome it' s' => outcome = .ok () → it'.plan = it.plan ∧
    ∃ new, s'.2 = s.2 ++ new ∧ it'.cache = it.cache ++ it.plan.received new) ?_ ?_ h rfl
  · intro it₁ s₁ found it₂ s₂ hbefore hnext
    refine ⟨nofun, ?_⟩
    rintro page rfl
    obtain ⟨hplan₁, new, hs₁, hcache₁⟩ := hbefore rfl
    obtain ⟨hplan, hcache, e, hs, hreceived⟩ := nextPage_received hnext
    have hlog : s₂.2 = s.2 ++ (new ++ [e]) := by rw [hs, hs₁, List.append_assoc]
    rw [hplan₁] at hreceived
    split
    · rename_i hempty
      refine fun _ => ⟨hplan.trans hplan₁, _, hlog, ?_⟩
      rw [hcache, hcache₁, SearchIteration.received_append, hreceived, if_pos hempty,
        List.append_nil]
    · rename_i hsome
      refine fun _ => ⟨hplan.trans hplan₁, _, hlog, ?_⟩
      change it₂.cache ++ [page] = _
      rw [hcache, hcache₁, SearchIteration.received_append, hreceived, if_neg hsome,
        List.append_assoc]
  · exact fun _ => ⟨rfl, [], by simp, by simp [SearchIteration.received]⟩

theorem deliver_take {wanted : Nat} (h : it.deliver wanted = (.ok page, it')) :
    it'.plan = it.plan ∧
      PageCache.take it.cache wanted it.template = (.ok page, it'.cache) := by
  obtain ⟨_, htake, hplan, ⟨⟨_, he⟩, _⟩ | ⟨_, rfl, hpage, _⟩⟩ := deliver_cases h
  · cases he
  · cases hpage
    exact ⟨hplan, htake⟩

theorem takesFrom (service : Service σ) (plan : SearchIteration) :
    (batches service.answered).TakesFrom cache plan fun it => it.plan = plan where
  rowCount := rfl
  nextBatch := by
    intro writes it s b it' s' hit h
    rcases nextBatch_cases h with ⟨hb, rfl, rfl⟩ | ⟨_, ⟨_, he, _⟩ | ⟨it₁, hfill, hdeliver⟩⟩
    · refine ⟨hit, [], 0, it.template, (List.append_nil _).symm, ?_⟩
      cases hb
      simp [SearchIteration.received, PageCache.take_zero]
    · cases he
    · obtain ⟨hplan₁, new, hs, hcache⟩ := fill_received hfill
      obtain ⟨hplan, htake⟩ := deliver_take hdeliver
      rw [hcache, hit] at htake
      exact ⟨hplan.trans (hplan₁.trans hit), new, _, _, hs, htake⟩

end TokenSearch

/-- Hits are conserved by both kinds of search iterations, under all services, whatever the
pages, batches and limits are. A band search has received its first page when it starts; the
hit of the first search of a token search does not belong to the iteration. -/
theorem conserves_of_start (service : Service σ) (writes : WriteLog) (client : Client)
    (plan : SearchIteration) (s : σ) :
    (∀ it s', BandSearch.start service.answered writes client plan (s, []) = (.ok it, s') →
      (BandSearch.batches service.answered).Conserves BandSearch.cache plan it s') ∧
    (∀ it s', TokenSearch.start service writes client plan s = (.ok it, s') →
      (TokenSearch.batches service.answered).Conserves TokenSearch.cache plan it (s', [])) := by
  refine ⟨?_, ?_⟩
  · intro it s' h
    obtain ⟨hplan, hcache⟩ := BandSearch.start_received h
    exact (BandSearch.takesFrom service plan).conserves hplan hcache
  · intro it s' h
    cases TokenSearch.start_eq h
    exact (TokenSearch.takesFrom service plan).conserves rfl rfl

end Searches

namespace Sample

def threeHitKinds : List (String × RowKind) :=
  [("id", .scalar .int64), ("score", .scalar .float), ("year", .scalar .int64),
    ("title", .scalar .varChar)]

/-- Whether no call of a run failed, and the pages received are all of these kinds. -/
def smooth {ι σ : Type} (run : List (Outcome HitPage) × ι × σ × List Exchange) : Bool :=
  HitPage.allOf threeHitKinds (search.received run.2.2.2) &&
    run.1.all fun outcome => match outcome with
      | .failed _ => false
      | _ => true

theorem of_smooth {ι σ : Type} {run : List (Outcome HitPage) × ι × σ × List Exchange}
    (h : smooth run = true) :
    (∀ e, .failed e ∉ run.1) ∧ Uniform (search.received run.2.2.2) := by
  rw [smooth, Bool.and_eq_true, List.all_eq_true] at h
  refine ⟨fun e he => ?_, .of_allOf (by decide) (by decide) h.1⟩
  cases h.2 _ he

end Sample

/-- In the middle of a run three hits have arrived on two pages, and two are delivered. -/
theorem conserves_of_start_threeHits :
    (∃ it s, BandSearch.start (Script.service 0).answered .empty .standard Sample.search
        (.ofReplies (Sample.threeHitPages.map .search), []) = (.ok it, s) ∧
      ∃ outcomes it' s', (BandSearch.batches (Script.service 0).answered).run
        [(.nextBatch, .empty)] it s = (outcomes, it', s') ∧ (∀ e, .failed e ∉ outcomes) ∧
        Uniform (Sample.search.received s'.2) ∧ ∀ name,
          (Outcome.batches outcomes ++ it'.cache).flatMap (HitPage.columnRows name) =
            (Sample.search.received s'.2).flatMap (HitPage.columnRows name)) ∧
    (∃ it s, TokenSearch.start (Script.service 0) .empty .standard Sample.search
        (.ofReplies (.search Sample.oneHit :: Sample.threeHitPages.map .search)) = (.ok it, s) ∧
      ∃ outcomes it' s', (TokenSearch.batches (Script.service 0).answered).run
        [(.nextBatch, .empty)] it (s, []) = (outcomes, it', s') ∧ (∀ e, .failed e ∉ outcomes) ∧
        Uniform (Sample.search.received s'.2) ∧ ∀ name,
          (Outcome.batches outcomes ++ it'.cache).flatMap (HitPage.columnRows name) =
            (Sample.search.received s'.2).flatMap (HitPage.columnRows name)) := by
  refine ⟨?_, ?_⟩
  · obtain ⟨it, s, hstart, hsmooth⟩ := exists_ok_of_test
      (BandSearch.start (Script.service 0).answered .empty .standard Sample.search
        (.ofReplies (Sample.threeHitPages.map .search), []))
      (fun it s => Sample.smooth ((BandSearch.batches (Script.service 0).answered).run
        [(.nextBatch, .empty)] it s)) (by decide +kernel)
    obtain ⟨hok, huniform⟩ := Sample.of_smooth hsmooth
    exact ⟨it, s, hstart, _, _, _, rfl, hok, huniform,
      (conserves_of_start _ _ _ _ _).1 it s hstart [(.nextBatch, .empty)] _ _ _ rfl hok huniform⟩
  · obtain ⟨it, s, hstart, hsmooth⟩ := exists_ok_of_test
      (TokenSearch.start (Script.service 0) .empty .standard Sample.search
        (.ofReplies (.search Sample.oneHit :: Sample.threeHitPages.map .search)))
      (fun it s => Sample.smooth ((TokenSearch.batches (Script.service 0).answered).run
        [(.nextBatch, .empty)] it (s, []))) (by decide +kernel)
    obtain ⟨hok, huniform⟩ := Sample.of_smooth hsmooth
    exact ⟨it, s, hstart, _, _, _, rfl, hok, huniform,
      (conserves_of_start _ _ _ _ _).2 it s hstart [(.nextBatch, .empty)] _ _ _ rfl hok huniform⟩

end VectorClient
