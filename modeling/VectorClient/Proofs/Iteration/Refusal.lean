import VectorClient.Proofs.Attempts
import VectorClient.Proofs.Iteration.Accounts
import VectorClient.Proofs.Refusal
import VectorClient.Proofs.TokenSearch.Continued

/-!
# Refused iterations

An iteration is refused when it starts or not at all: the request of every later batch is
made from arguments that the first request has shown to be good, and errors in replies are
not the caller's.

A band search starts by searching, to see whether the bounds of the scores leave anything to
search. If they do not, they are refused after a request was sent; this is the only case.
-/

namespace VectorClient

namespace BatchIterator

variable {ι β τ : Type} {I : BatchIterator ι β τ} {Valid : ι → Prop}

/-- No call of any run blames the caller. -/
def NeverRefuses (I : BatchIterator ι β τ) (it : ι) (t : τ) : Prop :=
  ∀ calls e, .failed e ∈ (I.run calls it t).1 → e.kind ≠ .invalidArgument

/-- If no batch of a valid iteration is refused, then no call of a run is, by induction on the
calls. -/
theorem Keeps.neverRefuses (keeps : I.Keeps Valid)
    (hnext : ∀ {it}, Valid it → ∀ writes t, Blameless (I.nextBatch writes it t).1) {it : ι}
    (hit : Valid it) (t : τ) : I.NeverRefuses it t := by
  intro calls
  induction calls generalizing it t with
  | nil => exact nofun
  | cons call calls ih =>
      obtain ⟨call, writes⟩ := call
      rcases hperform : I.perform call writes it t with ⟨outcome, it₁, t₁⟩
      rw [I.run_cons hperform]
      intro e he
      rcases List.mem_cons.mp he with rfl | hlater
      · rcases I.perform_cases hperform with ⟨_, hover, _⟩ | ⟨_, _, hbatch, hfailed, _⟩ |
          ⟨_, _, hshown | ⟨hover, _⟩⟩
        · cases hover
        · cases hfailed
          exact (hnext hit writes t).of_eq hbatch e rfl
        · cases hshown
        · cases hover
      · exact ih (keeps.perform hit hperform) t₁ e hlater

end BatchIterator

variable {σ : Type} {service : Service σ} {writes : WriteLog} {s s' : σ} {client : Client}
variable {e : ClientError}

namespace RowCursor

variable (it : RowCursor)

theorem blameless_keyAt (page : ResultSet) (row : Nat) : Blameless (it.keyAt page row) := by
  rw [keyAt]
  split
  · exact .ok _
  · simp

variable {it} {it' : RowCursor} {outcome : Except ClientError ResultSet}

theorem blameless_takeCached (h : it.takeCached = (outcome, it')) : Blameless outcome := by
  rcases takeCached_cases h with ⟨e, rfl, _⟩ | ⟨output, _, rfl, _⟩
  · exact .ofReply e
  · exact .ok output

theorem blameless_cutBatch {combined : ResultSet} (h : it.cutBatch combined = (outcome, it')) :
    Blameless outcome := by
  obtain ⟨kept, _, ⟨e, hfailed, rfl, _⟩ | ⟨key, _, ⟨e, _, rfl, _⟩ | ⟨output, _, rfl, _⟩⟩⟩ :=
    cutBatch_cases h
  · exact (it.blameless_keyAt combined _).failed hfailed
  · exact .ofReply e
  · exact .ok output

theorem blameless_receive {reply : QueryReply} (h : it.receive reply = (outcome, it')) :
    Blameless outcome := by
  rcases receive_cases h with ⟨e, hfailed, rfl, _⟩ |
    ⟨page, _, ⟨e, _, rfl, _⟩ | ⟨combined, _, hends⟩⟩
  · exact (reply.blameless_results _).failed hfailed
  · exact .ofReply e
  rcases hends with ⟨_, rfl, _⟩ | ⟨_, ⟨e, hfailed, rfl, _⟩ | ⟨key, _, rfl, _⟩⟩ | ⟨_, hcut⟩
  · exact .ok combined
  · exact (it.blameless_keyAt combined _).failed hfailed
  · exact .ok combined
  · exact blameless_cutBatch hcut

variable (it)

theorem blameless_deliver (batch : ResultSet) : Blameless (it.deliver batch).1 := by
  rw [deliver]
  split
  · exact .ofReply _
  · exact .ok _

theorem blameless_nextRows (service : Service σ) (writes : WriteLog) (s : σ) :
    Blameless (it.nextRows service writes s).1 := by
  rcases h : it.nextRows service writes s with ⟨batch, it', s'⟩
  rcases nextRows_cases h with ⟨htake, _⟩ |
    ⟨_, answer, hsend, ⟨e, rfl, rfl, _⟩ | ⟨reply, _, hreceive⟩⟩
  · exact blameless_takeCached htake
  · exact ((it.client.blameless_sendQuery service _ s).of_eq hsend).failed rfl
  · exact blameless_receive hreceive

theorem blameless_nextBatch (service : Service σ) (writes : WriteLog) (s : σ) :
    Blameless (it.nextBatch service writes s).1 := by
  rcases h : it.nextBatch service writes s with ⟨outcome, it', s'⟩
  rcases nextBatch_cases h with ⟨rfl, _⟩ | ⟨e, rfl, hrows⟩ | ⟨_, batch, it₁, _, hdeliver⟩
  · exact .ok _
  · exact (it.blameless_nextRows service writes s).of_eq hrows
  · exact (it₁.blameless_deliver batch).of_eq hdeliver

theorem blameless_seek (service : Service σ) (writes : WriteLog) (left : Nat) (s : σ) :
    Blameless (seek service writes left it s).1 := by
  fun_induction seek service writes left it s with
  | case1 => exact .ok _
  | case2 left it s _ e _ hsend =>
      exact ((it.client.blameless_sendQuery service _ s).of_eq hsend).failed rfl
  | case3 left it s _ reply _ _ e hread => exact (reply.blameless_results []).failed hread
  | case4 => exact .ok _
  | case5 left it s _ _ _ _ page _ _ e hkey => exact (it.blameless_keyAt page _).failed hkey
  | case6 _ _ _ _ _ _ _ _ _ _ _ _ ih => exact ih

theorem start_refused {plan : QueryIteration}
    (h : start service writes client plan s = (.error e, s')) (he : e.kind = .invalidArgument) :
    s' = s := by
  rw [start] at h
  split at h
  · cases h
    rfl
  dsimp only at h
  split at h
  · cases h
  split at h
  · rename_i hsend
    cases h
    exact absurd he ((client.blameless_sendQuery service _ s).of_eq hsend e rfl)
  split at h
  · rename_i hseek
    cases h
    have hkind := (blameless_seek _ service writes _ _).of_eq hseek _ rfl
    exact absurd he hkind
  · cases h

end RowCursor

theorem SearchArguments.blameless_request {args : SearchArguments} {targets : Column}
    (htargets : args.vectors? = .ok targets) (context : ReadContext) :
    Blameless (args.request context) := by
  rw [request, htargets]
  exact .ok _

namespace TokenSearch

variable {it : TokenSearch} {targets : Column}

theorem blameless_continuation (hits : SearchHits) : Blameless (continuation hits) := by
  rw [continuation]
  split
  · simp
  split
  · simp
  · exact .ok _

theorem blameless_onlyPage (it : TokenSearch) (hits : SearchHits) :
    Blameless (it.onlyPage hits) := by
  rw [onlyPage]
  split
  · rename_i hpages
    exact (hits.blameless_pages _ _).failed hpages
  · exact .ok _
  · simp

theorem blameless_receive (it : TokenSearch) (hits : SearchHits) :
    Blameless (it.receive hits).1 := by
  rw [receive]
  split
  · rename_i hcontinuation
    exact (blameless_continuation hits).failed hcontinuation
  · exact it.blameless_onlyPage hits

/-- The search of the plan has targets, and the rows of the cache can be counted. -/
structure Accepted (it : TokenSearch) : Prop where
  targets : ∃ targets, it.plan.search.vectors? = .ok targets
  cache : PageCache.Counted it.cache

/-- A search that has targets can be continued under all parameters. -/
theorem blameless_request (htargets : it.plan.search.vectors? = .ok targets) (writes : WriteLog)
    (rows : Nat) (parameters : Dict String) : Blameless (it.request writes rows parameters) := by
  have hlimited :
      ({ it.plan.search with limit := rows } : SearchArguments).vectors? = .ok targets := htargets
  rw [request]
  split
  · rename_i hrequest
    exact (SearchArguments.blameless_request hlimited _).failed hrequest
  · exact .ok _

theorem blameless_nextPage (htargets : it.plan.search.vectors? = .ok targets)
    (service : Service σ) (writes : WriteLog) (s : σ) :
    Blameless (it.nextPage service writes s).1 := by
  rw [nextPage]
  split
  · rename_i hrequest
    exact (blameless_request htargets writes _ _).failed hrequest
  split
  · rename_i hsend
    exact ((it.client.blameless_sendSearch service _ s).of_eq hsend).failed rfl
  · exact blameless_receive _ _

theorem blameless_fill (htargets : it.plan.search.vectors? = .ok targets) (service : Service σ)
    (writes : WriteLog) (wanted left : Nat) (s : σ) :
    Blameless (it.fill service writes wanted left s).1 := by
  rcases h : it.fill service writes wanted left s with ⟨outcome, it', s'⟩
  refine (fill_induct (fun outcome it₁ _ => Blameless outcome ∧
    it₁.plan.search.vectors? = .ok targets) ?_ ⟨.ok (), htargets⟩ h).1
  rintro it₁ s₁ found it₂ s₂ ⟨_, htargets₁⟩ hpage
  have hfound := (blameless_nextPage htargets₁ service writes s₁).of_eq hpage
  rw [← (nextPage_frame hpage).1.plan] at htargets₁
  refine ⟨fun e he => ⟨hfound.failed he, htargets₁⟩, fun page _ => ?_⟩
  split
  · exact ⟨.ok (), htargets₁⟩
  · exact ⟨.ok (), htargets₁⟩

theorem blameless_deliver (it : TokenSearch) (wanted : Nat) : Blameless (it.deliver wanted).1 := by
  have htaken := PageCache.blameless_take it.cache wanted it.template
  rw [deliver]
  rcases htake : PageCache.take it.cache wanted it.template with ⟨_ | page, rest⟩
  · exact (htaken.of_eq htake).failed rfl
  · exact .ok page

theorem Accepted.blameless_nextBatch (hit : it.Accepted) (service : Service σ)
    (writes : WriteLog) (s : σ) : Blameless (it.nextBatch service writes s).1 := by
  obtain ⟨targets, htargets⟩ := hit.targets
  rcases h : it.nextBatch service writes s with ⟨outcome, it', s'⟩
  rcases nextBatch_cases h with ⟨rfl, _⟩ | ⟨_, ⟨e, rfl, hfill⟩ | ⟨it₁, _, hdeliver⟩⟩
  · exact .ok _
  · exact ((blameless_fill htargets service writes _ _ s).of_eq hfill).failed rfl
  · exact (it₁.blameless_deliver _).of_eq hdeliver

theorem start_refused {plan : SearchIteration}
    (h : start service writes client plan s = (.error e, s')) (he : e.kind = .invalidArgument) :
    s' = s := by
  rw [start] at h
  split at h
  · cases h
    rfl
  dsimp only at h
  split at h
  · rename_i hprobe
    cases h
    rw [probe] at hprobe
    split at hprobe
    · cases hprobe
      rfl
    split at hprobe
    · rename_i hsend
      cases hprobe
      have hkind := (Client.blameless_sendSearch _ service _ s).of_eq hsend _ rfl
      exact absurd he hkind
    · rename_i reply s₁ _
      have hkind := (blameless_continuation reply.hits).map (fun _ => ()) _ (Prod.mk.inj hprobe).1
      exact absurd he hkind
  · cases h

theorem keeps_accepted (service : Service σ) : (batches service).Keeps Accepted where
  nextBatch hit h := by
    obtain ⟨hplan, hcache⟩ := nextBatch_frame hit.cache h
    exact ⟨hplan ▸ hit.targets, hcache⟩
  stop hit := ⟨hit.targets, hit.cache⟩

theorem accepted_of_start {plan : SearchIteration}
    (h : start service writes client plan s = (.ok it, s')) : it.Accepted := by
  obtain ⟨_, htargets⟩ := start_ok h
  obtain rfl := start_eq h
  exact ⟨htargets, [], .nil⟩

end TokenSearch

namespace BandSearch

variable {it it' : BandSearch} {targets : Column}

theorem blameless_pageScores (page : HitPage) : Blameless (pageScores page) := by
  rw [pageScores]
  split
  · exact .ok _
  · simp [missingColumn]

theorem blameless_pageKeys (page : HitPage) : Blameless (pageKeys page) := by
  rw [pageKeys]
  split
  · exact .ok _
  · simp [missingColumn]

theorem blameless_tailScore (page : HitPage) : Blameless (tailScore page) := by
  rw [tailScore]
  split
  · exact .ok _
  · simp [missingColumn]

theorem blameless_pageWidth (page : HitPage) : Blameless (pageWidth page) :=
  (blameless_pageScores page).map spread

/-- Too many hits with one score are not supported, which is not the caller's fault either. -/
theorem blameless_updateTied (it : BandSearch) (page : HitPage) :
    Blameless (it.updateTied page).1 := by
  rw [updateTied]
  split
  · rename_i last scores keys _ _ _
    dsimp only
    generalize (if scoresEqual last it.tail = true then _ else _) = tied
    split
    · simp [tooManyTied]
    · exact .ok _
  · rename_i htail
    exact (blameless_tailScore page).failed htail
  · rename_i hscores _
    exact (blameless_pageScores page).failed hscores
  · rename_i hkeys _ _
    exact (blameless_pageKeys page).failed hkeys

theorem blameless_receive (it : BandSearch) (page : HitPage) :
    Blameless (it.receive page).1 := by
  rcases h : it.receive page with ⟨outcome, it'⟩
  obtain ⟨it₁, hupdate, _⟩ := receive_cases h
  exact (it.blameless_updateTied page).of_eq hupdate

theorem blameless_firstPage (it : BandSearch) (hits : SearchHits) :
    Blameless (it.firstPage hits) := by
  rw [firstPage]
  split
  · rename_i hpages
    exact (hits.blameless_pages _ _).failed hpages
  · simp
  · exact .ok _

/-- The search of the plan has targets, and the rows of the cache can be counted. -/
structure Accepted (it : BandSearch) : Prop where
  targets : ∃ targets, it.plan.search.vectors? = .ok targets
  cache : PageCache.Counted it.cache

/-- A search that has targets can be narrowed to every band. -/
theorem blameless_request (htargets : it.plan.search.vectors? = .ok targets) (writes : WriteLog)
    (band : Option Ieee.Binary64 × Option Ieee.Binary64) (filter : String) (rate : Nat) :
    Blameless (it.request writes band filter rate) := by
  have hnarrowed : (it.narrowed band rate).vectors? = .ok targets := htargets
  rw [request]
  dsimp only
  split
  · rename_i hrequest
    exact (SearchArguments.blameless_request hnarrowed _).failed hrequest
  · exact .ok _

theorem blameless_searchBand (htargets : it.plan.search.vectors? = .ok targets)
    (service : Service σ) (writes : WriteLog)
    (band : Option Ieee.Binary64 × Option Ieee.Binary64) (filter : String) (rate : Nat) (s : σ) :
    Blameless (it.searchBand service writes band filter rate s).1 := by
  rw [searchBand]
  split
  · rename_i hrequest
    exact (blameless_request htargets writes _ _ _).failed hrequest
  split
  · rename_i hsend
    exact ((it.client.blameless_sendSearch service _ s).of_eq hsend).failed rfl
  · exact blameless_firstPage _ _

theorem blameless_probe (htargets : it.plan.search.vectors? = .ok targets) (service : Service σ)
    (writes : WriteLog) (factor : Ieee.Binary64) (s : σ) :
    Blameless (it.probe service writes factor s).1 := by
  rcases h : it.probe service writes factor s with ⟨outcome, it', s'⟩
  obtain ⟨found, it₁, hsearch, hprobed⟩ := probe_cases h
  rcases hprobed with ⟨e, rfl, rfl, _⟩ | ⟨page, _, ⟨_, rfl, _⟩ | ⟨_, hreceive⟩⟩
  · exact ((blameless_searchBand htargets service writes _ _ _ s).of_eq hsearch).failed rfl
  · exact .ok _
  · exact (it₁.blameless_receive page).of_eq hreceive

theorem blameless_fill (htargets : it.plan.search.vectors? = .ok targets)
    (hcache : PageCache.Counted it.cache) (service : Service σ) (writes : WriteLog)
    (wanted left : Nat) (s : σ) : Blameless (it.fill service writes wanted left s).1 := by
  rcases h : it.fill service writes wanted left s with ⟨outcome, it', s'⟩
  refine (fill_induct (fun outcome it₁ _ => Blameless outcome ∧
    it₁.plan.search.vectors? = .ok targets ∧ PageCache.Counted it₁.cache) ?_
    ⟨.ok (), htargets, hcache⟩ h).1
  rintro factor it₁ s₁ outcome it₂ s₂ ⟨_, htargets₁, hcache₁⟩ hprobe
  obtain ⟨hsame, hcache₂⟩ := probe_frame hcache₁ hprobe
  refine ⟨(blameless_probe htargets₁ service writes factor s₁).of_eq hprobe, ?_, hcache₂⟩
  rw [hsame.plan]
  exact htargets₁

theorem blameless_deliver (it : BandSearch) (wanted : Nat) : Blameless (it.deliver wanted).1 := by
  have htaken := PageCache.blameless_take it.cache wanted it.template
  rw [deliver]
  rcases htake : PageCache.take it.cache wanted it.template with ⟨_ | page, rest⟩
  · exact (htaken.of_eq htake).failed rfl
  dsimp only
  split
  · rename_i hwidth
    split at hwidth
    · exact (blameless_pageWidth page).failed hwidth
    · cases hwidth
  · exact .ok page

theorem Accepted.blameless_nextBatch (hit : it.Accepted) (service : Service σ)
    (writes : WriteLog) (s : σ) : Blameless (it.nextBatch service writes s).1 := by
  obtain ⟨targets, htargets⟩ := hit.targets
  rcases h : it.nextBatch service writes s with ⟨outcome, it', s'⟩
  rcases nextBatch_cases h with ⟨rfl, _⟩ | ⟨_, ⟨e, rfl, hfill⟩ | ⟨it₁, _, hdeliver⟩⟩
  · exact .ok _
  · exact ((blameless_fill htargets hit.cache service writes _ _ s).of_eq hfill).failed rfl
  · exact (it₁.blameless_deliver _).of_eq hdeliver

/-- Of the ways in which the first page cannot be begun with, one alone is the caller's fault. -/
theorem isEmpty_of_begin {page : HitPage} (h : it.begin page = .error e)
    (he : e.kind = .invalidArgument) : page.isEmpty = true := by
  rw [begin] at h
  split at h
  · assumption
  exfalso
  split at h
  · rename_i hwidth
    cases h
    exact blameless_pageWidth page e hwidth he
  · rename_i htail _
    cases h
    exact blameless_tailScore page e htail he
  split at h
  · rename_i hupdate
    cases h
    exact (blameless_updateTied _ page).of_eq hupdate e rfl he
  · cases h

/-- A search that is refused has sent nothing, or it has sent a single request whose reply has
an empty page in front. -/
theorem start_refused {plan : SearchIteration}
    (h : start service writes client plan s = (.error e, s')) (he : e.kind = .invalidArgument) :
    s' = s ∨ ∃ r reply page rest, client.sendSearch service r s = (.ok reply, s') ∧
      reply.hits.pages plan.primaryKey.name plan.search.options.outputFields =
        .ok (page :: rest) ∧ page.rowCount = 0 := by
  rw [start] at h
  split at h
  · cases h
    exact .inl rfl
  · cases h
    exact .inl rfl
  rename_i metric _ _
  dsimp only at h
  rcases hsearch : (ofPlan client plan metric).searchBand service writes
    (plan.search.radius, plan.search.rangeFilter) plan.search.options.filter 1 s with
    ⟨found, it₁, s₁⟩
  rw [hsearch] at h
  dsimp only at h
  split at h
  · rename_i failed hbegin
    cases h
    replace he : failed.kind = .invalidArgument := he
    rcases searchBand_cases hsearch with ⟨_, _, _, rfl⟩ |
      ⟨r, _, ⟨e, hsend, rfl, _⟩ | ⟨reply, hsend, hfirst, rfl⟩⟩
    · exact .inl rfl
    · cases hbegin
      exact absurd he ((client.blameless_sendSearch service r s).of_eq hsend failed rfl)
    · cases found with
      | error =>
          cases hbegin
          exact absurd he (blameless_firstPage _ reply.hits failed hfirst.symm)
      | ok page =>
          obtain ⟨rest, hpages⟩ := pages_of_firstPage hfirst.symm
          have hempty := isEmpty_of_begin hbegin he
          exact .inr ⟨r, reply, page, rest, hsend, hpages, beq_iff_eq.mp hempty⟩
  · cases h

theorem keeps_accepted (service : Service σ) : (batches service).Keeps Accepted where
  nextBatch hit h := by
    obtain ⟨hplan, hcache⟩ := nextBatch_frame hit.cache h
    exact ⟨hplan ▸ hit.targets, hcache⟩
  stop hit := ⟨hit.targets, hit.cache⟩

/-- The first search has shown that there are targets. -/
theorem accepted_of_start {plan : SearchIteration}
    (h : start service writes client plan s = (.ok it, s')) : it.Accepted := by
  obtain ⟨hplan, _, _, hcache⟩ := start_frame h
  refine ⟨?_, hcache⟩
  rcases start_cases h with ⟨_, he, _⟩ |
    ⟨metric, found, it₁, _, _, hsearch, ⟨_, he⟩ | ⟨page, it₂, rfl, _, _⟩⟩
  · cases he
  · cases he
  · rcases searchBand_cases hsearch with ⟨_, he, _⟩ | ⟨r, hr, _⟩
    · cases he
    · obtain ⟨targets, _, htargets, _⟩ := eq_of_request hr
      rw [hplan]
      exact ⟨targets, htargets⟩

end BandSearch

namespace SearchCursor

def Accepted : SearchCursor → Prop
  | bands it => it.Accepted
  | tokens it => it.Accepted

theorem Accepted.blameless_nextBatch {it : SearchCursor} (hit : it.Accepted)
    (service : Service σ) (writes : WriteLog) (s : σ) :
    Blameless (it.nextBatch service writes s).1 := by
  cases it with
  | bands it => exact BandSearch.Accepted.blameless_nextBatch hit service writes s
  | tokens it => exact TokenSearch.Accepted.blameless_nextBatch hit service writes s

theorem keeps_accepted (service : Service σ) : (batches service).Keeps Accepted where
  nextBatch := by
    intro writes it s outcome it' s' hit h
    cases it with
    | bands it =>
        cases h
        exact (BandSearch.keeps_accepted service).nextBatch hit rfl
    | tokens it =>
        cases h
        exact (TokenSearch.keeps_accepted service).nextBatch hit rfl
  stop := by
    intro it hit
    cases it with
    | bands it => exact (BandSearch.keeps_accepted service).stop hit
    | tokens it => exact (TokenSearch.keeps_accepted service).stop hit

theorem accepted_of_start {plan : SearchIteration} {it : SearchCursor}
    (h : start service writes client plan s = (.ok it, s')) : it.Accepted := by
  rw [start] at h
  split at h
  · rename_i it₁ s₁ htokens
    cases h
    exact TokenSearch.accepted_of_start htokens
  split at h
  · rcases hbands : BandSearch.start service writes client plan _ with ⟨_ | it₁, s₁⟩
    · rw [hbands] at h
      cases h
    · rw [hbands] at h
      cases h
      exact BandSearch.accepted_of_start hbands
  · cases h

end SearchCursor

/-- Whoever is refused has sent nothing: neither an operation nor the start of an iteration makes
an attempt or touches the log of writes if its arguments are refused, but for a band search,
which has then sent one request and got an empty first page. Once an iteration has started, no
call on it is refused. -/
theorem nothing_sent_of_refused (service : Service σ) (writes : WriteLog) (client : Client)
    (s : σ × List Attempt) :
    (∀ op answer e client' writes' s',
      client.perform service.traced writes op s = (answer, client', writes', s') →
      answer.error? = some e → e.kind = .invalidArgument →
      client' = client ∧ writes' = writes ∧ s' = s) ∧
    (∀ plan e s', RowCursor.start service.traced writes client plan s = (.error e, s') →
      e.kind = .invalidArgument → s' = s) ∧
    (∀ plan e s', TokenSearch.start service.traced writes client plan s = (.error e, s') →
      e.kind = .invalidArgument → s' = s) ∧
    (∀ plan e s', BandSearch.start service.traced writes client plan s = (.error e, s') →
      e.kind = .invalidArgument →
      s' = s ∨ ∃ r reply page rest,
        service.Called (.search r) client.deadline s (.ok reply) s' ∧
        reply.hits.pages plan.primaryKey.name plan.search.options.outputFields =
          .ok (page :: rest) ∧ page.rowCount = 0) ∧
    (∀ plan it s', RowCursor.start service.traced writes client plan s = (.ok it, s') →
      (RowCursor.batches service.traced).NeverRefuses it s') ∧
    (∀ plan it s', TokenSearch.start service.traced writes client plan s = (.ok it, s') →
      (TokenSearch.batches service.traced).NeverRefuses it s') ∧
    (∀ plan it s', BandSearch.start service.traced writes client plan s = (.ok it, s') →
      (BandSearch.batches service.traced).NeverRefuses it s') ∧
    (∀ plan it s', SearchCursor.start service.traced writes client plan s = (.ok it, s') →
      (SearchCursor.batches service.traced).NeverRefuses it s') := by
  refine ⟨?_, ?_, ?_, ?_, ?_, ?_, ?_, ?_⟩
  · intro op answer e client' writes' s' h hanswer he
    exact Client.perform_refused h hanswer he
  · intro plan e s' h he
    exact RowCursor.start_refused h he
  · intro plan e s' h he
    exact TokenSearch.start_refused h he
  · intro plan e s' h he
    rcases BandSearch.start_refused h he with hsame | ⟨r, reply, page, rest, hsend, hempty⟩
    · exact .inl hsame
    · exact .inr ⟨r, reply, page, rest, Client.sendSearch_traced hsend, hempty⟩
  · intro plan it s' h
    have hvalid : (RowCursor.batches service.traced).Keeps fun _ => True :=
      ⟨fun _ _ => trivial, fun _ => trivial⟩
    exact hvalid.neverRefuses (fun _ => RowCursor.blameless_nextBatch _ service.traced) trivial s'
  · intro plan it s' h
    exact (TokenSearch.keeps_accepted service.traced).neverRefuses
      (fun hit => hit.blameless_nextBatch service.traced) (TokenSearch.accepted_of_start h) s'
  · intro plan it s' h
    exact (BandSearch.keeps_accepted service.traced).neverRefuses
      (fun hit => hit.blameless_nextBatch service.traced) (BandSearch.accepted_of_start h) s'
  · intro plan it s' h
    exact (SearchCursor.keeps_accepted service.traced).neverRefuses
      (fun hit => hit.blameless_nextBatch service.traced) (SearchCursor.accepted_of_start h) s'

namespace Sample

def noHit : SearchReply := ⟨⟨1, 1, [0], .ints [], [], [], [], "id", none⟩, 0⟩

/-- Prepared answers to the first searches of both kinds. -/
def twoHits : Script := .ofReplies [.search oneHit, .search oneHit]

end Sample

theorem nothing_sent_of_refused_scripted :
    (∃ answer e client' writes' s',
      Client.standard.perform (Script.service 0).traced .empty (.query (.ofCollection ""))
        (Sample.twoHits, []) = (answer, client', writes', s') ∧
      answer.error? = some e ∧ e.kind = .invalidArgument ∧
      client' = .standard ∧ writes' = .empty ∧ s' = (Sample.twoHits, [])) ∧
    (∃ e s', RowCursor.start (Script.service 0).traced .empty .standard
        { Sample.query with batchSize := 0 } (Sample.twoHits, []) = (.error e, s') ∧
      e.kind = .invalidArgument ∧ s' = (Sample.twoHits, [])) ∧
    (∃ e s', TokenSearch.start (Script.service 0).traced .empty .standard
        { Sample.search with batchSize := 0 } (Sample.twoHits, []) = (.error e, s') ∧
      e.kind = .invalidArgument ∧ s' = (Sample.twoHits, [])) ∧
    (∃ e s', BandSearch.start (Script.service 0).traced .empty .standard Sample.search
        (.ofReplies [.search Sample.noHit], []) = (.error e, s') ∧
      e.kind = .invalidArgument ∧
      (s' = (.ofReplies [.search Sample.noHit], []) ∨ ∃ r reply page rest,
        (Script.service 0).Called (.search r) Client.standard.deadline
          (.ofReplies [.search Sample.noHit], []) (.ok reply) s' ∧
        reply.hits.pages "id" [] = .ok (page :: rest) ∧ page.rowCount = 0)) ∧
    (∃ it s', RowCursor.start (Script.service 0).traced .empty .standard Sample.query
        (.ofReplies [.query Sample.oneRow], []) = (.ok it, s') ∧
      (RowCursor.batches (Script.service 0).traced).NeverRefuses it s') ∧
    (∃ it s', TokenSearch.start (Script.service 0).traced .empty .standard Sample.search
        (Sample.twoHits, []) = (.ok it, s') ∧
      (TokenSearch.batches (Script.service 0).traced).NeverRefuses it s') ∧
    (∃ it s', BandSearch.start (Script.service 0).traced .empty .standard Sample.search
        (Sample.twoHits, []) = (.ok it, s') ∧
      (BandSearch.batches (Script.service 0).traced).NeverRefuses it s') ∧
    (∃ it s', SearchCursor.start (Script.service 0).traced .empty .standard Sample.search
        (Sample.twoHits, []) = (.ok it, s') ∧
      (SearchCursor.batches (Script.service 0).traced).NeverRefuses it s') := by
  refine ⟨?_, ?_, ?_, ?_, ?_, ?_, ?_, ?_⟩
  · have hrefused : Client.standard.perform (Script.service 0).traced .empty
        (.query (.ofCollection "")) (Sample.twoHits, []) =
      (.rows (.error ⟨.invalidArgument, "collection name must not be empty"⟩), .standard, .empty,
        Sample.twoHits, []) := rfl
    exact ⟨_, _, _, _, _, hrefused, rfl, rfl,
      (nothing_sent_of_refused _ _ _ _).1 _ _ _ _ _ _ hrefused rfl rfl⟩
  · obtain ⟨e, s', h, he⟩ := Blameless.exists_of_not (RowCursor.start (Script.service 0).traced
      .empty .standard { Sample.query with batchSize := 0 } (Sample.twoHits, []))
      (by decide +kernel)
    exact ⟨e, s', h, he, (nothing_sent_of_refused _ _ _ _).2.1 _ _ _ h he⟩
  · obtain ⟨e, s', h, he⟩ := Blameless.exists_of_not (TokenSearch.start (Script.service 0).traced
      .empty .standard { Sample.search with batchSize := 0 } (Sample.twoHits, []))
      (by decide +kernel)
    exact ⟨e, s', h, he, (nothing_sent_of_refused _ _ _ _).2.2.1 _ _ _ h he⟩
  · obtain ⟨e, s', h, he⟩ := Blameless.exists_of_not (BandSearch.start (Script.service 0).traced
      .empty .standard Sample.search (.ofReplies [.search Sample.noHit], [])) (by decide +kernel)
    exact ⟨e, s', h, he, (nothing_sent_of_refused _ _ _ _).2.2.2.1 _ _ _ h he⟩
  · obtain ⟨it, s', h⟩ : ∃ it s', RowCursor.start (Script.service 0).traced .empty .standard
        Sample.query (.ofReplies [.query Sample.oneRow], []) = (.ok it, s') :=
      exists_ok_of_isOk (by decide +kernel)
    exact ⟨it, s', h, (nothing_sent_of_refused _ _ _ _).2.2.2.2.1 _ _ _ h⟩
  · obtain ⟨it, s', h⟩ : ∃ it s', TokenSearch.start (Script.service 0).traced .empty .standard
        Sample.search (Sample.twoHits, []) = (.ok it, s') := exists_ok_of_isOk (by decide +kernel)
    exact ⟨it, s', h, (nothing_sent_of_refused _ _ _ _).2.2.2.2.2.1 _ _ _ h⟩
  · obtain ⟨it, s', h⟩ : ∃ it s', BandSearch.start (Script.service 0).traced .empty .standard
        Sample.search (Sample.twoHits, []) = (.ok it, s') := exists_ok_of_isOk (by decide +kernel)
    exact ⟨it, s', h, (nothing_sent_of_refused _ _ _ _).2.2.2.2.2.2.1 _ _ _ h⟩
  · obtain ⟨it, s', h⟩ : ∃ it s', SearchCursor.start (Script.service 0).traced .empty .standard
        Sample.search (Sample.twoHits, []) = (.ok it, s') := exists_ok_of_isOk (by decide +kernel)
    exact ⟨it, s', h, (nothing_sent_of_refused _ _ _ _).2.2.2.2.2.2.2 _ _ _ h⟩

end VectorClient
