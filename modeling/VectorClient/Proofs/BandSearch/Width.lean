import VectorClient.Proofs.BandSearch.Probing
import VectorClient.Proofs.Iteration.Conservation

/-!
# The width of a band search

The width is set by the first page and by every full batch, to the spread of their scores, and
in between it only grows. So it keeps above `minWidth` unless one of these spreads is below it.
`spread` replaces nothing but a spread of zero: scores that are near to each other without being
equal give a width that is smaller than the smallest one. `floored_iff_of_start` shows that there
is no other way, and that as long as the width is not below `minWidth`, the last probe of a batch
searches as far as the smallest width times the number of probes, or up to the caller's radius.

The width is read off for any service. What makes the tail a number is that the scores of the
pages are, so that part is about a service that lists the searches it has answered.
-/

namespace VectorClient

open Ieee

/-- The scores that are read from a page are finite. -/
def HitPage.FiniteScores (page : HitPage) : Prop :=
  ∀ scores, page.scores? = some scores → ∀ score ∈ scores, score.isFinite = true

namespace BandSearch

/-- The width is not below the smallest one. -/
def Floored (it : BandSearch) : Prop := minWidth.lessEq it.width = true

/-- The width that a page sets is below the smallest one. -/
def Narrow (page : HitPage) : Prop :=
  ∃ width, pageWidth page = .ok width ∧ minWidth.lessEq width = false

/-- Two scores differ, by less than the smallest width. -/
def Close (a b : Binary32) : Prop :=
  (Word.ofInt 0).less (a.convert .binary64 - b.convert .binary64).abs = true ∧
    (a.convert .binary64 - b.convert .binary64).abs.less minWidth = true

/-- The score at this distance behind the tail. -/
def behind (it : BandSearch) (distance : Binary64) : Binary64 :=
  if it.metric.smallerIsCloser then it.tail + distance else it.tail - distance

/-- The last probe of a batch reaches as far as it does with the smallest width, unless the
caller's radius comes first. -/
def Reaches (it : BandSearch) : Prop :=
  it.plan.search.radius = some (it.farEnd (Word.ofInt maxProbes)) ∨
    it.metric.atLeastAsClose (it.behind (minWidth * Word.ofInt maxProbes))
      (it.farEnd (Word.ofInt maxProbes)) = true

section Spread

variable {page : HitPage} {scores : List Binary32} {width : Binary64}

theorem minWidth_lessEq_minWidth : minWidth.lessEq minWidth = true := by decide

/-- Only scores that differ have a spread below the smallest width. -/
theorem spread_below_iff (hfinite : ∀ score ∈ scores, score.isFinite = true) :
    minWidth.lessEq (spread scores) = false ↔ ∃ first last, scores.head? = some first ∧
      scores.getLast? = some last ∧ Close first last := by
  have hfloor : minWidth.isNaN = false := by decide
  have hzero : (Word.ofInt 0 : Binary64).isNaN = false := by decide +kernel
  rw [spread]
  split
  · rename_i first last hfirst hlast
    have hnan := Word.isNaN_abs_sub
      (Word.isFinite_convert Metric.wider (hfinite first (List.mem_of_mem_head? hfirst)))
      (Word.isFinite_convert Metric.wider (hfinite last (List.mem_of_getLast? hlast)))
    have hclose : (∃ a b, scores.head? = some a ∧ scores.getLast? = some b ∧ Close a b) ↔
        Close first last := by
      simp [hfirst, hlast]
    rw [hclose, Close, ← Word.lessEq_eq_false_iff hfloor hnan,
      ← Word.lessEq_eq_false_iff hnan hzero]
    dsimp only
    split
    · rename_i hnone
      simp [hnone, minWidth_lessEq_minWidth]
    · rename_i hsome
      simp [hsome]
  · rename_i hnone
    rw [minWidth_lessEq_minWidth]
    refine ⟨nofun, ?_⟩
    rintro ⟨first, last, hfirst, hlast, _⟩
    exact absurd hlast (hnone first last hfirst)

theorem pageWidth_eq (h : page.scores? = some scores) : pageWidth page = .ok (spread scores) := by
  rw [pageWidth, pageScores, h]
  rfl

theorem pageWidth_ok (h : pageWidth page = .ok width) :
    ∃ scores, page.scores? = some scores ∧ width = spread scores := by
  rw [pageWidth] at h
  cases hscores : pageScores page with
  | error e => rw [hscores] at h; cases h
  | ok scores =>
    rw [hscores] at h
    cases h
    exact ⟨scores, pageScores_ok hscores, rfl⟩

theorem narrow_iff (hfinite : page.FiniteScores) :
    Narrow page ↔ ∃ scores first last, page.scores? = some scores ∧
      scores.head? = some first ∧ scores.getLast? = some last ∧ Close first last := by
  constructor
  · rintro ⟨width, hwidth, hbelow⟩
    obtain ⟨scores, hscores, rfl⟩ := pageWidth_ok hwidth
    obtain ⟨first, last, hclose⟩ := (spread_below_iff (hfinite scores hscores)).mp hbelow
    exact ⟨scores, first, last, hscores, hclose⟩
  · rintro ⟨scores, first, last, hscores, hclose⟩
    exact ⟨_, pageWidth_eq hscores,
      (spread_below_iff (hfinite scores hscores)).mpr ⟨first, last, hclose⟩⟩

theorem not_narrow_iff (h : pageWidth page = .ok width) :
    ¬ Narrow page ↔ minWidth.lessEq width = true := by
  constructor
  · intro hwide
    by_contra hbelow
    exact hwide ⟨width, h, eq_false_of_ne_true hbelow⟩
  · rintro hfloor ⟨width', hwidth', hbelow⟩
    cases h.symm.trans hwidth'
    rw [hfloor] at hbelow
    cases hbelow

end Spread

section Reach

variable {it : BandSearch}

theorem farEnd_cases (it : BandSearch) (factor : Binary64) :
    it.plan.search.radius = some (it.farEnd factor) ∨
      it.farEnd factor = it.behind (it.width * factor.maximum one) := by
  rw [farEnd, behind]
  dsimp only
  split
  all_goals
    cases it.plan.search.radius with
    | none => exact .inr rfl
    | some bound =>
      dsimp only
      split
      · exact .inl rfl
      · exact .inr rfl

/-- What is farther behind the tail is no closer. -/
theorem atLeastAsClose_behind {near far : Binary64} (htail : it.tail.isFinite = true)
    (h : near.lessEq far = true) :
    it.metric.atLeastAsClose (it.behind near) (it.behind far) = true := by
  rw [Metric.atLeastAsClose, behind, behind]
  split
  · exact Word.add_lessEq_add (by decide) htail h
  · exact Word.sub_lessEq_sub (by decide) htail h

theorem reaches_of_floored (hit : it.Floored) (htail : it.tail.isFinite = true) :
    it.Reaches := by
  have hfactor : (Word.ofInt maxProbes : Binary64).maximum one = Word.ofInt maxProbes := by
    decide +kernel
  have hstep : (minWidth * Word.ofInt maxProbes).lessEq
      (it.width * Word.ofInt maxProbes) = true :=
    Word.mul_lessEq_mul (by decide) (by decide) hit (by decide +kernel) (by decide +kernel)
  rcases it.farEnd_cases (Word.ofInt maxProbes) with hradius | hfar
  · exact .inl hradius
  · rw [hfactor] at hfar
    rw [Reaches, hfar]
    exact .inr (atLeastAsClose_behind htail hstep)

/-- The last probe reaches one behind the tail at least. -/
example : minWidth * Word.ofInt maxProbes = one := by decide +kernel

end Reach

section Calls

variable {σ : Type} {service : Service σ} {writes : WriteLog} {s s' : σ} {it it' : BandSearch}
variable {page : HitPage}

theorem Floored.congr (hit : it.Floored) (h : it'.width = it.width) : it'.Floored := by
  rw [Floored, h]
  exact hit

theorem floored_receive {outcome : Except ClientError Unit} (hit : it.Floored)
    (h : it.receive page = (outcome, it')) : it'.Floored := by
  obtain ⟨it₁, hupdate, hends⟩ := receive_cases h
  obtain ⟨tied, rfl⟩ := updateTied_frame hupdate
  rcases hends with ⟨_, rfl⟩ | ⟨_, width, _, _, rfl⟩
  · exact hit
  · exact Word.lessEq_maximum_of_lessEq hit width

theorem floored_probe {factor : Binary64} {outcome : Except ClientError Unit} (hit : it.Floored)
    (h : it.probe service writes factor s = (outcome, it', s')) : it'.Floored := by
  obtain ⟨_, it₁, hsearch, hprobed⟩ := probe_cases h
  obtain ⟨⟨_, hstamped⟩, _⟩ := searchBand_frame hsearch
  have hit₁ : it₁.Floored := hit.congr (by rw [hstamped])
  rcases hprobed with ⟨_, _, _, rfl⟩ | ⟨_, _, ⟨_, _, rfl⟩ | ⟨_, hreceive⟩⟩
  · exact hit₁
  · exact hit₁
  · exact floored_receive hit₁ hreceive

theorem floored_fill {wanted left : Nat} {outcome : Except ClientError Unit} (hit : it.Floored)
    (h : it.fill service writes wanted left s = (outcome, it', s')) : it'.Floored :=
  fill_induct (fun _ it _ => it.Floored) floored_probe hit h

/-- A full batch sets the width, any other leaves it. -/
theorem deliver_width {wanted : Nat} {outcome : Except ClientError HitPage}
    (h : it.deliver wanted = (outcome, it')) :
    (∃ b, outcome = .ok b ∧ b.rowCount = it.plan.batchSize ∧ pageWidth b = .ok it'.width) ∨
      (∀ b, outcome = .ok b → b.rowCount ≠ it.plan.batchSize) ∧ it'.width = it.width := by
  rw [deliver] at h
  rcases htake : PageCache.take it.cache wanted it.template with ⟨_ | b, rest⟩ <;> rw [htake] at h
  · cases h
    refine .inr ⟨?_, rfl⟩
    rintro _ ⟨⟩
  · dsimp only at h
    split at h
    · cases h
      refine .inr ⟨?_, rfl⟩
      rintro _ ⟨⟩
    · rename_i width hwidth
      cases h
      split at hwidth
      · rename_i hfull
        exact .inl ⟨b, rfl, hfull, hwidth⟩
      · rename_i hshort
        cases hwidth
        refine .inr ⟨?_, rfl⟩
        rintro _ ⟨⟩
        exact hshort

/-- A call that hands out a full batch sets the width, and with any other it does not fall below
the smallest one. -/
theorem nextBatch_width {outcome : Except ClientError HitPage} (hpos : 0 < it.plan.batchSize)
    (h : it.nextBatch service writes s = (outcome, it', s')) :
    (∃ b, outcome = .ok b ∧ b.rowCount = it.plan.batchSize ∧ pageWidth b = .ok it'.width) ∨
      (∀ b, outcome = .ok b → b.rowCount ≠ it.plan.batchSize) ∧ (it.Floored → it'.Floored) := by
  rcases nextBatch_cases h with ⟨rfl, rfl, _⟩ | ⟨_, ⟨e, rfl, hfill⟩ | ⟨it₁, hfill, hdeliver⟩⟩
  · refine .inr ⟨?_, id⟩
    rintro _ ⟨⟩
    exact Nat.ne_of_lt hpos
  · exact .inr ⟨nofun, fun hit => floored_fill hit hfill⟩
  · rw [← (fill_same hfill).plan]
    rcases deliver_width hdeliver with hfull | ⟨hshort, hwidth⟩
    · exact .inl hfull
    · exact .inr ⟨hshort, fun hit => (floored_fill hit hfill).congr hwidth⟩

theorem perform_width {call : Call} {outcome : Outcome HitPage} (hpos : 0 < it.plan.batchSize)
    (h : (batches service).perform call writes it s = (outcome, it', s')) :
    (∃ b, outcome = .batch b ∧ b.rowCount = it.plan.batchSize ∧ pageWidth b = .ok it'.width) ∨
      (∀ b, outcome = .batch b → b.rowCount ≠ it.plan.batchSize) ∧ (it.Floored → it'.Floored) := by
  rcases (batches service).perform_cases h with ⟨_, rfl, rfl, _⟩ |
    ⟨_, it₁, hbatch, rfl, hstopped⟩ | ⟨b, hbatch, hshown⟩
  · exact .inr ⟨nofun, id⟩
  · rcases nextBatch_width hpos hbatch with ⟨_, he, _⟩ | ⟨_, hfloored⟩
    · cases he
    rcases hstopped with ⟨rfl, _⟩ | rfl
    · exact .inr ⟨nofun, hfloored⟩
    · exact .inr ⟨nofun, fun hit => (hfloored hit).congr rfl⟩
  · rcases nextBatch_width hpos hbatch with ⟨_, hb, hfull, hwidth⟩ | ⟨hshort, hfloored⟩
    · cases hb
      rcases hshown with rfl | ⟨_, hzero⟩
      · exact .inl ⟨b, rfl, hfull, hwidth⟩
      · exact absurd (hfull.symm.trans hzero) (Nat.ne_of_gt hpos)
    · refine .inr ⟨?_, hfloored⟩
      rcases hshown with rfl | ⟨rfl, _⟩
      · rintro _ ⟨⟩
        exact hshort b rfl
      · exact nofun

theorem keeps_plan (service : Service σ) (plan : SearchIteration) :
    (batches service).Keeps fun it => it.plan = plan where
  nextBatch hit h := (nextBatch_plan h).trans hit
  stop hit := hit

/-- A width that is not below the smallest one stays so at all times of a run exactly if the run
hands out no full batch that is narrow, by induction on its calls. -/
theorem floored_run_iff {plan : SearchIteration} (hpos : 0 < plan.batchSize)
    (hplan : it.plan = plan) (hit : it.Floored) {calls : List (Call × WriteLog)}
    {outcomes : List (Outcome HitPage)}
    (h : (batches service).run calls it s = (outcomes, it', s')) :
    (∀ front, front <+: calls → ((batches service).run front it s).2.1.Floored) ↔
      ∀ b, .batch b ∈ outcomes → b.rowCount = plan.batchSize → ¬ Narrow b := by
  induction calls generalizing it s outcomes with
  | nil =>
    cases h
    refine ⟨fun _ => nofun, fun _ front hfront => ?_⟩
    rw [List.prefix_nil.mp hfront]
    exact hit
  | cons call calls ih =>
    obtain ⟨call, writes⟩ := call
    rcases hperform : (batches service).perform call writes it s with ⟨outcome, it₁, s₁⟩
    rcases hrun : (batches service).run calls it₁ s₁ with ⟨later, it₂, s₂⟩
    rw [(batches service).run_cons hperform, hrun] at h
    cases h
    have hplan₁ := (keeps_plan service plan).perform hplan hperform
    rw [(batches service).forall_prefix_cons hperform, and_iff_right hit]
    rcases perform_width (hplan ▸ hpos) hperform with ⟨b, rfl, hfull, hwidth⟩ | ⟨hshort, hfloored⟩
    · rw [hplan] at hfull
      constructor
      · intro hall
        have hit₁ : it₁.Floored := hall [] List.nil_prefix
        intro b' hb' hfull'
        rcases List.mem_cons.mp hb' with heq | hlater
        · cases heq
          exact (not_narrow_iff hwidth).mpr hit₁
        · exact (ih hplan₁ hit₁ hrun).mp hall b' hlater hfull'
      · intro hwide
        have hit₁ : it₁.Floored :=
          (not_narrow_iff hwidth).mp (hwide b (List.mem_cons_self ..) hfull)
        exact (ih hplan₁ hit₁ hrun).mpr fun b' hb' => hwide b' (List.mem_cons_of_mem _ hb')
    · rw [hplan] at hshort
      rw [ih hplan₁ (hfloored hit) hrun]
      constructor
      · intro hwide b hb hfull
        rcases List.mem_cons.mp hb with heq | hlater
        · exact absurd hfull (hshort b heq.symm)
        · exact hwide b hlater hfull
      · exact fun hwide b hb => hwide b (List.mem_cons_of_mem _ hb)

end Calls

/-- A call that began at `it` and `s` wants this many rows in the cache, and it goes on from here
with so many probes left. -/
inductive Filling {σ : Type} (service : Service σ) (writes : WriteLog) (wanted : Nat)
    (it : BandSearch) (s : σ) : Nat → BandSearch → σ → Prop where
  | begun : Filling service writes wanted it s maxProbes it s
  | probed {left : Nat} {it₁ it₂ : BandSearch} {s₁ s₂ : σ}
      (before : Filling service writes wanted it s (left + 1) it₁ s₁)
      (short : PageCache.rowCount it₁.cache < wanted)
      (probe : it₁.probe service writes (Word.ofInt (maxProbes - left : Nat)) s₁ =
        (.ok (), it₂, s₂)) :
      Filling service writes wanted it s left it₂ s₂

namespace Filling

variable {σ : Type} {service : Service σ} {writes : WriteLog} {s s' : σ} {it it' : BandSearch}
variable {wanted left : Nat}

/-- What a call still does is what it does from here. -/
theorem fill_eq (h : Filling service writes wanted it s left it' s') :
    it.fill service writes wanted maxProbes s = it'.fill service writes wanted left s' := by
  induction h with
  | begun => rfl
  | probed _ short probe ih =>
    rw [ih, fill_succ, if_neg (Nat.not_le_of_lt short), probe]

theorem floored (h : Filling service writes wanted it s left it' s') (hit : it.Floored) :
    it'.Floored := by
  induction h with
  | begun => exact hit
  | probed _ _ probe ih => exact floored_probe ih probe

end Filling

section Tail

variable {σ : Type} {service : Service σ} {writes : WriteLog} {s s' : σ × List Exchange}
variable {it it' : BandSearch} {page : HitPage} {plan : SearchIteration}

/-- The tail is that of a page that was received. -/
structure Trailing (plan : SearchIteration) (it : BandSearch) (s : σ × List Exchange) : Prop where
  plan_eq : it.plan = plan
  tail : ∃ page ∈ plan.received s.2, tailScore page = .ok it.tail

theorem Trailing.later (hit : Trailing plan it s) {new : List Exchange}
    (hs : s'.2 = s.2 ++ new) (hplan : it'.plan = it.plan) (htail : it'.tail = it.tail) :
    Trailing plan it' s' := by
  obtain ⟨page, hpage, hread⟩ := hit.tail
  refine ⟨hplan.trans hit.plan_eq, page, ?_, htail ▸ hread⟩
  rw [hs, plan.received_append]
  exact List.mem_append_left _ hpage

theorem isFinite_of_tailScore {tail : Binary64} (hfinite : page.FiniteScores)
    (h : tailScore page = .ok tail) : tail.isFinite = true := by
  rw [tailScore] at h
  split at h
  · rename_i score hscore
    cases h
    obtain ⟨scores, hscores, hlast⟩ := Option.bind_eq_some_iff.mp hscore
    exact Word.isFinite_convert Metric.wider
      (hfinite scores hscores score (List.mem_of_getLast? hlast))
  · cases h

theorem Trailing.isFinite (hit : Trailing plan it s)
    (hfinite : ∀ page ∈ plan.received s.2, page.FiniteScores) : it.tail.isFinite = true := by
  obtain ⟨page, hpage, hread⟩ := hit.tail
  exact isFinite_of_tailScore (hfinite page hpage) hread

theorem receive_tail {outcome : Except ClientError Unit} (h : it.receive page = (outcome, it')) :
    it'.tail = it.tail ∨ tailScore page = .ok it'.tail := by
  obtain ⟨it₁, hupdate, hends⟩ := receive_cases h
  obtain ⟨tied, rfl⟩ := updateTied_frame hupdate
  rcases hends with ⟨_, rfl⟩ | ⟨tail, _, _, htail, rfl⟩
  · exact .inl rfl
  · exact .inr htail

/-- A search that fails may have been answered as well, but with a page that is of no use. -/
theorem searchBand_answers {band : ScoreBand} {filter : String} {rate : Nat}
    {found : Except ClientError HitPage}
    (h : it.searchBand service.answered writes band filter rate s = (found, it', s')) :
    ∃ new, s'.2 = s.2 ++ new ∧
      ∀ page, found = .ok page → page.isEmpty = false → page ∈ it.plan.received new := by
  cases found with
  | ok page =>
    obtain ⟨_, _, e, hs, hreceived⟩ := searchBand_received h
    refine ⟨[e], hs, ?_⟩
    rintro _ ⟨⟩ hsome
    rw [hreceived, hsome]
    exact List.mem_singleton_self _
  | error e =>
    rcases searchBand_cases h with ⟨_, _, _, rfl⟩ | ⟨r, _, ⟨_, hcall, _⟩ | ⟨_, hcall, _⟩⟩
    · exact ⟨[], (List.append_nil _).symm, nofun⟩
    · rcases Client.sendSearch_answered hcall with ⟨_, hreply, _⟩ | ⟨_, _, hs⟩
      · cases hreply
      · exact ⟨[], by rw [hs, List.append_nil], nofun⟩
    · rcases Client.sendSearch_answered hcall with ⟨reply, _, hs⟩ | ⟨_, herror, _⟩
      · exact ⟨[⟨r, reply⟩], hs, nofun⟩
      · cases herror

theorem trailing_probe {factor : Binary64} {outcome : Except ClientError Unit}
    (hit : Trailing plan it s)
    (h : it.probe service.answered writes factor s = (outcome, it', s')) :
    Trailing plan it' s' := by
  obtain ⟨found, it₁, hsearch, hprobed⟩ := probe_cases h
  obtain ⟨⟨ts, rfl⟩, _⟩ := searchBand_frame hsearch
  obtain ⟨new, hs, hpage⟩ := searchBand_answers hsearch
  rcases hprobed with ⟨_, _, _, rfl⟩ | ⟨page, rfl, ⟨_, _, rfl⟩ | ⟨hsome, hreceive⟩⟩
  · exact hit.later hs rfl rfl
  · exact hit.later hs rfl rfl
  · have hplan := (receive_frame hreceive).1.plan
    rcases receive_tail hreceive with htail | htail
    · exact hit.later hs hplan htail
    · refine ⟨hplan.trans hit.plan_eq, page, ?_, htail⟩
      rw [hs, plan.received_append, ← hit.plan_eq]
      exact List.mem_append_right _ (hpage page rfl hsome)

theorem advances_trailing (service : Service σ) (plan : SearchIteration) :
    (batches service.answered).Advances (Trailing plan) (fun _ _ _ => True) where
  nextBatch := by
    intro writes it s outcome it' s' hit h
    refine ⟨?_, trivial⟩
    rcases nextBatch_cases h with ⟨_, rfl, rfl⟩ | ⟨_, ⟨_, _, hfill⟩ | ⟨it₁, hfill, hdeliver⟩⟩
    · exact hit.later (List.append_nil _).symm rfl rfl
    · exact fill_induct (fun _ it s => Trailing plan it s) trailing_probe hit hfill
    · have hit₁ := fill_induct (fun _ it s => Trailing plan it s) trailing_probe hit hfill
      rw [deliver_same hdeliver]
      exact hit₁.later (List.append_nil _).symm rfl rfl
  stop hit := hit.later (List.append_nil _).symm rfl rfl
  rest _ _ := trivial

theorem Filling.trailing {s₁ : σ × List Exchange} {wanted left : Nat}
    (h : Filling service.answered writes wanted it s left it' s₁) (hit : Trailing plan it s) :
    Trailing plan it' s₁ := by
  induction h with
  | begun => exact hit
  | probed _ _ probe ih => exact trailing_probe ih probe

/-- The first page sets the width and the tail. -/
theorem begin_width (h : it.begin page = .ok it') :
    page.isEmpty = false ∧ it'.plan = it.plan ∧ pageWidth page = .ok it'.width ∧
      tailScore page = .ok it'.tail := by
  rw [begin] at h
  split at h
  · cases h
  rename_i hsome
  refine ⟨eq_false_of_ne_true hsome, ?_⟩
  split at h
  · cases h
  · cases h
  · rename_i width tail hwidth htail
    split at h
    · cases h
    · rename_i it₁ hupdate
      obtain ⟨tied, rfl⟩ := updateTied_frame hupdate
      cases h
      exact ⟨rfl, hwidth, htail⟩

theorem start_width {client : Client} {s : σ}
    (h : start service.answered writes client plan (s, []) = (.ok it, s')) :
    ∃ first, plan.received s'.2 = [first] ∧ pageWidth first = .ok it.width ∧
      Trailing plan it s' := by
  rcases start_cases h with ⟨_, he, _⟩ |
    ⟨metric, found, it₁, _, _, hsearch, ⟨_, he⟩ | ⟨page, it₂, rfl, hbegin, hit⟩⟩
  · cases he
  · cases he
  cases hit
  obtain ⟨hplan₁, _, e, hs, hreceived⟩ := searchBand_received hsearch
  obtain ⟨hsome, hplan, hwidth, htail⟩ := begin_width hbegin
  have hfirst : plan.received s'.2 = [page] := by
    rw [hs]
    exact hreceived.trans (by rw [hsome]; rfl)
  refine ⟨page, hfirst, hwidth, hplan.trans hplan₁, page, ?_, htail⟩
  rw [hfirst]
  exact List.mem_singleton_self _

end Tail

namespace Sample

/-- Two hits whose scores differ by a hundredth. -/
def nearScores : SearchReply :=
  ⟨⟨1, 2, [2], .ints [1, 2], [.ofNat 0x3F000000, .ofNat 0x3F028F5C], [], [], "id", none⟩, 0⟩

end Sample

/-- The width is not below the smallest one at any time of a run exactly if neither the first page
nor any full batch that was handed out is narrow, and with finite scores a page is narrow exactly
if its first and its last score are close. As long as the width is not below the smallest one
between two calls, it is not during the next call either, and with finite scores the last probe
reaches as far as it does with the smallest width, or to the caller's radius. -/
theorem floored_iff_of_start {σ : Type} (service : Service σ) (writes : WriteLog) (client : Client)
    (plan : SearchIteration) (s : σ) (it : BandSearch) (s' : σ × List Exchange)
    (hstart : start service.answered writes client plan (s, []) = (.ok it, s'))
    (calls : List (Call × WriteLog)) (outcomes : List (Outcome HitPage)) (it₁ : BandSearch)
    (s₁ : σ × List Exchange)
    (hrun : (batches service.answered).run calls it s' = (outcomes, it₁, s₁)) :
    ∃ first, plan.received s'.2 = [first] ∧
      ((∀ front, front <+: calls → ((batches service.answered).run front it s').2.1.Floored) ↔
        ¬ Narrow first ∧ ∀ b, .batch b ∈ outcomes → b.rowCount = plan.batchSize → ¬ Narrow b) ∧
      (∀ page : HitPage, page.FiniteScores →
        (Narrow page ↔ ∃ scores first last, page.scores? = some scores ∧
          scores.head? = some first ∧ scores.getLast? = some last ∧ Close first last)) ∧
      ∀ log wanted left it₂ s₂, Filling service.answered log wanted it₁ s₁ left it₂ s₂ →
        it₁.fill service.answered log wanted maxProbes s₁ =
          it₂.fill service.answered log wanted left s₂ ∧
        (it₁.Floored → it₂.Floored ∧
          ((∀ page ∈ plan.received s₂.2, page.FiniteScores) → it₂.Reaches)) := by
  obtain ⟨first, hfirst, hwidth, htrailing⟩ := start_width hstart
  have hpos : 0 < plan.batchSize := by
    rcases start_cases hstart with ⟨_, he, _⟩ | ⟨_, _, _, hvalid, _⟩
    · cases he
    · exact plan.batchSize_pos hvalid
  have htrailing₁ : Trailing plan it₁ s₁ := by
    have hlast := (advances_trailing service plan).run htrailing calls
    rwa [hrun] at hlast
  refine ⟨first, hfirst, ?_, fun page hfinite => narrow_iff hfinite, ?_⟩
  · constructor
    · intro hall
      have hit : it.Floored := hall [] List.nil_prefix
      exact ⟨(not_narrow_iff hwidth).mpr hit,
        (floored_run_iff hpos htrailing.plan_eq hit hrun).mp hall⟩
    · rintro ⟨hwide, hbatches⟩
      exact (floored_run_iff hpos htrailing.plan_eq ((not_narrow_iff hwidth).mp hwide) hrun).mpr
        hbatches
  · intro log wanted left it₂ s₂ hfilling
    refine ⟨hfilling.fill_eq, fun hit => ⟨hfilling.floored hit, fun hfinite => ?_⟩⟩
    exact reaches_of_floored (hfilling.floored hit)
      ((hfilling.trailing htrailing₁).isFinite hfinite)

theorem floored_iff_of_start_nearScores : ∃ it s first,
    start (Script.service 0).answered .empty .standard VectorClient.Sample.search
        (.ofReplies [.search Sample.nearScores], []) = (.ok it, s) ∧
      VectorClient.Sample.search.received s.2 = [first] ∧ Narrow first ∧ ¬ it.Floored := by
  obtain ⟨it, s, hstart, hbelow⟩ := exists_ok_of_test
    (start (Script.service 0).answered .empty .standard VectorClient.Sample.search
      (.ofReplies [.search Sample.nearScores], []))
    (fun it _ => !minWidth.lessEq it.width) (by decide +kernel)
  rw [Bool.not_eq_true'] at hbelow
  have hfloor : ¬ it.Floored := by
    rw [Floored, hbelow]
    exact Bool.false_ne_true
  obtain ⟨first, hfirst, htimes, _⟩ :=
    floored_iff_of_start _ _ _ _ _ _ _ hstart [] _ _ _ rfl
  refine ⟨it, s, first, hstart, hfirst, ?_, hfloor⟩
  by_contra hwide
  exact hfloor (htimes.mpr ⟨hwide, nofun⟩ [] List.nil_prefix)

end BandSearch

end VectorClient
