import Mathlib.Data.List.Nodup
import Mathlib.Data.List.Perm.Basic
import VectorClient.Proofs.BandSearch.Scores

/-!
# Closest-first orders

Hits with the same score may stand in any order, so a closest-first order of a list of hits
is not unique, and every search may follow another one. What was received from several
searches is still the beginning of one such order, if all hits that are closer than the
last one were among it and no hit came twice.
-/

namespace VectorClient

/-- One hit of a search. -/
structure Hit where
  key : PrimaryKey
  score : Ieee.Binary32
deriving DecidableEq, Repr

/-- All hits that meet the filter of a search, and the names that their keys and scores have
in the pages of its replies. -/
structure HitPool where
  hits : List Hit
  keyName : String
  scoreName : String
  distinct : (hits.map Hit.key).Nodup
  finite : ∀ h ∈ hits, h.score.isFinite = true

/-- The hits in a band, without those that a filter excludes by their keys. -/
def HitPool.eligible (pool : HitPool) (m : Metric) (band : ScoreBand)
    (excluded : List PrimaryKey) : List Hit :=
  pool.hits.filter fun h => m.within band h.score && !excluded.contains h.key

namespace Metric

/-- No hit is closer than one in front of it. -/
def ClosestFirst (m : Metric) (hits : List Hit) : Prop :=
  hits.Pairwise fun a b => m.closer b.score a.score = false

instance (m : Metric) (hits : List Hit) : Decidable (m.ClosestFirst hits) :=
  inferInstanceAs (Decidable (hits.Pairwise _))

/-- The first hits of a closest-first order. -/
def Leads (m : Metric) (sent all : List Hit) : Prop :=
  ∃ ordering, ordering.Perm all ∧ m.ClosestFirst ordering ∧ sent <+: ordering

variable {m : Metric} {sent all hits : List Hit} {a b : Hit}

theorem closer_eq_false_iff (ha : a.score.isFinite = true) (hb : b.score.isFinite = true) :
    m.closer b.score a.score = false ↔ m.depth a.score ≤ m.depth b.score := by
  rw [← Bool.not_eq_true, closer_of_isFinite hb ha, Int.not_lt]

theorem closestFirst_iff (hfinite : ∀ h ∈ hits, h.score.isFinite = true) :
    m.ClosestFirst hits ↔ hits.Pairwise fun a b => m.depth a.score ≤ m.depth b.score :=
  List.Pairwise.iff_of_mem fun ha hb => closer_eq_false_iff (hfinite _ ha) (hfinite _ hb)

/-- The last hit is the farthest one. -/
theorem ClosestFirst.depth_le_getLast (h : m.ClosestFirst hits)
    (hfinite : ∀ h ∈ hits, h.score.isFinite = true) (hlast : hits.getLast? = some b)
    (ha : a ∈ hits) : m.depth a.score ≤ m.depth b.score := by
  rw [closestFirst_iff hfinite] at h
  obtain ⟨front, rfl⟩ := List.getLast?_eq_some_iff.mp hlast
  rcases List.mem_append.mp ha with hfront | hsame
  · exact (List.pairwise_append.mp h).2.2 a hfront b (List.mem_singleton_self b)
  · rw [List.mem_singleton.mp hsame]

/-- The order to sort hits by. -/
def depthLe (m : Metric) (a b : Hit) : Bool := decide (m.depth a.score ≤ m.depth b.score)

theorem pairwise_mergeSort_depthLe (m : Metric) (hits : List Hit) :
    (hits.mergeSort m.depthLe).Pairwise fun a b => m.depth a.score ≤ m.depth b.score := by
  have hsorted : (hits.mergeSort m.depthLe).Pairwise fun a b => m.depthLe a b = true := by
    refine List.pairwise_mergeSort ?_ ?_ hits
    · simp only [depthLe, decide_eq_true_eq]
      intro a b c
      exact Int.le_trans
    · simp only [depthLe, Bool.or_eq_true, decide_eq_true_eq]
      intro a b
      exact Int.le_total _ _
  exact hsorted.imp of_decide_eq_true

namespace Leads

theorem subset (h : m.Leads sent all) : sent ⊆ all := by
  obtain ⟨ordering, hperm, _, hfirst⟩ := h
  intro x hx
  exact hperm.subset (hfirst.subset hx)

theorem nodup (h : m.Leads sent all) (hall : all.Nodup) : sent.Nodup := by
  obtain ⟨ordering, hperm, _, hfirst⟩ := h
  exact hfirst.sublist.nodup (hperm.nodup_iff.mpr hall)

theorem closestFirst (h : m.Leads sent all) : m.ClosestFirst sent := by
  obtain ⟨ordering, _, hordered, hfirst⟩ := h
  exact hordered.sublist hfirst.sublist

theorem of_append {sent' : List Hit} (h : m.Leads (sent ++ sent') all) : m.Leads sent all := by
  obtain ⟨ordering, hperm, hordered, hfirst⟩ := h
  exact ⟨ordering, hperm, hordered, (List.prefix_append ..).trans hfirst⟩

/-- Nothing that is closer than a hit sent was left out. -/
theorem complete (h : m.Leads sent all) (hfinite : ∀ h ∈ all, h.score.isFinite = true)
    (ha : a ∈ sent) (hb : b ∈ all) (hcloser : m.depth b.score < m.depth a.score) : b ∈ sent := by
  obtain ⟨ordering, hperm, hordered, rest, rfl⟩ := h
  rcases List.mem_append.mp (hperm.mem_iff.mpr hb) with hsent | hrest
  · exact hsent
  · have hbehind := (List.pairwise_append.mp hordered).2.2 a ha b hrest
    have hafinite := hfinite a (hperm.subset (List.mem_append_left _ ha))
    rw [closer_eq_false_iff hafinite (hfinite b hb)] at hbehind
    omega

/-- A list that leaves out nothing closer begins a closest-first order: the others follow it,
sorted. -/
theorem of_complete (hnodup : sent.Nodup) (hsubset : sent ⊆ all) (hall : all.Nodup)
    (hfinite : ∀ h ∈ all, h.score.isFinite = true) (hordered : m.ClosestFirst sent)
    (hcomplete : ∀ a ∈ sent, ∀ b ∈ all, m.depth b.score < m.depth a.score → b ∈ sent) :
    m.Leads sent all := by
  have hothers : ∀ b, b ∈ (all.filter fun b => b ∉ sent).mergeSort m.depthLe →
      b ∈ all ∧ b ∉ sent := by
    intro b hb
    rw [List.mem_mergeSort, List.mem_filter, decide_eq_true_eq] at hb
    exact hb
  refine ⟨sent ++ (all.filter fun b => b ∉ sent).mergeSort m.depthLe, ?_, ?_,
    List.prefix_append ..⟩
  · refine ((List.mergeSort_perm _ _).append_left sent).trans ?_
    have hdisjoint : sent.Disjoint (all.filter fun b => b ∉ sent) := by
      intro b hb hb'
      exact absurd hb (of_decide_eq_true (List.mem_filter.mp hb').2)
    rw [List.perm_ext_iff_of_nodup (hnodup.append (hall.filter _) hdisjoint) hall]
    intro b
    rw [List.mem_append, List.mem_filter, decide_eq_true_eq]
    constructor
    · rintro (hb | ⟨hb, _⟩)
      · exact hsubset hb
      · exact hb
    · intro hb
      by_cases hsent : b ∈ sent
      · exact .inl hsent
      · exact .inr ⟨hb, hsent⟩
  · rw [closestFirst_iff (fun b hb => hfinite b
      ((List.mem_append.mp hb).elim (fun h => hsubset h) fun h => (hothers b h).1))]
    refine List.pairwise_append.mpr ⟨?_, m.pairwise_mergeSort_depthLe _, ?_⟩
    · exact (closestFirst_iff fun b hb => hfinite b (hsubset hb)).mp hordered
    · intro a ha b hb
      obtain ⟨hmem, hnot⟩ := hothers b hb
      by_contra hcloser
      exact hnot (hcomplete a ha b hmem (by omega))

end Leads

end Metric

namespace HitPool

variable {pool : HitPool} {m : Metric} {band : ScoreBand} {excluded : List PrimaryKey} {h h' : Hit}

theorem mem_eligible : h ∈ pool.eligible m band excluded ↔
    h ∈ pool.hits ∧ m.within band h.score = true ∧ h.key ∉ excluded := by
  rw [eligible, List.mem_filter, Bool.and_eq_true, Bool.not_eq_true', ← Bool.not_eq_true,
    List.contains_iff_mem]

theorem nodup_eligible : (pool.eligible m band excluded).Nodup :=
  (List.Nodup.of_map _ pool.distinct).filter _

theorem finite_eligible : ∀ h ∈ pool.eligible m band excluded, h.score.isFinite = true :=
  fun h hh => pool.finite h (mem_eligible.mp hh).1

/-- Hits can be told apart by their keys. -/
theorem eq_of_key_eq (hh : h ∈ pool.hits) (hh' : h' ∈ pool.hits) (hkey : h.key = h'.key) :
    h = h' :=
  List.inj_on_of_nodup_map pool.distinct hh hh' hkey

theorem nodup_keys {sent : List Hit} (h : m.Leads sent (pool.eligible m band excluded)) :
    (sent.map Hit.key).Nodup := by
  refine (h.nodup nodup_eligible).map_on ?_
  intro a ha b hb hkey
  exact eq_of_key_eq (mem_eligible.mp (h.subset ha)).1 (mem_eligible.mp (h.subset hb)).1 hkey

end HitPool

/-- What was received in a band so far, down to the hit `last`. The keys are those of hits at
the score of this hit, all of them, perhaps also of others that are nearly as far. -/
structure Received (pool : HitPool) (m : Metric) (band : ScoreBand) (received : List Hit)
    (last : Hit) (tied : List PrimaryKey) : Prop where
  getLast : received.getLast? = some last
  nodup : received.Nodup
  subset : received ⊆ pool.eligible m band []
  ordered : m.ClosestFirst received
  complete : ∀ h ∈ pool.eligible m band [], m.depth h.score < m.depth last.score → h ∈ received
  tied_of_depth : ∀ h ∈ received, m.depth h.score = m.depth last.score → h.key ∈ tied
  received_of_tied : ∀ key ∈ tied, ∃ h ∈ received, h.key = key

namespace Received

variable {pool : HitPool} {m : Metric} {band : ScoreBand} {received sent : List Hit}
variable {last next : Hit} {tied found : List PrimaryKey}

theorem finite (h : Received pool m band received last tied) :
    ∀ a ∈ received, a.score.isFinite = true :=
  fun a ha => HitPool.finite_eligible a (h.subset ha)

theorem depth_le (h : Received pool m band received last tied) :
    ∀ a ∈ received, m.depth a.score ≤ m.depth last.score :=
  fun _ ha => h.ordered.depth_le_getLast h.finite h.getLast ha

theorem last_mem (h : Received pool m band received last tied) : last ∈ received :=
  List.mem_of_getLast? h.getLast

theorem leads (h : Received pool m band received last tied) :
    m.Leads received (pool.eligible m band []) := by
  refine .of_complete h.nodup h.subset HitPool.nodup_eligible HitPool.finite_eligible h.ordered ?_
  intro a ha b hb hcloser
  exact h.complete b hb (Int.lt_of_lt_of_le hcloser (h.depth_le a ha))

/-- The first search. -/
theorem of_leads (h : m.Leads sent (pool.eligible m band [])) (hlast : sent.getLast? = some last)
    (htied : ∀ a ∈ sent, m.depth a.score = m.depth last.score → a.key ∈ tied)
    (hfound : ∀ key ∈ tied, ∃ a ∈ sent, a.key = key) :
    Received pool m band sent last tied where
  getLast := hlast
  nodup := h.nodup HitPool.nodup_eligible
  subset := h.subset
  ordered := h.closestFirst
  complete _ hb hcloser :=
    h.complete HitPool.finite_eligible (List.mem_of_getLast? hlast) hb hcloser
  tied_of_depth := htied
  received_of_tied := hfound

end Received

/-- A band that begins at the score of a hit, lies within another band, and reaches as far as
its farthest hit. -/
structure Probes (pool : HitPool) (m : Metric) (band probe : ScoreBand) (last : Hit) : Prop where
  behind : ∀ a ∈ pool.hits, m.within probe a.score = true → m.depth last.score ≤ m.depth a.score
  inside : ∀ a ∈ pool.hits, m.within probe a.score = true → m.within band a.score = true
  reaches : ∀ a ∈ pool.hits, ∀ b ∈ pool.hits, m.depth last.score ≤ m.depth a.score →
    m.depth a.score ≤ m.depth b.score → m.within probe b.score = true →
    m.within probe a.score = true

/-- A search of a band behind the last hit, without the tied hits, continues what was received.
Hits of the same score that came before are among the tied ones, so none comes twice; what the
tied keys exclude has come before, so none is missing. -/
theorem Received.append {pool : HitPool} {m : Metric} {band probe : ScoreBand}
    {received sent : List Hit} {last next : Hit} {tied tied' : List PrimaryKey}
    (h : Received pool m band received last tied) (hprobe : Probes pool m band probe last)
    (hsent : m.Leads sent (pool.eligible m probe tied)) (hnext : sent.getLast? = some next)
    (htied : ∀ a ∈ sent, m.depth a.score = m.depth next.score → a.key ∈ tied')
    (hkept : m.depth next.score = m.depth last.score → tied ⊆ tied')
    (hfound : ∀ key ∈ tied', key ∈ tied ∨ ∃ a ∈ sent, a.key = key) :
    Received pool m band (received ++ sent) next tied' := by
  have hnew : ∀ a ∈ sent, a ∈ pool.hits ∧ m.within probe a.score = true ∧ a.key ∉ tied :=
    fun a ha => HitPool.mem_eligible.mp (hsent.subset ha)
  have hbehind : ∀ a ∈ sent, m.depth last.score ≤ m.depth a.score :=
    fun a ha => hprobe.behind a (hnew a ha).1 (hnew a ha).2.1
  have hfinite : ∀ a ∈ sent, a.score.isFinite = true :=
    fun a ha => pool.finite a (hnew a ha).1
  have hfarthest : ∀ a ∈ sent, m.depth a.score ≤ m.depth next.score :=
    fun a ha => hsent.closestFirst.depth_le_getLast hfinite hnext ha
  have hnextMem := List.mem_of_getLast? hnext
  have hsubset : received ++ sent ⊆ pool.eligible m band [] := by
    intro a ha
    rcases List.mem_append.mp ha with hold | hmem
    · exact h.subset hold
    · exact HitPool.mem_eligible.mpr ⟨(hnew a hmem).1,
        hprobe.inside a (hnew a hmem).1 (hnew a hmem).2.1, List.not_mem_nil⟩
  refine ⟨?_, ?_, hsubset, ?_, ?_, ?_, ?_⟩
  · rw [List.getLast?_append, hnext, Option.some_or]
  · refine h.nodup.append (hsent.nodup HitPool.nodup_eligible) ?_
    intro a hold hmem
    have hsame : m.depth a.score = m.depth last.score :=
      Int.le_antisymm (h.depth_le a hold) (hbehind a hmem)
    exact (hnew a hmem).2.2 (h.tied_of_depth a hold hsame)
  · rw [Metric.closestFirst_iff fun a ha => HitPool.finite_eligible a (hsubset ha)]
    refine List.pairwise_append.mpr ⟨?_, ?_, ?_⟩
    · exact (Metric.closestFirst_iff h.finite).mp h.ordered
    · exact (Metric.closestFirst_iff hfinite).mp hsent.closestFirst
    · intro a hold b hmem
      exact Int.le_trans (h.depth_le a hold) (hbehind b hmem)
  · intro a ha hcloser
    by_cases hbefore : m.depth a.score < m.depth last.score
    · exact List.mem_append_left _ (h.complete a ha hbefore)
    by_cases htiedKey : a.key ∈ tied
    · obtain ⟨b, hb, hkey⟩ := h.received_of_tied _ htiedKey
      have hbHit := (HitPool.mem_eligible.mp (h.subset hb)).1
      rw [HitPool.eq_of_key_eq (HitPool.mem_eligible.mp ha).1 hbHit hkey.symm]
      exact List.mem_append_left _ hb
    · have hhit := (HitPool.mem_eligible.mp ha).1
      have hin : m.within probe a.score = true := hprobe.reaches a hhit next (hnew next hnextMem).1
        (Int.not_lt.mp hbefore) (Int.le_of_lt hcloser) (hnew next hnextMem).2.1
      refine List.mem_append_right _ (hsent.complete HitPool.finite_eligible hnextMem ?_ hcloser)
      exact HitPool.mem_eligible.mpr ⟨hhit, hin, htiedKey⟩
  · intro a ha hdepth
    rcases List.mem_append.mp ha with hold | hmem
    · have hle := h.depth_le a hold
      have hge := hbehind next hnextMem
      have hsame : m.depth next.score = m.depth last.score := by omega
      exact hkept hsame (h.tied_of_depth a hold (hdepth.trans hsame))
    · exact htied a hmem hdepth
  · intro key hkey
    rcases hfound key hkey with hold | ⟨a, ha, rfl⟩
    · obtain ⟨a, ha, rfl⟩ := h.received_of_tied key hold
      exact ⟨a, List.mem_append_left _ ha, rfl⟩
    · exact ⟨a, List.mem_append_right _ ha, rfl⟩

end VectorClient
