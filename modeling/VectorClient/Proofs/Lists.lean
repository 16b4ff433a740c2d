import Mathlib.Data.List.Basic
import Mathlib.Data.List.Forall2

/-!
# Facts about lists

What the theories of columns, pages and histories need to know about lists of any kind:
elements that stand against each other, maps that can fail, and neighbouring parts of a list.
-/

namespace VectorClient

variable {α β : Type}

section Pairs

variable {R : α → β → Prop} {as : List α} {bs : List β}

theorem mem_right_of_forall₂ (h : List.Forall₂ R as bs) {b : β} (hb : b ∈ bs) :
    ∃ a ∈ as, R a b := by
  induction h with
  | nil => cases hb
  | cons hab _ ih =>
      rcases List.mem_cons.mp hb with rfl | hmem
      · exact ⟨_, List.mem_cons_self .., hab⟩
      · obtain ⟨a, ha, hr⟩ := ih hmem
        exact ⟨a, List.mem_cons_of_mem _ ha, hr⟩

theorem exists_forall₂ (h : ∀ a ∈ as, ∃ b, R a b) : ∃ bs, List.Forall₂ R as bs := by
  induction as with
  | nil => exact ⟨[], .nil⟩
  | cons a rest ih =>
      obtain ⟨b, hb⟩ := h a (List.mem_cons_self ..)
      obtain ⟨bs, hbs⟩ := ih fun a' ha' => h a' (List.mem_cons_of_mem _ ha')
      exact ⟨b :: bs, .cons hb hbs⟩

end Pairs

section Failing

variable {ε : Type}

theorem forall₂_of_mapM {f : α → Except ε β} {as : List α} {bs : List β}
    (h : as.mapM f = .ok bs) : List.Forall₂ (fun a b => f a = .ok b) as bs := by
  induction as generalizing bs with
  | nil =>
      cases h
      exact .nil
  | cons a rest ih =>
      rw [List.mapM_cons] at h
      cases ha : f a with
      | error e => rw [ha] at h; cases h
      | ok b =>
          cases hrest : rest.mapM f with
          | error e => rw [ha, hrest] at h; cases h
          | ok others =>
              rw [ha, hrest] at h
              cases h
              exact .cons ha (ih hrest)

theorem mapM_ok {f : α → Except ε β} {g : α → β} {as : List α} (h : ∀ a ∈ as, f a = .ok (g a)) :
    as.mapM f = .ok (as.map g) := by
  induction as with
  | nil => rfl
  | cons a rest ih =>
      obtain ⟨ha, hrest⟩ := List.forall_mem_cons.mp h
      rw [List.mapM_cons, ha, ih hrest]
      rfl

theorem exists_of_mem_mapM {f : α → Option β} {as : List α} {bs : List β}
    (h : as.mapM f = some bs) {b : β} (hb : b ∈ bs) : ∃ a ∈ as, f a = some b := by
  induction as generalizing bs with
  | nil =>
      cases h
      cases hb
  | cons a rest ih =>
      rw [List.mapM_cons] at h
      obtain ⟨first, hfirst, h⟩ := Option.bind_eq_some_iff.mp h
      obtain ⟨others, hothers, h⟩ := Option.bind_eq_some_iff.mp h
      cases h
      rcases List.mem_cons.mp hb with rfl | hmem
      · exact ⟨a, List.mem_cons_self .., hfirst⟩
      · obtain ⟨a', ha', hread⟩ := ih hothers hmem
        exact ⟨a', List.mem_cons_of_mem _ ha', hread⟩

end Failing

/-- Two parts of a list, one of which begins where the other ends, are one part. -/
theorem take_drop_append {as : List α} {a b c : Nat} (hab : a ≤ b) (hbc : b ≤ c) :
    (as.take b).drop a ++ (as.take c).drop b = (as.take c).drop a := by
  have hsplit := List.take_append_drop (b - a) ((as.take c).drop a)
  rwa [List.take_drop, List.drop_drop, List.take_take, Nat.add_sub_cancel' hab,
    Nat.min_eq_left hbc] at hsplit

/-- A test of the last element, which may look at those in front of it, says that there
is one. -/
theorem exists_concat_of_test (as : List α) (test : List α → α → Bool)
    (h : as.getLast?.any (test as.dropLast) = true) :
    ∃ front a, as = front ++ [a] ∧ test front a = true := by
  cases hlast : as.getLast? with
  | none =>
      rw [hlast] at h
      cases h
  | some a =>
      rw [hlast] at h
      exact ⟨_, a, (List.dropLast_append_getLast? a hlast).symm, h⟩

end VectorClient
