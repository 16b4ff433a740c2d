import Mathlib.Data.List.Nodup
import Mathlib.Data.List.Perm.Subperm
import Mathlib.Order.Bounds.Basic
import VectorClient.Read.Reply

/-!
# The name of the scores

The column of scores takes the first name that is free when underscores are put in front of the
default one. `Frees` is the loop that looks for it, and it has no bound of its own: it goes on as
long as the name at hand is taken. No two of the names it tries have the same length, so each
taken name can stop it only once, and it ends after as many rounds as there are taken names at
the latest. The name it ends with has the least number of underscores that makes it free.
-/

namespace VectorClient.SearchHits

/-- A name with so many underscores in front of it. -/
def underscored (count : Nat) (name : String) : String :=
  String.ofList (List.replicate count '_') ++ name

/-- The loop that frees a name, with the number of its rounds. Each round puts an underscore in
front of a name that is taken. -/
inductive Frees (taken : List String) : Nat → String → String → Prop
  | free {name : String} : name ∉ taken → Frees taken 0 name name
  | taken {rounds : Nat} {name result : String} : name ∈ taken →
      Frees taken rounds ("_" ++ name) result → Frees taken (rounds + 1) name result

variable {taken : List String} {name result result' : String} {rounds rounds' count n : Nat}

theorem underscored_zero (name : String) : underscored 0 name = name := by
  rw [underscored, List.replicate_zero]
  exact String.empty_append

theorem underscored_succ (count : Nat) (name : String) :
    underscored (count + 1) name = underscored count ("_" ++ name) := by
  rw [underscored, underscored, List.replicate_succ', String.ofList_append, String.append_assoc]

theorem length_underscored (count : Nat) (name : String) :
    (underscored count name).length = count + name.length := by
  rw [underscored, String.length_append, String.length_ofList, List.length_replicate]

/-- Fewer names are taken than there are candidates, so one of the candidates is free. -/
theorem exists_underscored_not_mem (taken : List String) (name : String) :
    ∃ n, n ≤ taken.length ∧ underscored n name ∉ taken := by
  by_contra hnone
  have hsubset : (List.range (taken.length + 1)).map (underscored · name) ⊆ taken := by
    intro candidate hcandidate
    obtain ⟨n, hn, rfl⟩ := List.mem_map.mp hcandidate
    by_contra hfree
    exact hnone ⟨n, Nat.le_of_lt_succ (List.mem_range.mp hn), hfree⟩
  have hnodup : ((List.range (taken.length + 1)).map (underscored · name)).Nodup := by
    refine List.Nodup.map ?_ List.nodup_range
    intro m n hsame
    have hlengths := congrArg String.length hsame
    rw [length_underscored, length_underscored] at hlengths
    exact Nat.add_right_cancel hlengths
  have hle := (List.subperm_of_subset hnodup hsubset).length_le
  rw [List.length_map, List.length_range] at hle
  omega

namespace Frees

/-- The loop can end in one way only. -/
theorem unique (h : Frees taken rounds name result) (h' : Frees taken rounds' name result') :
    rounds' = rounds ∧ result' = result := by
  induction h generalizing rounds' with
  | free hfree =>
      cases h' with
      | free => exact ⟨rfl, rfl⟩
      | taken htaken => exact absurd htaken hfree
  | taken htaken _ ih =>
      cases h' with
      | free hfree => exact absurd htaken hfree
      | taken _ hrest =>
          obtain ⟨hrounds, hresult⟩ := ih hrest
          exact ⟨congrArg Nat.succ hrounds, hresult⟩

/-- Every round adds an underscore, and every name before the last was taken. -/
theorem isLeast (h : Frees taken rounds name result) :
    result = underscored rounds name ∧ IsLeast {n | underscored n name ∉ taken} rounds := by
  induction h with
  | @free name hfree =>
      refine ⟨(underscored_zero name).symm, ?_, fun n _ => Nat.zero_le n⟩
      rwa [Set.mem_ofPred_eq, underscored_zero]
  | @taken rounds name result htaken _ ih =>
      obtain ⟨hresult, hmem, hleast⟩ := ih
      rw [Set.mem_ofPred_eq, ← underscored_succ] at hmem
      refine ⟨hresult.trans (underscored_succ ..).symm, hmem, fun n hn => ?_⟩
      cases n with
      | zero =>
          rw [Set.mem_ofPred_eq, underscored_zero] at hn
          exact absurd htaken hn
      | succ n =>
          rw [Set.mem_ofPred_eq, underscored_succ] at hn
          exact Nat.succ_le_succ (hleast hn)

end Frees

/-- A search with enough rounds is the loop, by induction on the rounds that it may make. -/
theorem frees_freeName (hfree : underscored n name ∉ taken) (hn : n ≤ count) :
    ∃ rounds, rounds ≤ n ∧ Frees taken rounds name (freeName taken count name) := by
  induction count generalizing name n with
  | zero =>
      rw [Nat.le_zero.mp hn, underscored_zero] at hfree
      exact ⟨0, Nat.zero_le n, .free hfree⟩
  | succ count ih =>
      rw [freeName]
      split
      · rename_i htaken
        rw [List.contains_iff_mem] at htaken
        cases n with
        | zero =>
            rw [underscored_zero] at hfree
            exact absurd htaken hfree
        | succ n =>
            rw [underscored_succ] at hfree
            obtain ⟨rounds, hrounds, hfrees⟩ := ih hfree (Nat.le_of_succ_le_succ hn)
            exact ⟨rounds + 1, Nat.succ_le_succ hrounds, .taken htaken hfrees⟩
      · rename_i hnot
        rw [List.contains_iff_mem] at hnot
        exact ⟨0, Nat.zero_le n, .free hnot⟩

theorem exists_frees_freeName (taken : List String) (name : String) :
    ∃ rounds, rounds ≤ taken.length ∧
      Frees taken rounds name (freeName taken taken.length name) := by
  obtain ⟨n, hn, hfree⟩ := exists_underscored_not_mem taken name
  obtain ⟨rounds, hrounds, hfrees⟩ := frees_freeName hfree hn
  exact ⟨rounds, Nat.le_trans hrounds hn, hfrees⟩

theorem freeName_not_mem (taken : List String) (name : String) :
    freeName taken taken.length name ∉ taken := by
  obtain ⟨_, _, hfrees⟩ := exists_frees_freeName taken name
  obtain ⟨hresult, hfree, _⟩ := hfrees.isLeast
  rwa [hresult]

theorem scoreName_not_mem (hits : SearchHits) : hits.scoreName ∉ hits.takenNames :=
  freeName_not_mem _ _

/-- Looking for the name of the scores ends, after no more rounds than there are columns and
output fields, and with the least number of underscores for which neither of them has it. -/
theorem scoreName_isLeast (hits : SearchHits) :
    ∃ rounds, rounds ≤ hits.columns.length + hits.outputFields.length ∧
      Frees hits.takenNames rounds defaultScoreName hits.scoreName ∧
      (∀ rounds' result, Frees hits.takenNames rounds' defaultScoreName result →
        rounds' = rounds ∧ result = hits.scoreName) ∧
      hits.scoreName = underscored rounds defaultScoreName ∧
      IsLeast {n | (∀ c ∈ hits.columns, c.name ≠ underscored n defaultScoreName) ∧
        underscored n defaultScoreName ∉ hits.outputFields} rounds := by
  obtain ⟨rounds, hrounds, hfrees⟩ := exists_frees_freeName hits.takenNames defaultScoreName
  obtain ⟨hresult, hleast⟩ := hfrees.isLeast
  rw [takenNames, List.length_append, List.length_map] at hrounds
  refine ⟨rounds, hrounds, hfrees, fun _ _ h => hfrees.unique h, hresult, ?_⟩
  simpa only [takenNames, List.mem_append, List.mem_map, not_or, not_exists, not_and] using hleast

example : freeName ["score", "id", "_score", "score"] 4 defaultScoreName = "__score" := by decide

end VectorClient.SearchHits
