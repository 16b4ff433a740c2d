import VectorClient.Proofs.BandSearch.Probing
import VectorClient.Proofs.Iteration.Accounts
import VectorClient.Proofs.PrimaryKey.Literal

/-!
# The keys in a filter

An iteration adds a clause to the caller's filter: a cursor the keys behind its own, a search by
bands the keys to leave out. The clause gives back exactly these keys, whatever they hold, because
each stands there as its literal. So the filters of two states of an iteration differ as soon as
their keys do.
-/

namespace VectorClient

open PrimaryKey

namespace Iteration

variable {user clause clause' : String}

/-- The caller's filter and the clause that is added to it, if there is one. -/
def restricted (user : String) : Option String → String
  | none => user
  | some clause => andFilter user clause

theorem andFilter_inj : andFilter user clause = andFilter user clause' ↔ clause = clause' := by
  rw [andFilter, andFilter]
  split
  · exact Iff.rfl
  · exact String.append_right_inj _

theorem andFilter_ne_self (h : Text.isBlank clause = false) : andFilter user clause ≠ user := by
  intro heq
  rw [andFilter] at heq
  split at heq
  · rename_i hblank
    rw [heq, hblank] at h
    cases h
  · change "(" ++ user ++ ") and " ++ clause = user at heq
    have hparenthesis : 0 < "(".length := by decide
    have hlength := congrArg String.length heq
    rw [String.length_append, String.length_append, String.length_append] at hlength
    omega

/-- Clauses that hold something can be told from each other and from none. -/
theorem restricted_inj {clause? clause?' : Option String}
    (h : ∀ clause ∈ clause?, Text.isBlank clause = false)
    (h' : ∀ clause ∈ clause?', Text.isBlank clause = false) :
    restricted user clause? = restricted user clause?' ↔ clause? = clause?' := by
  constructor
  · intro heq
    cases clause? with
    | none =>
        cases clause?' with
        | none => rfl
        | some clause' => exact absurd heq.symm (andFilter_ne_self (h' clause' rfl))
    | some clause =>
        cases clause?' with
        | none => exact absurd heq (andFilter_ne_self (h clause rfl))
        | some clause' => rw [andFilter_inj.mp heq]
  · rintro rfl
    rfl

end Iteration

namespace BandSearch

variable {plan plan' : SearchIteration} {keyName : String} {keys keys' : List PrimaryKey}

/-- Leaves out the rows with these keys. -/
def exclusionClause (keyName : String) (keys : List PrimaryKey) : String :=
  keyName ++ " not in [" ++ literals keys ++ "]"

def exclusionClause? (keyName : String) (keys : List PrimaryKey) : Option String :=
  if keys = [] then none else some (exclusionClause keyName keys)

theorem excluding_eq (plan : SearchIteration) (keys : List PrimaryKey) :
    excluding plan keys = Iteration.restricted plan.search.options.filter
      (exclusionClause? plan.primaryKey.name keys) := by
  rw [excluding, exclusionClause?]
  by_cases hnone : keys = []
  · rw [if_pos (List.isEmpty_iff.mpr hnone), if_pos hnone]
    rfl
  · rw [if_neg (mt List.isEmpty_iff.mp hnone), if_neg hnone]
    rfl

theorem isBlank_exclusionClause : Text.isBlank (exclusionClause keyName keys) = false :=
  Text.isBlank_eq_false_of_mem '[' (by simp [exclusionClause]) (by decide)

theorem eq_of_exclusionClause_eq (hkeys : keys ≠ []) (hkeys' : keys' ≠ [])
    (h : exclusionClause keyName keys = exclusionClause keyName keys') : keys = keys' := by
  rw [exclusionClause, exclusionClause, String.append_left_inj, String.append_right_inj] at h
  have hread := readLiterals_literals_self hkeys
  rw [h, readLiterals_literals_self hkeys'] at hread
  cases hread
  rfl

theorem exclusionClause?_injective : Function.Injective (exclusionClause? keyName) := by
  intro keys keys' heq
  rw [exclusionClause?, exclusionClause?] at heq
  split at heq
  · rename_i hnone
    split at heq
    · rename_i hnone'
      rw [hnone, hnone']
    · cases heq
  · rename_i hsome
    split at heq
    · cases heq
    · rename_i hsome'
      exact eq_of_exclusionClause_eq hsome hsome' (Option.some.inj heq)

/-- Filters for the same search have the same text exactly if they leave out the same keys. -/
theorem excluding_inj (hfilter : plan.search.options.filter = plan'.search.options.filter)
    (hname : plan.primaryKey.name = plan'.primaryKey.name) :
    excluding plan keys = excluding plan' keys' ↔ keys = keys' := by
  have hblank : ∀ keyName keys, ∀ clause ∈ exclusionClause? keyName keys,
      Text.isBlank clause = false := by
    intro keyName keys clause hclause
    rw [exclusionClause?] at hclause
    split at hclause
    · cases hclause
    · cases hclause
      exact isBlank_exclusionClause
  rw [excluding_eq, excluding_eq, ← hfilter, ← hname,
    Iteration.restricted_inj (hblank _ _) (hblank _ _)]
  exact exclusionClause?_injective.eq_iff

end BandSearch

namespace RowCursor

variable {it it' : RowCursor} {keyName : String} {key : PrimaryKey}

/-- Selects the rows with greater keys. -/
def cursorClause (keyName : String) (key : PrimaryKey) : String :=
  keyName ++ " > " ++ key.filterLiteral

theorem filter_eq (it : RowCursor) :
    it.filter = Iteration.restricted it.plan.query.options.filter
      (it.lastKey.map (cursorClause it.plan.primaryKey.name)) := by
  rw [filter]
  cases it.lastKey with
  | none => rfl
  | some key => rfl

theorem isBlank_cursorClause : Text.isBlank (cursorClause keyName key) = false :=
  Text.isBlank_eq_false_of_mem '>' (by simp [cursorClause]) (by decide)

theorem cursorClause_injective : Function.Injective (cursorClause keyName) := by
  intro key key' heq
  rw [cursorClause, cursorClause, String.append_right_inj] at heq
  exact filterLiteral_injective heq

/-- Filters for the same query have the same text exactly if they begin behind the same key. -/
theorem filter_inj (hfilter : it.plan.query.options.filter = it'.plan.query.options.filter)
    (hname : it.plan.primaryKey.name = it'.plan.primaryKey.name) :
    it.filter = it'.filter ↔ it.lastKey = it'.lastKey := by
  have hblank : ∀ keyName (key? : Option PrimaryKey), ∀ clause ∈ key?.map (cursorClause keyName),
      Text.isBlank clause = false := by
    intro keyName key? clause hclause
    obtain ⟨key, _, rfl⟩ := Option.map_eq_some_iff.mp hclause
    exact isBlank_cursorClause
  rw [filter_eq, filter_eq, ← hfilter, ← hname,
    Iteration.restricted_inj (hblank _ _) (hblank _ _)]
  exact (Option.map_injective cursorClause_injective).eq_iff

end RowCursor

namespace Sample

def probing (tied : List PrimaryKey) : BandSearch :=
  ⟨.standard, search, .l2, 0, 0, .ofNat 0, .ofNat 0, tied, [], default, .initialized⟩

def cursorAt (lastKey : Option PrimaryKey) : RowCursor :=
  { RowCursor.ofPlan .standard query with lastKey }

end Sample

namespace Iteration

/-- Every key is read back from its literal, and the keys of a filter are read back from its
clause, up to where that ends. Hence filters for the same search or query with other keys are
other texts. -/
theorem keys_of_filter :
    (∀ (key : PrimaryKey) (t : List Char), NoDigit t →
      readLiteral (key.filterLiteral.toList ++ t) = some (key, t)) ∧
    (∀ it : BandSearch, it.tied ≠ [] →
      it.exclusionFilter = andFilter it.plan.search.options.filter
        (it.plan.primaryKey.name ++ " not in [" ++ literals it.tied ++ "]") ∧
      readLiterals (literals it.tied).toList = some (it.tied, []) ∧
      ∀ t, readLiterals ((literals it.tied).toList ++ ']' :: t) = some (it.tied, ']' :: t)) ∧
    (∀ (it : RowCursor) (key : PrimaryKey), it.lastKey = some key →
      it.filter = andFilter it.plan.query.options.filter
        (it.plan.primaryKey.name ++ " > " ++ key.filterLiteral) ∧
      readLiteral key.filterLiteral.toList = some (key, [])) ∧
    (∀ it it' : BandSearch, it.plan.search.options.filter = it'.plan.search.options.filter →
      it.plan.primaryKey.name = it'.plan.primaryKey.name → it.tied ≠ it'.tied →
      it.exclusionFilter ≠ it'.exclusionFilter) ∧
    (∀ it it' : RowCursor, it.plan.query.options.filter = it'.plan.query.options.filter →
      it.plan.primaryKey.name = it'.plan.primaryKey.name → it.lastKey ≠ it'.lastKey →
      it.filter ≠ it'.filter) := by
  refine ⟨fun key t => readLiteral_filterLiteral key, ?_, ?_, ?_, ?_⟩
  · intro it htied
    refine ⟨?_, readLiterals_literals_self htied, ?_⟩
    · change BandSearch.excluding it.plan it.tied = _
      rw [BandSearch.excluding_eq, BandSearch.exclusionClause?, if_neg htied]
      rfl
    · intro t
      exact readLiterals_literals htied (by simp [NoDigit]) (by simp)
  · intro it key hkey
    refine ⟨?_, readLiteral_filterLiteral_self key⟩
    rw [RowCursor.filter_eq, hkey]
    rfl
  · intro it it' hfilter hname
    exact mt (BandSearch.excluding_inj hfilter hname).mp
  · intro it it' hfilter hname
    exact mt (RowCursor.filter_inj hfilter hname).mp

/-- A key that holds a backslash, a quote, the separator and a bracket. -/
theorem keys_of_filter_quoted :
    let key := PrimaryKey.text "\\\", \"]"
    let tied := [key, .int (-7)]
    (NoDigit [']'] ∧ readLiteral (key.filterLiteral.toList ++ [']']) = some (key, [']'])) ∧
    (tied ≠ [] ∧
      (Sample.probing tied).exclusionFilter = "id not in [\"\\\\\\\", \\\"]\", -7]" ∧
      readLiterals (literals tied).toList = some (tied, [])) ∧
    ((Sample.cursorAt (some key)).filter = "id > \"\\\\\\\", \\\"]\"" ∧
      readLiteral key.filterLiteral.toList = some (key, [])) ∧
    (Sample.probing tied).exclusionFilter ≠ (Sample.probing [key]).exclusionFilter ∧
    (Sample.cursorAt (some key)).filter ≠ (Sample.cursorAt none).filter := by
  intro key tied
  obtain ⟨hliteral, hexclusion, hcursor, hprobes, hcursors⟩ := keys_of_filter
  have hend : NoDigit [']'] := by decide
  have htied : tied ≠ [] := List.cons_ne_nil key _
  obtain ⟨hprobing, hkeys, _⟩ := hexclusion (Sample.probing tied) htied
  obtain ⟨hfilter, hkey⟩ := hcursor (Sample.cursorAt (some key)) key rfl
  refine ⟨⟨hend, hliteral key [']'] hend⟩, ⟨htied, ?_, hkeys⟩, ⟨?_, hkey⟩, ?_, ?_⟩
  · rw [hprobing]
    decide +kernel
  · rw [hfilter]
    decide +kernel
  · exact hprobes (Sample.probing tied) (Sample.probing [key]) rfl rfl (by decide)
  · exact hcursors (Sample.cursorAt (some key)) (Sample.cursorAt none) rfl rfl (by decide)

end Iteration

end VectorClient
