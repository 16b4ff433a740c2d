/-!
# Association lists

The one equation about look-ups that dictionaries and write logs are built on.
-/

namespace VectorClient

theorem lookup_cons_eq {κ α : Type} [BEq κ] [LawfulBEq κ] [DecidableEq κ] (k key : κ) (value : α)
    (rest : List (κ × α)) :
    ((key, value) :: rest).lookup k = if k = key then some value else rest.lookup k := by
  by_cases h : k = key
  · simp [h]
  · simp [List.lookup_cons, beq_false_of_ne h, h]

end VectorClient
