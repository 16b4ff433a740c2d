/-!
# Classes of characters

A class of characters is a list of ranges of code points. `inRanges` looks a
character up; a character below every range is in none of them.
-/

namespace VectorClient.Text

/-- The characters from one code point to another, both included. -/
structure CharRange where
  first : Nat
  last : Nat

namespace CharRange

def contains (r : CharRange) (c : Char) : Bool :=
  decide (r.first ≤ c.toNat ∧ c.toNat ≤ r.last)

/-- Each range holds a code point and ends before the next one begins, with a gap between. -/
def ascending : List CharRange → Bool
  | [] => true
  | [r] => decide (r.first ≤ r.last)
  | r :: next :: rest =>
    decide (r.first ≤ r.last ∧ r.last + 1 < next.first) && ascending (next :: rest)

end CharRange

/-- Whether a character is in the class. -/
def inRanges (ranges : List CharRange) (c : Char) : Bool := ranges.any (·.contains c)

theorem inRanges_eq_false_of_lt {ranges : List CharRange} {c : Char}
    (h : ∀ r ∈ ranges, c.toNat < r.first) : inRanges ranges c = false := by
  rw [inRanges, List.any_eq_false]
  intro r hr hc
  have := (of_decide_eq_true hc).1
  have := h r hr
  omega

end VectorClient.Text
