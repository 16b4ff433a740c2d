import VectorClient.Text.CharRange

/-!
# Characters that a display may leave out

The characters with the property Default_Ignorable_Code_Point of Unicode 17.0
have no sign of their own: joiners, fillers, selectors, tags, and the code
points kept for more of them.
-/

namespace VectorClient.Text

def defaultIgnorables : List CharRange :=
  [⟨0xAD, 0xAD⟩, ⟨0x034F, 0x034F⟩, ⟨0x061C, 0x061C⟩, ⟨0x115F, 0x1160⟩, ⟨0x17B4, 0x17B5⟩,
    ⟨0x180B, 0x180F⟩, ⟨0x200B, 0x200F⟩, ⟨0x202A, 0x202E⟩, ⟨0x2060, 0x206F⟩, ⟨0x3164, 0x3164⟩,
    ⟨0xFE00, 0xFE0F⟩, ⟨0xFEFF, 0xFEFF⟩, ⟨0xFFA0, 0xFFA0⟩, ⟨0xFFF0, 0xFFF8⟩, ⟨0x1BCA0, 0x1BCA3⟩,
    ⟨0x1D173, 0x1D17A⟩, ⟨0xE0000, 0xE0FFF⟩]

/-- Whether a display that cannot show a character leaves it out. -/
def isDefaultIgnorable (c : Char) : Bool := inRanges defaultIgnorables c

example : CharRange.ascending defaultIgnorables := by decide
example : isDefaultIgnorable '\u3164' = true ∧ isDefaultIgnorable '\u3000' = false := by decide

/-- Nothing before the soft hyphen is left out. -/
theorem isDefaultIgnorable_eq_false_of_lt {c : Char} (h : c.toNat < 0xAD) :
    isDefaultIgnorable c = false := by
  have first : ∀ r ∈ defaultIgnorables, 0xAD ≤ r.first := by decide
  exact inRanges_eq_false_of_lt fun r hr => Nat.lt_of_lt_of_le h (first r hr)

end VectorClient.Text
