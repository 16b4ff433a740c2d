import VectorClient.Text.CharRange

/-!
# Blanks and numbers in text

The blank characters are those with the Unicode property White_Space. A number is
read from decimal digits with an optional plus sign, up to the greatest 64-bit one.
-/

namespace VectorClient.Text

def blanks : List CharRange :=
  [⟨0x09, 0x0D⟩, ⟨0x20, 0x20⟩, ⟨0x85, 0x85⟩, ⟨0xA0, 0xA0⟩, ⟨0x1680, 0x1680⟩, ⟨0x2000, 0x200A⟩,
    ⟨0x2028, 0x2029⟩, ⟨0x202F, 0x202F⟩, ⟨0x205F, 0x205F⟩, ⟨0x3000, 0x3000⟩]

def isBlankChar (c : Char) : Bool := inRanges blanks c

example : CharRange.ascending blanks := by decide
example : ∀ n < 128, (Char.ofNat n).isWhitespace → isBlankChar (Char.ofNat n) := by decide

/-- Whether a text holds nothing but blanks. -/
def isBlank (s : String) : Bool := s.toList.all isBlankChar

theorem isBlank_eq_false_of_mem {s : String} (c : Char) (h : c ∈ s.toList)
    (hc : isBlankChar c = false) : isBlank s = false :=
  List.all_eq_false.mpr ⟨c, h, by rw [hc]; decide⟩

/-- The text without the blanks at its two ends. -/
def trimmed (s : String) : List Char :=
  ((s.toList.dropWhile isBlankChar).reverse.dropWhile isBlankChar).reverse

def digitValue (c : Char) : Nat := c.toNat - '0'.toNat

def isDigit (c : Char) : Bool := decide ('0' ≤ c ∧ c ≤ '9')

/-- The number written by digits, if there are any and it fits 64 bits. -/
def digitsValue? (cs : List Char) : Option Nat :=
  if cs.isEmpty || !cs.all isDigit then none
  else
    let n := cs.foldl (fun n c => n * 10 + digitValue c) 0
    if n < UInt64.size then some n else none

def natural? (cs : List Char) : Option Nat :=
  match cs with
  | '+' :: rest => digitsValue? rest
  | rest => digitsValue? rest

end VectorClient.Text
