import VectorClient.Ieee.Word

/-!
# Half precision

The fields of a binary32 magnitude are shifted into those of a binary16 magnitude and back. The
exponents of binary16 end 112 below those of binary32. What is above them becomes infinity; what
is below them keeps the exponent zero, and its fraction gives up one more bit for each binade
that it is away, until nothing is left of it.
-/

namespace VectorClient.Ieee

/-- A number without its lower bits, rounded up if the highest of these is set, and another one
of them or the lowest of the others as well: a carry may run through all bits that are kept. -/
def shiftRounded (n shift : Nat) : Nat :=
  let kept := n >>> shift
  let roundBit := 1 <<< (shift - 1)
  if n &&& roundBit ≠ 0 ∧ n &&& (3 * roundBit - 1) ≠ 0 then kept + 1 else kept

/-- A magnitude of binary32 as one of binary16. -/
def narrowMagnitude (m : Nat) : Nat :=
  let exponent := m >>> 23
  let fraction := m &&& 0x7FFFFF
  if exponent = 0xFF then
    0x7C00 ||| (if fraction = 0 then 0 else 0x200) ||| (fraction >>> 13)
  else if 143 ≤ exponent then 0x7C00
  else if 112 < exponent then ((exponent - 112) <<< 10) + shiftRounded fraction 13
  else if 102 ≤ exponent then shiftRounded (fraction ||| 0x800000) (126 - exponent)
  else 0

/-- A magnitude of binary16 as one of binary32. The fraction of a number below the normal ones is
shifted up until its leading bit takes the place before the fraction. -/
def widenMagnitude (m : Nat) : Nat :=
  let exponent := m >>> 10
  let fraction := m &&& 0x3FF
  if m = 0 then 0
  else if exponent = 0x1F then
    if fraction = 0 then 0x7F800000 else 0x7FC00000 ||| (fraction <<< 13)
  else if exponent = 0 then
    let leadingZeros := 9 - fraction.log2
    ((112 - leadingZeros) <<< 23) ||| ((fraction <<< (14 + leadingZeros)) &&& 0x7FFFFF)
  else ((exponent + 112) <<< 23) ||| (fraction <<< 13)

end VectorClient.Ieee
