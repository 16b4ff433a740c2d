import VectorClient.Ieee.Word

/-!
# Rounded arithmetic

Sum, difference and product of two words: the exact result, rounded once to the
nearest value of the format. An exact sum of zero is negative only if both
operands are. Operations without a value give the NaN without payload.
-/

namespace VectorClient.Ieee.Word

variable {f : Format}

/-- The word nearest to an exact nonzero number of units, or a zero of the given sign. -/
def ofUnits (zeroNegative : Bool) (u : Int) : Word f :=
  if u = 0 then ofMagnitude zeroNegative 0
  else ofMagnitude (decide (u < 0)) (f.nearest u.natAbs 1)

def add (a b : Word f) : Word f :=
  if a.isNaN || b.isNaN then nan
  else if a.isInfinite then
    if b.isInfinite && a.isNegative != b.isNegative then nan else a
  else if b.isInfinite then b
  else ofUnits (a.isNegative && b.isNegative) (a.signedUnits + b.signedUnits)

def sub (a b : Word f) : Word f := a.add b.neg

def mul (a b : Word f) : Word f :=
  if a.isNaN || b.isNaN then nan
  else
    let negative := a.isNegative != b.isNegative
    if a.isInfinite || b.isInfinite then
      if a.magnitude = 0 || b.magnitude = 0 then nan else ofMagnitude negative f.infinity
    else ofMagnitude negative (f.mul a.magnitude b.magnitude)

instance : Add (Word f) := ⟨add⟩
instance : Sub (Word f) := ⟨sub⟩
instance : Mul (Word f) := ⟨mul⟩

end VectorClient.Ieee.Word
