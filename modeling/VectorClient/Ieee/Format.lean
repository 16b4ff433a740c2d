/-!
# Binary floating-point formats

A format is given by the widths of its exponent and fraction fields. Words are
read without their sign first: a *magnitude* is the lower part of a word, below
the sign bit. Every finite magnitude denotes a whole number of *units*, the unit
being the smallest positive value `2 ^ (-scale)` of the format, so exact
arithmetic on values is arithmetic on natural numbers.

`nearest` is the inverse direction: it rounds a nonnegative fraction of units to
the closest magnitude, a tie going to the even one, and returns infinity when
the fraction is too large. Magnitudes are numbered in the order of their values,
so a carry out of the fraction field is the next binade and needs no case.
-/

namespace VectorClient.Ieee

/-- The integer closest to `n / d`; halfway between two integers, the even one. -/
def roundHalfEven (n d : Nat) : Nat :=
  if 2 * (n % d) < d ∨ (2 * (n % d) = d ∧ n / d % 2 = 0) then n / d else n / d + 1

/-- The layout of a binary floating-point word. -/
structure Format where
  exponentBits : Nat
  fractionBits : Nat
deriving DecidableEq, Repr

namespace Format

abbrev binary16 : Format := ⟨5, 10⟩
abbrev bfloat16 : Format := ⟨8, 7⟩
abbrev binary32 : Format := ⟨8, 23⟩
abbrev binary64 : Format := ⟨11, 52⟩

variable (f : Format)

abbrev width : Nat := 1 + f.exponentBits + f.fractionBits

/-- Magnitudes lie below the sign bit. -/
def signBit : Nat := Nat.pow 2 (f.exponentBits + f.fractionBits)

/-- The leading fraction bit, which tells a quiet NaN from a signalling one. -/
def quietBit : Nat := Nat.pow 2 (f.fractionBits - 1)

/-- The magnitude of infinity; the magnitudes above it are the NaNs. -/
def infinity : Nat := (Nat.pow 2 f.exponentBits - 1) * Nat.pow 2 f.fractionBits

/-- The unit of the format is `2 ^ (-scale)`. -/
def scale : Nat := Nat.pow 2 (f.exponentBits - 1) - 2 + f.fractionBits

/-- The value of a finite magnitude, counted in units. -/
def units (m : Nat) : Nat :=
  if m < Nat.pow 2 f.fractionBits then m
  else (Nat.pow 2 f.fractionBits + m % Nat.pow 2 f.fractionBits) *
    Nat.pow 2 (m / Nat.pow 2 f.fractionBits - 1)

/-- The magnitude whose value is nearest to `n / d` units. -/
def nearest (n d : Nat) : Nat :=
  let binade := (n / d).log2 - f.fractionBits
  min f.infinity (binade * Nat.pow 2 f.fractionBits + roundHalfEven n (d * Nat.pow 2 binade))

/-- The magnitude nearest to a natural number. -/
def ofNat (n : Nat) : Nat := f.nearest (n * Nat.pow 2 f.scale) 1

/-- The product of two finite magnitudes, rounded once. -/
def mul (a b : Nat) : Nat := f.nearest (f.units a * f.units b) (Nat.pow 2 f.scale)

/-- The quotient of two finite magnitudes, rounded once. -/
def div (a b : Nat) : Nat := f.nearest (f.units a * Nat.pow 2 f.scale) (f.units b)

end Format

example : Format.binary32.scale = 149 ∧ Format.binary64.scale = 1074 := by decide
example : Format.binary16.infinity = 0x7C00 ∧ Format.binary16.scale = 24 := by decide

end VectorClient.Ieee
