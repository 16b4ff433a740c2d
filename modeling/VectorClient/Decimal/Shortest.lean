import VectorClient.Ieee.Format

/-!
# Shortest decimals that read back

The reals that round to a finite magnitude form an interval around its value:
halfway to the neighbour on either side, the ends included when the magnitude is
even. `shortest` walks the decimal grids from coarse to fine and takes the first
grid with a point in that interval, hence the fewest digits; of the two grid
points next to the value it takes the nearer one.

All bounds are counted in quarters of a unit of the format, where the halfway
points are whole numbers, so every comparison is one between natural numbers.
-/

namespace VectorClient

/-- The number `digits * 10 ^ exponent`. -/
structure Decimal where
  digits : Nat
  exponent : Int
deriving DecidableEq, Repr

/-- Which of two equally near grid points is taken. -/
inductive Tie where
  | toEven
  | upward
deriving DecidableEq, Repr

namespace Decimal

open Ieee

/-- The reals that round to one magnitude, in quarters of a unit. -/
structure Interval where
  low : Nat
  value : Nat
  high : Nat
  closed : Bool

/-- Below a power of two the neighbour is only half as far away. -/
def Interval.ofMagnitude (f : Format) (m : Nat) : Interval :=
  let binade := m / Nat.pow 2 f.fractionBits - 1
  let value := 4 * f.units m
  let narrow := m % Nat.pow 2 f.fractionBits = 0 ∧ 1 < m / Nat.pow 2 f.fractionBits
  { low := value - (if narrow then Nat.pow 2 binade else 2 * Nat.pow 2 binade)
    value
    high := value + 2 * Nat.pow 2 binade
    closed := m % 2 == 0 }

/-- Whether `x / c` quarters of a unit lie in the interval. -/
def Interval.contains (i : Interval) (x c : Nat) : Bool :=
  if i.closed then decide (i.low * c ≤ x ∧ x ≤ i.high * c)
  else decide (i.low * c < x ∧ x < i.high * c)

/-- The point of the grid of multiples of `10 ^ p` to write for the interval, if one lies in it. -/
def Interval.gridPoint (f : Format) (tie : Tie) (i : Interval) (p : Int) : Option Nat :=
  let step := Nat.pow 10 p.toNat * Nat.pow 2 (f.scale + 2)
  let c := Nat.pow 10 (-p).toNat
  let below := i.value * c / step
  let rest := i.value * c % step
  match i.contains (below * step) c, i.contains ((below + 1) * step) c with
  | true, true =>
    if 2 * rest < step then some below
    else if step < 2 * rest then some (below + 1)
    else match tie with
      | .toEven => some (if below % 2 = 0 then below else below + 1)
      | .upward => some (below + 1)
  | true, false => some below
  | false, true => some (below + 1)
  | false, false => none

/-- The first grid with a point in the interval, from `10 ^ p` downward. -/
def search (f : Format) (tie : Tie) (i : Interval) : Nat → Int → Option Decimal
  | 0, _ => none
  | n + 1, p =>
    match i.gridPoint f tie p with
    | some d => some ⟨d, p⟩
    | none => search f tie i n (p - 1)

/-- A power of ten above the value of `u` units; `0.30103` is the logarithm of two. -/
def startExponent (f : Format) (u : Nat) : Int :=
  ((u.log2 - f.scale : Int) * 30103).fdiv 100000 + 2

/-- The shortest decimal that rounds to a positive finite magnitude. -/
def shortest (f : Format) (tie : Tie) (m : Nat) : Decimal :=
  let u := f.units m
  match search f tie (.ofMagnitude f m) (f.fractionBits / 3 + 6) (startExponent f u) with
  | some d => d
  | none => ⟨u * Nat.pow 5 f.scale, -f.scale⟩

end Decimal

end VectorClient
