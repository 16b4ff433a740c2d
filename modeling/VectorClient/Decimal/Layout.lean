import VectorClient.Decimal.Shortest
import VectorClient.Ieee.Word

/-!
# Texts of floating-point values

A layout says how the shortest decimal of a value is written: which exponents
are positional and which scientific, what follows a whole number, and the texts
of the values that are not finite.
-/

namespace VectorClient

namespace Decimal

/-- The decimal point `places` digits from the right, zeros filling the gap. -/
def insertPoint (digits : String) (places : Nat) : String :=
  if places < digits.length then
    String.ofList (digits.toList.take (digits.length - places)) ++ "."
      ++ String.ofList (digits.toList.drop (digits.length - places))
  else "0." ++ String.ofList (List.replicate (places - digits.length) '0') ++ digits

/-- Positional notation; `suffix` follows a whole number. -/
def positional (wholeSuffix : String) (d : Decimal) : String :=
  let digits := toString d.digits
  if 0 ≤ d.exponent then
    digits ++ String.ofList (List.replicate d.exponent.toNat '0') ++ wholeSuffix
  else insertPoint digits (-d.exponent).toNat

/-- The exponent of the leading digit. -/
def leadingExponent (d : Decimal) : Int := d.exponent + (toString d.digits).length - 1

/-- One digit before the point, the exponent with its sign. -/
def scientific (d : Decimal) : String :=
  let digits := toString d.digits
  let significand := if digits.length = 1 then digits else insertPoint digits (digits.length - 1)
  let e := d.leadingExponent
  significand ++ (if e < 0 then "e-" else "e+") ++ toString e.natAbs

end Decimal

/-- How a floating-point value is written. -/
structure FloatLayout where
  tie : Tie
  /-- Least and greatest leading exponent written positionally; without bounds, every one is. -/
  positional : Option (Int × Int)
  wholeSuffix : String
  nan : String
  infinity : String
  negativeInfinity : String

namespace FloatLayout

open Ieee

def isPositional (layout : FloatLayout) (e : Int) : Bool :=
  match layout.positional with
  | none => true
  | some (least, greatest) => decide (least ≤ e ∧ e ≤ greatest)

def writeDecimal (layout : FloatLayout) (d : Decimal) : String :=
  if layout.isPositional d.leadingExponent then d.positional layout.wholeSuffix else d.scientific

def write {f : Format} (layout : FloatLayout) (w : Word f) : String :=
  if w.isNaN then layout.nan
  else if w.isInfinite then if w.isNegative then layout.negativeInfinity else layout.infinity
  else
    (if w.isNegative then "-" else "")
      ++ if w.magnitude = 0 then "0" ++ layout.wholeSuffix
         else layout.writeDecimal (Decimal.shortest f layout.tie w.magnitude)

end FloatLayout

end VectorClient
