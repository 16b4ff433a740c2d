import VectorClient.Json.Value

/-!
# Numbers as they are written

A numeral keeps its digits. One without point and exponent that fits a 64-bit
integer, signed or unsigned, is that integer. Every other numeral is a double:
as many leading digits as fit into 64 bits make a significand, which is rounded
once and then multiplied or divided by a power of ten, the powers themselves
being rounded. The result can therefore differ from the nearest double in its
last place. Numerals beyond the largest double have no value.
-/

namespace VectorClient.Json

open Ieee

structure Numeral where
  negative : Bool
  whole : List Nat
  fraction : List Nat
  /-- Sign and digits of the exponent. -/
  exponent : Option (Bool × List Nat)
deriving Repr

namespace Numeral

def maxSignificand : Nat := UInt64.size - 1

/-- Appends digits while the number fits 64 bits; the second part counts the digits left over. -/
def appendDigits : Nat → List Nat → Nat × Nat
  | n, [] => (n, 0)
  | n, d :: ds => if n * 10 + d ≤ maxSignificand then appendDigits (n * 10 + d) ds
                  else (n, (d :: ds).length)

def digitsValue (ds : List Nat) : Nat := ds.foldl (fun n d => n * 10 + d) 0

/-- The double magnitude of a power of ten. -/
def power (k : Nat) : Nat := Format.binary64.ofNat (Nat.pow 10 k)

/-- Divides by `10 ^ k`, by at most 308 powers at a time. -/
def divPower (m k : Nat) : Nat :=
  if k ≤ 308 then Format.binary64.div m (power k)
  else if m = 0 then 0
  else divPower (Format.binary64.div m (power 308)) (k - 308)
termination_by k

/-- The magnitude of `significand * 10 ^ e`, unless it is too large. -/
def scaled (significand : Nat) (e : Int) : Option Nat :=
  let m := Format.binary64.ofNat significand
  if e < 0 then some (divPower m (-e).toNat)
  else if m = 0 then some 0
  else if 308 < e then none
  else
    let product := Format.binary64.mul m (power e.toNat)
    if product < Format.binary64.infinity then some product else none

def exponentValue (n : Numeral) : Int :=
  match n.exponent with
  | none => 0
  | some (negative, ds) => if negative then -(digitsValue ds : Int) else digitsValue ds

/-- The double that a numeral denotes. -/
def toDouble? (n : Numeral) : Option Binary64 :=
  let (significand, dropped) := appendDigits 0 n.whole
  let (significand, unread) := appendDigits significand n.fraction
  let places : Int := dropped - (n.fraction.length - unread : Nat)
  (scaled significand (places + n.exponentValue)).map (Word.ofMagnitude n.negative)

/-- The whole number that a numeral denotes, if it is written as one and fits 64 bits.
Minus zero is not a whole number. -/
def toInt? (n : Numeral) : Option Int :=
  if n.fraction.isEmpty && n.exponent.isNone then
    let m := digitsValue n.whole
    if n.negative then if 0 < m ∧ m ≤ UInt64.size / 2 then some (-m) else none
    else if m ≤ maxSignificand then some m else none
  else none

/-- The number that a numeral denotes. -/
def toJson? (n : Numeral) : Option Json :=
  match n.toInt? with
  | some i => some (.int i)
  | none => n.toDouble?.map .double

end Numeral

end VectorClient.Json
