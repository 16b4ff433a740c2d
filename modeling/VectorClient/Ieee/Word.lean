import VectorClient.Ieee.Format

/-!
# Floating-point words

A word of a format is its bit pattern, so words that differ only in a NaN
payload or in the sign of zero are different words. Equality and order of the
*values* are separate tests: a NaN compares with nothing, itself included, and
the two zeros are equal.

`convert` moves a value between formats: finite values go to the nearest value
of the target, infinities to infinities, and a NaN keeps its sign and the
leading bits of its payload and becomes quiet.
-/

namespace VectorClient.Ieee

structure Word (f : Format) where
  bits : BitVec f.width
deriving DecidableEq, Repr

abbrev Binary16 := Word .binary16
abbrev BFloat16 := Word .bfloat16
abbrev Binary32 := Word .binary32
abbrev Binary64 := Word .binary64

namespace Word

variable {f g : Format}

instance : Inhabited (Word f) := ⟨⟨0⟩⟩

def ofNat (n : Nat) : Word f := ⟨BitVec.ofNat _ n⟩

def toNat (w : Word f) : Nat := w.bits.toNat

@[simp] theorem ofNat_toNat (w : Word f) : ofNat w.toNat = w := by
  cases w; simp [ofNat, toNat]

def magnitude (w : Word f) : Nat := w.toNat % f.signBit

def isNegative (w : Word f) : Bool := decide (f.signBit ≤ w.toNat)

/-- The word with the given sign and magnitude. -/
def ofMagnitude (negative : Bool) (m : Nat) : Word f :=
  ofNat (if negative then f.signBit + m else m)

def isNaN (w : Word f) : Bool := decide (f.infinity < w.magnitude)

def isInfinite (w : Word f) : Bool := decide (w.magnitude = f.infinity)

def isFinite (w : Word f) : Bool := decide (w.magnitude < f.infinity)

/-- The quiet NaN without payload. -/
def nan : Word f := ofMagnitude false (f.infinity + f.quietBit)

/-- The word itself, every NaN replaced by `nan`. -/
def canonical (w : Word f) : Word f := if w.isNaN then nan else w

def abs (w : Word f) : Word f := ofMagnitude false w.magnitude

def neg (w : Word f) : Word f := ofMagnitude (!w.isNegative) w.magnitude

/-- Position of a word that is not a NaN in the order of values; the zeros share one. -/
def rank (w : Word f) : Int := if w.isNegative then -w.magnitude else w.magnitude

/-- The exact value of a finite word, counted in units of its format. -/
def signedUnits (w : Word f) : Int :=
  if w.isNegative then -(f.units w.magnitude) else f.units w.magnitude

def sameValue (a b : Word f) : Bool := !a.isNaN && !b.isNaN && a.rank == b.rank

def less (a b : Word f) : Bool := !a.isNaN && !b.isNaN && decide (a.rank < b.rank)

def lessEq (a b : Word f) : Bool := !a.isNaN && !b.isNaN && decide (a.rank ≤ b.rank)

/-- The larger of two values; a NaN gives way to the other operand. -/
def maximum (a b : Word f) : Word f :=
  if a.isNaN then b else if b.isNaN then a else if a.less b then b else a

/-- A count of units of `f` as a fraction of units of `g`, rounded to the nearest magnitude. -/
def convertMagnitude (f g : Format) (m : Nat) : Nat :=
  g.nearest (f.units m * Nat.pow 2 (g.scale - f.scale)) (Nat.pow 2 (f.scale - g.scale))

/-- The leading payload bits of a NaN of `f` that fit into `g`, as a quiet NaN of `g`. -/
def convertNaN (f g : Format) (m : Nat) : Nat :=
  let payload := (m - f.infinity) * Nat.pow 2 g.fractionBits / Nat.pow 2 f.fractionBits
  g.infinity + (if payload % (2 * g.quietBit) < g.quietBit then payload + g.quietBit else payload)

/-- The nearest value of another format. -/
def convert (g : Format) (w : Word f) : Word g :=
  ofMagnitude w.isNegative <|
    if w.isNaN then convertNaN f g w.magnitude
    else if w.isInfinite then g.infinity
    else convertMagnitude f g w.magnitude

/-- The value nearest to an integer. -/
def ofInt (i : Int) : Word f := ofMagnitude (decide (i < 0)) (f.ofNat i.natAbs)

end Word

end VectorClient.Ieee
