/-!
# Hybrid timestamps

A server timestamp is a 64-bit word: wall-clock milliseconds in the upper 46 bits
and a logical counter in the lower 18. Milliseconds that do not fit lose their
upper bits.
-/

namespace VectorClient.Timestamp

def logicalBits : Nat := 18

def compose (milliseconds logical : Nat) : Nat :=
  (milliseconds <<< logicalBits) % UInt64.size ||| logical

def physical (ts : Nat) : Nat := ts >>> logicalBits

def logical (ts : Nat) : Nat := ts % (1 <<< logicalBits)

/-- The timestamp of a wall clock, for servers that report none. -/
def ofClock (milliseconds : Nat) : Nat :=
  compose (if milliseconds < UInt64.size then milliseconds else physical (UInt64.size - 1)) 0

/-- A reported timestamp, or that of the wall clock where none was reported. -/
def orClock (reported milliseconds : Nat) : Nat :=
  if reported = 0 then ofClock milliseconds else reported

/-- Guarantees: the newest data, no freshness at all, a staleness that the server chooses. -/
def strong : Nat := 0

def eventual : Nat := 1

def bounded : Nat := 2

end VectorClient.Timestamp
