/-!
# Little-endian bytes

The base-256 digits of a number, least significant first.
-/

namespace VectorClient.LittleEndian

/-- The lowest `count` bytes of a number. -/
def encode : Nat → Nat → List UInt8
  | 0, _ => []
  | count + 1, n => UInt8.ofNat (n % 256) :: encode count (n / 256)

def decode : List UInt8 → Nat
  | [] => 0
  | b :: bs => b.toNat + 256 * decode bs

@[simp] theorem length_encode (count n : Nat) : (encode count n).length = count := by
  induction count generalizing n with
  | zero => rfl
  | succ count ih => simp [encode, ih]

theorem decode_encode (count n : Nat) : decode (encode count n) = n % Nat.pow 256 count := by
  induction count generalizing n with
  | zero => simp [encode, decode, Nat.mod_one]
  | succ count ih =>
    change _ = n % (Nat.pow 256 count * 256)
    rw [encode, decode, ih, Nat.mul_comm _ 256, Nat.mod_mul]
    simp

theorem decode_lt (bs : List UInt8) : decode bs < Nat.pow 256 bs.length := by
  induction bs with
  | nil => simp [decode]
  | cons b bs ih =>
    have hb := b.toNat_lt
    change b.toNat + 256 * decode bs < Nat.pow 256 bs.length * 256
    omega

/-- The bytes that were read are written again. -/
theorem encode_decode (bs : List UInt8) : encode bs.length (decode bs) = bs := by
  induction bs with
  | nil => rfl
  | cons b bs ih =>
    have hb := b.toNat_lt
    have hlow : (b.toNat + 256 * decode bs) % 256 = b.toNat := by omega
    have hhigh : (b.toNat + 256 * decode bs) / 256 = decode bs := by omega
    rw [decode, List.length_cons, encode, hlow, hhigh, ih, UInt8.ofNat_toNat]

end VectorClient.LittleEndian
