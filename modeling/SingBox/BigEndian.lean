import Mathlib

/-!
# Big-endian bytes

A natural as a fixed number of bytes, most significant first, and back. `decode` reads
any number of bytes; `encode k n` keeps the low `k` bytes of `n`, so that reading them
back gives `n % 256 ^ k` (`decode_encode`).
-/

namespace BigEndian

/-- The low `k` bytes of `n`, most significant first. -/
def encode : Nat → Nat → List UInt8
  | 0, _ => []
  | k + 1, n => (n >>> (8 * k)).toUInt8 :: encode k n

/-- The number whose bytes, most significant first, are `bytes`. -/
def decode (bytes : List UInt8) : Nat :=
  bytes.foldl (fun acc b => acc * 256 + b.toNat) 0

@[simp] theorem length_encode (k n : Nat) : (encode k n).length = k := by
  induction k with
  | zero => rfl
  | succ k ih => simp [encode, ih]

theorem foldl_acc (bytes : List UInt8) (acc : Nat) :
    bytes.foldl (fun acc b => acc * 256 + b.toNat) acc = acc * 256 ^ bytes.length + decode bytes := by
  induction bytes generalizing acc with
  | nil => simp [decode]
  | cons b bytes ih =>
    simp only [decode, List.foldl_cons, List.length_cons] at ih ⊢
    rw [ih, ih (0 * 256 + b.toNat)]
    ring

theorem decode_cons (b : UInt8) (bytes : List UInt8) :
    decode (b :: bytes) = b.toNat * 256 ^ bytes.length + decode bytes := by
  rw [decode, List.foldl_cons, foldl_acc]
  simp

theorem toNat_shiftRight_toUInt8 (n k : Nat) :
    (n >>> (8 * k)).toUInt8.toNat = n / 256 ^ k % 256 := by
  rw [Nat.shiftRight_eq_div_pow, pow_mul]
  simp

/-- Reading back the low `k` bytes of `n` gives `n` modulo `256 ^ k`. -/
theorem decode_encode (k n : Nat) : decode (encode k n) = n % 256 ^ k := by
  induction k with
  | zero => simp [encode, decode, Nat.mod_one]
  | succ k ih =>
    rw [encode, decode_cons, length_encode, ih, toNat_shiftRight_toUInt8, Nat.mod_pow_succ]
    ring

theorem decode_encode_of_lt {k n : Nat} (h : n < 256 ^ k) : decode (encode k n) = n := by
  rw [decode_encode, Nat.mod_eq_of_lt h]

end BigEndian
