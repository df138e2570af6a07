import Mathlib

/-!
# Unsigned varints

The base-128 encoding of Go's `encoding/binary`: seven bits a byte, the low group first,
and the high bit set on every byte but the last. `put` is `PutUvarint`, `len` the number
of bytes it writes, and `read` is `ReadUvarint` over the bytes a reader hands out, with
its ways to fail: the bytes end (`io.EOF` before the first byte, `io.ErrUnexpectedEOF`
after it), or the value does not fit in 64 bits. Values are naturals; the 64-bit bound
is where `ReadUvarint` checks it.

`read_put`: reading what `put` wrote gives the value back and leaves what followed.
-/

namespace Uvarint

/-- `binary.MaxVarintLen64`. -/
def maxLen : Nat := 10

inductive Error where
  | eof
  | unexpectedEOF
  | overflow
deriving DecidableEq, Repr

/-- `binary.PutUvarint`. -/
def put (x : Nat) : List UInt8 :=
  if x < 0x80 then [x.toUInt8]
  else (x.toUInt8 ||| 0x80) :: put (x >>> 7)
termination_by x
decreasing_by
  rw [Nat.shiftRight_eq_div_pow]
  omega

/-- The number of bytes `put` writes: one for each group of seven bits. -/
def len (x : Nat) : Nat :=
  if x < 0x80 then 1 else len (x >>> 7) + 1
termination_by x
decreasing_by
  rw [Nat.shiftRight_eq_div_pow]
  omega

/-- The loop of `binary.ReadUvarint` from its `i`-th byte on, with the value `x` read so
far at shift `s`. Besides the outcome it returns the bytes it did not take. -/
def readFrom (i x s : Nat) : List UInt8 → Except Error Nat × List UInt8
  | [] => (.error (if i > 0 then .unexpectedEOF else .eof), [])
  | b :: rest =>
    if b < 0x80 then
      if i = maxLen - 1 ∧ b > 1 then (.error .overflow, rest)
      else (.ok (x ||| b.toNat <<< s), rest)
    else if i + 1 < maxLen then readFrom (i + 1) (x ||| (b &&& 0x7f).toNat <<< s) (s + 7) rest
    else (.error .overflow, rest)

/-- `binary.ReadUvarint`. -/
def read (bytes : List UInt8) : Except Error Nat × List UInt8 :=
  readFrom 0 0 0 bytes

theorem put_of_lt {x : Nat} (h : x < 0x80) : put x = [x.toUInt8] := by
  rw [put, if_pos h]

theorem put_of_le {x : Nat} (h : 0x80 ≤ x) : put x = (x.toUInt8 ||| 0x80) :: put (x / 128) := by
  rw [put, if_neg (by omega), Nat.shiftRight_eq_div_pow]

theorem put_ne_nil (x : Nat) : put x ≠ [] := by
  by_cases h : x < 0x80
  · simp [put_of_lt h]
  · simp [put_of_le (Nat.le_of_not_lt h)]

theorem length_put (x : Nat) : (put x).length = len x := by
  induction x using Nat.strong_induction_on with
  | _ x ih =>
    by_cases h : x < 0x80
    · rw [put_of_lt h, len, if_pos h]
      rfl
    · rw [put_of_le (by omega), len, if_neg h, Nat.shiftRight_eq_div_pow, List.length_cons,
        ih (x / 128) (by omega)]

theorem toNat_or_0x80 (x : Nat) : (x.toUInt8 ||| 0x80).toNat = x % 128 + 128 := by
  have hbyte : ∀ b : Fin 256, (b.val ||| 128) = b.val % 128 + 128 := by decide +kernel
  have hmod : x % 256 % 128 = x % 128 := Nat.mod_mod_of_dvd x (by decide)
  rw [UInt8.toNat_or, UInt8.toNat_ofNat', ← hmod]
  exact hbyte ⟨x % 256, Nat.mod_lt x (by decide)⟩

theorem toNat_and_0x7f (b : UInt8) : (b &&& 0x7f).toNat = b.toNat % 128 := by
  rw [UInt8.toNat_and]
  exact Nat.and_two_pow_sub_one_eq_mod _ 7

theorem lt_0x80_iff (b : UInt8) : b < 0x80 ↔ b.toNat < 128 := by
  simp [UInt8.lt_iff_toNat_lt]

theorem one_lt_iff (b : UInt8) : 1 < b ↔ 1 < b.toNat := by
  simp [UInt8.lt_iff_toNat_lt]

theorem or_shiftLeft_eq_add {x s : Nat} (h : x < 2 ^ s) (y : Nat) :
    x ||| y <<< s = x + y * 2 ^ s := by
  rw [Nat.lor_comm, ← Nat.shiftLeft_add_eq_or_of_lt h, Nat.shiftLeft_eq]
  omega

/-- Reading `put y` from the `i`-th byte on, after a value `x` of `7 * i` bits, adds
`y` at shift `7 * i`, as long as the sum fits in 64 bits. -/
theorem readFrom_put (rest : List UInt8) (y : Nat) :
    ∀ i x, x < 2 ^ (7 * i) → x + y * 2 ^ (7 * i) < 2 ^ 64 →
      readFrom i x (7 * i) (put y ++ rest) = (.ok (x + y * 2 ^ (7 * i)), rest) := by
  induction y using Nat.strong_induction_on with
  | _ y ih =>
    intro i x hx hfit
    by_cases hy : y < 0x80
    · have hbyte : (y.toUInt8).toNat = y := by simp [Nat.mod_eq_of_lt (show y < 256 by omega)]
      have hlast : ¬(i = maxLen - 1 ∧ y.toUInt8 > 1) := by
        rintro ⟨rfl, hgt⟩
        rw [gt_iff_lt, one_lt_iff, hbyte] at hgt
        have : 2 * 2 ^ (7 * (maxLen - 1)) ≤ y * 2 ^ (7 * (maxLen - 1)) :=
          Nat.mul_le_mul_right _ hgt
        simp only [maxLen] at this hfit
        omega
      rw [put_of_lt hy, List.singleton_append, readFrom,
        if_pos (by rw [lt_0x80_iff, hbyte]; exact hy), if_neg hlast, hbyte,
        or_shiftLeft_eq_add hx]
    · have hb := toNat_or_0x80 y
      have hpow : 2 ^ (7 * (i + 1)) = 2 ^ (7 * i) * 128 := by
        rw [show 7 * (i + 1) = 7 * i + 7 by omega, Nat.pow_add]
      have hsplit : y * 2 ^ (7 * i) = y % 128 * 2 ^ (7 * i) + y / 128 * 2 ^ (7 * (i + 1)) := by
        rw [hpow]
        conv_lhs => rw [← Nat.mod_add_div y 128]
        ring
      have hi : i + 1 < maxLen := by
        have : 2 ^ (7 * (i + 1)) ≤ y / 128 * 2 ^ (7 * (i + 1)) :=
          Nat.le_mul_of_pos_left _ (by omega)
        have hlt : 2 ^ (7 * (i + 1)) < 2 ^ 64 := by omega
        have := (Nat.pow_lt_pow_iff_right (by decide : 1 < 2)).mp hlt
        simp only [maxLen]
        omega
      have hx' : x + y % 128 * 2 ^ (7 * i) < 2 ^ (7 * (i + 1)) := by
        have : y % 128 * 2 ^ (7 * i) ≤ 127 * 2 ^ (7 * i) :=
          Nat.mul_le_mul_right _ (by omega)
        omega
      rw [put_of_le (by omega), List.cons_append, readFrom,
        if_neg (by rw [lt_0x80_iff, hb]; omega), if_pos hi,
        toNat_and_0x7f, hb, show (y % 128 + 128) % 128 = y % 128 by omega,
        or_shiftLeft_eq_add hx, show 7 * i + 7 = 7 * (i + 1) by omega,
        ih (y / 128) (by omega) (i + 1) _ hx' (by omega)]
      congr 2
      omega

/-- `ReadUvarint` reads back what `PutUvarint` wrote, and leaves the bytes after it. -/
theorem read_put {x : Nat} (hx : x < 2 ^ 64) (rest : List UInt8) :
    read (put x ++ rest) = (.ok x, rest) := by
  have := readFrom_put rest x 0 0 (by decide) (by simpa using hx)
  simpa [read] using this

end Uvarint
