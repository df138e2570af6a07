import Mathlib

/-!
# Aligned blocks of bit vectors

A prefix of length `n` on `w`-bit values is the block of the `2 ^ (w - n)` values that
share their top `n` bits with a base. This module relates the bitwise forms in which
such blocks are tested (a shifted or masked exclusive or, the base with its low bits
set) to intervals of natural numbers, and gives the successor of a value that is not
the largest.
-/

namespace BitBlock

variable {w : Nat}

open BitVec

theorem toNat_allOnes_ushiftRight (n : Nat) :
    (allOnes w >>> n).toNat = 2 ^ (w - n) - 1 := by
  rw [toNat_ushiftRight, toNat_allOnes]
  apply Nat.eq_of_testBit_eq
  intro i
  rw [Nat.testBit_shiftRight, Nat.testBit_two_pow_sub_one, Nat.testBit_two_pow_sub_one]
  simp only [decide_eq_decide]
  omega

theorem toNat_add_one_of_ne_allOnes (x : BitVec w) (h : x ≠ allOnes w) :
    (x + 1#w).toNat = x.toNat + 1 := by
  have hlt : x.toNat < 2 ^ w - 1 := by
    have hx := x.isLt
    have hne : x.toNat ≠ 2 ^ w - 1 := by
      intro heq
      exact h (BitVec.eq_of_toNat_eq (by rw [heq, toNat_allOnes]))
    omega
  have hw : 0 < w := by
    rcases Nat.eq_zero_or_pos w with rfl | hw
    · simp at hlt
    · exact hw
  rw [toNat_add_of_lt] <;> rw [toNat_ofNat, Nat.mod_eq_of_lt (Nat.one_lt_two_pow (by omega))]
  omega

theorem xor_ushiftRight_eq_zero_iff (x y : BitVec w) (s : Nat) :
    (x ^^^ y) >>> s = 0#w ↔ x.toNat / 2 ^ s = y.toNat / 2 ^ s := by
  rw [ushiftRight_xor_distrib, xor_eq_zero_iff, ← toNat_inj, toNat_ushiftRight,
    toNat_ushiftRight, Nat.shiftRight_eq_div_pow, Nat.shiftRight_eq_div_pow]

theorem and_allOnes_ushiftRight_eq_zero_iff (x : BitVec w) (n : Nat) :
    x &&& allOnes w >>> n = 0#w ↔ x.toNat % 2 ^ (w - n) = 0 := by
  rw [← toNat_inj, toNat_and, toNat_allOnes_ushiftRight, Nat.and_two_pow_sub_one_eq_mod]
  simp

theorem div_eq_div_iff_mem {x y k : Nat} (hk : 0 < k) (hy : y % k = 0) :
    x / k = y / k ↔ y ≤ x ∧ x < y + k := by
  have hydiv := Nat.div_add_mod y k
  have hxdiv := Nat.div_add_mod x k
  have hxmod := Nat.mod_lt x hk
  rw [hy] at hydiv
  constructor
  · intro h
    rw [h] at hxdiv
    omega
  · rintro ⟨hle, hlt⟩
    obtain ⟨r, rfl⟩ := Nat.exists_eq_add_of_le hle
    rw [Nat.add_div_of_dvd_right (Nat.dvd_of_mod_eq_zero hy), Nat.div_eq_of_lt (show r < k by omega),
      Nat.add_zero]

theorem and_not_allOnes_ushiftRight_eq_zero_iff (z : BitVec w) (n : Nat) :
    z &&& ~~~(allOnes w >>> n) = 0#w ↔ z >>> (w - n) = 0#w := by
  constructor
  · intro h
    ext i hi
    have hbit := congrArg (fun v : BitVec w => v.getLsbD (w - n + i)) h
    simp only [getLsbD_and, getLsbD_not, getLsbD_ushiftRight, getLsbD_allOnes, getLsbD_zero] at hbit
    simp only [getElem_ushiftRight, getElem_zero]
    by_cases hin : w - n + i < w
    · simpa [hin, show ¬ (n + (w - n + i) < w) by omega] using hbit
    · exact getLsbD_of_ge z _ (by omega)
  · intro h
    ext i hi
    have hbit := congrArg (fun v : BitVec w => v.getLsbD (i - (w - n))) h
    simp only [getLsbD_ushiftRight, getLsbD_zero] at hbit
    simp only [getElem_and, getElem_not, getElem_ushiftRight, getLsbD_allOnes, getElem_zero]
    by_cases hlow : n + i < w
    · simp [hlow]
    · have hi' : w - n + (i - (w - n)) = i := by omega
      rw [hi'] at hbit
      simp [hlow, ← getLsbD_eq_getElem, hbit]

theorem add_le_of_mod_eq_zero {x d m : Nat} (hd : d ∣ m) (hx : x < m) (hmod : x % d = 0) :
    x + d ≤ m := by
  have hdpos : 0 < d := Nat.pos_of_dvd_of_pos hd (by omega)
  have hq : x / d < m / d := Nat.div_lt_div_of_lt_of_dvd hd hx
  have hle : (x / d + 1) * d ≤ m / d * d := Nat.mul_le_mul_right d hq
  rw [Nat.div_mul_cancel hd, Nat.add_mul, Nat.one_mul,
    Nat.div_mul_cancel (Nat.dvd_of_mod_eq_zero hmod)] at hle
  exact hle

theorem toNat_or_allOnes_ushiftRight (x : BitVec w) (n : Nat)
    (hmask : x &&& allOnes w >>> n = 0#w) :
    (x ||| allOnes w >>> n).toNat = x.toNat + (2 ^ (w - n) - 1) := by
  have hmod := (and_allOnes_ushiftRight_eq_zero_iff x n).mp hmask
  have hbound : x.toNat + 2 ^ (w - n) ≤ 2 ^ w :=
    add_le_of_mod_eq_zero (Nat.pow_dvd_pow 2 (Nat.sub_le w n)) x.isLt hmod
  have hpos : 0 < 2 ^ (w - n) := Nat.two_pow_pos _
  rw [← add_eq_or_of_and_eq_zero _ _ hmask, toNat_add_of_lt] <;>
    rw [toNat_allOnes_ushiftRight]
  omega

theorem xor_ushiftRight_eq_zero_iff_mem (x y : BitVec w) (n : Nat)
    (hmask : y &&& allOnes w >>> n = 0#w) :
    (x ^^^ y) >>> (w - n) = 0#w ↔ y.toNat ≤ x.toNat ∧ x.toNat < y.toNat + 2 ^ (w - n) := by
  rw [xor_ushiftRight_eq_zero_iff]
  exact div_eq_div_iff_mem (Nat.two_pow_pos _) ((and_allOnes_ushiftRight_eq_zero_iff y n).mp hmask)

end BitBlock
