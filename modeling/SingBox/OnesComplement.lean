import SingBox.BigEndian

/-!
# One's-complement sums of bytes

The Internet checksum of RFC 1071. The bytes are read as 16-bit big-endian words, an odd
last byte as the high byte of a word, and the words are added (`wordSum`). The carries out
of 16 bits are then added back in until none is left (`fold`). A checksum field holds the
complement of the folded sum of everything else, and a receiver accepts when the folded sum
over the whole, field included, is `0xFFFF`.

`fold n` is `0` for `n = 0` and otherwise the one of `1 .. 0xFFFF` congruent to `n`
modulo `0xFFFF` (`fold_eq`). So `0x0000` and `0xFFFF` are the two zeros of one's-complement
arithmetic, and a nonzero sum never folds to `0x0000`. Complementing a positive sum
therefore always verifies (`fold_add_complement`). Sending the sum itself, the complement
of the complement, verifies exactly when the sum is a multiple of `0xFFFF`
(`fold_add_fold_eq_max_iff`).
-/

namespace OnesComplement

/-- The sum of the 16-bit big-endian words of `bytes`. -/
def wordSum : List UInt8 → Nat
  | [] => 0
  | [hi] => hi.toNat * 256
  | hi :: lo :: bytes => (hi.toNat * 256 + lo.toNat) + wordSum bytes

/-- The end-around carry: the bits above the low 16 are added back until none is left. -/
def fold (n : Nat) : Nat :=
  if n < 65536 then n else fold (n % 65536 + n / 65536)
termination_by n
decreasing_by omega

/-! ### Folding -/

/-- Each carry round keeps the value modulo `0xFFFF`, since `0x10000` is `1` there. -/
theorem fold_eq (n : Nat) : fold n = if n = 0 then 0 else (n - 1) % 65535 + 1 := by
  induction n using Nat.strong_induction_on with
  | _ n ih =>
    rw [fold]
    split
    · split <;> omega
    · have hlt : n % 65536 + n / 65536 < n := by omega
      rw [ih _ hlt]
      split <;> split <;> omega

@[simp] theorem fold_zero : fold 0 = 0 := by
  simp [fold_eq]

theorem fold_of_lt {n : Nat} (h : n < 65536) : fold n = n := by
  rw [fold_eq]
  split <;> omega

theorem fold_pos {n : Nat} (h : 0 < n) : 0 < fold n := by
  rw [fold_eq, if_neg (by omega)]
  omega

theorem fold_le (n : Nat) : fold n ≤ 65535 := by
  rw [fold_eq]
  split <;> omega

theorem fold_lt (n : Nat) : fold n < 65536 :=
  Nat.lt_succ_of_le (fold_le n)

theorem fold_mod (n : Nat) : fold n % 65535 = n % 65535 := by
  rw [fold_eq]
  split <;> omega

theorem fold_add_fold (a b : Nat) : fold (a + fold b) = fold (a + b) := by
  rw [fold_eq b]
  split
  · subst b
    rfl
  · rw [fold_eq, fold_eq (a + b)]
    split <;> split <;> omega

theorem fold_fold_add (a b : Nat) : fold (fold a + b) = fold (a + b) := by
  rw [Nat.add_comm, fold_add_fold, Nat.add_comm]

theorem fold_eq_max_iff (n : Nat) : fold n = 65535 ↔ 0 < n ∧ n % 65535 = 0 := by
  rw [fold_eq]
  split <;> omega

/-- The complement of the folded sum, added to the sum, verifies. -/
theorem fold_add_complement {n : Nat} (h : 0 < n) : fold (n + (65535 - fold n)) = 65535 := by
  have hle := fold_le n
  rw [fold_eq_max_iff, fold_eq n, if_neg (by omega)]
  omega

/-- The folded sum itself, added to the sum, verifies only for a multiple of `0xFFFF`, which
`0xFFFF` being odd reduces to the sum itself. -/
theorem fold_add_fold_eq_max_iff (n : Nat) :
    fold (n + fold n) = 65535 ↔ 0 < n ∧ n % 65535 = 0 := by
  have hsum_mod : (n + fold n) % 65535 = 2 * n % 65535 := by
    rw [Nat.add_mod, fold_mod, ← Nat.add_mod, two_mul]
  rw [fold_eq_max_iff, hsum_mod]
  constructor
  · rintro ⟨hsum, hzero⟩
    have hn : 0 < n := by
      rcases Nat.eq_zero_or_pos n with rfl | hn
      · rw [fold_zero] at hsum
        exact absurd hsum (lt_irrefl 0)
      · exact hn
    have hcoprime : Nat.Coprime 65535 2 := by norm_num
    exact ⟨hn, Nat.mod_eq_zero_of_dvd
      (hcoprime.dvd_of_dvd_mul_left (Nat.dvd_of_mod_eq_zero hzero))⟩
  · rintro ⟨hn, hzero⟩
    refine ⟨Nat.add_pos_left hn _, ?_⟩
    rw [Nat.mul_mod, hzero]

/-! ### Word sums -/

@[simp] theorem wordSum_nil : wordSum [] = 0 := rfl

theorem wordSum_cons_cons (hi lo : UInt8) (bytes : List UInt8) :
    wordSum (hi :: lo :: bytes) = hi.toNat * 256 + lo.toNat + wordSum bytes := rfl

theorem head_mul_le_wordSum (bytes : List UInt8) : (bytes.getD 0 0).toNat * 256 ≤ wordSum bytes := by
  match bytes with
  | [] => simp
  | [hi] => simp [wordSum]
  | hi :: lo :: bytes =>
    rw [wordSum_cons_cons]
    simp only [List.getD_cons_zero]
    omega

theorem wordSum_append {bytes : List UInt8} (h : bytes.length % 2 = 0) (rest : List UInt8) :
    wordSum (bytes ++ rest) = wordSum bytes + wordSum rest := by
  fun_induction wordSum bytes with
  | case1 => simp
  | case2 hi => simp at h
  | case3 hi lo bytes ih =>
    simp only [List.length_cons] at h
    simp only [List.cons_append, wordSum_cons_cons, ih (by omega)]
    omega

theorem wordSum_pair (hi lo : UInt8) : wordSum [hi, lo] = BigEndian.decode [hi, lo] := by
  simp [wordSum_cons_cons, BigEndian.decode]

theorem wordSum_encode_two (n : Nat) : wordSum (BigEndian.encode 2 n) = n % 65536 := by
  have hdecode := BigEndian.decode_encode 2 n
  simp only [BigEndian.encode] at hdecode ⊢
  rw [wordSum_pair, hdecode]
  norm_num

theorem wordSum_encode_four (n : Nat) :
    wordSum (BigEndian.encode 4 n) = n / 65536 % 65536 + n % 65536 := by
  simp only [BigEndian.encode, wordSum_cons_cons, wordSum_nil, BigEndian.toNat_shiftRight_toUInt8]
  omega

@[simp] theorem wordSum_replicate_zero (k : Nat) : wordSum (List.replicate k 0) = 0 := by
  induction k using Nat.strong_induction_on with
  | _ k ih =>
    match k, ih with
    | 0, _ => rfl
    | 1, _ => rfl
    | k + 2, ih =>
      rw [List.replicate_succ, List.replicate_succ, wordSum_cons_cons, ih k (by omega)]
      rfl

end OnesComplement
