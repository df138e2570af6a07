import SingBox.BitBlock

/-!
# Addresses and prefixes

The part of `net/netip` that the FakeIP store (`dns/transport/fakeip`) uses. An
`Addr` is the zero value, an IPv4 address or an IPv6 address; zones are left out, since
`netip.ParsePrefix` refuses them and `Next` keeps none. A `Prefix` is a valid one: an
invalid prefix is the `Option` around it. `broadcastAddress` is the store's own helper.

For the store's arithmetic a prefix is a block of naturals: `base` is its address,
`size` the number of addresses it covers. When its host bits are clear, membership,
the broadcast address and the successor are read off `base` and `size`
(`Contains_iff`, `broadcastAddress_val`, `Next_val`).
-/

namespace SingBox

inductive Addr where
  | zero
  | v4 (bits : BitVec 32)
  | v6 (bits : BitVec 128)
deriving DecidableEq, Repr

namespace Addr

def IsValid : Addr → Bool
  | zero => false
  | _ => true

def Is4 : Addr → Bool
  | v4 _ => true
  | _ => false

def Is6 : Addr → Bool
  | v6 _ => true
  | _ => false

/-- `Addr.Next`: the following address, or the zero value past the last one. -/
def Next : Addr → Addr
  | zero => zero
  | v4 b => if b = BitVec.allOnes 32 then zero else v4 (b + 1#32)
  | v6 b => if b = BitVec.allOnes 128 then zero else v6 (b + 1#128)

/-- The address as a natural number. -/
def val : Addr → Nat
  | zero => 0
  | v4 b => b.toNat
  | v6 b => b.toNat

end Addr

/-- A valid `netip.Prefix`: an address and a length at most its bit length. -/
inductive Prefix where
  | v4 (ip : BitVec 32) (bits : Fin 33)
  | v6 (ip : BitVec 128) (bits : Fin 129)
deriving DecidableEq, Repr

namespace Prefix

/-- `Prefix.Addr`. -/
def ip : Prefix → Addr
  | v4 ip _ => .v4 ip
  | v6 ip _ => .v6 ip

def Bits : Prefix → Nat
  | v4 _ bits => bits
  | v6 _ bits => bits

/-- `mask6`: the top `n` bits of a 128-bit value. -/
def mask6 (n : Nat) : BitVec 128 :=
  ~~~(BitVec.allOnes 128 >>> n)

def Contains : Prefix → Addr → Bool
  | v4 ip bits, .v4 b => (b ^^^ ip) >>> (32 - bits.val) == 0#32
  | v6 ip bits, .v6 b => (b ^^^ ip) &&& mask6 bits == 0#128
  | _, _ => false

/-- The host bits of the prefix's address are clear, as `Prefix.Masked` leaves them. -/
def IsMasked : Prefix → Bool
  | v4 ip bits => ip &&& BitVec.allOnes 32 >>> bits.val == 0#32
  | v6 ip bits => ip &&& BitVec.allOnes 128 >>> bits.val == 0#128

/-- The bit length of the prefix's family. -/
def width : Prefix → Nat
  | v4 _ _ => 32
  | v6 _ _ => 128

/-- The address is of the prefix's family. -/
def SameFamily : Prefix → Addr → Bool
  | v4 _ _, .v4 _ => true
  | v6 _ _, .v6 _ => true
  | _, _ => false

def base (p : Prefix) : Nat :=
  p.ip.val

def size (p : Prefix) : Nat :=
  2 ^ (p.width - p.Bits)

end Prefix

/-- `broadcastAddress` of the FakeIP store: the prefix's address with every host bit
set. -/
def broadcastAddress : Prefix → Addr
  | .v4 ip bits => .v4 (ip ||| BitVec.allOnes 32 >>> bits.val)
  | .v6 ip bits => .v6 (ip ||| BitVec.allOnes 128 >>> bits.val)

namespace Prefix

variable (p : Prefix)

theorem val_inj {a b : Addr} (ha : p.SameFamily a = true) (hb : p.SameFamily b = true) :
    a.val = b.val ↔ a = b := by
  constructor
  · intro h
    cases p <;> cases a <;> cases b <;> simp_all [SameFamily, Addr.val, BitVec.toNat_inj]
  · rintro rfl
    rfl

theorem Contains_iff (hmask : p.IsMasked = true) (a : Addr) :
    p.Contains a = true ↔ p.SameFamily a = true ∧ p.base ≤ a.val ∧ a.val < p.base + p.size := by
  cases p with
  | v4 ip bits =>
    simp only [IsMasked, beq_iff_eq] at hmask
    cases a with
    | v4 b =>
      simp only [Contains, beq_iff_eq, SameFamily, true_and, base, Prefix.ip, Addr.val, size,
        width, Bits]
      exact BitBlock.xor_ushiftRight_eq_zero_iff_mem b ip bits hmask
    | zero => simp [Contains, SameFamily]
    | v6 b => simp [Contains, SameFamily]
  | v6 ip bits =>
    simp only [IsMasked, beq_iff_eq] at hmask
    cases a with
    | v6 b =>
      simp only [Contains, beq_iff_eq, SameFamily, true_and, base, Prefix.ip, Addr.val, size,
        width, Bits, mask6]
      rw [BitBlock.and_not_allOnes_ushiftRight_eq_zero_iff]
      exact BitBlock.xor_ushiftRight_eq_zero_iff_mem b ip bits hmask
    | zero => simp [Contains, SameFamily]
    | v4 b => simp [Contains, SameFamily]

theorem base_add_size_le (hmask : p.IsMasked = true) : p.base + p.size ≤ 2 ^ p.width := by
  cases p with
  | v4 ip bits =>
    simp only [IsMasked, beq_iff_eq] at hmask
    exact BitBlock.add_le_of_mod_eq_zero (Nat.pow_dvd_pow 2 (Nat.sub_le 32 bits)) ip.isLt
      ((BitBlock.and_allOnes_ushiftRight_eq_zero_iff ip bits).mp hmask)
  | v6 ip bits =>
    simp only [IsMasked, beq_iff_eq] at hmask
    exact BitBlock.add_le_of_mod_eq_zero (Nat.pow_dvd_pow 2 (Nat.sub_le 128 bits)) ip.isLt
      ((BitBlock.and_allOnes_ushiftRight_eq_zero_iff ip bits).mp hmask)

theorem broadcastAddress_val (hmask : p.IsMasked = true) :
    p.SameFamily (broadcastAddress p) = true ∧
      (broadcastAddress p).val = p.base + (p.size - 1) := by
  cases p with
  | v4 ip bits =>
    simp only [IsMasked, beq_iff_eq] at hmask
    exact ⟨rfl, BitBlock.toNat_or_allOnes_ushiftRight ip bits hmask⟩
  | v6 ip bits =>
    simp only [IsMasked, beq_iff_eq] at hmask
    exact ⟨rfl, BitBlock.toNat_or_allOnes_ushiftRight ip bits hmask⟩

theorem SameFamily_ip : p.SameFamily p.ip = true := by
  cases p <;> rfl

theorem IsValid_of_SameFamily {a : Addr} (ha : p.SameFamily a = true) : a.IsValid = true := by
  cases p <;> cases a <;> simp_all [SameFamily, Addr.IsValid]

theorem Is6_of_SameFamily {a : Addr} (ha : p.SameFamily a = true) : a.Is6 = p.ip.Is6 := by
  cases p <;> cases a <;> simp_all [SameFamily, Addr.Is6, Prefix.ip]

end Prefix

namespace Addr

theorem Is6_eq_not_Is4 {a : Addr} (hvalid : a.IsValid = true) : a.Is6 = !a.Is4 := by
  cases a <;> simp_all [IsValid, Is4, Is6]

/-- Below the top of its family, `Next` is the successor. -/
theorem Next_val (p : Prefix) {a : Addr} (ha : p.SameFamily a = true)
    (hlt : a.val + 1 < 2 ^ p.width) : p.SameFamily a.Next = true ∧ a.Next.val = a.val + 1 := by
  cases p <;> cases a <;> simp only [Prefix.SameFamily, Bool.false_eq_true] at ha
  · rename_i b
    have hne : b ≠ BitVec.allOnes 32 := by
      intro h
      simp [h, val, Prefix.width] at hlt
    simp only [Next, hne, if_false, val]
    exact ⟨rfl, BitBlock.toNat_add_one_of_ne_allOnes b hne⟩
  · rename_i b
    have hne : b ≠ BitVec.allOnes 128 := by
      intro h
      simp [h, val, Prefix.width] at hlt
    simp only [Next, hne, if_false, val]
    exact ⟨rfl, BitBlock.toNat_add_one_of_ne_allOnes b hne⟩

end Addr

end SingBox
