import SingBox.FakeIPAddr
import SingBox.Uvarint
import SingBox.BigEndian

/-!
# The IP items of binary rule sets

`common/srs/ip_cidr.go` and `common/srs/ip_set.go`. A prefix is written as its
address's bytes, their length as a uvarint before them, and its bit count as a byte;
an IP set as a version byte, the number of its ranges as a big-endian `uint64`, and the
two ends of each range written as addresses. Both readers turn the bytes back into an
address with `M.AddrFromIP` of sing, a parameter of the readers here.

With an `AddrFromIP` that reads back the bytes `AsSlice` writes, as `netip.AddrFromSlice`
does (`Addr.AddrFromSlice_AsSlice`), an IP set reads back as written
(`readIPSet_writeIPSet`), and so does a prefix, the invalid one included
(`readPrefix_writePrefix`).
-/

namespace SingBox

namespace Addr

/-- `Addr.AsSlice`: four bytes for IPv4, sixteen for IPv6, none for the zero value. -/
def AsSlice : Addr → List UInt8
  | zero => []
  | v4 b => BigEndian.encode 4 b.toNat
  | v6 b => BigEndian.encode 16 b.toNat

end Addr

/-- `netip.PrefixFrom`; `none` is the invalid prefix. -/
def PrefixFrom : Addr → Nat → Option Prefix
  | .v4 b, bits => if h : bits ≤ 32 then some (.v4 b ⟨bits, by omega⟩) else none
  | .v6 b, bits => if h : bits ≤ 128 then some (.v6 b ⟨bits, by omega⟩) else none
  | .zero, _ => none

/-- `writePrefix`; the invalid prefix has the zero address and `Bits() = -1`. -/
def writePrefix (p : Option Prefix) : List UInt8 :=
  let addrSlice := ((p.map Prefix.ip).getD .zero).AsSlice
  Uvarint.put addrSlice.length ++ addrSlice ++ [((p.map Prefix.Bits).getD 255).toUInt8]

/-- A range of a `netipx.IPSet`, `from` to `to`. -/
structure IPRange where
  fromAddr : Addr
  toAddr : Addr
deriving DecidableEq, Repr

/-- One end of a range as `writeIPSet` writes it. -/
def writeAddress (a : Addr) : List UInt8 :=
  Uvarint.put a.AsSlice.length ++ a.AsSlice

/-- `writeIPSet` of the ranges of a set. -/
def writeIPSet (ranges : List IPRange) : List UInt8 :=
  [1] ++ BigEndian.encode 8 ranges.length ++
    (ranges.map fun range => writeAddress range.fromAddr ++ writeAddress range.toAddr).flatten

section Read

variable (AddrFromIP : List UInt8 → Addr)

/-- `readPrefix`: the prefix and the bytes after it, `none` on a short read. -/
def readPrefix (bytes : List UInt8) : Option (Option Prefix × List UInt8) :=
  match Uvarint.read bytes with
  | (.ok addrLen, rest) =>
    if addrLen ≤ rest.length then
      match rest.drop addrLen with
      | prefixBits :: rest' =>
        some (PrefixFrom (AddrFromIP (rest.take addrLen)) prefixBits.toNat, rest')
      | [] => none
    else none
  | (.error _, _) => none

/-- One end of a range as `readIPSet` reads it. -/
def readAddress (bytes : List UInt8) : Option (Addr × List UInt8) :=
  match Uvarint.read bytes with
  | (.ok len, rest) => if len ≤ rest.length then some (AddrFromIP (rest.take len), rest.drop len) else none
  | (.error _, _) => none

/-- The loop of `readIPSet` over `count` ranges. -/
def readRanges : Nat → List UInt8 → Option (List IPRange × List UInt8)
  | 0, rest => some ([], rest)
  | count + 1, rest =>
    match readAddress AddrFromIP rest with
    | none => none
    | some (fromAddr, rest) =>
      match readAddress AddrFromIP rest with
      | none => none
      | some (toAddr, rest) =>
        match readRanges count rest with
        | none => none
        | some (ranges, rest) => some (⟨fromAddr, toAddr⟩ :: ranges, rest)

/-- `readIPSet`: version 1, then the ranges. -/
def readIPSet : List UInt8 → Option (List IPRange × List UInt8)
  | version :: rest =>
    if version ≠ 1 then none
    else if 8 ≤ rest.length then readRanges AddrFromIP (BigEndian.decode (rest.take 8)) (rest.drop 8)
    else none
  | [] => none

end Read

/-! ### Addresses -/

namespace Addr

theorem length_AsSlice_lt (a : Addr) : a.AsSlice.length < 2 ^ 64 := by
  cases a <;> simp [AsSlice]

end Addr

theorem PrefixFrom_ip_Bits (p : Prefix) : PrefixFrom p.ip p.Bits = some p := by
  cases p with
  | v4 ip bits => simp [PrefixFrom, Prefix.ip, Prefix.Bits, show bits.val ≤ 32 by omega]
  | v6 ip bits => simp [PrefixFrom, Prefix.ip, Prefix.Bits, show bits.val ≤ 128 by omega]

section Read

variable {AddrFromIP : List UInt8 → Addr}

theorem readAddress_writeAddress (hAddr : ∀ a : Addr, AddrFromIP a.AsSlice = a) (a : Addr)
    (rest : List UInt8) : readAddress AddrFromIP (writeAddress a ++ rest) = some (a, rest) := by
  rw [readAddress, writeAddress, List.append_assoc, Uvarint.read_put (Addr.length_AsSlice_lt a)]
  simp only [List.length_append, Nat.le_add_right, if_true, List.take_left, List.drop_left, hAddr]

theorem readRanges_write (hAddr : ∀ a : Addr, AddrFromIP a.AsSlice = a) (ranges : List IPRange)
    (rest : List UInt8) :
    readRanges AddrFromIP ranges.length
        ((ranges.map fun range => writeAddress range.fromAddr ++ writeAddress range.toAddr).flatten ++
          rest) = some (ranges, rest) := by
  induction ranges with
  | nil => rfl
  | cons range ranges ih =>
    simp only [List.length_cons, List.map_cons, List.flatten_cons, List.append_assoc, readRanges,
      readAddress_writeAddress hAddr, ih]

/-- An IP set reads back as written. -/
theorem readIPSet_writeIPSet (hAddr : ∀ a : Addr, AddrFromIP a.AsSlice = a) (ranges : List IPRange)
    (hlen : ranges.length < 256 ^ 8) (rest : List UInt8) :
    readIPSet AddrFromIP (writeIPSet ranges ++ rest) = some (ranges, rest) := by
  simp only [writeIPSet, List.cons_append, List.nil_append, readIPSet, ne_eq,
    not_true_eq_false, if_false, List.append_assoc, List.length_append, BigEndian.length_encode]
  rw [if_pos (by omega), List.take_left' (BigEndian.length_encode 8 _),
    List.drop_left' (BigEndian.length_encode 8 _), BigEndian.decode_encode_of_lt hlen,
    readRanges_write hAddr]

/-- A prefix reads back as written; the invalid prefix, written with the zero address and 255
bits, reads back invalid. -/
theorem readPrefix_writePrefix (hAddr : ∀ a : Addr, AddrFromIP a.AsSlice = a) (prefix? : Option Prefix)
    (rest : List UInt8) : readPrefix AddrFromIP (writePrefix prefix? ++ rest) = some (prefix?, rest) := by
  rw [readPrefix, writePrefix]
  simp only [List.append_assoc]
  rw [Uvarint.read_put (Addr.length_AsSlice_lt _)]
  simp only [List.length_append, Nat.le_add_right, if_true, List.drop_left, List.take_left,
    List.singleton_append, hAddr]
  cases prefix? with
  | none => rfl
  | some p =>
    have hbits : p.Bits.toUInt8.toNat = p.Bits := by
      cases p with
      | v4 ip bits => simp [Prefix.Bits, Nat.mod_eq_of_lt (show bits.val < 256 by omega)]
      | v6 ip bits => simp [Prefix.Bits, Nat.mod_eq_of_lt (show bits.val < 256 by omega)]
    simp only [Option.map_some, Option.getD_some]
    rw [hbits, PrefixFrom_ip_Bits]

end Read

end SingBox
