import SingBox.TLSSpoofPacket

/-!
# The RFC layouts

One implementation of what `Gtcpip.Lawful` asks: the IPv4 header of RFC 791 with the type of
service, the flags, the fragment offset and the options zero, the IPv6 header of RFC 8200 with
the traffic class and the flow label zero, the TCP header of RFC 793 and the folded sums of
RFC 1071 (`rfcGtcpip_lawful`). So the laws can be met, and a frame of the spoofer can be
evaluated.
-/

namespace SingBox

namespace TLSSpoof

open OnesComplement

/-! ### Encodings -/

@[simp] theorem length_PutUint16 (v : UInt16) : (PutUint16 v).length = 2 := by
  simp [PutUint16]

@[simp] theorem length_PutUint32 (v : UInt32) : (PutUint32 v).length = 4 := by
  simp [PutUint32]

@[simp] theorem wordSum_PutUint16 (v : UInt16) : wordSum (PutUint16 v) = v.toNat := by
  rw [PutUint16, wordSum_encode_two, Nat.mod_eq_of_lt v.toNat_lt]

@[simp] theorem wordSum_PutUint32 (v : UInt32) :
    wordSum (PutUint32 v) = v.toNat / 65536 + v.toNat % 65536 := by
  rw [PutUint32, wordSum_encode_four]
  have := v.toNat_lt
  omega

@[simp] theorem decode_PutUint16 (v : UInt16) : BigEndian.decode (PutUint16 v) = v.toNat := by
  rw [PutUint16, BigEndian.decode_encode_of_lt v.toNat_lt]

theorem UInt16.toNat_ofNat_eq_mod (n : Nat) : (UInt16.ofNat n).toNat = n % 65536 :=
  UInt16.toNat_ofNat'

theorem dataOffset_roundTrip (d : UInt8) (hword : d.toNat % 4 = 0) (hlt : d.toNat < 64) :
    (((d / 4) <<< 4) >>> 4).toNat * 4 = d.toNat := by
  simp only [UInt8.toNat_shiftRight, UInt8.toNat_shiftLeft, UInt8.toNat_div, Nat.shiftLeft_eq,
    Nat.shiftRight_eq_div_pow]
  rw [show UInt8.toNat 4 = 4 from rfl]
  norm_num
  omega

namespace Layout

/-! ### The functions -/

def Checksum (buf : List UInt8) (initial : UInt16) : UInt16 :=
  UInt16.ofNat (fold (initial.toNat + wordSum buf))

/-- One's-complement addition with one end-around carry. -/
def Combine (a b : UInt16) : UInt16 :=
  let v := a.toNat + b.toNat
  UInt16.ofNat (v + v / 65536)

def PseudoHeaderChecksum (protocol : UInt8) (srcAddr dstAddr : List UInt8) (totalLen : UInt16) :
    UInt16 :=
  let xsum := Checksum srcAddr 0
  let xsum := Checksum dstAddr xsum
  let xsum := Checksum (PutUint16 totalLen) xsum
  Checksum [0, protocol] xsum

/-- Version 4 with a header of five words. -/
def IPv4Encode (i : IPv4Fields) : List UInt8 :=
  [0x45, 0] ++ PutUint16 i.TotalLength ++ PutUint16 i.ID ++ [0, 0] ++ [i.TTL, i.Protocol] ++
    PutUint16 i.Checksum ++ i.SrcAddr ++ i.DstAddr

def IPv4CalculateChecksum (b : List UInt8) : UInt16 :=
  Checksum (b.take (ipv4HeaderLength b)) 0

def IPv4SetChecksum (b : List UInt8) (v : UInt16) : List UInt8 :=
  b.take 10 ++ PutUint16 v ++ b.drop 12

def IPv6Encode (i : IPv6Fields) : List UInt8 :=
  [0x60, 0, 0, 0] ++ PutUint16 i.PayloadLength ++ [i.TransportProtocol, i.HopLimit] ++
    i.SrcAddr ++ i.DstAddr

/-- The data offset is stored in words, in the high nibble. -/
def TCPEncode (t : TCPFields) : List UInt8 :=
  PutUint16 t.SrcPort ++ PutUint16 t.DstPort ++ PutUint32 t.SeqNum ++ PutUint32 t.AckNum ++
    [(t.DataOffset / 4) <<< 4, t.Flags] ++ PutUint16 t.WindowSize ++ PutUint16 t.Checksum ++
    PutUint16 t.UrgentPointer

def TCPDataOffset (b : List UInt8) : Nat :=
  ((b.getD 12 0) >>> 4).toNat * 4

def TCPCalculateChecksum (b : List UInt8) (partialChecksum : UInt16) : UInt16 :=
  Checksum (b.take (TCPDataOffset b)) partialChecksum

def TCPSetChecksum (b : List UInt8) (v : UInt16) : List UInt8 :=
  b.take 16 ++ PutUint16 v ++ b.drop 18

def EncodeTSOption (tsVal tsEcr : UInt32) : List UInt8 :=
  [TCPOptionTS, UInt8.ofNat TCPOptionTSLength] ++ PutUint32 tsVal ++ PutUint32 tsEcr

/-! ### The sums -/

theorem Checksum_toNat (buf : List UInt8) (initial : UInt16) :
    (Checksum buf initial).toNat = fold (initial.toNat + wordSum buf) := by
  rw [Checksum, UInt16.toNat_ofNat_of_lt' (fold_lt _)]

theorem Combine_toNat (a b : UInt16) : (Combine a b).toNat = fold (a.toNat + b.toNat) := by
  have hv : a.toNat + b.toNat < 131071 := by
    have ha := a.toNat_lt
    have hb := b.toNat_lt
    norm_num at ha hb
    omega
  rw [Combine, UInt16.toNat_ofNat']
  generalize a.toNat + b.toNat = v at hv ⊢
  rcases Nat.lt_or_ge v 65536 with hlt | hge
  · rw [fold_of_lt hlt, Nat.div_eq_of_lt hlt, Nat.add_zero, Nat.mod_eq_of_lt hlt]
  · have hdiv : v / 65536 = 1 := by omega
    rw [hdiv, fold_eq, if_neg (by omega)]
    omega

theorem PseudoHeaderChecksum_toNat (protocol : UInt8) (srcAddr dstAddr : List UInt8)
    (totalLen : UInt16) :
    (PseudoHeaderChecksum protocol srcAddr dstAddr totalLen).toNat =
      fold (wordSum srcAddr + wordSum dstAddr + totalLen.toNat + protocol.toNat) := by
  simp only [PseudoHeaderChecksum, Checksum_toNat, UInt16.toNat_zero, Nat.zero_add,
    wordSum_PutUint16, fold_fold_add]
  simp [wordSum_cons_cons]

/-! ### The IPv4 header -/

section IPv4

variable (i : IPv4Fields)

theorem IPv4Encode_length :
    (IPv4Encode i).length = 12 + i.SrcAddr.length + i.DstAddr.length := by
  simp [IPv4Encode]
  omega

theorem IPv4Encode_wordSum :
    wordSum (IPv4Encode i) = 0x45 * 256 + i.TotalLength.toNat + i.ID.toNat + i.TTL.toNat * 256 +
      i.Protocol.toNat + i.Checksum.toNat + wordSum (i.SrcAddr ++ i.DstAddr) := by
  simp only [IPv4Encode, List.append_assoc]
  simp [wordSum_append, wordSum_cons_cons]
  omega

theorem IPv4Encode_headerLength : ipv4HeaderLength (IPv4Encode i) = 20 := by
  simp [ipv4HeaderLength, IPv4Encode]

theorem IPv4CalculateChecksum_Encode (hsrc : i.SrcAddr.length = 4) (hdst : i.DstAddr.length = 4) :
    (IPv4CalculateChecksum (IPv4Encode i)).toNat = fold (wordSum (IPv4Encode i)) := by
  have hlength : (IPv4Encode i).length = 20 := by
    rw [IPv4Encode_length, hsrc, hdst]
  rw [IPv4CalculateChecksum, IPv4Encode_headerLength, List.take_of_length_le (le_of_eq hlength),
    Checksum_toNat, UInt16.toNat_zero, Nat.zero_add]

end IPv4

/-! ### The TCP header -/

theorem TCPEncode_wordSum (f : TCPFields) :
    wordSum (TCPEncode f) = f.SrcPort.toNat + f.DstPort.toNat +
      (f.SeqNum.toNat / 65536 + f.SeqNum.toNat % 65536) +
      (f.AckNum.toNat / 65536 + f.AckNum.toNat % 65536) +
      wordSum [(f.DataOffset / 4) <<< 4, f.Flags] + f.WindowSize.toNat + f.Checksum.toNat +
      f.UrgentPointer.toNat := by
  simp only [TCPEncode, List.append_assoc]
  simp [wordSum_append, wordSum_cons_cons]
  omega

theorem TCPDataOffset_Encode (f : TCPFields) (rest : List UInt8) :
    TCPDataOffset (TCPEncode f ++ rest) = (((f.DataOffset / 4) <<< 4) >>> 4).toNat * 4 := by
  simp [TCPDataOffset, TCPEncode, PutUint16, PutUint32, BigEndian.encode]

end Layout

open Layout in
/-- The RFC layouts as the functions of gtcpip. -/
def rfcGtcpip : Gtcpip where
  Checksum := Checksum
  Combine := Combine
  PseudoHeaderChecksum := PseudoHeaderChecksum
  IPv4Encode := IPv4Encode
  IPv4CalculateChecksum := IPv4CalculateChecksum
  IPv4SetChecksum := IPv4SetChecksum
  IPv6Encode := IPv6Encode
  TCPEncode := TCPEncode
  TCPDataOffset := TCPDataOffset
  TCPCalculateChecksum := TCPCalculateChecksum
  TCPSetChecksum := TCPSetChecksum
  EncodeTSOption := EncodeTSOption

open Layout in
theorem rfcGtcpip_lawful : rfcGtcpip.Lawful where
  checksum_toNat := Checksum_toNat
  combine_toNat := Combine_toNat
  pseudoHeaderChecksum_toNat := PseudoHeaderChecksum_toNat
  ipv4_length i hsrc hdst := by
    show (IPv4Encode i).length = 20
    rw [IPv4Encode_length, hsrc, hdst]
  ipv4_versionIHL i := by
    simp [rfcGtcpip, IPv4Encode]
  ipv4_totalLength i := by
    simp [rfcGtcpip, IPv4Encode]
  ipv4_protocol i := by
    simp [rfcGtcpip, IPv4Encode, PutUint16, BigEndian.encode]
  ipv4_srcAddr i hsrc := by
    simp [rfcGtcpip, IPv4Encode, PutUint16, BigEndian.encode, hsrc]
  ipv4_dstAddr i hsrc hdst := by
    simp [rfcGtcpip, IPv4Encode, PutUint16, BigEndian.encode, hsrc, hdst]
  ipv4_calculateChecksum := IPv4CalculateChecksum_Encode
  ipv4_setChecksum i v := by
    simp [rfcGtcpip, IPv4SetChecksum, IPv4Encode, PutUint16, BigEndian.encode]
  ipv4_wordSum_checksum i v := by
    show wordSum (IPv4Encode _) = wordSum (IPv4Encode _) + _
    rw [IPv4Encode_wordSum, IPv4Encode_wordSum, UInt16.toNat_zero]
    dsimp only
    omega
  ipv6_length i hsrc hdst := by
    simp [rfcGtcpip, IPv6Encode, hsrc, hdst, IPv6MinimumSize]
  ipv6_version i := by
    simp [rfcGtcpip, IPv6Encode]
    decide
  ipv6_payloadLength i := by
    simp [rfcGtcpip, IPv6Encode]
  ipv6_nextHeader i := by
    simp [rfcGtcpip, IPv6Encode, PutUint16, BigEndian.encode]
  ipv6_srcAddr i hsrc := by
    simp [rfcGtcpip, IPv6Encode, PutUint16, BigEndian.encode, hsrc]
  ipv6_dstAddr i hsrc hdst := by
    simp [rfcGtcpip, IPv6Encode, PutUint16, BigEndian.encode, hsrc, hdst]
  tcp_length f := by
    simp [rfcGtcpip, TCPEncode, TCPMinimumSize]
  tcp_dataOffset f rest hword hlt := by
    show TCPDataOffset (TCPEncode f ++ rest) = _
    rw [TCPDataOffset_Encode, dataOffset_roundTrip _ hword hlt]
  tcp_checksumField f := by
    simp [rfcGtcpip, TCPEncode, PutUint16, PutUint32, BigEndian.encode]
    exact decode_PutUint16 f.Checksum
  tcp_calculateChecksum b partialChecksum := Checksum_toNat _ _
  tcp_setChecksum f rest v := by
    simp [rfcGtcpip, TCPSetChecksum, TCPEncode, PutUint16, PutUint32, BigEndian.encode]
  tcp_wordSum_checksum f v := by
    show wordSum (TCPEncode _) = wordSum (TCPEncode _) + _
    rw [TCPEncode_wordSum, TCPEncode_wordSum, UInt16.toNat_zero]
    dsimp only
    omega
  encodeTSOption_length tsVal tsEcr := by
    simp [rfcGtcpip, EncodeTSOption, TCPOptionTSLength]

end TLSSpoof

end SingBox
