import SingBox.TLSSpoofLayout

/-!
# The checks a spoofed segment passes

Over any gtcpip that does what the RFCs say (`Gtcpip.Lawful`), every frame `buildTCPSegment`
writes, with options of whole words and within 65535 bytes, has an IP length field that gives
its length and, for IPv4, a header checksum that verifies. Its TCP checksum verifies when the
segment is not corrupted (`buildTCPSegment_checks`). A corrupted segment carries the folded
sum itself instead of its complement, and it still verifies exactly when that sum is a
multiple of `0xFFFF`: the correct checksum is then `0x0000`, and XOR with `0xFFFF` turns it
into `0xFFFF`, the other zero of one's-complement arithmetic.
-/

namespace SingBox

namespace TLSSpoof

open OnesComplement

theorem toNat_not_eq (c : UInt16) : (~~~c).toNat = 65535 - c.toNat := by
  simp [UInt16.toNat_not]

theorem xor_max_eq_not (c : UInt16) : c ^^^ 0xFFFF = ~~~c := by
  apply UInt16.toBitVec_inj.mp
  rw [UInt16.toBitVec_xor, UInt16.toBitVec_not,
    show (0xFFFF : UInt16).toBitVec = BitVec.allOnes 16 by decide, BitVec.xor_allOnes]

theorem take_drop_append {l : List UInt8} (rest : List UInt8) {m n : Nat}
    (h : m + n ≤ l.length) : ((l ++ rest).drop m).take n = (l.drop m).take n := by
  rw [List.drop_append_of_le_length (by omega),
    List.take_append_of_le_length (by rw [List.length_drop]; omega)]

/-! ### The TCP checksum -/

/-- The sum the TCP checksum covers, with its field zero: the pseudo-header for a segment of
the length of `tcp`, and the segment. -/
def segmentSum (srcAddr dstAddr tcp : List UInt8) : Nat :=
  wordSum srcAddr + wordSum dstAddr + tcp.length % 65536 + TCPProtocolNumber.toNat + wordSum tcp

/-- The checksum written over a sum: its complement, or the sum itself when corrupting. -/
def writtenChecksum (corrupt : Bool) (sum : Nat) : UInt16 :=
  if corrupt then UInt16.ofNat (fold sum) else ~~~(UInt16.ofNat (fold sum))

theorem writtenChecksum_toNat (corrupt : Bool) (sum : Nat) :
    (writtenChecksum corrupt sum).toNat = if corrupt then fold sum else 65535 - fold sum := by
  cases corrupt <;> simp [writtenChecksum, UInt16.toNat_ofNat_of_lt' (fold_lt _)]

theorem fold_add_writtenChecksum {sum : Nat} (hsum : 0 < sum) (corrupt : Bool) :
    fold (sum + (writtenChecksum corrupt sum).toNat) = 65535 ↔
      corrupt = false ∨ sum % 65535 = 0 := by
  cases corrupt with
  | false => simp [writtenChecksum_toNat, fold_add_complement hsum]
  | true => simp [writtenChecksum_toNat, fold_add_fold_eq_max_iff, hsum]

theorem writtenChecksum_toNat_eq_max_iff {sum : Nat} (hsum : 0 < sum) (corrupt : Bool) :
    (writtenChecksum corrupt sum).toNat = 65535 ↔ corrupt = true ∧ sum % 65535 = 0 := by
  have hpos := fold_pos hsum
  cases corrupt with
  | false =>
    simp only [writtenChecksum_toNat, Bool.false_eq_true, if_false, false_and, iff_false]
    omega
  | true => simp [writtenChecksum_toNat, fold_eq_max_iff, hsum]

theorem segmentSum_pos (srcAddr dstAddr tcp : List UInt8) : 0 < segmentSum srcAddr dstAddr tcp := by
  have : TCPProtocolNumber.toNat = 6 := rfl
  rw [segmentSum]
  omega

/-! ### What a receiver reads -/

theorem Addr.length_AsSlice_of_Is4 {a : Addr} (h : a.Is4 = true) : a.AsSlice.length = 4 := by
  cases a with
  | v4 bytes hbytes => exact hbytes
  | v6 => cases h

theorem Addr.length_AsSlice_of_not_Is4 {a : Addr} (h : a.Is4 = false) :
    a.AsSlice.length = 16 := by
  cases a with
  | v4 => cases h
  | v6 bytes hbytes => exact hbytes

theorem wordSum_pseudoHeader4 {src dst : List UInt8} (hsrc : src.length = 4)
    (hdst : dst.length = 4) (protocol : UInt8) (segment : List UInt8) :
    wordSum (pseudoHeader4 src dst protocol segment.length ++ segment) =
      wordSum src + wordSum dst + segment.length % 65536 + protocol.toNat + wordSum segment := by
  simp only [pseudoHeader4, List.append_assoc]
  rw [wordSum_append (by omega), wordSum_append (by omega), List.cons_append,
    List.cons_append, wordSum_cons_cons, List.nil_append,
    @wordSum_append (BigEndian.encode 2 segment.length) (by simp), wordSum_encode_two]
  simp
  omega

theorem wordSum_pseudoHeader6 {src dst : List UInt8} (hsrc : src.length = 16)
    (hdst : dst.length = 16) (nextHeader : UInt8) (segment : List UInt8)
    (hlength : segment.length < 65536) :
    wordSum (pseudoHeader6 src dst nextHeader segment.length ++ segment) =
      wordSum src + wordSum dst + segment.length % 65536 + nextHeader.toNat + wordSum segment := by
  simp only [pseudoHeader6, List.append_assoc]
  rw [wordSum_append (by omega), wordSum_append (by omega), wordSum_append (by simp),
    wordSum_encode_four, Nat.div_eq_of_lt hlength]
  simp [wordSum_cons_cons]
  omega

section Lawful

variable {g : Gtcpip} (hg : g.Lawful)
include hg

/-! ### The TCP header -/

theorem Gtcpip.Lawful.tcp_checksumField_append (f : TCPFields) (rest : List UInt8) :
    BigEndian.decode (((g.TCPEncode f ++ rest).drop 16).take 2) = f.Checksum.toNat := by
  rw [take_drop_append rest (by rw [hg.tcp_length]; decide), hg.tcp_checksumField]

theorem wordSum_Encode_checksum (f : TCPFields) (rest : List UInt8) (hzero : f.Checksum = 0)
    (v : UInt16) :
    wordSum (g.TCPEncode { f with Checksum := v } ++ rest) =
      wordSum (g.TCPEncode f ++ rest) + v.toNat := by
  have heven : ∀ f', (g.TCPEncode f').length % 2 = 0 := fun f' => by
    rw [hg.tcp_length]
    decide
  have hf : { f with Checksum := 0 } = f := by
    rw [← hzero]
  rw [wordSum_append (heven _), wordSum_append (heven _), hg.tcp_wordSum_checksum, hf]
  omega

theorem calculateChecksum_toNat (f : TCPFields) (options payload srcAddr dstAddr : List UInt8)
    (heven : options.length % 2 = 0)
    (hoffset : g.TCPDataOffset (g.TCPEncode f ++ options ++ payload) = 20 + options.length) :
    (g.TCPCalculateChecksum (g.TCPEncode f ++ options ++ payload)
      (g.Combine (g.PseudoHeaderChecksum TCPProtocolNumber srcAddr dstAddr
        (UInt16.ofNat (20 + options.length + payload.length))) (g.Checksum payload 0))).toNat =
      fold (segmentSum srcAddr dstAddr (g.TCPEncode f ++ options ++ payload)) := by
  have hheader : (g.TCPEncode f ++ options).length = 20 + options.length := by
    rw [List.length_append, hg.tcp_length]
    rfl
  have htake : (g.TCPEncode f ++ options ++ payload).take (20 + options.length) =
      g.TCPEncode f ++ options := by
    rw [List.take_left' hheader]
  have hlength : (g.TCPEncode f ++ options ++ payload).length =
      20 + options.length + payload.length := by
    rw [List.length_append, hheader]
  have hwords : (g.TCPEncode f ++ options).length % 2 = 0 := by
    rw [hheader]
    omega
  rw [hg.tcp_calculateChecksum, hoffset, htake, hg.combine_toNat, hg.pseudoHeaderChecksum_toNat,
    hg.checksum_toNat, UInt16.toNat_zero, Nat.zero_add, segmentSum,
    @wordSum_append (g.TCPEncode f ++ options) hwords payload, hlength, UInt16.toNat_ofNat_eq_mod]
  generalize wordSum srcAddr + wordSum dstAddr + (20 + options.length + payload.length) % 65536 +
    TCPProtocolNumber.toNat = pseudo
  generalize wordSum (g.TCPEncode f ++ options) = header
  generalize wordSum payload = data
  rw [fold_fold_add, Nat.add_right_comm, fold_add_fold, Nat.add_assoc, fold_fold_add]

theorem applyTCPChecksum_Encode (f : TCPFields) (options payload : List UInt8)
    (srcAddr dstAddr : Addr) (corrupt : Bool) (heven : options.length % 2 = 0)
    (hoffset : g.TCPDataOffset (g.TCPEncode f ++ options ++ payload) = 20 + options.length) :
    applyTCPChecksum g (g.TCPEncode f ++ options ++ payload) srcAddr dstAddr payload corrupt =
      g.TCPEncode { f with
        Checksum := (writtenChecksum corrupt
          (segmentSum srcAddr.AsSlice dstAddr.AsSlice (g.TCPEncode f ++ options ++ payload))) } ++
        options ++ payload := by
  have hcalc := calculateChecksum_toNat hg f options payload srcAddr.AsSlice dstAddr.AsSlice
    heven hoffset
  rw [← UInt16.toNat_ofNat_of_lt' (fold_lt _)] at hcalc
  simp only [applyTCPChecksum, hoffset, UInt16.toNat_inj.mp hcalc]
  rw [List.append_assoc, hg.tcp_setChecksum, ← List.append_assoc]
  cases corrupt <;> simp [writtenChecksum, xor_max_eq_not]

theorem tcpChecks_of_received {frame pseudo segment rest : List UInt8} {f : TCPFields}
    {corrupt : Bool} {sum : Nat} (hsum : 0 < sum)
    (hreceived : received frame = some (pseudo, segment))
    (hsegment : segment = g.TCPEncode { f with Checksum := writtenChecksum corrupt sum } ++ rest)
    (hwordSum : wordSum (pseudo ++ segment) = sum + (writtenChecksum corrupt sum).toNat) :
    (tcpChecksumVerifies frame = true ↔ corrupt = false ∨ sum % 65535 = 0) ∧
      (tcpChecksumField frame = some 65535 ↔ corrupt = true ∧ sum % 65535 = 0) := by
  constructor
  · simp only [tcpChecksumVerifies, hreceived, checksumVerifies, hwordSum, beq_iff_eq]
    exact fold_add_writtenChecksum hsum corrupt
  · simp only [tcpChecksumField, hreceived, Option.map_some, Option.some.injEq, hsegment,
      hg.tcp_checksumField_append]
    exact writtenChecksum_toNat_eq_max_iff hsum corrupt

/-! ### The IPv4 header -/

section IPv4

variable {i : IPv4Fields} (rest : List UInt8) (hsrc : i.SrcAddr.length = 4)
  (hdst : i.DstAddr.length = 4)
include hsrc hdst

theorem Gtcpip.Lawful.ipv4_first_append : (g.IPv4Encode i ++ rest).getD 0 0 = 0x45 := by
  rw [List.getD_append _ _ _ _ (by rw [hg.ipv4_length i hsrc hdst]; decide), hg.ipv4_versionIHL]

theorem received_ipv4 (htotal : i.TotalLength.toNat = 20 + rest.length) :
    received (g.IPv4Encode i ++ rest) =
      some (pseudoHeader4 i.SrcAddr i.DstAddr i.Protocol rest.length, rest) := by
  have hlength : (g.IPv4Encode i).length = 20 := hg.ipv4_length i hsrc hdst
  have hfirst := hg.ipv4_first_append rest hsrc hdst
  have hversion : (0x45 : UInt8) >>> 4 = 4 := by decide
  have hsegment : ((g.IPv4Encode i ++ rest).take (20 + rest.length)).drop 20 = rest := by
    rw [List.take_of_length_le (by rw [List.length_append, hlength]),
      List.drop_left' hlength]
  simp only [received, hfirst, ipv4HeaderLength,
    take_drop_append rest (show 2 + 2 ≤ (g.IPv4Encode i).length by omega),
    take_drop_append rest (show 12 + 4 ≤ (g.IPv4Encode i).length by omega),
    take_drop_append rest (show 16 + 4 ≤ (g.IPv4Encode i).length by omega),
    List.getD_append _ _ _ _ (show 9 < (g.IPv4Encode i).length by omega),
    hg.ipv4_totalLength, hg.ipv4_srcAddr i hsrc, hg.ipv4_dstAddr i hsrc hdst, hg.ipv4_protocol,
    htotal, hversion, if_true, show ((0x45 : UInt8) &&& 0xF).toNat * 4 = 20 by decide, hsegment]

theorem lengthFieldValid_ipv4 (htotal : i.TotalLength.toNat = 20 + rest.length) :
    lengthFieldValid (g.IPv4Encode i ++ rest) = true := by
  have hlength : (g.IPv4Encode i).length = 20 := hg.ipv4_length i hsrc hdst
  have hversion : (0x45 : UInt8) >>> 4 = 4 := by decide
  simp only [lengthFieldValid, hg.ipv4_first_append rest hsrc hdst,
    take_drop_append rest (show 2 + 2 ≤ (g.IPv4Encode i).length by omega),
    hg.ipv4_totalLength, htotal, List.length_append, hlength, hversion, if_true]
  simp [Nat.add_comm]

/-- The header checksum `buildTCPSegment` writes verifies. -/
theorem ipv4HeaderVerifies_SetChecksum (hzero : i.Checksum = 0) :
    ipv4HeaderVerifies
        (g.IPv4SetChecksum (g.IPv4Encode i) (~~~(g.IPv4CalculateChecksum (g.IPv4Encode i))) ++
          rest) = true := by
  set v := ~~~(g.IPv4CalculateChecksum (g.IPv4Encode i)) with hv
  have hi : { i with Checksum := 0 } = i := by
    rw [← hzero]
  have hlength : (g.IPv4Encode { i with Checksum := v }).length = 20 :=
    hg.ipv4_length { i with Checksum := v } hsrc hdst
  have hsum : wordSum (g.IPv4Encode { i with Checksum := v }) =
      wordSum (g.IPv4Encode i) + (65535 - fold (wordSum (g.IPv4Encode i))) := by
    rw [hg.ipv4_wordSum_checksum, hi, hv, toNat_not_eq, hg.ipv4_calculateChecksum i hsrc hdst]
  have hpos : 0 < wordSum (g.IPv4Encode i) := by
    have hhead := head_mul_le_wordSum (g.IPv4Encode i)
    rw [hg.ipv4_versionIHL] at hhead
    exact lt_of_lt_of_le (by decide) hhead
  have hheader : ipv4HeaderLength (g.IPv4Encode { i with Checksum := v } ++ rest) = 20 := by
    rw [ipv4HeaderLength, hg.ipv4_first_append rest (i := { i with Checksum := v }) hsrc hdst]
    decide
  rw [hg.ipv4_setChecksum, ipv4HeaderVerifies, hheader, List.take_left' hlength, checksumVerifies,
    hsum, fold_add_complement hpos]
  rfl

end IPv4

/-! ### The IPv6 header -/

section IPv6

variable {i : IPv6Fields} (rest : List UInt8) (hsrc : i.SrcAddr.length = 16)
  (hdst : i.DstAddr.length = 16) (hpayload : i.PayloadLength.toNat = rest.length)
include hsrc hdst hpayload

omit hpayload in
theorem Gtcpip.Lawful.ipv6_version_append : ((g.IPv6Encode i ++ rest).getD 0 0) >>> 4 = 6 := by
  rw [List.getD_append _ _ _ _ (by rw [hg.ipv6_length i hsrc hdst]; decide), hg.ipv6_version]

theorem received_ipv6 :
    received (g.IPv6Encode i ++ rest) =
      some (pseudoHeader6 i.SrcAddr i.DstAddr i.TransportProtocol rest.length, rest) := by
  have hlength : (g.IPv6Encode i).length = 40 := hg.ipv6_length i hsrc hdst
  have hversion := hg.ipv6_version_append rest hsrc hdst
  have hsegment : ((g.IPv6Encode i ++ rest).drop 40).take rest.length = rest := by
    rw [List.drop_left' hlength, List.take_length]
  simp only [received, hversion,
    take_drop_append rest (show 4 + 2 ≤ (g.IPv6Encode i).length by omega),
    take_drop_append rest (show 8 + 16 ≤ (g.IPv6Encode i).length by omega),
    take_drop_append rest (show 24 + 16 ≤ (g.IPv6Encode i).length by omega),
    List.getD_append _ _ _ _ (show 6 < (g.IPv6Encode i).length by omega),
    hg.ipv6_payloadLength, hg.ipv6_srcAddr i hsrc, hg.ipv6_dstAddr i hsrc hdst,
    hg.ipv6_nextHeader, hpayload, hsegment]
  rfl

theorem lengthFieldValid_ipv6 : lengthFieldValid (g.IPv6Encode i ++ rest) = true := by
  have hlength : (g.IPv6Encode i).length = 40 := hg.ipv6_length i hsrc hdst
  simp only [lengthFieldValid, hg.ipv6_version_append rest hsrc hdst,
    take_drop_append rest (show 4 + 2 ≤ (g.IPv6Encode i).length by omega),
    hg.ipv6_payloadLength, hpayload, List.length_append, hlength]
  simp [Nat.add_comm]

end IPv6

/-! ### The frames of buildTCPSegment -/

omit hg in
/-- The TCP segment `encodeTCP` checksums: the header with a zero checksum, the options and
the payload. -/
def tcpSegment (src dst : AddrPort) (packetInfo : spoofPacketInfo) (payload : List UInt8) :
    List UInt8 :=
  g.TCPEncode (tcpFields src dst packetInfo) ++ packetInfo.options ++ payload

omit hg in
/-- The sum the TCP checksum of a spoofed segment covers. -/
def spoofSum (src dst : AddrPort) (packetInfo : spoofPacketInfo) (payload : List UInt8) : Nat :=
  segmentSum src.addr.AsSlice dst.addr.AsSlice (tcpSegment (g := g) src dst packetInfo payload)

section Segment

variable (src dst : AddrPort) (packetInfo : spoofPacketInfo) (payload : List UInt8)

theorem length_tcpSegment :
    (tcpSegment (g := g) src dst packetInfo payload).length =
      20 + packetInfo.options.length + payload.length := by
  simp only [tcpSegment, List.length_append, hg.tcp_length, TCPMinimumSize]

variable (hoptions : packetInfo.options.length % 4 = 0)
  (hoptions' : packetInfo.options.length ≤ 40)
include hoptions hoptions'

theorem encodeTCP_eq :
    encodeTCP g src dst packetInfo payload =
      g.TCPEncode { tcpFields src dst packetInfo with
        Checksum := writtenChecksum packetInfo.corrupt (spoofSum (g := g) src dst packetInfo payload) } ++
        (packetInfo.options ++ payload) := by
  have hdataOffset : (tcpFields src dst packetInfo).DataOffset.toNat = 20 + packetInfo.options.length := by
    simp only [tcpFields, tcpHeaderLen, TCPMinimumSize, UInt8.toNat_ofNat']
    omega
  rw [encodeTCP, applyTCPChecksum_Encode hg _ _ _ _ _ _ (by omega), List.append_assoc]
  · rfl
  · rw [List.append_assoc, hg.tcp_dataOffset _ _ (by omega) (by omega), hdataOffset]

theorem length_encodeTCP :
    (encodeTCP g src dst packetInfo payload).length =
      20 + packetInfo.options.length + payload.length := by
  rw [encodeTCP_eq hg src dst packetInfo payload hoptions hoptions', List.length_append,
    hg.tcp_length, List.length_append, TCPMinimumSize]
  omega

theorem wordSum_pseudo_encodeTCP {pseudo : List UInt8}
    (hpseudo : wordSum (pseudo ++ encodeTCP g src dst packetInfo payload) =
      wordSum src.addr.AsSlice + wordSum dst.addr.AsSlice +
        (encodeTCP g src dst packetInfo payload).length % 65536 + TCPProtocolNumber.toNat +
        wordSum (encodeTCP g src dst packetInfo payload)) :
    wordSum (pseudo ++ encodeTCP g src dst packetInfo payload) =
      spoofSum (g := g) src dst packetInfo payload +
        (writtenChecksum packetInfo.corrupt (spoofSum (g := g) src dst packetInfo payload)).toNat := by
  rw [hpseudo, length_encodeTCP hg src dst packetInfo payload hoptions hoptions',
    encodeTCP_eq hg src dst packetInfo payload hoptions hoptions',
    wordSum_Encode_checksum hg _ _ rfl, spoofSum, segmentSum, length_tcpSegment hg, tcpSegment,
    List.append_assoc]
  omega

/-- The checks a receiver makes of an IPv4 frame of `buildTCPSegment`. -/
theorem buildTCPSegment_checks_ipv4 (hsrc4 : src.addr.Is4 = true) (hdst4 : dst.addr.Is4 = true) :
    ∃ frame, buildTCPSegment g src dst packetInfo payload = some frame ∧
      frame.length = IPv4MinimumSize + tcpHeaderLen + packetInfo.options.length + payload.length ∧
      (frame.length ≤ 65535 →
        lengthFieldValid frame = true ∧ ipv4HeaderVerifies frame = true ∧
        (tcpChecksumVerifies frame = true ↔
          packetInfo.corrupt = false ∨ spoofSum (g := g) src dst packetInfo payload % 65535 = 0) ∧
        (tcpChecksumField frame = some 65535 ↔
          packetInfo.corrupt = true ∧ spoofSum (g := g) src dst packetInfo payload % 65535 = 0)) := by
  have hsrc := Addr.length_AsSlice_of_Is4 hsrc4
  have hdst := Addr.length_AsSlice_of_Is4 hdst4
  have hlength := length_encodeTCP hg src dst packetInfo payload hoptions hoptions'
  set i := ipv4Fields src dst (IPv4MinimumSize + (tcpHeaderLen + packetInfo.options.length +
    payload.length)) with hi
  set segment := encodeTCP g src dst packetInfo payload with hsegment
  set i' := { i with Checksum := ~~~(g.IPv4CalculateChecksum (g.IPv4Encode i)) } with hi'
  have hheader : (g.IPv4Encode i').length = 20 := hg.ipv4_length i' hsrc hdst
  refine ⟨g.IPv4SetChecksum (g.IPv4Encode i) (~~~(g.IPv4CalculateChecksum (g.IPv4Encode i))) ++
    segment, ?_, ?_, fun hfit => ?_⟩
  · simp [buildTCPSegment, hsrc4, hdst4, hi, hsegment]
  · rw [hg.ipv4_setChecksum, List.length_append, hheader, hlength]
    simp only [IPv4MinimumSize, tcpHeaderLen, TCPMinimumSize]
    omega
  have htotal : i'.TotalLength.toNat = 20 + segment.length := by
    rw [hg.ipv4_setChecksum, List.length_append, hheader, hlength] at hfit
    simp only [hi', hi, ipv4Fields, hlength, UInt16.toNat_ofNat_eq_mod, IPv4MinimumSize,
      tcpHeaderLen, TCPMinimumSize] at hfit ⊢
    omega
  refine ⟨?_, ipv4HeaderVerifies_SetChecksum hg segment hsrc hdst rfl, ?_⟩
  · rw [hg.ipv4_setChecksum]
    exact lengthFieldValid_ipv4 hg segment hsrc hdst htotal
  · rw [hg.ipv4_setChecksum]
    exact tcpChecks_of_received hg (segmentSum_pos _ _ _)
      (received_ipv4 hg segment hsrc hdst htotal)
      (encodeTCP_eq hg src dst packetInfo payload hoptions hoptions')
      (wordSum_pseudo_encodeTCP hg src dst packetInfo payload hoptions hoptions'
        (wordSum_pseudoHeader4 hsrc hdst TCPProtocolNumber segment))

/-- The checks a receiver makes of an IPv6 frame of `buildTCPSegment`. -/
theorem buildTCPSegment_checks_ipv6 (hsrc6 : src.addr.Is4 = false) (hdst6 : dst.addr.Is4 = false) :
    ∃ frame, buildTCPSegment g src dst packetInfo payload = some frame ∧
      frame.length = IPv6MinimumSize + tcpHeaderLen + packetInfo.options.length + payload.length ∧
      (frame.length ≤ 65535 →
        lengthFieldValid frame = true ∧
        (tcpChecksumVerifies frame = true ↔
          packetInfo.corrupt = false ∨ spoofSum (g := g) src dst packetInfo payload % 65535 = 0) ∧
        (tcpChecksumField frame = some 65535 ↔
          packetInfo.corrupt = true ∧ spoofSum (g := g) src dst packetInfo payload % 65535 = 0)) := by
  have hsrc := Addr.length_AsSlice_of_not_Is4 hsrc6
  have hdst := Addr.length_AsSlice_of_not_Is4 hdst6
  have hlength := length_encodeTCP hg src dst packetInfo payload hoptions hoptions'
  set i := ipv6Fields src dst (tcpHeaderLen + packetInfo.options.length + payload.length) with hi
  set segment := encodeTCP g src dst packetInfo payload with hsegment
  have hheader : (g.IPv6Encode i).length = 40 := hg.ipv6_length i hsrc hdst
  refine ⟨g.IPv6Encode i ++ segment, ?_, ?_, fun hfit => ?_⟩
  · simp [buildTCPSegment, hsrc6, hdst6, hi, hsegment]
  · rw [List.length_append, hheader, hlength]
    simp only [IPv6MinimumSize, tcpHeaderLen, TCPMinimumSize]
    omega
  have hfit' : segment.length < 65536 := by
    rw [List.length_append, hheader] at hfit
    omega
  have hpayload : i.PayloadLength.toNat = segment.length := by
    simp only [hi, ipv6Fields, UInt16.toNat_ofNat_eq_mod, hlength, tcpHeaderLen, TCPMinimumSize]
    omega
  exact ⟨lengthFieldValid_ipv6 hg segment hsrc hdst hpayload,
    tcpChecks_of_received hg (segmentSum_pos _ _ _)
      (received_ipv6 hg segment hsrc hdst hpayload)
      (encodeTCP_eq hg src dst packetInfo payload hoptions hoptions')
      (wordSum_pseudo_encodeTCP hg src dst packetInfo payload hoptions hoptions'
        (wordSum_pseudoHeader6 hsrc hdst TCPProtocolNumber segment hfit'))⟩

/-- Every frame `buildTCPSegment` writes for addresses of one family, with options of whole
words, has the length of its headers, options and payload. When that is within 65535
bytes, the IP length field gives it and, for IPv4, the header checksum verifies. The TCP
checksum verifies when the segment is not corrupted or when the sum it covers is a multiple
of `0xFFFF`, and it is for a corrupted segment exactly then that its field holds `0xFFFF`. -/
theorem buildTCPSegment_checks (hfamily : src.addr.Is4 = dst.addr.Is4) :
    ∃ frame, buildTCPSegment g src dst packetInfo payload = some frame ∧
      frame.length = (if src.addr.Is4 then IPv4MinimumSize else IPv6MinimumSize) + tcpHeaderLen +
        packetInfo.options.length + payload.length ∧
      (frame.length ≤ 65535 →
        lengthFieldValid frame = true ∧ (src.addr.Is4 = true → ipv4HeaderVerifies frame = true) ∧
        (tcpChecksumVerifies frame = true ↔
          packetInfo.corrupt = false ∨ spoofSum (g := g) src dst packetInfo payload % 65535 = 0) ∧
        (tcpChecksumField frame = some 65535 ↔
          packetInfo.corrupt = true ∧ spoofSum (g := g) src dst packetInfo payload % 65535 = 0)) := by
  cases hsrc : src.addr.Is4 with
  | true =>
    obtain ⟨frame, hbuild, hlength, hchecks⟩ :=
      buildTCPSegment_checks_ipv4 hg src dst packetInfo payload hoptions hoptions' hsrc
        (hfamily ▸ hsrc)
    refine ⟨frame, hbuild, hlength, fun hfit => ?_⟩
    obtain ⟨hfield, hheader, hverifies⟩ := hchecks hfit
    exact ⟨hfield, fun _ => hheader, hverifies⟩
  | false =>
    obtain ⟨frame, hbuild, hlength, hchecks⟩ :=
      buildTCPSegment_checks_ipv6 hg src dst packetInfo payload hoptions hoptions' hsrc
        (hfamily ▸ hsrc)
    refine ⟨frame, hbuild, hlength, fun hfit => ?_⟩
    obtain ⟨hfield, hverifies⟩ := hchecks hfit
    exact ⟨hfield, nofun, hverifies⟩

end Segment

/-! ### The spoof methods -/

omit hg in
/-- The methods `ParseMethod` returns. -/
def spoofMethods : List Method :=
  [MethodWrongSequence, MethodWrongChecksum, MethodWrongAcknowledgment, MethodWrongMD5Sig,
    MethodWrongTimestamp]

omit hg in
theorem length_rewriteTCPOptionTimestampFrom (tcpOptions : List UInt8) (timestamp : UInt32)
    (i : Nat) {rewritten : List UInt8}
    (h : rewriteTCPOptionTimestampFrom tcpOptions timestamp i = some rewritten) :
    rewritten.length = tcpOptions.length := by
  revert h
  fun_induction rewriteTCPOptionTimestampFrom tcpOptions timestamp i with
  | case1 => nofun
  | case2 i _ _ _ ih => exact ih
  | case3 => nofun
  | case4 => nofun
  | case5 i _ _ _ _ optionLen hbad hts =>
    intro h
    cases h
    have hlen : optionLen = 10 := hts.2
    simp only [List.length_append, List.length_take, length_PutUint32, List.length_drop]
    omega
  | case6 _ _ _ _ _ _ _ _ ih => exact ih
  | case7 => nofun

theorem length_buildWrongTimestampOptions (timestamp : UInt32) (tcpOptions : List UInt8) :
    (buildWrongTimestampOptions g timestamp tcpOptions).length = tcpOptions.length ∨
      (buildWrongTimestampOptions g timestamp tcpOptions).length = 12 := by
  simp only [buildWrongTimestampOptions]
  generalize (if timestamp > tcpTimestampBackdate then timestamp - tcpTimestampBackdate else 0) =
    spoofedTimestamp
  cases h : rewriteTCPOptionTimestamp tcpOptions spoofedTimestamp with
  | some rewritten => exact .inl (length_rewriteTCPOptionTimestampFrom _ _ _ h)
  | none => exact .inr (by simp [hg.encodeTSOption_length, TCPOptionTSLength])

theorem resolveSpoofPacketInfo_ok {method : Method} (hmethod : method ∈ spoofMethods)
    (sendNext receiveNext timestamp : UInt32) {tcpOptions : List UInt8}
    (htcp : tcpOptions.length % 4 = 0) (htcp' : tcpOptions.length ≤ 40) (payload : List UInt8) :
    ∃ packetInfo,
      resolveSpoofPacketInfo g method sendNext receiveNext timestamp tcpOptions payload =
        .ok packetInfo ∧
      (packetInfo.corrupt = true ↔ method = MethodWrongChecksum) ∧
      packetInfo.options.length % 4 = 0 ∧ packetInfo.options.length ≤ 40 := by
  simp only [spoofMethods, List.mem_cons, List.not_mem_nil, or_false] at hmethod
  rcases hmethod with rfl | rfl | rfl | rfl | rfl
  all_goals simp only [resolveSpoofPacketInfo, MethodWrongSequence, MethodWrongChecksum,
    MethodWrongAcknowledgment, MethodWrongMD5Sig, MethodWrongTimestamp, Method.mk.injEq]
  all_goals norm_num
  · simp [buildMD5SignatureOptions, tcpOptionMD5SignatureLength]
  · rcases length_buildWrongTimestampOptions hg timestamp tcpOptions with h | h <;> omega

/-! ### Spoofed frames -/

omit hg in
theorem buildSpoofFrame_of_resolve {method : Method} {src dst : AddrPort}
    {sendNext receiveNext timestamp : UInt32} {tcpOptions payload : List UInt8}
    {packetInfo : spoofPacketInfo}
    (hresolve : resolveSpoofPacketInfo g method sendNext receiveNext timestamp tcpOptions payload =
      .ok packetInfo) :
    buildSpoofFrame g method src dst sendNext receiveNext timestamp tcpOptions payload =
      .ok (buildTCPSegment g src dst packetInfo payload) := by
  simp [buildSpoofFrame, hresolve]

/-- For each method, a spoofed frame within 65535 bytes has a length field that gives its
length and, for IPv4, a header checksum that verifies; its TCP checksum verifies unless the
method is wrong-checksum, and then exactly when the field holds `0xFFFF`. -/
theorem buildSpoofFrame_checks {method : Method} (hmethod : method ∈ spoofMethods)
    (src dst : AddrPort) (hfamily : src.addr.Is4 = dst.addr.Is4)
    (sendNext receiveNext timestamp : UInt32) {tcpOptions : List UInt8}
    (htcp : tcpOptions.length % 4 = 0) (htcp' : tcpOptions.length ≤ 40) (payload : List UInt8) :
    ∃ frame,
      buildSpoofFrame g method src dst sendNext receiveNext timestamp tcpOptions payload =
        .ok (some frame) ∧
      (frame.length ≤ 65535 →
        lengthFieldValid frame = true ∧ (src.addr.Is4 = true → ipv4HeaderVerifies frame = true) ∧
        (tcpChecksumVerifies frame = true ↔
          method ≠ MethodWrongChecksum ∨ tcpChecksumField frame = some 65535)) := by
  obtain ⟨packetInfo, hresolve, hcorrupt, hoptions, hoptions'⟩ :=
    resolveSpoofPacketInfo_ok hg hmethod sendNext receiveNext timestamp htcp htcp' payload
  obtain ⟨frame, hbuild, -, hchecks⟩ :=
    buildTCPSegment_checks hg src dst packetInfo payload hoptions hoptions' hfamily
  refine ⟨frame, by rw [buildSpoofFrame_of_resolve hresolve, hbuild], fun hfit => ?_⟩
  obtain ⟨hlength, hheader, hverifies, hfield⟩ := hchecks hfit
  have hmethod' : method ≠ MethodWrongChecksum ↔ packetInfo.corrupt = false := by
    rw [ne_eq, ← hcorrupt, Bool.not_eq_true]
  refine ⟨hlength, hheader, ?_⟩
  rw [hverifies, hfield, hmethod']
  cases packetInfo.corrupt <;> simp

omit hg in
theorem resolveSpoofPacketInfo_wrongChecksum (sendNext receiveNext timestamp : UInt32)
    (tcpOptions payload : List UInt8) :
    resolveSpoofPacketInfo g MethodWrongChecksum sendNext receiveNext timestamp tcpOptions payload =
      .ok ⟨sendNext, receiveNext, true, []⟩ := by
  simp [resolveSpoofPacketInfo, MethodWrongSequence, MethodWrongChecksum]

theorem spoofSum_eq (src dst : AddrPort) (packetInfo : spoofPacketInfo) (payload : List UInt8)
    (hoptions : packetInfo.options.length % 2 = 0) :
    spoofSum (g := g) src dst packetInfo payload =
      wordSum src.addr.AsSlice + wordSum dst.addr.AsSlice +
        (20 + packetInfo.options.length + payload.length) % 65536 + TCPProtocolNumber.toNat +
        wordSum (g.TCPEncode (tcpFields src dst packetInfo) ++ packetInfo.options) +
        wordSum payload := by
  have heven : (g.TCPEncode (tcpFields src dst packetInfo) ++ packetInfo.options).length % 2 = 0 := by
    rw [List.length_append, hg.tcp_length, TCPMinimumSize]
    omega
  rw [spoofSum, segmentSum, length_tcpSegment hg, tcpSegment, wordSum_append heven,
    ← Nat.add_assoc]

/-- Whatever the addresses, ports and sequence numbers, some two-byte payload makes the
wrong-checksum segment verify. -/
theorem buildSpoofFrame_wrongChecksum_verifies (src dst : AddrPort)
    (hfamily : src.addr.Is4 = dst.addr.Is4) (sendNext receiveNext timestamp : UInt32)
    (tcpOptions : List UInt8) :
    ∃ payload : List UInt8, payload.length = 2 ∧ ∃ frame,
      buildSpoofFrame g MethodWrongChecksum src dst sendNext receiveNext timestamp tcpOptions
          payload = .ok (some frame) ∧
      frame.length ≤ 65535 ∧ tcpChecksumVerifies frame = true := by
  set packetInfo : spoofPacketInfo := ⟨sendNext, receiveNext, true, []⟩ with hpacketInfo
  set base := spoofSum (g := g) src dst packetInfo [0, 0] with hbase
  have hsum : ∀ v : UInt16, spoofSum (g := g) src dst packetInfo (PutUint16 v) = base + v.toNat := by
    intro v
    rw [hbase, spoofSum_eq hg _ _ _ _ rfl, spoofSum_eq hg _ _ _ _ rfl, length_PutUint16,
      wordSum_PutUint16, show [(0 : UInt8), 0].length = 2 from rfl,
      show wordSum [0, 0] = 0 from rfl]
    omega
  set word := (65535 - base % 65535) % 65535 with hword
  have hv : (UInt16.ofNat word).toNat = word := by
    rw [UInt16.toNat_ofNat_eq_mod]
    omega
  obtain ⟨frame, hbuild, hlength, hchecks⟩ :=
    buildTCPSegment_checks hg src dst packetInfo (PutUint16 (UInt16.ofNat word)) rfl
      (by simp [hpacketInfo]) hfamily
  have hfit : frame.length ≤ 65535 := by
    rw [hlength]
    split <;> simp [hpacketInfo, IPv4MinimumSize, IPv6MinimumSize, tcpHeaderLen, TCPMinimumSize]
  refine ⟨PutUint16 (UInt16.ofNat word), length_PutUint16 _, frame, ?_, hfit, ?_⟩
  · rw [buildSpoofFrame_of_resolve (resolveSpoofPacketInfo_wrongChecksum _ _ _ _ _), hbuild]
  · rw [(hchecks hfit).2.2.1, hsum, hv]
    right
    omega

end Lawful

theorem buildSpoofFrame_wrongChecksum_verifies_ipv4 :
    rfcGtcpip.Lawful ∧ (Addr.v4 [192, 0, 2, 1] rfl).Is4 = (Addr.v4 [198, 51, 100, 1] rfl).Is4 ∧
      ∃ payload : List UInt8, payload.length = 2 ∧ ∃ frame,
        buildSpoofFrame rfcGtcpip MethodWrongChecksum ⟨.v4 [192, 0, 2, 1] rfl, 50000⟩
          ⟨.v4 [198, 51, 100, 1] rfl, 443⟩ 1000 2000 0 [] payload = .ok (some frame) ∧
        frame.length ≤ 65535 ∧ tcpChecksumVerifies frame = true :=
  ⟨rfcGtcpip_lawful, rfl, buildSpoofFrame_wrongChecksum_verifies rfcGtcpip_lawful
    ⟨.v4 [192, 0, 2, 1] rfl, 50000⟩ ⟨.v4 [198, 51, 100, 1] rfl, 443⟩ rfl 1000 2000 0 []⟩

end TLSSpoof

end SingBox
