import SingBox.OnesComplement

/-!
# Spoofed TCP segments

`common/tlsspoof/packet.go`. `buildSpoofFrame` resolves the spoof method into the sequence
and acknowledgment numbers, the TCP options and whether to corrupt the checksum; then
`buildTCPSegment` writes an IPv4 or IPv6 header, the TCP header with those options, and the
payload. The header encoders and checksums of gtcpip are a parameter (`Gtcpip`), of which the
proofs assume what the RFCs say (`Gtcpip.Lawful`).

A receiver reads the frame back by the same layouts (`received`): the IP length field, the
IPv4 header checksum, and the TCP checksum over the pseudo-header and the segment.
-/

namespace SingBox

namespace TLSSpoof

open OnesComplement

/-- A `netip.Addr`: four bytes for IPv4, sixteen for IPv6 (an IPv4-mapped address too). -/
inductive Addr where
  | v4 (bytes : List UInt8) (length_eq : bytes.length = 4)
  | v6 (bytes : List UInt8) (length_eq : bytes.length = 16)

def Addr.Is4 : Addr → Bool
  | .v4 .. => true
  | .v6 .. => false

def Addr.AsSlice : Addr → List UInt8
  | .v4 bytes _ => bytes
  | .v6 bytes _ => bytes

structure AddrPort where
  addr : Addr
  port : UInt16

/-! ### The gtcpip header and checksum packages -/

def IPv4MinimumSize : Nat := 20
def IPv6MinimumSize : Nat := 40
def TCPMinimumSize : Nat := 20
def TCPProtocolNumber : UInt8 := 6
def TCPFlagAck : UInt8 := 0x10
def TCPFlagPsh : UInt8 := 0x08
def TCPOptionEOL : UInt8 := 0
def TCPOptionNOP : UInt8 := 1
def TCPOptionTS : UInt8 := 8
def TCPOptionTSLength : Nat := 10

def PutUint16 (v : UInt16) : List UInt8 := BigEndian.encode 2 v.toNat
def PutUint32 (v : UInt32) : List UInt8 := BigEndian.encode 4 v.toNat

/-- The fields of `header.IPv4Fields` the code sets; the type of service, the flags, the
fragment offset and the options stay zero. -/
structure IPv4Fields where
  TotalLength : UInt16
  ID : UInt16
  TTL : UInt8
  Protocol : UInt8
  Checksum : UInt16
  SrcAddr : List UInt8
  DstAddr : List UInt8

/-- The fields of `header.IPv6Fields` the code sets; the traffic class and the flow label
stay zero. -/
structure IPv6Fields where
  PayloadLength : UInt16
  TransportProtocol : UInt8
  HopLimit : UInt8
  SrcAddr : List UInt8
  DstAddr : List UInt8

structure TCPFields where
  SrcPort : UInt16
  DstPort : UInt16
  SeqNum : UInt32
  AckNum : UInt32
  DataOffset : UInt8
  Flags : UInt8
  WindowSize : UInt16
  Checksum : UInt16
  UrgentPointer : UInt16

/-- The functions of gtcpip the spoofer calls, on the bytes they write or read: an encoder
returns the header it writes, a setter the buffer after it. -/
structure Gtcpip where
  Checksum : List UInt8 → UInt16 → UInt16
  Combine : UInt16 → UInt16 → UInt16
  PseudoHeaderChecksum : UInt8 → List UInt8 → List UInt8 → UInt16 → UInt16
  IPv4Encode : IPv4Fields → List UInt8
  IPv4CalculateChecksum : List UInt8 → UInt16
  IPv4SetChecksum : List UInt8 → UInt16 → List UInt8
  IPv6Encode : IPv6Fields → List UInt8
  TCPEncode : TCPFields → List UInt8
  TCPDataOffset : List UInt8 → Nat
  TCPCalculateChecksum : List UInt8 → UInt16 → UInt16
  TCPSetChecksum : List UInt8 → UInt16 → List UInt8
  EncodeTSOption : UInt32 → UInt32 → List UInt8

/-- What the spoofer relies on of gtcpip: the sums of RFC 1071, the IPv4 header of RFC 791
without options, the IPv6 header of RFC 8200 and the TCP header of RFC 793, each with its
fields at their offsets, and the ten bytes of a timestamp option (RFC 7323). -/
structure Gtcpip.Lawful (g : Gtcpip) : Prop where
  checksum_toNat : ∀ buf initial, (g.Checksum buf initial).toNat = fold (initial.toNat + wordSum buf)
  combine_toNat : ∀ a b, (g.Combine a b).toNat = fold (a.toNat + b.toNat)
  pseudoHeaderChecksum_toNat : ∀ protocol srcAddr dstAddr totalLen,
    (g.PseudoHeaderChecksum protocol srcAddr dstAddr totalLen).toNat =
      fold (wordSum srcAddr + wordSum dstAddr + totalLen.toNat + protocol.toNat)
  ipv4_length : ∀ i : IPv4Fields, i.SrcAddr.length = 4 → i.DstAddr.length = 4 →
    (g.IPv4Encode i).length = IPv4MinimumSize
  ipv4_versionIHL : ∀ i : IPv4Fields, (g.IPv4Encode i).getD 0 0 = 0x45
  ipv4_totalLength : ∀ i : IPv4Fields,
    BigEndian.decode (((g.IPv4Encode i).drop 2).take 2) = i.TotalLength.toNat
  ipv4_protocol : ∀ i : IPv4Fields, (g.IPv4Encode i).getD 9 0 = i.Protocol
  ipv4_srcAddr : ∀ i : IPv4Fields, i.SrcAddr.length = 4 →
    ((g.IPv4Encode i).drop 12).take 4 = i.SrcAddr
  ipv4_dstAddr : ∀ i : IPv4Fields, i.SrcAddr.length = 4 → i.DstAddr.length = 4 →
    ((g.IPv4Encode i).drop 16).take 4 = i.DstAddr
  ipv4_calculateChecksum : ∀ i : IPv4Fields, i.SrcAddr.length = 4 → i.DstAddr.length = 4 →
    (g.IPv4CalculateChecksum (g.IPv4Encode i)).toNat = fold (wordSum (g.IPv4Encode i))
  ipv4_setChecksum : ∀ (i : IPv4Fields) v,
    g.IPv4SetChecksum (g.IPv4Encode i) v = g.IPv4Encode { i with Checksum := v }
  ipv4_wordSum_checksum : ∀ (i : IPv4Fields) (v : UInt16),
    wordSum (g.IPv4Encode { i with Checksum := v }) =
      wordSum (g.IPv4Encode { i with Checksum := 0 }) + v.toNat
  ipv6_length : ∀ i : IPv6Fields, i.SrcAddr.length = 16 → i.DstAddr.length = 16 →
    (g.IPv6Encode i).length = IPv6MinimumSize
  ipv6_version : ∀ i : IPv6Fields, (g.IPv6Encode i).getD 0 0 >>> 4 = 6
  ipv6_payloadLength : ∀ i : IPv6Fields,
    BigEndian.decode (((g.IPv6Encode i).drop 4).take 2) = i.PayloadLength.toNat
  ipv6_nextHeader : ∀ i : IPv6Fields, (g.IPv6Encode i).getD 6 0 = i.TransportProtocol
  ipv6_srcAddr : ∀ i : IPv6Fields, i.SrcAddr.length = 16 →
    ((g.IPv6Encode i).drop 8).take 16 = i.SrcAddr
  ipv6_dstAddr : ∀ i : IPv6Fields, i.SrcAddr.length = 16 → i.DstAddr.length = 16 →
    ((g.IPv6Encode i).drop 24).take 16 = i.DstAddr
  tcp_length : ∀ f : TCPFields, (g.TCPEncode f).length = TCPMinimumSize
  tcp_dataOffset : ∀ (f : TCPFields) rest, f.DataOffset.toNat % 4 = 0 → f.DataOffset.toNat < 64 →
    g.TCPDataOffset (g.TCPEncode f ++ rest) = f.DataOffset.toNat
  tcp_checksumField : ∀ f : TCPFields,
    BigEndian.decode (((g.TCPEncode f).drop 16).take 2) = f.Checksum.toNat
  tcp_calculateChecksum : ∀ b partialChecksum,
    (g.TCPCalculateChecksum b partialChecksum).toNat =
      fold (partialChecksum.toNat + wordSum (b.take (g.TCPDataOffset b)))
  tcp_setChecksum : ∀ (f : TCPFields) rest v,
    g.TCPSetChecksum (g.TCPEncode f ++ rest) v = g.TCPEncode { f with Checksum := v } ++ rest
  tcp_wordSum_checksum : ∀ (f : TCPFields) (v : UInt16),
    wordSum (g.TCPEncode { f with Checksum := v }) =
      wordSum (g.TCPEncode { f with Checksum := 0 }) + v.toNat
  encodeTSOption_length : ∀ tsVal tsEcr, (g.EncodeTSOption tsVal tsEcr).length = TCPOptionTSLength

/-! ### The spoofer -/

/-- `Method`, an `int`. -/
structure Method where
  value : Int
  deriving DecidableEq

def MethodWrongSequence : Method := ⟨0⟩
def MethodWrongChecksum : Method := ⟨1⟩
def MethodWrongAcknowledgment : Method := ⟨2⟩
def MethodWrongMD5Sig : Method := ⟨3⟩
def MethodWrongTimestamp : Method := ⟨4⟩

def Method.String (m : Method) : String :=
  if m = MethodWrongSequence then "wrong-sequence"
  else if m = MethodWrongChecksum then "wrong-checksum"
  else if m = MethodWrongAcknowledgment then "wrong-ack"
  else if m = MethodWrongMD5Sig then "wrong-md5"
  else if m = MethodWrongTimestamp then "wrong-timestamp"
  else "unknown"

def defaultTTL : UInt8 := 64
def defaultWindowSize : UInt16 := 0xFFFF
def tcpHeaderLen : Nat := TCPMinimumSize
def tcpOptionMD5Signature : UInt8 := 19
def tcpOptionMD5SignatureLength : Nat := 18
def tcpTimestampBackdate : UInt32 := 3600000

structure spoofPacketInfo where
  seqNum : UInt32
  ackNum : UInt32
  corrupt : Bool
  options : List UInt8

def buildMD5SignatureOptions : List UInt8 :=
  [tcpOptionMD5Signature, UInt8.ofNat tcpOptionMD5SignatureLength] ++
    List.replicate tcpOptionMD5SignatureLength 0

/-- The loop of `rewriteTCPOptionTimestamp` from offset `i`: the options with the TSVal of
their timestamp option replaced, or none when there is none before an end of list or a
malformed option. -/
def rewriteTCPOptionTimestampFrom (tcpOptions : List UInt8) (timestamp : UInt32) (i : Nat) :
    Option (List UInt8) :=
  if hi : i < tcpOptions.length then
    if tcpOptions[i] = TCPOptionEOL then none
    else if tcpOptions[i] = TCPOptionNOP then
      rewriteTCPOptionTimestampFrom tcpOptions timestamp (i + 1)
    else if hnext : i + 1 ≥ tcpOptions.length then none
    else
      let optionLen := tcpOptions[i + 1].toNat
      if hbad : optionLen < 2 ∨ i + optionLen > tcpOptions.length then none
      else if tcpOptions[i] = TCPOptionTS ∧ optionLen = TCPOptionTSLength then
        some (tcpOptions.take (i + 2) ++ PutUint32 timestamp ++ tcpOptions.drop (i + 6))
      else rewriteTCPOptionTimestampFrom tcpOptions timestamp (i + optionLen)
  else none
termination_by tcpOptions.length - i
decreasing_by all_goals omega

def rewriteTCPOptionTimestamp (tcpOptions : List UInt8) (timestamp : UInt32) :
    Option (List UInt8) :=
  rewriteTCPOptionTimestampFrom tcpOptions timestamp 0

section Spoofer

variable (g : Gtcpip)

def buildWrongTimestampOptions (timestamp : UInt32) (tcpOptions : List UInt8) : List UInt8 :=
  let spoofedTimestamp :=
    if timestamp > tcpTimestampBackdate then timestamp - tcpTimestampBackdate else 0
  match rewriteTCPOptionTimestamp tcpOptions spoofedTimestamp with
  | some rewritten => rewritten
  | none => g.EncodeTSOption spoofedTimestamp 0 ++ [0, 0]

def resolveSpoofPacketInfo (method : Method) (sendNext receiveNext timestamp : UInt32)
    (tcpOptions payload : List UInt8) : Except String spoofPacketInfo :=
  let packetInfo : spoofPacketInfo := ⟨sendNext, receiveNext, false, []⟩
  if method = MethodWrongSequence then
    .ok { packetInfo with seqNum := sendNext - UInt32.ofNat payload.length }
  else if method = MethodWrongChecksum then
    .ok { packetInfo with corrupt := true }
  else if method = MethodWrongAcknowledgment then
    .ok { packetInfo with ackNum := receiveNext - (defaultWindowSize / 2).toUInt32 }
  else if method = MethodWrongMD5Sig then
    .ok { packetInfo with options := buildMD5SignatureOptions }
  else if method = MethodWrongTimestamp then
    .ok { packetInfo with options := buildWrongTimestampOptions g timestamp tcpOptions }
  else .error ("tls_spoof: unknown method " ++ method.String)

def applyTCPChecksum (tcp : List UInt8) (srcAddr dstAddr : Addr) (payload : List UInt8)
    (corrupt : Bool) : List UInt8 :=
  let tcpLen := g.TCPDataOffset tcp + payload.length
  let pseudo := g.PseudoHeaderChecksum TCPProtocolNumber srcAddr.AsSlice dstAddr.AsSlice
    (UInt16.ofNat tcpLen)
  let payloadChecksum := g.Checksum payload 0
  let tcpChecksum := ~~~(g.TCPCalculateChecksum tcp (g.Combine pseudo payloadChecksum))
  let tcpChecksum := if corrupt then tcpChecksum ^^^ 0xFFFF else tcpChecksum
  g.TCPSetChecksum tcp tcpChecksum

/-- The TCP fields `encodeTCP` writes. -/
def tcpFields (src dst : AddrPort) (packetInfo : spoofPacketInfo) : TCPFields :=
  { SrcPort := src.port
    DstPort := dst.port
    SeqNum := packetInfo.seqNum
    AckNum := packetInfo.ackNum
    DataOffset := UInt8.ofNat (tcpHeaderLen + packetInfo.options.length)
    Flags := TCPFlagAck ||| TCPFlagPsh
    WindowSize := defaultWindowSize
    Checksum := 0
    UrgentPointer := 0 }

/-- `encodeTCP`: the bytes it writes after the IP header. -/
def encodeTCP (src dst : AddrPort) (packetInfo : spoofPacketInfo) (payload : List UInt8) :
    List UInt8 :=
  applyTCPChecksum g (g.TCPEncode (tcpFields src dst packetInfo) ++ packetInfo.options ++ payload)
    src.addr dst.addr payload packetInfo.corrupt

/-- The IPv4 header fields `buildTCPSegment` encodes. -/
def ipv4Fields (src dst : AddrPort) (totalLength : Nat) : IPv4Fields :=
  { TotalLength := UInt16.ofNat totalLength
    ID := 0
    TTL := defaultTTL
    Protocol := TCPProtocolNumber
    Checksum := 0
    SrcAddr := src.addr.AsSlice
    DstAddr := dst.addr.AsSlice }

/-- The IPv6 header fields `buildTCPSegment` encodes. -/
def ipv6Fields (src dst : AddrPort) (payloadLength : Nat) : IPv6Fields :=
  { PayloadLength := UInt16.ofNat payloadLength
    TransportProtocol := TCPProtocolNumber
    HopLimit := defaultTTL
    SrcAddr := src.addr.AsSlice
    DstAddr := dst.addr.AsSlice }

/-- `buildTCPSegment`; none where it panics on a mixed address family. -/
def buildTCPSegment (src dst : AddrPort) (packetInfo : spoofPacketInfo) (payload : List UInt8) :
    Option (List UInt8) :=
  if src.addr.Is4 ≠ dst.addr.Is4 then none
  else
    let ipPayloadLen := tcpHeaderLen + packetInfo.options.length + payload.length
    if src.addr.Is4 then
      let ipHeaderLen := IPv4MinimumSize
      let ip := g.IPv4Encode (ipv4Fields src dst (ipHeaderLen + ipPayloadLen))
      some (g.IPv4SetChecksum ip (~~~(g.IPv4CalculateChecksum ip)) ++
        encodeTCP g src dst packetInfo payload)
    else
      let ip := g.IPv6Encode (ipv6Fields src dst ipPayloadLen)
      some (ip ++ encodeTCP g src dst packetInfo payload)

/-- `buildSpoofFrame`: the error of an unknown method, or the frame (none where
`buildTCPSegment` panics). -/
def buildSpoofFrame (method : Method) (src dst : AddrPort)
    (sendNext receiveNext timestamp : UInt32) (tcpOptions payload : List UInt8) :
    Except String (Option (List UInt8)) := do
  let packetInfo ← resolveSpoofPacketInfo g method sendNext receiveNext timestamp tcpOptions payload
  return buildTCPSegment g src dst packetInfo payload

end Spoofer

/-! ### What a receiver checks -/

/-- The header length field of an IPv4 header, in bytes. -/
def ipv4HeaderLength (frame : List UInt8) : Nat :=
  ((frame.getD 0 0) &&& 0xF).toNat * 4

/-- The pseudo-header of RFC 793. -/
def pseudoHeader4 (src dst : List UInt8) (protocol : UInt8) (length : Nat) : List UInt8 :=
  src ++ dst ++ [0, protocol] ++ BigEndian.encode 2 length

/-- The pseudo-header of RFC 8200. -/
def pseudoHeader6 (src dst : List UInt8) (nextHeader : UInt8) (length : Nat) : List UInt8 :=
  src ++ dst ++ BigEndian.encode 4 length ++ [0, 0, 0, nextHeader]

/-- The pseudo-header and the TCP segment a receiver reads from a frame, by the version in
its first byte: for IPv4 the segment runs from the header length to the total length, for
IPv6 it is the payload length after the fixed header. -/
def received (frame : List UInt8) : Option (List UInt8 × List UInt8) :=
  let version := (frame.getD 0 0) >>> 4
  if version = 4 then
    let totalLength := BigEndian.decode ((frame.drop 2).take 2)
    let segment := (frame.take totalLength).drop (ipv4HeaderLength frame)
    some (pseudoHeader4 ((frame.drop 12).take 4) ((frame.drop 16).take 4) (frame.getD 9 0)
      segment.length, segment)
  else if version = 6 then
    let payloadLength := BigEndian.decode ((frame.drop 4).take 2)
    let segment := (frame.drop 40).take payloadLength
    some (pseudoHeader6 ((frame.drop 8).take 16) ((frame.drop 24).take 16) (frame.getD 6 0)
      segment.length, segment)
  else none

/-- The check of RFC 1071: the folded sum over the bytes, checksum included, is all ones. -/
def checksumVerifies (bytes : List UInt8) : Bool :=
  fold (wordSum bytes) == 65535

def tcpChecksumVerifies (frame : List UInt8) : Bool :=
  match received frame with
  | some (pseudo, segment) => checksumVerifies (pseudo ++ segment)
  | none => false

/-- The IP length field gives the length of the frame. -/
def lengthFieldValid (frame : List UInt8) : Bool :=
  let version := (frame.getD 0 0) >>> 4
  if version = 4 then BigEndian.decode ((frame.drop 2).take 2) == frame.length
  else if version = 6 then BigEndian.decode ((frame.drop 4).take 2) + 40 == frame.length
  else false

def ipv4HeaderVerifies (frame : List UInt8) : Bool :=
  checksumVerifies (frame.take (ipv4HeaderLength frame))

/-- The checksum field of the TCP segment a receiver reads. -/
def tcpChecksumField (frame : List UInt8) : Option Nat :=
  (received frame).map fun (_, segment) => BigEndian.decode ((segment.drop 16).take 2)

end TLSSpoof

end SingBox
