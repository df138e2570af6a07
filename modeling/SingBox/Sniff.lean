import Mathlib

/-!
# Sniffing

`common/sniff`: `PeekPacket` runs packet sniffers on one packet and `PeekStream` runs
stream sniffers on what a connection has sent so far, reading again while one of them
needs more data. The first sniffer that accepts fills in the metadata.

A stream sniffer reads an `io.MultiReader` over the buffers read so far: `io.ReadFull`
and `bufio` cross from one buffer to the next, a single `Read` does not. So a stream
sniffer is given the buffers (`Chunks`), and the ones that read only through
`io.ReadFull` or `bufio` see their concatenation. `BitTorrent` reads its header with a
single `Read`.

`DomainNameQuery` unpacks the packet with `miekg/dns`, which is a parameter here:
`unpack` is `Msg.Unpack`, read for the fields the sniffer looks at.

Results: `PeekStream` gives the same outcome for every way of delivering the bytes when
the sniffers see only the concatenation and, on every earlier part, all of them refuse
and one of them needs more data (`PeekStream_eq_single`); `PeekPacket` fills in the
protocol when each of its sniffers does (`PeekPacket_protocol`).
-/

namespace SingBox

/-- The metadata the sniffers fill in: `Protocol`, and `Client` as the bytes of the
string. -/
structure SniffMetadata where
  protocol : String
  client : List UInt8
deriving DecidableEq, Repr

/-- What a sniffer fails with: `ErrNeedMoreData` (wrapped or not), `os.ErrInvalid`, an
error of the DNS parser, or the failed read of `PeekStream`. -/
inductive SniffError where
  | needMoreData
  | invalid
  | unpack (err : String)
  | readPayload
deriving DecidableEq, Repr

/-- The buffers behind the `io.MultiReader` a stream sniffer reads. -/
abbrev Chunks := List (List UInt8)

abbrev StreamSniffer := SniffMetadata → Chunks → Except SniffError SniffMetadata

abbrev PacketSniffer := SniffMetadata → List UInt8 → Except SniffError SniffMetadata

namespace Sniff

/-- `E.Errors`: no error at all is `nil`. -/
def Errors (errs : List SniffError) (metadata : SniffMetadata) :
    Except (List SniffError) SniffMetadata :=
  if errs = [] then .ok metadata else .error errs

/-- The sniffers in turn: the metadata of the first that accepts, or every error. -/
def firstOk {α : Type} (metadata : SniffMetadata) (input : α) :
    List (SniffMetadata → α → Except SniffError SniffMetadata) →
      Except (List SniffError) SniffMetadata
  | [] => .error []
  | sniffer :: sniffers =>
    match sniffer metadata input with
    | .ok metadata' => .ok metadata'
    | .error err =>
      match firstOk metadata input sniffers with
      | .ok metadata' => .ok metadata'
      | .error errs => .error (err :: errs)

end Sniff

open Sniff

def PeekPacket (sniffers : List PacketSniffer) (metadata : SniffMetadata)
    (packet : List UInt8) : Except (List SniffError) SniffMetadata :=
  match firstOk metadata packet sniffers with
  | .ok metadata' => .ok metadata'
  | .error errs => Errors errs metadata

/-- The loop of `PeekStream` from its `i`-th read on, with the sniff buffer and the
errors of the last round; `reads` are what the reads before the deadline return. -/
def PeekStream.loop (sniffers : List StreamSniffer) (metadata : SniffMetadata)
    (buffers : Chunks) : Nat → List UInt8 → List SniffError → List (List UInt8) →
      Except (List SniffError) SniffMetadata
  | i, _, sniffError, [] =>
    -- the read fails: after a round the errors of that round, before it "read payload"
    if i > 0 then Errors sniffError metadata else .error [.readPayload]
  | i, buffer, _, read :: reads =>
    let buffer := buffer ++ read
    match firstOk metadata (buffers ++ [buffer]) sniffers with
    | .ok metadata' => .ok metadata'
    | .error errs =>
      if errs.contains .needMoreData then loop sniffers metadata buffers (i + 1) buffer errs reads
      else Errors errs metadata

/-- `PeekStream` over the buffers read before and the successive reads. -/
def PeekStream (sniffers : List StreamSniffer) (metadata : SniffMetadata) (buffers : Chunks)
    (reads : List (List UInt8)) : Except (List SniffError) SniffMetadata :=
  PeekStream.loop sniffers metadata buffers 0 [] [] reads

/-! ### Readers -/

namespace Sniff

/-- `binary.Read` of one byte from the `io.MultiReader`. -/
def readByte : Chunks → Option (UInt8 × Chunks)
  | [] => none
  | [] :: chunks => readByte chunks
  | (b :: bs) :: chunks => some (b, bs :: chunks)

/-- One `Read` of the `io.MultiReader` into a buffer of `n > 0` bytes: from the first
buffer with bytes left only; nothing at the end. -/
def readOnce : Chunks → Nat → List UInt8 × Chunks
  | [], _ => ([], [])
  | [] :: chunks, n => readOnce chunks n
  | (b :: bs) :: chunks, n => ((b :: bs).take n, (b :: bs).drop n :: chunks)

def defaultBufSize : Nat := 4096

/-- A line without the carriage return before its end. -/
def dropCR (line : List UInt8) : List UInt8 :=
  if line.getLast? = some 0x0D then line.dropLast else line

/-- `bufio.Reader.ReadLine` on a fresh reader over `data`, which is not empty: the bytes
before the first line feed of the buffer; the whole buffer when it holds none; and all
of `data` when it ends first. -/
def readLine (data : List UInt8) : List UInt8 :=
  let window := data.take defaultBufSize
  let line := window.takeWhile (· != 0x0A)
  if line.length < window.length then dropCR line
  else if defaultBufSize ≤ data.length then dropCR window
  else window

/-- `binary.Read` of the byte at offset `i` of what a sniffer reads through
`io.ReadFull`, checked by `valid`: a short read needs more data. -/
def expectByte {α : Type} (data : List UInt8) (i : Nat) (valid : UInt8 → Bool)
    (next : Except SniffError α) : Except SniffError α :=
  match data[i]? with
  | none => .error .needMoreData
  | some b => if valid b then next else .error .invalid

end Sniff

/-! ### Stream sniffers -/

/-- "SSH-2.0-". -/
def sshPrefix : List UInt8 :=
  [0x53, 0x53, 0x48, 0x2D, 0x32, 0x2E, 0x30, 0x2D]

/-- `SSH`, over a `bufio.Reader`: `Peek(8)`, then the first line. -/
def SSH (metadata : SniffMetadata) (chunks : Chunks) : Except SniffError SniffMetadata :=
  let data := chunks.flatten
  let pfx := data.take sshPrefix.length
  if pfx != sshPrefix.take pfx.length then .error .invalid
  else if pfx.length < sshPrefix.length then .error .needMoreData
  else .ok { metadata with protocol := "ssh", client := (readLine data).drop 8 }

/-- "BitTorrent protocol". -/
def bitTorrentHeader : List UInt8 :=
  [0x42, 0x69, 0x74, 0x54, 0x6F, 0x72, 0x72, 0x65, 0x6E, 0x74,
    0x20, 0x70, 0x72, 0x6F, 0x74, 0x6F, 0x63, 0x6F, 0x6C]

/-- `BitTorrent`: the length byte through `binary.Read`, the protocol name with one
`Read`. -/
def BitTorrent (metadata : SniffMetadata) (chunks : Chunks) : Except SniffError SniffMetadata :=
  match readByte chunks with
  | none => .error .needMoreData
  | some (first, chunks) =>
    if first != 19 then .error .invalid
    else
      let protocol := (readOnce chunks 19).1
      if protocol != bitTorrentHeader.take protocol.length then .error .invalid
      -- `err != nil`: the reader is at its end
      else if protocol = [] then .error .needMoreData
      else if protocol.length < 19 then .error .needMoreData
      else .ok { metadata with protocol := "bittorrent" }

/-- `RDP`: a TPKT header of length 19, a COTP connection request, and an RDP
negotiation request, all read through `binary.Read` and `rw.SkipN`. -/
def RDP (metadata : SniffMetadata) (chunks : Chunks) : Except SniffError SniffMetadata :=
  let data := chunks.flatten
  expectByte data 0 (· == 0x03) <|
  expectByte data 1 (· == 0x00) <|
  -- `tpktLength`, a big-endian `uint16`
  expectByte data 2 (fun _ => true) <|
  expectByte data 3 (fun lo => (data.getD 2 0).toNat * 256 + lo.toNat == 19) <|
  expectByte data 4 (· == 14) <|
  expectByte data 5 (· == 0xE0) <|
  -- `rw.SkipN(reader, 5)`
  expectByte data 10 (fun _ => true) <|
  expectByte data 11 (· == 0x01) <|
  expectByte data 12 (fun _ => true) <|
  expectByte data 13 (· == 8) <|
  .ok { metadata with protocol := "rdp" }

/-- What `DomainNameQuery` reads of an unpacked `dns.Msg`: `Response` and the lengths of
`Question`, `Answer` and `Ns`. -/
structure DNSMsg where
  response : Bool
  question : Nat
  answer : Nat
  ns : Nat
deriving DecidableEq, Repr

/-- `DomainNameQuery`, with `unpack` for `Msg.Unpack`. -/
def DomainNameQuery (unpack : List UInt8 → Except String DNSMsg) (metadata : SniffMetadata)
    (packet : List UInt8) : Except SniffError SniffMetadata :=
  match unpack packet with
  | .error err => .error (.unpack err)
  | .ok msg =>
    -- `return err`, and `err` is nil on this path
    if msg.response || msg.question == 0 || msg.answer > 0 || msg.ns > 0 then .ok metadata
    else .ok { metadata with protocol := "dns" }

/-- `StreamDomainNameQuery`: a big-endian `uint16` length, then that many bytes through
`ReadFullFrom`, whose header is checked as far as it came before the rest is waited for. -/
def StreamDomainNameQuery (unpack : List UInt8 → Except String DNSMsg)
    (metadata : SniffMetadata) (chunks : Chunks) : Except SniffError SniffMetadata :=
  match chunks.flatten with
  | hi :: lo :: rest =>
    let length := hi.toNat * 256 + lo.toNat
    if length < 12 then .error .invalid
    else
      let packet := rest.take length
      let n := packet.length
      -- QR, QDCOUNT, then ANCOUNT and NSCOUNT
      if n > 2 && packet.getD 2 0 &&& 0x80 != 0 then .error .invalid
      else if n > 5 && packet.getD 4 0 == 0 && packet.getD 5 0 == 0 then .error .invalid
      else if [6, 7, 8, 9].any (fun i => n > i && packet.getD i 0 != 0) then .error .invalid
      else if n < length then .error .needMoreData
      else DomainNameQuery unpack metadata packet
  | _ => .error .needMoreData

/-! ### Running the sniffers -/

namespace Sniff

variable {α : Type} (metadata : SniffMetadata)

theorem exists_of_firstOk_eq_ok {input : α} {sniffers : List (SniffMetadata → α →
    Except SniffError SniffMetadata)} {metadata' : SniffMetadata}
    (h : firstOk metadata input sniffers = .ok metadata') :
    ∃ sniffer ∈ sniffers, sniffer metadata input = .ok metadata' := by
  induction sniffers with
  | nil => cases h
  | cons sniffer sniffers ih =>
    simp only [firstOk] at h
    split at h
    · rename_i m hs
      cases h
      exact ⟨sniffer, List.mem_cons_self, hs⟩
    · split at h
      · rename_i m hrest
        cases h
        obtain ⟨f, hf, hfm⟩ := ih hrest
        exact ⟨f, List.mem_cons_of_mem _ hf, hfm⟩
      · cases h

theorem length_of_firstOk_eq_error {input : α} {sniffers : List (SniffMetadata → α →
    Except SniffError SniffMetadata)} {errs : List SniffError}
    (h : firstOk metadata input sniffers = .error errs) : errs.length = sniffers.length := by
  induction sniffers generalizing errs with
  | nil =>
    cases h
    rfl
  | cons sniffer sniffers ih =>
    simp only [firstOk] at h
    split at h
    · cases h
    · split at h
      · cases h
      · rename_i errs' hrest
        cases h
        simp [ih hrest]

/-- When every sniffer refuses, the round fails with the errors of all of them. -/
theorem firstOk_eq_error {input : α} {sniffers : List (SniffMetadata → α →
    Except SniffError SniffMetadata)}
    (hall : ∀ sniffer ∈ sniffers, ∃ err, sniffer metadata input = .error err) :
    ∃ errs, firstOk metadata input sniffers = .error errs ∧
      ∀ err, err ∈ errs ↔ ∃ sniffer ∈ sniffers, sniffer metadata input = .error err := by
  induction sniffers with
  | nil => exact ⟨[], rfl, by simp⟩
  | cons sniffer sniffers ih =>
    obtain ⟨err, hs⟩ := hall sniffer List.mem_cons_self
    obtain ⟨errs, hrest, hmem⟩ := ih fun f hf => hall f (List.mem_cons_of_mem _ hf)
    refine ⟨err :: errs, by simp only [firstOk, hs, hrest], fun e => ?_⟩
    constructor
    · rintro (_ | ⟨_, he⟩)
      · exact ⟨sniffer, List.mem_cons_self, hs⟩
      · obtain ⟨f, hf, hfe⟩ := (hmem e).mp he
        exact ⟨f, List.mem_cons_of_mem _ hf, hfe⟩
    · rintro ⟨f, hf, hfe⟩
      rcases List.mem_cons.mp hf with rfl | hf
      · rw [hs] at hfe
        cases hfe
        exact List.mem_cons_self
      · exact List.mem_cons_of_mem _ ((hmem e).mpr ⟨f, hf, hfe⟩)

theorem firstOk_congr {input input' : α} {sniffers : List (SniffMetadata → α →
    Except SniffError SniffMetadata)}
    (h : ∀ sniffer ∈ sniffers, sniffer metadata input = sniffer metadata input') :
    firstOk metadata input sniffers = firstOk metadata input' sniffers := by
  induction sniffers with
  | nil => rfl
  | cons sniffer sniffers ih =>
    simp only [firstOk, h sniffer List.mem_cons_self,
      ih fun f hf => h f (List.mem_cons_of_mem _ hf)]

end Sniff

/-! ### Delivering a stream -/

namespace Sniff

/-- A stream sniffer that reads only through `io.ReadFull` or `bufio` sees no more than
the concatenation of the buffers. -/
def Flat (sniffer : StreamSniffer) : Prop :=
  ∀ metadata (chunks chunks' : Chunks), chunks.flatten = chunks'.flatten →
    sniffer metadata chunks = sniffer metadata chunks'

/-- On `data` every sniffer refuses and one of them needs more data, so `PeekStream`
reads again. -/
def Waits (sniffers : List StreamSniffer) (metadata : SniffMetadata) (data : List UInt8) :
    Prop :=
  (∀ sniffer ∈ sniffers, ∃ err, sniffer metadata [data] = .error err) ∧
    ∃ sniffer ∈ sniffers, sniffer metadata [data] = .error .needMoreData

/-- How a round of `PeekStream` over `data` ends when no read follows it. -/
def final (sniffers : List StreamSniffer) (metadata : SniffMetadata) (data : List UInt8) :
    Except (List SniffError) SniffMetadata :=
  match firstOk metadata [data] sniffers with
  | .ok metadata' => .ok metadata'
  | .error errs => Errors errs metadata

variable {sniffers : List StreamSniffer} {metadata : SniffMetadata} {buffers : Chunks}

theorem firstOk_flat (hflat : ∀ sniffer ∈ sniffers, Flat sniffer) (chunks : Chunks) :
    firstOk metadata chunks sniffers = firstOk metadata [chunks.flatten] sniffers :=
  firstOk_congr metadata fun sniffer hmem => hflat sniffer hmem metadata _ _ (by simp)

theorem loop_last (hflat : ∀ sniffer ∈ sniffers, Flat sniffer) (i : Nat)
    (buffer : List UInt8) (sniffError : List SniffError) (read : List UInt8) :
    PeekStream.loop sniffers metadata buffers i buffer sniffError [read] =
      final sniffers metadata (buffers.flatten ++ buffer ++ read) := by
  simp only [PeekStream.loop, final, firstOk_flat hflat (buffers ++ [buffer ++ read]),
    List.flatten_append, List.flatten_singleton, List.append_assoc]
  cases firstOk metadata [buffers.flatten ++ (buffer ++ read)] sniffers with
  | ok metadata' => rfl
  | error errs =>
    dsimp only
    split_ifs with hneed hround
    · rfl
    · omega
    · rfl

theorem loop_wait (hflat : ∀ sniffer ∈ sniffers, Flat sniffer) {i : Nat}
    {buffer read : List UInt8} (hwait : Waits sniffers metadata (buffers.flatten ++ buffer ++ read))
    (sniffError : List SniffError) (reads : List (List UInt8)) :
    ∃ errs, PeekStream.loop sniffers metadata buffers i buffer sniffError (read :: reads) =
      PeekStream.loop sniffers metadata buffers (i + 1) (buffer ++ read) errs reads := by
  obtain ⟨errs, hfirst, hmem⟩ := firstOk_eq_error metadata hwait.1
  have hneed : errs.contains .needMoreData = true :=
    List.contains_iff_mem.mpr ((hmem _).mpr hwait.2)
  refine ⟨errs, ?_⟩
  simp only [PeekStream.loop, firstOk_flat hflat (buffers ++ [buffer ++ read]),
    List.flatten_append, List.flatten_singleton, ← List.append_assoc, hfirst, hneed, if_true]

/-- Reads after each of which, but the last, the sniffers wait: the round over
everything decides. -/
theorem loop_eq_final (hflat : ∀ sniffer ∈ sniffers, Flat sniffer)
    (reads : List (List UInt8)) :
    ∀ (read : List UInt8) (i : Nat) (buffer : List UInt8) (sniffError : List SniffError),
      (∀ k < reads.length, Waits sniffers metadata
        (buffers.flatten ++ buffer ++ ((read :: reads).take (k + 1)).flatten)) →
      PeekStream.loop sniffers metadata buffers i buffer sniffError (read :: reads) =
        final sniffers metadata (buffers.flatten ++ buffer ++ (read :: reads).flatten) := by
  induction reads with
  | nil =>
    intro read i buffer sniffError _
    rw [loop_last hflat]
    simp
  | cons read' reads ih =>
    intro read i buffer sniffError hwait
    have hfirst : Waits sniffers metadata (buffers.flatten ++ buffer ++ read) := by
      simpa using hwait 0 (by simp)
    obtain ⟨errs, hstep⟩ := loop_wait hflat hfirst sniffError (read' :: reads)
    rw [hstep, ih read' (i + 1) (buffer ++ read) errs]
    · simp [List.append_assoc]
    · intro k hk
      have := hwait (k + 1) (by simp; omega)
      simpa [List.take_succ_cons, List.append_assoc] using this

end Sniff

/-- The outcome of `PeekStream` does not depend on how the bytes arrive when its sniffers
see only their concatenation and, after every read but the last, all refuse and one needs
more data: then it is the outcome of one read of everything. -/
theorem PeekStream_eq_single {sniffers : List StreamSniffer}
    (hflat : ∀ sniffer ∈ sniffers, Flat sniffer) (metadata : SniffMetadata) (buffers : Chunks)
    (read : List UInt8) (reads : List (List UInt8))
    (hwait : ∀ k < reads.length, Waits sniffers metadata
      (buffers.flatten ++ ((read :: reads).take (k + 1)).flatten)) :
    PeekStream sniffers metadata buffers (read :: reads) =
      PeekStream sniffers metadata [] [buffers.flatten ++ (read :: reads).flatten] := by
  unfold PeekStream
  rw [loop_eq_final hflat reads read 0 [] [] (by simpa using hwait), loop_last hflat]
  simp

/-! ### The stream sniffers -/

theorem Flat_SSH : Flat SSH := by
  intro metadata chunks chunks' h
  unfold SSH
  rw [h]

theorem Flat_RDP : Flat RDP := by
  intro metadata chunks chunks' h
  unfold RDP
  rw [h]

theorem Flat_StreamDomainNameQuery (unpack : List UInt8 → Except String DNSMsg) :
    Flat (StreamDomainNameQuery unpack) := by
  intro metadata chunks chunks' h
  unfold StreamDomainNameQuery
  rw [h]

theorem SSH_of_unterminated (metadata : SniffMetadata) (rest : List UInt8)
    (hrest : 0x0A ∉ rest) (hlen : sshPrefix.length + rest.length < defaultBufSize) :
    SSH metadata [sshPrefix ++ rest] = .ok { metadata with protocol := "ssh", client := rest } := by
  have hdata : ∀ b ∈ sshPrefix ++ rest, (b != 0x0A) = true := by
    intro b hb
    rcases List.mem_append.mp hb with hb | hb
    · simp only [sshPrefix, List.mem_cons, List.not_mem_nil, or_false] at hb
      rcases hb with rfl | rfl | rfl | rfl | rfl | rfl | rfl | rfl <;> decide
    · exact bne_iff_ne.mpr fun h => hrest (h ▸ hb)
  have hwindow : (sshPrefix ++ rest).take defaultBufSize = sshPrefix ++ rest :=
    List.take_of_length_le (by simp only [List.length_append]; omega)
  have hline : (sshPrefix ++ rest).takeWhile (· != 0x0A) = sshPrefix ++ rest :=
    List.takeWhile_eq_self_iff.mpr hdata
  simp only [SSH, List.flatten_singleton, List.take_left, List.take_length, bne_self_eq_false,
    Bool.false_eq_true, if_false, lt_self_iff_false, readLine, hwindow, hline]
  rw [if_neg (by simp only [List.length_append]; omega)]
  simp [sshPrefix]

/-- "SSH-2.0-Open" then "SSH_9.0\r\n": `PeekStream` accepts after the first read, with
the client cut at the end of it; one read of everything gives "OpenSSH_9.0". -/
example : PeekStream [SSH] ⟨"", []⟩ []
      [sshPrefix ++ [0x4F, 0x70, 0x65, 0x6E], [0x53, 0x53, 0x48, 0x5F, 0x39, 0x2E, 0x30, 0x0D, 0x0A]] =
      .ok ⟨"ssh", [0x4F, 0x70, 0x65, 0x6E]⟩ ∧
    PeekStream [SSH] ⟨"", []⟩ []
      [sshPrefix ++ [0x4F, 0x70, 0x65, 0x6E, 0x53, 0x53, 0x48, 0x5F, 0x39, 0x2E, 0x30, 0x0D, 0x0A]] =
      .ok ⟨"ssh", [0x4F, 0x70, 0x65, 0x6E, 0x53, 0x53, 0x48, 0x5F, 0x39, 0x2E, 0x30]⟩ :=
  ⟨rfl, rfl⟩

theorem BitTorrent_whole (metadata : SniffMetadata) (rest : List UInt8) :
    BitTorrent metadata [19 :: bitTorrentHeader ++ rest] =
      .ok { metadata with protocol := "bittorrent" } := by
  simp [BitTorrent, readByte, readOnce, bitTorrentHeader]

theorem BitTorrent_split (metadata : SniffMetadata) (pre post rest : List UInt8)
    (hpre : pre ≠ []) (hlen : pre.length < 19) (hheader : pre ++ post = bitTorrentHeader) :
    BitTorrent metadata [19 :: pre, post ++ rest] = .error .needMoreData := by
  obtain ⟨b, bs, rfl⟩ := List.exists_cons_of_ne_nil hpre
  have htake : (b :: bs).take 19 = b :: bs := List.take_of_length_le (by omega)
  have hname : bitTorrentHeader.take (b :: bs).length = b :: bs := by
    rw [← hheader, List.take_left]
  simp only [BitTorrent, readByte, readOnce, htake, hname, bne_self_eq_false,
    Bool.false_eq_true, if_false, reduceCtorEq, hlen, if_true]

/-- "\x13BitTorr" as a buffer read before, then "ent protocol": `PeekStream` with
`BitTorrent` waits until the reads end and fails; one read of everything accepts. -/
example : PeekStream [BitTorrent] ⟨"", []⟩ [19 :: bitTorrentHeader.take 7]
      [bitTorrentHeader.drop 7] = .error [.needMoreData] ∧
    PeekStream [BitTorrent] ⟨"", []⟩ [] [19 :: bitTorrentHeader] = .ok ⟨"bittorrent", []⟩ :=
  ⟨rfl, rfl⟩

/-- `PeekPacket` accepts only through a sniffer that accepts; so it fills in the
protocol when each of its sniffers does, as long as it has one. -/
theorem PeekPacket_protocol {sniffers : List PacketSniffer} {metadata : SniffMetadata}
    {packet : List UInt8} (hne : sniffers ≠ [])
    (hsniffers : ∀ sniffer ∈ sniffers, ∀ metadata',
      sniffer metadata packet = .ok metadata' → metadata'.protocol ≠ "")
    {metadata' : SniffMetadata} (h : PeekPacket sniffers metadata packet = .ok metadata') :
    metadata'.protocol ≠ "" := by
  unfold PeekPacket at h
  cases hfirst : firstOk metadata packet sniffers with
  | ok m =>
    rw [hfirst] at h
    cases h
    obtain ⟨sniffer, hmem, hs⟩ := exists_of_firstOk_eq_ok metadata hfirst
    exact hsniffers sniffer hmem _ hs
  | error errs =>
    rw [hfirst] at h
    have hlen := length_of_firstOk_eq_error metadata hfirst
    have herrs : errs ≠ [] := fun he => hne (List.eq_nil_of_length_eq_zero (by simp [← hlen, he]))
    simp [Errors, herrs] at h

/-- A response `Msg.Unpack` reads makes `DomainNameQuery` return nil without a protocol,
so `PeekPacket` with it first accepts the packet and leaves the metadata as it was. -/
theorem PeekPacket_DomainNameQuery_response (unpack : List UInt8 → Except String DNSMsg)
    (packet : List UInt8) (msg : DNSMsg) (hunpack : unpack packet = .ok msg)
    (hresponse : msg.response = true) (sniffers : List PacketSniffer)
    (metadata : SniffMetadata) :
    PeekPacket (DomainNameQuery unpack :: sniffers) metadata packet = .ok metadata := by
  simp [PeekPacket, firstOk, DomainNameQuery, hunpack, hresponse]

/-- The header of a DNS message as `Msg.Unpack` reads it, for a message whose sections
hold what the header counts: `QR` and the counts of questions, answers and authority
records. -/
def unpackHeader : List UInt8 → Except String DNSMsg
  | _ :: _ :: flags :: _ :: qd₁ :: qd₂ :: an₁ :: an₂ :: ns₁ :: ns₂ :: _ :: _ :: _ =>
    .ok ⟨flags &&& 0x80 != 0, qd₁.toNat * 256 + qd₂.toNat, an₁.toNat * 256 + an₂.toNat,
      ns₁.toNat * 256 + ns₂.toNat⟩
  | _ => .error "dns: overflow unpacking uint16"

/-- A response to the query for "a." of type A: `QR` and `RD` set, one question. -/
def dnsResponsePacket : List UInt8 :=
  [0x00, 0x00, 0x81, 0x80, 0x00, 0x01, 0x00, 0x00, 0x00, 0x00, 0x00, 0x00,
    0x01, 0x61, 0x00, 0x00, 0x01, 0x00, 0x01]

theorem PeekPacket_dnsResponsePacket :
    unpackHeader dnsResponsePacket = .ok ⟨true, 1, 0, 0⟩ ∧
      PeekPacket [DomainNameQuery unpackHeader] ⟨"", []⟩ dnsResponsePacket = .ok ⟨"", []⟩ :=
  ⟨rfl, PeekPacket_DomainNameQuery_response unpackHeader dnsResponsePacket ⟨true, 1, 0, 0⟩ rfl
    rfl [] ⟨"", []⟩⟩

end SingBox
