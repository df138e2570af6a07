import SingBox.Uvarint

/-!
# The gun stream

`transport/v2raygrpclite/conn.go`. `Write` and `WriteBuffer` send each payload as one
gRPC frame: a zero byte, the gRPC message length as a big-endian `uint32`, the protobuf
tag `0x0A`, the payload's length as a uvarint, and the payload. `GunConn.read` undoes it
across calls: with `readRemaining` bytes of the current frame left it reads at most that
many; otherwise it discards the six header bytes, reads the uvarint and converts it with
`int(dataLen)` into the new `readRemaining`, and slices the buffer to it.

The connection reads through a `bufio.Reader` over the peer's stream, which is modelled
by what it has not handed out yet. Under a reader that hands out between one and the
requested number of bytes or fails, a `Read` into a non-empty buffer hands out between
one and as many bytes as the buffer and the stream hold; `chunk` picks how many.

Results: a read never hands out more than its buffer (`read_length_le`); it panics
exactly when the header's length does not fit in `int` (`read_eq_panic_iff`); and over
a stream of frames every sequence of reads hands out a prefix of the payloads, all of
them once it reports `io.EOF` (`readAll_frames`).
-/

namespace SingBox

/-- The reading side of a `GunConn` that has its reader: the bytes of the peer's stream
that its `bufio.Reader` has not handed out, and `readRemaining`. -/
structure GunConn where
  pending : List UInt8
  readRemaining : Int
deriving DecidableEq, Repr

/-- What one `GunConn.read` does: hand out bytes, fail, or panic on a slice bound. -/
inductive ReadResult where
  | ok (data : List UInt8) (conn : GunConn)
  | error (err : Uvarint.Error) (conn : GunConn)
  | panic
deriving DecidableEq, Repr

namespace GunConn

/-- `bufio.Reader.Read` into a buffer of `n` bytes: nothing for an empty buffer,
`io.EOF` at the end of the stream, and otherwise the next bytes, `chunk` of them
brought between one and what the buffer and the stream hold. -/
def bufferedRead (pending : List UInt8) (n chunk : Nat) :
    Except Uvarint.Error (List UInt8) × List UInt8 :=
  if n = 0 then (.ok [], pending)
  else if pending = [] then (.error .eof, [])
  else
    let k := max 1 (min chunk (min n pending.length))
    (.ok (pending.take k), pending.drop k)

/-- `bufio.Reader.Discard`: drop the next `n` bytes, or all there are and `io.EOF`. -/
def discard (pending : List UInt8) (n : Nat) : Except Uvarint.Error Unit × List UInt8 :=
  if n ≤ pending.length then (.ok (), pending.drop n) else (.error .eof, [])

/-- Go's `int(x)` of a `uint64` where `int` has `intSize` bits: the low bits, read in
two's complement. -/
def toInt (intSize x : Nat) : Int :=
  (BitVec.ofNat intSize x).toInt

/-- The end of both branches of `read`: `n, err = c.reader.Read(b)` and
`c.readRemaining -= n`. -/
def finishRead (result : Except Uvarint.Error (List UInt8) × List UInt8)
    (readRemaining : Int) : ReadResult :=
  match result with
  | (.ok data, pending) => .ok data ⟨pending, readRemaining - data.length⟩
  | (.error err, pending) => .error err ⟨pending, readRemaining⟩

/-- `GunConn.read` into a buffer of `n` bytes, on a platform whose `int` has `intSize`
bits. -/
def read (intSize : Nat) (c : GunConn) (n chunk : Nat) : ReadResult :=
  if c.readRemaining > 0 then
    let n := if n > c.readRemaining then c.readRemaining.toNat else n
    finishRead (bufferedRead c.pending n chunk) c.readRemaining
  else
    match discard c.pending 6 with
    | (.error err, pending) => .error err ⟨pending, c.readRemaining⟩
    | (.ok (), pending) =>
      match Uvarint.read pending with
      | (.error err, pending) => .error err ⟨pending, c.readRemaining⟩
      | (.ok dataLen, pending) =>
        let readLen := toInt intSize dataLen
        if (n : Int) > readLen then
          -- `b = b[:readLen]`, out of range below zero
          if readLen < 0 then .panic
          else finishRead (bufferedRead pending readLen.toNat chunk) readLen
        else finishRead (bufferedRead pending n chunk) readLen

/-- `binary.BigEndian.PutUint32` of `uint32(x)`. -/
def bigEndianUint32 (x : Nat) : List UInt8 :=
  [(x >>> 24).toUInt8, (x >>> 16).toUInt8, (x >>> 8).toUInt8, x.toUInt8]

/-- The bytes `Write` and `WriteBuffer` send for a payload. -/
def frame (b : List UInt8) : List UInt8 :=
  let varLen := Uvarint.len b.length
  [0x00] ++ bigEndianUint32 (1 + varLen + b.length) ++ [0x0A] ++ Uvarint.put b.length ++ b

/-- How a sequence of reads ends: every read returned, one failed, or one panicked. -/
inductive ReadEnd where
  | open (conn : GunConn)
  | error (err : Uvarint.Error)
  | panic
deriving DecidableEq, Repr

/-- Successive reads, each with its buffer length and the count the reader picks: the
bytes they hand out until the first error or panic, and how they end. -/
def readAll (intSize : Nat) (c : GunConn) : List (Nat × Nat) → List UInt8 × ReadEnd
  | [] => ([], .open c)
  | (n, chunk) :: requests =>
    match c.read intSize n chunk with
    | .ok data c' =>
      let rest := c'.readAll intSize requests
      (data ++ rest.1, rest.2)
    | .error err _ => ([], .error err)
    | .panic => ([], .panic)

/-! ### One read -/

theorem bufferedRead_spec (pending : List UInt8) (n chunk : Nat) :
    (n = 0 ∧ bufferedRead pending n chunk = (.ok [], pending)) ∨
    (n ≠ 0 ∧ pending = [] ∧ bufferedRead pending n chunk = (.error .eof, [])) ∨
    ∃ k, 1 ≤ k ∧ k ≤ n ∧ k ≤ pending.length ∧
      bufferedRead pending n chunk = (.ok (pending.take k), pending.drop k) := by
  unfold bufferedRead
  by_cases hn : n = 0
  · exact Or.inl ⟨hn, by rw [if_pos hn]⟩
  · by_cases hp : pending = []
    · exact Or.inr (Or.inl ⟨hn, hp, by rw [if_neg hn, if_pos hp]⟩)
    · have hlen : 0 < pending.length := List.length_pos_iff.mpr hp
      refine Or.inr (Or.inr ⟨max 1 (min chunk (min n pending.length)), by omega, by omega,
        by omega, ?_⟩)
      rw [if_neg hn, if_neg hp]

theorem bufferedRead_length_le (pending : List UInt8) (n chunk : Nat) {data rest : List UInt8}
    (h : bufferedRead pending n chunk = (.ok data, rest)) :
    data.length ≤ n ∧ data ++ rest = pending := by
  rcases bufferedRead_spec pending n chunk with ⟨hn, he⟩ | ⟨_, _, he⟩ | ⟨k, _, hkn, _, he⟩
  · rw [he] at h
    cases h
    exact ⟨Nat.zero_le _, rfl⟩
  · rw [he] at h
    cases h
  · rw [he] at h
    cases h
    exact ⟨by rw [List.length_take]; omega, List.take_append_drop k pending⟩

theorem finishRead_ne_panic (result : Except Uvarint.Error (List UInt8) × List UInt8)
    (readRemaining : Int) : finishRead result readRemaining ≠ .panic := by
  obtain ⟨_ | _, _⟩ := result <;> simp [finishRead]

theorem finishRead_length_le {result : Except Uvarint.Error (List UInt8) × List UInt8}
    {readRemaining : Int} {data : List UInt8} {c' : GunConn}
    (h : finishRead result readRemaining = .ok data c') :
    ∃ rest, result = (.ok data, rest) := by
  obtain ⟨_ | data', rest⟩ := result
  · simp [finishRead] at h
  · simp only [finishRead, ReadResult.ok.injEq] at h
    exact ⟨rest, by rw [h.1]⟩

/-- A read never hands out more than its buffer holds. -/
theorem read_length_le (intSize : Nat) (c : GunConn) (n chunk : Nat) {data : List UInt8}
    {c' : GunConn} (h : c.read intSize n chunk = .ok data c') : data.length ≤ n := by
  unfold read at h
  by_cases hrem : c.readRemaining > 0
  · rw [if_pos hrem] at h
    obtain ⟨rest, hr⟩ := finishRead_length_le h
    have := (bufferedRead_length_le _ _ _ hr).1
    split_ifs at this <;> omega
  · rw [if_neg hrem] at h
    rcases hd : discard c.pending 6 with ⟨_ | _, pending⟩
    · simp only [hd, reduceCtorEq] at h
    · simp only [hd] at h
      rcases hv : Uvarint.read pending with ⟨_ | dataLen, pending'⟩
      · simp only [hv, reduceCtorEq] at h
      · simp only [hv] at h
        split_ifs at h with hlt hneg
        · obtain ⟨rest, hr⟩ := finishRead_length_le h
          have := (bufferedRead_length_le _ _ _ hr).1
          omega
        · obtain ⟨rest, hr⟩ := finishRead_length_le h
          exact (bufferedRead_length_le _ _ _ hr).1

/-- A read panics exactly when it starts a frame whose six header bytes are there and
whose uvarint length, converted to `int`, is negative. -/
theorem read_eq_panic_iff (intSize : Nat) (c : GunConn) (n chunk : Nat) :
    c.read intSize n chunk = .panic ↔
      c.readRemaining ≤ 0 ∧ 6 ≤ c.pending.length ∧
        ∃ dataLen, (Uvarint.read (c.pending.drop 6)).1 = .ok dataLen ∧
          toInt intSize dataLen < 0 := by
  unfold read
  by_cases hrem : c.readRemaining > 0
  · rw [if_pos hrem]
    simp only [not_le.mpr hrem, false_and, iff_false]
    exact finishRead_ne_panic _ _
  · rw [if_neg hrem]
    simp only [not_lt.mp hrem, true_and]
    unfold discard
    by_cases h6 : 6 ≤ c.pending.length
    · simp only [h6, if_true, true_and]
      rcases hv : Uvarint.read (c.pending.drop 6) with ⟨_ | dataLen, pending'⟩
      · simp
      · simp only [Except.ok.injEq, exists_eq_left']
        split_ifs with hlt hneg
        · simp [hneg]
        · simp only [finishRead_ne_panic, false_iff, not_lt]
          exact not_lt.mp hneg
        · simp only [finishRead_ne_panic, false_iff, not_lt]
          omega
    · simp [h6]

/-- 00 00 00 00 00 0A, then the uvarint of `2 ^ 63`: a peer's frame header whose length
does not fit in a 64-bit `int`. -/
def largeLengthHeader : List UInt8 :=
  [0x00, 0x00, 0x00, 0x00, 0x00, 0x0A,
    0x80, 0x80, 0x80, 0x80, 0x80, 0x80, 0x80, 0x80, 0x80, 0x01]

/-- On a 64-bit platform the first read of a stream starting with that header panics,
whatever the buffer: `int(dataLen)` is `-2 ^ 63` and `b[:readLen]` is out of range. -/
theorem read_largeLengthHeader_panics (rest : List UInt8) (n chunk : Nat) :
    GunConn.read 64 ⟨largeLengthHeader ++ rest, 0⟩ n chunk = .panic := by
  rw [read_eq_panic_iff]
  refine ⟨le_refl 0, by simp [largeLengthHeader], 2 ^ 63, ?_, by decide⟩
  simp [largeLengthHeader, Uvarint.read, Uvarint.readFrom, Uvarint.maxLen]

/-! ### Streams of frames -/

theorem toInt_of_lt {intSize x : Nat} (hsize : 0 < intSize) (hx : x < 2 ^ (intSize - 1)) :
    toInt intSize x = x := by
  have hpow : 2 ^ intSize = 2 * 2 ^ (intSize - 1) := by
    rw [← Nat.pow_succ']
    congr 1
    omega
  have hlt : x < 2 ^ intSize := by omega
  unfold toInt
  rw [BitVec.toInt_eq_toNat_of_msb]
  · simp [Nat.mod_eq_of_lt hlt]
  · rw [BitVec.msb_eq_false_iff_two_mul_lt]
    simp only [BitVec.toNat_ofNat, Nat.mod_eq_of_lt hlt]
    omega

theorem frame_eq (b : List UInt8) :
    ∃ header : List UInt8, header.length = 6 ∧ frame b = header ++ Uvarint.put b.length ++ b :=
  ⟨[0x00] ++ bigEndianUint32 (1 + Uvarint.len b.length + b.length) ++ [0x0A],
    by simp [bigEndianUint32], rfl⟩

theorem discard_append {header : List UInt8} (hheader : header.length = 6) (rest : List UInt8) :
    discard (header ++ rest) 6 = (.ok (), rest) := by
  rw [discard, if_pos (by simp [hheader]), List.drop_left' hheader]

theorem bufferedRead_payload (payload rest : List UInt8) (m : Nat) (hm : m ≤ payload.length)
    (chunk : Nat) :
    ∃ data payload', bufferedRead (payload ++ rest) m chunk = (.ok data, payload' ++ rest) ∧
      data ++ payload' = payload := by
  rcases bufferedRead_spec (payload ++ rest) m chunk with ⟨_, he⟩ | ⟨hm0, hnil, _⟩ |
    ⟨k, _, hkm, _, he⟩
  · exact ⟨[], payload, he, rfl⟩
  · have : payload = [] := (List.append_eq_nil_iff.mp hnil).1
    simp only [this, List.length_nil] at hm
    omega
  · refine ⟨payload.take k, payload.drop k, ?_, List.take_append_drop k payload⟩
    rw [he, List.take_append_of_le_length (by omega), List.drop_append_of_le_length (by omega)]

theorem cut_of_nonneg (pending : List UInt8) (n chunk : Nat) {readLen : Int}
    (h : 0 ≤ readLen) :
    (if (n : Int) > readLen then
      if readLen < 0 then ReadResult.panic
      else finishRead (bufferedRead pending readLen.toNat chunk) readLen
    else finishRead (bufferedRead pending n chunk) readLen) =
      finishRead (bufferedRead pending (min n readLen.toNat) chunk) readLen := by
  by_cases hgt : (n : Int) > readLen
  · rw [if_pos hgt, if_neg (not_lt.mpr h), min_eq_right (by omega)]
  · rw [if_neg hgt, min_eq_left (by omega)]

/-- Where a connection reading a stream of frames stands: the rest of the current
frame's payload, `readRemaining` long, and then whole frames. -/
def Framed (c : GunConn) (payload : List UInt8) (payloads : List (List UInt8)) : Prop :=
  c.pending = payload ++ (payloads.map frame).flatten ∧ c.readRemaining = payload.length

theorem finishRead_payload {payload payload' data : List UInt8}
    (payloads : List (List UInt8)) (hsplit : data ++ payload' = payload) :
    finishRead (.ok data, payload' ++ (payloads.map frame).flatten) payload.length =
      .ok data ⟨payload' ++ (payloads.map frame).flatten, payload'.length⟩ := by
  have : (payload.length : Int) - data.length = payload'.length := by
    rw [← hsplit, List.length_append]
    omega
  rw [finishRead, this]

/-- One read from a stream of frames whose payloads fit in `int`: at the end of the
stream `io.EOF`; otherwise it hands out the next bytes of the payloads and stays at a
place of the stream. -/
theorem read_framed {intSize : Nat} (hsize : 0 < intSize ∧ intSize ≤ 64) {c : GunConn}
    {payload : List UInt8} {payloads : List (List UInt8)} (h : Framed c payload payloads)
    (hsmall : ∀ b ∈ payloads, b.length < 2 ^ (intSize - 1)) (n chunk : Nat) :
    (payload = [] ∧ payloads = [] ∧ ∃ c', c.read intSize n chunk = .error .eof c') ∨
    ∃ data c' payload' payloads', c.read intSize n chunk = .ok data c' ∧
      Framed c' payload' payloads' ∧ payloads' <:+ payloads ∧
      data ++ payload' ++ payloads'.flatten = payload ++ payloads.flatten := by
  obtain ⟨hpending, hrem⟩ := h
  unfold read
  cases payload with
  | cons byte bytes =>
    have hpos : c.readRemaining > 0 := by simp [hrem]
    rw [if_pos hpos, hpending, hrem]
    obtain ⟨data, payload', hb, hsplit⟩ := bufferedRead_payload (byte :: bytes)
      ((payloads.map frame).flatten)
      (if n > ((byte :: bytes).length : Int) then ((byte :: bytes).length : Int).toNat else n)
      (by split_ifs <;> omega) chunk
    refine Or.inr ⟨data, ⟨payload' ++ (payloads.map frame).flatten, payload'.length⟩, payload',
      payloads, ?_, ⟨rfl, rfl⟩, List.suffix_refl _, ?_⟩
    · dsimp only
      rw [hb, finishRead_payload payloads hsplit]
    · rw [← hsplit, List.append_assoc]
  | nil =>
    rw [if_neg (by simp [hrem])]
    cases payloads with
    | nil =>
      refine Or.inl ⟨rfl, rfl, ⟨[], c.readRemaining⟩, ?_⟩
      simp [hpending, discard]
    | cons b bs =>
      obtain ⟨header, hheader, hframe⟩ := frame_eq b
      have hb := hsmall b List.mem_cons_self
      have hb64 : b.length < 2 ^ 64 :=
        lt_of_lt_of_le hb (Nat.pow_le_pow_right (by decide) (by omega))
      have hlen := toInt_of_lt hsize.1 hb
      simp only [hpending, List.nil_append, List.map_cons, List.flatten_cons, hframe,
        List.append_assoc]
      rw [discard_append hheader]
      dsimp only
      rw [Uvarint.read_put hb64]
      dsimp only
      rw [hlen, cut_of_nonneg _ n chunk (Int.natCast_nonneg _), Int.toNat_natCast]
      obtain ⟨data, payload', hread, hsplit⟩ := bufferedRead_payload b ((bs.map frame).flatten)
        (min n b.length) (Nat.min_le_right _ _) chunk
      refine Or.inr ⟨data, ⟨payload' ++ (bs.map frame).flatten, payload'.length⟩, payload', bs,
        ?_, ⟨rfl, rfl⟩, List.suffix_cons b bs, ?_⟩
      · rw [hread, finishRead_payload bs hsplit]
      · rw [← hsplit]
        simp

/-- Every sequence of reads from a place of a stream of frames whose payloads fit in
`int` hands out a prefix of what is left of the payloads, never panics, and fails only
with `io.EOF`, after handing out all of it. -/
theorem readAll_framed {intSize : Nat} (hsize : 0 < intSize ∧ intSize ≤ 64)
    (requests : List (Nat × Nat)) :
    ∀ (c : GunConn) (payload : List UInt8) (payloads : List (List UInt8)),
      Framed c payload payloads → (∀ b ∈ payloads, b.length < 2 ^ (intSize - 1)) →
      ∃ rest, (c.readAll intSize requests).1 ++ rest = payload ++ payloads.flatten ∧
        (c.readAll intSize requests).2 ≠ .panic ∧
        ∀ err, (c.readAll intSize requests).2 = .error err → err = .eof ∧ rest = [] := by
  induction requests with
  | nil =>
    intro c payload payloads _ _
    exact ⟨payload ++ payloads.flatten, rfl, by simp [readAll], by simp [readAll]⟩
  | cons request requests ih =>
    intro c payload payloads h hsmall
    obtain ⟨n, chunk⟩ := request
    rcases read_framed hsize h hsmall n chunk with ⟨rfl, rfl, c', hread⟩ |
      ⟨data, c', payload', payloads', hread, h', hsuffix, hsplit⟩
    · refine ⟨[], by simp [readAll, hread], by simp [readAll, hread], ?_⟩
      intro err herr
      simp only [readAll, hread, ReadEnd.error.injEq] at herr
      exact ⟨herr.symm, rfl⟩
    · obtain ⟨rest, hrest, hpanic, herr⟩ :=
        ih c' payload' payloads' h' fun b hb => hsmall b (hsuffix.subset hb)
      refine ⟨rest, ?_, ?_, ?_⟩
      · simp only [readAll, hread, List.append_assoc, hrest]
        rw [← hsplit, List.append_assoc]
      · simpa only [readAll, hread] using hpanic
      · simpa only [readAll, hread] using herr

/-- Over the stream `Write` sends for payloads that fit in `int`, every sequence of reads
hands out a prefix of the payloads in order, never panics, and fails only with `io.EOF`,
after handing out all of them. -/
theorem readAll_frames {intSize : Nat} (hsize : 0 < intSize ∧ intSize ≤ 64)
    (payloads : List (List UInt8)) (hsmall : ∀ b ∈ payloads, b.length < 2 ^ (intSize - 1))
    (requests : List (Nat × Nat)) :
    let result := (GunConn.mk (payloads.map frame).flatten 0).readAll intSize requests
    result.1 <+: payloads.flatten ∧ result.2 ≠ .panic ∧
      ∀ err, result.2 = .error err → err = .eof ∧ result.1 = payloads.flatten := by
  obtain ⟨rest, hrest, hpanic, herr⟩ :=
    readAll_framed hsize requests ⟨(payloads.map frame).flatten, 0⟩ [] payloads ⟨rfl, rfl⟩ hsmall
  refine ⟨⟨rest, hrest⟩, hpanic, fun err he => ⟨(herr err he).1, ?_⟩⟩
  rw [← List.nil_append payloads.flatten, ← hrest, (herr err he).2, List.append_nil]

end GunConn

end SingBox
