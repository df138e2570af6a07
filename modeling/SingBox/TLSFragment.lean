import SingBox.TLSIndex
import SingBox.BigEndian

/-!
# TLS fragmentation

`common/tlsfragment/conn.go`. The first `Write` of a `Conn` finds the server name of the
ClientHello it carries, draws a split point in each label of the name that the public-suffix
cut leaves, and sends the bytes between the split points: as writes of their own
(`splitPacket`), as TLS records of their own (`splitRecord`), or both. Later writes, and a
first write with no server name, go through as they are.

`rand.Intn` is an oracle: its `call`-th use on `n` returns `rand call n % n`, which takes
every value below `n` as `rand` ranges; `n = 0` panics. `publicsuffix.List.PublicSuffix` is
a parameter. A slice panics outside the bytes.

A server name whose first label is empty (an empty name, or one that starts with a dot)
makes the first write panic in `Intn(0)`, whatever the suffix list, the oracle and the
options (`fragment_emptyFirstLabel`, `Write_emptyNameClientHello`). A write that does not panic sends exactly its bytes: the
pieces concatenate to `b` (`fragment_splitPacket`), and as records to the bytes after the
record header (`fragment_splitRecord`, `fragment_splitRecord_buffered`).
-/

namespace SingBox

namespace TLSFragment

open TLSIndex

inductive Panic where
  | intn
  | sliceBounds
  | index
deriving DecidableEq, Repr

/-- `b[lo:hi]`. -/
def slice (b : List UInt8) (lo hi : Nat) : Except Panic (List UInt8) :=
  if lo ≤ hi ∧ hi ≤ b.length then .ok ((b.drop lo).take (hi - lo)) else .error .sliceBounds

def Intn (rand : Nat → Nat → Nat) (call n : Nat) : Except Panic Nat :=
  if n = 0 then .error .intn else .ok (rand call n % n)

/-- `strings.Split` of the name on dots, cut by `strings.Count` of its dots when it has a
public suffix. -/
def labels (PublicSuffix : List UInt8 → List UInt8) (serverName : List UInt8) :
    List (List UInt8) :=
  let splits := serverName.splitOn 46
  if PublicSuffix serverName ≠ [] then splits.take (splits.length - serverName.count 46)
  else splits

/-- The split loop from its `call`-th label on at `currentIndex`. The source skips the
dot after the last label; nothing reads the index after it. -/
def splitIndexes (rand : Nat → Nat → Nat) : Nat → Nat → List (List UInt8) → Except Panic (List Nat)
  | _, _, [] => .ok []
  | call, currentIndex, split :: splits => do
    let splitAt ← Intn rand call split.length
    let rest ← splitIndexes rand (call + 1) (currentIndex + split.length + 1) splits
    pure ((currentIndex + splitAt) :: rest)

/-- The payloads after the first: from `lo` to each split point, then to the end. -/
def laterPayloads (b : List UInt8) : Nat → List Nat → Except Panic (List (List UInt8))
  | lo, [] => do
    let payload ← slice b lo b.length
    pure [payload]
  | lo, hi :: his => do
    let payload ← slice b lo hi
    let payloads ← laterPayloads b hi his
    pure (payload :: payloads)

/-- The first payload, without the record header when the records are rebuilt. -/
def firstPayload (splitRecord : Bool) (payload : List UInt8) : Except Panic (List UInt8) :=
  if splitRecord then slice payload recordLayerHeaderLen payload.length else .ok payload

def payloads (splitRecord : Bool) (b : List UInt8) : List Nat → Except Panic (List (List UInt8))
  | [] => .error .index
  | first :: rest => do
    let payload ← slice b 0 first
    let payload ← firstPayload splitRecord payload
    let payloads ← laterPayloads b first rest
    pure (payload :: payloads)

/-- A record of its own: the first three bytes of the write, then the payload's length as a
big-endian `uint16`. -/
def record (b payload : List UInt8) : List UInt8 :=
  b.take 3 ++ BigEndian.encode 2 payload.length ++ payload

/-- What the loop writes: each record or payload on its own with `splitPacket`, else the
buffer of all records at the end. -/
def writes (splitPacket splitRecord : Bool) (b : List UInt8) (payloads : List (List UInt8)) :
    List (List UInt8) :=
  if splitRecord then
    if splitPacket then payloads.map (record b) else [(payloads.map (record b)).flatten]
  else if splitPacket then payloads else []

/-- The first write of a ClientHello whose server name `IndexTLSServerName` found. -/
def fragment (PublicSuffix : List UInt8 → List UInt8) (rand : Nat → Nat → Nat)
    (splitPacket splitRecord : Bool) (b : List UInt8) (serverName : MyServerName) :
    Except Panic (List (List UInt8)) := do
  let splits := labels PublicSuffix serverName.ServerName
  -- `splits[0] == "..."` never holds: no label holds a dot
  let skip := decide (splits.length > 1 ∧ splits.head? = some [46, 46, 46])
  let splitIndexes ← splitIndexes rand 0
    (if skip then serverName.Index + 4 else serverName.Index) (if skip then splits.tail else splits)
  let payloads ← payloads splitRecord b splitIndexes
  pure (writes splitPacket splitRecord b payloads)

structure Conn where
  firstPacketWritten : Bool
  splitPacket : Bool
  splitRecord : Bool
deriving DecidableEq, Repr

/-- `Write` with the fuel of `IndexTLSServerName`: the writes it makes on the connection
underneath, or its panic, and the connection after it (the deferred `firstPacketWritten`
runs on a panic too); `none` while the index runs. -/
def Write (fuel : Nat) (PublicSuffix : List UInt8 → List UInt8) (rand : Nat → Nat → Nat)
    (c : Conn) (b : List UInt8) : Option (Except Panic (List (List UInt8)) × Conn) :=
  if c.firstPacketWritten then some (.ok [b], c)
  else (IndexTLSServerName fuel b).map fun serverName =>
    (serverName.elim (.ok [b]) (fragment PublicSuffix rand c.splitPacket c.splitRecord b),
      { c with firstPacketWritten := true })

theorem bind_eq_ok {α β : Type} {x : Except Panic α} {f : α → Except Panic β} {y : β}
    (h : x >>= f = .ok y) : ∃ a, x = .ok a ∧ f a = .ok y := by
  cases x with
  | error e => cases h
  | ok a => exact ⟨a, rfl, h⟩

theorem slice_eq_ok {b payload : List UInt8} {lo hi : Nat} (h : slice b lo hi = .ok payload) :
    lo ≤ hi ∧ hi ≤ b.length ∧ payload = (b.drop lo).take (hi - lo) := by
  unfold slice at h
  split_ifs at h with hbound
  cases h
  exact ⟨hbound.1, hbound.2, rfl⟩

/-- The payloads from `lo` on are the bytes from `lo` on. -/
theorem flatten_laterPayloads {b : List UInt8} :
    ∀ {lo : Nat} {his : List Nat} {ps : List (List UInt8)},
      laterPayloads b lo his = .ok ps → ps.flatten = b.drop lo := by
  intro lo his
  induction his generalizing lo with
  | nil =>
    intro ps h
    obtain ⟨payload, hslice, hps⟩ := bind_eq_ok h
    cases hps
    obtain ⟨-, -, rfl⟩ := slice_eq_ok hslice
    simp
  | cons hi his ih =>
    intro ps h
    obtain ⟨payload, hslice, hrest⟩ := bind_eq_ok h
    obtain ⟨rest, hlater, hps⟩ := bind_eq_ok hrest
    cases hps
    obtain ⟨hlo, -, rfl⟩ := slice_eq_ok hslice
    rw [List.flatten_cons, ih hlater]
    have hdrop : b.drop hi = (b.drop lo).drop (hi - lo) := by
      rw [List.drop_drop]
      congr 1
      omega
    rw [hdrop, List.take_append_drop]

/-- The payloads of the loop are the write, and the bytes after the record header when the
records are rebuilt. -/
theorem flatten_payloads {splitRecord : Bool} {b : List UInt8} {splitIndexes : List Nat}
    {ps : List (List UInt8)} (h : payloads splitRecord b splitIndexes = .ok ps) :
    ps.flatten = if splitRecord then b.drop recordLayerHeaderLen else b := by
  cases splitIndexes with
  | nil => cases h
  | cons first rest =>
    obtain ⟨whole, hwhole, h₁⟩ := bind_eq_ok h
    obtain ⟨payload, hpayload, h₂⟩ := bind_eq_ok h₁
    obtain ⟨later, hlater, hps⟩ := bind_eq_ok h₂
    cases hps
    obtain ⟨-, hfirst, rfl⟩ := slice_eq_ok hwhole
    rw [List.flatten_cons, flatten_laterPayloads hlater]
    cases splitRecord with
    | false =>
      unfold firstPayload at hpayload
      cases hpayload
      simp
    | true =>
      unfold firstPayload at hpayload
      obtain ⟨hheader, -, rfl⟩ := slice_eq_ok hpayload
      simp only [List.drop_zero, Nat.sub_zero, List.length_take, if_true] at hheader ⊢
      have hbody : ((b.take first).drop recordLayerHeaderLen).take
          (min first b.length - recordLayerHeaderLen) =
            (b.drop recordLayerHeaderLen).take (first - recordLayerHeaderLen) := by
        rw [List.take_of_length_le (by simp), List.drop_take]
      have hrest : b.drop first =
          (b.drop recordLayerHeaderLen).drop (first - recordLayerHeaderLen) := by
        rw [List.drop_drop]
        congr 1
        omega
      rw [hbody, hrest, List.take_append_drop]

theorem fragment_eq_ok {PublicSuffix : List UInt8 → List UInt8} {rand : Nat → Nat → Nat}
    {splitPacket splitRecord : Bool} {b : List UInt8} {serverName : MyServerName}
    {ws : List (List UInt8)}
    (h : fragment PublicSuffix rand splitPacket splitRecord b serverName = .ok ws) :
    ∃ splitIndexes ps, payloads splitRecord b splitIndexes = .ok ps ∧
      ws = writes splitPacket splitRecord b ps := by
  obtain ⟨splitIndexes, -, h₁⟩ := bind_eq_ok h
  obtain ⟨ps, hps, hws⟩ := bind_eq_ok h₁
  cases hws
  exact ⟨splitIndexes, ps, hps, rfl⟩

/-- Split into packets, the pieces of a first write that does not panic are its bytes. -/
theorem fragment_splitPacket {PublicSuffix : List UInt8 → List UInt8} {rand : Nat → Nat → Nat}
    {b : List UInt8} {serverName : MyServerName} {ws : List (List UInt8)}
    (h : fragment PublicSuffix rand true false b serverName = .ok ws) : ws.flatten = b := by
  obtain ⟨splitIndexes, ps, hps, rfl⟩ := fragment_eq_ok h
  simpa [writes] using flatten_payloads hps

/-- Split into records, each record is `b[0:3]`, its body's length as a `uint16` and its
body, and the bodies are the bytes after the record header. -/
theorem fragment_splitRecord {PublicSuffix : List UInt8 → List UInt8} {rand : Nat → Nat → Nat}
    {b : List UInt8} {serverName : MyServerName} {ws : List (List UInt8)}
    (h : fragment PublicSuffix rand true true b serverName = .ok ws) :
    ∃ bodies : List (List UInt8), ws = bodies.map (record b) ∧
      bodies.flatten = b.drop recordLayerHeaderLen := by
  obtain ⟨splitIndexes, ps, hps, rfl⟩ := fragment_eq_ok h
  exact ⟨ps, by simp [writes], by simpa using flatten_payloads hps⟩

/-- Without `splitPacket` the records go out as one write of the whole buffer. -/
theorem fragment_splitRecord_buffered {PublicSuffix : List UInt8 → List UInt8}
    {rand : Nat → Nat → Nat} {b : List UInt8} {serverName : MyServerName}
    {ws : List (List UInt8)} (h : fragment PublicSuffix rand false true b serverName = .ok ws) :
    ∃ bodies : List (List UInt8), ws = [(bodies.map (record b)).flatten] ∧
      bodies.flatten = b.drop recordLayerHeaderLen := by
  obtain ⟨splitIndexes, ps, hps, rfl⟩ := fragment_eq_ok h
  exact ⟨ps, by simp [writes], by simpa using flatten_payloads hps⟩

theorem decode_record_length (b payload : List UInt8) :
    BigEndian.decode (((record b payload).drop (b.take 3).length).take 2) = payload.length % 65536 := by
  rw [record, List.append_assoc, List.drop_left, List.take_left' (BigEndian.length_encode 2 _),
    BigEndian.decode_encode]
  norm_num

theorem length_splitOn (a : UInt8) (xs : List UInt8) :
    (xs.splitOn a).length = xs.count a + 1 := by
  induction xs with
  | nil => simp
  | cons x xs ih =>
    rw [List.splitOn_cons_eq_if_modifyHead]
    by_cases hx : x = a
    · subst hx
      simp [ih]
    · simp [hx, ih]

theorem head?_labels (PublicSuffix : List UInt8 → List UInt8) (serverName : List UInt8) :
    (labels PublicSuffix serverName).head? = (serverName.splitOn 46).head? := by
  unfold labels
  split_ifs
  · rw [List.head?_take, length_splitOn]
    simp
  · rfl

/-- A name whose first label is empty (an empty name, or one that starts with a dot) makes
the loop draw its first split point with `Intn(0)`, whatever the public-suffix list says. -/
theorem fragment_emptyFirstLabel (PublicSuffix : List UInt8 → List UInt8)
    (rand : Nat → Nat → Nat) (splitPacket splitRecord : Bool) (b : List UInt8)
    {serverName : MyServerName}
    (hempty : serverName.ServerName = [] ∨ serverName.ServerName.head? = some 46) :
    fragment PublicSuffix rand splitPacket splitRecord b serverName = .error .intn := by
  have hfirst : (serverName.ServerName.splitOn 46).head? = some [] := by
    rcases hempty with hnil | hdot
    · rw [hnil]
      rfl
    · obtain ⟨rest, hrest⟩ : ∃ rest, serverName.ServerName = 46 :: rest := by
        cases hname : serverName.ServerName with
        | nil => simp [hname] at hdot
        | cons x rest =>
          rw [hname, List.head?_cons, Option.some.injEq] at hdot
          exact ⟨rest, by rw [hdot]⟩
      rw [hrest, List.splitOn_cons_eq_if_modifyHead]
      rfl
  obtain ⟨splits, hsplits⟩ : ∃ splits, labels PublicSuffix serverName.ServerName = [] :: splits := by
    have hhead := head?_labels PublicSuffix serverName.ServerName
    rw [hfirst] at hhead
    cases hlabels : labels PublicSuffix serverName.ServerName with
    | nil => simp [hlabels] at hhead
    | cons first splits =>
      rw [hlabels, List.head?_cons, Option.some.injEq] at hhead
      exact ⟨splits, by rw [hhead]⟩
  simp [fragment, hsplits, splitIndexes, Intn]
  rfl

/-- A ClientHello whose server name extension holds one empty host name. -/
def emptyNameClientHello : List UInt8 :=
  [22, 3, 1, 0, 56] ++ [1, 0, 0, 52, 3, 3] ++ List.replicate 32 0 ++
    [0, 0, 2, 19, 1, 1, 0] ++ [0, 9, 0, 0, 0, 5, 0, 3, 0, 0, 0]

theorem IndexTLSServerName_emptyNameClientHello :
    IndexTLSServerName 1 emptyNameClientHello = some (some ⟨61, 0, [], 50⟩) := by
  decide

/-- The first write of that ClientHello panics, under every option, suffix list and draw. -/
theorem Write_emptyNameClientHello (PublicSuffix : List UInt8 → List UInt8)
    (rand : Nat → Nat → Nat) (splitPacket splitRecord : Bool) :
    Write 1 PublicSuffix rand ⟨false, splitPacket, splitRecord⟩ emptyNameClientHello =
      some (.error .intn, ⟨true, splitPacket, splitRecord⟩) := by
  rw [Write, if_neg Bool.false_ne_true, IndexTLSServerName_emptyNameClientHello]
  simp only [Option.map_some, Option.elim_some]
  rw [fragment_emptyFirstLabel PublicSuffix rand splitPacket splitRecord _ (.inl rfl)]

end TLSFragment

end SingBox
