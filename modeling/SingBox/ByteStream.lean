import SingBox.Uvarint

/-!
# Byte readers

Go reads binary formats through an `io.ByteReader`: each `ReadByte` hands out the next
byte of a stream, or fails at its end. `ByteStream.Reader` is such a reader over any state
type, with the stream a state will hand out (`rest`) and an invariant under which
`ReadByte` hands out the head of that stream. `readUvarint` is the loop of
`binary.ReadUvarint` over it, and it does what `Uvarint.read` does on the stream
(`readUvarintFrom_rest`).

Decoders are programs in `ExceptT ε (StateM S)`: their failures keep the state they reached.
`Reads m bytes a` says that from every state whose stream starts with `bytes`, `m` returns
`a` and leaves the stream after them; it composes along `>>=` (`reads_bind`), so a decoder
of a written format is proved one field at a time.

`BufReader` is a `bufio.Reader` over a seekable source whose reads return any number of
bytes up to the buffer size, at least one while bytes remain. The bytes it has fetched and
not handed out are `Buffered`, so the source offset minus them is the number of bytes
handed out, whatever sizes the reads returned (`ReadByte_some`); `bufReader` is the
`BufReader` as a byte reader.
-/

namespace ByteStream

structure Reader (S : Type) where
  readByte : S → Option (UInt8 × S)
  rest : S → List UInt8
  Inv : S → Prop
  readByte_none : ∀ s, Inv s → readByte s = none → rest s = []
  readByte_some : ∀ s b s', Inv s → readByte s = some (b, s') → rest s = b :: rest s' ∧ Inv s'

section Run

variable {ε S α β : Type}

theorem run_bind_of_ok {m : ExceptT ε (StateM S) α} {f : α → ExceptT ε (StateM S) β}
    {s s₁ : S} {a : α} (h : m.run s = (.ok a, s₁)) : (m >>= f).run s = (f a).run s₁ := by
  change StateT.run (ExceptT.run (m >>= f)) s = _
  rw [ExceptT.run_bind, StateT.run_bind]
  change StateT.run m.run s = _ at h
  rw [h]
  rfl

theorem run_tryCatch_of_ok {m : ExceptT ε (StateM S) α} {handle : ε → ExceptT ε (StateM S) α}
    {s s₁ : S} {a : α} (h : m.run s = (.ok a, s₁)) : (tryCatch m handle).run s = (.ok a, s₁) := by
  change StateT.run m s = _ at h
  change StateT.run (ExceptT.run (ExceptT.tryCatch m handle)) s = _
  simp only [ExceptT.tryCatch, ExceptT.run_mk, StateT.run_bind, h]
  rfl

end Run

namespace Reader

variable {S : Type} (rd : Reader S)

/-- The loop of `binary.ReadUvarint` from its `i`-th byte on, with the value `x` read so
far at shift `shift`. -/
def readUvarintFrom (i x shift : Nat) (s : S) : Except Uvarint.Error Nat × S :=
  match rd.readByte s with
  | none => (.error (if i > 0 then .unexpectedEOF else .eof), s)
  | some (b, s) =>
    if b < 0x80 then
      if i = Uvarint.maxLen - 1 ∧ b > 1 then (.error .overflow, s)
      else (.ok (x ||| b.toNat <<< shift), s)
    else if i + 1 < Uvarint.maxLen then
      readUvarintFrom (i + 1) (x ||| (b &&& 0x7f).toNat <<< shift) (shift + 7) s
    else (.error .overflow, s)
termination_by Uvarint.maxLen - i

/-- `binary.ReadUvarint`. -/
def readUvarint (s : S) : Except Uvarint.Error Nat × S :=
  rd.readUvarintFrom 0 0 0 s

theorem readByte_of_rest_cons {s : S} {b : UInt8} {bytes : List UInt8} (hs : rd.Inv s)
    (h : rd.rest s = b :: bytes) :
    ∃ s', rd.readByte s = some (b, s') ∧ rd.rest s' = bytes ∧ rd.Inv s' := by
  cases hread : rd.readByte s with
  | none => simp [rd.readByte_none s hs hread] at h
  | some result =>
    obtain ⟨b', s'⟩ := result
    obtain ⟨hrest, hs'⟩ := rd.readByte_some s b' s' hs hread
    rw [hrest, List.cons.injEq] at h
    obtain ⟨rfl, rfl⟩ := h
    exact ⟨s', rfl, rfl, hs'⟩

/-- The stateful `ReadUvarint` is `Uvarint.read` on the stream: the same outcome, and the
stream it leaves is the list it leaves. -/
theorem readUvarintFrom_rest (i x shift : Nat) {s : S} (hs : rd.Inv s) :
    (rd.readUvarintFrom i x shift s).1 = (Uvarint.readFrom i x shift (rd.rest s)).1 ∧
      rd.rest (rd.readUvarintFrom i x shift s).2 = (Uvarint.readFrom i x shift (rd.rest s)).2 ∧
      rd.Inv (rd.readUvarintFrom i x shift s).2 := by
  induction i, x, shift, s using Reader.readUvarintFrom.induct rd with
  | case1 i x shift s hnone =>
    have hempty := rd.readByte_none s hs hnone
    rw [readUvarintFrom, hnone, hempty]
    exact ⟨rfl, rfl, hs⟩
  | case2 i x shift s b s' hsome hlow hover =>
    obtain ⟨hrest, hs'⟩ := rd.readByte_some s b s' hs hsome
    rw [readUvarintFrom, hsome, hrest]
    simp [Uvarint.readFrom, hlow, hover, hs']
  | case3 i x shift s b s' hsome hlow hover =>
    obtain ⟨hrest, hs'⟩ := rd.readByte_some s b s' hs hsome
    rw [readUvarintFrom, hsome, hrest]
    simp [Uvarint.readFrom, hlow, hover, hs']
  | case4 i x shift s b s' hsome hhigh hnext ih =>
    obtain ⟨hrest, hs'⟩ := rd.readByte_some s b s' hs hsome
    rw [readUvarintFrom, hsome, hrest]
    simpa [Uvarint.readFrom, hhigh, hnext] using ih hs'
  | case5 i x shift s b s' hsome hhigh hlast =>
    obtain ⟨hrest, hs'⟩ := rd.readByte_some s b s' hs hsome
    rw [readUvarintFrom, hsome, hrest]
    simp [Uvarint.readFrom, hhigh, hlast, hs']

theorem readUvarint_put {s : S} (hs : rd.Inv s) {x : Nat} (hx : x < 2 ^ 64) (tail : List UInt8)
    (h : rd.rest s = Uvarint.put x ++ tail) :
    (rd.readUvarint s).1 = .ok x ∧ rd.rest (rd.readUvarint s).2 = tail ∧
      rd.Inv (rd.readUvarint s).2 := by
  obtain ⟨hfst, hsnd, hinv⟩ := rd.readUvarintFrom_rest 0 0 0 hs
  have hread := Uvarint.read_put hx tail
  rw [Uvarint.read, ← h] at hread
  rw [hread] at hfst hsnd
  exact ⟨hfst, hsnd, hinv⟩

variable {ε α β : Type}

/-- `ReadByte`, failing with `eof` at the end of the stream. -/
def byte (eof : ε) : ExceptT ε (StateM S) UInt8 :=
  ExceptT.mk fun s => (rd.readByte s).elim (.error eof, s) fun next => (.ok next.1, next.2)

/-- `n` calls of `ReadByte`, as the loop of a length-prefixed read makes them. -/
def readBytes (eof : ε) : Nat → ExceptT ε (StateM S) (List UInt8)
  | 0 => pure []
  | n + 1 => do
    let b ← rd.byte eof
    let bytes ← readBytes eof n
    pure (b :: bytes)

/-- `ReadUvarint`, its errors mapped by `err`. -/
def uvarint (err : Uvarint.Error → ε) : ExceptT ε (StateM S) Nat :=
  ExceptT.mk fun s => ((rd.readUvarint s).1.mapError err, (rd.readUvarint s).2)

/-- `m` reads `bytes` and returns `a`: from every state whose stream starts with them it
succeeds and leaves the stream after them. -/
def Reads (m : ExceptT ε (StateM S) α) (bytes : List UInt8) (a : α) : Prop :=
  ∀ s tail, rd.Inv s → rd.rest s = bytes ++ tail →
    ∃ s', m.run s = (.ok a, s') ∧ rd.rest s' = tail ∧ rd.Inv s'

theorem reads_pure (a : α) : rd.Reads (pure a : ExceptT ε (StateM S) α) [] a :=
  fun s _ hs h => ⟨s, rfl, h, hs⟩

theorem reads_bind {m : ExceptT ε (StateM S) α} {f : α → ExceptT ε (StateM S) β}
    {bytes₁ bytes₂ : List UInt8} {a : α} {c : β} (hm : rd.Reads m bytes₁ a)
    (hf : rd.Reads (f a) bytes₂ c) : rd.Reads (m >>= f) (bytes₁ ++ bytes₂) c := by
  intro s tail hs h
  obtain ⟨s₁, hrun₁, hrest₁, hs₁⟩ := hm s (bytes₂ ++ tail) hs (by rw [h, List.append_assoc])
  obtain ⟨s₂, hrun₂, hrest₂, hs₂⟩ := hf s₁ tail hs₁ hrest₁
  exact ⟨s₂, (run_bind_of_ok hrun₁).trans hrun₂, hrest₂, hs₂⟩

theorem reads_bind_of_eq {m : ExceptT ε (StateM S) α} {f : α → ExceptT ε (StateM S) β}
    {bytes₁ bytes₂ bytes : List UInt8} {a : α} {c : β} (hm : rd.Reads m bytes₁ a)
    (hf : rd.Reads (f a) bytes₂ c) (h : bytes₁ ++ bytes₂ = bytes) : rd.Reads (m >>= f) bytes c :=
  h ▸ rd.reads_bind hm hf

theorem reads_tryCatch {m : ExceptT ε (StateM S) α} {handle : ε → ExceptT ε (StateM S) α}
    {bytes : List UInt8} {a : α} (hm : rd.Reads m bytes a) : rd.Reads (tryCatch m handle) bytes a := by
  intro s tail hs h
  obtain ⟨s', hrun, hrest, hs'⟩ := hm s tail hs h
  exact ⟨s', run_tryCatch_of_ok hrun, hrest, hs'⟩

theorem reads_byte (eof : ε) (b : UInt8) : rd.Reads (rd.byte eof) [b] b := by
  intro s tail hs h
  obtain ⟨s', hread, hrest, hs'⟩ := rd.readByte_of_rest_cons hs h
  exact ⟨s', by simp [byte, hread], hrest, hs'⟩

theorem reads_readBytes (eof : ε) (bytes : List UInt8) :
    rd.Reads (rd.readBytes eof bytes.length) bytes bytes := by
  induction bytes with
  | nil => exact rd.reads_pure []
  | cons b bytes ih =>
    rw [List.length_cons, readBytes]
    exact rd.reads_bind (rd.reads_byte eof b) (rd.reads_bind_of_eq ih (rd.reads_pure _) (by simp))

theorem reads_uvarint (err : Uvarint.Error → ε) {x : Nat} (hx : x < 2 ^ 64) :
    rd.Reads (rd.uvarint err) (Uvarint.put x) x := by
  intro s tail hs h
  obtain ⟨hfst, hrest, hinv⟩ := rd.readUvarint_put hs hx tail h
  exact ⟨_, by simp [uvarint, hfst, Except.mapError], hrest, hinv⟩

end Reader

def defaultBufSize : Nat := 4096

/-- A `bufio.Reader` over a seekable source: the source offset it has read up to, and the
bytes fetched from the source and not yet handed out. -/
structure BufReader where
  offset : Nat
  buffer : List UInt8

namespace BufReader

-- `chunk` is how many bytes the source's `Read` returns at an offset: the reads of a file
-- return at least one byte while bytes remain, and `fill` asks for at most a buffer
variable (source : List UInt8) (chunk : Nat → Nat)

/-- `bufio.NewReader` and `Reset` at a source offset. -/
def NewReader (offset : Nat) : BufReader := ⟨offset, []⟩

/-- `fill`, as `ReadByte` calls it: on an empty buffer, one read of the source. -/
def fill (r : BufReader) : BufReader :=
  let bytes := (source.drop r.offset).take (max 1 (min (chunk r.offset) defaultBufSize))
  ⟨r.offset + bytes.length, bytes⟩

/-- `ReadByte`; `none` is `io.EOF`. -/
def ReadByte (r : BufReader) : Option (UInt8 × BufReader) :=
  let r := if r.buffer.isEmpty then fill source chunk r else r
  match r.buffer with
  | [] => none
  | b :: rest => some (b, { r with buffer := rest })

def Buffered (r : BufReader) : Nat := r.buffer.length

/-- The bytes handed out so far. -/
def consumed (r : BufReader) : Nat := r.offset - r.Buffered

/-- The bytes the reader will hand out: the source after what it has handed out. -/
def rest (r : BufReader) : List UInt8 := source.drop r.consumed

/-- The buffer holds the bytes of the source just before its offset. -/
def Valid (r : BufReader) : Prop :=
  r.offset ≤ source.length ∧ r.Buffered ≤ r.offset ∧
    rest source r = r.buffer ++ source.drop r.offset

theorem valid_NewReader {offset : Nat} (h : offset ≤ source.length) :
    Valid source (NewReader offset) := by
  simp [NewReader, Valid, Buffered, rest, consumed, h]

@[simp] theorem rest_NewReader (offset : Nat) :
    rest source (NewReader offset) = source.drop offset := by
  simp [NewReader, rest, consumed, Buffered]

variable {source}

theorem pop_valid {r : BufReader} (hr : Valid source r) {b : UInt8} {tail : List UInt8}
    (hbuffer : r.buffer = b :: tail) :
    rest source r = b :: rest source { r with buffer := tail } ∧
      Valid source { r with buffer := tail } := by
  obtain ⟨hoffset, hbuffered, hrest⟩ := hr
  have hlen : r.buffer.length = tail.length + 1 := by simp [hbuffer]
  have hconsumed : consumed { r with buffer := tail } = r.consumed + 1 := by
    simp only [consumed, Buffered] at hbuffered ⊢
    omega
  have hpop : rest source { r with buffer := tail } = tail ++ source.drop r.offset := by
    rw [rest, hconsumed, ← List.tail_drop]
    change (rest source r).tail = _
    rw [hrest, hbuffer]
    rfl
  refine ⟨?_, hoffset, ?_, hpop⟩
  · rw [hpop, hrest, hbuffer]
    rfl
  · simp only [Buffered] at hbuffered ⊢
    omega

theorem fill_valid {r : BufReader} (hr : Valid source r) (hempty : r.buffer = []) :
    rest source (fill source chunk r) = rest source r ∧ Valid source (fill source chunk r) := by
  obtain ⟨hoffset, -, hrest⟩ := hr
  rw [hempty, List.nil_append] at hrest
  obtain ⟨bytes, hbytes⟩ : ∃ bytes, bytes =
      (source.drop r.offset).take (max 1 (min (chunk r.offset) defaultBufSize)) := ⟨_, rfl⟩
  have hfill : fill source chunk r = ⟨r.offset + bytes.length, bytes⟩ := by
    rw [hbytes]
    rfl
  have hlen : bytes.length ≤ source.length - r.offset := by simp [hbytes]
  have hsplit : source.drop r.offset = bytes ++ source.drop (r.offset + bytes.length) := by
    rw [← List.drop_drop]
    exact (List.prefix_iff_eq_append.mp (hbytes ▸ List.take_prefix _ _)).symm
  have hfillRest : rest source (fill source chunk r) = source.drop r.offset := by
    rw [hfill]
    simp only [rest, consumed, Buffered, Nat.add_sub_cancel]
  refine ⟨by rw [hfillRest, hrest], ?_, ?_, ?_⟩
  · rw [hfill]
    dsimp only
    omega
  · rw [hfill]
    simp only [Buffered]
    omega
  · rw [hfillRest, hsplit, hfill]

theorem fill_buffer_eq_nil {r : BufReader} (h : (fill source chunk r).buffer = []) :
    source.drop r.offset = [] := by
  simp only [fill, List.take_eq_nil_iff] at h
  rcases h with h | h
  · omega
  · exact h

theorem filled_valid {r : BufReader} (hr : Valid source r) :
    rest source (if r.buffer.isEmpty then fill source chunk r else r) = rest source r ∧
      Valid source (if r.buffer.isEmpty then fill source chunk r else r) := by
  by_cases hempty : r.buffer = []
  · simpa [hempty] using fill_valid chunk hr hempty
  · simpa [List.isEmpty_eq_false_iff.mpr hempty] using hr

theorem ReadByte_none {r : BufReader} (hr : Valid source r) (h : ReadByte source chunk r = none) :
    rest source r = [] := by
  by_cases hempty : r.buffer = []
  · have hnil : (fill source chunk r).buffer = [] := by
      cases hbuffer : (fill source chunk r).buffer with
      | nil => rfl
      | cons b tail => simp [ReadByte, hempty, hbuffer] at h
    rw [hr.2.2, hempty, fill_buffer_eq_nil chunk hnil]
    rfl
  · obtain ⟨b, tail, hbuffer⟩ := List.exists_cons_of_ne_nil hempty
    simp [ReadByte, hbuffer] at h

theorem ReadByte_some {r r' : BufReader} {b : UInt8} (hr : Valid source r)
    (h : ReadByte source chunk r = some (b, r')) :
    rest source r = b :: rest source r' ∧ Valid source r' := by
  obtain ⟨hrest₁, hvalid₁⟩ := filled_valid chunk hr
  unfold ReadByte at h
  dsimp only at h
  split at h
  · cases h
  · rename_i b' tail hbuffer
    obtain ⟨rfl, rfl⟩ := Prod.mk.inj (Option.some.inj h)
    rw [← hrest₁]
    exact pop_valid hvalid₁ hbuffer

end BufReader

/-- The buffered reader over `source` as a byte reader, over reads of the given sizes. -/
def bufReader (source : List UInt8) (chunk : Nat → Nat) : Reader BufReader where
  readByte := BufReader.ReadByte source chunk
  rest := BufReader.rest source
  Inv := BufReader.Valid source
  readByte_none _ hr h := BufReader.ReadByte_none chunk hr h
  readByte_some _ _ _ hr h := BufReader.ReadByte_some chunk hr h

/-- A reader of the bytes of a list: its state is the bytes left. -/
def listReader : Reader (List UInt8) where
  readByte := fun
    | [] => none
    | b :: bytes => some (b, bytes)
  rest := id
  Inv _ := True
  readByte_none s _ h := by cases s <;> simp_all
  readByte_some s b s' _ h := by cases s <;> simp_all

theorem listReader_reads_iff {ε α : Type} {m : ExceptT ε (StateM (List UInt8)) α}
    {bytes : List UInt8} {a : α} :
    listReader.Reads m bytes a ↔ ∀ tail, m.run (bytes ++ tail) = (.ok a, tail) := by
  constructor
  · intro h tail
    obtain ⟨s', hrun, hrest, -⟩ := h (bytes ++ tail) tail trivial rfl
    rw [hrun, show s' = tail from hrest]
  · intro h s tail _ hs
    exact ⟨tail, by rw [show s = bytes ++ tail from hs, h], rfl, trivial⟩

theorem toList_loop (bs : ByteArray) (i : Nat) (r : List UInt8) :
    ByteArray.toList.loop bs i r = r.reverse ++ bs.data.toList.drop i := by
  fun_induction ByteArray.toList.loop bs i r with
  | case1 i r hi ih =>
    rw [ih]
    simp only [List.reverse_cons, List.append_assoc, List.singleton_append]
    congr 1
    have : i < bs.data.toList.length := by simpa using hi
    rw [List.drop_eq_getElem_cons this]
    simp [ByteArray.get!, getElem!_pos, hi]
  | case2 i r hi =>
    have : bs.data.toList.length ≤ i := by
      rw [Array.length_toList]
      exact Nat.le_of_not_lt hi
    simp [List.drop_eq_nil_of_le this]

theorem toList_eq_data_toList (bs : ByteArray) : bs.toList = bs.data.toList := by
  simp [ByteArray.toList, toList_loop]

end ByteStream
