import SingBox.ByteStream

/-!
# The geosite database

`common/geosite`. `Write` lays out a map from codes to item lists as a version byte, the
number of codes and, for each code in sorted order, the code, the offset of its items in the
content and their number; then the content, every item as its type byte and its value.
`NewReader` reads that metadata through a `bufio.Reader` over a counting reader, and takes
the content to start at the bytes the counter saw minus those still buffered; `Read` seeks
to that start plus the code's offset, resets the buffer and reads the items back.

Strings are their bytes and maps association lists; `NewReader` returns the codes in the
order its map holds them, Go's map order being unspecified. `toInt` is Go's `int` of a
`uint64`.

`NewReader_Write`: over reads of any sizes, `NewReader` opens what `Write` wrote, its codes
are the map's keys, and every run of `Read` calls on them returns their item lists. The
run is carried by `Opens`, which a `Read` keeps: it replaces the buffered reader only.
-/

namespace SingBox

namespace Geosite

open ByteStream

/-- `Item`; the field `Type` of the source is `itemType`. -/
structure Item where
  itemType : UInt8
  Value : List UInt8
deriving DecidableEq, Repr

def writeString (value : List UInt8) : List UInt8 :=
  Uvarint.put value.length ++ value

def writeItem (item : Item) : List UInt8 :=
  item.itemType :: writeString item.Value

section Write

variable (domains : AList fun _ : List UInt8 => List Item)

/-- The items of a code as the content loop of `Write` writes them. -/
def codeContent (code : List UInt8) : List UInt8 :=
  ((domains.lookup code).getD []).flatMap writeItem

/-- One turn of the content loop: the code's offset is the content length before its items. -/
def contentStep (acc : List UInt8 × AList fun _ : List UInt8 => Nat) (code : List UInt8) :
    List UInt8 × AList fun _ : List UInt8 => Nat :=
  (acc.1 ++ codeContent domains code, acc.2.insert code acc.1.length)

def writeContent (keys : List (List UInt8)) : List UInt8 × AList fun _ : List UInt8 => Nat :=
  keys.foldl (contentStep domains) ([], ∅)

/-- A metadata entry: the code, its offset in the content and its number of items. -/
def writeEntry (index : AList fun _ : List UInt8 => Nat) (code : List UInt8) : List UInt8 :=
  writeString code ++ Uvarint.put ((index.lookup code).getD 0) ++
    Uvarint.put ((domains.lookup code).getD []).length

def Write : List UInt8 :=
  let keys := domains.keys.insertionSort (· ≤ ·)
  let written := writeContent domains keys
  0 :: Uvarint.put keys.length ++ keys.flatMap (writeEntry domains written.2) ++ written.1

end Write

inductive Error where
  | io (err : Uvarint.Error)
  | unknownVersion
  | notExists (code : List UInt8)
  | negativePosition
  /-- the panic of `make` at a negative length -/
  | makesliceLen
deriving DecidableEq, Repr

def toInt (x : Nat) : Int := (BitVec.ofNat 64 x).toInt

structure Index where
  domainIndex : AList fun _ : List UInt8 => Int
  domainLength : AList fun _ : List UInt8 => Int

def Index.insert (index : Index) (code : List UInt8) (codeIndex codeLength : Int) : Index :=
  ⟨index.domainIndex.insert code codeIndex, index.domainLength.insert code codeLength⟩

section Decode

variable {S : Type} (rd : ByteStream.Reader S)

def readString : ExceptT Error (StateM S) (List UInt8) := do
  let length ← rd.uvarint Error.io
  rd.readBytes (Error.io .eof) length

def readItem : ExceptT Error (StateM S) Item := do
  let typeByte ← rd.byte (Error.io .eof)
  let value ← readString rd
  pure ⟨typeByte, value⟩

def readItems : Nat → ExceptT Error (StateM S) (List Item)
  | 0 => pure []
  | n + 1 => do
    let item ← readItem rd
    let items ← readItems n
    pure (item :: items)

def readEntry (index : Index) : ExceptT Error (StateM S) Index := do
  let code ← readString rd
  let codeIndex ← rd.uvarint Error.io
  let codeLength ← rd.uvarint Error.io
  pure (index.insert code (toInt codeIndex) (toInt codeLength))

def readEntries : Nat → Index → ExceptT Error (StateM S) Index
  | 0, index => pure index
  | n + 1, index => do
    let index ← readEntry rd index
    readEntries n index

def checkVersion (version : UInt8) : ExceptT Error (StateM S) Unit :=
  if version = 0 then pure () else throw .unknownVersion

/-- The reads of `readMetadata`, up to its two maps. -/
def readHeader : ExceptT Error (StateM S) Index := do
  let version ← rd.byte (Error.io .eof)
  checkVersion version
  let entryLength ← rd.uvarint Error.io
  readEntries rd (toInt entryLength).toNat ⟨∅, ∅⟩

end Decode

/-- `Reader`: the source, its buffered reader, where the content starts, and the two maps
of the metadata. -/
structure Reader where
  reader : List UInt8
  bufferedReader : BufReader
  metadataIndex : Int
  domainIndex : AList fun _ : List UInt8 => Int
  domainLength : AList fun _ : List UInt8 => Int

section Open

variable (chunk : Nat → Nat)

/-- `readMetadata` over a source opened at its start, so that the counter has seen the
bytes up to the buffered reader's offset. -/
def readMetadata (source : List UInt8) : Except Error Reader :=
  let run : Except Error Index × BufReader :=
    (readHeader (bufReader source chunk)).run (BufReader.NewReader 0)
  run.1.map fun index =>
    ⟨source, run.2, (run.2.offset : Int) - run.2.Buffered, index.domainIndex, index.domainLength⟩

def NewReader (source : List UInt8) : Except Error (Reader × List (List UInt8)) :=
  (readMetadata chunk source).map fun reader => (reader, reader.domainIndex.keys)

def Read (r : Reader) (code : List UInt8) : Except Error (List Item) × Reader :=
  match r.domainIndex.lookup code with
  | none => (.error (.notExists code), r)
  | some index =>
    let position := r.metadataIndex + index
    if position < 0 then (.error .negativePosition, r)
    else
      -- `Seek` and `Reset`: the buffered reader starts afresh at the position
      let bufferedReader := BufReader.NewReader position.toNat
      let length := (r.domainLength.lookup code).getD 0
      if length < 0 then (.error .makesliceLen, { r with bufferedReader })
      else
        let run : Except Error (List Item) × BufReader :=
          (readItems (bufReader r.reader chunk) length.toNat).run bufferedReader
        (run.1, { r with bufferedReader := run.2 })

/-- A run of `Read` calls on one reader, each on the state the one before left. -/
def readRun (r : Reader) : List (List UInt8) → List (Except Error (List Item))
  | [] => []
  | code :: codes => (Read chunk r code).1 :: readRun (Read chunk r code).2 codes

end Open

theorem toInt_of_lt {x : Nat} (h : x < 2 ^ 63) : toInt x = x := by
  rw [toInt, BitVec.toInt_eq_toNat_cond]
  simp
  omega

theorem length_le_of_mem_flatMap {α β : Type} {l : List α} (f : α → List β) {x : α}
    (h : x ∈ l) : (f x).length ≤ (l.flatMap f).length := by
  rw [List.flatMap_def]
  exact (List.infix_of_mem_flatten (List.mem_map_of_mem h)).length_le

theorem length_le_length_flatMap {α β : Type} {l : List α} {f : α → List β}
    (h : ∀ x ∈ l, f x ≠ []) : l.length ≤ (l.flatMap f).length := by
  induction l with
  | nil => simp
  | cons x l ih =>
    have hx : 1 ≤ (f x).length := List.length_pos_iff.mpr (h x List.mem_cons_self)
    have hl := ih fun y hy => h y (List.mem_cons_of_mem x hy)
    simp only [List.flatMap_cons, List.length_append, List.length_cons]
    omega

section WriteSpec

variable (domains : AList fun _ : List UInt8 => List Item)

theorem foldl_contentStep_fst (keys : List (List UInt8)) (acc) :
    (keys.foldl (contentStep domains) acc).1 = acc.1 ++ keys.flatMap (codeContent domains) := by
  induction keys generalizing acc with
  | nil => simp
  | cons code keys ih => simp [ih, contentStep]

theorem lookup_foldl_contentStep_of_not_mem {keys : List (List UInt8)} {code : List UInt8}
    (h : code ∉ keys) (acc) :
    (keys.foldl (contentStep domains) acc).2.lookup code = acc.2.lookup code := by
  induction keys generalizing acc with
  | nil => rfl
  | cons k keys ih =>
    rw [List.mem_cons, not_or] at h
    rw [List.foldl_cons, ih h.2, contentStep, AList.lookup_insert_ne h.1]

theorem lookup_foldl_contentStep {keys : List (List UInt8)} (hkeys : keys.Nodup)
    {code : List UInt8} (hcode : code ∈ keys) (acc) :
    ∃ pre tail, (keys.foldl (contentStep domains) acc).1 = pre ++ codeContent domains code ++ tail ∧
      (keys.foldl (contentStep domains) acc).2.lookup code = some pre.length := by
  induction keys generalizing acc with
  | nil => cases hcode
  | cons k keys ih =>
    rw [List.nodup_cons] at hkeys
    rw [List.foldl_cons]
    by_cases hk : code = k
    · subst hk
      refine ⟨acc.1, keys.flatMap (codeContent domains), ?_, ?_⟩
      · rw [foldl_contentStep_fst]
        simp [contentStep]
      · rw [lookup_foldl_contentStep_of_not_mem domains hkeys.1, contentStep, AList.lookup_insert]
    · exact ih hkeys.2 ((List.mem_cons.mp hcode).resolve_left hk) _

theorem items_length_le (code : List UInt8) :
    ((domains.lookup code).getD []).length ≤ (codeContent domains code).length :=
  length_le_length_flatMap fun _ _ => List.cons_ne_nil _ _

theorem value_length_le {code : List UInt8} {item : Item} (h : item ∈ (domains.lookup code).getD []) :
    item.Value.length ≤ (codeContent domains code).length := by
  have hitem := length_le_of_mem_flatMap writeItem h
  simp only [writeItem, writeString, List.length_cons, List.length_append] at hitem
  rw [codeContent]
  omega

end WriteSpec

section DecodeSpec

variable {S : Type} (rd : ByteStream.Reader S)

theorem reads_readString {value : List UInt8} (h : value.length < 2 ^ 64) :
    rd.Reads (readString rd) (writeString value) value :=
  rd.reads_bind (rd.reads_uvarint Error.io h) (rd.reads_readBytes (Error.io .eof) value)

theorem reads_readItem {item : Item} (h : item.Value.length < 2 ^ 64) :
    rd.Reads (readItem rd) (writeItem item) item :=
  rd.reads_bind (rd.reads_byte _ item.itemType)
    (rd.reads_bind_of_eq (reads_readString rd h) (rd.reads_pure _) (List.append_nil _))

theorem reads_readItems {items : List Item} (h : ∀ item ∈ items, item.Value.length < 2 ^ 64) :
    rd.Reads (readItems rd items.length) (items.flatMap writeItem) items := by
  induction items with
  | nil => exact rd.reads_pure []
  | cons item items ih =>
    have htail := ih fun i hi => h i (List.mem_cons_of_mem item hi)
    rw [List.length_cons, readItems]
    exact rd.reads_bind_of_eq (reads_readItem rd (h item List.mem_cons_self))
      (rd.reads_bind_of_eq htail (rd.reads_pure _) (List.append_nil _)) List.flatMap_cons.symm

variable (domains : AList fun _ : List UInt8 => List Item) (index : AList fun _ : List UInt8 => Nat)

/-- The index `readEntries` builds from the entries `writeEntry` wrote for `keys`. -/
def entriesIndex (idx : Index) (keys : List (List UInt8)) : Index :=
  keys.foldl (fun idx code => idx.insert code (toInt ((index.lookup code).getD 0))
    (toInt ((domains.lookup code).getD []).length)) idx

theorem reads_readEntries (keys : List (List UInt8))
    (hbound : ∀ code ∈ keys, code.length < 2 ^ 64 ∧ (index.lookup code).getD 0 < 2 ^ 64 ∧
      ((domains.lookup code).getD []).length < 2 ^ 64) (idx : Index) :
    rd.Reads (readEntries rd keys.length idx) (keys.flatMap (writeEntry domains index))
      (entriesIndex domains index idx keys) := by
  induction keys generalizing idx with
  | nil => exact rd.reads_pure idx
  | cons code keys ih =>
    obtain ⟨hcode, hindex, hlength⟩ := hbound code List.mem_cons_self
    have hentry : rd.Reads (readEntry rd idx) (writeEntry domains index code)
        (idx.insert code (toInt ((index.lookup code).getD 0))
          (toInt ((domains.lookup code).getD []).length)) :=
      rd.reads_bind_of_eq (reads_readString rd hcode)
        (rd.reads_bind_of_eq (rd.reads_uvarint _ hindex)
          (rd.reads_bind_of_eq (rd.reads_uvarint _ hlength) (rd.reads_pure _) rfl) rfl)
        (by simp [writeEntry])
    rw [List.length_cons, readEntries]
    exact rd.reads_bind_of_eq hentry (ih (fun c hc => hbound c (List.mem_cons_of_mem code hc)) _)
      List.flatMap_cons.symm

theorem reads_readHeader (keys : List (List UInt8)) (hkeys : keys.length < 2 ^ 63)
    (hbound : ∀ code ∈ keys, code.length < 2 ^ 64 ∧ (index.lookup code).getD 0 < 2 ^ 64 ∧
      ((domains.lookup code).getD []).length < 2 ^ 64) :
    rd.Reads (readHeader rd) (0 :: Uvarint.put keys.length ++ keys.flatMap (writeEntry domains index))
      (entriesIndex domains index ⟨∅, ∅⟩ keys) := by
  have hlen : (toInt keys.length).toNat = keys.length := by
    rw [toInt_of_lt hkeys, Int.toNat_natCast]
  have hcount : rd.Reads (rd.uvarint Error.io >>= fun entryLength =>
        readEntries rd (toInt entryLength).toNat ⟨∅, ∅⟩)
      (Uvarint.put keys.length ++ keys.flatMap (writeEntry domains index))
      (entriesIndex domains index ⟨∅, ∅⟩ keys) := by
    refine rd.reads_bind (rd.reads_uvarint Error.io (by omega)) ?_
    simp only [hlen]
    exact reads_readEntries rd domains index keys hbound _
  have hversion : rd.Reads (checkVersion 0 >>= fun _ => rd.uvarint Error.io >>= fun entryLength =>
        readEntries rd (toInt entryLength).toNat ⟨∅, ∅⟩)
      (Uvarint.put keys.length ++ keys.flatMap (writeEntry domains index))
      (entriesIndex domains index ⟨∅, ∅⟩ keys) := by
    rw [checkVersion, if_pos rfl]
    exact rd.reads_bind_of_eq (rd.reads_pure ()) hcount rfl
  exact rd.reads_bind_of_eq (rd.reads_byte _ 0) hversion rfl

theorem entriesIndex_cons (idx : Index) (code : List UInt8) (keys : List (List UInt8)) :
    entriesIndex domains index idx (code :: keys) =
      entriesIndex domains index (idx.insert code (toInt ((index.lookup code).getD 0))
        (toInt ((domains.lookup code).getD []).length)) keys :=
  rfl

theorem lookup_entriesIndex_of_not_mem {keys : List (List UInt8)} {code : List UInt8}
    (h : code ∉ keys) (idx : Index) :
    (entriesIndex domains index idx keys).domainIndex.lookup code = idx.domainIndex.lookup code ∧
      (entriesIndex domains index idx keys).domainLength.lookup code =
        idx.domainLength.lookup code := by
  induction keys generalizing idx with
  | nil => exact ⟨rfl, rfl⟩
  | cons k keys ih =>
    rw [List.mem_cons, not_or] at h
    obtain ⟨hindex, hlength⟩ := ih h.2 _
    rw [entriesIndex_cons]
    exact ⟨hindex.trans (AList.lookup_insert_ne h.1), hlength.trans (AList.lookup_insert_ne h.1)⟩

theorem lookup_entriesIndex {keys : List (List UInt8)} (hkeys : keys.Nodup) {code : List UInt8}
    (hcode : code ∈ keys) (idx : Index) :
    (entriesIndex domains index idx keys).domainIndex.lookup code =
        some (toInt ((index.lookup code).getD 0)) ∧
      (entriesIndex domains index idx keys).domainLength.lookup code =
        some (toInt ((domains.lookup code).getD []).length) := by
  induction keys generalizing idx with
  | nil => cases hcode
  | cons k keys ih =>
    rw [List.nodup_cons] at hkeys
    rw [entriesIndex_cons]
    by_cases hk : code = k
    · subst hk
      obtain ⟨hindex, hlength⟩ := lookup_entriesIndex_of_not_mem domains index hkeys.1
        (idx.insert code (toInt ((index.lookup code).getD 0))
          (toInt ((domains.lookup code).getD []).length))
      exact ⟨hindex.trans (AList.lookup_insert _), hlength.trans (AList.lookup_insert _)⟩
    · exact ih hkeys.2 ((List.mem_cons.mp hcode).resolve_left hk) _

theorem mem_entriesIndex (keys : List (List UInt8)) (idx : Index) (code : List UInt8) :
    code ∈ (entriesIndex domains index idx keys).domainIndex ↔ code ∈ keys ∨ code ∈ idx.domainIndex := by
  induction keys generalizing idx with
  | nil => simp [entriesIndex]
  | cons k keys ih =>
    rw [entriesIndex_cons, ih, Index.insert, AList.mem_insert, List.mem_cons]
    tauto

end DecodeSpec

section Open

variable (chunk : Nat → Nat) (domains : AList fun _ : List UInt8 => List Item)

/-- `r` holds the metadata of `domains`: for every code, its offset and number of items, and
its items at that offset past where the content starts. -/
structure Opens (r : Reader) : Prop where
  metadataIndex_nonneg : 0 ≤ r.metadataIndex
  metadataIndex_le : r.metadataIndex.toNat ≤ r.reader.length
  lookup : ∀ code ∈ domains, ∃ pre tail : List UInt8,
    r.reader.drop r.metadataIndex.toNat = pre ++ codeContent domains code ++ tail ∧
      r.domainIndex.lookup code = some (pre.length : Int) ∧
      r.domainLength.lookup code = some (((domains.lookup code).getD []).length : Int)
  value_lt : ∀ code ∈ domains, ∀ item ∈ (domains.lookup code).getD [],
    item.Value.length < 2 ^ 64

/-- The header over distinct codes followed by their content: each code's items stand in the
content at the offset its entry records, and the sizes fit what the readers check. -/
theorem placed_of_header {keys : List (List UInt8)} (hnodup : keys.Nodup)
    (hsize : (0 :: Uvarint.put keys.length ++
      keys.flatMap (writeEntry domains (writeContent domains keys).2) ++
      (writeContent domains keys).1).length < 2 ^ 63) :
    keys.length < 2 ^ 63 ∧ ∀ code ∈ keys, ∃ pre tail,
      (writeContent domains keys).1 = pre ++ codeContent domains code ++ tail ∧
      (writeContent domains keys).2.lookup code = some pre.length ∧
      code.length < 2 ^ 63 ∧ pre.length + (codeContent domains code).length < 2 ^ 63 := by
  simp only [List.length_append, List.length_cons] at hsize
  refine ⟨?_, fun code hcode => ?_⟩
  · have hentries : keys.length ≤
        (keys.flatMap (writeEntry domains (writeContent domains keys).2)).length :=
      length_le_length_flatMap fun code _ => by simp [writeEntry, writeString, Uvarint.put_ne_nil]
    omega
  · obtain ⟨pre, tail, hsplit, hindex⟩ := lookup_foldl_contentStep domains hnodup hcode ([], ∅)
    have hentry := length_le_of_mem_flatMap (writeEntry domains (writeContent domains keys).2) hcode
    simp only [writeEntry, writeString, List.length_append] at hentry
    have hcontent : pre.length + (codeContent domains code).length ≤
        (writeContent domains keys).1.length := by
      rw [writeContent, hsplit, List.length_append, List.length_append]
      omega
    exact ⟨pre, tail, hsplit, hindex, by omega, by omega⟩

/-- The metadata of what `Write` wrote reads back as a reader that opens the map, with
the map's codes. -/
theorem readMetadata_Write (hsize : (Write domains).length < 2 ^ 63) :
    ∃ reader, readMetadata chunk (Write domains) = .ok reader ∧ Opens domains reader ∧
      reader.domainIndex.keys.Perm domains.keys := by
  obtain ⟨keys, hkeys⟩ : ∃ keys, keys = domains.keys.insertionSort (· ≤ ·) := ⟨_, rfl⟩
  have hperm : keys.Perm domains.keys := hkeys ▸ List.perm_insertionSort _ _
  have hnodup : keys.Nodup := hperm.nodup_iff.mpr domains.keys_nodup
  have hmem : ∀ code, code ∈ domains ↔ code ∈ keys := fun code =>
    AList.mem_keys.trans hperm.mem_iff.symm
  obtain ⟨written, hwritten⟩ : ∃ written, written = writeContent domains keys := ⟨_, rfl⟩
  have hwrite : Write domains =
      (0 :: Uvarint.put keys.length ++ keys.flatMap (writeEntry domains written.2)) ++ written.1 := by
    rw [hwritten, hkeys]
    rfl
  obtain ⟨hkeysLength, hplaced⟩ := placed_of_header domains hnodup (by
    rw [← hwritten, ← hwrite]
    exact hsize)
  rw [← hwritten] at hplaced
  have hbound : ∀ code ∈ keys, code.length < 2 ^ 64 ∧ (written.2.lookup code).getD 0 < 2 ^ 64 ∧
      ((domains.lookup code).getD []).length < 2 ^ 64 := by
    intro code hcode
    obtain ⟨pre, -, -, hindex, hcodeLength, hfit⟩ := hplaced code hcode
    have hitems := items_length_le domains code
    rw [hindex, Option.getD_some]
    omega
  obtain ⟨s', hrun, hrest, hvalid⟩ :=
    reads_readHeader (bufReader (Write domains) chunk) domains written.2 keys hkeysLength hbound
      (BufReader.NewReader 0) written.1 (BufReader.valid_NewReader _ (Nat.zero_le _))
      ((BufReader.rest_NewReader _ 0).trans hwrite)
  obtain ⟨hoffset, hbuffered, -⟩ := hvalid
  have hmetadata : ((s'.offset : Int) - s'.Buffered).toNat = s'.consumed := by
    simp only [BufReader.consumed]
    omega
  refine ⟨⟨Write domains, s', (s'.offset : Int) - s'.Buffered,
    (entriesIndex domains written.2 ⟨∅, ∅⟩ keys).domainIndex,
    (entriesIndex domains written.2 ⟨∅, ∅⟩ keys).domainLength⟩, ?_, ⟨?_, ?_, ?_, ?_⟩, ?_⟩
  · simp only [readMetadata]
    rw [hrun]
    rfl
  · dsimp only
    omega
  · dsimp only
    rw [hmetadata, BufReader.consumed]
    omega
  · intro code hcode
    rw [hmem] at hcode
    obtain ⟨pre, tail, hsplit, hindex, -, hfit⟩ := hplaced code hcode
    obtain ⟨hindex', hlength'⟩ := lookup_entriesIndex domains written.2 hnodup hcode ⟨∅, ∅⟩
    have hpre : pre.length < 2 ^ 63 := by omega
    have hitems : ((domains.lookup code).getD []).length < 2 ^ 63 := by
      have := items_length_le domains code
      omega
    refine ⟨pre, tail, ?_, ?_, ?_⟩
    · dsimp only
      rw [hmetadata, ← hsplit]
      exact hrest
    · rw [hindex', hindex, Option.getD_some, toInt_of_lt hpre]
    · rw [hlength', toInt_of_lt hitems]
  · intro code hcode item hitem
    obtain ⟨pre, -, -, -, -, hfit⟩ := hplaced code ((hmem code).mp hcode)
    have := value_length_le domains hitem
    omega
  · refine (List.perm_ext_iff_of_nodup (AList.keys_nodup _) domains.keys_nodup).mpr fun code => ?_
    rw [← AList.mem_keys, mem_entriesIndex, ← AList.mem_keys, hmem]
    simp

/-- What `Read` returns on a reader that opens the map: the code's item list. -/
theorem Read_of_opens {r : Reader} (hr : Opens domains r) {code : List UInt8}
    (hcode : code ∈ domains) : (Read chunk r code).1 = .ok ((domains.lookup code).getD []) := by
  obtain ⟨pre, tail, hdrop, hindex, hlength⟩ := hr.lookup code hcode
  have hnonneg := hr.metadataIndex_nonneg
  have hle := hr.metadataIndex_le
  have hpre : r.metadataIndex.toNat + pre.length ≤ r.reader.length := by
    have := congrArg List.length hdrop
    simp only [List.length_drop, List.length_append] at this
    omega
  have hposition : (r.metadataIndex + pre.length).toNat = r.metadataIndex.toNat + pre.length := by
    omega
  have hrest : r.reader.drop (r.metadataIndex + pre.length).toNat =
      ((domains.lookup code).getD []).flatMap writeItem ++ tail := by
    rw [hposition, ← List.drop_drop, hdrop, List.append_assoc, List.drop_left]
    rfl
  obtain ⟨s', hrun, -, -⟩ := reads_readItems (bufReader r.reader chunk) (hr.value_lt code hcode)
    (BufReader.NewReader (r.metadataIndex + pre.length).toNat) tail
    (BufReader.valid_NewReader _ (by omega)) ((BufReader.rest_NewReader _ _).trans hrest)
  have hpos : ¬ r.metadataIndex + (pre.length : Int) < 0 := by omega
  have hlen : ¬ (((domains.lookup code).getD []).length : Int) < 0 := by omega
  simp only [Read, hindex, hlength, Option.getD_some, hpos, hlen, if_false, Int.toNat_natCast]
  rw [hrun]

theorem Read_snd (r : Reader) (code : List UInt8) :
    ∃ bufferedReader, (Read chunk r code).2 = { r with bufferedReader } := by
  unfold Read
  split
  · exact ⟨r.bufferedReader, rfl⟩
  · dsimp only
    split
    · exact ⟨r.bufferedReader, rfl⟩
    · split
      · exact ⟨_, rfl⟩
      · exact ⟨_, rfl⟩

theorem opens_Read {r : Reader} (hr : Opens domains r) (code : List UInt8) :
    Opens domains (Read chunk r code).2 := by
  obtain ⟨bufferedReader, hread⟩ := Read_snd chunk r code
  rw [hread]
  exact ⟨hr.metadataIndex_nonneg, hr.metadataIndex_le, hr.lookup, hr.value_lt⟩

theorem readRun_of_opens {r : Reader} (hr : Opens domains r) {calls : List (List UInt8)}
    (hcalls : ∀ code ∈ calls, code ∈ domains) :
    readRun chunk r calls = calls.map fun code => .ok ((domains.lookup code).getD []) := by
  induction calls generalizing r with
  | nil => rfl
  | cons code calls ih =>
    rw [readRun, Read_of_opens chunk domains hr (hcalls code List.mem_cons_self),
      ih (opens_Read chunk domains hr code) fun c hc => hcalls c (List.mem_cons_of_mem code hc),
      List.map_cons]

end Open

theorem NewReader_Write (chunk : Nat → Nat) (domains : AList fun _ : List UInt8 => List Item)
    (hsize : (Write domains).length < 2 ^ 63) :
    ∃ reader codes, NewReader chunk (Write domains) = .ok (reader, codes) ∧
      codes.Perm domains.keys ∧
      ∀ calls : List (List UInt8), (∀ code ∈ calls, code ∈ domains) →
        readRun chunk reader calls = calls.map fun code => .ok ((domains.lookup code).getD []) := by
  obtain ⟨reader, hmetadata, hopens, hperm⟩ := readMetadata_Write chunk domains hsize
  refine ⟨reader, reader.domainIndex.keys, ?_, hperm, fun calls hcalls =>
    readRun_of_opens chunk domains hopens hcalls⟩
  rw [NewReader, hmetadata]
  rfl

/-- The map of the repository's test: the code `test` with the one domain `example.org`. -/
def testDomains : AList fun _ : List UInt8 => List Item :=
  (∅ : AList fun _ : List UInt8 => List Item).insert [116, 101, 115, 116]
    [⟨0, [101, 120, 97, 109, 112, 108, 101, 46, 111, 114, 103]⟩]

/-- The test's map, read back a byte per read of the file. -/
theorem NewReader_Write_testDomains :
    (Write testDomains).length < 2 ^ 63 ∧
      ∃ reader codes, NewReader (fun _ => 1) (Write testDomains) = .ok (reader, codes) ∧
        codes.Perm testDomains.keys ∧
        ∀ calls : List (List UInt8), (∀ code ∈ calls, code ∈ testDomains) →
          readRun (fun _ => 1) reader calls =
            calls.map fun code => .ok ((testDomains.lookup code).getD []) := by
  have hsize : (Write testDomains).length < 2 ^ 63 := by
    simp [Write, testDomains, writeContent, contentStep, codeContent, writeEntry, writeItem,
      writeString, Uvarint.put_of_lt, AList.lookup_insert, -AList.insert_empty]
  exact ⟨hsize, NewReader_Write (fun _ => 1) testDomains hsize⟩

end Geosite

end SingBox
