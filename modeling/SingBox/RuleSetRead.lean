import SingBox.RuleSetCompile
import SingBox.ByteStream

/-!
# Reading a rule set

`srs.Read` of `common/srs/binary.go` and its rule readers, the inverse of the writer of
`RuleSetCompile`. A reader is a program over the bytes left of the stream, and it fails as
Go's readers do: `io.EOF` when no byte is left for a read, `io.ErrUnexpectedEOF` when a read
of several bytes runs out part way. The matchers of `sing/common/domain`, `M.AddrFromIP` and
the zlib stream are third-party code, taken as the parameters `Decoders`.

The loops of the readers run until the item that ends them, so each reader takes fuel, and a
reader out of fuel fails with `io.EOF`. That is what the source does whenever the fuel is at
least the number of bytes left: every reader starts with the read of a byte, and each turn of
a loop consumes one. `Read` gives the length of the stream.

`Read_Write`: with decoders that read back what the encoders wrote (`Codec.Lawful`), reading
what `Write` wrote gives back the version and each rule as `HeadlessRule.decoded` describes
it: its items as written, the matchers and IP sets the encoders built and, with `recover`,
the domains, AdGuard lines and CIDRs that the matchers and sets dump.
-/

namespace SingBox

namespace RuleSetCompile

open ByteStream

/-- The errors of the readers: `io.EOF`, `io.ErrUnexpectedEOF`, the overflow of
`binary.ReadUvarint`, an error of `readPrefix` or `readIPSet` (whose models do not tell their
errors apart), `E.New` and `E.Cause`. A string item whose bytes are not UTF-8 is refused:
Go's strings hold any bytes, Lean's hold UTF-8. -/
inductive ReadError where
  | eof
  | unexpectedEOF
  | overflow
  | ipRead
  | invalidUTF8
  | new (message : String)
  | cause (err : ReadError) (message : String)
deriving DecidableEq, Repr

def ReadError.ofUvarint : Uvarint.Error → ReadError
  | .eof => .eof
  | .unexpectedEOF => .unexpectedEOF
  | .overflow => .overflow

/-- A reader of the stream; its state is the bytes left. -/
abbrev Decoder (α : Type) := ExceptT ReadError (StateM (List UInt8)) α

def RuleSetVersionCurrent : UInt8 := 5

/-- `binary.Read` of one byte, and `ReadByte`. -/
def readByte : Decoder UInt8 := listReader.byte .eof

/-- `binary.Read` of a `bool`. -/
def readBool : Decoder Bool := do
  let b ← readByte
  pure (b != 0)

/-- `binary.ReadUvarint`. -/
def readUvarint : Decoder Nat := listReader.uvarint ReadError.ofUvarint

/-- `io.ReadFull` of `n` bytes. -/
def readFull : Nat → Decoder (List UInt8)
  | 0 => pure []
  | n + 1 => do
    let b ← readByte
    let bytes ← listReader.readBytes .unexpectedEOF n
    pure (b :: bytes)

/-- A reader of `SRSIP`, whose models say `none` for any error. -/
def ofOption {α : Type} (read : List UInt8 → Option (α × List UInt8)) : Decoder α :=
  ExceptT.mk fun bytes =>
    match read bytes with
    | some (a, rest) => (.ok a, rest)
    | none => (.error .ipRead, bytes)

/-- A string of `readRuleItemString`: its length, then its bytes through `io.ReadFull`. -/
def readString : Decoder String := do
  let strLen ← readUvarint
  let buf ← readFull strLen
  match String.fromUTF8? ⟨buf.toArray⟩ with
  | some s => pure s
  | none => throw .invalidUTF8

def readStrings : Nat → Decoder (List String)
  | 0 => pure []
  | n + 1 => do
    let s ← readString
    let rest ← readStrings n
    pure (s :: rest)

def readRuleItemString : Decoder (List String) := do
  let length ← readUvarint
  readStrings length

def readRuleItemUint8 : Decoder (List UInt8) := do
  let length ← readUvarint
  readFull length

/-- The big-endian `uint16`s that `binary.Read` reads into a `[]uint16`. -/
def uint16s : List UInt8 → List UInt16
  | hi :: lo :: rest => (BigEndian.decode [hi, lo]).toUInt16 :: uint16s rest
  | _ => []

def readRuleItemUint16 : Decoder (List UInt16) := do
  let length ← readUvarint
  let bytes ← readFull (2 * length)
  pure (uint16s bytes)

/-- The loop over the `prefixCount` prefixes of an interface address item. -/
def readPrefixes (AddrFromIP : List UInt8 → Addr) : Nat → Decoder (List (Option Prefix))
  | 0 => pure []
  | n + 1 => do
    let p ← ofOption (readPrefix AddrFromIP)
    let rest ← readPrefixes AddrFromIP n
    pure (p :: rest)

/-- `TypedMap.Put`: a key already there keeps its place and takes the value, a new key is
appended. -/
def typedMapPut {K V : Type} [BEq K] (m : List (K × V)) (k : K) (v : V) : List (K × V) :=
  if m.any (·.1 == k) then m.map fun e => if e.1 == k then (k, v) else e
  else m ++ [(k, v)]

/-- The loop of the `network_interface_address` item over its `size` entries. -/
def readInterfaceEntries (AddrFromIP : List UInt8 → Addr) : Nat → List (UInt8 × List (Option Prefix)) →
    Decoder (List (UInt8 × List (Option Prefix)))
  | 0, m => pure m
  | n + 1, m => do
    let key ← readByte
    let prefixCount ← readUvarint
    let value ← readPrefixes AddrFromIP prefixCount
    readInterfaceEntries AddrFromIP n (typedMapPut m key value)

/-- `option.DefaultHeadlessRule` as `readDefaultRule` fills it: the options, and the matchers
and the IP sets its items were read into. -/
structure DecodedDefaultRule (M A : Type) extends DefaultHeadlessRule where
  DomainMatcher : Option M
  SourceIPSet : Option (List IPRange)
  IPSet : Option (List IPRange)
  AdGuardDomainMatcher : Option A

inductive DecodedRule (M A : Type) where
  | default (rule : DecodedDefaultRule M A)
  | logical (Mode : LogicalMode) (Rules : List (DecodedRule M A)) (Invert : Bool)

/-- `option.PlainRuleSetCompat` as `Read` fills it. -/
structure DecodedRuleSet (M A : Type) where
  Version : UInt8
  Rules : List (DecodedRule M A)

/-- The zero rule `readDefaultRule` fills. -/
def DecodedDefaultRule.empty {M A : Type} : DecodedDefaultRule M A where
  QueryType := []
  Network := []
  Domain := []
  DomainSuffix := []
  DomainKeyword := []
  DomainRegex := []
  SourceIPCIDR := []
  IPCIDR := []
  SourcePort := []
  SourcePortRange := []
  Port := []
  PortRange := []
  ProcessName := []
  ProcessPath := []
  ProcessPathRegex := []
  PackageName := []
  PackageNameRegex := []
  NetworkType := []
  NetworkIsExpensive := false
  NetworkIsConstrained := false
  WIFISSID := []
  WIFIBSSID := []
  NetworkInterfaceAddress := none
  DefaultInterfaceAddress := []
  Invert := false
  AdGuardDomain := []
  DomainMatcher := none
  SourceIPSet := none
  IPSet := none
  AdGuardDomainMatcher := none

/-- The third-party readers: `domain.ReadMatcher` and `Matcher.Dump`,
`domain.ReadAdGuardMatcher` and `AdGuardMatcher.Dump`, the strings of `IPSet.Prefixes`,
`M.AddrFromIP`, and the zlib reader of the stream after the header. -/
structure Decoders (M A : Type) where
  ReadMatcher : Decoder M
  MatcherDump : M → List String × List String
  ReadAdGuardMatcher : Decoder A
  AdGuardMatcherDump : A → List String
  Prefixes : List IPRange → List String
  AddrFromIP : List UInt8 → Addr
  zlibReader : List UInt8 → Except ReadError (List UInt8)

section Reader

variable {M A : Type} (dec : Decoders M A) (recover : Bool)

/-- The cases of the `switch` of `readDefaultRule` but `ruleItemFinal`. -/
def readRuleItem (lastItemType itemType : UInt8) (rule : DecodedDefaultRule M A) :
    Decoder (DecodedDefaultRule M A) :=
  if itemType = ruleItemQueryType then do
    let QueryType ← readRuleItemUint16
    pure { rule with QueryType }
  else if itemType = ruleItemNetwork then do
    let Network ← readRuleItemString
    pure { rule with Network }
  else if itemType = ruleItemDomain then do
    let matcher ← dec.ReadMatcher
    let rule := { rule with DomainMatcher := some matcher }
    if recover then
      pure { rule with Domain := (dec.MatcherDump matcher).1, DomainSuffix := (dec.MatcherDump matcher).2 }
    else pure rule
  else if itemType = ruleItemDomainKeyword then do
    let DomainKeyword ← readRuleItemString
    pure { rule with DomainKeyword }
  else if itemType = ruleItemDomainRegex then do
    let DomainRegex ← readRuleItemString
    pure { rule with DomainRegex }
  else if itemType = ruleItemSourceIPCIDR then do
    let ipSet ← ofOption (readIPSet dec.AddrFromIP)
    let rule := { rule with SourceIPSet := some ipSet }
    if recover then pure { rule with SourceIPCIDR := dec.Prefixes ipSet } else pure rule
  else if itemType = ruleItemIPCIDR then do
    let ipSet ← ofOption (readIPSet dec.AddrFromIP)
    let rule := { rule with IPSet := some ipSet }
    if recover then pure { rule with IPCIDR := dec.Prefixes ipSet } else pure rule
  else if itemType = ruleItemSourcePort then do
    let SourcePort ← readRuleItemUint16
    pure { rule with SourcePort }
  else if itemType = ruleItemSourcePortRange then do
    let SourcePortRange ← readRuleItemString
    pure { rule with SourcePortRange }
  else if itemType = ruleItemPort then do
    let Port ← readRuleItemUint16
    pure { rule with Port }
  else if itemType = ruleItemPortRange then do
    let PortRange ← readRuleItemString
    pure { rule with PortRange }
  else if itemType = ruleItemProcessName then do
    let ProcessName ← readRuleItemString
    pure { rule with ProcessName }
  else if itemType = ruleItemProcessPath then do
    let ProcessPath ← readRuleItemString
    pure { rule with ProcessPath }
  else if itemType = ruleItemProcessPathRegex then do
    let ProcessPathRegex ← readRuleItemString
    pure { rule with ProcessPathRegex }
  else if itemType = ruleItemPackageName then do
    let PackageName ← readRuleItemString
    pure { rule with PackageName }
  else if itemType = ruleItemPackageNameRegex then do
    let PackageNameRegex ← readRuleItemString
    pure { rule with PackageNameRegex }
  else if itemType = ruleItemWIFISSID then do
    let WIFISSID ← readRuleItemString
    pure { rule with WIFISSID }
  else if itemType = ruleItemWIFIBSSID then do
    let WIFIBSSID ← readRuleItemString
    pure { rule with WIFIBSSID }
  else if itemType = ruleItemAdGuardDomain then do
    let matcher ← dec.ReadAdGuardMatcher
    let rule := { rule with AdGuardDomainMatcher := some matcher }
    if recover then pure { rule with AdGuardDomain := dec.AdGuardMatcherDump matcher }
    else pure rule
  else if itemType = ruleItemNetworkType then do
    let NetworkType ← readRuleItemUint8
    pure { rule with NetworkType }
  else if itemType = ruleItemNetworkIsExpensive then
    pure { rule with NetworkIsExpensive := true }
  else if itemType = ruleItemNetworkIsConstrained then
    pure { rule with NetworkIsConstrained := true }
  else if itemType = ruleItemNetworkInterfaceAddress then do
    let size ← readUvarint
    let entries ← readInterfaceEntries dec.AddrFromIP size []
    pure { rule with NetworkInterfaceAddress := some entries }
  else if itemType = ruleItemDefaultInterfaceAddress then do
    let prefixCount ← readUvarint
    let DefaultInterfaceAddress ← readPrefixes dec.AddrFromIP prefixCount
    pure { rule with DefaultInterfaceAddress }
  else
    throw (.new ("unknown rule item type: " ++ toString itemType ++ ", last type: " ++
      toString lastItemType))

/-- The loop of `readDefaultRule`, from the item after `lastItemType`. -/
def readDefaultRuleFrom : Nat → UInt8 → DecodedDefaultRule M A → Decoder (DecodedDefaultRule M A)
  | 0, _, _ => throw .eof
  | fuel + 1, lastItemType, rule => do
    let itemType ← readByte
    if itemType = ruleItemFinal then
      let Invert ← readBool
      pure { rule with Invert }
    else
      let rule ← readRuleItem dec recover lastItemType itemType rule
      readDefaultRuleFrom fuel itemType rule

def readDefaultRule (fuel : Nat) : Decoder (DecodedDefaultRule M A) :=
  readDefaultRuleFrom dec recover fuel 0 .empty

/-- The loops of `Read` and of `readLogicalRule` over `length` rules, from the `i`-th on: an
error is caused by `context`, the index and a bracket. -/
def readEach {α : Type} (read : Decoder α) (context : String) : Nat → Nat → Decoder (List α)
  | 0, _ => pure []
  | n + 1, i => do
    let a ← tryCatch read fun err => throw (.cause err (context ++ toString i ++ "]"))
    let rest ← readEach read context n (i + 1)
    pure (a :: rest)

mutual

def readRule : Nat → Decoder (DecodedRule M A)
  | 0 => throw .eof
  | fuel + 1 => do
    let ruleType ← readByte
    if ruleType = 0 then do
      let rule ← readDefaultRule dec recover fuel
      pure (.default rule)
    else if ruleType = 1 then readLogicalRule fuel
    else throw (.new ("unknown rule type: " ++ toString ruleType))

def readLogicalRule : Nat → Decoder (DecodedRule M A)
  | 0 => throw .eof
  | fuel + 1 => do
    let mode ← readByte
    let Mode ←
      if mode = 0 then pure LogicalMode.and
      else if mode = 1 then pure LogicalMode.or
      else throw (.new ("unknown logical mode: " ++ toString mode))
    let length ← readUvarint
    let Rules ← readEach (readRule fuel) "read logical rule [" length 0
    let Invert ← readBool
    pure (.logical Mode Rules Invert)

end

/-- The magic bytes and the version. -/
def readHeader : Decoder UInt8 := do
  let magicBytes ← readFull 3
  if magicBytes ≠ MagicBytes then throw (.new "invalid sing-box rule-set file")
  let version ← readByte
  if version > RuleSetVersionCurrent then
    throw (.new ("unsupported version: " ++ toString version))
  pure version

/-- The stream after the header: the number of rules, then the rules. -/
def readRules (fuel : Nat) : Decoder (List (DecodedRule M A)) := do
  let length ← readUvarint
  readEach (readRule dec recover fuel) "read rule[" length 0

/-- A reader run from the start of `bytes`. -/
def runDecoder {α : Type} (read : Decoder α) (bytes : List UInt8) : Except ReadError α :=
  (read.run bytes).1

/-- `Read`: the header, then the rules of the zlib stream after it. -/
def Read (bytes : List UInt8) : Except ReadError (DecodedRuleSet M A) :=
  match readHeader.run bytes with
  | (.error err, _) => .error err
  | (.ok version, rest) => do
    let stream ← dec.zlibReader rest
    let Rules ← runDecoder (readRules dec recover stream.length) stream
    pure ⟨version, Rules⟩

end Reader

/-! ### What a written rule reads back as -/

/-- The writer's encoders and the reader's decoders, with the matchers between them:
`NewMatcher` is `domain.NewMatcher` and `NewAdGuardMatcher` is `domain.NewAdGuardMatcher`,
whose `Write` the encoders are. -/
structure Codec (M A : Type) where
  enc : Encoders
  dec : Decoders M A
  NewMatcher : List String → List String → Bool → M
  NewAdGuardMatcher : List String → A

/-- Each decoder reads back what its encoder wrote, on encodings of fewer than `2 ^ 64` bytes. -/
structure Codec.Lawful {M A : Type} (c : Codec M A) : Prop where
  matcher : ∀ domain suffix legacy, (c.enc.domainMatcher domain suffix legacy).length < 2 ^ 64 →
    listReader.Reads c.dec.ReadMatcher (c.enc.domainMatcher domain suffix legacy)
      (c.NewMatcher domain suffix legacy)
  adGuardMatcher : ∀ rules, (c.enc.adGuardMatcher rules).length < 2 ^ 64 →
    listReader.Reads c.dec.ReadAdGuardMatcher (c.enc.adGuardMatcher rules)
      (c.NewAdGuardMatcher rules)
  addrFromIP : ∀ a : Addr, c.dec.AddrFromIP a.AsSlice = a
  zlib : ∀ bytes, c.dec.zlibReader (c.enc.zlib bytes) = .ok bytes

/-- The map the `network_interface_address` item reads back: its entries put in turn, a key
written twice keeping its first place and its last prefixes. -/
def interfaceMap (entries : List (UInt8 × List (Option Prefix))) :
    List (UInt8 × List (Option Prefix)) :=
  entries.foldl (fun m entry => typedMapPut m entry.1 entry.2) []

section Decoded

variable {M A : Type} (c : Codec M A) (recover : Bool) (v : UInt8)

/-- The default rule that a default rule written at version `v` reads back as. -/
def Codec.decodedDefault (rule : DefaultHeadlessRule) : DecodedDefaultRule M A :=
  let DomainMatcher :=
    if !rule.Domain.isEmpty || !rule.DomainSuffix.isEmpty then
      some (c.NewMatcher rule.Domain rule.DomainSuffix (v == 1))
    else none
  let SourceIPSet := if rule.SourceIPCIDR.isEmpty then none else (c.enc.ipSet rule.SourceIPCIDR).toOption
  let IPSet := if rule.IPCIDR.isEmpty then none else (c.enc.ipSet rule.IPCIDR).toOption
  let AdGuardDomainMatcher :=
    if !rule.AdGuardDomain.isEmpty then some (c.NewAdGuardMatcher rule.AdGuardDomain) else none
  { rule with
    Domain := if recover then ((DomainMatcher.map c.dec.MatcherDump).map Prod.fst).getD [] else []
    DomainSuffix :=
      if recover then ((DomainMatcher.map c.dec.MatcherDump).map Prod.snd).getD [] else []
    SourceIPCIDR := if recover then (SourceIPSet.map c.dec.Prefixes).getD [] else []
    IPCIDR := if recover then (IPSet.map c.dec.Prefixes).getD [] else []
    NetworkInterfaceAddress :=
      if rule.hasNetworkInterfaceAddress then some (interfaceMap (rule.NetworkInterfaceAddress.getD []))
      else none
    AdGuardDomain := if recover then (AdGuardDomainMatcher.map c.dec.AdGuardMatcherDump).getD [] else []
    DomainMatcher
    SourceIPSet
    IPSet
    AdGuardDomainMatcher }

mutual

/-- The rule that a rule written at version `v` reads back as. -/
def HeadlessRule.decoded : HeadlessRule → DecodedRule M A
  | .default rule => .default (c.decodedDefault recover v rule)
  | .logical Mode Rules Invert => .logical Mode (HeadlessRule.decodedList Rules) Invert

def HeadlessRule.decodedList : List HeadlessRule → List (DecodedRule M A)
  | [] => []
  | rule :: rules => rule.decoded :: HeadlessRule.decodedList rules

end

end Decoded

/-! ### The readers of the items -/

section Items

theorem reads_readByte (b : UInt8) : listReader.Reads readByte [b] b := by
  unfold readByte
  exact listReader.reads_byte ReadError.eof b

theorem reads_readBool (b : Bool) : listReader.Reads readBool [writeBool b] b := by
  have hb : (writeBool b != 0) = b := by cases b <;> rfl
  refine listReader.reads_bind (reads_readByte _) ?_
  rw [hb]
  exact listReader.reads_pure b

theorem reads_readUvarint {x : Nat} (hx : x < 2 ^ 64) :
    listReader.Reads readUvarint (Uvarint.put x) x :=
  listReader.reads_uvarint _ hx

theorem reads_readFull (bytes : List UInt8) : listReader.Reads (readFull bytes.length) bytes bytes := by
  cases bytes with
  | nil => exact listReader.reads_pure []
  | cons b bytes =>
    rw [List.length_cons, readFull]
    exact listReader.reads_bind (reads_readByte b)
      (listReader.reads_bind_of_eq (listReader.reads_readBytes _ bytes) (listReader.reads_pure _)
        (List.append_nil _))

theorem reads_readFull_of_length {bytes : List UInt8} {n : Nat} (hn : bytes.length = n) :
    listReader.Reads (readFull n) bytes bytes :=
  hn ▸ reads_readFull bytes

theorem reads_ofOption {α : Type} {read : List UInt8 → Option (α × List UInt8)}
    {bytes : List UInt8} {a : α} (h : ∀ tail, read (bytes ++ tail) = some (a, tail)) :
    listReader.Reads (ofOption read) bytes a := by
  rw [listReader_reads_iff]
  intro tail
  simp [ofOption, h]

theorem length_toUTF8_toList (s : String) : s.toUTF8.toList.length = s.utf8ByteSize := by
  simp [toList_eq_data_toList, String.size_toByteArray]

theorem fromUTF8?_toUTF8_toList (s : String) :
    String.fromUTF8? ⟨s.toUTF8.toList.toArray⟩ = some s := by
  rw [toList_eq_data_toList]
  simp [String.fromUTF8?, String.fromUTF8, s.isValidUTF8]

theorem reads_readString (s : String) (hs : s.utf8ByteSize < 2 ^ 64) :
    listReader.Reads readString (Uvarint.put s.utf8ByteSize ++ s.toUTF8.toList) s := by
  refine listReader.reads_bind (reads_readUvarint hs)
    (listReader.reads_bind_of_eq (reads_readFull_of_length (length_toUTF8_toList s)) ?_
      (List.append_nil _))
  simp only [fromUTF8?_toUTF8_toList]
  exact listReader.reads_pure s

theorem reads_readStrings (value : List String) (hvalue : ∀ s ∈ value, s.utf8ByteSize < 2 ^ 64) :
    listReader.Reads (readStrings value.length)
      (value.map fun s => Uvarint.put s.utf8ByteSize ++ s.toUTF8.toList).flatten value := by
  induction value with
  | nil => exact listReader.reads_pure []
  | cons s value ih =>
    rw [List.length_cons, readStrings, List.map_cons, List.flatten_cons]
    exact listReader.reads_bind (reads_readString s (hvalue s List.mem_cons_self))
      (listReader.reads_bind_of_eq (ih fun s hs => hvalue s (List.mem_cons_of_mem _ hs))
        (listReader.reads_pure _) (List.append_nil _))

theorem length_le_length_flatten {α : Type} (l : List α) (f : α → List UInt8)
    (hf : ∀ a, f a ≠ []) : l.length ≤ (l.map f).flatten.length := by
  induction l with
  | nil => simp
  | cons a l ih =>
    have := List.length_pos_iff.mpr (hf a)
    simp only [List.length_cons, List.map_cons, List.flatten_cons, List.length_append]
    omega

theorem reads_readRuleItemString (t : UInt8) (value : List String)
    (hsize : (writeRuleItemString t value).length < 2 ^ 64) :
    listReader.Reads readRuleItemString (writeRuleItemString t value).tail value := by
  have hcount := length_le_length_flatten value
    (fun s => Uvarint.put s.utf8ByteSize ++ s.toUTF8.toList) (fun s => by simp [Uvarint.put_ne_nil])
  have hsizes : ∀ s ∈ value, s.utf8ByteSize < 2 ^ 64 := by
    intro s hs
    have hle : (Uvarint.put s.utf8ByteSize ++ s.toUTF8.toList).length ≤
        (value.map fun s => Uvarint.put s.utf8ByteSize ++ s.toUTF8.toList).flatten.length :=
      List.IsInfix.length_le (List.infix_of_mem_flatten (List.mem_map_of_mem hs))
    simp only [writeRuleItemString, List.length_cons, List.length_append,
      length_toUTF8_toList] at hsize hle
    omega
  simp only [writeRuleItemString, List.length_cons, List.length_append] at hsize
  exact listReader.reads_bind (reads_readUvarint (by omega)) (reads_readStrings value hsizes)

theorem reads_readRuleItemUint8 (t : UInt8) (value : List UInt8)
    (hsize : (writeRuleItemUint8 t value).length < 2 ^ 64) :
    listReader.Reads readRuleItemUint8 (writeRuleItemUint8 t value).tail value := by
  simp only [writeRuleItemUint8, List.length_cons, List.length_append] at hsize
  exact listReader.reads_bind (reads_readUvarint (by omega)) (reads_readFull value)

theorem uint16s_encode (value : List UInt16) :
    uint16s (value.map fun x => BigEndian.encode 2 x.toNat).flatten = value := by
  induction value with
  | nil => rfl
  | cons x value ih =>
    have hx : BigEndian.decode (BigEndian.encode 2 x.toNat) = x.toNat :=
      BigEndian.decode_encode_of_lt (by have := x.toNat_lt; simpa using this)
    have hcons : ∀ rest, uint16s (BigEndian.encode 2 x.toNat ++ rest) =
        (BigEndian.decode (BigEndian.encode 2 x.toNat)).toUInt16 :: uint16s rest := fun _ => rfl
    rw [List.map_cons, List.flatten_cons, hcons, hx, ih]
    simp

theorem length_encode_uint16s (value : List UInt16) :
    (value.map fun x => BigEndian.encode 2 x.toNat).flatten.length = 2 * value.length := by
  induction value with
  | nil => rfl
  | cons x value ih =>
    simp only [List.map_cons, List.flatten_cons, List.length_append, BigEndian.length_encode, ih,
      List.length_cons]
    omega

theorem reads_readRuleItemUint16 (t : UInt8) (value : List UInt16)
    (hsize : (writeRuleItemUint16 t value).length < 2 ^ 64) :
    listReader.Reads readRuleItemUint16 (writeRuleItemUint16 t value).tail value := by
  have hlen := length_encode_uint16s value
  simp only [writeRuleItemUint16, List.length_cons, List.length_append, hlen] at hsize
  refine listReader.reads_bind (reads_readUvarint (by omega))
    (listReader.reads_bind_of_eq (reads_readFull_of_length hlen) ?_ (List.append_nil _))
  rw [uint16s_encode]
  exact listReader.reads_pure value

section Addresses

variable {AddrFromIP : List UInt8 → Addr} (hAddr : ∀ a : Addr, AddrFromIP a.AsSlice = a)
include hAddr

theorem reads_readIPSet (ranges : List IPRange) (hlen : ranges.length < 256 ^ 8) :
    listReader.Reads (ofOption (readIPSet AddrFromIP)) (writeIPSet ranges) ranges :=
  reads_ofOption (readIPSet_writeIPSet hAddr ranges hlen)

theorem reads_readPrefixes (prefixes : List (Option Prefix)) :
    listReader.Reads (readPrefixes AddrFromIP prefixes.length) (prefixes.map writePrefix).flatten
      prefixes := by
  induction prefixes with
  | nil => exact listReader.reads_pure []
  | cons p prefixes ih =>
    rw [List.length_cons, readPrefixes, List.map_cons, List.flatten_cons]
    exact listReader.reads_bind (reads_ofOption (readPrefix_writePrefix hAddr p))
      (listReader.reads_bind_of_eq ih (listReader.reads_pure _) (List.append_nil _))

end Addresses

theorem writePrefix_ne_nil (p : Option Prefix) : writePrefix p ≠ [] := by
  simp [writePrefix]

/-- The bytes of the prefixes of an interface item. -/
def writePrefixes (prefixes : List (Option Prefix)) : List UInt8 :=
  Uvarint.put prefixes.length ++ (prefixes.map writePrefix).flatten

theorem length_lt_of_writePrefixes {prefixes : List (Option Prefix)}
    (hsize : (writePrefixes prefixes).length < 2 ^ 64) : prefixes.length < 2 ^ 64 := by
  have hcount := length_le_length_flatten prefixes writePrefix writePrefix_ne_nil
  simp only [writePrefixes, List.length_append] at hsize
  omega

theorem reads_readInterfaceEntries {AddrFromIP : List UInt8 → Addr}
    (hAddr : ∀ a : Addr, AddrFromIP a.AsSlice = a) (entries : List (UInt8 × List (Option Prefix)))
    (hsize : ∀ entry ∈ entries, (writePrefixes entry.2).length < 2 ^ 64)
    (m : List (UInt8 × List (Option Prefix))) :
    listReader.Reads (readInterfaceEntries AddrFromIP entries.length m)
      (entries.map fun entry => entry.1 :: writePrefixes entry.2).flatten
      (entries.foldl (fun m entry => typedMapPut m entry.1 entry.2) m) := by
  induction entries generalizing m with
  | nil => exact listReader.reads_pure m
  | cons entry entries ih =>
    rw [List.length_cons, readInterfaceEntries, List.map_cons, List.flatten_cons, List.foldl_cons]
    have hcount := length_lt_of_writePrefixes (hsize entry List.mem_cons_self)
    exact listReader.reads_bind_of_eq (reads_readByte entry.1)
      (listReader.reads_bind (reads_readUvarint hcount)
        (listReader.reads_bind (reads_readPrefixes hAddr entry.2)
          (ih (fun e he => hsize e (List.mem_cons_of_mem _ he)) _)))
      (by simp [writePrefixes])

theorem length_le_writeIPSet (ranges : List IPRange) : ranges.length ≤ (writeIPSet ranges).length := by
  have hranges := length_le_length_flatten ranges
    (fun range => writeAddress range.fromAddr ++ writeAddress range.toAddr)
    (fun _ => by simp [writeAddress, Uvarint.put_ne_nil])
  simp only [writeIPSet, List.length_append]
  omega

end Items

/-! ### The loop of `readDefaultRule`

The items of a default rule come in any order until `ruleItemFinal`. `LoopReads` says what the
rest of a rule reads as from the rule read so far, and `SegReads` what a run of items does to
that rule, so that the items the writer puts one after another are read one after another. -/

section Loop

variable {M A : Type} (dec : Decoders M A) (recover : Bool)

/-- The rest of a default rule reads as `final` from the rule read so far, whatever item came
last and with fuel for its bytes. -/
def LoopReads (rule : DecodedDefaultRule M A) (bytes : List UInt8)
    (final : DecodedDefaultRule M A) : Prop :=
  bytes.length < 2 ^ 64 → ∀ fuel lastItemType, bytes.length ≤ fuel →
    listReader.Reads (readDefaultRuleFrom dec recover fuel lastItemType rule) bytes final

/-- A run of items takes the rule read so far from `rule` to `rule'`: what reads on from
`rule'` reads from `rule` with the run before it. -/
def SegReads (rule : DecodedDefaultRule M A) (items : List UInt8)
    (rule' : DecodedDefaultRule M A) : Prop :=
  ∀ bytes final, LoopReads dec recover rule' bytes final →
    LoopReads dec recover rule (items ++ bytes) final

theorem loopReads_final {rule final : DecodedDefaultRule M A} {b : Bool}
    (h : { rule with Invert := b } = final) :
    LoopReads dec recover rule [ruleItemFinal, writeBool b] final := by
  rintro - (_ | fuel) lastItemType hfuel
  · simp at hfuel
  · rw [readDefaultRuleFrom, ← h]
    refine listReader.reads_bind (reads_readByte ruleItemFinal) ?_
    rw [if_pos rfl]
    exact listReader.reads_bind (reads_readBool b) (listReader.reads_pure _)

theorem segReads_item {t : UInt8} (ht : t ≠ ruleItemFinal) {payload : List UInt8}
    {rule rule' : DecodedDefaultRule M A}
    (hitem : (t :: payload).length < 2 ^ 64 → ∀ lastItemType,
      listReader.Reads (readRuleItem dec recover lastItemType t rule) payload rule') :
    SegReads dec recover rule (t :: payload) rule' := by
  intro bytes final hnext hsize fuel lastItemType hfuel
  simp only [List.cons_append, List.length_cons, List.length_append] at hsize hfuel
  obtain ⟨fuel, rfl⟩ : ∃ fuel', fuel = fuel' + 1 := ⟨fuel - 1, by omega⟩
  rw [readDefaultRuleFrom]
  refine listReader.reads_bind_of_eq (reads_readByte t) ?_ rfl
  rw [if_neg ht]
  exact listReader.reads_bind (hitem (by simp only [List.length_cons]; omega) lastItemType)
    (hnext (by omega) fuel t (by omega))

theorem segReads_optional {p : Bool} {items : List UInt8} {rule rule' : DecodedDefaultRule M A}
    (hpresent : p = true → SegReads dec recover rule items rule')
    (habsent : p = false → rule' = rule) :
    SegReads dec recover rule (optionalItem p items) rule' := by
  cases p with
  | true => exact hpresent rfl
  | false =>
    rw [habsent rfl]
    exact fun _ _ hnext => hnext

theorem segReads_listItem {α : Type} (t : UInt8) (ht : t ≠ ruleItemFinal)
    (set : List α → DecodedDefaultRule M A → DecodedDefaultRule M A) {read : Decoder (List α)}
    (hread : ∀ lastItemType rule, readRuleItem dec recover lastItemType t rule =
      (do let value ← read; pure (set value rule)))
    {value : List α} {payload : List UInt8}
    (hpayload : (t :: payload).length < 2 ^ 64 → listReader.Reads read payload value)
    {rule : DecodedDefaultRule M A} (habsent : set [] rule = rule) :
    SegReads dec recover rule (optionalItem (!value.isEmpty) (t :: payload)) (set value rule) := by
  refine segReads_optional dec recover
    (fun _ => segReads_item dec recover ht fun hsize lastItemType => ?_) (fun h => ?_)
  · rw [hread]
    exact listReader.reads_bind_of_eq (hpayload hsize) (listReader.reads_pure _) (List.append_nil _)
  · have hnil : value = [] := by simpa using h
    rw [hnil, habsent]

theorem segReads_flagItem (t : UInt8) (ht : t ≠ ruleItemFinal)
    (set : Bool → DecodedDefaultRule M A → DecodedDefaultRule M A) {rule : DecodedDefaultRule M A}
    (hread : ∀ lastItemType, readRuleItem dec recover lastItemType t rule = pure (set true rule))
    {b : Bool} (habsent : set false rule = rule) :
    SegReads dec recover rule (optionalItem b [t]) (set b rule) := by
  cases b with
  | true =>
    refine segReads_item dec recover ht fun _ lastItemType => ?_
    rw [hread]
    exact listReader.reads_pure _
  | false =>
    rw [habsent]
    exact fun _ _ hnext => hnext

theorem segReads_readItem {α : Type} (t : UInt8) (ht : t ≠ ruleItemFinal) {read : Decoder α}
    {payload : List UInt8} {a : α} (hpayload : payload.length < 2 ^ 64 → listReader.Reads read payload a)
    {rule : DecodedDefaultRule M A}
    (next : Option α → DecodedDefaultRule M A → DecodedDefaultRule M A)
    (hread : ∀ lastItemType, readRuleItem dec recover lastItemType t rule =
      (do let a ← read; pure (next (some a) rule)))
    (hnone : next none rule = rule) {p : Bool} :
    SegReads dec recover rule (optionalItem p (t :: payload)) (next (if p then some a else none) rule) := by
  cases p with
  | true =>
    refine segReads_item dec recover ht fun hsize lastItemType => ?_
    rw [hread]
    exact listReader.reads_bind_of_eq (hpayload (Nat.lt_of_succ_lt hsize)) (listReader.reads_pure _)
      (List.append_nil _)
  | false =>
    rw [if_neg Bool.false_ne_true, hnone]
    exact fun _ _ hnext => hnext

end Loop

/-! ### What the writer wrote -/

theorem bind_eq_ok {ε α β : Type} {x : Except ε α} {f : α → Except ε β} {b : β}
    (h : (x >>= f) = .ok b) : ∃ a, x = .ok a ∧ f a = .ok b := by
  cases x with
  | error e => cases h
  | ok a => exact ⟨a, rfl, h⟩

theorem gatedItem_ok {present : Bool} {v minVersion : UInt8} {message : String}
    {bytes items : List UInt8} (h : gatedItem present v minVersion message bytes = .ok items) :
    items = optionalItem present bytes := by
  unfold gatedItem at h
  cases present with
  | false => exact (Except.ok.inj h).symm
  | true =>
    rw [if_pos rfl] at h
    split_ifs at h
    exact (Except.ok.inj h).symm

theorem length_lt_of_writeNetworkInterfaceAddress {entries : List (UInt8 × List (Option Prefix))}
    (hsize : (writeNetworkInterfaceAddress entries).length < 2 ^ 64) :
    entries.length < 2 ^ 64 ∧ ∀ entry ∈ entries, (writePrefixes entry.2).length < 2 ^ 64 := by
  have hflat : (writeNetworkInterfaceAddress entries).length =
      (Uvarint.put entries.length).length +
        (entries.map fun entry => entry.1 :: writePrefixes entry.2).flatten.length + 1 := by
    simp only [writeNetworkInterfaceAddress, writePrefixes, List.cons_append, List.length_cons,
      List.length_append]
  refine ⟨?_, fun entry hentry => ?_⟩
  · have := length_le_length_flatten entries (fun entry => entry.1 :: writePrefixes entry.2)
      (fun _ => List.cons_ne_nil _ _)
    omega
  · have hle : (entry.1 :: writePrefixes entry.2).length ≤
        (entries.map fun entry => entry.1 :: writePrefixes entry.2).flatten.length :=
      List.IsInfix.length_le (List.infix_of_mem_flatten (List.mem_map_of_mem hentry))
    simp only [List.length_cons] at hle
    omega

/-! ### The items of a default rule read back -/

section DefaultRule

variable {M A : Type} (c : Codec M A) (recover : Bool) (v : UInt8)

/-- A CIDR item as `cidrItem` wrote it, read into the set that `next` puts into the rule. -/
theorem segReads_cidrItem (hc : c.Lawful) {field : String} (t : UInt8) (ht : t ≠ ruleItemFinal)
    {value : List String} {items : List UInt8} (hitems : cidrItem c.enc field t value = .ok items)
    {rule : DecodedDefaultRule M A}
    (next : Option (List IPRange) → DecodedDefaultRule M A → DecodedDefaultRule M A)
    (hread : ∀ lastItemType, readRuleItem c.dec recover lastItemType t rule =
      (do let ipSet ← ofOption (readIPSet c.dec.AddrFromIP); pure (next (some ipSet) rule)))
    (hnone : next none rule = rule) :
    SegReads c.dec recover rule items
      (next (if value.isEmpty then none else (c.enc.ipSet value).toOption) rule) := by
  unfold cidrItem at hitems
  by_cases hempty : value.isEmpty = true
  · rw [if_pos hempty] at hitems ⊢
    obtain rfl : items = [] := (Except.ok.inj hitems).symm
    rw [hnone]
    exact fun _ _ hnext => hnext
  · rw [if_neg hempty] at hitems ⊢
    unfold writeRuleItemCIDR at hitems
    cases hipSet : c.enc.ipSet value with
    | error err =>
      rw [hipSet] at hitems
      cases hitems
    | ok ipSet =>
      rw [hipSet] at hitems
      obtain rfl : items = t :: writeIPSet ipSet := (Except.ok.inj hitems).symm
      refine segReads_item c.dec recover ht fun hsize lastItemType => ?_
      have hlen := length_le_writeIPSet ipSet
      simp only [List.length_cons] at hsize
      rw [hread]
      exact listReader.reads_bind_of_eq (reads_readIPSet hc.addrFromIP ipSet (by omega))
        (listReader.reads_pure _) (List.append_nil _)

theorem segReads_interfaceItem (hc : c.Lawful) {p : Bool} (entries : List (UInt8 × List (Option Prefix)))
    {rule : DecodedDefaultRule M A} (hnone : { rule with NetworkInterfaceAddress := none } = rule) :
    SegReads c.dec recover rule (optionalItem p (writeNetworkInterfaceAddress entries))
      { rule with NetworkInterfaceAddress := if p then some (interfaceMap entries) else none } := by
  cases p with
  | false =>
    rw [if_neg Bool.false_ne_true, hnone]
    exact fun _ _ hnext => hnext
  | true =>
    refine segReads_item c.dec recover (by decide) fun hsize lastItemType => ?_
    obtain ⟨hcount, hentries⟩ := length_lt_of_writeNetworkInterfaceAddress hsize
    show listReader.Reads (readUvarint >>= fun size =>
        readInterfaceEntries c.dec.AddrFromIP size [] >>= fun entries =>
          pure { rule with NetworkInterfaceAddress := some entries }) _ _
    exact listReader.reads_bind (reads_readUvarint hcount)
      (listReader.reads_bind_of_eq (reads_readInterfaceEntries hc.addrFromIP entries hentries [])
        (listReader.reads_pure _) (List.append_nil _))

theorem segReads_defaultInterfaceItem (hc : c.Lawful) (prefixes : List (Option Prefix))
    {rule : DecodedDefaultRule M A} (habsent : { rule with DefaultInterfaceAddress := [] } = rule) :
    SegReads c.dec recover rule
      (optionalItem (!prefixes.isEmpty) (ruleItemDefaultInterfaceAddress :: writePrefixes prefixes))
      { rule with DefaultInterfaceAddress := prefixes } := by
  refine segReads_optional c.dec recover
    (fun _ => segReads_item c.dec recover (by decide) fun hsize lastItemType => ?_) (fun h => ?_)
  · show listReader.Reads (readUvarint >>= fun prefixCount =>
        readPrefixes c.dec.AddrFromIP prefixCount >>= fun DefaultInterfaceAddress =>
          pure { rule with DefaultInterfaceAddress }) _ _
    exact listReader.reads_bind (reads_readUvarint (length_lt_of_writePrefixes (Nat.lt_of_succ_lt hsize)))
      (listReader.reads_bind_of_eq (reads_readPrefixes hc.addrFromIP prefixes)
        (listReader.reads_pure _) (List.append_nil _))
  · have hnil : prefixes = [] := by simpa using h
    rw [hnil, habsent]

/-- A default rule as `writeDefaultRule` wrote it: its type byte, then items that read, from the
zero rule, as the rule `decodedDefault` describes. -/
theorem loopReads_writeDefaultRule (hc : c.Lawful) {rule : DefaultHeadlessRule} {bytes : List UInt8}
    (h : writeDefaultRule c.enc rule v = .ok bytes) :
    bytes = 0 :: bytes.tail ∧
      LoopReads c.dec recover .empty bytes.tail (c.decodedDefault recover v rule) := by
  unfold writeDefaultRule at h
  obtain ⟨sourceIPCIDR, hsource, h⟩ := bind_eq_ok h
  obtain ⟨ipCIDR, hip, h⟩ := bind_eq_ok h
  obtain ⟨packageNameRegex, hpackage, h⟩ := bind_eq_ok h
  obtain ⟨networkType, hnetworkType, h⟩ := bind_eq_ok h
  obtain ⟨networkIsExpensive, hexpensive, h⟩ := bind_eq_ok h
  obtain ⟨networkIsConstrained, hconstrained, h⟩ := bind_eq_ok h
  obtain ⟨networkInterfaceAddress, hinterface, h⟩ := bind_eq_ok h
  obtain ⟨defaultInterfaceAddress, hdefault, h⟩ := bind_eq_ok h
  obtain ⟨adGuardDomain, hadGuard, h⟩ := bind_eq_ok h
  obtain rfl := gatedItem_ok hpackage
  obtain rfl := gatedItem_ok hnetworkType
  obtain rfl := gatedItem_ok hexpensive
  obtain rfl := gatedItem_ok hconstrained
  obtain rfl := gatedItem_ok hinterface
  obtain rfl := gatedItem_ok hdefault
  obtain rfl := gatedItem_ok hadGuard
  rw [← Except.ok.inj h]
  simp only [List.append_assoc, List.singleton_append]
  refine ⟨rfl, ?_⟩
  refine segReads_listItem c.dec recover ruleItemQueryType (by decide)
    (fun QueryType r => { r with QueryType }) (fun _ _ => rfl)
    (reads_readRuleItemUint16 ruleItemQueryType rule.QueryType) rfl _ _ ?_
  refine segReads_listItem c.dec recover ruleItemNetwork (by decide)
    (fun Network r => { r with Network }) (fun _ _ => rfl)
    (reads_readRuleItemString ruleItemNetwork rule.Network) rfl _ _ ?_
  refine segReads_readItem c.dec recover ruleItemDomain (by decide)
    (hc.matcher rule.Domain rule.DomainSuffix (v == 1))
    (fun DomainMatcher r => { r with
      DomainMatcher
      Domain := if recover then ((DomainMatcher.map c.dec.MatcherDump).map Prod.fst).getD [] else []
      DomainSuffix :=
        if recover then ((DomainMatcher.map c.dec.MatcherDump).map Prod.snd).getD [] else [] })
    (fun _ => by cases recover <;> rfl) (by cases recover <;> rfl) _ _ ?_
  refine segReads_listItem c.dec recover ruleItemDomainKeyword (by decide)
    (fun DomainKeyword r => { r with DomainKeyword }) (fun _ _ => rfl)
    (reads_readRuleItemString ruleItemDomainKeyword rule.DomainKeyword) rfl _ _ ?_
  refine segReads_listItem c.dec recover ruleItemDomainRegex (by decide)
    (fun DomainRegex r => { r with DomainRegex }) (fun _ _ => rfl)
    (reads_readRuleItemString ruleItemDomainRegex rule.DomainRegex) rfl _ _ ?_
  refine segReads_cidrItem c recover hc ruleItemSourceIPCIDR (by decide) hsource
    (fun SourceIPSet r => { r with
      SourceIPSet
      SourceIPCIDR := if recover then (SourceIPSet.map c.dec.Prefixes).getD [] else [] })
    (fun _ => by cases recover <;> rfl) (by cases recover <;> rfl) _ _ ?_
  refine segReads_cidrItem c recover hc ruleItemIPCIDR (by decide) hip
    (fun IPSet r => { r with
      IPSet
      IPCIDR := if recover then (IPSet.map c.dec.Prefixes).getD [] else [] })
    (fun _ => by cases recover <;> rfl) (by cases recover <;> rfl) _ _ ?_
  refine segReads_listItem c.dec recover ruleItemSourcePort (by decide)
    (fun SourcePort r => { r with SourcePort }) (fun _ _ => rfl)
    (reads_readRuleItemUint16 ruleItemSourcePort rule.SourcePort) rfl _ _ ?_
  refine segReads_listItem c.dec recover ruleItemSourcePortRange (by decide)
    (fun SourcePortRange r => { r with SourcePortRange }) (fun _ _ => rfl)
    (reads_readRuleItemString ruleItemSourcePortRange rule.SourcePortRange) rfl _ _ ?_
  refine segReads_listItem c.dec recover ruleItemPort (by decide)
    (fun Port r => { r with Port }) (fun _ _ => rfl)
    (reads_readRuleItemUint16 ruleItemPort rule.Port) rfl _ _ ?_
  refine segReads_listItem c.dec recover ruleItemPortRange (by decide)
    (fun PortRange r => { r with PortRange }) (fun _ _ => rfl)
    (reads_readRuleItemString ruleItemPortRange rule.PortRange) rfl _ _ ?_
  refine segReads_listItem c.dec recover ruleItemProcessName (by decide)
    (fun ProcessName r => { r with ProcessName }) (fun _ _ => rfl)
    (reads_readRuleItemString ruleItemProcessName rule.ProcessName) rfl _ _ ?_
  refine segReads_listItem c.dec recover ruleItemProcessPath (by decide)
    (fun ProcessPath r => { r with ProcessPath }) (fun _ _ => rfl)
    (reads_readRuleItemString ruleItemProcessPath rule.ProcessPath) rfl _ _ ?_
  refine segReads_listItem c.dec recover ruleItemProcessPathRegex (by decide)
    (fun ProcessPathRegex r => { r with ProcessPathRegex }) (fun _ _ => rfl)
    (reads_readRuleItemString ruleItemProcessPathRegex rule.ProcessPathRegex) rfl _ _ ?_
  refine segReads_listItem c.dec recover ruleItemPackageName (by decide)
    (fun PackageName r => { r with PackageName }) (fun _ _ => rfl)
    (reads_readRuleItemString ruleItemPackageName rule.PackageName) rfl _ _ ?_
  refine segReads_listItem c.dec recover ruleItemPackageNameRegex (by decide)
    (fun PackageNameRegex r => { r with PackageNameRegex }) (fun _ _ => rfl)
    (reads_readRuleItemString ruleItemPackageNameRegex rule.PackageNameRegex) rfl _ _ ?_
  refine segReads_listItem c.dec recover ruleItemNetworkType (by decide)
    (fun NetworkType r => { r with NetworkType }) (fun _ _ => rfl)
    (reads_readRuleItemUint8 ruleItemNetworkType rule.NetworkType) rfl _ _ ?_
  refine segReads_flagItem c.dec recover ruleItemNetworkIsExpensive (by decide)
    (fun NetworkIsExpensive r => { r with NetworkIsExpensive }) (fun _ => rfl) rfl _ _ ?_
  refine segReads_flagItem c.dec recover ruleItemNetworkIsConstrained (by decide)
    (fun NetworkIsConstrained r => { r with NetworkIsConstrained }) (fun _ => rfl) rfl _ _ ?_
  refine segReads_interfaceItem c recover hc (rule.NetworkInterfaceAddress.getD []) rfl _ _ ?_
  refine segReads_defaultInterfaceItem c recover hc rule.DefaultInterfaceAddress rfl _ _ ?_
  refine segReads_listItem c.dec recover ruleItemWIFISSID (by decide)
    (fun WIFISSID r => { r with WIFISSID }) (fun _ _ => rfl)
    (reads_readRuleItemString ruleItemWIFISSID rule.WIFISSID) rfl _ _ ?_
  refine segReads_listItem c.dec recover ruleItemWIFIBSSID (by decide)
    (fun WIFIBSSID r => { r with WIFIBSSID }) (fun _ _ => rfl)
    (reads_readRuleItemString ruleItemWIFIBSSID rule.WIFIBSSID) rfl _ _ ?_
  refine segReads_readItem c.dec recover ruleItemAdGuardDomain (by decide)
    (hc.adGuardMatcher rule.AdGuardDomain)
    (fun AdGuardDomainMatcher r => { r with
      AdGuardDomainMatcher
      AdGuardDomain := if recover then (AdGuardDomainMatcher.map c.dec.AdGuardMatcherDump).getD [] else [] })
    (fun _ => by cases recover <;> rfl) (by cases recover <;> rfl) _ _ ?_
  exact loopReads_final c.dec recover rfl

/-! ### Rules and the rule set -/

theorem writeRule_ne_nil (hc : c.Lawful) {rule : HeadlessRule} {bytes : List UInt8}
    (h : writeRule c.enc rule v = .ok bytes) : bytes ≠ [] := by
  cases rule with
  | default rule =>
    rw [(loopReads_writeDefaultRule c false v hc h).1]
    exact List.cons_ne_nil _ _
  | logical mode rules invert =>
    obtain ⟨rulesBytes, -, h⟩ := bind_eq_ok h
    rw [← Except.ok.inj (h : Except.ok _ = _)]
    simp

theorem length_le_of_writeRules (hc : c.Lawful) :
    ∀ {rules : List HeadlessRule} {bytes : List UInt8}, writeRules c.enc rules v = .ok bytes →
      rules.length ≤ bytes.length
  | [], _, _ => Nat.zero_le _
  | rule :: rules, bytes, h => by
    obtain ⟨ruleBytes, hrule, h⟩ := bind_eq_ok h
    obtain ⟨rulesBytes, hrules, h⟩ := bind_eq_ok h
    rw [← Except.ok.inj h, List.length_append, List.length_cons]
    have hne := List.length_pos_iff.mpr (writeRule_ne_nil c v hc hrule)
    have := length_le_of_writeRules hc hrules
    omega

theorem ite_byte_logicalMode {β : Type} (mode : LogicalMode) (k : LogicalMode → Decoder β)
    (e : Decoder β) :
    (if mode.byte = 0 then pure LogicalMode.and >>= k
      else if mode.byte = 1 then pure LogicalMode.or >>= k else e) = k mode := by
  cases mode <;> exact pure_bind _ _

mutual

/-- A rule as `writeRule` wrote it reads back as `decoded`, with fuel for its bytes. -/
theorem reads_readRule (hc : c.Lawful) :
    ∀ (rule : HeadlessRule) {bytes : List UInt8}, writeRule c.enc rule v = .ok bytes →
      bytes.length < 2 ^ 64 → ∀ fuel, bytes.length ≤ fuel →
        listReader.Reads (readRule c.dec recover fuel) bytes (rule.decoded c recover v)
  | .default rule, bytes, h, hsize, fuel, hfuel => by
    obtain ⟨hbytes, hloop⟩ := loopReads_writeDefaultRule c recover v hc h
    rw [hbytes] at hsize hfuel ⊢
    simp only [List.length_cons] at hsize hfuel
    obtain ⟨fuel, rfl⟩ : ∃ fuel', fuel = fuel' + 1 := ⟨fuel - 1, by omega⟩
    rw [readRule]
    refine listReader.reads_bind_of_eq (reads_readByte 0) ?_ rfl
    rw [if_pos rfl]
    exact listReader.reads_bind_of_eq (hloop (by omega) fuel 0 (by omega)) (listReader.reads_pure _)
      (List.append_nil _)
  | .logical mode rules invert, bytes, h, hsize, fuel, hfuel => by
    obtain ⟨rulesBytes, hrules, h⟩ := bind_eq_ok h
    rw [← Except.ok.inj (h : Except.ok _ = _)] at hsize hfuel ⊢
    have hcount := length_le_of_writeRules c v hc hrules
    simp only [List.length_append, List.length_cons, List.length_nil] at hsize hfuel
    obtain ⟨fuel, rfl⟩ : ∃ fuel', fuel = fuel' + 2 := ⟨fuel - 2, by omega⟩
    simp only [List.append_assoc, List.cons_append, List.nil_append]
    rw [readRule]
    refine listReader.reads_bind_of_eq (reads_readByte 1) ?_ rfl
    rw [if_neg (by decide), if_pos rfl, readLogicalRule]
    refine listReader.reads_bind_of_eq (reads_readByte mode.byte) ?_ rfl
    dsimp only
    rw [ite_byte_logicalMode]
    refine listReader.reads_bind (reads_readUvarint (by omega)) ?_
    refine listReader.reads_bind
      (reads_readEach hc rules hrules (by omega) fuel (by omega) "read logical rule [" 0) ?_
    exact listReader.reads_bind_of_eq (reads_readBool invert) (listReader.reads_pure _)
      (List.append_nil _)

theorem reads_readEach (hc : c.Lawful) :
    ∀ (rules : List HeadlessRule) {bytes : List UInt8}, writeRules c.enc rules v = .ok bytes →
      bytes.length < 2 ^ 64 → ∀ fuel, bytes.length ≤ fuel → ∀ context i,
        listReader.Reads (readEach (readRule c.dec recover fuel) context rules.length i) bytes
          (HeadlessRule.decodedList c recover v rules)
  | [], bytes, h, _, _, _, _, _ => by
    rw [← Except.ok.inj (h : Except.ok _ = _)]
    exact listReader.reads_pure []
  | rule :: rules, bytes, h, hsize, fuel, hfuel, context, i => by
    obtain ⟨ruleBytes, hrule, h⟩ := bind_eq_ok h
    obtain ⟨rulesBytes, hrules, h⟩ := bind_eq_ok h
    rw [← Except.ok.inj (h : Except.ok _ = _)] at hsize hfuel ⊢
    simp only [List.length_append] at hsize hfuel
    rw [List.length_cons, readEach]
    exact listReader.reads_bind (listReader.reads_tryCatch
        (reads_readRule hc rule hrule (by omega) fuel (by omega)))
      (listReader.reads_bind_of_eq (reads_readEach hc rules hrules (by omega) fuel (by omega) context (i + 1))
        (listReader.reads_pure _) (List.append_nil _))

end

theorem reads_readHeader (hv : v ≤ RuleSetVersionCurrent) :
    listReader.Reads readHeader (MagicBytes ++ [v]) v := by
  unfold readHeader
  refine listReader.reads_bind (reads_readFull_of_length rfl) ?_
  rw [if_neg (not_not.mpr rfl)]
  refine listReader.reads_bind_of_eq (reads_readByte v) ?_ (List.append_nil _)
  dsimp only
  rw [if_neg (UInt8.not_lt.mpr hv)]
  exact listReader.reads_pure v

end DefaultRule

end RuleSetCompile

end SingBox
