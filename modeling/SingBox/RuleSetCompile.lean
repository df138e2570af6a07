import SingBox.SRSIP

/-!
# Compiling a rule set

`common/srs/binary.go` (`Write` and its rule writers) and `downgradeRuleSetVersion` of
`cmd/sing-box/cmd_rule_set_compile.go`. A rule set is written at a version; some items are
written only from a version on, and the compile command lowers the version to the least
that the rules' items need, as `rule.HasHeadlessRule` finds them at any depth of the
logical rules.

The matchers of `sing/common/domain`, the IP-set builder of `writeRuleItemCIDR` and zlib
are third-party code, taken as the parameters `Encoders`.

The version reaches the written bytes only through the version gates and the domain
matcher's legacy layout of version 1 (`writeRules_congr`), and the downgrade keeps every
gate and that layout (`writeRules_downgrade`): a rule set compiles to the same items at the
lowered version, or fails with the same error.
-/

namespace SingBox

namespace RuleSetCompile

inductive LogicalMode
  | and
  | or
deriving DecidableEq, Repr

/-- The fields of `option.DefaultHeadlessRule` that `writeDefaultRule` reads. A
`badoption.Prefixable` is the prefix it builds. -/
structure DefaultHeadlessRule where
  QueryType : List UInt16
  Network : List String
  Domain : List String
  DomainSuffix : List String
  DomainKeyword : List String
  DomainRegex : List String
  SourceIPCIDR : List String
  IPCIDR : List String
  SourcePort : List UInt16
  SourcePortRange : List String
  Port : List UInt16
  PortRange : List String
  ProcessName : List String
  ProcessPath : List String
  ProcessPathRegex : List String
  PackageName : List String
  PackageNameRegex : List String
  NetworkType : List UInt8
  NetworkIsExpensive : Bool
  NetworkIsConstrained : Bool
  WIFISSID : List String
  WIFIBSSID : List String
  NetworkInterfaceAddress : Option (List (UInt8 × List (Option Prefix)))
  DefaultInterfaceAddress : List (Option Prefix)
  Invert : Bool
  AdGuardDomain : List String

inductive HeadlessRule
  | default (options : DefaultHeadlessRule)
  | logical (Mode : LogicalMode) (Rules : List HeadlessRule) (Invert : Bool)

structure PlainRuleSet where
  Rules : List HeadlessRule

def HasHeadlessRule : List HeadlessRule → (DefaultHeadlessRule → Bool) → Bool
  | [], _ => false
  | .default rule :: rules, cond => cond rule || HasHeadlessRule rules cond
  | .logical _ sub _ :: rules, cond => HasHeadlessRule sub cond || HasHeadlessRule rules cond

namespace DefaultHeadlessRule

variable (rule : DefaultHeadlessRule)

/-- `rule.NetworkInterfaceAddress != nil && rule.NetworkInterfaceAddress.Size() > 0`. -/
def hasNetworkInterfaceAddress : Bool :=
  match rule.NetworkInterfaceAddress with
  | some entries => entries.length > 0
  | none => false

/-! The conditions of the three steps of `downgradeRuleSetVersion`. -/

def usesPackageNameRegex : Bool := !rule.PackageNameRegex.isEmpty

def usesInterfaceAddress : Bool :=
  rule.hasNetworkInterfaceAddress || !rule.DefaultInterfaceAddress.isEmpty

def usesNetworkType : Bool :=
  !rule.NetworkType.isEmpty || rule.NetworkIsExpensive || rule.NetworkIsConstrained

end DefaultHeadlessRule

def downgradeRuleSetVersion (version : UInt8) (options : PlainRuleSet) : UInt8 :=
  let version :=
    if version = 5 ∧ !HasHeadlessRule options.Rules DefaultHeadlessRule.usesPackageNameRegex
    then 4 else version
  let version :=
    if version = 4 ∧ !HasHeadlessRule options.Rules DefaultHeadlessRule.usesInterfaceAddress
    then 3 else version
  if version = 3 ∧ !HasHeadlessRule options.Rules DefaultHeadlessRule.usesNetworkType
  then 2 else version

/-! ### The writer -/

def ruleItemQueryType : UInt8 := 0
def ruleItemNetwork : UInt8 := 1
def ruleItemDomain : UInt8 := 2
def ruleItemDomainKeyword : UInt8 := 3
def ruleItemDomainRegex : UInt8 := 4
def ruleItemSourceIPCIDR : UInt8 := 5
def ruleItemIPCIDR : UInt8 := 6
def ruleItemSourcePort : UInt8 := 7
def ruleItemSourcePortRange : UInt8 := 8
def ruleItemPort : UInt8 := 9
def ruleItemPortRange : UInt8 := 10
def ruleItemProcessName : UInt8 := 11
def ruleItemProcessPath : UInt8 := 12
def ruleItemPackageName : UInt8 := 13
def ruleItemWIFISSID : UInt8 := 14
def ruleItemWIFIBSSID : UInt8 := 15
def ruleItemAdGuardDomain : UInt8 := 16
def ruleItemProcessPathRegex : UInt8 := 17
def ruleItemNetworkType : UInt8 := 18
def ruleItemNetworkIsExpensive : UInt8 := 19
def ruleItemNetworkIsConstrained : UInt8 := 20
def ruleItemNetworkInterfaceAddress : UInt8 := 21
def ruleItemDefaultInterfaceAddress : UInt8 := 22
def ruleItemPackageNameRegex : UInt8 := 23
def ruleItemFinal : UInt8 := 0xFF

def MagicBytes : List UInt8 := [0x53, 0x52, 0x53]

/-- The errors of the version gates of `writeDefaultRule`. -/
def versionGateErrors : List String :=
  ["`package_name_regex` rule item is only supported in version 5 or later",
    "`network_type` rule item is only supported in version 3 or later",
    "`network_is_expensive` rule item is only supported in version 3 or later",
    "`network_is_constrained` rule item is only supported in version 3 or later",
    "`network_interface_address` rule item is only supported in version 4 or later",
    "`default_interface_address` rule item is only supported in version 4 or later",
    "AdGuard rule items is only supported in version 2 or later"]

/-- The third-party encoders the writer calls: `domain.NewMatcher(domain, suffix,
legacy).Write`, `domain.NewAdGuardMatcher(rules).Write`, the `netipx.IPSetBuilder` of
`writeRuleItemCIDR` (its error is the cause `parse [i]` of the first string that is neither
a prefix nor an address), and the zlib stream. -/
structure Encoders where
  domainMatcher : List String → List String → Bool → List UInt8
  adGuardMatcher : List String → List UInt8
  ipSet : List String → Except String (List IPRange)
  zlib : List UInt8 → List UInt8

def writeBool (b : Bool) : UInt8 := if b then 1 else 0

def writeRuleItemString (itemType : UInt8) (value : List String) : List UInt8 :=
  itemType :: Uvarint.put value.length ++
    (value.map fun s => Uvarint.put s.utf8ByteSize ++ s.toUTF8.toList).flatten

def writeRuleItemUint8 (itemType : UInt8) (value : List UInt8) : List UInt8 :=
  itemType :: Uvarint.put value.length ++ value

def writeRuleItemUint16 (itemType : UInt8) (value : List UInt16) : List UInt8 :=
  itemType :: Uvarint.put value.length ++ (value.map fun x => BigEndian.encode 2 x.toNat).flatten

/-- An item written only when the rule has it. -/
def optionalItem (present : Bool) (bytes : List UInt8) : List UInt8 :=
  if present then bytes else []

/-- An item written only when the rule has it, and then only from `minVersion` on. -/
def gatedItem (present : Bool) (generateVersion minVersion : UInt8) (message : String)
    (bytes : List UInt8) : Except String (List UInt8) :=
  if present then
    if generateVersion < minVersion then throw message else pure bytes
  else pure []

section Writer

variable (enc : Encoders)

/-- `writeRuleItemCIDR`, with the field name its caller adds to the error. -/
def writeRuleItemCIDR (field : String) (itemType : UInt8) (value : List String) :
    Except String (List UInt8) :=
  match enc.ipSet value with
  | .ok ipSet => pure (itemType :: writeIPSet ipSet)
  | .error err => throw (field ++ ": " ++ err)

/-- A CIDR item, written only when the rule has it. -/
def cidrItem (field : String) (itemType : UInt8) (value : List String) :
    Except String (List UInt8) :=
  if value.isEmpty then pure [] else writeRuleItemCIDR enc field itemType value

def writeNetworkInterfaceAddress (entries : List (UInt8 × List (Option Prefix))) : List UInt8 :=
  ruleItemNetworkInterfaceAddress :: Uvarint.put entries.length ++
    (entries.map fun entry =>
      entry.1 :: Uvarint.put entry.2.length ++ (entry.2.map writePrefix).flatten).flatten

def writeDefaultRule (rule : DefaultHeadlessRule) (generateVersion : UInt8) :
    Except String (List UInt8) := do
  -- the fallible items, in the order the source writes them; the others cannot fail
  let sourceIPCIDR ← cidrItem enc "source_ip_cidr" ruleItemSourceIPCIDR rule.SourceIPCIDR
  let ipCIDR ← cidrItem enc "ipcidr" ruleItemIPCIDR rule.IPCIDR
  let packageNameRegex ← gatedItem (!rule.PackageNameRegex.isEmpty) generateVersion 5
    "`package_name_regex` rule item is only supported in version 5 or later"
    (writeRuleItemString ruleItemPackageNameRegex rule.PackageNameRegex)
  let networkType ← gatedItem (!rule.NetworkType.isEmpty) generateVersion 3
    "`network_type` rule item is only supported in version 3 or later"
    (writeRuleItemUint8 ruleItemNetworkType rule.NetworkType)
  let networkIsExpensive ← gatedItem rule.NetworkIsExpensive generateVersion 3
    "`network_is_expensive` rule item is only supported in version 3 or later"
    [ruleItemNetworkIsExpensive]
  let networkIsConstrained ← gatedItem rule.NetworkIsConstrained generateVersion 3
    "`network_is_constrained` rule item is only supported in version 3 or later"
    [ruleItemNetworkIsConstrained]
  let networkInterfaceAddress ← gatedItem rule.hasNetworkInterfaceAddress generateVersion 4
    "`network_interface_address` rule item is only supported in version 4 or later"
    (writeNetworkInterfaceAddress ((rule.NetworkInterfaceAddress).getD []))
  let defaultInterfaceAddress ← gatedItem (!rule.DefaultInterfaceAddress.isEmpty)
    generateVersion 4
    "`default_interface_address` rule item is only supported in version 4 or later"
    (ruleItemDefaultInterfaceAddress :: Uvarint.put rule.DefaultInterfaceAddress.length ++
      (rule.DefaultInterfaceAddress.map writePrefix).flatten)
  let adGuardDomain ← gatedItem (!rule.AdGuardDomain.isEmpty) generateVersion 2
    "AdGuard rule items is only supported in version 2 or later"
    (ruleItemAdGuardDomain :: enc.adGuardMatcher rule.AdGuardDomain)
  pure ([0] ++
    optionalItem (!rule.QueryType.isEmpty) (writeRuleItemUint16 ruleItemQueryType rule.QueryType) ++
    optionalItem (!rule.Network.isEmpty) (writeRuleItemString ruleItemNetwork rule.Network) ++
    optionalItem (!rule.Domain.isEmpty || !rule.DomainSuffix.isEmpty)
      (ruleItemDomain ::
        enc.domainMatcher rule.Domain rule.DomainSuffix (generateVersion == 1)) ++
    optionalItem (!rule.DomainKeyword.isEmpty)
      (writeRuleItemString ruleItemDomainKeyword rule.DomainKeyword) ++
    optionalItem (!rule.DomainRegex.isEmpty)
      (writeRuleItemString ruleItemDomainRegex rule.DomainRegex) ++
    sourceIPCIDR ++ ipCIDR ++
    optionalItem (!rule.SourcePort.isEmpty)
      (writeRuleItemUint16 ruleItemSourcePort rule.SourcePort) ++
    optionalItem (!rule.SourcePortRange.isEmpty)
      (writeRuleItemString ruleItemSourcePortRange rule.SourcePortRange) ++
    optionalItem (!rule.Port.isEmpty) (writeRuleItemUint16 ruleItemPort rule.Port) ++
    optionalItem (!rule.PortRange.isEmpty)
      (writeRuleItemString ruleItemPortRange rule.PortRange) ++
    optionalItem (!rule.ProcessName.isEmpty)
      (writeRuleItemString ruleItemProcessName rule.ProcessName) ++
    optionalItem (!rule.ProcessPath.isEmpty)
      (writeRuleItemString ruleItemProcessPath rule.ProcessPath) ++
    optionalItem (!rule.ProcessPathRegex.isEmpty)
      (writeRuleItemString ruleItemProcessPathRegex rule.ProcessPathRegex) ++
    optionalItem (!rule.PackageName.isEmpty)
      (writeRuleItemString ruleItemPackageName rule.PackageName) ++
    packageNameRegex ++ networkType ++ networkIsExpensive ++ networkIsConstrained ++
    networkInterfaceAddress ++ defaultInterfaceAddress ++
    optionalItem (!rule.WIFISSID.isEmpty) (writeRuleItemString ruleItemWIFISSID rule.WIFISSID) ++
    optionalItem (!rule.WIFIBSSID.isEmpty)
      (writeRuleItemString ruleItemWIFIBSSID rule.WIFIBSSID) ++
    adGuardDomain ++ [ruleItemFinal, writeBool rule.Invert])

def LogicalMode.byte : LogicalMode → UInt8
  | .and => 0
  | .or => 1

mutual

def writeRule : HeadlessRule → UInt8 → Except String (List UInt8)
  | .default rule, generateVersion => writeDefaultRule enc rule generateVersion
  | .logical mode rules invert, generateVersion => do
    let rulesBytes ← writeRules rules generateVersion
    pure ([1, mode.byte] ++ Uvarint.put rules.length ++ rulesBytes ++ [writeBool invert])

def writeRules : List HeadlessRule → UInt8 → Except String (List UInt8)
  | [], _ => pure []
  | rule :: rules, generateVersion => do
    let ruleBytes ← writeRule rule generateVersion
    let rulesBytes ← writeRules rules generateVersion
    pure (ruleBytes ++ rulesBytes)

end

/-- `srs.Write`: the magic bytes and the version, then the rules through zlib. -/
def Write (ruleSet : PlainRuleSet) (generateVersion : UInt8) : Except String (List UInt8) := do
  let rulesBytes ← writeRules enc ruleSet.Rules generateVersion
  pure (MagicBytes ++ [generateVersion] ++
    enc.zlib (Uvarint.put ruleSet.Rules.length ++ rulesBytes))

/-! ### Errors -/

theorem bind_eq_error {α β : Type} {x : Except String α} {f : α → Except String β} {e : String}
    (h : (x >>= f) = .error e) : x = .error e ∨ ∃ a, x = .ok a ∧ f a = .error e := by
  cases x with
  | error e' =>
    simp only [bind, Except.bind] at h
    exact Or.inl (by rw [Except.error.inj h])
  | ok a => exact Or.inr ⟨a, rfl, h⟩

theorem gatedItem_error {present : Bool} {v minVersion : UInt8} {message e : String}
    {bytes : List UInt8} (h : gatedItem present v minVersion message bytes = .error e) :
    e = message := by
  unfold gatedItem at h
  split_ifs at h
  · exact (Except.error.inj h).symm
  all_goals simp [pure, Except.pure] at h

theorem writeRuleItemCIDR_error {field e : String} {itemType : UInt8} {value : List String}
    (h : writeRuleItemCIDR enc field itemType value = .error e) :
    ∃ err, enc.ipSet value = .error err ∧ e = field ++ ": " ++ err := by
  unfold writeRuleItemCIDR at h
  split at h
  · cases h
  · exact ⟨_, by assumption, (Except.error.inj h).symm⟩

/-- Every error of a default rule is a version gate's or names the IP field it parses. -/
theorem writeDefaultRule_error {rule : DefaultHeadlessRule} {v : UInt8} {e : String}
    (h : writeDefaultRule enc rule v = .error e) :
    e ∈ versionGateErrors ∨
      (∃ err, enc.ipSet rule.SourceIPCIDR = .error err ∧ e = "source_ip_cidr" ++ ": " ++ err) ∨
      ∃ err, enc.ipSet rule.IPCIDR = .error err ∧ e = "ipcidr" ++ ": " ++ err := by
  unfold writeDefaultRule at h
  have cidr {field : String} {itemType : UInt8} {value : List String}
      (h : cidrItem enc field itemType value = .error e) :
      ∃ err, enc.ipSet value = .error err ∧ e = field ++ ": " ++ err := by
    unfold cidrItem at h
    split_ifs at h
    · simp [pure, Except.pure] at h
    · exact writeRuleItemCIDR_error enc h
  have gate {present : Bool} {minVersion : UInt8} {message : String} {bytes : List UInt8}
      (hmem : message ∈ versionGateErrors)
      (h : gatedItem present v minVersion message bytes = .error e) : e ∈ versionGateErrors :=
    gatedItem_error h ▸ hmem
  rcases bind_eq_error h with h | ⟨_, -, h⟩
  · exact Or.inr (Or.inl (cidr h))
  rcases bind_eq_error h with h | ⟨_, -, h⟩
  · exact Or.inr (Or.inr (cidr h))
  rcases bind_eq_error h with h | ⟨_, -, h⟩
  · exact Or.inl (gate (by simp [versionGateErrors]) h)
  rcases bind_eq_error h with h | ⟨_, -, h⟩
  · exact Or.inl (gate (by simp [versionGateErrors]) h)
  rcases bind_eq_error h with h | ⟨_, -, h⟩
  · exact Or.inl (gate (by simp [versionGateErrors]) h)
  rcases bind_eq_error h with h | ⟨_, -, h⟩
  · exact Or.inl (gate (by simp [versionGateErrors]) h)
  rcases bind_eq_error h with h | ⟨_, -, h⟩
  · exact Or.inl (gate (by simp [versionGateErrors]) h)
  rcases bind_eq_error h with h | ⟨_, -, h⟩
  · exact Or.inl (gate (by simp [versionGateErrors]) h)
  rcases bind_eq_error h with h | ⟨_, -, h⟩
  · exact Or.inl (gate (by simp [versionGateErrors]) h)
  cases h

/-! ### Where the version reaches the bytes -/

theorem gatedItem_congr {present : Bool} {v v' minVersion : UInt8}
    (h : present = true → (v < minVersion ↔ v' < minVersion)) (message : String)
    (bytes : List UInt8) :
    gatedItem present v minVersion message bytes = gatedItem present v' minVersion message bytes := by
  cases present with
  | false => rfl
  | true => simp [gatedItem, h rfl]

/-- Two versions the writer cannot tell apart on `rules`: the same domain layout, and on
the same side of every gate that an item of the rules meets. -/
structure VersionsAgree (rules : List HeadlessRule) (v v' : UInt8) : Prop where
  legacyDomain : (v == 1) = (v' == 1)
  packageNameRegex : HasHeadlessRule rules DefaultHeadlessRule.usesPackageNameRegex = true →
    (v < 5 ↔ v' < 5)
  interfaceAddress : HasHeadlessRule rules DefaultHeadlessRule.usesInterfaceAddress = true →
    (v < 4 ↔ v' < 4)
  networkType : HasHeadlessRule rules DefaultHeadlessRule.usesNetworkType = true →
    (v < 3 ↔ v' < 3)
  adGuardDomain : HasHeadlessRule rules (fun rule => !rule.AdGuardDomain.isEmpty) = true →
    (v < 2 ↔ v' < 2)

theorem VersionsAgree.mono {rules rules' : List HeadlessRule} {v v' : UInt8}
    (hagree : VersionsAgree rules' v v')
    (hhas : ∀ cond, HasHeadlessRule rules cond = true → HasHeadlessRule rules' cond = true) :
    VersionsAgree rules v v' :=
  ⟨hagree.legacyDomain, fun h => hagree.packageNameRegex (hhas _ h),
    fun h => hagree.interfaceAddress (hhas _ h), fun h => hagree.networkType (hhas _ h),
    fun h => hagree.adGuardDomain (hhas _ h)⟩

theorem VersionsAgree.tail {rule : HeadlessRule} {rules : List HeadlessRule} {v v' : UInt8}
    (hagree : VersionsAgree (rule :: rules) v v') : VersionsAgree rules v v' :=
  hagree.mono fun cond h => by cases rule <;> simp [HasHeadlessRule, h]

theorem VersionsAgree.head {rule : HeadlessRule} {rules : List HeadlessRule} {v v' : UInt8}
    (hagree : VersionsAgree (rule :: rules) v v') : VersionsAgree [rule] v v' :=
  hagree.mono fun cond h => by cases rule <;> simp_all [HasHeadlessRule]

theorem VersionsAgree.logical {mode : LogicalMode} {rules : List HeadlessRule} {invert : Bool}
    {v v' : UInt8} (hagree : VersionsAgree [.logical mode rules invert] v v') :
    VersionsAgree rules v v' :=
  hagree.mono fun cond h => by simp [HasHeadlessRule, h]

theorem writeDefaultRule_congr (rule : DefaultHeadlessRule) {v v' : UInt8}
    (hagree : VersionsAgree [.default rule] v v') :
    writeDefaultRule enc rule v = writeDefaultRule enc rule v' := by
  have has {cond : DefaultHeadlessRule → Bool} (h : cond rule = true) :
      HasHeadlessRule [.default rule] cond = true := by
    simp [HasHeadlessRule, h]
  have hpackage : (!rule.PackageNameRegex.isEmpty) = true → (v < 5 ↔ v' < 5) :=
    fun h => hagree.packageNameRegex (has h)
  have hnetworkType : (!rule.NetworkType.isEmpty) = true → (v < 3 ↔ v' < 3) :=
    fun h => hagree.networkType (has (by simp [DefaultHeadlessRule.usesNetworkType, h]))
  have hexpensive : rule.NetworkIsExpensive = true → (v < 3 ↔ v' < 3) :=
    fun h => hagree.networkType (has (by simp [DefaultHeadlessRule.usesNetworkType, h]))
  have hconstrained : rule.NetworkIsConstrained = true → (v < 3 ↔ v' < 3) :=
    fun h => hagree.networkType (has (by simp [DefaultHeadlessRule.usesNetworkType, h]))
  have hnetworkInterface : rule.hasNetworkInterfaceAddress = true → (v < 4 ↔ v' < 4) :=
    fun h => hagree.interfaceAddress (has (by simp [DefaultHeadlessRule.usesInterfaceAddress, h]))
  have hdefaultInterface : (!rule.DefaultInterfaceAddress.isEmpty) = true → (v < 4 ↔ v' < 4) :=
    fun h => hagree.interfaceAddress (has (by simp [DefaultHeadlessRule.usesInterfaceAddress, h]))
  have hadGuard : (!rule.AdGuardDomain.isEmpty) = true → (v < 2 ↔ v' < 2) :=
    fun h => hagree.adGuardDomain (has h)
  unfold writeDefaultRule
  rw [gatedItem_congr hpackage, gatedItem_congr hnetworkType, gatedItem_congr hexpensive,
    gatedItem_congr hconstrained, gatedItem_congr hnetworkInterface,
    gatedItem_congr hdefaultInterface, gatedItem_congr hadGuard, hagree.legacyDomain]

mutual

theorem writeRule_congr : ∀ (rule : HeadlessRule) {v v' : UInt8},
    VersionsAgree [rule] v v' → writeRule enc rule v = writeRule enc rule v'
  | .default rule, _, _, hagree => writeDefaultRule_congr enc rule hagree
  | .logical mode rules invert, _, _, hagree => by
    simp only [writeRule, writeRules_congr rules hagree.logical]

theorem writeRules_congr : ∀ (rules : List HeadlessRule) {v v' : UInt8},
    VersionsAgree rules v v' → writeRules enc rules v = writeRules enc rules v'
  | [], _, _, _ => rfl
  | rule :: rules, _, _, hagree => by
    simp only [writeRules, writeRule_congr rule hagree.head, writeRules_congr rules hagree.tail]

end

theorem downgradeRuleSetVersion_agree (rules : List HeadlessRule) (version : UInt8) :
    VersionsAgree rules (downgradeRuleSetVersion version ⟨rules⟩) version := by
  unfold downgradeRuleSetVersion
  dsimp only
  split_ifs with h₅ h₄ h₃ <;> constructor <;> simp_all

theorem downgradeRuleSetVersion_le (version : UInt8) (options : PlainRuleSet) :
    downgradeRuleSetVersion version options ≤ version := by
  unfold downgradeRuleSetVersion
  dsimp only
  split_ifs <;> simp_all

theorem writeRules_downgrade (rules : List HeadlessRule) (version : UInt8) :
    writeRules enc rules (downgradeRuleSetVersion version ⟨rules⟩) =
      writeRules enc rules version :=
  writeRules_congr enc rules (downgradeRuleSetVersion_agree rules version)

theorem Write_eq (ruleSet : PlainRuleSet) (generateVersion : UInt8) :
    Write enc ruleSet generateVersion =
      (writeRules enc ruleSet.Rules generateVersion).map fun rulesBytes =>
        MagicBytes ++ [generateVersion] ++ enc.zlib (Uvarint.put ruleSet.Rules.length ++ rulesBytes) := by
  simp only [Write]
  cases writeRules enc ruleSet.Rules generateVersion <;> rfl

/-- Compiling at the downgraded version: the version is no higher, it fails with a gate
error exactly when the requested version does, and it writes the same bytes but for the
version byte. -/
theorem downgradeRuleSetVersion_Write (ruleSet : PlainRuleSet) (version : UInt8) :
    downgradeRuleSetVersion version ruleSet ≤ version ∧
      ((∃ e ∈ versionGateErrors,
          Write enc ruleSet (downgradeRuleSetVersion version ruleSet) = .error e) ↔
        ∃ e ∈ versionGateErrors, Write enc ruleSet version = .error e) ∧
      ∀ bytes, Write enc ruleSet version = .ok bytes →
        Write enc ruleSet (downgradeRuleSetVersion version ruleSet) =
          .ok (bytes.set 3 (downgradeRuleSetVersion version ruleSet)) := by
  obtain ⟨rules⟩ := ruleSet
  have hrules := writeRules_downgrade enc rules version
  refine ⟨downgradeRuleSetVersion_le version _, ?_, ?_⟩
  · simp only [Write_eq, hrules]
    cases writeRules enc rules version <;> simp [Except.map]
  · intro bytes hbytes
    rw [Write_eq] at hbytes ⊢
    rw [hrules]
    cases hwrite : writeRules enc rules version with
    | error e => simp [hwrite, Except.map] at hbytes
    | ok rulesBytes =>
      simp only [hwrite, Except.map, Except.ok.injEq] at hbytes ⊢
      subst hbytes
      simp [MagicBytes]

end Writer

end RuleSetCompile

end SingBox
