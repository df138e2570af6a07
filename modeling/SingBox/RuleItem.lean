import SingBox.MatchState

/-!
# Inbound context and rule items

`adapter/inbound.go` and `route/rule/rule_item_*.go`. The context keeps the fields
that the rule engine itself writes (the rule cache and the flags a rule-set item or a
DNS match sets) as named fields; the rest of the connection is the parameter `σ`.
Addresses are the parameter `α`.

Items are modelled by their kind. The address items read the engine's flags and the
DNS response, exactly as their `Match` methods do; every other item reads only the
connection, so it is `plain` with its predicate on `σ`. The third-party predicates
(`netipx.IPSet.Contains`, `N.IsPublicAddr`, the record matchers of `miekg/dns`)
are carried by the item as functions.
-/

namespace SingBox

variable {σ α : Type}

/-- The part of a `dns.Msg` that rule items read: the rcode and the addresses of
its A and AAAA answers. -/
structure DNSMessage (α : Type) where
  rcode : Nat
  answerAddresses : List α

def dnsRcodeSuccess : Nat := 0

/-- `adapter.DNSResponseAddresses`. -/
def dnsResponseAddresses : Option (DNSMessage α) → List α
  | some response => if response.rcode = dnsRcodeSuccess then response.answerAddresses else []
  | none => []

/-- `adapter.InboundContext`. `destination` is `Destination.Addr` when it is a valid
address. -/
structure InboundContext (σ α : Type) where
  conn : σ
  source : α
  destination : Option α
  destinationAddresses : List α
  dnsResponse : Option (DNSMessage α)
  destinationAddressMatchFromResponse : Bool
  ipcidrMatchSource : Bool
  ipcidrAcceptEmpty : Bool
  sourceAddressMatch : Bool
  sourcePortMatch : Bool
  destinationAddressMatch : Bool
  destinationPortMatch : Bool
  didMatch : Bool
  ignoreDestinationIPCIDRMatch : Bool

namespace InboundContext

def resetRuleMatchCache (m : InboundContext σ α) : InboundContext σ α :=
  { m with
    sourceAddressMatch := false
    sourcePortMatch := false
    destinationAddressMatch := false
    destinationPortMatch := false
    didMatch := false }

def resetRuleCache (m : InboundContext σ α) : InboundContext σ α :=
  { m with ipcidrMatchSource := false, ipcidrAcceptEmpty := false }.resetRuleMatchCache

end InboundContext

/-- Two contexts agree on every field a rule item reads. -/
structure ItemAgree (m m' : InboundContext σ α) : Prop where
  conn : m.conn = m'.conn
  source : m.source = m'.source
  destination : m.destination = m'.destination
  destinationAddresses : m.destinationAddresses = m'.destinationAddresses
  dnsResponse : m.dnsResponse = m'.dnsResponse
  destinationAddressMatchFromResponse :
    m.destinationAddressMatchFromResponse = m'.destinationAddressMatchFromResponse
  ipcidrMatchSource : m.ipcidrMatchSource = m'.ipcidrMatchSource
  ipcidrAcceptEmpty : m.ipcidrAcceptEmpty = m'.ipcidrAcceptEmpty

theorem ItemAgree.refl (m : InboundContext σ α) : ItemAgree m m :=
  ⟨rfl, rfl, rfl, rfl, rfl, rfl, rfl, rfl⟩

theorem ItemAgree.resetRuleMatchCache (m : InboundContext σ α) :
    ItemAgree m.resetRuleMatchCache m :=
  ⟨rfl, rfl, rfl, rfl, rfl, rfl, rfl, rfl⟩

/-- A rule item, by the kind of its `Match` method. -/
inductive RuleItem (σ α : Type) where
  /-- An item that reads only connection fields: inbound, network, domain, ports,
  process, user, network state, ... -/
  | plain (f : σ → Bool)
  /-- `IPCIDRItem`, with the predicate of its `netipx.IPSet`. -/
  | ipcidr (isSource : Bool) (ipSet : α → Bool)
  /-- `IPIsPrivateItem`, with `N.IsPublicAddr`. -/
  | ipIsPrivate (isSource : Bool) (isPublicAddr : α → Bool)
  /-- `IPAcceptAnyItem`. -/
  | ipAcceptAny
  /-- `DNSResponseRCodeItem`. -/
  | responseRcode (rcode : Nat)
  /-- `DNSResponseRecordItem`, with its selector and record matchers. -/
  | responseRecord (matchRecords : DNSMessage α → Bool)

namespace RuleItem

def Match : RuleItem σ α → InboundContext σ α → Bool
  | plain f, m => f m.conn
  | ipcidr isSource ipSet, m =>
    if isSource || m.ipcidrMatchSource then ipSet m.source
    else if m.destinationAddressMatchFromResponse then
      let addresses := dnsResponseAddresses m.dnsResponse
      if addresses.isEmpty then m.ipcidrAcceptEmpty else addresses.any ipSet
    else
      match m.destination with
      | some address => ipSet address
      | none =>
        if !m.destinationAddresses.isEmpty then m.destinationAddresses.any ipSet
        else m.ipcidrAcceptEmpty
  | ipIsPrivate isSource isPublicAddr, m =>
    if isSource then !isPublicAddr m.source
    else if m.destinationAddressMatchFromResponse then
      (dnsResponseAddresses m.dnsResponse).any (fun address => !isPublicAddr address)
    else
      match m.destination with
      | some address => !isPublicAddr address
      | none => m.destinationAddresses.any (fun address => !isPublicAddr address)
  | ipAcceptAny, m =>
    if m.destinationAddressMatchFromResponse then !(dnsResponseAddresses m.dnsResponse).isEmpty
    else !m.destinationAddresses.isEmpty
  | responseRcode rcode, m =>
    match m.dnsResponse with
    | some response => response.rcode == rcode
    | none => false
  | responseRecord matchRecords, m =>
    match m.dnsResponse with
    | some response => matchRecords response
    | none => false

theorem Match_congr (item : RuleItem σ α) {m m' : InboundContext σ α} (h : ItemAgree m m') :
    item.Match m = item.Match m' := by
  obtain ⟨hconn, hsource, hdest, haddrs, hresp, hfrom, hsrc, hempty⟩ := h
  cases item <;> simp only [Match, hconn, hsource, hdest, haddrs, hresp, hfrom, hsrc, hempty]

/-- The item reads the DNS response: a `response_*` item of a DNS rule. -/
def readsResponse : RuleItem σ α → Bool
  | responseRcode _ => true
  | responseRecord _ => true
  | _ => false

end RuleItem

def matchAnyItem (items : List (RuleItem σ α)) (m : InboundContext σ α) : Bool :=
  items.any (fun item => item.Match m)

theorem matchAnyItem_nonempty (items : List (RuleItem σ α)) (m : InboundContext σ α) :
    (!items.isEmpty && matchAnyItem items m) = matchAnyItem items m := by
  cases items <;> simp [matchAnyItem]

theorem matchAnyItem_congr (items : List (RuleItem σ α)) {m m' : InboundContext σ α}
    (h : ItemAgree m m') : matchAnyItem items m = matchAnyItem items m' := by
  simp only [matchAnyItem, RuleItem.Match_congr _ h]

theorem matchAnyItem_append (items items' : List (RuleItem σ α)) (m : InboundContext σ α) :
    matchAnyItem (items ++ items') m = (matchAnyItem items m || matchAnyItem items' m) := by
  simp [matchAnyItem]

end SingBox
