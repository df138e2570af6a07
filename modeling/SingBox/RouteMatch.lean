import SingBox.Rule
import SingBox.DNSMessage
import SingBox.Sniff
import SingBox.TLSSpoofPacket

/-!
# Routing a connection: the rule loop

`matchRule` of `route/route.go`. It first fills in the metadata from the FakeIP store or from
the reverse mapping of the DNS router and sets the IP version; then it tries the rules in
order, each on the metadata as the rules before it left it, with the rule cache reset. A
matched rule's route options are written into the metadata; a `sniff` rule sniffs the
connection (in pre-match it is selected instead, unless the network is ICMP), a `resolve` rule
resolves the destination; the first matched `route`, `reject`, `hijack-dns` or `bypass` rule
ends the loop, but a `bypass` rule without an outbound only where bypass is supported.

The metadata is the rule engine's context whose connection part (`RouteConn`) holds the
fields `matchRule` and its actions write, so that the rules read them there. What the
sniffers read off the connection, the DNS lookup of `resolve`, the FakeIP store and the
reverse mapping are parameters of the router.
-/

namespace SingBox

variable {σ α B P : Type}

def NetworkICMP : String := "icmp"

inductive InterfaceType where
  | InterfaceTypeWIFI
  | InterfaceTypeCellular
  | InterfaceTypeEthernet
  | InterfaceTypeOther
  deriving DecidableEq, Repr

inductive NetworkStrategy where
  | NetworkStrategyDefault
  | NetworkStrategyFallback
  | NetworkStrategyHybrid
  deriving DecidableEq, Repr

/-- `M.Socksaddr`; `Addr` is the address when it is a valid one. -/
structure Socksaddr (α : Type) where
  Addr : Option α
  Port : Nat
  Fqdn : String
  deriving DecidableEq, Repr

def Socksaddr.IsValid (s : Socksaddr α) : Bool := s.Addr.isSome || s.Fqdn != ""

def Socksaddr.IsDomain (s : Socksaddr α) : Bool := s.Fqdn != ""

/-- The fields of `adapter.InboundContext` that `matchRule` and its actions write, and the rest
of the connection, `rest`. The destination is the context's `destination` with
`DestinationPort` and `DestinationFqdn`. -/
structure RouteConn (σ α : Type) where
  IPVersion : Nat
  Network : String
  DestinationPort : Nat
  DestinationFqdn : String
  Protocol : String
  Domain : String
  SnifferNames : List String
  SniffError : Option (List SniffError)
  OriginDestination : Socksaddr α
  RouteOriginalDestination : Socksaddr α
  UDPDisableDomainUnmapping : Bool
  UDPConnect : Bool
  UDPTimeout : Int
  TLSFragment : Bool
  TLSFragmentFallbackDelay : Int
  TLSRecordFragment : Bool
  TLSSpoof : String
  TLSSpoofMethod : SingBox.TLSSpoof.Method
  NetworkStrategy : Option NetworkStrategy
  NetworkType : List InterfaceType
  FallbackNetworkType : List InterfaceType
  FallbackDelay : Int
  FakeIP : Bool
  rest : σ

/-- The metadata `matchRule` works on. -/
abbrev RouteMetadata (σ α : Type) := InboundContext (RouteConn σ α) α

def InboundContext.Destination (m : RouteMetadata σ α) : Socksaddr α :=
  ⟨m.destination, m.conn.DestinationPort, m.conn.DestinationFqdn⟩

def InboundContext.setDestination (m : RouteMetadata σ α) (destination : Socksaddr α) :
    RouteMetadata σ α :=
  { m with
    destination := destination.Addr
    conn := { m.conn with DestinationPort := destination.Port, DestinationFqdn := destination.Fqdn } }

/-- `RuleActionRouteOptions`; durations are `time.Duration`, an `int64`. -/
structure RuleActionRouteOptions (α : Type) where
  OverrideAddress : Socksaddr α
  OverridePort : Nat
  NetworkStrategy : Option NetworkStrategy
  NetworkType : List InterfaceType
  FallbackNetworkType : List InterfaceType
  FallbackDelay : Int
  UDPDisableDomainUnmapping : Bool
  UDPConnect : Bool
  UDPTimeout : Int
  TLSFragment : Bool
  TLSFragmentFallbackDelay : Int
  TLSRecordFragment : Bool
  TLSSpoof : String
  TLSSpoofMethod : SingBox.TLSSpoof.Method

/-- `RuleActionSniff`, by what `actionSniff` passes on. -/
structure RuleActionSniff where
  SnifferNames : List String
  Timeout : Int

structure RuleActionResolve where
  Server : String
  Strategy : DomainStrategy
  DisableCache : Bool
  DisableOptimisticCache : Bool
  RewriteTTL : Option Nat
  ClientSubnet : Option Prefix

/-- The actions of a route rule: `RuleActionRoute`, `RuleActionRouteOptions`,
`RuleActionDirect`, `RuleActionBypass`, `RuleActionReject`, `RuleActionHijackDNS`,
`RuleActionSniff` and `RuleActionResolve`. -/
inductive RuleAction (α : Type) where
  | route (Outbound : String) (options : RuleActionRouteOptions α)
  | routeOptions (options : RuleActionRouteOptions α)
  | direct
  | bypass (Outbound : String) (options : RuleActionRouteOptions α)
  | reject (Method : String) (NoDrop : Bool)
  | hijackDNS
  | sniff (action : RuleActionSniff)
  | resolve (action : RuleActionResolve)

/-- The route options `matchRule` writes for an action: those of `route` and `route-options`,
and those of `bypass` when it has an outbound. -/
def RuleAction.routeOptions? : RuleAction α → Option (RuleActionRouteOptions α)
  | .route _ options => some options
  | .routeOptions options => some options
  | .bypass outbound options => if outbound != "" then some options else none
  | _ => none

structure RouteRule (σ α : Type) where
  rule : Rule (RouteConn σ α) α
  action : RuleAction α

/-- The first statement of the route-options block of `matchRule`: the destination is recorded
as the original one before the first override. -/
def RuleActionRouteOptions.recordOriginalDestination (routeOptions : RuleActionRouteOptions α)
    (m : RouteMetadata σ α) : RouteMetadata σ α :=
  if (routeOptions.OverrideAddress.IsValid || routeOptions.OverridePort > 0) &&
      !m.conn.RouteOriginalDestination.IsValid then
    { m with conn := { m.conn with RouteOriginalDestination := m.Destination } }
  else m

def RuleActionRouteOptions.overrideAddress (routeOptions : RuleActionRouteOptions α)
    (m : RouteMetadata σ α) : RouteMetadata σ α :=
  if routeOptions.OverrideAddress.IsValid then
    { m.setDestination ⟨routeOptions.OverrideAddress.Addr, m.Destination.Port,
        routeOptions.OverrideAddress.Fqdn⟩ with destinationAddresses := [] }
  else m

def RuleActionRouteOptions.overridePort (routeOptions : RuleActionRouteOptions α)
    (m : RouteMetadata σ α) : RouteMetadata σ α :=
  if routeOptions.OverridePort > 0 then
    m.setDestination ⟨m.Destination.Addr, routeOptions.OverridePort, m.Destination.Fqdn⟩
  else m

/-- The destination part of the route-options block of `matchRule`. -/
def RuleActionRouteOptions.overrideDestination (routeOptions : RuleActionRouteOptions α)
    (m : RouteMetadata σ α) : RouteMetadata σ α :=
  routeOptions.overridePort (routeOptions.overrideAddress (routeOptions.recordOriginalDestination m))

/-- The rest of the route-options block: each statement writes its own fields. -/
def RuleActionRouteOptions.writeOptions (routeOptions : RuleActionRouteOptions α)
    (c : RouteConn σ α) : RouteConn σ α :=
  { c with
    NetworkStrategy :=
      if routeOptions.NetworkStrategy.isSome then routeOptions.NetworkStrategy else c.NetworkStrategy
    NetworkType := if !routeOptions.NetworkType.isEmpty then routeOptions.NetworkType else c.NetworkType
    FallbackNetworkType :=
      if !routeOptions.FallbackNetworkType.isEmpty then routeOptions.FallbackNetworkType
      else c.FallbackNetworkType
    FallbackDelay := if routeOptions.FallbackDelay ≠ 0 then routeOptions.FallbackDelay else c.FallbackDelay
    UDPDisableDomainUnmapping :=
      if routeOptions.UDPDisableDomainUnmapping then true else c.UDPDisableDomainUnmapping
    UDPConnect := if routeOptions.UDPConnect then true else c.UDPConnect
    UDPTimeout := if routeOptions.UDPTimeout > 0 then routeOptions.UDPTimeout else c.UDPTimeout
    TLSFragment := if routeOptions.TLSFragment then true else c.TLSFragment
    TLSFragmentFallbackDelay :=
      if routeOptions.TLSFragment then routeOptions.TLSFragmentFallbackDelay
      else c.TLSFragmentFallbackDelay
    TLSRecordFragment := if routeOptions.TLSRecordFragment then true else c.TLSRecordFragment
    TLSSpoof := if routeOptions.TLSSpoof != "" then routeOptions.TLSSpoof else c.TLSSpoof
    TLSSpoofMethod :=
      if routeOptions.TLSSpoof != "" then routeOptions.TLSSpoofMethod else c.TLSSpoofMethod }

/-- The route-options block of `matchRule`. -/
def RuleActionRouteOptions.apply (routeOptions : RuleActionRouteOptions α)
    (m : RouteMetadata σ α) : RouteMetadata σ α :=
  let m := routeOptions.overrideDestination m
  { m with conn := routeOptions.writeOptions m.conn }

/-- The metadata after the route options of `action`, if it has any. -/
def RuleAction.applyRouteOptions (action : RuleAction α) (m : RouteMetadata σ α) :
    RouteMetadata σ α :=
  match action.routeOptions? with
  | some options => options.apply m
  | none => m

/-- `sniff.Skip`: the ports of protocols where the server speaks first. -/
def Sniff.Skip (m : RouteMetadata σ α) : Bool :=
  m.conn.DestinationPort ∈ [25, 465, 587, 143, 993, 110, 995]

/-- What routing never undoes: a switch that route options turn on, and an original destination
once recorded. -/
structure Keeps (m m' : RouteMetadata σ α) : Prop where
  UDPDisableDomainUnmapping :
    m.conn.UDPDisableDomainUnmapping = true → m'.conn.UDPDisableDomainUnmapping = true
  UDPConnect : m.conn.UDPConnect = true → m'.conn.UDPConnect = true
  TLSFragment : m.conn.TLSFragment = true → m'.conn.TLSFragment = true
  TLSRecordFragment : m.conn.TLSRecordFragment = true → m'.conn.TLSRecordFragment = true
  RouteOriginalDestination : m.conn.RouteOriginalDestination.IsValid = true →
    m'.conn.RouteOriginalDestination = m.conn.RouteOriginalDestination

namespace Keeps

variable {m m' m'' : RouteMetadata σ α}

theorem refl (m : RouteMetadata σ α) : Keeps m m := ⟨id, id, id, id, fun _ => rfl⟩

theorem trans (h₁ : Keeps m m') (h₂ : Keeps m' m'') : Keeps m m'' where
  UDPDisableDomainUnmapping h := h₂.UDPDisableDomainUnmapping (h₁.UDPDisableDomainUnmapping h)
  UDPConnect h := h₂.UDPConnect (h₁.UDPConnect h)
  TLSFragment h := h₂.TLSFragment (h₁.TLSFragment h)
  TLSRecordFragment h := h₂.TLSRecordFragment (h₁.TLSRecordFragment h)
  RouteOriginalDestination h := by
    have e := h₁.RouteOriginalDestination h
    rw [h₂.RouteOriginalDestination (e ▸ h), e]

theorem of_conn (hdomain : m'.conn.UDPDisableDomainUnmapping = m.conn.UDPDisableDomainUnmapping)
    (hconnect : m'.conn.UDPConnect = m.conn.UDPConnect)
    (hfragment : m'.conn.TLSFragment = m.conn.TLSFragment)
    (hrecord : m'.conn.TLSRecordFragment = m.conn.TLSRecordFragment)
    (horiginal : m.conn.RouteOriginalDestination.IsValid = true →
      m'.conn.RouteOriginalDestination = m.conn.RouteOriginalDestination) : Keeps m m' where
  UDPDisableDomainUnmapping h := hdomain.trans h
  UDPConnect h := hconnect.trans h
  TLSFragment h := hfragment.trans h
  TLSRecordFragment h := hrecord.trans h
  RouteOriginalDestination := horiginal

theorem recordOriginalDestination (routeOptions : RuleActionRouteOptions α)
    (m : RouteMetadata σ α) : Keeps m (routeOptions.recordOriginalDestination m) := by
  unfold RuleActionRouteOptions.recordOriginalDestination
  split_ifs with hrecord
  · exact of_conn rfl rfl rfl rfl fun hvalid => by simp [hvalid] at hrecord
  · exact refl m

theorem overrideDestination (routeOptions : RuleActionRouteOptions α) (m : RouteMetadata σ α) :
    Keeps m (routeOptions.overrideDestination m) := by
  have haddress : ∀ m : RouteMetadata σ α, Keeps m (routeOptions.overrideAddress m) := fun m => by
    unfold RuleActionRouteOptions.overrideAddress
    split_ifs
    · exact of_conn rfl rfl rfl rfl fun _ => rfl
    · exact refl m
  have hport : ∀ m : RouteMetadata σ α, Keeps m (routeOptions.overridePort m) := fun m => by
    unfold RuleActionRouteOptions.overridePort
    split_ifs
    · exact of_conn rfl rfl rfl rfl fun _ => rfl
    · exact refl m
  exact ((recordOriginalDestination routeOptions m).trans (haddress _)).trans (hport _)

theorem apply (routeOptions : RuleActionRouteOptions α) (m : RouteMetadata σ α) :
    Keeps m (routeOptions.apply m) := by
  refine (overrideDestination routeOptions m).trans ⟨?_, ?_, ?_, ?_, fun _ => rfl⟩ <;>
    intro h <;> simp [RuleActionRouteOptions.apply, RuleActionRouteOptions.writeOptions, h]

theorem applyRouteOptions (action : RuleAction α) (m : RouteMetadata σ α) :
    Keeps m (action.applyRouteOptions m) := by
  unfold RuleAction.applyRouteOptions
  split
  · exact apply _ m
  · exact refl m

end Keeps

/-- What `matchRule` returns, with the metadata it leaves. -/
structure MatchResult (σ α B P : Type) where
  selectedRule : Option (RouteRule σ α)
  selectedRuleIndex : Nat
  buffers : List B
  packetBuffers : List P
  fatalErr : Option String
  metadata : RouteMetadata σ α

def RuleAction.isSniff : RuleAction α → Bool
  | .sniff _ => true
  | _ => false

/-- The actions whose rule a turn of the loop selects, ending it. -/
def RuleAction.Selectable (preMatch supportBypass : Bool) : RuleAction α → Bool
  | .route .. | .reject .. | .hijackDNS => true
  | .bypass outbound _ => supportBypass || outbound != ""
  | .sniff _ => preMatch
  | .routeOptions _ | .direct | .resolve _ => false

/-- A turn of the rule loop: the state the next turn starts from, or what the loop returns. -/
inductive LoopStep (σ α B P : Type) where
  | next (metadata : RouteMetadata σ α) (buffers : List B) (packetBuffers : List P)
  | stop (result : MatchResult σ α B P)

/-- The metadata a turn leaves. -/
def LoopStep.metadata : LoopStep σ α B P → RouteMetadata σ α
  | .next m _ _ => m
  | .stop result => result.metadata

namespace Route

/-- The route router, by what `matchRule` uses of it. `FakeIPLookup` is the FakeIP store's
answer for an address: `none` when there is no FakeIP server or it does not contain the
address, `some none` when it has no record. `sniff` is `actionSniff` past its first two
checks, with the data it read and the error that stops the routing. -/
structure Router (σ α B P : Type) where
  rules : List (RouteRule σ α)
  FakeIPLookup : α → Option (Option String)
  LookupReverseMapping : α → Option String
  Is4 : α → Bool
  Is6 : α → Bool
  sniff : RuleActionSniff → RouteMetadata σ α → List B → List P →
    RouteMetadata σ α × Option B × List P × Option String
  Transport : String → Option (DNSTransport α)
  Lookup : String → DNSQueryOptions α → Except String (List α)

namespace Router

variable (r : Router σ α B P)

/-- The destination from the FakeIP store, or the domain from the reverse mapping. -/
def lookupDomain (m : RouteMetadata σ α) : Except String (RouteMetadata σ α) :=
  match m.destination.bind r.FakeIPLookup with
  | some none => .error "missing fakeip record, try enable `experimental.cache_file`"
  | some (some domain) =>
    if domain != "" then
      let m' := { m with conn := { m.conn with OriginDestination := m.Destination, FakeIP := true } }
      .ok (m'.setDestination ⟨none, m.Destination.Port, domain⟩)
    else .ok m
  | none =>
    if m.conn.Domain = "" then
      match m.destination.bind r.LookupReverseMapping with
      | some domain => .ok { m with conn := { m.conn with Domain := domain } }
      | none => .ok m
    else .ok m

def setIPVersion (m : RouteMetadata σ α) : RouteMetadata σ α :=
  if (m.destination.map r.Is4).getD false then { m with conn := { m.conn with IPVersion := 4 } }
  else if (m.destination.map r.Is6).getD false then { m with conn := { m.conn with IPVersion := 6 } }
  else m

/-- What `matchRule` does before the rules. -/
def prepare (m : RouteMetadata σ α) : Except String (RouteMetadata σ α) :=
  match r.lookupDomain m with
  | .error err => .error err
  | .ok m => .ok (r.setIPVersion m)

/-- `actionSniff`: a port where the server speaks first, or a protocol already sniffed, skips
it. -/
def actionSniff (action : RuleActionSniff) (m : RouteMetadata σ α) (buffers : List B)
    (packetBuffers : List P) : RouteMetadata σ α × Option B × List P × Option String :=
  if Sniff.Skip m then (m, none, [], none)
  else if m.conn.Protocol != "" then (m, none, [], none)
  else r.sniff action m buffers packetBuffers

/-- The transport `actionResolve` looks up with: the named server, or the default. -/
def resolveTransport (action : RuleActionResolve) : Except String (Option (DNSTransport α)) :=
  if action.Server != "" then
    match r.Transport action.Server with
    | some transport => .ok (some transport)
    | none => .error ("DNS server not found: " ++ action.Server)
  else .ok none

def actionResolve (action : RuleActionResolve) (m : RouteMetadata σ α) :
    Except String (RouteMetadata σ α) :=
  if m.Destination.IsDomain then
    match r.resolveTransport action with
    | .error err => .error err
    | .ok transport =>
      match r.Lookup m.Destination.Fqdn
          ⟨transport, action.Strategy, .asIS, action.DisableCache, action.DisableOptimisticCache,
            action.RewriteTTL, action.ClientSubnet⟩ with
      | .error err => .error err
      | .ok addresses => .ok { m with destinationAddresses := addresses }
  else .ok m

/-- The buffers after a sniff: its buffer if it read one, else its packets. -/
def collectBuffers (buffers : List B) (packetBuffers : List P) (newBuffer : Option B)
    (newPacketBuffers : List P) : List B × List P :=
  match newBuffer with
  | some buffer => (buffers ++ [buffer], packetBuffers)
  | none =>
    if !newPacketBuffers.isEmpty then (buffers, packetBuffers ++ newPacketBuffers)
    else (buffers, packetBuffers)

/-- One turn of the loop of `matchRule`: go on with the next rule (`continue`, or the end of
the turn), or return (`break match`, or a `return` on a fatal error). -/
def matchStep (preMatch supportBypass : Bool) (currentRuleIndex : Nat)
    (currentRule : RouteRule σ α) (m : RouteMetadata σ α) (buffers : List B)
    (packetBuffers : List P) : LoopStep σ α B P :=
  let m := m.resetRuleCache
  if !currentRule.rule.Match m then .next m buffers packetBuffers
  else
    let m := currentRule.action.applyRouteOptions m
    let selected : LoopStep σ α B P :=
      .stop ⟨some currentRule, currentRuleIndex, buffers, packetBuffers, none, m⟩
    match currentRule.action with
    | .sniff action =>
      if !preMatch then
        let (m, newBuffer, newPacketBuffers, newErr) := r.actionSniff action m buffers packetBuffers
        let (buffers, packetBuffers) := collectBuffers buffers packetBuffers newBuffer newPacketBuffers
        match newErr with
        | some err => .stop ⟨none, 0, buffers, packetBuffers, some err, m⟩
        | none => .next m buffers packetBuffers
      else if m.conn.Network != NetworkICMP then selected
      else .next m buffers packetBuffers
    | .resolve action =>
      match r.actionResolve action m with
      | .error err => .stop ⟨none, 0, buffers, packetBuffers, some err, m⟩
      | .ok m => .next m buffers packetBuffers
    | .route .. | .reject .. | .hijackDNS => selected
    | .bypass outbound _ =>
      if !supportBypass && outbound == "" then .next m buffers packetBuffers else selected
    | .routeOptions _ | .direct => .next m buffers packetBuffers

/-- The loop of `matchRule` from the rule numbered `currentRuleIndex`. -/
def matchRules (preMatch supportBypass : Bool) :
    Nat → List (RouteRule σ α) → RouteMetadata σ α → List B → List P → MatchResult σ α B P
  | _, [], m, buffers, packetBuffers => ⟨none, 0, buffers, packetBuffers, none, m⟩
  | currentRuleIndex, currentRule :: rules, m, buffers, packetBuffers =>
    match r.matchStep preMatch supportBypass currentRuleIndex currentRule m buffers packetBuffers with
    | .next m buffers packetBuffers =>
      matchRules preMatch supportBypass (currentRuleIndex + 1) rules m buffers packetBuffers
    | .stop result => result

def matchRule (m : RouteMetadata σ α) (preMatch supportBypass : Bool) : MatchResult σ α B P :=
  match r.prepare m with
  | .error err => ⟨none, 0, [], [], some err, m⟩
  | .ok m => r.matchRules preMatch supportBypass 0 r.rules m [] []

/-! ## What the loop selects -/

variable {preMatch supportBypass : Bool} {m : RouteMetadata σ α} {buffers : List B}
  {packetBuffers : List P}

/-- A turn that ends the loop either selects its own rule, whose action is one that can be
selected, or stops on a fatal error with no rule. -/
theorem matchStep_stop {i : Nat} {rule : RouteRule σ α} {result : MatchResult σ α B P}
    (h : r.matchStep preMatch supportBypass i rule m buffers packetBuffers = .stop result) :
    (result.selectedRule = some rule ∧ result.selectedRuleIndex = i ∧
      rule.action.Selectable preMatch supportBypass = true) ∨
    (result.selectedRule = none ∧ result.fatalErr.isSome) := by
  simp only [matchStep] at h
  split at h
  · cases h
  rcases hact : rule.action with _ | _ | _ | ⟨outbound, _⟩ | _ | _ | action | action <;>
    simp only [hact] at h
  · cases h
    exact .inl ⟨rfl, rfl, by simp [RuleAction.Selectable]⟩
  · cases h
  · cases h
  · split at h
    · cases h
    next hbypass =>
      cases h
      refine .inl ⟨rfl, rfl, ?_⟩
      cases supportBypass <;> simp_all [RuleAction.Selectable]
  · cases h
    exact .inl ⟨rfl, rfl, by simp [RuleAction.Selectable]⟩
  · cases h
    exact .inl ⟨rfl, rfl, by simp [RuleAction.Selectable]⟩
  · split at h
    · split at h
      · cases h
        exact .inr ⟨rfl, rfl⟩
      · cases h
    · split at h
      · cases h
        refine .inl ⟨rfl, rfl, ?_⟩
        simpa [RuleAction.Selectable] using ‹¬(!preMatch) = true›
      · cases h
  · split at h
    · cases h
      exact .inr ⟨rfl, rfl⟩
    · cases h

/-- The rule the loop selects is one of its rules, at the index it reports, with an action that
can be selected. -/
theorem matchRules_selectedRule {i : Nat} {rules : List (RouteRule σ α)} {rule : RouteRule σ α}
    (h : (r.matchRules preMatch supportBypass i rules m buffers packetBuffers).selectedRule =
      some rule) :
    let index := (r.matchRules preMatch supportBypass i rules m buffers packetBuffers).selectedRuleIndex
    i ≤ index ∧ rules[index - i]? = some rule ∧ rule.action.Selectable preMatch supportBypass = true := by
  induction rules generalizing i m buffers packetBuffers with
  | nil => simp [matchRules] at h
  | cons current rules ih =>
    rcases hstep : r.matchStep preMatch supportBypass i current m buffers packetBuffers with
      ⟨m', buffers', packetBuffers'⟩ | result
    · simp only [matchRules, hstep] at h ⊢
      obtain ⟨hle, hget, hsel⟩ := ih h
      set index := (r.matchRules preMatch supportBypass (i + 1) rules m' buffers' packetBuffers').selectedRuleIndex
      have hindex : index - i = (index - (i + 1)) + 1 := by omega
      refine ⟨by omega, ?_, hsel⟩
      rw [hindex, List.getElem?_cons_succ]
      exact hget
    · simp only [matchRules, hstep] at h ⊢
      rcases r.matchStep_stop hstep with ⟨hrule, hindex, hsel⟩ | ⟨hnone, -⟩
      · rw [h] at hrule
        cases hrule
        simp [hindex, hsel]
      · rw [h] at hnone
        cases hnone

theorem matchRule_selectedRule {rule : RouteRule σ α}
    (h : (r.matchRule m preMatch supportBypass : MatchResult σ α B P).selectedRule = some rule) :
    r.rules[(r.matchRule m preMatch supportBypass : MatchResult σ α B P).selectedRuleIndex]? =
      some rule ∧ rule.action.Selectable preMatch supportBypass = true := by
  simp only [matchRule] at h ⊢
  split at h
  · cases h
  · obtain ⟨-, hget, hsel⟩ := r.matchRules_selectedRule h
    simpa using And.intro hget hsel

/-- A route-options action that writes nothing, a rule every connection matches, and a router
whose first rule turns `udp_connect` on and whose second routes to `direct`. -/
def noRouteOptions : RuleActionRouteOptions Nat :=
  ⟨⟨none, 0, ""⟩, 0, none, [], [], 0, false, false, 0, false, 0, false, "",
    TLSSpoof.MethodWrongSequence⟩

def anyConnection : Rule (RouteConn Unit Nat) Nat := .default ⟨[], [], [], [], [], []⟩ none false false

def udpConnectRule : RouteRule Unit Nat :=
  ⟨anyConnection, .routeOptions { noRouteOptions with UDPConnect := true }⟩

def directRule : RouteRule Unit Nat := ⟨anyConnection, .route "direct" noRouteOptions⟩

def exampleRouter : Router Unit Nat Unit Unit where
  rules := [udpConnectRule, directRule]
  FakeIPLookup _ := none
  LookupReverseMapping _ := none
  Is4 _ := true
  Is6 _ := false
  sniff _ m _ _ := (m, none, [], none)
  Transport _ := none
  Lookup _ _ := .error "no DNS"

def exampleMetadata : RouteMetadata Unit Nat :=
  ⟨⟨0, "tcp", 443, "", "", "", [], none, ⟨none, 0, ""⟩, ⟨none, 0, ""⟩, false, false, 0, false, 0, false,
      "", TLSSpoof.MethodWrongSequence, none, [], [], 0, false, ()⟩,
    1, some 2, [], none, false, false, false, false, false, false, false, false, false⟩

theorem exampleRouter_matchRule_selectedRule :
    (exampleRouter.matchRule exampleMetadata false false).selectedRule = some directRule ∧
      exampleRouter.rules[(exampleRouter.matchRule exampleMetadata false false).selectedRuleIndex]? =
        some directRule ∧ directRule.action.Selectable false false = true :=
  ⟨rfl, exampleRouter.matchRule_selectedRule rfl⟩

example : (exampleRouter.matchRule exampleMetadata false false).selectedRuleIndex = 1 := by decide

/-! ## What the loop never undoes -/

/-- The metadata a turn leaves: the reset context if the rule does not match, else the context
after the rule's route options, or after its sniff or its resolve. -/
theorem matchStep_metadata (preMatch supportBypass : Bool) (i : Nat) (rule : RouteRule σ α)
    (m : RouteMetadata σ α) (buffers : List B) (packetBuffers : List P) :
    let m₁ := rule.action.applyRouteOptions m.resetRuleCache
    let step := r.matchStep preMatch supportBypass i rule m buffers packetBuffers
    step.metadata = m.resetRuleCache ∨ step.metadata = m₁ ∨
      (∃ action, step.metadata = (r.actionSniff action m₁ buffers packetBuffers).1) ∨
      ∃ action m', r.actionResolve action m₁ = .ok m' ∧ step.metadata = m' := by
  intro m₁ step
  simp only [step, matchStep]
  split
  · exact .inl rfl
  rcases hact : rule.action with _ | _ | _ | ⟨outbound, _⟩ | _ | _ | action | action <;>
    simp only [m₁, hact]
  all_goals try exact .inr (.inl rfl)
  · split <;> exact .inr (.inl rfl)
  · split
    · split <;> exact .inr (.inr (.inl ⟨action, rfl⟩))
    · split <;> exact .inr (.inl rfl)
  · split
    · exact .inr (.inl rfl)
    next m' hresolve => exact .inr (.inr (.inr ⟨action, m', hresolve, rfl⟩))

section Keeps

variable (hsniff : ∀ action (m : RouteMetadata σ α) buffers packetBuffers,
  Keeps m (r.sniff action m buffers packetBuffers).1)

include hsniff in
theorem keeps_actionSniff (action : RuleActionSniff) (m : RouteMetadata σ α) (buffers : List B)
    (packetBuffers : List P) : Keeps m (r.actionSniff action m buffers packetBuffers).1 := by
  unfold actionSniff
  split_ifs
  · exact .refl m
  · exact .refl m
  · exact hsniff action m buffers packetBuffers

theorem keeps_actionResolve {action : RuleActionResolve} {m m' : RouteMetadata σ α}
    (h : r.actionResolve action m = .ok m') : Keeps m m' := by
  unfold actionResolve at h
  split at h
  · split at h
    · cases h
    · split at h
      · cases h
      · cases h
        exact .of_conn rfl rfl rfl rfl fun _ => rfl
  · cases h
    exact .refl m

include hsniff in
theorem keeps_matchStep (preMatch supportBypass : Bool) (i : Nat) (rule : RouteRule σ α)
    (m : RouteMetadata σ α) (buffers : List B) (packetBuffers : List P) :
    Keeps m (r.matchStep preMatch supportBypass i rule m buffers packetBuffers).metadata := by
  have hreset : Keeps m m.resetRuleCache := .of_conn rfl rfl rfl rfl fun _ => rfl
  have h₁ := hreset.trans (Keeps.applyRouteOptions rule.action m.resetRuleCache)
  rcases r.matchStep_metadata preMatch supportBypass i rule m buffers packetBuffers with
    h | h | ⟨action, h⟩ | ⟨action, m', hresolve, h⟩ <;> rw [h]
  · exact hreset
  · exact h₁
  · exact h₁.trans (r.keeps_actionSniff hsniff action _ buffers packetBuffers)
  · exact h₁.trans (r.keeps_actionResolve hresolve)

include hsniff in
theorem keeps_matchRules (i : Nat) (rules : List (RouteRule σ α)) :
    Keeps m (r.matchRules preMatch supportBypass i rules m buffers packetBuffers).metadata := by
  induction rules generalizing i m buffers packetBuffers with
  | nil => exact .refl m
  | cons rule rules ih =>
    have hstep := r.keeps_matchStep hsniff preMatch supportBypass i rule m buffers packetBuffers
    rcases hs : r.matchStep preMatch supportBypass i rule m buffers packetBuffers with
      ⟨m', buffers', packetBuffers'⟩ | result <;> rw [hs] at hstep <;> simp only [matchRules, hs]
    · exact hstep.trans (ih (i + 1))
    · exact hstep

theorem keeps_prepare {m m' : RouteMetadata σ α} (h : r.prepare m = .ok m') : Keeps m m' := by
  have hversion : ∀ m, Keeps m (r.setIPVersion m) := fun m => by
    unfold setIPVersion
    split_ifs
    · exact .of_conn rfl rfl rfl rfl fun _ => rfl
    · exact .of_conn rfl rfl rfl rfl fun _ => rfl
    · exact .refl m
  unfold prepare at h
  split at h
  · cases h
  next m₁ hlookup =>
    cases h
    refine Keeps.trans ?_ (hversion m₁)
    unfold lookupDomain at hlookup
    split at hlookup
    · cases hlookup
    · split_ifs at hlookup <;> cases hlookup
      · exact .of_conn rfl rfl rfl rfl fun _ => rfl
      · exact .refl m
    · split_ifs at hlookup
      · split at hlookup <;> cases hlookup
        · exact .of_conn rfl rfl rfl rfl fun _ => rfl
        · exact .refl m
      · cases hlookup
        exact .refl m

include hsniff in
/-- Whatever the rules, route options only ever switch `udp_disable_domain_unmapping`,
`udp_connect`, `tls_fragment` and `tls_record_fragment` on, and the original destination, once
recorded, is never replaced. -/
theorem matchRule_keeps (m : RouteMetadata σ α) (preMatch supportBypass : Bool) :
    Keeps m (r.matchRule m preMatch supportBypass : MatchResult σ α B P).metadata := by
  unfold matchRule
  split
  · exact .refl m
  next m' hprepare => exact (r.keeps_prepare hprepare).trans (r.keeps_matchRules hsniff 0 r.rules)

end Keeps

theorem exampleRouter_matchRule_keeps :
    (∀ action (m : RouteMetadata Unit Nat) buffers packetBuffers,
      Keeps m (exampleRouter.sniff action m buffers packetBuffers).1) ∧
    Keeps exampleMetadata (exampleRouter.matchRule exampleMetadata false false).metadata :=
  ⟨fun _ m _ _ => .refl m,
    exampleRouter.matchRule_keeps (fun _ m _ _ => .refl m) exampleMetadata false false⟩

example : (exampleRouter.matchRule exampleMetadata false false).metadata.conn.UDPConnect = true := by
  decide

end Router

end Route

end SingBox
