import SingBox.DNSRouter

/-!
# The DNS router in rule mode

`dns/router.go` with `legacyDNSMode` off: `exchangeWithRules`, the loop over the rules that
carries the options the `route-options` actions have left and the response of the last
`evaluate` action, which the rules after it match against; `lookupWithRules` and
`lookupWithRulesType`, which send a lookup through that loop once per query type; and
`Router.Exchange` and `Router.Lookup` with both modes and the closing state.

`DNSRouter` holds the compiled rules with every action. Legacy mode's `matchDNS` has no
case for `evaluate` and `respond` and passes over such rules, so the legacy router of a
`DNSRouter` (`toRouter`) holds the other rules only.
-/

namespace SingBox

variable {σ α : Type}

/-- The actions of a DNS rule: `RuleActionDNSRoute`, `RuleActionDNSRouteOptions`,
`RuleActionEvaluate`, `RuleActionRespond`, `RuleActionReject` and `RuleActionPredefined`. -/
inductive DNSAction (α : Type) where
  | route (server : String) (routeOptions : DNSRouteOptions)
  | routeOptions (routeOptions : DNSRouteOptions)
  | evaluate (server : String) (routeOptions : DNSRouteOptions)
  | respond
  | reject (method : RejectMethod)
  | predefined (rcode : Nat) (answer ns extra : List (RR α))

/-- The action as the switch of `matchDNS` sees it. -/
def DNSAction.legacyAction? : DNSAction α → Option (DNSRuleAction α)
  | .route server options => some (.route server options)
  | .routeOptions options => some (.routeOptions options)
  | .evaluate _ _ => none
  | .respond => none
  | .reject method => some (.reject method)
  | .predefined rcode answer ns extra => some (.predefined rcode answer ns extra)

/-- A compiled DNS rule and its action. -/
structure DNSEntry (σ α : Type) where
  rule : DNSRule σ α
  action : DNSAction α

def DNSEntry.legacyEntry? (entry : DNSEntry σ α) : Option (DNSRuleEntry σ α) :=
  entry.action.legacyAction?.map fun action => ⟨entry.rule, action⟩

/-- The errors of `Router.Exchange` and `Router.Lookup`: those of the client, the router's own,
made by `E.New`, and those wrapped by `E.Cause`. -/
inductive RouterError where
  | dns (err : DNSError)
  | new (message : String)
  | cause (message : String) (err : RouterError)
deriving DecidableEq, Repr

def dnsRespondMissingResponseMessage : String :=
  "respond action requires an evaluated response from a preceding evaluate action"

def dnsRouterClosedMessage : String := "dns router closed"

/-- `Router` of `dns/router.go`: the rules as `buildRules` compiled them, the transports by
tag and the default one, the default domain strategy, `legacyDNSMode` as
`resolveLegacyDNSMode` set it, and `closing` once `Close` has run. `queryMetadata`,
`lookupMetadata` and `lookupQueryMetadata` write what the router sets from a query, from a
lookup's domain, and from a lookup's query type (`withLookupQueryMetadata`) into the
connection part of the metadata. -/
structure DNSRouter (σ α : Type) where
  rules : List (DNSEntry σ α)
  transport : String → Option (DNSTransport α)
  defaultTransport : DNSTransport α
  defaultDomainStrategy : DomainStrategy
  queryMetadata : σ → Question → σ
  lookupMetadata : σ → String → σ
  lookupQueryMetadata : σ → Nat → σ
  legacyDNSMode : Bool
  closing : Bool

/-- `applyDNSRouteOptions`: a rule action's strategy forces legacy mode, so it is not applied
here. -/
def applyDNSRouteOptions (options : DNSQueryOptions α) (routeOptions : DNSRouteOptions) :
    DNSQueryOptions α :=
  { options with
    disableCache := options.disableCache || routeOptions.disableCache
    disableOptimisticCache := options.disableOptimisticCache || routeOptions.disableOptimisticCache
    rewriteTTL := routeOptions.rewriteTTL <|> options.rewriteTTL
    clientSubnet := routeOptions.clientSubnet <|> options.clientSubnet }

inductive dnsRouteStatus where
  | dnsRouteStatusMissing
  | dnsRouteStatusSkipped
  | dnsRouteStatusResolved
deriving DecidableEq, Repr

/-- `exchangeWithRulesResult`: the response or the error, the transport that answered, and
the reject action that ended the loop. -/
structure exchangeWithRulesResult (α : Type) where
  response : Except RouterError (Msg α)
  transport : Option (DNSTransport α)
  rejectAction : Option RejectMethod

/-- The metadata a rule of `exchangeWithRules` is matched in: the rule cache reset, the
response of the last evaluation, and addresses read from the destination. -/
def evaluateContext (m : InboundContext σ α) (evaluatedResponse : Option (Msg α)) :
    InboundContext σ α :=
  { ruleContext m with dnsResponse := evaluatedResponse.map Msg.toDNSMessage }

/-- `filterAddressesByQueryType`, with `Is4` given by `is4` and `Is6` read as its negation. -/
def filterAddressesByQueryType (is4 : α → Bool) (addresses : List α) (qType : Nat) : List α :=
  if qType = typeA then addresses.filter is4
  else if qType = typeAAAA then addresses.filter fun address => !is4 address
  else addresses

namespace DNSRouter

variable (r : DNSRouter σ α)

/-- The router of legacy mode. -/
@[simps]
def toRouter : Router σ α :=
  ⟨r.rules.filterMap DNSEntry.legacyEntry?, r.transport, r.defaultTransport,
    r.defaultDomainStrategy, r.queryMetadata, r.lookupMetadata⟩

/-- `resolveDNSRoute`: the transport, the status, and the options it leaves. -/
def resolveDNSRoute (server : String) (routeOptions : DNSRouteOptions) (allowFakeIP : Bool)
    (options : DNSQueryOptions α) : Option (DNSTransport α) × dnsRouteStatus × DNSQueryOptions α :=
  match r.transport server with
  | none => (none, .dnsRouteStatusMissing, options)
  | some transport =>
    if transport.isFakeIP && !allowFakeIP then (some transport, .dnsRouteStatusSkipped, options)
    else
      let options := applyDNSRouteOptions options routeOptions
      (some transport, .dnsRouteStatusResolved,
        if transport.isFakeIP then { options with disableCache := true } else options)

/-- `exchangeWithRules` from the rule it has reached, with the options the `route-options`
actions so far have left and the response and transport of the last evaluation. -/
def exchangeWithRules (now : Nat) (message : Msg α) (question : Question) (m : InboundContext σ α)
    (allowFakeIP : Bool) : List (DNSEntry σ α) → DNSQueryOptions α → Option (Msg α) →
    Option (DNSTransport α) → Client α → exchangeWithRulesResult α × Client α
  | [], effectiveOptions, _, _, c =>
    let (response, c) := c.Exchange now r.defaultTransport message
      (r.toRouter.withDefaultStrategy effectiveOptions) none
    (⟨response.mapError .dns, some r.defaultTransport, none⟩, c)
  | entry :: rules, effectiveOptions, evaluatedResponse, evaluatedTransport, c =>
    if entry.rule.Match (evaluateContext m evaluatedResponse) then
      match entry.action with
      | .routeOptions routeOptions =>
        exchangeWithRules now message question m allowFakeIP rules
          (applyDNSRouteOptions effectiveOptions routeOptions) evaluatedResponse evaluatedTransport c
      | .evaluate server routeOptions =>
        match r.transport server with
        | none => exchangeWithRules now message question m allowFakeIP rules effectiveOptions none none c
        | some transport =>
          match c.Exchange now transport message
              (r.toRouter.withDefaultStrategy (applyDNSRouteOptions effectiveOptions routeOptions))
              none with
          | (.error _, c) =>
            exchangeWithRules now message question m allowFakeIP rules effectiveOptions none none c
          | (.ok response, c) =>
            exchangeWithRules now message question m allowFakeIP rules effectiveOptions (some response)
              (some transport) c
      | .respond =>
        match evaluatedResponse with
        | none => (⟨.error (.new dnsRespondMissingResponseMessage), none, none⟩, c)
        | some response => (⟨.ok response, evaluatedTransport, none⟩, c)
      | .route server routeOptions =>
        match r.resolveDNSRoute server routeOptions allowFakeIP effectiveOptions with
        | (some transport, .dnsRouteStatusResolved, queryOptions) =>
          let (response, c) := c.Exchange now transport message
            (r.toRouter.withDefaultStrategy queryOptions) none
          (⟨response.mapError .dns, some transport, none⟩, c)
        | _ =>
          -- `dnsRouteStatusMissing` and `dnsRouteStatusSkipped`
          exchangeWithRules now message question m allowFakeIP rules effectiveOptions evaluatedResponse
            evaluatedTransport c
      | .reject .default =>
        (⟨.ok ⟨message.id, rcodeRefused, [question], [], [], []⟩, none, some .default⟩, c)
      | .reject .drop => (⟨.error (.dns .drop), none, some .drop⟩, c)
      | .predefined rcode answer ns extra =>
        (⟨.ok (predefinedResponse rcode answer ns extra message question), none, none⟩, c)
    else
      exchangeWithRules now message question m allowFakeIP rules effectiveOptions evaluatedResponse
        evaluatedTransport c

def resolveLookupStrategy (options : DNSQueryOptions α) : DomainStrategy :=
  if options.lookupStrategy ≠ .asIS then options.lookupStrategy
  else if options.strategy ≠ .asIS then options.strategy
  else r.defaultDomainStrategy

/-- `lookupWithRulesType`: one query of the given type through the rule loop, FakeIP servers
refused. -/
def lookupWithRulesType (is4 : α → Bool) (rules : List (DNSEntry σ α)) (now : Nat) (domain : String)
    (qType : Nat) (m : InboundContext σ α) (options : DNSQueryOptions α) (c : Client α) :
    Except RouterError (List α) × Client α :=
  let question : Question := ⟨Fqdn domain, qType, classINET⟩
  let (exchangeResult, c) :=
    r.exchangeWithRules now (Client.lookupMessage question) question
      { m with conn := r.lookupQueryMetadata m.conn qType } false rules options none none c
  match exchangeResult.rejectAction, exchangeResult.response with
  | some method, _ => (.error (.dns method.Error), c)
  | none, .error err => (.error err, c)
  | none, .ok response =>
    if response.rcode ≠ dnsRcodeSuccess then (.error (.dns (.rcode response.rcode)), c)
    else (.ok (filterAddressesByQueryType is4 (MessageToAddresses response) qType), c)

/-- `lookupWithRules`. Of the two failures of a dual-stack lookup, the A query's is returned. -/
def lookupWithRules (is4 : α → Bool) (rules : List (DNSEntry σ α)) (now : Nat) (domain : String)
    (m : InboundContext σ α) (options : DNSQueryOptions α) (c : Client α) :
    Except RouterError (List α) × Client α :=
  let strategy := r.resolveLookupStrategy options
  let lookupOptions := if strategy ≠ .asIS then { options with strategy } else options
  if strategy = .ipv4Only then r.lookupWithRulesType is4 rules now domain typeA m lookupOptions c
  else if strategy = .ipv6Only then r.lookupWithRulesType is4 rules now domain typeAAAA m lookupOptions c
  else
    let (result4, c) := r.lookupWithRulesType is4 rules now domain typeA m lookupOptions c
    let (result6, c) := r.lookupWithRulesType is4 rules now domain typeAAAA m lookupOptions c
    let response4 := result4.toOption.getD []
    let response6 := result6.toOption.getD []
    if response4.isEmpty ∧ response6.isEmpty then
      match result4, result6 with
      | .error err, _ => (.error err, c)
      | _, .error err => (.error err, c)
      | _, _ => (.ok [], c)
    else (.ok (sortAddresses response4 response6 strategy), c)

def Exchange (c : Client α) (now : Nat) (message : Msg α) (options : DNSQueryOptions α)
    (m : InboundContext σ α) : Except RouterError (Msg α) × Client α :=
  match message.question with
  | [question] =>
    if r.closing then (.error (.new dnsRouterClosedMessage), c)
    else
      match options.transport with
      | some transport =>
        let (response, c) :=
          c.Exchange now transport message (r.toRouter.withDefaultStrategy options) none
        (response.mapError .dns, c)
      | none =>
        if r.legacyDNSMode then
          let (response, c) := r.toRouter.exchangeLegacy now message question
            (r.toRouter.exchangeMetadata m question) options r.toRouter.rules c
          (response.mapError .dns, c)
        else
          let (exchangeResult, c) := r.exchangeWithRules now message question
            (r.toRouter.exchangeMetadata m question) true r.rules options none none c
          (exchangeResult.response, c)
  | _ => (.ok ⟨message.id, rcodeFormatError, message.question, [], [], []⟩, c)

/-- `printResult`: a lookup that finds no address fails, and a failure is wrapped as the
lookup of the domain. -/
def lookupResult (domain : String) : Except RouterError (List α) → Except RouterError (List α)
  | .ok [] => .error (.cause ("lookup " ++ domain) (.dns .emptyResult))
  | .ok addresses => .ok addresses
  | .error err => .error (.cause ("lookup " ++ domain) err)

/-- `Router.Lookup`. A reject action of the legacy loop returns before `printResult`. -/
def Lookup (is4 : α → Bool) (c : Client α) (now : Nat) (domain : String) (options : DNSQueryOptions α)
    (m : InboundContext σ α) : Except RouterError (List α) × Client α :=
  if r.closing then (.error (.new dnsRouterClosedMessage), c)
  else
    match options.transport with
    | some transport =>
      let (result, c) := c.Lookup now transport domain (r.toRouter.withDefaultStrategy options) none
      (lookupResult domain (result.mapError .dns), c)
    | none =>
      if r.legacyDNSMode then
        match r.toRouter.lookupLegacy now domain (r.toRouter.lookupMetadataOf m domain) options
            r.toRouter.rules c with
        | (.error err, c) => (.error (.dns err), c)
        | (.ok result, c) => (lookupResult domain (result.mapError .dns), c)
      else
        let (result, c) :=
          r.lookupWithRules is4 r.rules now domain (r.toRouter.lookupMetadataOf m domain) options c
        (lookupResult domain result, c)

end DNSRouter

/-- What a call on the router returns. -/
inductive RouterResult (α : Type) where
  | exchange (result : Except RouterError (Msg α))
  | lookup (result : Except RouterError (List α))
deriving DecidableEq, Repr

/-- One call on the router, with its client as the state. -/
def DNSRouter.step (r : DNSRouter σ α) (is4 : α → Bool) (c : Client α) :
    DNSCall σ α → RouterResult α × Client α
  | .exchange now message options m =>
    let (result, c) := r.Exchange c now message options m
    (.exchange result, c)
  | .lookup now domain options m =>
    let (result, c) := r.Lookup is4 c now domain options m
    (.lookup result, c)

/-- The index of the first `evaluate` rule whose server is a FakeIP transport. -/
def validateEvaluateFakeIPRulesFrom (transport : String → Option (DNSTransport α)) :
    Nat → List (DNSEntry σ α) → Except String Unit
  | _, [] => .ok ()
  | i, entry :: rules =>
    match entry.action with
    | .evaluate server _ =>
      if server ≠ "" ∧ (transport server).any DNSTransport.isFakeIP then
        .error ("dns rule[" ++ toString i ++ "]: evaluate action cannot use fakeip server: " ++
          server)
      else validateEvaluateFakeIPRulesFrom transport (i + 1) rules
    | _ => validateEvaluateFakeIPRulesFrom transport (i + 1) rules

def validateEvaluateFakeIPRules (transport : String → Option (DNSTransport α))
    (rules : List (DNSEntry σ α)) : Except String Unit :=
  validateEvaluateFakeIPRulesFrom transport 0 rules

end SingBox
