import SingBox.DNSClient
import SingBox.RuleDNS
import SingBox.LockStep

/-!
# The DNS router in legacy mode

`dns/router.go`: `Router.Exchange` and `Router.Lookup` with the legacy rule loop, and
`matchDNS`. The loop asks `matchDNS` for the first rule after the last one it tried; a
rule with an address limit hands its `MatchAddressLimit` to the client as the response
checker, and a rejected response sends the loop on to the rules after it, with the query
options as the call gave them. A query that names its transport skips the rules.

`Router.step` is one call, either kind; `LockStep.run` runs a list of them.
-/

namespace SingBox

variable {σ α : Type}

/-- The options of a `route` and a `route-options` action. -/
structure DNSRouteOptions where
  strategy : DomainStrategy
  disableCache : Bool
  disableOptimisticCache : Bool
  rewriteTTL : Option Nat
  clientSubnet : Option Prefix
deriving DecidableEq, Repr

inductive RejectMethod where
  | default
  | drop
deriving DecidableEq, Repr

/-- `RuleActionReject.Error`. The default method's switch to the drop after more than 50
rejections within 30 seconds counts on a log of times kept in the action, which the model
leaves out. -/
def RejectMethod.Error : RejectMethod → DNSError
  | .default => .rejected .reset
  | .drop => .rejected .drop

/-- `RuleActionDNSRoute`, `RuleActionDNSRouteOptions`, `RuleActionReject` and
`RuleActionPredefined`. -/
inductive DNSRuleAction (α : Type) where
  | route (server : String) (routeOptions : DNSRouteOptions)
  | routeOptions (routeOptions : DNSRouteOptions)
  | reject (method : RejectMethod)
  | predefined (rcode : Nat) (answer ns extra : List (RR α))

/-- The options of a `route` or a `route-options` action. -/
def DNSRuleAction.options? : DNSRuleAction α → Option DNSRouteOptions
  | .route _ options => some options
  | .routeOptions options => some options
  | _ => none

/-- A rule of the router and its action. -/
structure DNSRuleEntry (σ α : Type) where
  rule : DNSRule σ α
  action : DNSRuleAction α

mutual

/-- `HasHeadlessRule(rules, isIPCIDRHeadlessRule)` at one rule of a rule set. -/
def Rule.hasIPCIDRRule : Rule σ α → Bool
  | .default g _ _ _ => !g.destinationIPCIDRItems.isEmpty
  | .logical rules _ _ => Rule.anyHasIPCIDRRule rules

def Rule.anyHasIPCIDRRule : List (Rule σ α) → Bool
  | [] => false
  | rule :: rules => rule.hasIPCIDRRule || Rule.anyHasIPCIDRRule rules

end

def RuleSetItem.ContainsDestinationIPCIDRRule (item : RuleSetItem (Rule σ α)) : Bool :=
  !item.ipCidrMatchSource && item.setList.any Rule.anyHasIPCIDRRule

mutual

/-- `DefaultDNSRule.WithAddressLimit` and `LogicalDNSRule.WithAddressLimit`. -/
def DNSRule.WithAddressLimit : DNSRule σ α → Bool
  | .default g ruleSetItem _ _ =>
    !g.destinationIPCIDRItems.isEmpty ||
      match ruleSetItem with
      | some item => item.ContainsDestinationIPCIDRRule
      | none => false
  | .logical rules _ _ => DNSRule.anyWithAddressLimit rules

def DNSRule.anyWithAddressLimit : List (Rule σ α) → Bool
  | [] => false
  | rule :: rules => DNSRule.WithAddressLimit rule || DNSRule.anyWithAddressLimit rules

end

/-- The router: its rules, its transports by tag and the default one, and its default
domain strategy. `queryMetadata` and `lookupMetadata` write what the router sets from the
query into the connection part of the metadata (`QueryType`, `IPVersion`, `Domain`). -/
structure Router (σ α : Type) where
  rules : List (DNSRuleEntry σ α)
  transport : String → Option (DNSTransport α)
  defaultTransport : DNSTransport α
  defaultDomainStrategy : DomainStrategy
  queryMetadata : σ → Question → σ
  lookupMetadata : σ → String → σ

/-- The context `matchDNS` matches a rule in, after `ResetRuleCache`; `DidMatch`, which the
matching writes, is never read. -/
def ruleContext (m : InboundContext σ α) : InboundContext σ α :=
  { m.resetRuleCache with destinationAddressMatchFromResponse := false }

/-- What `matchDNS` returns: a route with the rule and the rules after it, a rule with a
reject or predefined action, or the default transport with no rule. -/
inductive DNSMatch (σ α : Type) where
  | route (transport : DNSTransport α) (rule : DNSRule σ α) (rest : List (DNSRuleEntry σ α))
  | reject (method : RejectMethod)
  | predefined (rcode : Nat) (answer ns extra : List (RR α))
  | fallback (transport : DNSTransport α)

/-- The options a `route` or `route-options` action writes into the query options in
`matchDNS`, which has no case for `disable_optimistic_cache`. -/
def DNSRouteOptions.apply (routeOptions : DNSRouteOptions) (disableCache : Bool)
    (options : DNSQueryOptions α) : DNSQueryOptions α :=
  { options with
    strategy := if routeOptions.strategy ≠ .asIS then routeOptions.strategy else options.strategy
    disableCache := options.disableCache || disableCache
    rewriteTTL := routeOptions.rewriteTTL <|> options.rewriteTTL
    clientSubnet := routeOptions.clientSubnet <|> options.clientSubnet }

namespace Router

variable (r : Router σ α)

/-- `matchDNS`: the rules from the one after the last tried, a route-options action
changing the options on the way. -/
def matchDNS (m : InboundContext σ α) (allowFakeIP isAddressQuery : Bool) :
    List (DNSRuleEntry σ α) → DNSQueryOptions α → DNSMatch σ α × DNSQueryOptions α
  | [], options => (.fallback r.defaultTransport, options)
  | entry :: rest, options =>
    if entry.rule.WithAddressLimit && !isAddressQuery then
      matchDNS m allowFakeIP isAddressQuery rest options
    else if entry.rule.legacyPreMatch (ruleContext m) then
      match entry.action with
      | .route server routeOptions =>
        match r.transport server with
        | none => matchDNS m allowFakeIP isAddressQuery rest options
        | some transport =>
          if transport.isFakeIP && !allowFakeIP then matchDNS m allowFakeIP isAddressQuery rest options
          else
            (.route transport entry.rule rest,
              routeOptions.apply (transport.isFakeIP || routeOptions.disableCache) options)
      | .routeOptions routeOptions =>
        matchDNS m allowFakeIP isAddressQuery rest (routeOptions.apply routeOptions.disableCache options)
      | .reject method => (.reject method, options)
      | .predefined rcode answer ns extra => (.predefined rcode answer ns extra, options)
    else matchDNS m allowFakeIP isAddressQuery rest options

/-- One rule of `matchDNS`: the loop goes on with the rest, under the options or those of a
route-options action, or it stops at the rule. -/
theorem matchDNS_cons {m : InboundContext σ α} {allowFakeIP isAddressQuery : Bool}
    (entry : DNSRuleEntry σ α) (rest : List (DNSRuleEntry σ α)) (options : DNSQueryOptions α) :
    (r.matchDNS m allowFakeIP isAddressQuery (entry :: rest) options =
        r.matchDNS m allowFakeIP isAddressQuery rest options ∨
      ∃ routeOptions, entry.action = .routeOptions routeOptions ∧
        r.matchDNS m allowFakeIP isAddressQuery (entry :: rest) options =
          r.matchDNS m allowFakeIP isAddressQuery rest
            (routeOptions.apply routeOptions.disableCache options)) ∨
    (∃ server routeOptions transport, entry.action = .route server routeOptions ∧
      r.transport server = some transport ∧
      r.matchDNS m allowFakeIP isAddressQuery (entry :: rest) options =
        (.route transport entry.rule rest,
          routeOptions.apply (transport.isFakeIP || routeOptions.disableCache) options)) ∨
    (∃ method, r.matchDNS m allowFakeIP isAddressQuery (entry :: rest) options =
      (.reject method, options)) ∨
    (∃ rcode answer ns extra, r.matchDNS m allowFakeIP isAddressQuery (entry :: rest) options =
      (.predefined rcode answer ns extra, options)) := by
  simp only [matchDNS]
  split
  · exact .inl (.inl rfl)
  · split
    · split
      · rename_i server routeOptions haction
        split
        · exact .inl (.inl rfl)
        · rename_i transport htransport
          split
          · exact .inl (.inl rfl)
          · exact .inr (.inl ⟨server, routeOptions, transport, haction, htransport, rfl⟩)
      · rename_i routeOptions haction
        exact .inl (.inr ⟨routeOptions, haction, rfl⟩)
      · exact .inr (.inr (.inl ⟨_, rfl⟩))
      · exact .inr (.inr (.inr ⟨_, _, _, _, rfl⟩))
    · exact .inl (.inl rfl)

theorem length_lt_of_matchDNS {m : InboundContext σ α} {allowFakeIP isAddressQuery : Bool}
    {rules : List (DNSRuleEntry σ α)} {options : DNSQueryOptions α}
    {transport : DNSTransport α} {rule : DNSRule σ α} {rest : List (DNSRuleEntry σ α)}
    {dnsOptions : DNSQueryOptions α}
    (h : r.matchDNS m allowFakeIP isAddressQuery rules options =
      (.route transport rule rest, dnsOptions)) : rest.length < rules.length := by
  induction rules generalizing options with
  | nil => simp [matchDNS] at h
  | cons entry rules ih =>
    rcases r.matchDNS_cons entry rules options with
      (heq | ⟨_, -, heq⟩) | ⟨_, _, _, -, -, heq⟩ | ⟨_, heq⟩ | ⟨_, _, _, _, heq⟩ <;> rw [heq] at h
    · exact Nat.lt_succ_of_lt (ih h)
    · exact Nat.lt_succ_of_lt (ih h)
    · cases h
      simp
    · cases h
    · cases h

/-- A route is a rule of the list with a transport of the router; the fallback is the
default transport. -/
theorem matchDNS_route {m : InboundContext σ α} {allowFakeIP isAddressQuery : Bool}
    {rules : List (DNSRuleEntry σ α)} {options : DNSQueryOptions α}
    {transport : DNSTransport α} {rule : DNSRule σ α} {rest : List (DNSRuleEntry σ α)}
    {dnsOptions : DNSQueryOptions α}
    (h : r.matchDNS m allowFakeIP isAddressQuery rules options =
      (.route transport rule rest, dnsOptions)) :
    (∃ entry ∈ rules, entry.rule = rule) ∧ ∃ server, r.transport server = some transport := by
  induction rules generalizing options with
  | nil => simp [matchDNS] at h
  | cons entry rules ih =>
    have hrest : ∀ {options}, r.matchDNS m allowFakeIP isAddressQuery rules options =
        (.route transport rule rest, dnsOptions) →
        (∃ entry' ∈ entry :: rules, entry'.rule = rule) ∧ ∃ server, r.transport server = some transport :=
      fun h => by
        obtain ⟨⟨entry', hentry', hrule⟩, hserver⟩ := ih h
        exact ⟨⟨entry', List.mem_cons_of_mem _ hentry', hrule⟩, hserver⟩
    rcases r.matchDNS_cons entry rules options with
      (heq | ⟨_, -, heq⟩) | ⟨server, _, _, -, htransport, heq⟩ | ⟨_, heq⟩ | ⟨_, _, _, _, heq⟩ <;>
      rw [heq] at h
    · exact hrest h
    · exact hrest h
    · cases h
      exact ⟨⟨entry, List.mem_cons_self .., rfl⟩, server, htransport⟩
    · cases h
    · cases h

theorem matchDNS_fallback {m : InboundContext σ α} {allowFakeIP isAddressQuery : Bool}
    {rules : List (DNSRuleEntry σ α)} {options : DNSQueryOptions α}
    {transport : DNSTransport α} {dnsOptions : DNSQueryOptions α}
    (h : r.matchDNS m allowFakeIP isAddressQuery rules options = (.fallback transport, dnsOptions)) :
    transport = r.defaultTransport := by
  induction rules generalizing options with
  | nil =>
    simp only [matchDNS, Prod.mk.injEq, DNSMatch.fallback.injEq] at h
    exact h.1.symm
  | cons entry rules ih =>
    rcases r.matchDNS_cons entry rules options with
      (heq | ⟨_, -, heq⟩) | ⟨_, _, _, -, -, heq⟩ | ⟨_, heq⟩ | ⟨_, _, _, _, heq⟩ <;> rw [heq] at h
    · exact ih h
    · exact ih h
    all_goals cases h

/-- What every route option of the rules keeps holds of the options `matchDNS` returns. -/
theorem matchDNS_options {m : InboundContext σ α} {allowFakeIP isAddressQuery : Bool}
    {rules : List (DNSRuleEntry σ α)} {options : DNSQueryOptions α} (P : DNSQueryOptions α → Prop)
    (hP : ∀ entry ∈ rules, ∀ routeOptions ∈ entry.action.options?, ∀ disableCache options,
      P options → P (routeOptions.apply disableCache options))
    (ho : P options) : P (r.matchDNS m allowFakeIP isAddressQuery rules options).2 := by
  induction rules generalizing options with
  | nil => exact ho
  | cons entry rules ih =>
    have hrest : ∀ {options}, P options → P (r.matchDNS m allowFakeIP isAddressQuery rules options).2 :=
      ih fun entry' hentry' => hP entry' (List.mem_cons_of_mem _ hentry')
    have hentry := hP entry List.mem_cons_self
    rcases r.matchDNS_cons entry rules options with
      (heq | ⟨routeOptions, haction, heq⟩) | ⟨_, routeOptions, _, haction, -, heq⟩ | ⟨_, heq⟩ |
        ⟨_, _, _, _, heq⟩ <;> rw [heq]
    · exact hrest ho
    · exact hrest (hentry routeOptions (by rw [haction]; rfl) _ _ ho)
    · exact hentry routeOptions (by rw [haction]; rfl) _ _ ho
    · exact ho
    · exact ho

end Router

def addressLimitResponseCheck (rule : DNSRule σ α) (m : InboundContext σ α) :
    Option (Msg α → Bool) :=
  if rule.WithAddressLimit then
    some fun response => rule.matchAddressLimit (ruleContext m) (some response.toDNSMessage)
  else none

def isAddressQuery (message : Msg α) : Bool :=
  message.question.any fun question =>
    question.qtype = typeA || question.qtype = typeAAAA || question.qtype = typeHTTPS

/-- `rewriteRecords`: a wildcard record takes the name of the question it answers. -/
def rewriteRecords (records : List (RR α)) (question : Question) : List (RR α) :=
  records.map fun it =>
    if it.name.startsWith "*" ∧ question.name.endsWith (it.name.drop 1).toString then
      { it with name := question.name }
    else it

/-- `RuleActionPredefined.Response`. -/
def predefinedResponse (rcode : Nat) (answer ns extra : List (RR α)) (request : Msg α)
    (question : Question) : Msg α :=
  ⟨request.id, rcode, request.question, rewriteRecords answer question,
    rewriteRecords ns question, rewriteRecords extra question⟩

/-- The addresses `Router.Lookup` takes from a predefined answer. -/
def RR.predefinedAddresses (rr : RR α) : List α :=
  match rr.data with
  | .a addr => [addr]
  | .aaaa addr => [addr]
  | _ => []

namespace Router

variable (r : Router σ α)

def withDefaultStrategy (options : DNSQueryOptions α) : DNSQueryOptions α :=
  if options.strategy = .asIS then { options with strategy := r.defaultDomainStrategy } else options

set_option linter.unusedVariables false in
/-- The legacy loop of `Router.Exchange`. -/
def exchangeLegacy (now : Nat) (message : Msg α) (question : Question) (m : InboundContext σ α)
    (options : DNSQueryOptions α) (rules : List (DNSRuleEntry σ α)) (c : Client α) :
    Except DNSError (Msg α) × Client α :=
  match h : r.matchDNS m true (isAddressQuery message) rules options with
  | (.fallback transport, dnsOptions) =>
    c.Exchange now transport message (r.withDefaultStrategy dnsOptions) none
  | (.reject .default, _) => (.ok ⟨message.id, rcodeRefused, [question], [], [], []⟩, c)
  | (.reject .drop, _) => (.error .drop, c)
  | (.predefined rcode answer ns extra, _) =>
    (.ok (predefinedResponse rcode answer ns extra message question), c)
  | (.route transport rule rest, dnsOptions) =>
    let responseCheck := addressLimitResponseCheck rule m
    match c.Exchange now transport message (r.withDefaultStrategy dnsOptions) responseCheck with
    | (.error err, c') =>
      if responseCheck.isSome && err.isRejected then
        exchangeLegacy now message question m options rest c'
      else (.error err, c')
    | (.ok response, c') => (.ok response, c')
termination_by rules.length
decreasing_by exact r.length_lt_of_matchDNS h

section Unfold

variable {now : Nat} {message : Msg α} {question : Question} {m : InboundContext σ α}
  {options dnsOptions : DNSQueryOptions α} {rules rest : List (DNSRuleEntry σ α)} {c : Client α}
  {transport : DNSTransport α} {rule : DNSRule σ α}

theorem exchangeLegacy_eq :
    r.exchangeLegacy now message question m options rules c =
      match r.matchDNS m true (isAddressQuery message) rules options with
      | (.fallback transport, dnsOptions) =>
        c.Exchange now transport message (r.withDefaultStrategy dnsOptions) none
      | (.reject .default, _) => (.ok ⟨message.id, rcodeRefused, [question], [], [], []⟩, c)
      | (.reject .drop, _) => (.error .drop, c)
      | (.predefined rcode answer ns extra, _) =>
        (.ok (predefinedResponse rcode answer ns extra message question), c)
      | (.route transport rule rest, dnsOptions) =>
        match c.Exchange now transport message (r.withDefaultStrategy dnsOptions)
            (addressLimitResponseCheck rule m) with
        | (.error err, c') =>
          if (addressLimitResponseCheck rule m).isSome && err.isRejected then
            r.exchangeLegacy now message question m options rest c'
          else (.error err, c')
        | (.ok response, c') => (.ok response, c') := by
  rw [exchangeLegacy]
  split <;> rename_i hmatch <;> rw [hmatch]

theorem exchangeLegacy_fallback
    (h : r.matchDNS m true (isAddressQuery message) rules options = (.fallback transport, dnsOptions)) :
    r.exchangeLegacy now message question m options rules c =
      c.Exchange now transport message (r.withDefaultStrategy dnsOptions) none := by
  rw [exchangeLegacy_eq, h]

theorem exchangeLegacy_nil :
    r.exchangeLegacy now message question m options [] c =
      c.Exchange now r.defaultTransport message (r.withDefaultStrategy options) none :=
  r.exchangeLegacy_fallback rfl

theorem exchangeLegacy_route
    (h : r.matchDNS m true (isAddressQuery message) rules options =
      (.route transport rule rest, dnsOptions)) :
    r.exchangeLegacy now message question m options rules c =
      match c.Exchange now transport message (r.withDefaultStrategy dnsOptions)
          (addressLimitResponseCheck rule m) with
      | (.error err, c') =>
        if (addressLimitResponseCheck rule m).isSome && err.isRejected then
          r.exchangeLegacy now message question m options rest c'
        else (.error err, c')
      | (.ok response, c') => (.ok response, c') := by
  rw [exchangeLegacy_eq, h]

end Unfold

/-- The metadata `Router.Exchange` matches its rules in. -/
def exchangeMetadata (m : InboundContext σ α) (question : Question) : InboundContext σ α :=
  { m with
    conn := r.queryMetadata m.conn question
    destination := none
    dnsResponse := none
    destinationAddressMatchFromResponse := false }

/-- `Router.Exchange` in legacy mode. -/
def Exchange (c : Client α) (now : Nat) (message : Msg α) (options : DNSQueryOptions α)
    (m : InboundContext σ α) : Except DNSError (Msg α) × Client α :=
  match message.question with
  | [question] =>
    match options.transport with
    | some transport => c.Exchange now transport message (r.withDefaultStrategy options) none
    | none => r.exchangeLegacy now message question (r.exchangeMetadata m question) options r.rules c
  | _ => (.ok ⟨message.id, rcodeFormatError, message.question, [], [], []⟩, c)

set_option linter.unusedVariables false in
/-- The legacy loop of `Router.Lookup`: any failure under a checker moves on. The outer error
is the early return of a reject action, which `printResult` never sees. -/
def lookupLegacy (now : Nat) (domain : String) (m : InboundContext σ α) (options : DNSQueryOptions α)
    (rules : List (DNSRuleEntry σ α)) (c : Client α) :
    Except DNSError (Except DNSError (List α)) × Client α :=
  match h : r.matchDNS m false true rules options with
  | (.fallback transport, dnsOptions) =>
    let (result, c) := c.Lookup now transport domain (r.withDefaultStrategy dnsOptions) none
    (.ok result, c)
  | (.reject method, _) => (.error (.rejected method.Error), c)
  | (.predefined rcode answer _ _, _) =>
    (.ok (if rcode ≠ dnsRcodeSuccess then .error (.rcode rcode)
      else .ok (answer.flatMap RR.predefinedAddresses)), c)
  | (.route transport rule rest, dnsOptions) =>
    let responseCheck := addressLimitResponseCheck rule m
    match c.Lookup now transport domain (r.withDefaultStrategy dnsOptions) responseCheck with
    | (.error err, c') =>
      if responseCheck.isSome then lookupLegacy now domain m options rest c' else (.ok (.error err), c')
    | (.ok addresses, c') => (.ok (.ok addresses), c')
termination_by rules.length
decreasing_by exact r.length_lt_of_matchDNS h

theorem lookupLegacy_eq {now : Nat} {domain : String} {m : InboundContext σ α}
    {options : DNSQueryOptions α} {rules : List (DNSRuleEntry σ α)} {c : Client α} :
    r.lookupLegacy now domain m options rules c =
      match r.matchDNS m false true rules options with
      | (.fallback transport, dnsOptions) =>
        let (result, c) := c.Lookup now transport domain (r.withDefaultStrategy dnsOptions) none
        (.ok result, c)
      | (.reject method, _) => (.error (.rejected method.Error), c)
      | (.predefined rcode answer _ _, _) =>
        (.ok (if rcode ≠ dnsRcodeSuccess then .error (.rcode rcode)
          else .ok (answer.flatMap RR.predefinedAddresses)), c)
      | (.route transport rule rest, dnsOptions) =>
        match c.Lookup now transport domain (r.withDefaultStrategy dnsOptions)
            (addressLimitResponseCheck rule m) with
        | (.error err, c') =>
          if (addressLimitResponseCheck rule m).isSome then r.lookupLegacy now domain m options rest c'
          else (.ok (.error err), c')
        | (.ok addresses, c') => (.ok (.ok addresses), c') := by
  rw [lookupLegacy]
  split <;> rename_i hmatch <;> rw [hmatch]

/-- The metadata `Router.Lookup` matches its rules in. -/
def lookupMetadataOf (m : InboundContext σ α) (domain : String) : InboundContext σ α :=
  { m with
    conn := r.lookupMetadata m.conn (FqdnToDomain domain)
    destination := none
    dnsResponse := none
    destinationAddressMatchFromResponse := false }

/-- `printResult`: a lookup that finds no address fails, and a failure is wrapped as the
lookup of the domain. -/
def lookupResult (domain : String) : Except DNSError (List α) → Except DNSError (List α)
  | .ok [] => .error (.cause ("lookup " ++ domain) .emptyResult)
  | .ok addresses => .ok addresses
  | .error err => .error (.cause ("lookup " ++ domain) err)

/-- `Router.Lookup` in legacy mode. -/
def Lookup (c : Client α) (now : Nat) (domain : String) (options : DNSQueryOptions α)
    (m : InboundContext σ α) : Except DNSError (List α) × Client α :=
  match options.transport with
  | some transport =>
    let (result, c) := c.Lookup now transport domain (r.withDefaultStrategy options) none
    (lookupResult domain result, c)
  | none =>
    match r.lookupLegacy now domain (r.lookupMetadataOf m domain) options r.rules c with
    | (.error err, c) => (.error err, c)
    | (.ok result, c) => (lookupResult domain result, c)

end Router

/-- A call to the router at a time, in seconds. -/
inductive DNSCall (σ α : Type) where
  | exchange (now : Nat) (message : Msg α) (options : DNSQueryOptions α)
      (metadata : InboundContext σ α)
  | lookup (now : Nat) (domain : String) (options : DNSQueryOptions α)
      (metadata : InboundContext σ α)

/-- What a call returns. -/
inductive DNSResult (α : Type) where
  | exchange (result : Except DNSError (Msg α))
  | lookup (result : Except DNSError (List α))
deriving DecidableEq, Repr

/-- The same result: the same view of the response, the same addresses, or an error in
both. -/
def DNSResult.Agree : DNSResult α → DNSResult α → Prop
  | .exchange (.ok response), .exchange (.ok response') => response.view = response'.view
  | .exchange (.error _), .exchange (.error _) => True
  | .lookup (.ok addresses), .lookup (.ok addresses') => addresses = addresses'
  | .lookup (.error _), .lookup (.error _) => True
  | _, _ => False

/-- One call on the router, with its client as the state. -/
def Router.step (r : Router σ α) (c : Client α) : DNSCall σ α → DNSResult α × Client α
  | .exchange now message options m =>
    let (result, c) := r.Exchange c now message options m
    (.exchange result, c)
  | .lookup now domain options m =>
    let (result, c) := r.Lookup c now domain options m
    (.lookup result, c)

/-! ### An address limit the cache does not apply

Two transports answer every A query for `example.com.`: `local` with address 1, `remote`,
the default, with address 10. The one rule sends every address query to `local` under
the address limit `10 ≤ a`. A query that names `local` leaves its answer in the cache;
the same query routed by the rules then gets it from the cache, without the check that
sends it on to `remote` when the cache is off. -/

def exampleQuestion : Question := ⟨"example.com.", typeA, classINET⟩

def exampleQuery : Msg Nat := ⟨1, dnsRcodeSuccess, [exampleQuestion], [], [], []⟩

def answerWith (addr : Nat) (message : Msg Nat) : Msg Nat :=
  ⟨message.id, dnsRcodeSuccess, message.question, [⟨"example.com.", classINET, 600, .a addr⟩], [], []⟩

def localTransport : DNSTransport Nat := ⟨"local", false, fun message => .ok (answerWith 1 message)⟩

def remoteTransport : DNSTransport Nat := ⟨"remote", false, fun message => .ok (answerWith 10 message)⟩

def addressLimitRule : DNSRuleEntry Unit Nat :=
  ⟨.default ⟨[], [], [], [], [.ipcidr false fun addr => decide (10 ≤ addr)], []⟩ none false false,
    .route "local" ⟨.asIS, false, false, none, none⟩⟩

def addressLimitRouter : Router Unit Nat :=
  ⟨[addressLimitRule], fun tag => if tag = "local" then some localTransport else none,
    remoteTransport, .asIS, fun _ _ => (), fun _ _ => ()⟩

def cachingClient : Client Nat := ⟨false, false, 0, none, false, fun _ => none, fun _ => false⟩

def exampleMetadata : InboundContext Unit Nat :=
  ⟨(), 0, none, [], none, false, false, false, false, false, false, false, false, false⟩

def localOptions : DNSQueryOptions Nat := ⟨some localTransport, .asIS, .asIS, false, false, none, none⟩

def addressLimitCalls : List (DNSCall Unit Nat) :=
  [.exchange 0 exampleQuery localOptions exampleMetadata,
    .exchange 0 exampleQuery { localOptions with transport := none } exampleMetadata]

theorem Router.run_addressLimitCalls :
    (LockStep.run addressLimitRouter.step cachingClient addressLimitCalls).1 =
        [.exchange (.ok (answerWith 1 exampleQuery)), .exchange (.ok (answerWith 1 exampleQuery))] ∧
      (LockStep.run addressLimitRouter.step { cachingClient with disableCache := true }
          addressLimitCalls).1 =
        [.exchange (.ok (answerWith 1 exampleQuery)), .exchange (.ok (answerWith 10 exampleQuery))] := by
  constructor
  all_goals
    simp only [addressLimitCalls, LockStep.run_cons, LockStep.run_nil, Router.step, Router.Exchange,
      exampleQuery, localOptions]
    rw [addressLimitRouter.exchangeLegacy_route rfl]
    simp only [Router.exchangeLegacy_nil]
    decide

end SingBox
