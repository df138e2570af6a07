import SingBox.DNSRouterModes
import SingBox.LockStep

/-!
# What the router's calls do to the client's caches

Every call of the router writes the client's two caches only through `Client.Exchange`, at
a transport and with options that the rule loops choose. `DNSRouter.step_invariant` says so
once for every property of the client: if every exchange keeps it when its transport and its
disable-cache flag are admitted, then every call keeps it. Admitted are the default
transport, the servers of `evaluate` rules, the servers of routes with the flag forced on a
FakeIP server, and a transport the call names.

Two properties come of it. A call with `disable_cache` set leaves the client as it was,
the rejected-response cache included (`DNSRouter.step_disableCache`). And on a started
router no run of calls stores an answer or a rejection under the tag of a FakeIP server
(`DNSRouter.noFakeIPEntries_run`): a route to one sets `disable_cache`, `Start` refuses an
`evaluate` rule with one, and the transport manager refuses one as the default.
-/

namespace SingBox

variable {σ α : Type}

/-! ### One exchange -/

namespace Client

variable (c : Client α)

theorem exchangeFresh_snd_true (now : Nat) (transport : DNSTransport α) (message : Msg α)
    (question : Question) (options : DNSQueryOptions α) (responseChecker : Option (Msg α → Bool)) :
    (c.exchangeFresh now transport message question options responseChecker true).2 = c := by
  unfold exchangeFresh
  simp only [Bool.not_true, Bool.false_and, Bool.false_eq_true, if_false, Bool.true_or, if_true]
  split
  · rfl
  · split <;> rfl

theorem Exchange_snd_of_disableCache {options : DNSQueryOptions α} (h : options.disableCache = true)
    (now : Nat) (transport : DNSTransport α) (message : Msg α)
    (responseChecker : Option (Msg α → Bool)) :
    (c.Exchange now transport message options responseChecker).2 = c := by
  unfold Exchange
  split
  · rfl
  · split
    · rfl
    · simp only [h, Bool.or_true, if_true, exchangeFresh_snd_true]

/-- `c'` holds what `c` holds in both caches under every key of the tag. -/
def SameAt (tag : String) (c' : Client α) : Prop :=
  (∀ key : CacheKey, key.transportTag = tag → c'.cache key = c.cache key) ∧
    ∀ key : RDRCKey, key.transportTag = tag → c'.rdrc key = c.rdrc key

theorem SameAt.refl (tag : String) : c.SameAt tag c := ⟨fun _ _ => rfl, fun _ _ => rfl⟩

theorem SameAt.trans {tag : String} {c₀ c₁ c₂ : Client α} (h₁ : c₀.SameAt tag c₁)
    (h₂ : c₁.SameAt tag c₂) : c₀.SameAt tag c₂ :=
  ⟨fun key hkey => (h₂.1 key hkey).trans (h₁.1 key hkey),
    fun key hkey => (h₂.2 key hkey).trans (h₁.2 key hkey)⟩

section Tag

variable {transport : DNSTransport α} {tag : String} (htag : transport.tag ≠ tag)
include htag

theorem storeCache_sameAt (now : Nat) (question : Question) (message : Msg α) (timeToLive : Nat) :
    c.SameAt tag (c.storeCache now transport question message timeToLive) := by
  unfold storeCache
  split
  · exact SameAt.refl c tag
  · refine ⟨fun key hkey => Function.update_of_ne ?_ _ _, fun _ _ => rfl⟩
    rintro rfl
    exact htag hkey

theorem saveRDRC_sameAt (question : Question) : c.SameAt tag (c.saveRDRC transport question) := by
  unfold saveRDRC
  split
  · refine ⟨fun _ _ => rfl, fun key hkey => Function.update_of_ne ?_ _ _⟩
    rintro rfl
    exact htag hkey
  · exact SameAt.refl c tag

theorem loadResponse_sameAt (now : Nat) (question : Question) :
    c.SameAt tag (c.loadResponse now question transport).2 := by
  unfold loadResponse
  split
  · exact SameAt.refl c tag
  · split
    · exact SameAt.refl c tag
    · split
      · exact SameAt.refl c tag
      · split
        · split
          · exact SameAt.refl c tag
          · refine ⟨fun key hkey => Function.update_of_ne ?_ _ _, fun _ _ => rfl⟩
            rintro rfl
            exact htag hkey
        · exact SameAt.refl c tag

theorem backgroundRefreshDNS_sameAt (now : Nat) (question : Question) (message : Msg α)
    (options : DNSQueryOptions α) (responseChecker : Option (Msg α → Bool)) :
    c.SameAt tag (c.backgroundRefreshDNS now transport question message options responseChecker) := by
  unfold backgroundRefreshDNS
  split
  · exact SameAt.refl c tag
  · split
    · split
      · exact c.saveRDRC_sameAt htag question
      · exact c.storeCache_sameAt htag ..
    · split
      · exact SameAt.refl c tag
      · exact c.storeCache_sameAt htag ..

theorem exchangeFresh_sameAt (now : Nat) (message : Msg α) (question : Question)
    (options : DNSQueryOptions α) (responseChecker : Option (Msg α → Bool)) (disableCache : Bool) :
    c.SameAt tag (c.exchangeFresh now transport message question options responseChecker disableCache).2 := by
  unfold exchangeFresh
  split
  · exact SameAt.refl c tag
  · split
    · exact SameAt.refl c tag
    · dsimp only
      split
      · split
        · exact SameAt.refl c tag
        · exact c.saveRDRC_sameAt htag question
      · split
        · exact SameAt.refl c tag
        · exact c.storeCache_sameAt htag ..

theorem Exchange_sameAt (now : Nat) (message : Msg α) (options : DNSQueryOptions α)
    (responseChecker : Option (Msg α → Bool)) :
    c.SameAt tag (c.Exchange now transport message options responseChecker).2 := by
  unfold Exchange
  cases message.question with
  | nil => exact SameAt.refl c tag
  | cons question tail =>
    dsimp only
    split
    · exact SameAt.refl c tag
    · have hload : c.SameAt tag (if !isSimpleRequest (c.prepareExchangeMessage message options) options ||
          c.disableCache || options.disableCache then ((none : Option (Msg α × Nat × Bool)), c)
          else c.loadResponse now question transport).2 := by
        split
        · exact SameAt.refl c tag
        · exact c.loadResponse_sameAt htag now question
      split
      · split
        · exact hload.trans (Client.backgroundRefreshDNS_sameAt _ htag ..)
        · exact hload.trans (Client.exchangeFresh_sameAt _ htag ..)
      · exact hload
      · exact hload.trans (Client.exchangeFresh_sameAt _ htag ..)

theorem questionCache_sameAt (now : Nat) (question : Question) (message : Msg α)
    (options : DNSQueryOptions α) (responseChecker : Option (Msg α → Bool)) :
    c.SameAt tag (c.questionCache now transport question message options responseChecker).2 := by
  have hload := c.loadResponse_sameAt htag now question
  unfold questionCache
  split
  · rename_i c' hcached
    rw [hcached] at hload
    exact hload
  · rename_i c' hcached
    rw [hcached] at hload
    split
    · split
      · exact hload
      · exact hload.trans (c'.backgroundRefreshDNS_sameAt htag ..)
    · exact hload

end Tag

end Client

/-! ### The flags the loops send -/

@[simp] theorem DNSRouteOptions.apply_disableCache (routeOptions : DNSRouteOptions) (disableCache : Bool)
    (options : DNSQueryOptions α) :
    (routeOptions.apply disableCache options).disableCache = (options.disableCache || disableCache) := rfl

@[simp] theorem applyDNSRouteOptions_disableCache (options : DNSQueryOptions α)
    (routeOptions : DNSRouteOptions) :
    (applyDNSRouteOptions options routeOptions).disableCache =
      (options.disableCache || routeOptions.disableCache) := rfl

@[simp] theorem Router.withDefaultStrategy_disableCache (r : Router σ α) (options : DNSQueryOptions α) :
    (r.withDefaultStrategy options).disableCache = options.disableCache := by
  unfold Router.withDefaultStrategy
  split <;> rfl

theorem DNSRouter.resolveDNSRoute_resolved (r : DNSRouter σ α) {server : String}
    {routeOptions : DNSRouteOptions} {allowFakeIP : Bool} {options queryOptions : DNSQueryOptions α}
    {transport : DNSTransport α}
    (h : r.resolveDNSRoute server routeOptions allowFakeIP options =
      (some transport, .dnsRouteStatusResolved, queryOptions)) :
    r.transport server = some transport ∧
      ((options.disableCache || transport.isFakeIP) = true → queryOptions.disableCache = true) := by
  unfold DNSRouter.resolveDNSRoute at h
  split at h
  · cases h
  · rename_i transport' htransport
    split at h
    · cases h
    · simp only [Prod.mk.injEq, Option.some.injEq, true_and] at h
      obtain ⟨rfl, rfl⟩ := h
      refine ⟨htransport, fun hflag => ?_⟩
      cases hfake : transport'.isFakeIP
      · simp_all
      · simp

namespace Router

variable (r : Router σ α) {m : InboundContext σ α} {allowFakeIP isAddressQuery : Bool}
  {rules : List (DNSRuleEntry σ α)} {options : DNSQueryOptions α}

theorem matchDNS_disableCache {result : DNSMatch σ α} {dnsOptions : DNSQueryOptions α}
    (h : r.matchDNS m allowFakeIP isAddressQuery rules options = (result, dnsOptions))
    (hd : options.disableCache = true) : dnsOptions.disableCache = true := by
  have hraised : (r.matchDNS m allowFakeIP isAddressQuery rules options).2.disableCache = true :=
    r.matchDNS_options (fun options => options.disableCache = true)
      (fun _ _ _ _ _ _ ho => by simp [ho]) hd
  rw [h] at hraised
  exact hraised

/-- `matchDNS` routes to a FakeIP server with the flag on. -/
theorem matchDNS_route_disableCache {transport : DNSTransport α} {rule : DNSRule σ α}
    {rest : List (DNSRuleEntry σ α)} {dnsOptions : DNSQueryOptions α}
    (h : r.matchDNS m allowFakeIP isAddressQuery rules options = (.route transport rule rest, dnsOptions))
    (hfake : transport.isFakeIP = true) : dnsOptions.disableCache = true := by
  induction rules generalizing options with
  | nil => simp [matchDNS] at h
  | cons entry rules ih =>
    rcases r.matchDNS_cons entry rules options with
      (heq | ⟨_, -, heq⟩) | ⟨_, _, _, -, -, heq⟩ | ⟨_, heq⟩ | ⟨_, _, _, _, heq⟩ <;> rw [heq] at h
    · exact ih h
    · exact ih h
    · simp only [Prod.mk.injEq, DNSMatch.route.injEq] at h
      obtain ⟨⟨rfl, -, -⟩, rfl⟩ := h
      simp [hfake]
    · cases h
    · cases h

end Router

/-- The exchanges a call whose options carry the disable-cache flag `d₀` can make: to the
default transport and to the server of an `evaluate` rule with at least that flag, to any
other transport of the router with the flag forced on where it is a FakeIP server. -/
structure DNSRouter.Admits (r : DNSRouter σ α) (Allowed : DNSTransport α → Bool → Prop) (d₀ : Bool) :
    Prop where
  defaultTransport : Allowed r.defaultTransport d₀
  transport : ∀ server transport, r.transport server = some transport →
    Allowed transport (d₀ || transport.isFakeIP)
  evaluate : ∀ entry ∈ r.rules, ∀ server routeOptions transport,
    entry.action = .evaluate server routeOptions → r.transport server = some transport →
    Allowed transport d₀

/-- The options a call carries. -/
def DNSCall.options : DNSCall σ α → DNSQueryOptions α
  | .exchange _ _ options _ => options
  | .lookup _ _ options _ => options

/-! ### The invariant rule of every call -/

section Invariant

variable (P : Client α → Prop) (Allowed : DNSTransport α → Bool → Prop)
  (hstep : ∀ (c : Client α) now transport message (options : DNSQueryOptions α) responseChecker,
    P c → Allowed transport options.disableCache →
      P (c.Exchange now transport message options responseChecker).2)
  (hcache : ∀ (c : Client α) now transport question message (options : DNSQueryOptions α)
    responseChecker, P c → Allowed transport false →
      P (c.questionCache now transport question message options responseChecker).2)
  (hmono : ∀ transport disableCache, Allowed transport disableCache → Allowed transport true)

include hmono in
theorem allowed_of_le {transport : DNSTransport α} {d₀ d : Bool} (h : Allowed transport d₀)
    (hd : d₀ = true → d = true) : Allowed transport d := by
  cases d
  · cases d₀
    · exact h
    · exact absurd (hd rfl) Bool.false_ne_true
  · exact hmono _ _ h

section Allowed

variable (r : Router σ α) {d₀ : Bool} (hdefault : Allowed r.defaultTransport d₀)
  (htransport : ∀ server transport, r.transport server = some transport →
    Allowed transport (d₀ || transport.isFakeIP))
  {m : InboundContext σ α} {allowFakeIP isAddressQuery : Bool} {options : DNSQueryOptions α}
  (hd : d₀ = true → options.disableCache = true)

include hmono hd

include htransport in
theorem Router.allowed_of_matchDNS_route {rules : List (DNSRuleEntry σ α)} {transport : DNSTransport α}
    {rule : DNSRule σ α} {rest : List (DNSRuleEntry σ α)} {dnsOptions : DNSQueryOptions α}
    (h : r.matchDNS m allowFakeIP isAddressQuery rules options = (.route transport rule rest, dnsOptions)) :
    Allowed transport dnsOptions.disableCache := by
  obtain ⟨-, server, hserver⟩ := r.matchDNS_route h
  have hflag : (d₀ || transport.isFakeIP) = true → dnsOptions.disableCache = true := by
    intro hor
    rcases Bool.or_eq_true_iff.mp hor with hd₀ | hfake
    · exact r.matchDNS_disableCache h (hd hd₀)
    · exact r.matchDNS_route_disableCache h hfake
  exact allowed_of_le Allowed hmono (htransport server transport hserver) hflag

include hdefault in
theorem Router.allowed_of_matchDNS_fallback {rules : List (DNSRuleEntry σ α)} {transport : DNSTransport α}
    {dnsOptions : DNSQueryOptions α}
    (h : r.matchDNS m allowFakeIP isAddressQuery rules options = (.fallback transport, dnsOptions)) :
    Allowed transport dnsOptions.disableCache := by
  rw [r.matchDNS_fallback h]
  exact allowed_of_le Allowed hmono hdefault fun hd₀ => r.matchDNS_disableCache h (hd hd₀)

end Allowed

include hstep hcache

theorem Client.lookupToExchange_invariant {c : Client α} (hc : P c) {transport : DNSTransport α}
    {options : DNSQueryOptions α} (hallowed : Allowed transport options.disableCache) (now : Nat)
    (name : String) (qType : Nat) (responseChecker : Option (Msg α → Bool)) :
    P (c.lookupToExchange now transport name qType options responseChecker).2 := by
  have hcached : P (if c.disableCache || options.disableCache then (none, c)
      else c.questionCache now transport ⟨name, qType, classINET⟩
        (Client.lookupMessage ⟨name, qType, classINET⟩) options responseChecker).2 := by
    split
    · exact hc
    · rename_i hd
      have hoff : options.disableCache = false := by simp_all
      exact hcache _ _ _ _ _ _ _ hc (hoff ▸ hallowed)
  rw [Client.lookupToExchange_eq]
  generalize (if c.disableCache || options.disableCache then (none, c)
      else c.questionCache now transport ⟨name, qType, classINET⟩
        (Client.lookupMessage ⟨name, qType, classINET⟩) options responseChecker) = cached at hcached ⊢
  rcases cached with ⟨_ | result, c'⟩
  · exact hstep _ _ _ _ _ _ hcached hallowed
  · exact hcached

theorem Client.Lookup_invariant {c : Client α} (hc : P c) {transport : DNSTransport α}
    {options : DNSQueryOptions α} (hallowed : Allowed transport options.disableCache) (now : Nat)
    (domain : String) (responseChecker : Option (Msg α → Bool)) :
    P (c.Lookup now transport domain options responseChecker).2 := by
  unfold Client.Lookup
  dsimp only
  generalize hL : (if options.lookupStrategy ≠ .asIS then
    ({ options with strategy := if options.lookupStrategy ≠ .asIS then options.lookupStrategy
        else options.strategy } : DNSQueryOptions α) else options) = lookupOptions
  have hallowedL : Allowed transport lookupOptions.disableCache := by
    rw [← hL]
    split <;> exact hallowed
  have h4 := Client.lookupToExchange_invariant P Allowed hstep hcache hc hallowedL now
    (Fqdn (FqdnToDomain domain)) typeA responseChecker
  have h6 := Client.lookupToExchange_invariant P Allowed hstep hcache h4 hallowedL now
    (Fqdn (FqdnToDomain domain)) typeAAAA responseChecker
  split
  · exact h4
  · exact Client.lookupToExchange_invariant P Allowed hstep hcache hc hallowedL _ _ _ _
  · split
    · split <;> exact h6
    · exact h6

include hmono

omit hcache in
/-- The rule loop. Induction on the rules left; the client, the options and the evaluated
response are what the loop carries from one rule to the next. -/
theorem DNSRouter.exchangeWithRules_invariant (r : DNSRouter σ α) {d₀ : Bool} (ha : r.Admits Allowed d₀)
    (now : Nat) (message : Msg α) (question : Question) (m : InboundContext σ α) (allowFakeIP : Bool) :
    ∀ (rules : List (DNSEntry σ α)), rules ⊆ r.rules →
      ∀ (options : DNSQueryOptions α) evaluatedResponse evaluatedTransport (c : Client α),
      (d₀ = true → options.disableCache = true) → P c →
      P (r.exchangeWithRules now message question m allowFakeIP rules options evaluatedResponse
        evaluatedTransport c).2 := by
  intro rules
  induction rules with
  | nil =>
    intro _ options _ _ c hd hc
    exact hstep _ _ _ _ _ _ hc
      (allowed_of_le Allowed hmono ha.defaultTransport (by simpa using hd))
  | cons entry rules ih =>
    intro hrules options evaluatedResponse evaluatedTransport c hd hc
    have hentry : entry ∈ r.rules := hrules List.mem_cons_self
    have hrest := ih fun _ h => hrules (List.mem_cons_of_mem _ h)
    unfold DNSRouter.exchangeWithRules
    split
    · split
      · exact hrest _ _ _ _ (fun h => by simp [hd h]) hc
      · rename_i server routeOptions haction
        split
        · exact hrest _ _ _ _ hd hc
        · rename_i transport htransport
          have hevaluate := hstep c now transport message
            (r.toRouter.withDefaultStrategy (applyDNSRouteOptions options routeOptions)) none hc
            (allowed_of_le Allowed hmono (ha.evaluate entry hentry server routeOptions transport haction
              htransport) (fun h => by simp [hd h]))
          split
          · rename_i c' hexchange
            rw [hexchange] at hevaluate
            exact hrest _ _ _ _ hd hevaluate
          · rename_i c' hexchange
            rw [hexchange] at hevaluate
            exact hrest _ _ _ _ hd hevaluate
      · split <;> exact hc
      · split
        · rename_i transport queryOptions hresolve
          obtain ⟨htransport, hflag⟩ := r.resolveDNSRoute_resolved hresolve
          have hflag' : (d₀ || transport.isFakeIP) = true → queryOptions.disableCache = true := by
            intro h
            apply hflag
            cases d₀ <;> simp_all
          exact hstep _ _ _ _ _ _ hc
            (allowed_of_le Allowed hmono (ha.transport _ _ htransport) (by simpa using hflag'))
        · exact hrest _ _ _ _ hd hc
      · exact hc
      · exact hc
      · exact hc
    · exact hrest _ _ _ _ hd hc

section Legacy

variable (r : Router σ α) {d₀ : Bool} (hdefault : Allowed r.defaultTransport d₀)
  (htransport : ∀ server transport, r.transport server = some transport →
    Allowed transport (d₀ || transport.isFakeIP))
  {m : InboundContext σ α} {options : DNSQueryOptions α}
  (hd : d₀ = true → options.disableCache = true)

include hdefault htransport hd

omit hcache in
/-- The legacy loop of `Router.Exchange`, by recursion on the rules it has left, as the loop
itself. -/
theorem Router.exchangeLegacy_invariant (now : Nat) (message : Msg α) (question : Question)
    (rules : List (DNSRuleEntry σ α)) (c : Client α) (hc : P c) :
    P (r.exchangeLegacy now message question m options rules c).2 := by
  rw [Router.exchangeLegacy_eq]
  split
  · rename_i transport dnsOptions hmatch
    exact hstep _ _ _ _ _ _ hc (by
      rw [Router.withDefaultStrategy_disableCache]
      exact r.allowed_of_matchDNS_fallback Allowed hmono hdefault hd hmatch)
  · exact hc
  · exact hc
  · exact hc
  · rename_i transport rule rest dnsOptions hmatch
    have hexchange := hstep c now transport message (r.withDefaultStrategy dnsOptions)
      (addressLimitResponseCheck rule m) hc (by
        rw [Router.withDefaultStrategy_disableCache]
        exact r.allowed_of_matchDNS_route Allowed hmono htransport hd hmatch)
    split
    · rename_i err c' heq
      rw [heq] at hexchange
      split
      · exact Router.exchangeLegacy_invariant now message question rest c' hexchange
      · exact hexchange
    · rename_i response c' heq
      rw [heq] at hexchange
      exact hexchange
termination_by rules.length
decreasing_by exact r.length_lt_of_matchDNS (by assumption)

/-- The legacy loop of `Router.Lookup`, the same way. -/
theorem Router.lookupLegacy_invariant (now : Nat) (domain : String) (rules : List (DNSRuleEntry σ α))
    (c : Client α) (hc : P c) : P (r.lookupLegacy now domain m options rules c).2 := by
  rw [Router.lookupLegacy_eq]
  split
  · rename_i transport dnsOptions hmatch
    exact Client.Lookup_invariant P Allowed hstep hcache hc (by
      rw [Router.withDefaultStrategy_disableCache]
      exact r.allowed_of_matchDNS_fallback Allowed hmono hdefault hd hmatch) _ _ _
  · exact hc
  · exact hc
  · rename_i transport rule rest dnsOptions hmatch
    have hallowed : Allowed transport (r.withDefaultStrategy dnsOptions).disableCache := by
      rw [Router.withDefaultStrategy_disableCache]
      exact r.allowed_of_matchDNS_route Allowed hmono htransport hd hmatch
    have hlookup := Client.Lookup_invariant P Allowed hstep hcache hc hallowed now domain
      (addressLimitResponseCheck rule m)
    split
    · rename_i err c' heq
      rw [heq] at hlookup
      split
      · exact Router.lookupLegacy_invariant now domain rest c' hlookup
      · exact hlookup
    · rename_i addresses c' heq
      rw [heq] at hlookup
      exact hlookup
termination_by rules.length
decreasing_by exact r.length_lt_of_matchDNS (by assumption)

end Legacy

section Rules

variable (r : DNSRouter σ α) {d₀ : Bool} (ha : r.Admits Allowed d₀) (is4 : α → Bool)
  {rules : List (DNSEntry σ α)} (hrules : rules ⊆ r.rules) (domain : String) (m : InboundContext σ α)
  {options : DNSQueryOptions α} (hd : d₀ = true → options.disableCache = true)

include ha hrules hd

omit hcache in
theorem DNSRouter.lookupWithRulesType_invariant (now qType : Nat) {c : Client α} (hc : P c) :
    P (r.lookupWithRulesType is4 rules now domain qType m options c).2 := by
  have hloop := r.exchangeWithRules_invariant P Allowed hstep hmono ha now
    (Client.lookupMessage ⟨Fqdn domain, qType, classINET⟩) ⟨Fqdn domain, qType, classINET⟩
    { m with conn := r.lookupQueryMetadata m.conn qType } false rules hrules options none none c hd hc
  unfold DNSRouter.lookupWithRulesType
  dsimp only
  split
  · exact hloop
  · exact hloop
  · split
    · exact hloop
    · exact hloop

omit hcache in
theorem DNSRouter.lookupWithRules_invariant (now : Nat) {c : Client α} (hc : P c) :
    P (r.lookupWithRules is4 rules now domain m options c).2 := by
  unfold DNSRouter.lookupWithRules
  dsimp only
  generalize hL : (if r.resolveLookupStrategy options ≠ .asIS then
    ({ options with strategy := r.resolveLookupStrategy options } : DNSQueryOptions α)
      else options) = lookupOptions
  have hdL : d₀ = true → lookupOptions.disableCache = true := by
    rw [← hL]
    split <;> exact hd
  have h4 := r.lookupWithRulesType_invariant P Allowed hstep hmono ha is4 hrules domain m hdL
    now typeA hc
  have h6 := r.lookupWithRulesType_invariant P Allowed hstep hmono ha is4 hrules domain m hdL
    now typeAAAA h4
  split
  · exact h4
  · split
    · exact r.lookupWithRulesType_invariant P Allowed hstep hmono ha is4 hrules domain m hdL
        now typeAAAA hc
    · split
      · split <;> exact h6
      · exact h6

end Rules

omit hcache in
/-- `Router.Exchange`, in either mode, with the transport the call names admitted too. -/
theorem DNSRouter.Exchange_invariant (r : DNSRouter σ α) {options : DNSQueryOptions α}
    (ha : r.Admits Allowed options.disableCache)
    (hnamed : ∀ transport, options.transport = some transport → Allowed transport options.disableCache)
    {c : Client α} (hc : P c) (now : Nat) (message : Msg α) (m : InboundContext σ α) :
    P (r.Exchange c now message options m).2 := by
  unfold DNSRouter.Exchange
  split
  · split
    · exact hc
    · split
      · rename_i transport htransport
        exact hstep _ _ _ _ _ _ hc (by
          rw [Router.withDefaultStrategy_disableCache]
          exact hnamed transport htransport)
      · split
        · exact r.toRouter.exchangeLegacy_invariant P Allowed hstep hmono ha.defaultTransport
            ha.transport id now message _ r.toRouter.rules c hc
        · exact r.exchangeWithRules_invariant P Allowed hstep hmono ha now message _ _ true
            r.rules (List.Subset.refl _) options none none c id hc
  · exact hc

theorem DNSRouter.Lookup_invariant (r : DNSRouter σ α) {options : DNSQueryOptions α}
    (ha : r.Admits Allowed options.disableCache)
    (hnamed : ∀ transport, options.transport = some transport → Allowed transport options.disableCache)
    (is4 : α → Bool) {c : Client α} (hc : P c) (now : Nat) (domain : String) (m : InboundContext σ α) :
    P (r.Lookup is4 c now domain options m).2 := by
  unfold DNSRouter.Lookup
  split
  · exact hc
  · dsimp only
    split
    · rename_i transport htransport
      exact Client.Lookup_invariant P Allowed hstep hcache hc (by
        rw [Router.withDefaultStrategy_disableCache]
        exact hnamed transport htransport) _ _ _
    · split
      · have hlegacy := r.toRouter.lookupLegacy_invariant P Allowed hstep hcache hmono
          ha.defaultTransport ha.transport (m := r.toRouter.lookupMetadataOf m domain) id now domain
          r.toRouter.rules c hc
        split <;> rename_i heq <;> rw [heq] at hlegacy <;> exact hlegacy
      · exact r.lookupWithRules_invariant P Allowed hstep hmono ha is4 (List.Subset.refl _)
          domain _ id now hc

/-- One call of either kind. -/
theorem DNSRouter.step_invariant (r : DNSRouter σ α) (is4 : α → Bool) {call : DNSCall σ α}
    (ha : r.Admits Allowed call.options.disableCache)
    (hnamed : ∀ transport, call.options.transport = some transport →
      Allowed transport call.options.disableCache)
    {c : Client α} (hc : P c) : P (r.step is4 c call).2 := by
  cases call with
  | exchange now message options m =>
    exact r.Exchange_invariant P Allowed hstep hmono ha hnamed hc now message m
  | lookup now domain options m =>
    exact r.Lookup_invariant P Allowed hstep hcache hmono ha hnamed is4 hc now domain m

end Invariant

/-! ### A call with the cache disabled -/

theorem DNSRouter.admits_disableCache (r : DNSRouter σ α) :
    r.Admits (fun _ disableCache => disableCache = true) true :=
  ⟨rfl, fun _ _ _ => Bool.true_or _, fun _ _ _ _ _ _ _ => rfl⟩

theorem DNSRouter.step_disableCache (r : DNSRouter σ α) (is4 : α → Bool) {call : DNSCall σ α}
    (h : call.options.disableCache = true) (c : Client α) : (r.step is4 c call).2 = c := by
  have hstep : ∀ (c' : Client α) now transport message (options : DNSQueryOptions α) responseChecker,
      c' = c → options.disableCache = true →
        (c'.Exchange now transport message options responseChecker).2 = c := by
    intro c' now transport message options responseChecker hc' hd
    rw [Client.Exchange_snd_of_disableCache c' hd, hc']
  have ha : r.Admits (fun _ disableCache => disableCache = true) call.options.disableCache := by
    rw [h]
    exact r.admits_disableCache
  exact r.step_invariant (· = c) (fun _ disableCache => disableCache = true) hstep
    (fun _ _ _ _ _ _ _ _ hoff => absurd hoff Bool.false_ne_true) (fun _ _ _ => rfl) is4 ha
    (fun _ _ => h) rfl

theorem DNSRouter.run_disableCache (r : DNSRouter σ α) (is4 : α → Bool) (calls : List (DNSCall σ α))
    (hcalls : ∀ call ∈ calls, call.options.disableCache = true) (c : Client α) :
    (LockStep.run (r.step is4) c calls).2 = c :=
  LockStep.run_invariant (· = c) (fun call => call.options.disableCache = true)
    (fun c' _ hc' hcall => hc' ▸ r.step_disableCache is4 hcall c') calls c rfl hcalls

/-- An exchange and a lookup through the rules of `fakeIPRouter`. -/
def fakeIPCalls (disableCache : Bool) : List (DNSCall Unit Nat) :=
  [.exchange 0 exampleQuery { localOptions with transport := none, disableCache } exampleMetadata,
    .lookup 0 "example.com" { localOptions with transport := none, disableCache } exampleMetadata]

theorem fakeIPRouter_run_disableCache :
    (∀ call ∈ fakeIPCalls true, call.options.disableCache = true) ∧
      (LockStep.run (fakeIPRouter.step fun _ => true) cachingClient (fakeIPCalls true)).2 =
        cachingClient := by
  refine ⟨?hcalls, DNSRouter.run_disableCache fakeIPRouter _ (fakeIPCalls true) ?hcalls cachingClient⟩
  decide

/-! ### No FakeIP answer in the caches -/

/-- Whether the router keeps a FakeIP server under a tag. -/
def DNSRouter.isFakeIPTag (r : DNSRouter σ α) (tag : String) : Bool :=
  (r.transport tag).any DNSTransport.isFakeIP

/-- The router as `Start` leaves it: every transport under its own tag, the default among
them and not a FakeIP server, no FakeIP server under the empty tag (`Create` refuses it), and
no `evaluate` rule whose server is a FakeIP one (`validateEvaluateFakeIPRules`). -/
structure DNSRouter.Started (r : DNSRouter σ α) : Prop where
  transport_tag : ∀ server transport, r.transport server = some transport → transport.tag = server
  defaultTransport : r.transport r.defaultTransport.tag = some r.defaultTransport
  defaultTransport_isFakeIP : r.defaultTransport.isFakeIP = false
  isFakeIPTag_empty : r.isFakeIPTag "" = false
  evaluate : validateEvaluateFakeIPRules r.transport r.rules = .ok ()

/-- No answer and no rejection of the client is stored under the tag of a FakeIP server. -/
structure DNSRouter.NoFakeIPEntries (r : DNSRouter σ α) (c : Client α) : Prop where
  cache : ∀ key : CacheKey, r.isFakeIPTag key.transportTag = true → c.cache key = none
  rdrc : ∀ key : RDRCKey, r.isFakeIPTag key.transportTag = true → c.rdrc key = false

/-- What the validation passes: the server of every `evaluate` rule is empty or not a FakeIP
server. -/
theorem validateEvaluateFakeIPRulesFrom_evaluate {transport : String → Option (DNSTransport α)} :
    ∀ {i : Nat} {rules : List (DNSEntry σ α)}, validateEvaluateFakeIPRulesFrom transport i rules = .ok () →
    ∀ entry ∈ rules, ∀ server routeOptions, entry.action = .evaluate server routeOptions →
      server = "" ∨ (transport server).any DNSTransport.isFakeIP = false
  | _, [], _ => by simp
  | i, entry :: rules, h => by
    intro entry' hentry' server routeOptions haction
    unfold validateEvaluateFakeIPRulesFrom at h
    split at h
    · rename_i server' routeOptions' hevaluate
      split at h
      · cases h
      · rename_i hvalid
        rcases List.mem_cons.mp hentry' with rfl | hentry'
        · rw [haction, DNSAction.evaluate.injEq] at hevaluate
          obtain ⟨rfl, -⟩ := hevaluate
          by_cases hempty : server = ""
          · exact Or.inl hempty
          · exact Or.inr (by simpa [hempty] using hvalid)
        · exact validateEvaluateFakeIPRulesFrom_evaluate h entry' hentry' server routeOptions haction
    · rename_i hnot
      rcases List.mem_cons.mp hentry' with rfl | hentry'
      · exact absurd haction (hnot server routeOptions)
      · exact validateEvaluateFakeIPRulesFrom_evaluate h entry' hentry' server routeOptions haction

namespace DNSRouter.Started

variable {r : DNSRouter σ α} (hs : r.Started)
include hs

theorem isFakeIPTag_tag {server : String} {transport : DNSTransport α}
    (h : r.transport server = some transport) : r.isFakeIPTag transport.tag = transport.isFakeIP := by
  rw [hs.transport_tag server transport h, isFakeIPTag, h]
  rfl

theorem evaluate_isFakeIPTag {entry : DNSEntry σ α} (hentry : entry ∈ r.rules) {server : String}
    {routeOptions : DNSRouteOptions} (haction : entry.action = .evaluate server routeOptions) :
    r.isFakeIPTag server = false := by
  rcases validateEvaluateFakeIPRulesFrom_evaluate hs.evaluate entry hentry server routeOptions haction
    with rfl | hfake
  · exact hs.isFakeIPTag_empty
  · exact hfake

theorem admits (d₀ : Bool) :
    r.Admits (fun transport disableCache => r.isFakeIPTag transport.tag = false ∨ disableCache = true)
      d₀ where
  defaultTransport := by
    left
    rw [hs.isFakeIPTag_tag hs.defaultTransport]
    exact hs.defaultTransport_isFakeIP
  transport server transport h := by
    cases hfake : transport.isFakeIP
    · left
      rw [hs.isFakeIPTag_tag h, hfake]
    · right
      exact Bool.or_true d₀
  evaluate entry hentry server routeOptions transport haction h := by
    left
    rw [hs.transport_tag server transport h]
    exact hs.evaluate_isFakeIPTag hentry haction

end DNSRouter.Started

theorem DNSRouter.NoFakeIPEntries.of_sameAt {r : DNSRouter σ α} {c c' : Client α}
    (hc : r.NoFakeIPEntries c) (h : ∀ tag, r.isFakeIPTag tag = true → c.SameAt tag c') :
    r.NoFakeIPEntries c' :=
  ⟨fun key hkey => ((h _ hkey).1 key rfl).trans (hc.cache key hkey),
    fun key hkey => ((h _ hkey).2 key rfl).trans (hc.rdrc key hkey)⟩

theorem DNSRouter.tag_ne_of_isFakeIPTag {r : DNSRouter σ α} {transport : DNSTransport α}
    (htag : r.isFakeIPTag transport.tag = false) {tag : String} (hfake : r.isFakeIPTag tag = true) :
    transport.tag ≠ tag := by
  rintro rfl
  rw [htag] at hfake
  exact Bool.false_ne_true hfake

theorem DNSRouter.NoFakeIPEntries.exchange {r : DNSRouter σ α} {c : Client α} (hc : r.NoFakeIPEntries c)
    {transport : DNSTransport α} (now : Nat) (message : Msg α) {options : DNSQueryOptions α}
    (responseChecker : Option (Msg α → Bool))
    (hallowed : r.isFakeIPTag transport.tag = false ∨ options.disableCache = true) :
    r.NoFakeIPEntries (c.Exchange now transport message options responseChecker).2 := by
  rcases hallowed with htag | hd
  · exact hc.of_sameAt fun _ hfake =>
      c.Exchange_sameAt (r.tag_ne_of_isFakeIPTag htag hfake) now message options responseChecker
  · rw [Client.Exchange_snd_of_disableCache c hd]
    exact hc

theorem DNSRouter.NoFakeIPEntries.questionCache {r : DNSRouter σ α} {c : Client α}
    (hc : r.NoFakeIPEntries c) {transport : DNSTransport α} (htag : r.isFakeIPTag transport.tag = false)
    (now : Nat) (question : Question) (message : Msg α) (options : DNSQueryOptions α)
    (responseChecker : Option (Msg α → Bool)) :
    r.NoFakeIPEntries (c.questionCache now transport question message options responseChecker).2 :=
  hc.of_sameAt fun _ hfake =>
    c.questionCache_sameAt (r.tag_ne_of_isFakeIPTag htag hfake) now question message options
      responseChecker

/-- **No FakeIP answer is ever cached.** On a started router, a run of calls none of which
names a FakeIP transport with the cache on leaves no answer and no rejection under the tag of
a FakeIP server, in either mode: a route to one sets `disable_cache`, no `evaluate` rule uses
one, and the default is none. -/
theorem DNSRouter.noFakeIPEntries_run (r : DNSRouter σ α) (hs : r.Started) (is4 : α → Bool)
    (calls : List (DNSCall σ α))
    (hcalls : ∀ call ∈ calls, ∀ transport, call.options.transport = some transport →
      r.isFakeIPTag transport.tag = false ∨ call.options.disableCache = true)
    (c : Client α) (hc : r.NoFakeIPEntries c) :
    r.NoFakeIPEntries (LockStep.run (r.step is4) c calls).2 :=
  LockStep.run_invariant r.NoFakeIPEntries
    (fun call => ∀ transport, call.options.transport = some transport →
      r.isFakeIPTag transport.tag = false ∨ call.options.disableCache = true)
    (fun _ _ hc' hcall => r.step_invariant r.NoFakeIPEntries
      (fun transport disableCache => r.isFakeIPTag transport.tag = false ∨ disableCache = true)
      (fun _ now _ message _ responseChecker hc hallowed => hc.exchange now message responseChecker hallowed)
      (fun _ now _ question message options responseChecker hc hallowed =>
        hc.questionCache (hallowed.resolve_right Bool.false_ne_true) now question message options
          responseChecker)
      (fun _ _ _ => Or.inr rfl) is4 (hs.admits _) hcall hc')
    calls c hc hcalls

end SingBox
