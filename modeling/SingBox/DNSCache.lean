import SingBox.DNSRouter

/-!
# When the DNS cache is transparent

The memory cache of the client answers a query with the response it stored for the same
question and transport. That answer is the one the transport would give now when the
transport answers each question with one fixed response (`FixedTransports`), and when the
stored response was processed as the new query would process it: no HTTPS hint filter of a
domain strategy applies, and no response checker is involved. The client then keeps
`Client.Coherent`: every cache entry is, TTLs aside, its transport's answer to its
question. This holds at any time: an expired entry within the optimistic timeout answers
with a TTL of one second and is refreshed by the same fixed answer, and one past it is
dropped.

Under these conditions a router in legacy mode whose rules have no address limit gives the
same results with its cache as without (`Router.forall₂_run_agree`), for every run of
`Router.Exchange` and `Router.Lookup` calls whose requests carry EDNS records that cover
their answers. The conditions are what the cache is keyed without: the checker of an
address-limit rule (the run at the end of `DNSRouter`), the domain strategy, and the
request's EDNS record.
-/

namespace SingBox

variable {α : Type}

/-! ### Messages -/

theorem RR.withTTL_of_opt {rr : RR α} (h : rr.Rrtype = typeOPT) (t : Nat) : rr.withTTL t = rr := by
  simp [RR.withTTL, h]

theorem IsEdns0_normalizeTTL (response : Msg α) (timeToLive : Nat) :
    (normalizeTTL response timeToLive).IsEdns0 = response.IsEdns0 := by
  simp only [Msg.IsEdns0, normalizeTTL, ← List.map_reverse, List.find?_map]
  have hp : ((fun rr : RR α => rr.Rrtype == typeOPT) ∘ RR.withTTL timeToLive) =
      fun rr => rr.Rrtype == typeOPT := by
    funext rr
    simp
  rw [hp]
  rcases h : response.extra.reverse.find? (fun rr => rr.Rrtype == typeOPT) with _ | rr
  · rw [h]
    rfl
  · have hopt : rr.Rrtype = typeOPT := by simpa using List.find?_some h
    rw [h, Option.map_some, RR.withTTL_of_opt hopt]

theorem IsEdns0_applyResponseOptions (question : Question) (response : Msg α)
    (options : DNSQueryOptions α) :
    (applyResponseOptions question response options).1.IsEdns0 = response.IsEdns0 := by
  simp only [applyResponseOptions, IsEdns0_normalizeTTL]
  split <;> rfl

theorem toDNSMessage_eq_of_view {response response' : Msg α} (h : response.view = response'.view) :
    response.toDNSMessage = response'.toDNSMessage := by
  simp only [Msg.view, Prod.mk.injEq] at h
  obtain ⟨hrcode, hanswer, -, -⟩ := h
  have haddresses : ∀ answer : List (RR α),
      answer.flatMap RR.addresses = (answer.map (RR.withTTL 0)).flatMap RR.addresses := by
    intro answer
    simp [List.flatMap_map]
  simp only [Msg.toDNSMessage, hrcode, haddresses response.answer, hanswer, ← haddresses]

theorem toDNSMessage_normalizeResponseEDNS (request response : Msg α) :
    (normalizeResponseEDNS request response).toDNSMessage = response.toDNSMessage := by
  unfold normalizeResponseEDNS
  split
  · rfl
  · split
    · rfl
    · split <;> rfl

theorem Client.addressesOf_eq_of_toDNSMessage {response response' : Msg α}
    (h : response.toDNSMessage = response'.toDNSMessage) :
    Client.addressesOf response = Client.addressesOf response' := by
  have hrcode : response.rcode = response'.rcode := congrArg DNSMessage.rcode h
  simp only [Client.addressesOf, MessageToAddresses, DNSResponseAddresses, h, hrcode]

theorem Client.addressesOf_processed {question : Question} {options : DNSQueryOptions α}
    (hhint : hintFilter question options.strategy = none) (message : Msg α) {response stored : Msg α}
    (hview : response.view = stored.view) :
    Client.addressesOf (normalizeResponseEDNS message
        { (applyResponseOptions question response options).1 with id := message.id }) =
      Client.addressesOf stored := by
  apply Client.addressesOf_eq_of_toDNSMessage
  rw [toDNSMessage_normalizeResponseEDNS]
  exact toDNSMessage_eq_of_view (by simp only [view_setId, view_applyResponseOptions, hhint, hview])

theorem head?_hintFilter {message : Msg α} {question : Question} (hq : message.question = [question])
    {strategy : DomainStrategy} (h : hintFilter question strategy = none) :
    ∀ question' ∈ message.question.head?, hintFilter question' strategy = none := by
  intro question' hquestion'
  simp only [hq, List.head?_cons, Option.mem_def, Option.some.injEq] at hquestion'
  rw [← hquestion', h]

/-! ### Fixed transports -/

/-- Transports that answer each question with one fixed response and that their tags tell
apart. -/
structure FixedTransports (known : DNSTransport α → Prop) : Prop where
  fixed : ∀ t, known t → ∀ m m' : Msg α, m.question = m'.question → t.exchange m = t.exchange m'
  tag_inj : ∀ t t', known t → known t' → t.tag = t'.tag → t = t'

section Fixed

variable {known : DNSTransport α → Prop}

theorem FixedTransports.map_view_exchangeToTransport (hfixed : FixedTransports known)
    {t : DNSTransport α} (ht : known t) {m m' : Msg α} (hq : m.question = m'.question) :
    (exchangeToTransport t m).map Msg.view = (exchangeToTransport t m').map Msg.view := by
  unfold exchangeToTransport
  rw [hfixed.fixed t ht m m' hq]
  rcases t.exchange m' with (_ | _) | _ <;> rfl

end Fixed

/-! ### The client -/

namespace Client

variable (c : Client α)

theorem clientSubnet_storeCache (now : Nat) (transport : DNSTransport α) (question : Question)
    (message : Msg α) (timeToLive : Nat) :
    (c.storeCache now transport question message timeToLive).clientSubnet = c.clientSubnet := by
  unfold storeCache
  split <;> rfl

theorem clientSubnet_storeFresh (now : Nat) (transport : DNSTransport α) (message : Msg α)
    (question : Question) (options : DNSQueryOptions α) :
    (c.storeFresh now transport message question options).clientSubnet = c.clientSubnet := by
  unfold storeFresh
  split
  · split
    · rfl
    · exact c.clientSubnet_storeCache ..
  · rfl

theorem clientSubnet_loadResponse (now : Nat) (question : Question) (transport : DNSTransport α) :
    (c.loadResponse now question transport).2.clientSubnet = c.clientSubnet := by
  unfold loadResponse
  split
  · rfl
  · split
    · rfl
    · split
      · rfl
      · split
        · split <;> rfl
        · rfl

/-- A response `loadResponse` gives is a cache entry of its key, its TTLs aside. -/
theorem loadResponse_fst_some {now : Nat} {question : Question} {transport : DNSTransport α}
    {stored : Msg α} {timeToLive : Nat} {isStale : Bool}
    (h : (c.loadResponse now question transport).1 = some (stored, timeToLive, isStale)) :
    ∃ response expireAt, c.cache ⟨question, transport.tag⟩ = some (response, expireAt) ∧
      stored.view = response.view := by
  unfold loadResponse at h
  split at h
  · cases h
  · split at h
    · cases h
    · rename_i response expireAt hkey
      refine ⟨response, expireAt, hkey, ?_⟩
      split at h
      · cases h
        rfl
      · split at h
        · split at h
          · cases h
            exact view_normalizeTTL response 1
          · cases h
        · cases h
          exact view_normalizeTTL response _

/-- `loadResponse` changes the cache only by removing an entry. -/
theorem cache_loadResponse (now : Nat) (question : Question) (transport : DNSTransport α)
    (key : CacheKey) :
    (c.loadResponse now question transport).2.cache key = c.cache key ∨
      (c.loadResponse now question transport).2.cache key = none := by
  unfold loadResponse
  split
  · exact .inl rfl
  · split
    · exact .inl rfl
    · split
      · exact .inl rfl
      · split
        · split
          · exact .inl rfl
          · dsimp only
            by_cases hk : key = ⟨question, transport.tag⟩
            · subst hk
              exact .inr (Function.update_self ..)
            · exact .inl (Function.update_of_ne hk ..)
        · exact .inl rfl

theorem question_prepareExchangeMessage (message : Msg α) (options : DNSQueryOptions α) :
    (c.prepareExchangeMessage message options).question = message.question := by
  unfold prepareExchangeMessage
  split
  · dsimp only [SetClientSubnet]
    split <;> rfl
  · rfl

end Client

theorem isSimpleRequest_of_two_le {m : Msg α} (h : 2 ≤ m.extra.length) (options : DNSQueryOptions α) :
    isSimpleRequest m options = false := by
  rcases hE : m.extra with _ | ⟨x, _ | ⟨y, zs⟩⟩
  · simp [hE] at h
  · simp [hE] at h
  · simp [isSimpleRequest, hE]

/-- A request with a client subnet is not simple, so it is never answered from the cache. -/
theorem isSimpleRequest_SetClientSubnet (m : Msg α) (clientSubnet : Prefix)
    (options : DNSQueryOptions α) : isSimpleRequest (SetClientSubnet m clientSubnet) options = false := by
  rcases hE : m.extra with _ | ⟨rr, _ | ⟨rr', rest⟩⟩
  · simp [SetClientSubnet, isSimpleRequest, hE]
  · unfold SetClientSubnet
    simp only [hE, List.findIdx?_cons, List.findIdx?_nil, List.reverse_singleton]
    rcases hrr : rr.data with _ | _ | _ | _ | option | ⟨rrtype, rdata⟩
    case opt =>
      by_cases hsub : ∃ x ∈ option, x.Option = edns0Subnet
      · have hne : option ≠ [] := by
          obtain ⟨x, hx, -⟩ := hsub
          exact List.ne_nil_of_mem hx
        simp [hsub, hrr, hne, isSimpleRequest]
      · simp [hsub, hrr, RR.Rrtype, isSimpleRequest, typeOPT]
    case other =>
      by_cases h41 : rrtype = typeOPT <;> simp [h41, hrr, RR.Rrtype, isSimpleRequest]
    all_goals simp [hrr, RR.Rrtype, isSimpleRequest, typeA, typeAAAA, typeHTTPS, typeSOA, typeOPT]
  · apply isSimpleRequest_of_two_le
    unfold SetClientSubnet
    simp only [hE]
    split <;> simp

namespace Client

variable (c : Client α)

theorem prepareExchangeMessage_of_isSimpleRequest {message : Msg α} {options : DNSQueryOptions α}
    (h : isSimpleRequest (c.prepareExchangeMessage message options) options = true) :
    c.prepareExchangeMessage message options = message := by
  unfold prepareExchangeMessage at h ⊢
  rcases hsubnet : options.clientSubnet <|> c.clientSubnet with _ | clientSubnet
  · rfl
  · rw [hsubnet, isSimpleRequest_SetClientSubnet] at h
    cases h

/-- Every entry of the memory cache is, TTLs aside, what a known transport of its tag
answers its question. -/
def Coherent (known : DNSTransport α → Prop) : Prop :=
  ∀ key response expireAt, c.cache key = some (response, expireAt) →
    ∃ t, known t ∧ t.tag = key.transportTag ∧
      (exchangeToTransport t (lookupMessage key.question)).map Msg.view = .ok response.view

variable {c} {known : DNSTransport α → Prop}

theorem coherent_of_cache_eq_none (h : ∀ key, c.cache key = none) : c.Coherent known := by
  intro key response expireAt hkey
  rw [h key] at hkey
  cases hkey

theorem Coherent.storeCache (hc : c.Coherent known) {transport : DNSTransport α} (ht : known transport)
    {question : Question} {response : Msg α}
    (hentry : (exchangeToTransport transport (lookupMessage question)).map Msg.view = .ok response.view)
    (now timeToLive : Nat) : (c.storeCache now transport question response timeToLive).Coherent known := by
  unfold Client.storeCache
  split
  · exact hc
  · intro key response' expireAt hkey
    dsimp only at hkey
    by_cases hk : key = ⟨question, transport.tag⟩
    · subst hk
      simp only [Function.update_self, Option.some.injEq, Prod.mk.injEq] at hkey
      obtain ⟨rfl, -⟩ := hkey
      exact ⟨transport, ht, rfl, hentry⟩
    · rw [Function.update_of_ne hk] at hkey
      exact hc key response' expireAt hkey

theorem Coherent.storeFresh (hfixed : FixedTransports known) (hc : c.Coherent known)
    {transport : DNSTransport α} (ht : known transport) {message : Msg α} {question : Question}
    (hq : message.question = [question]) {options : DNSQueryOptions α}
    (hhint : hintFilter question options.strategy = none) (now : Nat) :
    (c.storeFresh now transport message question options).Coherent known := by
  unfold Client.storeFresh
  rcases hx : exchangeToTransport transport message with err | response
  · exact hc
  · simp only
    split
    · exact hc
    · apply hc.storeCache ht
      rw [hfixed.map_view_exchangeToTransport ht (show (lookupMessage question).question = message.question
        from hq.symm), hx, view_applyResponseOptions, hhint]
      rfl

theorem Coherent.loadResponse_snd (hc : c.Coherent known) (now : Nat) (question : Question)
    (transport : DNSTransport α) : (c.loadResponse now question transport).2.Coherent known := by
  intro key response expireAt hkey
  rcases c.cache_loadResponse now question transport key with heq | hnone
  · exact hc key response expireAt (heq ▸ hkey)
  · rw [hnone] at hkey
    cases hkey

theorem Coherent.loadResponse (hfixed : FixedTransports known) (hc : c.Coherent known)
    {transport : DNSTransport α} (ht : known transport) {now : Nat} {question : Question}
    {stored : Msg α} {timeToLive : Nat} {isStale : Bool}
    (hload : (c.loadResponse now question transport).1 = some (stored, timeToLive, isStale))
    {message : Msg α} (hq : message.question = [question]) :
    ∃ response, exchangeToTransport transport message = .ok response ∧ response.view = stored.view := by
  obtain ⟨entry, expireAt, hkey, hstored⟩ := c.loadResponse_fst_some hload
  obtain ⟨t, hknown, htag, hview⟩ := hc _ _ _ hkey
  have hsame : t = transport := hfixed.tag_inj t transport hknown ht htag
  subst hsame
  dsimp only at hview
  rw [hfixed.map_view_exchangeToTransport hknown
    (show (lookupMessage question).question = message.question from hq.symm)] at hview
  rcases hx : exchangeToTransport t message with err | response
  · rw [hx] at hview
    cases hview
  · rw [hx] at hview
    exact ⟨response, rfl, (Except.ok.inj hview).trans hstored.symm⟩

/-- The two clients of the simulation: the first caches and is coherent, the second has its
cache off, and both set one client subnet. -/
structure Sim (known : DNSTransport α → Prop) (c u : Client α) : Prop where
  coherent : c.Coherent known
  disableCache : u.disableCache = true
  clientSubnet : u.clientSubnet = c.clientSubnet

variable {u : Client α}

theorem Sim.loadResponse (hsim : c.Sim known u) (now : Nat) (question : Question)
    (transport : DNSTransport α) : (c.loadResponse now question transport).2.Sim known u :=
  ⟨hsim.coherent.loadResponse_snd now question transport, hsim.disableCache,
    hsim.clientSubnet.trans (c.clientSubnet_loadResponse now question transport).symm⟩

theorem Sim.storeFresh (hfixed : FixedTransports known) (hsim : c.Sim known u)
    {transport : DNSTransport α} (ht : known transport) {message : Msg α} {question : Question}
    (hq : message.question = [question]) {options : DNSQueryOptions α}
    (hhint : hintFilter question options.strategy = none) (now : Nat) :
    (c.storeFresh now transport message question options).Sim known u :=
  ⟨hsim.coherent.storeFresh hfixed ht hq hhint now, hsim.disableCache,
    hsim.clientSubnet.trans (c.clientSubnet_storeFresh ..).symm⟩

/-- One exchange without a checker on the two clients: the same result, or a cache hit, stale
or not, whose response has the view of the transport's answer. -/
theorem Exchange_sim (hfixed : FixedTransports known) (hsim : c.Sim known u)
    {transport : DNSTransport α} (ht : known transport) (now : Nat) {message : Msg α}
    {options : DNSQueryOptions α}
    (hhints : ∀ question ∈ message.question.head?, hintFilter question options.strategy = none) :
    ((c.Exchange now transport message options none).1 = (u.Exchange now transport message options none).1 ∨
      ∃ (question : Question) (response stored : Msg α), message.question = [question] ∧
        exchangeToTransport transport message = .ok response ∧ response.view = stored.view ∧
        (c.Exchange now transport message options none).1 = .ok { stored with id := message.id } ∧
        (u.Exchange now transport message options none).1 =
          .ok (normalizeResponseEDNS message
            { (applyResponseOptions question response options).1 with id := message.id })) ∧
      (c.Exchange now transport message options none).2.Sim known u := by
  have hprepare : u.prepareExchangeMessage message options = c.prepareExchangeMessage message options := by
    simp only [prepareExchangeMessage, hsim.clientSubnet]
  rw [Exchange_of_disableCache hsim.disableCache, hprepare]
  unfold Exchange
  rcases hq : message.question with _ | ⟨question, tail⟩
  · exact ⟨.inl rfl, hsim⟩
  · dsimp only
    split
    · exact ⟨.inl rfl, hsim⟩
    · by_cases hd : (!isSimpleRequest (c.prepareExchangeMessage message options) options ||
          c.disableCache || options.disableCache) = true
      · simp only [hd, if_true, exchangeFresh_none]
        exact ⟨.inl (by trivial), hsim⟩
      · simp only [hd, Bool.false_eq_true, if_false]
        have hsimple : isSimpleRequest (c.prepareExchangeMessage message options) options = true := by
          simp only [Bool.or_eq_true, Bool.not_eq_eq_eq_not, Bool.not_true, not_or] at hd
          simpa using hd.1.1
        have hmessage := c.prepareExchangeMessage_of_isSimpleRequest hsimple
        have hq1 : message.question = [question] := by
          have hlen := hsimple
          simp only [isSimpleRequest, hmessage, hq, Bool.and_eq_true, decide_eq_true_eq] at hlen
          cases tail with
          | nil => exact hq
          | cons _ _ => simp at hlen
        have hhint : hintFilter question options.strategy = none := hhints question (by simp [hq])
        rw [hmessage]
        have hsim₁ := hsim.loadResponse now question transport
        have hhit : ∀ {stored : Msg α} {timeToLive : Nat} {isStale : Bool},
            (c.loadResponse now question transport).1 = some (stored, timeToLive, isStale) →
            ∃ response, exchangeToTransport transport message = .ok response ∧
              response.view = stored.view :=
          fun h => hsim.coherent.loadResponse hfixed ht h hq1
        rcases hload : c.loadResponse now question transport with ⟨_ | ⟨stored, timeToLive, isStale⟩, c₁⟩
        · rw [hload] at hsim₁
          simp only [exchangeFresh_none, Bool.false_eq_true, if_false]
          exact ⟨.inl (by trivial), hsim₁.storeFresh hfixed ht hq1 hhint now⟩
        · rw [hload] at hsim₁ hhit
          obtain ⟨response, hx, hview⟩ := hhit rfl
          have hfresh : freshResult transport message question options =
              .ok (normalizeResponseEDNS message
                { (applyResponseOptions question response options).1 with id := message.id }) := by
            simp only [freshResult, hx]
            rfl
          cases isStale
          · exact ⟨.inr ⟨question, response, stored, hq.symm.trans hq1, hx, hview, rfl, hfresh⟩, hsim₁⟩
          · dsimp only
            split
            · refine ⟨.inr ⟨question, response, stored, hq.symm.trans hq1, hx, hview, rfl, hfresh⟩, ?_⟩
              rw [backgroundRefreshDNS_none]
              exact hsim₁.storeFresh hfixed ht hq1 hhint now
            · simp only [exchangeFresh_none, Bool.false_eq_true, if_false]
              exact ⟨.inl (by trivial), hsim₁.storeFresh hfixed ht hq1 hhint now⟩

theorem Sim.Exchange (hfixed : FixedTransports known) (hsim : c.Sim known u)
    {transport : DNSTransport α} (ht : known transport) (now : Nat) {message : Msg α}
    {options : DNSQueryOptions α}
    (hhints : ∀ question ∈ message.question.head?, hintFilter question options.strategy = none) :
    (c.Exchange now transport message options none).2.Sim known
      (u.Exchange now transport message options none).2 := by
  rw [Exchange_of_disableCache hsim.disableCache]
  exact (Exchange_sim hfixed hsim ht now hhints).2

/-- Without a checker a coherent client answers an exchange as one with its cache off, TTLs
and Id aside, when the request's EDNS record covers the transport's answer. -/
theorem map_view_Exchange (hfixed : FixedTransports known) (hsim : c.Sim known u)
    {transport : DNSTransport α} (ht : known transport) (now : Nat) {message : Msg α}
    {options : DNSQueryOptions α}
    (hhints : ∀ question ∈ message.question.head?, hintFilter question options.strategy = none)
    (hedns : ∀ response, exchangeToTransport transport message = .ok response →
      EDNSCovered message response) :
    (c.Exchange now transport message options none).1.map Msg.view =
      (u.Exchange now transport message options none).1.map Msg.view := by
  obtain ⟨heq | ⟨question, response, stored, hq, hx, hview, hcached, huncached⟩, -⟩ :=
    Exchange_sim hfixed hsim ht now hhints
  · rw [heq]
  · rw [hcached, huncached]
    have hhint : hintFilter question options.strategy = none := hhints question (by simp [hq])
    have hcovered : EDNSCovered message
        { (applyResponseOptions question response options).1 with id := message.id } := by
      intro responseOpt hopt
      exact hedns response hx responseOpt
        (by rwa [← IsEdns0_applyResponseOptions question response options])
    rw [normalizeResponseEDNS_of_covered hcovered]
    simp only [Except.map, view_setId, view_applyResponseOptions, hhint, hview]

theorem bind_addressesOf_Exchange (hfixed : FixedTransports known) (hsim : c.Sim known u)
    {transport : DNSTransport α} (ht : known transport) (now : Nat) {message : Msg α}
    {options : DNSQueryOptions α}
    (hhints : ∀ question ∈ message.question.head?, hintFilter question options.strategy = none) :
    (c.Exchange now transport message options none).1.bind addressesOf =
      (u.Exchange now transport message options none).1.bind addressesOf := by
  obtain ⟨heq | ⟨question, response, stored, hq, hx, hview, hcached, huncached⟩, -⟩ :=
    Exchange_sim hfixed hsim ht now hhints
  · rw [heq]
  · rw [hcached, huncached]
    have hhint : hintFilter question options.strategy = none := hhints question (by simp [hq])
    exact (addressesOf_processed hhint message (hview.trans (view_setId stored message.id).symm)).symm

/-- One A or AAAA query of a lookup on the two clients: the same result. The cache of
questions gives the addresses of a stored response, stale or not, which are those of the
transport's answer. -/
theorem lookupToExchange_sim (hfixed : FixedTransports known) (hsim : c.Sim known u)
    {transport : DNSTransport α} (ht : known transport) (now : Nat) (name : String) (qType : Nat)
    (options : DNSQueryOptions α) (hqtype : qType = typeA ∨ qType = typeAAAA)
    (hstrategy : ¬(qType = typeA ∧ options.strategy = .ipv6Only ∨
      qType = typeAAAA ∧ options.strategy = .ipv4Only)) :
    (c.lookupToExchange now transport name qType options none).1 =
        (u.lookupToExchange now transport name qType options none).1 ∧
      (c.lookupToExchange now transport name qType options none).2.Sim known
        (u.lookupToExchange now transport name qType options none).2 := by
  have hhttps : qType ≠ typeHTTPS := by
    rcases hqtype with rfl | rfl <;> decide
  have hhint : hintFilter ⟨name, qType, classINET⟩ options.strategy = none := hintFilter_of_ne hhttps _
  have hhints := head?_hintFilter
    (show (lookupMessage ⟨name, qType, classINET⟩ : Msg α).question = _ from rfl) hhint
  have hmiss : ∀ {c' : Client α}, c'.Sim known u →
      (c'.Exchange now transport (lookupMessage ⟨name, qType, classINET⟩) options none).1.bind
          addressesOf =
        (u.Exchange now transport (lookupMessage ⟨name, qType, classINET⟩) options none).1.bind
          addressesOf ∧
      (c'.Exchange now transport (lookupMessage ⟨name, qType, classINET⟩) options none).2.Sim known
        (u.Exchange now transport (lookupMessage ⟨name, qType, classINET⟩) options none).2 :=
    fun hsim' => ⟨bind_addressesOf_Exchange hfixed hsim' ht now hhints, hsim'.Exchange hfixed ht now hhints⟩
  have hhit : ∀ {stored timeToLive isStale},
      (c.loadResponse now ⟨name, qType, classINET⟩ transport).1 = some (stored, timeToLive, isStale) →
      addressesOf stored =
        (u.Exchange now transport (lookupMessage ⟨name, qType, classINET⟩) options none).1.bind
          addressesOf := by
    intro stored timeToLive isStale hload
    rw [Exchange_of_disableCache hsim.disableCache]
    obtain ⟨response, hx, hview⟩ := hsim.coherent.loadResponse hfixed ht hload
      (u.question_prepareExchangeMessage (lookupMessage ⟨name, qType, classINET⟩) options)
    simp only [question_lookupMessage, if_neg hstrategy, freshResult, hx]
    exact (addressesOf_processed hhint _ hview).symm
  have hu : (u.Exchange now transport (lookupMessage ⟨name, qType, classINET⟩) options none).2 = u := by
    rw [Exchange_of_disableCache hsim.disableCache]
  rw [lookupToExchange_eq, lookupToExchange_eq]
  simp only [hsim.disableCache, Bool.true_or, if_true]
  by_cases hd : (c.disableCache || options.disableCache) = true
  · simp only [hd, if_true]
    exact hmiss hsim
  · simp only [hd, Bool.false_eq_true, if_false, questionCache]
    have hsim₁ := hsim.loadResponse now ⟨name, qType, classINET⟩ transport
    rcases hload : c.loadResponse now ⟨name, qType, classINET⟩ transport with
      ⟨_ | ⟨stored, timeToLive, isStale⟩, c₁⟩
    · rw [hload] at hsim₁
      exact hmiss hsim₁
    · rw [hload] at hsim₁ hhit
      have hstored := hhit rfl
      cases isStale
      · simp only [Bool.false_eq_true, if_false]
        rw [hu]
        exact ⟨hstored, hsim₁⟩
      · by_cases hopt : options.disableOptimisticCache = true
        · simp only [hopt, if_true]
          exact hmiss hsim₁
        · simp only [hopt, Bool.false_eq_true, if_true, if_false, backgroundRefreshDNS_none]
          rw [hu]
          exact ⟨hstored, hsim₁.storeFresh hfixed ht
            (c₁.question_prepareExchangeMessage (lookupMessage ⟨name, qType, classINET⟩) options) hhint now⟩

/-- A lookup on the two clients gives one result and keeps the simulation. -/
theorem Lookup_sim (hfixed : FixedTransports known) (hsim : c.Sim known u)
    {transport : DNSTransport α} (ht : known transport) (now : Nat) (domain : String)
    (options : DNSQueryOptions α) :
    (c.Lookup now transport domain options none).1 = (u.Lookup now transport domain options none).1 ∧
      (c.Lookup now transport domain options none).2.Sim known
        (u.Lookup now transport domain options none).2 := by
  unfold Lookup
  dsimp only
  generalize Fqdn (FqdnToDomain domain) = dnsName
  generalize hstrategy : (if options.lookupStrategy ≠ .asIS then options.lookupStrategy
    else options.strategy) = strategy
  generalize hlookup : (if options.lookupStrategy ≠ .asIS then { options with strategy := strategy }
    else options) = lookupOptions
  have hls : lookupOptions.strategy = strategy := by
    rw [← hlookup]
    split
    · rfl
    · rename_i hasIS
      rw [← hstrategy, if_neg hasIS]
  cases strategy
  case ipv4Only =>
    exact lookupToExchange_sim hfixed hsim ht now dnsName typeA lookupOptions (.inl rfl)
      (by simp [hls, typeA, typeAAAA])
  case ipv6Only =>
    exact lookupToExchange_sim hfixed hsim ht now dnsName typeAAAA lookupOptions (.inr rfl)
      (by simp [hls, typeA, typeAAAA])
  all_goals
    have h4 := lookupToExchange_sim hfixed hsim ht now dnsName typeA lookupOptions (.inl rfl)
      (by simp [hls, typeA, typeAAAA])
    rcases hcA : c.lookupToExchange now transport dnsName typeA lookupOptions none with ⟨result4, c₁⟩
    rcases huA : u.lookupToExchange now transport dnsName typeA lookupOptions none with ⟨result4', u₁⟩
    rw [hcA, huA] at h4
    obtain ⟨rfl, hsim₁⟩ := h4
    have h6 := lookupToExchange_sim hfixed hsim₁ ht now dnsName typeAAAA lookupOptions (.inr rfl)
      (by simp [hls, typeA, typeAAAA])
    rcases hcB : c₁.lookupToExchange now transport dnsName typeAAAA lookupOptions none with ⟨result6, c₂⟩
    rcases huB : u₁.lookupToExchange now transport dnsName typeAAAA lookupOptions none with
      ⟨result6', u₂⟩
    rw [hcB, huB] at h6
    obtain ⟨rfl, hsim₂⟩ := h6
    dsimp only
    split
    · rcases result4 with _ | _ <;> rcases result6 with _ | _ <;> exact ⟨rfl, hsim₂⟩
    · exact ⟨rfl, hsim₂⟩

end Client

/-! ### The router -/

theorem addressLimitResponseCheck_of_not {σ : Type} {rule : DNSRule σ α}
    (h : rule.WithAddressLimit = false) (m : InboundContext σ α) :
    addressLimitResponseCheck rule m = none := by
  simp [addressLimitResponseCheck, h]

namespace Router

variable {σ : Type} (r : Router σ α)

/-- A router whose transports are known and whose rules have no address limit. -/
structure NoLimit (known : DNSTransport α → Prop) : Prop where
  transport_known : ∀ server t, r.transport server = some t → known t
  default_known : known r.defaultTransport
  noAddressLimit : ∀ entry ∈ r.rules, entry.rule.WithAddressLimit = false

/-- No hint filter applies to the question under the strategy of the call, the default
one, or one that a rule sets. -/
def KeepsHints (question : Question) (options : DNSQueryOptions α) : Prop :=
  hintFilter question options.strategy = none ∧ hintFilter question r.defaultDomainStrategy = none ∧
    ∀ entry ∈ r.rules, ∀ routeOptions ∈ entry.action.options?,
      hintFilter question routeOptions.strategy = none

/-- The calls of the simulation: a transport a call names is known; no hint filter applies
to an exchange, and its request's EDNS record covers what a known transport answers. -/
def Admitted (known : DNSTransport α → Prop) : DNSCall σ α → Prop
  | .exchange _ message options _ =>
    (∀ t, options.transport = some t → known t) ∧
      (∀ question ∈ message.question, r.KeepsHints question options) ∧
      ∀ t, known t → ∀ response, exchangeToTransport t message = .ok response →
        EDNSCovered message response
  | .lookup _ _ options _ => ∀ t, options.transport = some t → known t

variable {r} {known : DNSTransport α → Prop}

theorem NoLimit.known_of_route (hr : r.NoLimit known) {t : DNSTransport α}
    (h : t = r.defaultTransport ∨ ∃ server, r.transport server = some t) : known t := by
  rcases h with rfl | ⟨server, hserver⟩
  · exact hr.default_known
  · exact hr.transport_known server t hserver

theorem hintFilter_withDefaultStrategy {question : Question} {options : DNSQueryOptions α}
    (h : hintFilter question options.strategy = none)
    (hdefault : hintFilter question r.defaultDomainStrategy = none) :
    hintFilter question (r.withDefaultStrategy options).strategy = none := by
  unfold withDefaultStrategy
  split
  · exact hdefault
  · exact h

theorem hintFilter_apply {question : Question} {options : DNSQueryOptions α}
    {routeOptions : DNSRouteOptions} (h : hintFilter question options.strategy = none)
    (hroute : hintFilter question routeOptions.strategy = none) (disableCache : Bool) :
    hintFilter question (routeOptions.apply disableCache options).strategy = none := by
  unfold DNSRouteOptions.apply
  split
  · exact hroute
  · exact h

theorem KeepsHints.matchDNS {question : Question} {options : DNSQueryOptions α}
    (h : r.KeepsHints question options) (m : InboundContext σ α) (allowFakeIP isAddressQuery : Bool) :
    hintFilter question
      (r.withDefaultStrategy (r.matchDNS m allowFakeIP isAddressQuery r.rules options).2).strategy = none := by
  obtain ⟨hoptions, hdefault, hrules⟩ := h
  apply hintFilter_withDefaultStrategy _ hdefault
  exact r.matchDNS_options (fun options => hintFilter question options.strategy = none)
    (fun entry hentry routeOptions hroute disableCache _ ho =>
      hintFilter_apply ho (hrules entry hentry routeOptions hroute) disableCache) hoptions

section Legacy

variable {rules : List (DNSRuleEntry σ α)}

/-- Without address limits the loop of `Router.Exchange` makes one exchange without a
checker, at the transport `matchDNS` finds and with its options, or answers without the
client. -/
theorem exchangeLegacy_cases (now : Nat) (message : Msg α) (question : Question)
    (m : InboundContext σ α) (options : DNSQueryOptions α)
    (hlimit : ∀ entry ∈ rules, entry.rule.WithAddressLimit = false) :
    (∃ t, (t = r.defaultTransport ∨ ∃ server, r.transport server = some t) ∧
      ∀ c, r.exchangeLegacy now message question m options rules c =
        c.Exchange now t message
          (r.withDefaultStrategy (r.matchDNS m true (isAddressQuery message) rules options).2) none) ∨
      ∃ result, ∀ c, r.exchangeLegacy now message question m options rules c = (result, c) := by
  rcases hmatch : r.matchDNS m true (isAddressQuery message) rules options with
    ⟨⟨transport, rule, rest⟩ | method | ⟨rcode, answer, ns, extra⟩ | transport, dnsOptions⟩
  case route =>
    obtain ⟨⟨entry, hentry, rfl⟩, server, hserver⟩ := r.matchDNS_route hmatch
    refine .inl ⟨transport, .inr ⟨server, hserver⟩, fun c => ?_⟩
    rw [r.exchangeLegacy_route hmatch, addressLimitResponseCheck_of_not (hlimit entry hentry)]
    rcases c.Exchange now transport message (r.withDefaultStrategy dnsOptions) none with
      ⟨_ | _, _⟩ <;> rfl
  case reject =>
    cases method
    · exact .inr ⟨.ok ⟨message.id, rcodeRefused, [question], [], [], []⟩,
        fun c => by rw [exchangeLegacy_eq, hmatch]⟩
    · exact .inr ⟨.error .drop, fun c => by rw [exchangeLegacy_eq, hmatch]⟩
  case predefined =>
    exact .inr ⟨.ok (predefinedResponse rcode answer ns extra message question),
      fun c => by rw [exchangeLegacy_eq, hmatch]⟩
  case fallback =>
    exact .inl ⟨transport, .inl (r.matchDNS_fallback hmatch), fun c => r.exchangeLegacy_fallback hmatch⟩

/-- Without address limits the loop of `Router.Lookup` makes one lookup without a checker,
or answers without the client. -/
theorem lookupLegacy_cases (now : Nat) (domain : String) (m : InboundContext σ α)
    (options : DNSQueryOptions α) (hlimit : ∀ entry ∈ rules, entry.rule.WithAddressLimit = false) :
    (∃ t o, (t = r.defaultTransport ∨ ∃ server, r.transport server = some t) ∧
      ∀ c, r.lookupLegacy now domain m options rules c =
        (.ok (c.Lookup now t domain o none).1, (c.Lookup now t domain o none).2)) ∨
      ∃ result, ∀ c, r.lookupLegacy now domain m options rules c = (result, c) := by
  rcases hmatch : r.matchDNS m false true rules options with
    ⟨⟨transport, rule, rest⟩ | method | ⟨rcode, answer, ns, extra⟩ | transport, dnsOptions⟩
  case route =>
    obtain ⟨⟨entry, hentry, rfl⟩, server, hserver⟩ := r.matchDNS_route hmatch
    refine .inl ⟨transport, r.withDefaultStrategy dnsOptions, .inr ⟨server, hserver⟩, fun c => ?_⟩
    rw [lookupLegacy_eq, hmatch]
    dsimp only
    rw [addressLimitResponseCheck_of_not (hlimit entry hentry)]
    rcases c.Lookup now transport domain (r.withDefaultStrategy dnsOptions) none with
      ⟨_ | _, _⟩ <;> rfl
  case reject =>
    exact .inr ⟨.error (.rejected method.Error), fun c => by rw [lookupLegacy_eq, hmatch]⟩
  case predefined =>
    exact .inr ⟨.ok (if rcode ≠ dnsRcodeSuccess then .error (.rcode rcode)
      else .ok (answer.flatMap RR.predefinedAddresses)), fun c => by rw [lookupLegacy_eq, hmatch]⟩
  case fallback =>
    refine .inl ⟨transport, r.withDefaultStrategy dnsOptions, .inl (r.matchDNS_fallback hmatch),
      fun c => ?_⟩
    rw [lookupLegacy_eq, hmatch]

end Legacy

variable {c u : Client α}

/-- `Router.Exchange` on the two clients: the same view of the response, or an error in
both. -/
theorem Exchange_sim (hfixed : FixedTransports known) (hr : r.NoLimit known)
    (hsim : c.Sim known u) {now : Nat} {message : Msg α} {options : DNSQueryOptions α}
    {m : InboundContext σ α} (hcall : r.Admitted known (.exchange now message options m)) :
    (r.Exchange c now message options m).1.map Msg.view =
        (r.Exchange u now message options m).1.map Msg.view ∧
      (r.Exchange c now message options m).2.Sim known (r.Exchange u now message options m).2 := by
  obtain ⟨htransport, hhints, hedns⟩ := hcall
  unfold Exchange
  rcases hq : message.question with _ | ⟨question, _ | ⟨question', tail⟩⟩
  case cons.nil =>
    have hkeeps : r.KeepsHints question options := hhints question (by simp [hq])
    have hclient : ∀ {t} {o : DNSQueryOptions α}, known t → hintFilter question o.strategy = none →
        (c.Exchange now t message o none).1.map Msg.view =
            (u.Exchange now t message o none).1.map Msg.view ∧
          (c.Exchange now t message o none).2.Sim known (u.Exchange now t message o none).2 := by
      intro t o ht hhint
      have hhead := head?_hintFilter hq hhint
      exact ⟨Client.map_view_Exchange hfixed hsim ht now hhead (hedns t ht),
        hsim.Exchange hfixed ht now hhead⟩
    dsimp only
    rcases htr : options.transport with _ | t
    · rcases exchangeLegacy_cases now message question (r.exchangeMetadata m question) options
          hr.noAddressLimit with
        ⟨t, hroute, hlegacy⟩ | ⟨result, hlegacy⟩
      · rw [hlegacy c, hlegacy u]
        exact hclient (hr.known_of_route hroute) (hkeeps.matchDNS _ _ _)
      · rw [hlegacy c, hlegacy u]
        exact ⟨rfl, hsim⟩
    · exact hclient (htransport t htr) (hintFilter_withDefaultStrategy hkeeps.1 hkeeps.2.1)
  all_goals exact ⟨rfl, hsim⟩

/-- `Router.Lookup` on the two clients: the same result. -/
theorem Lookup_sim (hfixed : FixedTransports known) (hr : r.NoLimit known)
    (hsim : c.Sim known u) {now : Nat} {domain : String} {options : DNSQueryOptions α}
    {m : InboundContext σ α} (hcall : r.Admitted known (.lookup now domain options m)) :
    (r.Lookup c now domain options m).1 = (r.Lookup u now domain options m).1 ∧
      (r.Lookup c now domain options m).2.Sim known (r.Lookup u now domain options m).2 := by
  have hinner : ∀ {p q : Except DNSError (List α) × Client α}, p.1 = q.1 → p.2.Sim known q.2 →
      lookupResult domain p.1 = lookupResult domain q.1 ∧ p.2.Sim known q.2 :=
    fun heq hs => ⟨congrArg (lookupResult domain) heq, hs⟩
  unfold Lookup
  rcases htr : options.transport with _ | t
  · rcases lookupLegacy_cases now domain (r.lookupMetadataOf m domain) options hr.noAddressLimit with
      ⟨t, o, hroute, hlegacy⟩ | ⟨result, hlegacy⟩
    · rw [hlegacy c, hlegacy u]
      have hclient := Client.Lookup_sim hfixed hsim (hr.known_of_route hroute) now domain o
      exact hinner hclient.1 hclient.2
    · rw [hlegacy c, hlegacy u]
      rcases result with _ | result
      · exact ⟨rfl, hsim⟩
      · exact hinner (p := (result, c)) (q := (result, u)) rfl hsim
  · have hclient := Client.Lookup_sim hfixed hsim (hcall t htr) now domain
      (r.withDefaultStrategy options)
    exact hinner hclient.1 hclient.2

theorem DNSResult.agree_exchange {result result' : Except DNSError (Msg α)}
    (h : result.map Msg.view = result'.map Msg.view) :
    DNSResult.Agree (.exchange result) (.exchange result') := by
  rcases result with _ | response <;> rcases result' with _ | response'
  · trivial
  · cases h
  · cases h
  · exact Except.ok.inj h

theorem DNSResult.agree_lookup (result : Except DNSError (List α)) :
    DNSResult.Agree (.lookup result) (.lookup result) := by
  rcases result with _ | _ <;> trivial

theorem step_sim (hfixed : FixedTransports known) (hr : r.NoLimit known) (hsim : c.Sim known u)
    {call : DNSCall σ α} (hcall : r.Admitted known call) :
    DNSResult.Agree (r.step c call).1 (r.step u call).1 ∧ (r.step c call).2.Sim known (r.step u call).2 := by
  cases call with
  | exchange now message options m =>
    obtain ⟨hagree, hs⟩ := Exchange_sim hfixed hr hsim hcall
    exact ⟨DNSResult.agree_exchange hagree, hs⟩
  | lookup now domain options m =>
    obtain ⟨heq, hs⟩ := Lookup_sim hfixed hr hsim hcall
    refine ⟨?_, hs⟩
    show DNSResult.Agree (.lookup (r.Lookup c now domain options m).1)
      (.lookup (r.Lookup u now domain options m).1)
    rw [heq]
    exact DNSResult.agree_lookup _

/-- With fixed answers, a router in legacy mode whose rules have no address limit gives,
call for call, the results of a run with the cache on that a run with the cache off gives,
TTLs and Id aside, for calls that filter no hints and whose EDNS records cover their
answers. -/
theorem forall₂_run_agree (hfixed : FixedTransports known) (hr : r.NoLimit known)
    (hsim : c.Sim known u) (calls : List (DNSCall σ α))
    (hcalls : ∀ call ∈ calls, r.Admitted known call) :
    List.Forall₂ DNSResult.Agree (LockStep.run r.step c calls).1 (LockStep.run r.step u calls).1 := by
  refine LockStep.forall₂_run (Client.Sim known) (r.Admitted known) DNSResult.Agree ?_ calls c u hsim hcalls
  intro c u call hsim hcall
  exact step_sim hfixed hr hsim hcall

end Router

/-! ### A run with a stale answer -/

/-- A server that answers every query with one A record of TTL 60, whatever its Id. -/
def fixedTransport : DNSTransport Nat :=
  ⟨"fixed", false, fun message =>
    .ok ⟨0, dnsRcodeSuccess, message.question, [⟨"example.com.", classINET, 60, .a 7⟩], [], []⟩⟩

def fixedRouter : Router Unit Nat :=
  ⟨[], fun tag => if tag = "fixed" then some fixedTransport else none, fixedTransport, .asIS,
    fun _ _ => (), fun _ _ => ()⟩

/-- A client whose expired entries answer for an hour more. -/
def optimisticClient : Client Nat := ⟨false, false, 3600, none, false, fun _ => none, fun _ => false⟩

/-- An exchange that fills the cache, the same exchange after its TTL, answered stale, and a
lookup after the optimistic timeout, which finds the entry gone. -/
def staleCalls : List (DNSCall Unit Nat) :=
  [.exchange 0 exampleQuery { localOptions with transport := none } exampleMetadata,
    .exchange 100 exampleQuery { localOptions with transport := none } exampleMetadata,
    .lookup 5000 "example.com" { localOptions with transport := none } exampleMetadata]

theorem fixedRouter_forall₂_run_agree :
    FixedTransports (· = fixedTransport) ∧ fixedRouter.NoLimit (· = fixedTransport) ∧
      optimisticClient.Sim (· = fixedTransport) { optimisticClient with disableCache := true } ∧
      (∀ call ∈ staleCalls, fixedRouter.Admitted (· = fixedTransport) call) ∧
      List.Forall₂ DNSResult.Agree (LockStep.run fixedRouter.step optimisticClient staleCalls).1
        (LockStep.run fixedRouter.step { optimisticClient with disableCache := true } staleCalls).1 := by
  have hfixed : FixedTransports (· = fixedTransport) :=
    ⟨fun t ht m m' hq => by subst ht; simp [fixedTransport, hq], fun _ _ ht ht' _ => ht.trans ht'.symm⟩
  have htransport : ∀ server t, fixedRouter.transport server = some t → t = fixedTransport := by
    intro server t h
    simp only [fixedRouter] at h
    split at h
    · exact (Option.some.inj h).symm
    · cases h
  have hr : fixedRouter.NoLimit (· = fixedTransport) := ⟨htransport, rfl, fun _ h => by cases h⟩
  have hsim : optimisticClient.Sim (· = fixedTransport) { optimisticClient with disableCache := true } :=
    ⟨Client.coherent_of_cache_eq_none fun _ => rfl, rfl, rfl⟩
  have hexchange : ∀ now, fixedRouter.Admitted (· = fixedTransport)
      (.exchange now exampleQuery { localOptions with transport := none } exampleMetadata) := by
    intro now
    refine ⟨fun _ h => (by cases h), ?_, ?_⟩
    · intro question hq
      simp only [exampleQuery, List.mem_singleton] at hq
      subst hq
      exact ⟨rfl, rfl, fun _ h => (by cases h)⟩
    · intro t ht response hx opt hopt
      subst ht
      simp only [exchangeToTransport, fixedTransport, Except.ok.injEq] at hx
      subst hx
      cases hopt
  have hcalls : ∀ call ∈ staleCalls, fixedRouter.Admitted (· = fixedTransport) call := by
    intro call hcall
    simp only [staleCalls, List.mem_cons, List.not_mem_nil, or_false] at hcall
    rcases hcall with rfl | rfl | rfl
    · exact hexchange 0
    · exact hexchange 100
    · exact fun _ h => by cases h
  exact ⟨hfixed, hr, hsim, hcalls, Router.forall₂_run_agree hfixed hr hsim staleCalls hcalls⟩

end SingBox
