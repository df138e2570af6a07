import SingBox.DNSMessage

/-!
# The DNS client

`dns/client.go`: `Client.Exchange`, `Client.Lookup` and the two caches they keep, the memory
cache of responses and the rejected-response cache (RDRC) of the cache file. Both are keyed
by the question and the tag of the transport, the RDRC by the name and the type of the
question alone.

Every call runs at a time `now`, in seconds. The memory cache keeps each response with the
time it expires at. Past it, and within the optimistic timeout, `loadResponse` gives the
response as stale, which a call answers with unless its options disable the optimistic
cache; `backgroundRefreshDNS` then asks the transport again. The model runs that refresh to
its end before the next call. The A and AAAA queries of a lookup run one after the other;
they touch different keys of both caches, so their order is not seen.
-/

namespace SingBox

variable {α : Type}

/-- `dnsCacheKey`. -/
structure CacheKey where
  question : Question
  transportTag : String
deriving DecidableEq, Repr

/-- The key of `LoadRDRC` and `SaveRDRCAsync`. -/
structure RDRCKey where
  transportTag : String
  qname : String
  qtype : Nat
deriving DecidableEq, Repr

def RDRCKey.of (transport : DNSTransport α) (question : Question) : RDRCKey :=
  ⟨transport.tag, question.name, question.qtype⟩

/-- The errors of a DNS call. `responseRejectedCached` extends `responseRejected`; `reset` and
`drop` are `tun.ErrReset` and `tun.ErrDrop`, `rejected` is `R.RejectedError` around its cause,
`emptyResult` the `E.New("empty result")` of a lookup, and `cause` is `E.Cause`. -/
inductive DNSError where
  | responseRejected
  | responseRejectedCached
  | transport (message : String)
  | rcode (rcode : Nat)
  | reset
  | drop
  | rejected (cause : DNSError)
  | emptyResult
  | cause (message : String) (err : DNSError)
deriving DecidableEq, Repr

/-- `errors.Is(err, ErrResponseRejected)`, which looks through the causes. -/
def DNSError.isRejected : DNSError → Bool
  | responseRejected => true
  | responseRejectedCached => true
  | rejected err => err.isRejected
  | cause _ err => err.isRejected
  | _ => false

/-- `Client`: its options and the contents of its two caches. The memory cache exists
unless the cache is disabled, and keeps each response with the time it expires at;
`rdrcEnabled` is `c.rdrc != nil`. -/
structure Client (α : Type) where
  disableCache : Bool
  disableExpire : Bool
  optimisticTimeout : Nat
  clientSubnet : Option Prefix
  rdrcEnabled : Bool
  cache : CacheKey → Option (Msg α × Nat)
  rdrc : RDRCKey → Bool

/-- `SetClientSubnet`: the client subnet option set in the OPT record that carries one, or
in the last OPT record, or in a new one. -/
def SetClientSubnet (message : Msg α) (clientSubnet : Prefix) : Msg α :=
  let setOption (option : List EDNS0) : List EDNS0 :=
    if option.any (fun it => it.Option == edns0Subnet) then
      option.map fun it => if it.Option == edns0Subnet then .subnet clientSubnet else it
    else option ++ [.subnet clientSubnet]
  let hasSubnet (rr : RR α) : Bool :=
    match rr.data with
    | .opt option => option.any fun it => it.Option == edns0Subnet
    | _ => false
  let target : Option Nat :=
    match message.extra.findIdx? hasSubnet with
    | some index => some index
    | none => (message.extra.length - 1 - ·) <$> message.extra.reverse.findIdx? fun rr => rr.Rrtype == typeOPT
  match target with
  | some index =>
    { message with
      extra := message.extra.modify index fun rr =>
        match rr.data with
        | .opt option => { rr with data := .opt (setOption option) }
        | _ => rr }
  | none => { message with extra := message.extra ++ [⟨".", 0, 0, .opt [.subnet clientSubnet]⟩] }

namespace Client

variable (c : Client α)

/-- `loadResponse`: the response, its TTL, and whether it is stale. -/
def loadResponse (now : Nat) (question : Question) (transport : DNSTransport α) :
    Option (Msg α × Nat × Bool) × Client α :=
  if c.disableCache then (none, c)
  else
    match c.cache ⟨question, transport.tag⟩ with
    | none => (none, c)
    | some (response, expireAt) =>
      if c.disableExpire then (some (response, 0, false), c)
      else if expireAt < now then
        if 0 < c.optimisticTimeout ∧ now < expireAt + c.optimisticTimeout then
          (some (normalizeTTL response 1, 0, true), c)
        else (none, { c with cache := Function.update c.cache ⟨question, transport.tag⟩ none })
      else (some (normalizeTTL response (expireAt - now), expireAt - now, false), c)

def storeCache (now : Nat) (transport : DNSTransport α) (question : Question) (message : Msg α)
    (timeToLive : Nat) : Client α :=
  if timeToLive = 0 ∨ c.disableCache then c
  else
    { c with
      cache := Function.update c.cache ⟨question, transport.tag⟩ (some (message, now + timeToLive)) }

/-- `LoadRDRC`, when there is an RDRC. -/
def loadRDRC (transport : DNSTransport α) (question : Question) : Bool :=
  c.rdrcEnabled && c.rdrc (RDRCKey.of transport question)

/-- `SaveRDRCAsync`, when there is an RDRC, completed. -/
def saveRDRC (transport : DNSTransport α) (question : Question) : Client α :=
  if c.rdrcEnabled then { c with rdrc := Function.update c.rdrc (RDRCKey.of transport question) true }
  else c

def prepareExchangeMessage (message : Msg α) (options : DNSQueryOptions α) : Msg α :=
  match options.clientSubnet <|> c.clientSubnet with
  | some clientSubnet => SetClientSubnet message clientSubnet
  | none => message

end Client

/-- `exchangeToTransport`: an `RcodeError` of the transport becomes a fixed response. -/
def exchangeToTransport (transport : DNSTransport α) (message : Msg α) : Except DNSError (Msg α) :=
  match transport.exchange message with
  | .ok response => .ok (stripDNSPadding response)
  | .error (.rcode rcode) => .ok (FixedResponseStatus message rcode)
  | .error (.other text) => .error (.transport text)

/-- The verdict of a response checker in `Client.Exchange`: a response other than success
or NXDOMAIN is rejected without asking it. -/
def rejectedBy (responseChecker : Msg α → Bool) (response : Msg α) : Bool :=
  if response.rcode ≠ dnsRcodeSuccess ∧ response.rcode ≠ rcodeNameError then true
  else !responseChecker response

def MessageToAddresses (response : Msg α) : List α :=
  DNSResponseAddresses response

namespace Client

variable (c : Client α)

/-- `Client.Exchange` after the cache lookup: the RDRC, the transport, the checker, and
the store. The stored copy is taken before the Id is set and before the EDNS ending. -/
def exchangeFresh (now : Nat) (transport : DNSTransport α) (message : Msg α) (question : Question)
    (options : DNSQueryOptions α) (responseChecker : Option (Msg α → Bool))
    (disableCache : Bool) : Except DNSError (Msg α) × Client α :=
  if !disableCache && responseChecker.isSome && c.loadRDRC transport question then
    (.error .responseRejectedCached, c)
  else
    match exchangeToTransport transport message with
    | .error err => (.error err, c)
    | .ok response =>
      let disableCache := disableCache ||
        decide (response.rcode ≠ dnsRcodeSuccess ∧ response.rcode ≠ rcodeNameError)
      if responseChecker.any fun check => rejectedBy check response then
        (.error .responseRejected, if disableCache then c else c.saveRDRC transport question)
      else
        let (response, timeToLive) := applyResponseOptions question response options
        let c := if disableCache then c else c.storeCache now transport question response timeToLive
        (.ok (normalizeResponseEDNS message { response with id := message.id }), c)

/-- `backgroundRefreshDNS`, run to its end: the transport's answer is checked as in
`Client.Exchange`, then stored, or its rejection saved. -/
def backgroundRefreshDNS (now : Nat) (transport : DNSTransport α) (question : Question)
    (message : Msg α) (options : DNSQueryOptions α) (responseChecker : Option (Msg α → Bool)) :
    Client α :=
  match exchangeToTransport transport message with
  | .error _ => c
  | .ok response =>
    match responseChecker with
    | some check =>
      if rejectedBy check response then c.saveRDRC transport question
      else
        let (response, timeToLive) := applyResponseOptions question response options
        c.storeCache now transport question response timeToLive
    | none =>
      if response.rcode ≠ dnsRcodeSuccess ∧ response.rcode ≠ rcodeNameError then c
      else
        let (response, timeToLive) := applyResponseOptions question response options
        c.storeCache now transport question response timeToLive

def Exchange (now : Nat) (transport : DNSTransport α) (message : Msg α) (options : DNSQueryOptions α)
    (responseChecker : Option (Msg α → Bool)) : Except DNSError (Msg α) × Client α :=
  match message.question with
  | [] => (.ok (FixedResponseStatus message rcodeFormatError), c)
  | question :: _ =>
    if question.qtype = typeA ∧ options.strategy = .ipv6Only ∨
        question.qtype = typeAAAA ∧ options.strategy = .ipv4Only then
      (.ok (FixedResponseStatus message dnsRcodeSuccess), c)
    else
      let message := c.prepareExchangeMessage message options
      let disableCache := !isSimpleRequest message options || c.disableCache || options.disableCache
      let (cached, c) := if disableCache then (none, c) else c.loadResponse now question transport
      match cached with
      | some (response, _, true) =>
        if !options.disableOptimisticCache then
          (.ok { response with id := message.id },
            c.backgroundRefreshDNS now transport question message options responseChecker)
        else c.exchangeFresh now transport message question options responseChecker disableCache
      | some (response, _, false) => (.ok { response with id := message.id }, c)
      | none => c.exchangeFresh now transport message question options responseChecker disableCache

/-- The request `lookupToExchange` builds. -/
def lookupMessage (question : Question) : Msg α :=
  ⟨0, dnsRcodeSuccess, [question], [], [], []⟩

/-- The addresses of a response, or its rcode as an error. -/
def addressesOf (response : Msg α) : Except DNSError (List α) :=
  if response.rcode ≠ dnsRcodeSuccess then .error (.rcode response.rcode)
  else .ok (MessageToAddresses response)

/-- `questionCache`: `none` is `ErrNotCached`. -/
def questionCache (now : Nat) (transport : DNSTransport α) (question : Question) (message : Msg α)
    (options : DNSQueryOptions α) (responseChecker : Option (Msg α → Bool)) :
    Option (Except DNSError (List α)) × Client α :=
  match c.loadResponse now question transport with
  | (none, c) => (none, c)
  | (some (response, _, isStale), c) =>
    if isStale then
      if options.disableOptimisticCache then (none, c)
      else
        (some (addressesOf response),
          c.backgroundRefreshDNS now transport question (c.prepareExchangeMessage message options)
            options responseChecker)
    else (some (addressesOf response), c)

def lookupToExchange (now : Nat) (transport : DNSTransport α) (name : String) (qType : Nat)
    (options : DNSQueryOptions α) (responseChecker : Option (Msg α → Bool)) :
    Except DNSError (List α) × Client α :=
  let question : Question := ⟨name, qType, classINET⟩
  let (cached, c) :=
    if c.disableCache || options.disableCache then (none, c)
    else c.questionCache now transport question (lookupMessage question) options responseChecker
  match cached with
  | some result => (result, c)
  | none =>
    match c.Exchange now transport (lookupMessage question) options responseChecker with
    | (.error err, c) => (.error err, c)
    | (.ok response, c) => (addressesOf response, c)

end Client

/-- `dns.IsFqdn`, without escaped dots. -/
def IsFqdn (name : String) : Bool := name.endsWith "."

def Fqdn (name : String) : String := if IsFqdn name then name else name ++ "."

def FqdnToDomain (fqdn : String) : String := if IsFqdn fqdn then fqdn.dropEnd 1 |>.toString else fqdn

def sortAddresses (response4 response6 : List α) (strategy : DomainStrategy) : List α :=
  if strategy = .preferIPv6 then response6 ++ response4 else response4 ++ response6

namespace Client

variable (c : Client α)

/-- `Client.Lookup`. Of the two failures of a dual-stack lookup, the A query's is returned. -/
def Lookup (now : Nat) (transport : DNSTransport α) (domain : String) (options : DNSQueryOptions α)
    (responseChecker : Option (Msg α → Bool)) : Except DNSError (List α) × Client α :=
  let dnsName := Fqdn (FqdnToDomain domain)
  let strategy := if options.lookupStrategy ≠ .asIS then options.lookupStrategy else options.strategy
  let lookupOptions := if options.lookupStrategy ≠ .asIS then { options with strategy } else options
  match strategy with
  | .ipv4Only => c.lookupToExchange now transport dnsName typeA lookupOptions responseChecker
  | .ipv6Only => c.lookupToExchange now transport dnsName typeAAAA lookupOptions responseChecker
  | _ =>
    let (result4, c) := c.lookupToExchange now transport dnsName typeA lookupOptions responseChecker
    let (result6, c) := c.lookupToExchange now transport dnsName typeAAAA lookupOptions responseChecker
    let response4 := (result4.toOption).getD []
    let response6 := (result6.toOption).getD []
    if response4.isEmpty ∧ response6.isEmpty then
      match result4, result6 with
      | .error err, _ => (.error err, c)
      | _, .error err => (.error err, c)
      | _, _ => (.ok [], c)
    else (.ok (sortAddresses response4 response6 strategy), c)

end Client

/-! ### Exchanges without a checker -/

/-- What an exchange that reaches the transport returns when there is no checker. -/
def freshResult (transport : DNSTransport α) (message : Msg α) (question : Question)
    (options : DNSQueryOptions α) : Except DNSError (Msg α) :=
  (exchangeToTransport transport message).map fun response =>
    normalizeResponseEDNS message
      { (applyResponseOptions question response options).1 with id := message.id }

namespace Client

variable (c : Client α)

/-- What an exchange that reaches the transport stores when there is no checker. -/
def storeFresh (now : Nat) (transport : DNSTransport α) (message : Msg α) (question : Question)
    (options : DNSQueryOptions α) : Client α :=
  match exchangeToTransport transport message with
  | .ok response =>
    if response.rcode ≠ dnsRcodeSuccess ∧ response.rcode ≠ rcodeNameError then c
    else
      c.storeCache now transport question (applyResponseOptions question response options).1
        (applyResponseOptions question response options).2
  | .error _ => c

theorem exchangeFresh_none (now : Nat) (transport : DNSTransport α) (message : Msg α)
    (question : Question) (options : DNSQueryOptions α) (disableCache : Bool) :
    c.exchangeFresh now transport message question options none disableCache =
      (freshResult transport message question options,
        if disableCache then c else c.storeFresh now transport message question options) := by
  unfold exchangeFresh freshResult storeFresh
  simp only [Option.isSome_none, Bool.and_false, Bool.false_and, Bool.false_eq_true, if_false,
    Option.any_none]
  rcases exchangeToTransport transport message with err | response
  · cases disableCache <;> rfl
  · cases disableCache <;> by_cases hrcode : response.rcode ≠ dnsRcodeSuccess ∧ response.rcode ≠ rcodeNameError
      <;> simp [hrcode, Except.map]

theorem backgroundRefreshDNS_none (now : Nat) (transport : DNSTransport α) (question : Question)
    (message : Msg α) (options : DNSQueryOptions α) :
    c.backgroundRefreshDNS now transport question message options none =
      c.storeFresh now transport message question options := by
  unfold backgroundRefreshDNS storeFresh
  rcases exchangeToTransport transport message with err | response
  · rfl
  · rfl

theorem Exchange_of_disableCache {u : Client α} (hu : u.disableCache = true) (now : Nat)
    (transport : DNSTransport α) (message : Msg α) (options : DNSQueryOptions α) :
    u.Exchange now transport message options none =
      ((match message.question with
        | [] => .ok (FixedResponseStatus message rcodeFormatError)
        | question :: _ =>
          if question.qtype = typeA ∧ options.strategy = .ipv6Only ∨
              question.qtype = typeAAAA ∧ options.strategy = .ipv4Only then
            .ok (FixedResponseStatus message dnsRcodeSuccess)
          else freshResult transport (u.prepareExchangeMessage message options) question options), u) := by
  unfold Exchange
  cases message.question with
  | nil => rfl
  | cons question tail =>
    simp only [hu, Bool.or_true, Bool.true_or, if_true, exchangeFresh_none]
    split <;> rfl

@[simp] theorem question_lookupMessage (question : Question) :
    (lookupMessage question : Msg α).question = [question] := rfl

theorem lookupToExchange_eq (now : Nat) (transport : DNSTransport α) (name : String) (qType : Nat)
    (options : DNSQueryOptions α) (responseChecker : Option (Msg α → Bool)) :
    c.lookupToExchange now transport name qType options responseChecker =
      match (if c.disableCache || options.disableCache then (none, c)
          else c.questionCache now transport ⟨name, qType, classINET⟩
            (lookupMessage ⟨name, qType, classINET⟩) options responseChecker) with
      | (some result, c') => (result, c')
      | (none, c') =>
        ((c'.Exchange now transport (lookupMessage ⟨name, qType, classINET⟩) options
            responseChecker).1.bind addressesOf,
          (c'.Exchange now transport (lookupMessage ⟨name, qType, classINET⟩) options
            responseChecker).2) := by
  unfold lookupToExchange
  dsimp only
  rcases (if c.disableCache || options.disableCache then (none, c)
      else c.questionCache now transport ⟨name, qType, classINET⟩
        (lookupMessage ⟨name, qType, classINET⟩) options responseChecker) with ⟨_ | result, c'⟩
  · dsimp only
    rcases c'.Exchange now transport (lookupMessage ⟨name, qType, classINET⟩) options
      responseChecker with ⟨_ | _, _⟩ <;> rfl
  · rfl

end Client

end SingBox
