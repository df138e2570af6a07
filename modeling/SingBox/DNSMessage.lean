import SingBox.FakeIPAddr
import SingBox.RuleItem

/-!
# DNS messages

The part of a `miekg/dns` `Msg` that the DNS client of `dns/client.go` reads and writes:
the rcode, the question and the three record sections, with the record data the client
looks into (address records, HTTPS records and their address hints, SOA and OPT records).
Addresses are the parameter `α`, as in the rule engine, and `Msg.toDNSMessage` is the view
of a message that rule items read.

Results are compared by `Msg.view`: the rcode and the records with their TTLs erased, the
message Id left out.
-/

namespace SingBox

variable {α : Type}

def typeA : Nat := 1
def typeSOA : Nat := 6
def typeAAAA : Nat := 28
def typeOPT : Nat := 41
def typeHTTPS : Nat := 65
def classINET : Nat := 1
def rcodeFormatError : Nat := 1
def rcodeNameError : Nat := 3
def rcodeRefused : Nat := 5
def svcbIPv4Hint : Nat := 4
def svcbIPv6Hint : Nat := 6
def edns0Subnet : Nat := 8
def edns0Padding : Nat := 12

structure Question where
  name : String
  qtype : Nat
  qclass : Nat
deriving DecidableEq, Repr

/-- A parameter of an SVCB record. -/
inductive SVCBKeyValue (α : Type) where
  | ipv4Hint (hint : List α)
  | ipv6Hint (hint : List α)
  | other (key : Nat) (value : List UInt8)
deriving DecidableEq, Repr

def SVCBKeyValue.Key : SVCBKeyValue α → Nat
  | ipv4Hint _ => svcbIPv4Hint
  | ipv6Hint _ => svcbIPv6Hint
  | other key _ => key

/-- An option of an OPT record. -/
inductive EDNS0 where
  | subnet (clientSubnet : Prefix)
  | other (code : Nat) (data : List UInt8)
deriving DecidableEq, Repr

def EDNS0.Option : EDNS0 → Nat
  | subnet _ => edns0Subnet
  | other code _ => code

/-- The data of a record, by its type. -/
inductive RData (α : Type) where
  | a (addr : α)
  | aaaa (addr : α)
  | https (priority : Nat) (target : String) (value : List (SVCBKeyValue α))
  | soa (minttl : Nat)
  | opt (option : List EDNS0)
  | other (rrtype : Nat) (rdata : List UInt8)
deriving DecidableEq, Repr

/-- `dns.RR`: a header and its data. In an OPT record the class is the UDP size and the
TTL holds the extended rcode, the EDNS version and the DO bit. -/
structure RR (α : Type) where
  name : String
  rrClass : Nat
  ttl : Nat
  data : RData α
deriving DecidableEq, Repr

namespace RR

def Rrtype (rr : RR α) : Nat :=
  match rr.data with
  | .a _ => typeA
  | .aaaa _ => typeAAAA
  | .https .. => typeHTTPS
  | .soa _ => typeSOA
  | .opt _ => typeOPT
  | .other rrtype _ => rrtype

def Version (rr : RR α) : Nat := (rr.ttl &&& 0x00FF0000) >>> 16

def UDPSize (rr : RR α) : Nat := rr.rrClass

def Do (rr : RR α) : Bool := rr.ttl &&& 0x8000 == 0x8000

/-- The addresses `adapter.DNSResponseAddresses` takes from one answer record. -/
def addresses (rr : RR α) : List α :=
  match rr.data with
  | .a addr => [addr]
  | .aaaa addr => [addr]
  | .https _ _ value =>
    value.flatMap fun
      | .ipv4Hint hint => hint
      | .ipv6Hint hint => hint
      | .other .. => []
  | _ => []

/-- One record under `normalizeTTL`: every record but an OPT one gets the TTL. -/
def withTTL (timeToLive : Nat) (rr : RR α) : RR α :=
  if rr.Rrtype = typeOPT then rr else { rr with ttl := timeToLive }

/-- One record under `stripDNSPadding`. -/
def stripPadding (rr : RR α) : RR α :=
  match rr.data with
  | .opt option => { rr with data := .opt (option.filter fun it => it.Option ≠ edns0Padding) }
  | _ => rr

end RR

/-- `dns.Msg`, without the header flags. -/
structure Msg (α : Type) where
  id : Nat
  rcode : Nat
  question : List Question
  answer : List (RR α)
  ns : List (RR α)
  extra : List (RR α)
deriving DecidableEq, Repr

namespace Msg

/-- `Msg.IsEdns0`: the last OPT record of the additional section. -/
def IsEdns0 (m : Msg α) : Option (RR α) :=
  m.extra.reverse.find? fun rr => rr.Rrtype == typeOPT

def SetEdns0 (m : Msg α) (udpSize : Nat) (doBit : Bool) : Msg α :=
  { m with extra := m.extra ++ [⟨".", udpSize, if doBit then 0x8000 else 0, .opt []⟩] }

/-- The rule items' view of a response. -/
def toDNSMessage (m : Msg α) : DNSMessage α :=
  ⟨m.rcode, m.answer.flatMap RR.addresses⟩

/-- What results are compared by: the rcode and the records, TTLs erased. -/
def view (m : Msg α) : Nat × List (RR α) × List (RR α) × List (RR α) :=
  (m.rcode, m.answer.map (RR.withTTL 0), m.ns.map (RR.withTTL 0), m.extra.map (RR.withTTL 0))

end Msg

def DNSResponseAddresses (response : Msg α) : List α :=
  dnsResponseAddresses (some response.toDNSMessage)

def FixedResponseStatus (message : Msg α) (rcode : Nat) : Msg α :=
  ⟨message.id, rcode, message.question, [], [], []⟩

def normalizeTTL (response : Msg α) (timeToLive : Nat) : Msg α :=
  { response with
    answer := response.answer.map (RR.withTTL timeToLive)
    ns := response.ns.map (RR.withTTL timeToLive)
    extra := response.extra.map (RR.withTTL timeToLive) }

/-- `extractNegativeTTL`: the smaller of the TTL and the minimum of the first SOA record
of the authority section. -/
def extractNegativeTTL (response : Msg α) : Option Nat :=
  response.ns.findSome? fun record =>
    match record.data with
    | .soa minttl => some (if record.ttl < minttl then record.ttl else minttl)
    | _ => none

def computeTimeToLive (response : Msg α) : Nat :=
  let timeToLive := (response.answer ++ response.ns ++ response.extra).foldl
    (fun timeToLive record =>
      if record.Rrtype = typeOPT then timeToLive
      else if timeToLive = 0 ∨ 0 < record.ttl ∧ record.ttl < timeToLive then record.ttl
      else timeToLive) 0
  if response.answer.isEmpty then (extractNegativeTTL response).getD timeToLive
  else timeToLive

def stripDNSPadding (response : Msg α) : Msg α :=
  { response with extra := response.extra.map RR.stripPadding }

inductive DomainStrategy where
  | asIS
  | preferIPv4
  | preferIPv6
  | ipv4Only
  | ipv6Only
deriving DecidableEq, Repr

/-- An error a transport returns: an `RcodeError`, or any other. -/
inductive TransportError where
  | rcode (rcode : Nat)
  | other (message : String)
deriving DecidableEq, Repr

/-- `adapter.DNSTransport`: its tag, whether it is a FakeIP transport, and its answer to a
request. -/
structure DNSTransport (α : Type) where
  tag : String
  isFakeIP : Bool
  exchange : Msg α → Except TransportError (Msg α)

/-- `adapter.DNSQueryOptions`, without the timeout. -/
structure DNSQueryOptions (α : Type) where
  transport : Option (DNSTransport α)
  strategy : DomainStrategy
  lookupStrategy : DomainStrategy
  disableCache : Bool
  disableOptimisticCache : Bool
  rewriteTTL : Option Nat
  clientSubnet : Option Prefix

/-- The SVCB parameters `applyResponseOptions` keeps under an `ipv4_only` or `ipv6_only`
strategy. -/
def SVCBKeyValue.keptBy (strategy : DomainStrategy) (it : SVCBKeyValue α) : Bool :=
  if strategy = .ipv4Only then it.Key ≠ svcbIPv6Hint else it.Key ≠ svcbIPv4Hint

/-- One answer record under the hint filter of `applyResponseOptions`. -/
def RR.filterHints (strategy : DomainStrategy) (rr : RR α) : RR α :=
  match rr.data with
  | .https priority target value =>
    { rr with data := .https priority target (value.filter (SVCBKeyValue.keptBy strategy)) }
  | _ => rr

/-- The strategy whose hint filter `applyResponseOptions` applies to a question, if any. -/
def hintFilter (question : Question) (strategy : DomainStrategy) : Option DomainStrategy :=
  if question.qtype = typeHTTPS ∧ (strategy = .ipv4Only ∨ strategy = .ipv6Only) then some strategy
  else none

/-- `applyResponseOptions`: the response with its hints filtered and its TTLs normalised,
and the TTL. -/
def applyResponseOptions (question : Question) (response : Msg α) (options : DNSQueryOptions α) :
    Msg α × Nat :=
  let response :=
    match hintFilter question options.strategy with
    | some strategy => { response with answer := response.answer.map (RR.filterHints strategy) }
    | none => response
  let timeToLive := options.rewriteTTL.getD (computeTimeToLive response)
  (normalizeTTL response timeToLive, timeToLive)

/-- `isSimpleRequest` of `Client.Exchange`: one question, no authority records, at most one
additional record and that a bare OPT record, and no client subnet in the options. -/
def isSimpleRequest (message : Msg α) (options : DNSQueryOptions α) : Bool :=
  message.question.length = 1 && message.ns.isEmpty &&
    (match message.extra with
      | [] => true
      | [record] =>
        match record.data with
        | .opt option => decide (0 < record.rrClass) && record.ttl == 0 && option.isEmpty
        | _ => false
      | _ => false) &&
    options.clientSubnet.isNone

/-- The end of `Client.Exchange`: a response with an OPT record of a higher version than
the request's, or answering a request without one, loses its OPT records, and gets a bare
one back when the request had one. -/
def normalizeResponseEDNS (request response : Msg α) : Msg α :=
  match response.IsEdns0 with
  | none => response
  | some responseOpt =>
    match request.IsEdns0 with
    | none => { response with extra := response.extra.filter fun it => it.Rrtype ≠ typeOPT }
    | some requestOpt =>
      if requestOpt.Version < responseOpt.Version then
        Msg.SetEdns0 { response with extra := response.extra.filter fun it => it.Rrtype ≠ typeOPT }
          responseOpt.UDPSize responseOpt.Do
      else response

/-! ### Views -/

namespace RR

@[simp] theorem withTTL_withTTL (t t' : Nat) (rr : RR α) :
    (rr.withTTL t).withTTL t' = rr.withTTL t' := by
  unfold withTTL
  split <;> simp_all [Rrtype]

@[simp] theorem Rrtype_withTTL (t : Nat) (rr : RR α) : (rr.withTTL t).Rrtype = rr.Rrtype := by
  unfold withTTL
  split <;> rfl

@[simp] theorem addresses_withTTL (t : Nat) (rr : RR α) :
    (rr.withTTL t).addresses = rr.addresses := by
  unfold withTTL
  split <;> rfl

end RR

@[simp] theorem view_normalizeTTL (response : Msg α) (timeToLive : Nat) :
    (normalizeTTL response timeToLive).view = response.view := by
  simp [normalizeTTL, Msg.view, Function.comp_def]

@[simp] theorem view_setId (response : Msg α) (id : Nat) :
    ({ response with id := id } : Msg α).view = response.view := rfl

@[simp] theorem toDNSMessage_normalizeTTL (response : Msg α) (timeToLive : Nat) :
    (normalizeTTL response timeToLive).toDNSMessage = response.toDNSMessage := by
  simp [normalizeTTL, Msg.toDNSMessage, List.flatMap_map]

theorem view_applyResponseOptions (question : Question) (response : Msg α)
    (options : DNSQueryOptions α) :
    (applyResponseOptions question response options).1.view =
      (match hintFilter question options.strategy with
        | some strategy => { response with answer := response.answer.map (RR.filterHints strategy) }
        | none => response).view := by
  simp only [applyResponseOptions, view_normalizeTTL]

theorem hintFilter_of_ne {question : Question} (h : question.qtype ≠ typeHTTPS)
    (strategy : DomainStrategy) : hintFilter question strategy = none := by
  simp [hintFilter, h]

/-- A response that the request's EDNS version covers is left as it is. -/
def EDNSCovered (request response : Msg α) : Prop :=
  ∀ responseOpt, response.IsEdns0 = some responseOpt →
    ∃ requestOpt, request.IsEdns0 = some requestOpt ∧ responseOpt.Version ≤ requestOpt.Version

theorem normalizeResponseEDNS_of_covered {request response : Msg α}
    (h : EDNSCovered request response) : normalizeResponseEDNS request response = response := by
  unfold normalizeResponseEDNS
  rcases hresponse : response.IsEdns0 with _ | responseOpt
  · rfl
  · obtain ⟨requestOpt, hrequest, hle⟩ := h responseOpt hresponse
    simp only [hrequest, if_neg (Nat.not_lt.mpr hle)]

end SingBox
