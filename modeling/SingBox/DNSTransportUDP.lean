import SingBox.DNSMessage
import SingBox.LockStep
import SingBox.PartialInverse

/-!
# The UDP DNS transport: query ids and callbacks

`UDPTransport` of `dns/transport/udp.go`. An `exchange` takes the first query id after the last
one handed out that no callback holds (`nextAvailableQueryId`, once round the 2^16 ids),
registers its `udpCallback` under it, writes the request under that id and waits; `recvLoop`
hands each response to the callback registered under the response's id, and only the first;
the deferred `delete` frees the id when the exchange returns.

Each stretch of the source between two points where a goroutine blocks is one `Event`, so a run
of events is an interleaving of the exchanges and of the receive loop. Callbacks are kept by the
number of the exchange that made them, since the source shares them by pointer. The connection
(`ConnPool`, modelled apart) is the outcome of `AcquireShared`, of packing and of the write,
given with the event.
-/

namespace SingBox

/-- The id a response is looked up by: `Msg.Id` is a `uint16`. -/
def Msg.queryId (message : Msg α) : UInt16 := UInt16.ofNat message.id

namespace DNSTransport

/-- The locals of an `exchange` blocked in its `select`. -/
structure udpExchange where
  queryId : UInt16
  originalId : Nat
deriving DecidableEq, Repr

/-- `UDPTransport`. `response` is `callback.response` of each exchange's callback, whose `done`
is closed once it is set; `waiting` the exchanges blocked in their `select`. -/
structure UDPTransport (α : Type) where
  udpSize : Nat
  queryId : UInt16
  callbacks : UInt16 → Option Nat
  response : Nat → Option (Msg α)
  waiting : Nat → Option udpExchange

/-- One stretch of a goroutine of the transport. -/
inductive UDPEvent (α : Type)
  /-- An `exchange` call numbered `exchange` up to its `select`, with what `AcquireShared`,
  `PackBuffer` and the write return. -/
  | exchange (exchange : Nat) (message : Msg α) (acquire pack write : Except String Unit)
  /-- One turn of `recvLoop` that read and unpacked `message`. -/
  | receive (message : Msg α)
  /-- The `select` of `exchange` takes `callback.done`. -/
  | done (exchange : Nat)
  /-- The `select` of `exchange` takes `connCtx.Done()` or `ctx.Done()`, with its cause. -/
  | cancel (exchange : Nat) (err : String)

/-- Whether an event makes `exchange` leave its `select`. -/
def UDPEvent.ends (exchange : Nat) : UDPEvent α → Bool
  | .done other => other == exchange
  | .cancel other _ => other == exchange
  | _ => false

namespace UDPTransport

variable {α : Type}

def NewUDPRaw : UDPTransport α :=
  ⟨2048, 0, fun _ => none, fun _ => none, fun _ => none⟩

/-- The turns of the loop of `nextAvailableQueryId` from `queryId`, `fuel` turns at most. -/
def nextAvailableQueryIdFrom (callbacks : UInt16 → Option Nat) (start : UInt16) :
    Nat → UInt16 → Except String UInt16 × UInt16
  | 0, queryId => (.error "no available query ID", queryId)
  | fuel + 1, queryId =>
    let queryId := queryId + 1
    if (callbacks queryId).isNone then (.ok queryId, queryId)
    else if queryId = start then (.error "no available query ID", queryId)
    else nextAvailableQueryIdFrom callbacks start fuel queryId

/-- `nextAvailableQueryId`: the loop is back at `start` by its 2^16-th turn. -/
def nextAvailableQueryId (t : UDPTransport α) : Except String UInt16 × UDPTransport α :=
  let (result, queryId) := nextAvailableQueryIdFrom t.callbacks t.queryId 65536 t.queryId
  (result, { t with queryId })

/-- The compare-and-swap loop on `udpSize`: it only grows. -/
def updateUDPSize (current : Nat) (message : Msg α) : Nat :=
  match message.IsEdns0 with
  | some edns0Opt => if edns0Opt.UDPSize ≤ current then current else edns0Opt.UDPSize
  | none => current

/-- `exchange` up to its `select`: the exchange that returned and its result, if it did. -/
def exchangeStart (t : UDPTransport α) (exchange : Nat) (message : Msg α)
    (acquire pack write : Except String Unit) :
    Option (Nat × Except String (Msg α)) × UDPTransport α :=
  let t := { t with udpSize := updateUDPSize t.udpSize message }
  match acquire with
  | .error err => (some (exchange, .error err), t)
  | .ok () =>
    match t.nextAvailableQueryId with
    | (.error err, t) => (some (exchange, .error err), t)
    | (.ok queryId, t) =>
      let t := { t with
        callbacks := Function.update t.callbacks queryId (some exchange)
        response := Function.update t.response exchange none }
      -- the deferred `delete` of the callback on each early return
      let release := { t with callbacks := Function.update t.callbacks queryId none }
      match pack, write with
      | .error err, _ => (some (exchange, .error err), release)
      | .ok (), .error err => (some (exchange, .error ("write request: " ++ err)), release)
      | .ok (), .ok () =>
        (none, { t with waiting := Function.update t.waiting exchange (some ⟨queryId, message.id⟩) })

/-- One turn of `recvLoop` with an unpacked `message`. -/
def receive (t : UDPTransport α) (message : Msg α) : UDPTransport α :=
  match t.callbacks message.queryId with
  | none => t
  | some callback =>
    match t.response callback with
    | some _ => t
    | none => { t with response := Function.update t.response callback (some message) }

/-- The deferred `delete` when `exchange` leaves its `select`. -/
def finish (t : UDPTransport α) (exchange : Nat) (w : udpExchange) : UDPTransport α :=
  { t with
    callbacks := Function.update t.callbacks w.queryId none
    waiting := Function.update t.waiting exchange none }

@[simp] theorem finish_callbacks (t : UDPTransport α) (exchange : Nat) (w : udpExchange) :
    (t.finish exchange w).callbacks = Function.update t.callbacks w.queryId none := rfl

@[simp] theorem finish_waiting (t : UDPTransport α) (exchange : Nat) (w : udpExchange) :
    (t.finish exchange w).waiting = Function.update t.waiting exchange none := rfl

@[simp] theorem finish_response (t : UDPTransport α) (exchange : Nat) (w : udpExchange) :
    (t.finish exchange w).response = t.response := rfl

@[simp] theorem receive_callbacks (t : UDPTransport α) (message : Msg α) :
    (t.receive message).callbacks = t.callbacks := by
  unfold receive
  split
  · rfl
  · split <;> rfl

@[simp] theorem receive_waiting (t : UDPTransport α) (message : Msg α) :
    (t.receive message).waiting = t.waiting := by
  unfold receive
  split
  · rfl
  · split <;> rfl

def done (t : UDPTransport α) (exchange : Nat) :
    Option (Nat × Except String (Msg α)) × UDPTransport α :=
  match t.waiting exchange, t.response exchange with
  | some w, some response =>
    let response := { response with id := w.originalId }
    (some (exchange, .ok response),
      { t.finish exchange w with response := Function.update t.response exchange (some response) })
  | _, _ => (none, t)

def cancel (t : UDPTransport α) (exchange : Nat) (err : String) :
    Option (Nat × Except String (Msg α)) × UDPTransport α :=
  match t.waiting exchange with
  | some w => (some (exchange, .error err), t.finish exchange w)
  | none => (none, t)

/-- An event; an `exchange` event for an exchange already waiting is not one of the source's and
changes nothing. -/
def step (t : UDPTransport α) : UDPEvent α → Option (Nat × Except String (Msg α)) × UDPTransport α
  | .exchange exchange message acquire pack write =>
    if (t.waiting exchange).isSome then (none, t)
    else t.exchangeStart exchange message acquire pack write
  | .receive message => (none, t.receive message)
  | .done exchange => t.done exchange
  | .cancel exchange err => t.cancel exchange err

/-! ## The query id -/

/-- What `nextAvailableQueryId` is for: `queryId` is the first id after `start`, going up and
round, that no callback holds. -/
def FirstFree (callbacks : UInt16 → Option Nat) (start queryId : UInt16) : Prop :=
  ∃ n, 0 < n ∧ n ≤ 65536 ∧ queryId = start + UInt16.ofNat n ∧ callbacks queryId = none ∧
    ∀ i, 0 < i → i < n → callbacks (start + UInt16.ofNat i) ≠ none

theorem add_ofNat_succ (start : UInt16) (k : Nat) :
    start + UInt16.ofNat k + 1 = start + UInt16.ofNat (k + 1) := by
  rw [UInt16.ofNat_add, add_assoc]
  rfl

theorem ofNat_inj_of_le {start : UInt16} {i j : Nat} (hi : 0 < i ∧ i ≤ 65536) (hj : 0 < j ∧ j ≤ 65536)
    (h : start + UInt16.ofNat i = start + UInt16.ofNat j) : i = j := by
  have h' := congrArg UInt16.toNat (add_left_cancel h)
  simp only [UInt16.toNat_ofNat', Nat.reducePow] at h'
  omega

theorem exists_add_ofNat (start queryId : UInt16) :
    ∃ i, 0 < i ∧ i ≤ 65536 ∧ queryId = start + UInt16.ofNat i := by
  by_cases h : queryId = start
  · exact ⟨65536, by omega, le_rfl, by simp [h]⟩
  · refine ⟨(queryId - start).toNat, ?_, (queryId - start).toNat_lt.le, by simp⟩
    have : queryId - start ≠ 0 := sub_ne_zero.mpr h
    exact Nat.pos_of_ne_zero (fun h0 => this (UInt16.toNat_inj.mp (by simpa using h0)))

variable {callbacks : UInt16 → Option Nat} {start : UInt16}

/-- The loop hands out the first free id after the `k` ids it passed over. -/
theorem nextAvailableQueryIdFrom_ok {fuel k : Nat} {queryId queryId' : UInt16}
    (h : nextAvailableQueryIdFrom callbacks start fuel (start + UInt16.ofNat k) = (.ok queryId, queryId'))
    (hused : ∀ i, 0 < i → i ≤ k → callbacks (start + UInt16.ofNat i) ≠ none) :
    queryId' = queryId ∧ ∃ n, k < n ∧ n ≤ k + fuel ∧ queryId = start + UInt16.ofNat n ∧
      callbacks queryId = none ∧ ∀ i, 0 < i → i < n → callbacks (start + UInt16.ofNat i) ≠ none := by
  induction fuel generalizing k with
  | zero => simp [nextAvailableQueryIdFrom] at h
  | succ fuel ih =>
    simp only [nextAvailableQueryIdFrom, add_ofNat_succ] at h
    split_ifs at h with hfree hstart
    · simp only [Prod.mk.injEq, Except.ok.injEq] at h
      obtain ⟨rfl, rfl⟩ := h
      refine ⟨rfl, k + 1, by omega, by omega, rfl, by simpa using hfree, fun i hi hik => ?_⟩
      exact hused i hi (by omega)
    · simp at h
    · have hused' : ∀ i, 0 < i → i ≤ k + 1 → callbacks (start + UInt16.ofNat i) ≠ none := by
        intro i hi hik
        rcases Nat.lt_or_eq_of_le hik with hik | rfl
        · exact hused i hi (by omega)
        · simpa using hfree
      obtain ⟨rfl, n, hkn, hn, hq, hnone, hbefore⟩ := ih h hused'
      exact ⟨rfl, n, by omega, by omega, hq, hnone, hbefore⟩

/-- The loop fails only once every id after the `k` passed over is held, and then it is back at
`start`. -/
theorem nextAvailableQueryIdFrom_error {fuel k : Nat} {err : String} {queryId' : UInt16}
    (hk : k + fuel = 65536)
    (h : nextAvailableQueryIdFrom callbacks start fuel (start + UInt16.ofNat k) = (.error err, queryId')) :
    err = "no available query ID" ∧ queryId' = start ∧
      ∀ i, k < i → i ≤ 65536 → callbacks (start + UInt16.ofNat i) ≠ none := by
  induction fuel generalizing k with
  | zero =>
    obtain rfl : k = 65536 := by omega
    simp only [nextAvailableQueryIdFrom, Prod.mk.injEq, Except.error.injEq] at h
    refine ⟨h.1.symm, ?_, fun i hi hi' => absurd hi' (by omega)⟩
    rw [← h.2]
    simp
  | succ fuel ih =>
    simp only [nextAvailableQueryIdFrom, add_ofNat_succ] at h
    split_ifs at h with hfree hstart
    · simp at h
    · simp only [Prod.mk.injEq, Except.error.injEq] at h
      have hwrap : start + UInt16.ofNat (k + 1) = start + UInt16.ofNat 65536 := by
        simpa using hstart
      have hlast : k + 1 = 65536 := ofNat_inj_of_le ⟨by omega, by omega⟩ ⟨by omega, le_rfl⟩ hwrap
      refine ⟨h.1.symm, h.2 ▸ hstart, fun i hi hi' => ?_⟩
      obtain rfl : i = k + 1 := by omega
      simpa using hfree
    · obtain ⟨herr, hq, hafter⟩ := ih (k := k + 1) (by omega) h
      refine ⟨herr, hq, fun i hi hi' => ?_⟩
      rcases Nat.lt_or_eq_of_le (Nat.succ_le_of_lt hi) with hi | rfl
      · exact hafter i hi hi'
      · simpa using hfree

theorem FirstFree.eq {q₁ q₂ : UInt16} (h₁ : FirstFree callbacks start q₁)
    (h₂ : FirstFree callbacks start q₂) : q₁ = q₂ := by
  obtain ⟨n₁, hn₁, hn₁', rfl, hfree₁, hbefore₁⟩ := h₁
  obtain ⟨n₂, hn₂, hn₂', rfl, hfree₂, hbefore₂⟩ := h₂
  rcases lt_trichotomy n₁ n₂ with h | rfl | h
  · exact absurd hfree₁ (hbefore₂ n₁ hn₁ h)
  · rfl
  · exact absurd hfree₂ (hbefore₁ n₂ hn₂ h)

theorem nextAvailableQueryId_of_ok {t t' : UDPTransport α} {queryId : UInt16}
    (h : t.nextAvailableQueryId = (.ok queryId, t')) :
    t' = { t with queryId } ∧ FirstFree t.callbacks t.queryId queryId := by
  rcases hloop : nextAvailableQueryIdFrom t.callbacks t.queryId 65536 t.queryId with
    ⟨result, queryId'⟩
  simp only [nextAvailableQueryId, hloop, Prod.mk.injEq] at h
  obtain ⟨rfl, rfl⟩ := h
  obtain ⟨rfl, n, hn, hn', hqn, hfree, hbefore⟩ :=
    nextAvailableQueryIdFrom_ok (k := 0) (by simpa only [UInt16.reduceOfNat, add_zero] using hloop)
      (fun i hi hi' => absurd hi' (by omega))
  exact ⟨rfl, n, hn, hn', hqn, hfree, hbefore⟩

theorem nextAvailableQueryId_of_error {t t' : UDPTransport α} {err : String}
    (h : t.nextAvailableQueryId = (.error err, t')) :
    t' = t ∧ err = "no available query ID" ∧ ∀ queryId, t.callbacks queryId ≠ none := by
  rcases hloop : nextAvailableQueryIdFrom t.callbacks t.queryId 65536 t.queryId with
    ⟨result, queryId'⟩
  simp only [nextAvailableQueryId, hloop, Prod.mk.injEq] at h
  obtain ⟨rfl, rfl⟩ := h
  have hloop0 : nextAvailableQueryIdFrom t.callbacks t.queryId 65536 (t.queryId + UInt16.ofNat 0) =
      (.error err, queryId') := by
    simpa only [UInt16.reduceOfNat, add_zero] using hloop
  obtain ⟨herr, rfl, hall⟩ := nextAvailableQueryIdFrom_error (by omega) hloop0
  refine ⟨rfl, herr, fun queryId => ?_⟩
  obtain ⟨i, hi, hi', rfl⟩ := exists_add_ofNat t.queryId queryId
  exact hall i hi hi'

/-- `nextAvailableQueryId` hands out exactly the first free id after the last one, and moves
the counter there. -/
theorem nextAvailableQueryId_eq_ok_iff (t : UDPTransport α) (queryId : UInt16) :
    t.nextAvailableQueryId = (.ok queryId, { t with queryId }) ↔
      FirstFree t.callbacks t.queryId queryId := by
  constructor
  · intro h
    exact (nextAvailableQueryId_of_ok h).2
  · intro hfirst
    rcases hresult : t.nextAvailableQueryId with ⟨_ | queryId', t'⟩
    · obtain ⟨n, -, -, -, hfree, -⟩ := hfirst
      exact absurd hfree ((nextAvailableQueryId_of_error hresult).2.2 queryId)
    · obtain ⟨rfl, hfirst'⟩ := nextAvailableQueryId_of_ok hresult
      rw [hfirst'.eq hfirst]

/-- `nextAvailableQueryId` fails exactly when every one of the 2^16 ids is held, and then
changes nothing. -/
theorem nextAvailableQueryId_eq_error_iff (t : UDPTransport α) :
    t.nextAvailableQueryId = (.error "no available query ID", t) ↔
      ∀ queryId, t.callbacks queryId ≠ none := by
  constructor
  · intro h
    exact (nextAvailableQueryId_of_error h).2.2
  · intro hall
    rcases hresult : t.nextAvailableQueryId with ⟨err | queryId, t'⟩
    · obtain ⟨rfl, rfl, -⟩ := nextAvailableQueryId_of_error hresult
      rfl
    · obtain ⟨n, -, -, -, hfree, -⟩ := (nextAvailableQueryId_of_ok hresult).2
      exact absurd hfree (hall queryId)


/-! ## The callbacks over a run -/

/-- The query id each waiting exchange holds. -/
def heldIds (waiting : Nat → Option udpExchange) : Nat → Option UInt16 :=
  Option.map udpExchange.queryId ∘ waiting

theorem heldIds_update (waiting : Nat → Option udpExchange) (exchange : Nat)
    (x : Option udpExchange) :
    heldIds (Function.update waiting exchange x) =
      Function.update (heldIds waiting) exchange (x.map udpExchange.queryId) :=
  Function.comp_update _ _ _ _

/-- `exchange` up to its `select` either returns an error and keeps every callback, or waits on
the first free id with a fresh callback registered under it. -/
theorem exchangeStart_cases (t : UDPTransport α) (exchange : Nat) (message : Msg α)
    (acquire pack write : Except String Unit) :
    (∃ err queryId response, t.exchangeStart exchange message acquire pack write =
        (some (exchange, .error err),
          { t with udpSize := updateUDPSize t.udpSize message, queryId, response }) ∧
        ∀ other, other ≠ exchange → response other = t.response other) ∨
    ∃ queryId, FirstFree t.callbacks t.queryId queryId ∧
      t.exchangeStart exchange message acquire pack write =
        (none, ⟨updateUDPSize t.udpSize message, queryId,
          Function.update t.callbacks queryId (some exchange),
          Function.update t.response exchange none,
          Function.update t.waiting exchange (some ⟨queryId, message.id⟩)⟩) := by
  rcases acquire with err | ⟨⟩
  · exact .inl ⟨err, t.queryId, t.response, rfl, fun _ _ => rfl⟩
  rcases hnext : ({ t with udpSize := updateUDPSize t.udpSize message } : UDPTransport α).nextAvailableQueryId
    with ⟨err | queryId, t'⟩
  · obtain ⟨rfl, -, -⟩ := nextAvailableQueryId_of_error hnext
    exact .inl ⟨err, t.queryId, t.response, by simp [exchangeStart, hnext], fun _ _ => rfl⟩
  obtain ⟨rfl, hfirst⟩ := nextAvailableQueryId_of_ok hnext
  have hrelease : Function.update (Function.update t.callbacks queryId (some exchange)) queryId none =
      t.callbacks := by
    obtain ⟨n, -, -, -, hfree, -⟩ := hfirst
    rw [Function.update_idem, ← hfree, Function.update_eq_self]
  have hresponse : ∀ other, other ≠ exchange →
      Function.update t.response exchange none other = t.response other :=
    fun other h => Function.update_of_ne h _ _
  rcases pack with err | ⟨⟩
  · exact .inl ⟨err, queryId, _, by simp [exchangeStart, hnext, hrelease], hresponse⟩
  rcases write with err | ⟨⟩
  · exact .inl ⟨"write request: " ++ err, queryId, _, by simp [exchangeStart, hnext, hrelease],
      hresponse⟩
  · exact .inr ⟨queryId, hfirst, by simp [exchangeStart, hnext]⟩

/-- The invariant of the transport. -/
structure Inv (t : UDPTransport α) : Prop where
  /-- A callback is registered under an id exactly while its exchange waits on that id. -/
  callbacks : PartialInverse t.callbacks (heldIds t.waiting)
  /-- A waiting exchange's response came back under the id it waits on. -/
  response : ∀ exchange w response, t.waiting exchange = some w →
    t.response exchange = some response → response.queryId = w.queryId

theorem inv_NewUDPRaw : Inv (NewUDPRaw : UDPTransport α) where
  callbacks := PartialInverse.empty
  response _ _ _ h := by simp [NewUDPRaw] at h

variable {t : UDPTransport α}

theorem Inv.waiting_of_callbacks (h : Inv t) {queryId : UInt16} {exchange : Nat}
    (hq : t.callbacks queryId = some exchange) :
    ∃ w, t.waiting exchange = some w ∧ w.queryId = queryId := by
  simpa [heldIds] using (h.callbacks queryId exchange).mp hq

theorem Inv.callbacks_of_waiting (h : Inv t) {exchange : Nat} {w : udpExchange}
    (hw : t.waiting exchange = some w) : t.callbacks w.queryId = some exchange :=
  (h.callbacks w.queryId exchange).mpr (by simp [heldIds, hw])

theorem Inv.exchangeStart (h : Inv t) {exchange : Nat} (hidle : t.waiting exchange = none)
    (message : Msg α) (acquire pack write : Except String Unit) :
    Inv (t.exchangeStart exchange message acquire pack write).2 := by
  rcases exchangeStart_cases t exchange message acquire pack write with
    ⟨err, queryId, response, heq, hresponse⟩ | ⟨queryId, hfirst, heq⟩ <;> rw [heq]
  · refine ⟨h.callbacks, fun other w r hw hr => ?_⟩
    have hne : other ≠ exchange := by rintro rfl; simp [hidle] at hw
    exact h.response other w r hw ((hresponse other hne).symm.trans hr)
  · obtain ⟨n, -, -, -, hfree, -⟩ := hfirst
    have hheld : heldIds t.waiting exchange = none := by simp [heldIds, hidle]
    refine ⟨?_, fun other w r hw hr => ?_⟩
    · rw [heldIds_update]
      exact h.callbacks.link hfree hheld
    · have hne : other ≠ exchange := by rintro rfl; simp at hr
      simp only [Function.update_of_ne hne] at hw hr
      exact h.response other w r hw hr

theorem Inv.receive (h : Inv t) (message : Msg α) : Inv (t.receive message) := by
  unfold UDPTransport.receive
  split
  · exact h
  next callback hcallback =>
    split
    · exact h
    · refine ⟨h.callbacks, fun other w r hw hr => ?_⟩
      by_cases hother : other = callback
      · subst hother
        obtain ⟨w', hw', hq⟩ := h.waiting_of_callbacks hcallback
        simp only [Function.update_self, Option.some.injEq] at hr
        rw [hw] at hw'
        cases hw'
        rw [← hr, hq]
      · exact h.response other w r hw (by simpa [Function.update_of_ne hother] using hr)

theorem Inv.finish (h : Inv t) {exchange : Nat} {w : udpExchange}
    (hw : t.waiting exchange = some w) {response : Nat → Option (Msg α)}
    (hresponse : ∀ other, other ≠ exchange → response other = t.response other) :
    Inv { t.finish exchange w with response } := by
  refine ⟨?_, fun other w' r hw' hr => ?_⟩
  · show PartialInverse (Function.update t.callbacks w.queryId none)
      (heldIds (Function.update t.waiting exchange none))
    rw [heldIds_update]
    exact h.callbacks.unlink (h.callbacks_of_waiting hw)
  · change Function.update t.waiting exchange none other = some w' at hw'
    change response other = some r at hr
    have hne : other ≠ exchange := by rintro rfl; simp at hw'
    rw [Function.update_of_ne hne] at hw'
    exact h.response other w' r hw' ((hresponse other hne).symm.trans hr)

theorem Inv.step (h : Inv t) (event : UDPEvent α) : Inv (t.step event).2 := by
  cases event with
  | exchange exchange message acquire pack write =>
    simp only [UDPTransport.step]
    split
    · exact h
    next hidle => exact h.exchangeStart (by simpa using hidle) message acquire pack write
  | receive message => exact h.receive message
  | done exchange =>
    simp only [UDPTransport.step, done]
    split
    · exact h.finish ‹_› fun other hne => Function.update_of_ne hne _ _
    · exact h
  | cancel exchange err =>
    simp only [UDPTransport.step, cancel]
    split
    · exact h.finish ‹_› fun _ _ => rfl
    · exact h

theorem inv_run (events : List (UDPEvent α)) : Inv (LockStep.run step NewUDPRaw events).2 :=
  LockStep.run_invariant Inv (fun _ => True) (fun _ event h _ => h.step event) events _
    inv_NewUDPRaw fun _ _ => trivial

/-- After any run, the callbacks registered are exactly those of the waiting exchanges, each
under the id it waits on: none is left behind, and no two waiting exchanges share an id. -/
theorem run_callbacks (events : List (UDPEvent α)) :
    let t := (LockStep.run step NewUDPRaw events).2
    (∀ queryId exchange, t.callbacks queryId = some exchange ↔
      ∃ w, t.waiting exchange = some w ∧ w.queryId = queryId) ∧
    ∀ e₁ e₂ w₁ w₂, t.waiting e₁ = some w₁ → t.waiting e₂ = some w₂ →
      w₁.queryId = w₂.queryId → e₁ = e₂ := by
  intro t
  have h := inv_run events
  refine ⟨fun queryId exchange => ⟨h.waiting_of_callbacks, ?_⟩, ?_⟩
  · rintro ⟨w, hw, rfl⟩
    exact h.callbacks_of_waiting hw
  · intro e₁ e₂ w₁ w₂ hw₁ hw₂ hq
    have h₁ := h.callbacks_of_waiting hw₁
    have h₂ := h.callbacks_of_waiting hw₂
    rw [hq, h₂] at h₁
    exact (Option.some_injective _ h₁).symm

/-! ## What an exchange returns -/

/-- The first response `recvLoop` reads under `queryId` in a run of events. -/
def firstResponse (queryId : UInt16) : List (UDPEvent α) → Option (Msg α)
  | [] => none
  | .receive message :: events =>
    if message.queryId = queryId then some message else firstResponse queryId events
  | _ :: events => firstResponse queryId events

theorem firstResponse_cons (queryId : UInt16) (event : UDPEvent α) (events : List (UDPEvent α)) :
    firstResponse queryId (event :: events) =
      (firstResponse queryId [event]).or (firstResponse queryId events) := by
  rcases event with _ | message | _ | _
  · rfl
  · by_cases h : message.queryId = queryId <;> simp [firstResponse, h]
  · rfl
  · rfl

/-- A turn of `recvLoop` gives a waiting exchange a response only if it has none, and only one
read under its id. -/
theorem Inv.receive_response (h : Inv t) {exchange : Nat} {w : udpExchange}
    (hw : t.waiting exchange = some w) (message : Msg α) :
    (t.receive message).response exchange =
      (t.response exchange).or (if message.queryId = w.queryId then some message else none) := by
  have hcallback : t.callbacks message.queryId = some exchange ↔ message.queryId = w.queryId := by
    constructor
    · intro hq
      obtain ⟨w', hw', hq'⟩ := h.waiting_of_callbacks hq
      rw [hw] at hw'
      cases hw'
      exact hq'.symm
    · intro hq
      rw [hq]
      exact h.callbacks_of_waiting hw
  unfold UDPTransport.receive
  split
  next hnone =>
    have hq : message.queryId ≠ w.queryId := fun hq => by simp [hcallback.mpr hq] at hnone
    simp [hq]
  next callback hsome =>
    split
    next r hr =>
      by_cases hq : message.queryId = w.queryId
      · obtain rfl : callback = exchange := Option.some_injective _ (hsome.symm.trans (hcallback.mpr hq))
        simp [hr]
      · simp [hq]
    next hr =>
      by_cases hother : callback = exchange
      · subst hother
        simp [hr, hcallback.mp hsome]
      · have hq : message.queryId ≠ w.queryId := fun hq =>
          hother (Option.some_injective _ (hsome.symm.trans (hcallback.mpr hq)))
        simp [Function.update_of_ne (Ne.symm hother), hq]

/-- An event that does not end a waiting exchange keeps it waiting, and gives it at most the
first response read under its id. -/
theorem Inv.step_waiting (h : Inv t) {exchange : Nat} {w : udpExchange}
    (hw : t.waiting exchange = some w) {event : UDPEvent α} (hevent : event.ends exchange = false) :
    (t.step event).2.waiting exchange = some w ∧
      (t.step event).2.response exchange = (t.response exchange).or (firstResponse w.queryId [event]) := by
  cases event with
  | exchange other message acquire pack write =>
    simp only [UDPTransport.step, firstResponse, Option.or_none]
    split
    · exact ⟨hw, rfl⟩
    next hidle =>
      have hne : exchange ≠ other := by rintro rfl; simp [hw] at hidle
      rcases exchangeStart_cases t other message acquire pack write with
        ⟨err, queryId, response, heq, hresponse⟩ | ⟨queryId, -, heq⟩ <;> rw [heq]
      · exact ⟨hw, hresponse exchange hne⟩
      · exact ⟨by simp [Function.update_of_ne hne, hw], by simp [Function.update_of_ne hne]⟩
  | receive message =>
    refine ⟨by simp [UDPTransport.step, hw], ?_⟩
    show (t.receive message).response exchange = _
    simpa [firstResponse] using h.receive_response hw message
  | done other =>
    have hne : exchange ≠ other := by rintro rfl; simp [UDPEvent.ends] at hevent
    simp only [UDPTransport.step, done, firstResponse, Option.or_none]
    split
    · exact ⟨by simp [Function.update_of_ne hne, hw], by simp [Function.update_of_ne hne]⟩
    · exact ⟨hw, rfl⟩
  | cancel other err =>
    have hne : exchange ≠ other := by rintro rfl; simp [UDPEvent.ends] at hevent
    simp only [UDPTransport.step, cancel, firstResponse, Option.or_none]
    split
    · exact ⟨by simp [Function.update_of_ne hne, hw], rfl⟩
    · exact ⟨hw, rfl⟩

theorem Inv.run_waiting (h : Inv t) {exchange : Nat} {w : udpExchange}
    (hw : t.waiting exchange = some w) {events : List (UDPEvent α)}
    (hevents : ∀ event ∈ events, event.ends exchange = false) :
    (LockStep.run UDPTransport.step t events).2.waiting exchange = some w ∧
      (LockStep.run UDPTransport.step t events).2.response exchange =
        (t.response exchange).or (firstResponse w.queryId events) := by
  induction events generalizing t with
  | nil => simp [firstResponse, hw]
  | cons event events ih =>
    obtain ⟨hw', hresponse⟩ := h.step_waiting hw (hevents event (by simp))
    obtain ⟨hw'', hresponse'⟩ :=
      ih (h.step event) hw' fun event' hevent' => hevents event' (by simp [hevent'])
    refine ⟨hw'', ?_⟩
    rw [LockStep.run_cons]
    rw [hresponse', hresponse, Option.or_assoc, firstResponse_cons w.queryId event events]

theorem done_fst {exchange : Nat} {w : udpExchange} (hw : t.waiting exchange = some w) :
    (t.done exchange).1 =
      (t.response exchange).map fun response => (exchange, .ok { response with id := w.originalId }) := by
  simp only [done, hw]
  cases t.response exchange <;> rfl

/-- Whatever else runs meanwhile, an exchange that got to its `select` returns, under its own id,
the first response read under the id it took (the first free one), and cannot return a response
before one is read. -/
theorem run_exchange_response (events rest : List (UDPEvent α)) (exchange : Nat)
    (message : Msg α) (acquire pack write : Except String Unit) {s : UDPTransport α}
    (hidle : (LockStep.run step NewUDPRaw events).2.waiting exchange = none)
    (hstart : (LockStep.run step NewUDPRaw events).2.step
      (.exchange exchange message acquire pack write) = (none, s))
    (hrest : ∀ event ∈ rest, event.ends exchange = false) :
    ∃ queryId, FirstFree (LockStep.run step NewUDPRaw events).2.callbacks
        (LockStep.run step NewUDPRaw events).2.queryId queryId ∧
      ((LockStep.run step s rest).2.step (.done exchange)).1 =
        (firstResponse queryId rest).map
          fun response => (exchange, .ok { response with id := message.id }) := by
  have h := inv_run events
  have hs : Inv s := by
    have := h.step (.exchange exchange message acquire pack write)
    rwa [hstart] at this
  simp only [UDPTransport.step, hidle, Option.isSome_none, Bool.false_eq_true, if_false] at hstart
  rcases exchangeStart_cases (LockStep.run step NewUDPRaw events).2 exchange message acquire pack write
    with ⟨err, _, _, heq, -⟩ | ⟨queryId, hfirst, heq⟩ <;> rw [heq] at hstart
  · simp at hstart
  obtain rfl := (Prod.mk.inj hstart).2
  obtain ⟨hw, hresponse⟩ := hs.run_waiting (w := ⟨queryId, message.id⟩) (by simp) hrest
  refine ⟨queryId, hfirst, ?_⟩
  rw [show ((LockStep.run step _ rest).2.step (.done exchange)).1 =
    ((LockStep.run step _ rest).2.done exchange).1 from rfl, done_fst hw, hresponse]
  simp

/-- A request under id 7, and an answer under id 1, the first id handed out. -/
def exampleRequest : Msg Nat := ⟨7, 0, [], [], [], []⟩

def exampleAnswer : Msg Nat := ⟨1, 0, [], [], [], []⟩

def exampleExchange : UDPEvent Nat := .exchange 0 exampleRequest (.ok ()) (.ok ()) (.ok ())

theorem newUDPRaw_exchange_response :
    (LockStep.run step NewUDPRaw ([] : List (UDPEvent Nat))).2.waiting 0 = none ∧
    ∃ queryId, FirstFree (LockStep.run step NewUDPRaw ([] : List (UDPEvent Nat))).2.callbacks
        (LockStep.run step NewUDPRaw ([] : List (UDPEvent Nat))).2.queryId queryId ∧
      ((LockStep.run step (NewUDPRaw.step exampleExchange).2 [.receive exampleAnswer]).2.step
          (.done 0)).1 =
        (firstResponse queryId [.receive exampleAnswer]).map
          fun response => (0, .ok { response with id := exampleRequest.id }) :=
  ⟨rfl, run_exchange_response [] [.receive exampleAnswer] 0 exampleRequest (.ok ()) (.ok ()) (.ok ())
    rfl (Prod.ext rfl rfl) (by decide)⟩

example :
    ((LockStep.run step (NewUDPRaw.step exampleExchange).2 [.receive exampleAnswer]).2.step
      (.done 0)).1 = some (0, .ok { exampleAnswer with id := 7 }) := rfl

end UDPTransport

end DNSTransport

end SingBox
