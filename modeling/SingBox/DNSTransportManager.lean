import SingBox.DNSRouterCache
import SingBox.OutboundManager

/-!
# The DNS transport manager

`dns/transport_manager.go`: the servers that `box.go` creates, by tag and as a list, the default
server and the one FakeIP server, as `Create`, `Remove` and `Start` change them. The router reads
`Transport`, `Default` and `FakeIP`.

A server is the transport the router exchanges with, with what the manager reads of it. The
manager compares servers with `==` on the interface, that is by pointer: `id` is that pointer, and
a server the registry constructs has a new one. `Start` at the start stage ends in
`startTransports`, which starts the servers in dependency order as the outbound manager's
`startOutbounds` does; it is a parameter here, as it changes nothing of the manager.

`Inv` is what every manager reached by `Create` on fresh tags, `Start` and `Remove` of a server
other than the default keeps, and `Inv.started` hands it to the router as `DNSRouter.Started`.
`Remove` of the default server and `Create` over the default server's tag do not keep it.
-/

namespace SingBox

open OutboundManager (StartStage ListStartStages Failure mapSet mapDelete lookup_mapSet
  lookup_mapSet_eq_some lookup_mapDelete)

variable {σ α : Type}

/-- In a list whose keys are distinct, erasing the first element with a key removes exactly the
elements with that key. -/
theorem List.mem_eraseIdx_findIdx?_key {T K : Type} [DecidableEq K] (key : T → K) {l : List T}
    {k : K} {i : Nat} (hnodup : (l.map key).Nodup) (hi : l.findIdx? (key · == k) = some i)
    (o : T) : o ∈ l.eraseIdx i ↔ o ∈ l ∧ key o ≠ k := by
  induction l generalizing i with
  | nil => simp at hi
  | cons b l ih =>
    rw [List.map_cons, List.nodup_cons] at hnodup
    by_cases hb : key b = k
    · rw [List.findIdx?_cons, if_pos (beq_iff_eq.mpr hb)] at hi
      obtain rfl : i = 0 := (Option.some.inj hi).symm
      rw [List.eraseIdx_cons_zero]
      constructor
      · intro ho
        refine ⟨List.mem_cons_of_mem b ho, fun hkey => hnodup.1 ?_⟩
        rw [hb, ← hkey]
        exact List.mem_map_of_mem ho
      · rintro ⟨ho, hkey⟩
        rcases List.mem_cons.mp ho with rfl | ho
        · exact absurd hb hkey
        · exact ho
    · rw [List.findIdx?_cons, if_neg (by simpa using hb)] at hi
      obtain ⟨j, hj, rfl⟩ := Option.map_eq_some_iff.mp hi
      rw [List.eraseIdx_cons_succ, List.mem_cons, List.mem_cons, ih hnodup.2 hj]
      constructor
      · rintro (rfl | ⟨ho, hkey⟩)
        · exact ⟨.inl rfl, hb⟩
        · exact ⟨.inr ho, hkey⟩
      · rintro ⟨rfl | ho, hkey⟩
        · exact .inl rfl
        · exact .inr ⟨ho, hkey⟩

def DNSTypeFakeIP : String := "fakeip"

/-- A server of the manager: the transport, its type, its dependency tags and the results of its
start and close methods. Its FakeIP flag is its type's. -/
structure DNSServer (α : Type) where
  id : Nat
  type : String
  transport : DNSTransport α
  Dependencies : List String
  Start : StartStage → Except String Unit
  Close : Except String Unit
  isFakeIP_type : transport.isFakeIP = (type == DNSTypeFakeIP)

def DNSServer.Tag (server : DNSServer α) : String := server.transport.tag

theorem DNSServer.isFakeIP_iff (server : DNSServer α) :
    server.transport.isFakeIP = true ↔ server.type = DNSTypeFakeIP := by
  rw [server.isFakeIP_type, beq_iff_eq]

/-- The constructors of the registry, by type: each takes the tag. -/
abbrev DNSTransportRegistry (α : Type) := String → Option (String → Except String (DNSServer α))

def CreateDNSTransport (registry : DNSTransportRegistry α) (tag transportType : String) :
    Except Failure (DNSServer α) :=
  match registry transportType with
  | none => .error (.new ("transport type not found: " ++ transportType))
  | some constructor => (constructor tag).mapError .new

structure TransportManager (α : Type) where
  defaultTag : String
  started : Bool
  stage : StartStage
  transports : List (DNSServer α)
  transportByTag : List (String × DNSServer α)
  dependByTag : List (String × List String)
  defaultTransport : Option (DNSServer α)
  fakeIPTransport : Option (DNSServer α)

namespace TransportManager

def NewTransportManager (defaultTag : String) : TransportManager α :=
  ⟨defaultTag, false, .StartStateInitialize, [], [], [], none, none⟩

variable (m : TransportManager α)

def Transport (tag : String) : Option (DNSServer α) := m.transportByTag.lookup tag

def Default : Option (DNSServer α) := m.defaultTransport

def FakeIP : Option (DNSServer α) := m.fakeIPTransport

/-- The transports by tag, as the router looks them up. -/
def transportOf (tag : String) : Option (DNSTransport α) := (m.Transport tag).map (·.transport)

/-- `adapter.LegacyStart` at each start stage, for a server created after the start. -/
def legacyStartAll (server : DNSServer α) : List StartStage → Except Failure Unit
  | [] => .ok ()
  | stage :: stages =>
    match server.Start stage with
    | .error err =>
      .error (.cause err (stage.String ++ " dns/" ++ server.type ++ "[" ++ server.Tag ++ "]"))
    | .ok () => legacyStartAll server stages

/-- The block of `Create` on the server already under the tag: closed if the manager has
started, it leaves the list. -/
def removeExisting (tag : String) : Except Failure (List (DNSServer α)) :=
  match m.transportByTag.lookup tag with
  | none => .ok m.transports
  | some existsTransport =>
    match (if m.started then existsTransport.Close else .ok ()) with
    | .error err =>
      .error (.cause err ("close dns/" ++ existsTransport.type ++ "[" ++ existsTransport.Tag ++ "]"))
    | .ok () =>
      match m.transports.findIdx? (·.id == existsTransport.id) with
      | none => .error (.panic "invalid inbound index")
      | some existsIndex => .ok (m.transports.eraseIdx existsIndex)

/-- The end of `Create`: a FakeIP server becomes the manager's one, unless it has one. -/
def setFakeIP (transport : DNSServer α) : Except Failure Unit × TransportManager α :=
  if transport.type = DNSTypeFakeIP then
    if m.fakeIPTransport.isSome then (.error (.new "multiple fakeip server are not supported"), m)
    else (.ok (), { m with fakeIPTransport := some transport })
  else (.ok (), m)

/-- `Create`. The manager it returns is the one it leaves, also with an error: the checks on the
default and on the FakeIP server come after the new server is in the map and the list. -/
def Create (registry : DNSTransportRegistry α) (tag transportType : String) :
    Except Failure Unit × TransportManager α :=
  if tag = "" then (.error (.new "invalid argument"), m)
  else
    match CreateDNSTransport registry tag transportType with
    | .error err => (.error err, m)
    | .ok transport =>
      match (if m.started then legacyStartAll transport ListStartStages else .ok ()) with
      | .error err => (.error err, m)
      | .ok () =>
        match m.removeExisting tag with
        | .error err => (.error err, m)
        | .ok transports =>
          let m := { m with
            transports := transports ++ [transport]
            transportByTag := mapSet m.transportByTag tag transport
            dependByTag := OutboundManager.Manager.appendDependBy tag m.dependByTag
              transport.Dependencies }
          if tag = m.defaultTag ∨ (m.defaultTag = "" ∧ m.defaultTransport.isNone) then
            if transport.type = DNSTypeFakeIP then
              (.error (.new "default server cannot be fakeip"), m)
            else setFakeIP { m with defaultTransport := some transport } transport
          else setFakeIP m transport

/-- The block of `Remove` on the default server: it moves to the first server left, and the
check on it is the wrong way round, so the move happens only to a FakeIP server. -/
def moveDefault (transport : DNSServer α) : Except Failure Unit × TransportManager α :=
  if m.defaultTransport.map (·.id) = some transport.id then
    match m.transports with
    | nextTransport :: _ =>
      if nextTransport.type ≠ DNSTypeFakeIP then (.error (.new "default server cannot be fakeip"), m)
      else (.ok (), { m with defaultTransport := some nextTransport })
    | [] => (.ok (), { m with defaultTransport := none })
  else (.ok (), m)

/-- `Remove`. The manager it returns is the one it leaves, also with an error: the server is out
of the map and the list before the checks. The error of its `Close` is dropped. -/
def Remove (tag : String) : Except Failure Unit × TransportManager α :=
  match m.transportByTag.lookup tag with
  | none => (.error (.new "invalid argument"), m)
  | some transport =>
    let m := { m with transportByTag := mapDelete m.transportByTag tag }
    match m.transports.findIdx? (·.id == transport.id) with
    | none => (.error (.panic "invalid inbound index"), m)
    | some index =>
      match moveDefault { m with transports := m.transports.eraseIdx index } transport with
      | (.error err, m) => (.error err, m)
      | (.ok (), m) =>
        let dependBy := (m.dependByTag.lookup tag).getD []
        if dependBy.length > 0 then
          (.error (.new ("server[" ++ tag ++ "] is depended by " ++ ", ".intercalate dependBy)), m)
        else
          let dependByTag :=
            OutboundManager.Manager.removeDependBy tag m.dependByTag transport.Dependencies
          (.ok (), { m with dependByTag })

/-- The loop of `Start` at a stage other than the start stage. -/
def legacyStartEach (stage : StartStage) : List (DNSServer α) → Except Failure Unit
  | [] => .ok ()
  | server :: servers =>
    match server.Start stage with
    | .error err =>
      .error (.cause err (stage.String ++ " dns/" ++ server.type ++ "[" ++ server.Tag ++ "]"))
    | .ok () => legacyStartEach stage servers

/-- The block of `Start` that adds the fallback server when there is no default. -/
def addFallback (defaultTransportFallback : Except String (DNSServer α)) :
    Except Failure (TransportManager α) :=
  if m.defaultTransport.isNone then
    match defaultTransportFallback with
    | .error err => .error (.cause err "default DNS server fallback")
    | .ok defaultTransport =>
      .ok { m with
        transports := m.transports ++ [defaultTransport]
        transportByTag := mapSet m.transportByTag defaultTransport.Tag defaultTransport
        defaultTransport := some defaultTransport }
  else .ok m

/-- `Start`, with `defaultTransportFallback` and `startTransports`. -/
def Start (defaultTransportFallback : Except String (DNSServer α))
    (startTransports : List (DNSServer α) → Except Failure Unit) (stage : StartStage) :
    Except Failure Unit × TransportManager α :=
  if m.started ∧ m.stage.toNat ≥ stage.toNat then (.error (.panic "already started"), m)
  else
    let m := { m with started := true, stage := stage }
    if stage = .StartStateStart then
      if m.defaultTag ≠ "" ∧ m.defaultTransport.isNone then
        (.error (.new ("default DNS server not found: " ++ m.defaultTag)), m)
      else
        match m.addFallback defaultTransportFallback with
        | .error err => (.error err, m)
        | .ok m => (startTransports m.transports, m)
    else (legacyStartEach stage m.transports, m)

/-! ### The invariant -/

/-- The map and the list hold the same servers, each under its own tag, never the empty one,
with distinct pointers. -/
structure Registered (m : TransportManager α) : Prop where
  transport_empty : m.Transport "" = none
  Tag_eq : ∀ tag server, m.Transport tag = some server → server.Tag = tag
  mem_transports : ∀ tag server, m.Transport tag = some server → server ∈ m.transports
  transport_Tag : ∀ server ∈ m.transports, m.Transport server.Tag = some server
  ids : (m.transports.map (·.id)).Nodup

/-- Besides, the default is one of the servers and not a FakeIP one, and there is none only
while no server was created; a FakeIP server among them is the manager's FakeIP server. -/
structure Inv (m : TransportManager α) : Prop extends m.Registered where
  defaultTransport : ∀ server, m.defaultTransport = some server →
    m.Transport server.Tag = some server ∧ server.transport.isFakeIP = false
  defaultTransport_none : m.defaultTransport = none → m.defaultTag = "" → m.transports = []
  fakeIPTransport : ∀ server ∈ m.transports, server.transport.isFakeIP = true →
    m.fakeIPTransport = some server

theorem inv_NewTransportManager (defaultTag : String) : (NewTransportManager defaultTag : TransportManager α).Inv where
  transport_empty := rfl
  Tag_eq _ _ h := by cases h
  mem_transports _ _ h := by cases h
  transport_Tag _ h := by cases h
  ids := List.nodup_nil
  defaultTransport _ h := by cases h
  defaultTransport_none _ _ := rfl
  fakeIPTransport _ h := by cases h

namespace Registered

variable {m} (hm : m.Registered)
include hm

theorem eq_of_id {server server' : DNSServer α} (hserver : server ∈ m.transports)
    (hserver' : server' ∈ m.transports) (hid : server.id = server'.id) : server = server' :=
  List.inj_on_of_nodup_map hm.ids hserver hserver' hid

theorem eq_of_Tag {server server' : DNSServer α} (hserver : server ∈ m.transports)
    {tag : String} (hserver' : m.Transport tag = some server') (htag : server.Tag = tag) :
    server = server' := by
  have h := hm.transport_Tag server hserver
  rw [htag, hserver'] at h
  exact (Option.some.inj h).symm

/-- A server with a new tag and a new pointer joins the map and the list. -/
theorem register {tag : String} (hfresh : m.Transport tag = none) (hempty : tag ≠ "")
    {server : DNSServer α} (hTag : server.Tag = tag) (hid : server.id ∉ m.transports.map (·.id))
    (dependByTag : List (String × List String))
    (defaultTransport fakeIPTransport : Option (DNSServer α)) :
    ({ m with
        transports := m.transports ++ [server]
        transportByTag := mapSet m.transportByTag tag server
        dependByTag := dependByTag
        defaultTransport := defaultTransport
        fakeIPTransport := fakeIPTransport } : TransportManager α).Registered where
  transport_empty := by
    simp only [Transport, lookup_mapSet]
    rw [if_neg (Ne.symm hempty)]
    exact hm.transport_empty
  Tag_eq tag' server' h := by
    rcases lookup_mapSet_eq_some h with ⟨rfl, rfl⟩ | ⟨-, h⟩
    · exact hTag
    · exact hm.Tag_eq tag' server' h
  mem_transports tag' server' h := by
    rcases lookup_mapSet_eq_some h with ⟨rfl, rfl⟩ | ⟨-, h⟩
    · exact List.mem_append_right _ (List.mem_singleton_self _)
    · exact List.mem_append_left _ (hm.mem_transports tag' server' h)
  transport_Tag server' h := by
    simp only [Transport, lookup_mapSet]
    rcases List.mem_append.mp h with hold | hnew
    · have hne : server'.Tag ≠ tag := by
        rintro rfl
        rw [hm.transport_Tag server' hold] at hfresh
        cases hfresh
      rw [if_neg hne]
      exact hm.transport_Tag server' hold
    · rw [List.mem_singleton.mp hnew, if_pos hTag]
  ids := by
    rw [List.map_append, List.nodup_append]
    refine ⟨hm.ids, List.nodup_singleton _, ?_⟩
    intro a ha b hb hab
    simp only [List.map_cons, List.map_nil, List.mem_singleton] at hb
    exact hid (hb ▸ hab ▸ ha)

end Registered

variable {m}

theorem findIdx?_id {server : DNSServer α} (hin : server ∈ m.transports) :
    ∃ index, m.transports.findIdx? (·.id == server.id) = some index ∧ index < m.transports.length := by
  cases h : m.transports.findIdx? (·.id == server.id) with
  | none =>
    have := List.findIdx?_eq_none_iff.mp h server hin
    simp at this
  | some index => exact ⟨index, rfl, (List.findIdx?_eq_some_iff_findIdx_eq.mp h).1⟩


theorem removeExisting_of_fresh {tag : String} (hfresh : m.Transport tag = none) :
    m.removeExisting tag = .ok m.transports := by
  unfold removeExisting
  rw [show m.transportByTag.lookup tag = none from hfresh]

/-- What a `Create` on a new tag that returns leaves: the new server in the map and the list,
the default and the FakeIP server it may have set, and why the checks passed. -/
theorem Create_eq_ok {registry : DNSTransportRegistry α} {tag transportType : String}
    (hfresh : m.Transport tag = none) (h : (m.Create registry tag transportType).1 = .ok ()) :
    ∃ server, CreateDNSTransport registry tag transportType = .ok server ∧ tag ≠ "" ∧
      let isDefault := tag = m.defaultTag ∨ (m.defaultTag = "" ∧ m.defaultTransport.isNone)
      (m.Create registry tag transportType).2 =
        { m with
          transports := m.transports ++ [server]
          transportByTag := mapSet m.transportByTag tag server
          dependByTag := OutboundManager.Manager.appendDependBy tag m.dependByTag server.Dependencies
          defaultTransport := if isDefault then some server else m.defaultTransport
          fakeIPTransport := if server.type = DNSTypeFakeIP then some server else m.fakeIPTransport } ∧
      (isDefault → server.type ≠ DNSTypeFakeIP) ∧
      (server.type = DNSTypeFakeIP → m.fakeIPTransport = none) := by
  unfold Create at h ⊢
  by_cases hempty : tag = ""
  · simp [hempty] at h
  rcases hc : CreateDNSTransport registry tag transportType with err | server
  · simp [hempty, hc] at h
  rcases hs : (if m.started then legacyStartAll server ListStartStages else .ok ()) with err | ⟨⟩
  · simp [hempty, hc, hs] at h
  refine ⟨server, rfl, hempty, ?_⟩
  simp only [hempty, hc, hs, removeExisting_of_fresh hfresh, if_false] at h ⊢
  by_cases hdefault : tag = m.defaultTag ∨ (m.defaultTag = "" ∧ m.defaultTransport.isNone)
  · rw [if_pos hdefault] at h ⊢
    by_cases hfake : server.type = DNSTypeFakeIP
    · rw [if_pos hfake] at h
      cases h
    · rw [if_neg hfake] at h ⊢
      unfold setFakeIP
      rw [if_neg hfake, if_pos hdefault, if_neg hfake]
      exact ⟨rfl, fun _ => hfake, fun h => absurd h hfake⟩
  · rw [if_neg hdefault] at h ⊢
    unfold setFakeIP at h ⊢
    rw [if_neg hdefault]
    by_cases hfake : server.type = DNSTypeFakeIP
    · rw [if_pos hfake] at h ⊢
      rw [if_pos hfake]
      cases hfakeIP : m.fakeIPTransport
      · refine ⟨?_, fun h => absurd h hdefault, fun _ => rfl⟩
        simp only [Option.isSome_none, Bool.false_eq_true, if_false]
      · simp only [hfakeIP, Option.isSome_some, if_true] at h
        cases h
    · rw [if_neg hfake, if_neg hfake]
      exact ⟨rfl, fun h => absurd h hdefault, fun h => absurd h hfake⟩

/-- A `Create` on a new tag that returns keeps the invariant, when the registry constructs the
server under that tag with a new pointer. -/
theorem Inv.create (hm : m.Inv) {registry : DNSTransportRegistry α} {tag transportType : String}
    (hfresh : m.Transport tag = none)
    (hcreated : ∀ server, CreateDNSTransport registry tag transportType = .ok server →
      server.Tag = tag ∧ server.id ∉ m.transports.map (·.id))
    (h : (m.Create registry tag transportType).1 = .ok ()) :
    (m.Create registry tag transportType).2.Inv := by
  obtain ⟨server, hc, hempty, heq, hdefault, hfake⟩ := Create_eq_ok hfresh h
  obtain ⟨hTag, hid⟩ := hcreated server hc
  have hreg := hm.toRegistered.register hfresh hempty hTag hid
  rw [heq]
  refine ⟨hreg _ _ _, ?_, ?_, ?_⟩
  · intro d hd
    dsimp only at hd ⊢
    split_ifs at hd with hdef
    · cases hd
      refine ⟨(hreg _ _ _).transport_Tag server (List.mem_append_right _ (List.mem_singleton_self _)), ?_⟩
      cases hf : server.transport.isFakeIP
      · rfl
      · exact absurd (server.isFakeIP_iff.mp hf) (hdefault hdef)
    · obtain ⟨hd', hdf⟩ := hm.defaultTransport d hd
      exact ⟨(hreg _ _ _).transport_Tag d (List.mem_append_left _ (hm.mem_transports _ _ hd')), hdf⟩
  · intro hd hdt
    dsimp only at hd hdt
    split_ifs at hd with hdef
    exact absurd (Or.inr ⟨hdt, by rw [hd]; rfl⟩) hdef
  · intro s hs hsf
    dsimp only at hs ⊢
    rcases List.mem_append.mp hs with hold | hnew
    · have hf := hm.fakeIPTransport s hold hsf
      have hserver : server.type ≠ DNSTypeFakeIP := fun h => by
        rw [hfake h] at hf
        cases hf
      rw [if_neg hserver]
      exact hf
    · rw [List.mem_singleton.mp hnew] at hsf ⊢
      rw [if_pos (server.isFakeIP_iff.mp hsf)]

/-- The manager without a server other than the default, in the map and the list, whatever
became of `dependByTag`. -/
theorem Inv.erase (hm : m.Inv) {tag : String} {server : DNSServer α}
    (hserver : m.Transport tag = some server) {index : Nat}
    (hindex : m.transports.findIdx? (·.id == server.id) = some index)
    (hdefault : ∀ d, m.defaultTransport = some d → d.Tag ≠ tag)
    (dependByTag : List (String × List String)) :
    ({ m with
        transportByTag := mapDelete m.transportByTag tag
        transports := m.transports.eraseIdx index
        dependByTag := dependByTag } : TransportManager α).Inv := by
  have hmem := List.mem_eraseIdx_findIdx?_key (fun s : DNSServer α => s.id) hm.ids hindex
  have hTag := hm.Tag_eq tag server hserver
  have hin := hm.mem_transports tag server hserver
  have hne : ∀ s ∈ m.transports, s.Tag ≠ tag → s.id ≠ server.id := fun s hs htag hid =>
    htag ((hm.eq_of_id hs hin hid).symm ▸ hTag)
  refine ⟨⟨?_, ?_, ?_, ?_, ?_⟩, ?_, ?_, ?_⟩
  · simp only [Transport, lookup_mapDelete]
    split_ifs
    · rfl
    · exact hm.transport_empty
  · intro k s hs
    simp only [Transport, lookup_mapDelete] at hs
    split_ifs at hs
    exact hm.Tag_eq k s hs
  · intro k s hs
    simp only [Transport, lookup_mapDelete] at hs
    split_ifs at hs with hk
    have hs' := hm.Tag_eq k s hs
    exact (hmem s).mpr ⟨hm.mem_transports k s hs, hne s (hm.mem_transports k s hs) (hs' ▸ hk)⟩
  · intro s hs
    obtain ⟨hs, hid⟩ := (hmem s).mp hs
    have hstag : s.Tag ≠ tag := fun h => hid (congrArg DNSServer.id (hm.eq_of_Tag hs hserver h))
    simp only [Transport, lookup_mapDelete, if_neg hstag]
    exact hm.transport_Tag s hs
  · exact ((List.eraseIdx_sublist _ _).map _).nodup hm.ids
  · intro d hd
    obtain ⟨hd', hdf⟩ := hm.defaultTransport d hd
    simp only [Transport, lookup_mapDelete, if_neg (hdefault d hd)]
    exact ⟨hd', hdf⟩
  · intro hd hdt
    dsimp only
    rw [hm.defaultTransport_none hd hdt]
    rfl
  · intro s hs hsf
    exact hm.fakeIPTransport s ((hmem s).mp hs).1 hsf

/-- What `Remove` of a server other than the default leaves: the server out of the map and the
list, and the rest as it was but for `dependByTag`. -/
theorem Remove_eq_of_ne_default (hm : m.Inv) {tag : String} {server : DNSServer α}
    (hserver : m.Transport tag = some server)
    (hdefault : ∀ d, m.defaultTransport = some d → d.Tag ≠ tag) :
    ∃ index dependByTag, m.transports.findIdx? (·.id == server.id) = some index ∧
      (m.Remove tag).2 = { m with
        transportByTag := mapDelete m.transportByTag tag
        transports := m.transports.eraseIdx index
        dependByTag := dependByTag } := by
  have hin := hm.mem_transports tag server hserver
  obtain ⟨index, hindex, -⟩ := findIdx?_id hin
  have hne : m.defaultTransport.map (·.id) ≠ some server.id := by
    cases hd : m.defaultTransport with
    | none => simp
    | some d =>
      obtain ⟨hd', -⟩ := hm.defaultTransport d hd
      intro hid
      apply hdefault d hd
      rw [hm.eq_of_id (hm.mem_transports _ _ hd') hin (Option.some.inj hid)]
      exact hm.Tag_eq tag server hserver
  unfold Remove
  rw [show m.transportByTag.lookup tag = some server from hserver]
  dsimp only
  rw [hindex]
  dsimp only
  unfold moveDefault
  rw [if_neg hne]
  dsimp only
  split
  · exact ⟨index, _, rfl, rfl⟩
  · exact ⟨index, _, rfl, rfl⟩

theorem Inv.remove (hm : m.Inv) {tag : String}
    (hdefault : ∀ d, m.defaultTransport = some d → d.Tag ≠ tag) : (m.Remove tag).2.Inv := by
  cases hserver : m.Transport tag with
  | none =>
    have hnone : m.Remove tag = (.error (.new "invalid argument"), m) := by
      unfold Remove
      rw [show m.transportByTag.lookup tag = none from hserver]
    rw [hnone]
    exact hm
  | some server =>
    obtain ⟨index, dependByTag, hindex, heq⟩ := Remove_eq_of_ne_default hm hserver hdefault
    rw [heq]
    exact hm.erase hserver hindex hdefault dependByTag

theorem Inv.setStarted (hm : m.Inv) (started : Bool) (stage : StartStage) :
    ({ m with started := started, stage := stage } : TransportManager α).Inv :=
  ⟨⟨hm.transport_empty, hm.Tag_eq, hm.mem_transports, hm.transport_Tag, hm.ids⟩, hm.defaultTransport,
    hm.defaultTransport_none, hm.fakeIPTransport⟩

/-- `Start` keeps the invariant, with a fallback server under a tag of its own that is not a
FakeIP one. -/
theorem Inv.start (hm : m.Inv) {defaultTransportFallback : Except String (DNSServer α)}
    (hfallback : ∀ server, defaultTransportFallback = .ok server →
      server.Tag ≠ "" ∧ server.transport.isFakeIP = false)
    (startTransports : List (DNSServer α) → Except Failure Unit) (stage : StartStage) :
    (m.Start defaultTransportFallback startTransports stage).2.Inv := by
  unfold Start
  dsimp only
  have hm' := hm.setStarted true stage
  split_ifs with hpanic hstart hmissing
  · exact hm
  · exact hm'
  · unfold addFallback
    dsimp only
    split_ifs with hnone
    · rcases hfb : defaultTransportFallback with err | fallback
      · exact hm'
      · dsimp only
        obtain ⟨hfbTag, hfbFake⟩ := hfallback fallback hfb
        have hdt : m.defaultTag = "" := by
          by_contra hne
          exact hmissing ⟨hne, hnone⟩
        have hempty : m.transports = [] := hm.defaultTransport_none (by simpa using hnone) hdt
        have hfresh : m.Transport fallback.Tag = none := by
          cases h : m.Transport fallback.Tag with
          | none => rfl
          | some s =>
            have := hm.mem_transports _ _ h
            rw [hempty] at this
            cases this
        have hreg := hm'.toRegistered.register hfresh hfbTag rfl (by simp [hempty])
        refine ⟨hreg m.dependByTag (some fallback) m.fakeIPTransport, ?_, ?_, ?_⟩
        · intro d hd
          cases hd
          exact ⟨(hreg m.dependByTag (some fallback) m.fakeIPTransport).transport_Tag fallback
            (by simp), hfbFake⟩
        · intro hd
          cases hd
        · intro s hs hsf
          simp only [hempty, List.nil_append, List.mem_singleton] at hs
          rw [hs, hfbFake] at hsf
          cases hsf
    · exact hm'
  · exact hm'

section Reachable

variable (registry : DNSTransportRegistry α) (defaultTransportFallback : Except String (DNSServer α))
  (startTransports : List (DNSServer α) → Except Failure Unit)

/-- The managers that calls reach from a new one: `Create` on new tags that returns, the registry
constructing the server under the tag with a new pointer; `Start` at any stage; `Remove` of any
server but the default. -/
inductive Reachable : TransportManager α → Prop
  | new (defaultTag : String) : Reachable (NewTransportManager defaultTag)
  | create {m : TransportManager α} (tag transportType : String) : Reachable m →
    m.Transport tag = none →
    (∀ server, CreateDNSTransport registry tag transportType = .ok server →
      server.Tag = tag ∧ server.id ∉ m.transports.map (·.id)) →
    (m.Create registry tag transportType).1 = .ok () →
    Reachable (m.Create registry tag transportType).2
  | start {m : TransportManager α} (stage : StartStage) : Reachable m →
    Reachable (m.Start defaultTransportFallback startTransports stage).2
  | remove {m : TransportManager α} (tag : String) : Reachable m →
    (∀ d, m.defaultTransport = some d → d.Tag ≠ tag) → Reachable (m.Remove tag).2

variable {registry defaultTransportFallback startTransports}

theorem Reachable.inv
    (hfallback : ∀ server, defaultTransportFallback = .ok server →
      server.Tag ≠ "" ∧ server.transport.isFakeIP = false)
    (hm : Reachable registry defaultTransportFallback startTransports m) : m.Inv := by
  induction hm with
  | new defaultTag => exact inv_NewTransportManager defaultTag
  | create tag transportType _ hfresh hcreated hok ih => exact ih.create hfresh hcreated hok
  | start stage _ ih => exact ih.start hfallback startTransports stage
  | remove tag _ hdefault ih => exact ih.remove hdefault

end Reachable

/-- A router over the manager, with its default server, is started once its rules pass
`validateEvaluateFakeIPRules`. -/
theorem Inv.started (hm : m.Inv) {d : DNSServer α} (hd : m.Default = some d) {r : DNSRouter σ α}
    (htransport : r.transport = m.transportOf) (hdefault : r.defaultTransport = d.transport)
    (hrules : validateEvaluateFakeIPRules r.transport r.rules = .ok ()) : r.Started where
  transport_tag server transport h := by
    rw [htransport, transportOf, Option.map_eq_some_iff] at h
    obtain ⟨s, hs, rfl⟩ := h
    exact hm.Tag_eq server s hs
  defaultTransport := by
    obtain ⟨hd', -⟩ := hm.defaultTransport d hd
    rw [htransport, hdefault, transportOf]
    exact congrArg (Option.map (·.transport)) hd'
  defaultTransport_isFakeIP := hdefault ▸ (hm.defaultTransport d hd).2
  isFakeIPTag_empty := by
    rw [DNSRouter.isFakeIPTag, htransport, transportOf, hm.transport_empty]
    rfl
  evaluate := hrules

/-- **No FakeIP answer is ever cached, from the start of the box.** Over a transport manager
that `Create`, `Start` and `Remove` of other servers than the default have built and that has a
default, a router whose rules pass `validateEvaluateFakeIPRules` stores no answer and no
rejection under the tag of a FakeIP server in any run of calls, in either mode, as long as no
call names a FakeIP server with the cache on. -/
theorem Reachable.run_noFakeIPEntries
    (hfallback : ∀ server, defaultTransportFallback = .ok server →
      server.Tag ≠ "" ∧ server.transport.isFakeIP = false)
    (hm : Reachable registry defaultTransportFallback startTransports m) {d : DNSServer α}
    (hd : m.Default = some d) (r : DNSRouter σ α) (htransport : r.transport = m.transportOf)
    (hdefault : r.defaultTransport = d.transport)
    (hrules : validateEvaluateFakeIPRules r.transport r.rules = .ok ()) (is4 : α → Bool)
    (calls : List (DNSCall σ α))
    (hcalls : ∀ call ∈ calls, ∀ transport, call.options.transport = some transport →
      r.isFakeIPTag transport.tag = false ∨ call.options.disableCache = true)
    (c : Client α) (hc : r.NoFakeIPEntries c) :
    r.NoFakeIPEntries (LockStep.run (r.step is4) c calls).2 :=
  r.noFakeIPEntries_run ((hm.inv hfallback).started hd htransport hdefault hrules) is4 calls hcalls c hc

/-! ### A box with a local server and a FakeIP server -/

def localServer (id : Nat) (tag : String) : DNSServer Nat :=
  ⟨id, "local", { localTransport with tag }, [], fun _ => .ok (), .ok (),
    by simp [localTransport, DNSTypeFakeIP]⟩

def fakeIPServer (id : Nat) (tag : String) : DNSServer Nat :=
  ⟨id, DNSTypeFakeIP, { SingBox.fakeIPTransport with tag }, [], fun _ => .ok (), .ok (), rfl⟩

/-- A registry with a local type, whose constructor makes pointer 0, and a FakeIP type, whose
constructor makes pointer 1. -/
def boxRegistry : DNSTransportRegistry Nat := fun transportType =>
  if transportType = "local" then some fun tag => .ok (localServer 0 tag)
  else if transportType = DNSTypeFakeIP then some fun tag => .ok (fakeIPServer 1 tag)
  else none

/-- What `box.go` builds from a local server and a FakeIP server, started. -/
def boxManager : TransportManager Nat :=
  ((((NewTransportManager "").Create boxRegistry "local" "local").2.Create boxRegistry "fakeip"
    DNSTypeFakeIP).2.Start (.ok (localServer 2 "local")) (fun _ => .ok ()) .StartStateStart).2

theorem reachable_boxManager :
    Reachable boxRegistry (.ok (localServer 2 "local")) (fun _ => .ok ()) boxManager :=
  .start _ (.create "fakeip" DNSTypeFakeIP
    (.create "local" "local" (.new "") rfl (fun _ h => by cases h; exact ⟨rfl, by decide⟩) rfl)
    rfl (fun _ h => by cases h; exact ⟨rfl, by decide⟩) rfl)

theorem boxFallback : ∀ server, (.ok (localServer 2 "local") : Except String (DNSServer Nat)) = .ok server →
    server.Tag ≠ "" ∧ server.transport.isFakeIP = false := by
  intro _ h
  cases h
  exact ⟨by decide, rfl⟩

/-- The router of the box: `fakeIPRouter`'s rules over the box's servers. -/
def boxRouter : DNSRouter Unit Nat := { fakeIPRouter with transport := boxManager.transportOf }

theorem boxRouter_run_noFakeIPEntries :
    boxRouter.NoFakeIPEntries
      (LockStep.run (boxRouter.step fun _ => true) cachingClient (fakeIPCalls false)).2 :=
  Reachable.run_noFakeIPEntries boxFallback reachable_boxManager
    (rfl : boxManager.Default = some (localServer 0 "local")) boxRouter rfl rfl rfl _ _
    (by simp [fakeIPCalls, DNSCall.options]) cachingClient ⟨fun _ _ => rfl, fun _ _ => rfl⟩

end TransportManager

end SingBox
