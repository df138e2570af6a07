import Mathlib

/-!
# Starting outbounds

`adapter/outbound/manager.go`: the outbound manager that `box.go` fills with `Create`, its
`Start`, and the `Remove` that takes an outbound out again. `Create` records each
dependency of the new outbound in `dependByTag`, and `Remove` refuses an outbound that
another one is recorded as depending on. At the start stage it appends the fallback `direct` outbound when there is no
default, and starts the outbounds and the endpoints in dependency order: it passes over
the list again and again, starting every element whose dependency tags are all started,
until the `started` map has as many tags as the list has elements; on a pass that starts
nothing it walks the first unstarted element's dependencies to report a missing or
circular one.

Outbounds and endpoints are values with their tag, type, dependency tags, and the results
of their start and close methods. A Go `map[string]V` is the list of its entries, latest
first.
-/

namespace SingBox

namespace OutboundManager

inductive StartStage where
  | StartStateInitialize
  | StartStateStart
  | StartStatePostStart
  | StartStateStarted
deriving DecidableEq, Repr

/-- The `iota` values. -/
def StartStage.toNat : StartStage → Nat
  | .StartStateInitialize => 0
  | .StartStateStart => 1
  | .StartStatePostStart => 2
  | .StartStateStarted => 3

def StartStage.String : StartStage → String
  | .StartStateInitialize => "initialize"
  | .StartStateStart => "start"
  | .StartStatePostStart => "post-start"
  | .StartStateStarted => "finish-start"

def ListStartStages : List StartStage :=
  [.StartStateInitialize, .StartStateStart, .StartStatePostStart, .StartStateStarted]

/-- An outbound or an endpoint. `Start` is `adapter.LegacyStart` at a stage: the
`Lifecycle` start, the legacy method of that stage, or nothing; `Close` is
`common.Close`. The field `type` is `Type()`, a Lean keyword. -/
structure Outbound where
  type : String
  Tag : String
  Dependencies : List String
  Start : StartStage → Except String Unit
  Close : Except String Unit

def Outbound.name (outbound : Outbound) : String :=
  "outbound/" ++ outbound.type ++ "[" ++ outbound.Tag ++ "]"

/-- `m[k] = v` on a Go map. -/
def mapSet {V : Type} (m : List (String × V)) (k : String) (v : V) : List (String × V) :=
  (k, v) :: m.filter (·.1 != k)

theorem lookup_mapSet {V : Type} (m : List (String × V)) (k k' : String) (v : V) :
    (mapSet m k v).lookup k' = if k' = k then some v else m.lookup k' := by
  by_cases hk : k' = k
  · subst hk
    simp [mapSet]
  · have hfilter : ∀ m : List (String × V), (m.filter (·.1 != k)).lookup k' = m.lookup k' := by
      intro m
      induction m with
      | nil => rfl
      | cons e m ih =>
        obtain ⟨k'', v'⟩ := e
        by_cases hk'' : k'' = k
        · subst hk''
          simp [List.lookup_cons, beq_false_of_ne hk, ih]
        · simp [hk'', List.lookup_cons, ih]
    simp [mapSet, List.lookup_cons, beq_false_of_ne hk, hk, hfilter]

theorem lookup_mapSet_eq_some {V : Type} {m : List (String × V)} {k k' : String} {v v' : V}
    (h : (mapSet m k v).lookup k' = some v') :
    (k' = k ∧ v' = v) ∨ (k' ≠ k ∧ m.lookup k' = some v') := by
  rw [lookup_mapSet] at h
  by_cases hk : k' = k
  · rw [if_pos hk] at h
    exact .inl ⟨hk, (Option.some.inj h).symm⟩
  · rw [if_neg hk] at h
    exact .inr ⟨hk, h⟩

/-- `delete(m, k)` on a Go map. -/
def mapDelete {V : Type} (m : List (String × V)) (k : String) : List (String × V) :=
  m.filter (·.1 != k)

theorem lookup_mapDelete {V : Type} (m : List (String × V)) (k k' : String) :
    (mapDelete m k).lookup k' = if k' = k then none else m.lookup k' := by
  induction m with
  | nil => simp [mapDelete]
  | cons e m ih =>
    obtain ⟨k'', v⟩ := e
    simp only [mapDelete] at ih ⊢
    by_cases hk'' : k'' = k
    · subst hk''
      by_cases hk : k' = k''
      · subst hk
        simp [ih]
      · simp [List.lookup_cons, beq_false_of_ne hk, ih, hk]
    · by_cases hk : k' = k''
      · subst hk
        simp [hk'']
      · simp [hk'', List.lookup_cons, beq_false_of_ne hk, ih]

/-- How a call ends other than with `nil`: an error, or a Go panic. -/
inductive Failure where
  /-- `E.Cause(err, context)`. -/
  | cause (err : String) (context : String)
  /-- `E.New(message)`, `os.ErrInvalid` as its text. -/
  | new (message : String)
  /-- `circular outbound dependency: oTree[0] -> ... -> problemOutboundTag`. -/
  | circular (oTree : List String) (problemOutboundTag : String)
  /-- `dependency[problemOutboundTag] not found for outbound[tag]`. -/
  | notFound (problemOutboundTag tag : String)
  | panic (value : String)
  /-- The loops ran out of fuel: never, by `startOutbounds_accurate`. -/
  | outOfFuel
deriving DecidableEq, Repr

/-- The text of an error. -/
def Failure.Error : Failure → String
  | cause err context => context ++ ": " ++ err
  | new message => message
  | circular oTree problemOutboundTag =>
    "circular outbound dependency: " ++ " -> ".intercalate oTree ++ " -> " ++ problemOutboundTag
  | notFound problemOutboundTag tag =>
    "dependency[" ++ problemOutboundTag ++ "] not found for outbound[" ++ tag ++ "]"
  | panic value => "panic: " ++ value
  | outOfFuel => "out of fuel"

/-- The panic of a method call on the nil `currentOutbound`. -/
def nilPointerDereference : String :=
  "runtime error: invalid memory address or nil pointer dereference"

/-! ### The start loop -/

/-- The `startOne` pass. `started` holds the tags of the `started` map in the order they
were set; the result holds them after the pass, with the elements the pass started. -/
def startOne : List Outbound → List String → Except Failure (List String × List Outbound)
  | [], started => .ok (started, [])
  | outboundToStart :: outbounds, started =>
    if outboundToStart.Tag ∈ started then startOne outbounds started
    else if outboundToStart.Dependencies.all (· ∈ started) then
      match outboundToStart.Start .StartStateStart with
      | .error err => .error (.cause err ("start " ++ outboundToStart.name))
      | .ok () =>
        (startOne outbounds (started ++ [outboundToStart.Tag])).map fun (started, log) =>
          (started, outboundToStart :: log)
    else startOne outbounds started

/-- `lintOutbound`, on explicit fuel. -/
def lintOutbound (started : List String) (outboundByTag : List (String × Outbound)) :
    Nat → List String → Outbound → Failure
  | 0, _, _ => .outOfFuel
  | fuel + 1, oTree, oCurrent =>
    let problemOutboundTag := (oCurrent.Dependencies.find? (· ∉ started)).getD ""
    if problemOutboundTag ∈ oTree then .circular oTree problemOutboundTag
    else
      match outboundByTag.lookup problemOutboundTag with
      | none => .notFound problemOutboundTag oCurrent.Tag
      | some problemOutbound =>
        lintOutbound started outboundByTag fuel (oTree ++ [problemOutboundTag]) problemOutbound

/-- The outer `for` of `startOutbounds`, on explicit fuel, with the elements started so
far. -/
def startLoop (outbounds : List Outbound) (outboundByTag : List (String × Outbound)) :
    Nat → List String → List Outbound → Except Failure (List Outbound)
  | 0, _, _ => .error .outOfFuel
  | fuel + 1, started, log =>
    match startOne outbounds started with
    | .error err => .error err
    | .ok (started, newly) =>
      if started.length = outbounds.length then .ok (log ++ newly)
      else if newly ≠ [] then startLoop outbounds outboundByTag fuel started (log ++ newly)
      else
        match outbounds.find? (fun it => it.Tag ∉ started) with
        | none => .error (.panic nilPointerDereference)
        | some currentOutbound =>
          .error (lintOutbound started outboundByTag (outboundByTag.length + 1)
            [currentOutbound.Tag] currentOutbound)

/-- `startOutbounds`: `nil` is the list of the elements started, in order. -/
def startOutbounds (outbounds : List Outbound) (outboundByTag : List (String × Outbound)) :
    Except Failure (List Outbound) :=
  startLoop outbounds outboundByTag (outbounds.length + 1) [] []

/-! ### The managers -/

/-- The endpoint manager, as the outbound manager reads it. -/
structure EndpointManager where
  endpoints : List Outbound
  endpointByTag : List (String × Outbound)

namespace EndpointManager

def Get (m : EndpointManager) (tag : String) : Option Outbound := m.endpointByTag.lookup tag

/-- `Create` before the endpoint manager has started: a new tag is appended, an old one
replaced. -/
def Create (endpoint : Outbound) (m : EndpointManager) : EndpointManager where
  endpoints := m.endpoints.filter (·.Tag != endpoint.Tag) ++ [endpoint]
  endpointByTag := mapSet m.endpointByTag endpoint.Tag endpoint

end EndpointManager

structure Manager where
  defaultTag : String
  started : Bool
  stage : StartStage
  outbounds : List Outbound
  outboundByTag : List (String × Outbound)
  /-- For each tag, the tags of the outbounds that `Create` recorded as depending on it. -/
  dependByTag : List (String × List String)
  defaultOutbound : Option Outbound

namespace Manager

def NewManager (defaultTag : String) : Manager :=
  ⟨defaultTag, false, .StartStateInitialize, [], [], [], none⟩

/-- Each start stage of an outbound that `Create` adds to a started manager. -/
def legacyStartAll (outbound : Outbound) : List StartStage → Except Failure Unit
  | [] => .ok ()
  | stage :: stages =>
    match outbound.Start stage with
    | .error err => .error (.cause err (stage.String ++ " " ++ outbound.name))
    | .ok () => legacyStartAll outbound stages

/-- The loop of `Create` over the new outbound's dependencies: the tag is appended to
each dependency's list. -/
def appendDependBy (tag : String) (dependByTag : List (String × List String)) :
    List String → List (String × List String)
  | [] => dependByTag
  | dependency :: dependencies =>
    appendDependBy tag
      (mapSet dependByTag dependency ((dependByTag.lookup dependency).getD [] ++ [tag]))
      dependencies

/-- `Create`. An outbound already under the tag is closed if the manager has started, and
leaves the list: it is the one element of `outbounds` with that tag (`Consistent`). Its
entries in `dependByTag` stay. -/
def Create (outbound : Outbound) (m : Manager) : Except Failure Manager := do
  if outbound.Tag = "" then throw (.new "invalid argument")
  if m.started then legacyStartAll outbound ListStartStages
  if let some existsOutbound := m.outboundByTag.lookup outbound.Tag then
    if m.started then
      if let .error err := existsOutbound.Close then
        throw (.cause err ("close outbound/" ++ existsOutbound.type ++ "[" ++
          existsOutbound.Tag ++ "]"))
  pure
    { m with
      outbounds := m.outbounds.filter (·.Tag != outbound.Tag) ++ [outbound]
      outboundByTag := mapSet m.outboundByTag outbound.Tag outbound
      dependByTag := appendDependBy outbound.Tag m.dependByTag outbound.Dependencies
      defaultOutbound :=
        if outbound.Tag = m.defaultTag ∨ (m.defaultTag = "" ∧ m.defaultOutbound = none) then
          some outbound
        else m.defaultOutbound }

/-- A `Create` that returns adds the outbound under its tag, in place of the one it had. -/
theorem Create_eq_ok {o : Outbound} {m m' : Manager} (h : Create o m = .ok m') :
    o.Tag ≠ "" ∧ m' = { m with
      outbounds := m.outbounds.filter (·.Tag != o.Tag) ++ [o]
      outboundByTag := mapSet m.outboundByTag o.Tag o
      dependByTag := appendDependBy o.Tag m.dependByTag o.Dependencies
      defaultOutbound :=
        if o.Tag = m.defaultTag ∨ (m.defaultTag = "" ∧ m.defaultOutbound = none) then some o
        else m.defaultOutbound } := by
  unfold Create at h
  by_cases hempty : o.Tag = ""
  · simp [hempty, throw, throwThe, MonadExceptOf.throw, bind, Except.bind] at h
  refine ⟨hempty, ?_⟩
  simp only [hempty, if_false, bind, Except.bind, pure, Except.pure] at h
  generalize ({ m with
      outbounds := m.outbounds.filter (·.Tag != o.Tag) ++ [o]
      outboundByTag := mapSet m.outboundByTag o.Tag o
      dependByTag := appendDependBy o.Tag m.dependByTag o.Dependencies
      defaultOutbound :=
        if o.Tag = m.defaultTag ∨ (m.defaultTag = "" ∧ m.defaultOutbound = none) then some o
        else m.defaultOutbound } : Manager) = r at h ⊢
  repeat' split at h
  all_goals first | exact (Except.ok.inj h).symm | cases h

/-- The loop of `Remove` over the removed outbound's dependencies: a list of one tag is
deleted, any other list loses every copy of the tag. -/
def removeDependBy (tag : String) (dependByTag : List (String × List String)) :
    List String → List (String × List String)
  | [] => dependByTag
  | dependency :: dependencies =>
    let dependBy := (dependByTag.lookup dependency).getD []
    removeDependBy tag
      (if dependBy.length = 1 then mapDelete dependByTag dependency
      else mapSet dependByTag dependency (dependBy.filter (· != tag)))
      dependencies

/-- The manager once `Remove` has taken the outbound under `tag` out of the map and the
list, and has moved the default to the first outbound left when it was the default. The
outbounds are compared by tag: the outbound under a tag is the one element of the list with
it (`Consistent`), and a default endpoint has a tag no outbound has. -/
def removed (tag : String) (index : Nat) (m : Manager) : Manager :=
  let outbounds := m.outbounds.eraseIdx index
  { m with
    outboundByTag := mapDelete m.outboundByTag tag
    outbounds
    defaultOutbound :=
      if m.defaultOutbound.map (·.Tag) = some tag then outbounds.head? else m.defaultOutbound }

/-- `Remove`. The manager it returns is the one it leaves behind, also with an error: it
checks `dependByTag` only after it has changed the map, the list and the default. The error
of `Close` is returned as it is. -/
def Remove (tag : String) (m : Manager) : Except Failure Unit × Manager :=
  match m.outboundByTag.lookup tag with
  | none => (.error (.new "invalid argument"), m)
  | some outbound =>
    match m.outbounds.findIdx? (·.Tag == tag) with
    | none => (.error (.panic "invalid inbound index"),
        { m with outboundByTag := mapDelete m.outboundByTag tag })
    | some index =>
      let m := removed tag index m
      let dependBy := (m.dependByTag.lookup tag).getD []
      if dependBy.length > 0 then
        (.error (.new ("outbound[" ++ tag ++ "] is depended by " ++ ", ".intercalate dependBy)),
          m)
      else
        let m := { m with dependByTag := removeDependBy tag m.dependByTag outbound.Dependencies }
        if m.started then
          match outbound.Close with
          | .error err => (.error (.new err), m)
          | .ok () => (.ok (), m)
        else (.ok (), m)

/-- The loop of `Start` at a stage other than the start stage. -/
def legacyStartEach (stage : StartStage) : List Outbound → Except Failure Unit
  | [] => .ok ()
  | outbound :: outbounds =>
    match outbound.Start stage with
    | .error err => .error (.cause err (stage.String ++ " " ++ outbound.name))
    | .ok () => legacyStartEach stage outbounds

/-- `Start`, with the endpoint manager and `defaultOutboundFallback`. -/
def Start (endpoint : EndpointManager) (defaultOutboundFallback : Except String Outbound)
    (stage : StartStage) (m : Manager) : Except Failure Unit × Manager :=
  if m.started ∧ m.stage.toNat ≥ stage.toNat then (.error (.panic "already started"), m)
  else
    let m := { m with started := true, stage }
    if stage = .StartStateStart then
      let found :=
        if m.defaultTag ≠ "" ∧ m.defaultOutbound = none then
          (endpoint.Get m.defaultTag).map fun defaultEndpoint =>
            { m with defaultOutbound := some defaultEndpoint }
        else some m
      match found with
      | none => (.error (.new ("default outbound not found: " ++ m.defaultTag)), m)
      | some m =>
        let fallback :=
          if m.defaultOutbound = none then
            defaultOutboundFallback.map fun directOutbound =>
              { m with
                outbounds := m.outbounds ++ [directOutbound]
                outboundByTag := mapSet m.outboundByTag directOutbound.Tag directOutbound
                defaultOutbound := some directOutbound }
          else .ok m
        match fallback with
        | .error err => (.error (.cause err "create direct outbound for fallback"), m)
        | .ok m =>
          ((startOutbounds (m.outbounds ++ endpoint.endpoints) m.outboundByTag).map fun _ => (),
            m)
    else (legacyStartEach stage m.outbounds, m)

/-- The start stage of a manager that has not started: it stops when the default tag names no
endpoint or the fallback fails; otherwise it starts its outbounds, with the fallback appended
when it added one, and the endpoints. -/
theorem Start_start {endpoint : EndpointManager} {fb : Except String Outbound} {m m' : Manager}
    {r : Except Failure Unit} (hfresh : m.started = false)
    (h : Start endpoint fb .StartStateStart m = (r, m')) :
    r = .error (.new ("default outbound not found: " ++ m.defaultTag)) ∨
    (∃ err, fb = .error err ∧ r = .error (.cause err "create direct outbound for fallback")) ∨
    (r = (startOutbounds (m'.outbounds ++ endpoint.endpoints) m'.outboundByTag).map
        (fun _ => ()) ∧
      ((m'.outbounds = m.outbounds ∧ m'.outboundByTag = m.outboundByTag) ∨
        ∃ direct, fb = .ok direct ∧ m'.outbounds = m.outbounds ++ [direct] ∧
          m'.outboundByTag = mapSet m.outboundByTag direct.Tag direct)) := by
  simp only [Start, hfresh, Bool.false_eq_true, false_and, if_false, if_true] at h
  split at h
  · simp only [Prod.mk.injEq] at h
    exact .inl h.1.symm
  rename_i m₁ hfound
  have hkeep : m₁.outbounds = m.outbounds ∧ m₁.outboundByTag = m.outboundByTag := by
    split at hfound
    · obtain ⟨e, -, rfl⟩ := Option.map_eq_some_iff.mp hfound
      exact ⟨rfl, rfl⟩
    · cases hfound
      exact ⟨rfl, rfl⟩
  split at h
  · rename_i err hfb
    simp only [Prod.mk.injEq] at h
    refine .inr (.inl ⟨err, ?_, h.1.symm⟩)
    split at hfb
    · cases fb with
      | error e => simpa [Except.map] using hfb
      | ok direct => cases hfb
    · cases hfb
  · rename_i m₂ hfb
    simp only [Prod.mk.injEq] at h
    obtain ⟨rfl, rfl⟩ := h
    refine .inr (.inr ⟨rfl, ?_⟩)
    split at hfb
    · cases fb with
      | error e => cases hfb
      | ok direct =>
        simp only [Except.map, Except.ok.injEq] at hfb
        subst hfb
        exact .inr ⟨direct, rfl, by simp [hkeep.1], by simp [hkeep.2]⟩
    · cases hfb
      exact .inl hkeep

end Manager

end OutboundManager

end SingBox
