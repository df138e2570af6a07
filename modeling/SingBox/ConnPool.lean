import Mathlib

/-!
# The connection pool of the DNS transports

`ConnPool` of `dns/transport/conn_pool.go`, for any comparable connection type `T`. Each
section of the source that holds `p.access` is one function here, from the pool before it to
the pool after it. What a call does after it unlocked (a call of `options.Close`, the
`closeState` of a replaced state, a dial with the section after it, a caller blocked on a dial)
is queued in `pending` and done by a later `Action`, so a run of actions is an interleaving of
the calls.

In `ConnPoolSingle` mode a state has one shared connection, dialed by one `connectSingle`
goroutine that its callers wait for. In `ConnPoolOrdered` mode idle connections are handed out
in order and `dialAndInstall` dials when none is idle. `Reset` swaps in a fresh state and closes
the old one's connections; `Close` does so for the last state and refuses every later call.

States are kept by index (`states`, `state` the current one) since the source compares them by
pointer, and so are the `connPoolConnect` records (`connects`). Contexts are not kept: when a
dial returns, `dialErr` says whether the caller's or the state's context had been cancelled by
then, and a waiter may leave at any time. `IsAlive` is the caller's `alive`. Three fields are
ghosts: the connections dials returned (`dialed`), those passed to `options.Close`
(`closedConns`), and the shared connections handed out with their `created` flags, newest first
(`returned`).
-/

namespace SingBox.DNSTransport

inductive ConnPoolMode
  | ConnPoolSingle
  | ConnPoolOrdered
  deriving DecidableEq, Repr

open ConnPoolMode

/-- The fields of `connPoolState` the sections read. `shared` is `shared` with `hasShared`, and
`connecting` the index of the `connPoolConnect` of the dial in progress. -/
structure connPoolState (T : Type) where
  all : Finset T
  idle : List T
  shared : Option T
  sharedClaimed : Bool
  connecting : Option Nat

/-- Whether `close(state.done)` has run, and whether `state.err` is set. -/
structure connPoolConnect where
  done : Bool
  err : Bool

/-- What a call still has to do after it unlocked `p.access`. -/
inductive Pending (T : Type)
  | close (conn : T)
  | closeState (state : Nat)
  | dialOrdered (state : Nat)
  | connectSingle (state connect : Nat)
  | waiter (state connect : Nat)
  deriving DecidableEq

structure ConnPool (T : Type) where
  mode : ConnPoolMode
  closed : Bool
  state : Nat
  states : Nat → connPoolState T
  nextState : Nat
  connects : Nat → connPoolConnect
  nextConnect : Nat
  pending : List (Pending T)
  dialed : Finset T
  closedConns : Finset T
  returned : List (T × Bool)

/-- The calls and the steps of their goroutines. `dialed` and `connected` are dials returning
(`none` when the dial, or `acquireSlot`, failed), `done` a waiter woken by `state.done`, and
`cancelled` a waiter woken by its own or the state's context. -/
inductive Action (T : Type)
  | Acquire (alive : Bool)
  | AcquireShared (alive : Bool)
  | Release (conn : T) (reuse alive : Bool)
  | Invalidate (conn : T)
  | Reset
  | Close
  | dialed (state : Nat) (conn : Option T) (dialErr : Bool)
  | connected (state connect : Nat) (conn : Option T) (dialErr : Bool)
  | done (state connect : Nat) (alive : Bool)
  | cancelled (state connect : Nat)
  | close (conn : T)
  | closeState (state : Nat)

variable {T : Type}

def newConnPoolState : connPoolState T := ⟨∅, [], none, false, none⟩

def NewConnPool (mode : ConnPoolMode) : ConnPool T where
  mode := mode
  closed := false
  state := 0
  states := fun _ => newConnPoolState
  nextState := 1
  connects := fun _ => ⟨false, false⟩
  nextConnect := 0
  pending := []
  dialed := ∅
  closedConns := ∅
  returned := []

namespace ConnPool

/-! ### Updates the sections are made of -/

/-- `p.state`. -/
def current (p : ConnPool T) : connPoolState T := p.states p.state

@[simps]
def setState (p : ConnPool T) (i : Nat) (s : connPoolState T) : ConnPool T :=
  { p with states := Function.update p.states i s }

/-- `options.Close(conn, _)`, called once the section has unlocked. -/
@[simps]
def closeLater (p : ConnPool T) (conn : T) : ConnPool T :=
  { p with pending := .close conn :: p.pending }

/-- `state.err` is set or not, and `close(state.done)`. -/
@[simps]
def finishConnect (p : ConnPool T) (connect : Nat) (err : Bool) : ConnPool T :=
  { p with connects := Function.update p.connects connect ⟨true, err⟩ }

/-- The shared connection of state `i` is handed out with `created := !sharedClaimed`. -/
@[simps]
def claim (p : ConnPool T) (i : Nat) (conn : T) : ConnPool T :=
  { p with
    states := Function.update p.states i { p.states i with sharedClaimed := true }
    returned := (conn, !(p.states i).sharedClaimed) :: p.returned }

@[simp] theorem closeLater_current (p : ConnPool T) (conn : T) :
    (p.closeLater conn).current = p.current := rfl

@[simp] theorem finishConnect_current (p : ConnPool T) (connect : Nat) (err : Bool) :
    (p.finishConnect connect err).current = p.current := rfl

@[simp] theorem setState_current (p : ConnPool T) (s : connPoolState T) :
    (p.setState p.state s).current = s :=
  Function.update_self _ _ _

variable [DecidableEq T]

/-- A call that was pending goes on, or ends. -/
@[simps]
def resume (p : ConnPool T) (x : Pending T) : ConnPool T :=
  { p with pending := p.pending.erase x }

/-- A dial returned `conn`. -/
@[simps]
def dial (p : ConnPool T) (conn : T) : ConnPool T :=
  { p with dialed := insert conn p.dialed }

@[simp] theorem resume_current (p : ConnPool T) (x : Pending T) :
    (p.resume x).current = p.current := rfl

@[simp] theorem dial_current (p : ConnPool T) (conn : T) : (p.dial conn).current = p.current :=
  rfl

/-! ### The sections -/

def removeConn (p : ConnPool T) (state : connPoolState T) (conn : T) : connPoolState T :=
  let state := { state with all := state.all.erase conn }
  match p.mode with
  | ConnPoolSingle =>
    if state.shared = some conn then { state with shared := none, sharedClaimed := false }
    else state
  | ConnPoolOrdered => { state with idle := state.idle.erase conn }

@[simp] theorem removeConn_all (p : ConnPool T) (state : connPoolState T) (conn : T) :
    (p.removeConn state conn).all = state.all.erase conn := by
  unfold removeConn
  split
  · dsimp only
    split <;> rfl
  · rfl

@[simp] theorem removeConn_connecting (p : ConnPool T) (state : connPoolState T) (conn : T) :
    (p.removeConn state conn).connecting = state.connecting := by
  unfold removeConn
  split
  · dsimp only
    split <;> rfl
  · rfl

def Release (p : ConnPool T) (conn : T) (reuse alive : Bool) : ConnPool T :=
  if p.closed then p.closeLater conn
  else
    let state := p.current
    if conn ∉ state.all then p.closeLater conn
    else if !reuse || !alive then (p.setState p.state (p.removeConn state conn)).closeLater conn
    else if p.mode = ConnPoolOrdered ∧ conn ∉ state.idle then
      p.setState p.state { state with idle := state.idle ++ [conn] }
    else p

def Invalidate (p : ConnPool T) (conn : T) : ConnPool T :=
  if p.closed then p.closeLater conn
  else
    let state := p.current
    if conn ∉ state.all then p
    else (p.setState p.state (p.removeConn state conn)).closeLater conn

def Reset (p : ConnPool T) : ConnPool T :=
  if p.closed then p
  else
    { p with
      state := p.nextState
      states := Function.update p.states p.nextState newConnPoolState
      nextState := p.nextState + 1
      pending := .closeState p.state :: p.pending }

def Close (p : ConnPool T) : ConnPool T :=
  if p.closed then p
  else { p with closed := true, pending := .closeState p.state :: p.pending }

/-- One pass of the loop of `acquireOrdered`; `alive` answers `IsAlive` for the front of the idle
list. A dead one is closed and the caller loops, which is a new `Action.Acquire`. -/
def acquireOrdered (p : ConnPool T) (alive : Bool) : ConnPool T :=
  if p.closed then p
  else
    let current := p.current
    match current.idle with
    | idleConn :: rest =>
      if alive then p.setState p.state { current with idle := rest }
      else (p.setState p.state { current with idle := rest, all := current.all.erase idleConn })
        |>.closeLater idleConn
    | [] => { p with pending := .dialOrdered p.state :: p.pending }

/-- `dialAndInstall` for state `current` once its dial returned. -/
def dialAndInstall (p : ConnPool T) (current : Nat) (conn : Option T) (dialErr : Bool) :
    ConnPool T :=
  let p := p.resume (.dialOrdered current)
  match conn with
  | none => p
  | some conn =>
    let p := p.dial conn
    if dialErr then p.closeLater conn
    else if p.closed then p.closeLater conn
    else if p.state ≠ current then p.closeLater conn
    else p.setState current { p.states current with all := insert conn (p.states current).all }

/-- One pass of the loop of `acquireShared`, up to its `select`: the shared connection is
handed out, or closed when dead (the caller loops), or the caller waits for the dial in
progress, starting one if there is none. -/
def acquireShared (p : ConnPool T) (alive : Bool) : ConnPool T :=
  if p.closed then p
  else
    let current := p.current
    match current.shared with
    | some conn =>
      if alive then p.claim p.state conn
      else (p.setState p.state (p.removeConn current conn)).closeLater conn
    | none =>
      match current.connecting with
      | none =>
        let connect := p.nextConnect
        { p.setState p.state { current with connecting := some connect } with
          connects := Function.update p.connects connect ⟨false, false⟩
          nextConnect := connect + 1
          pending := .waiter p.state connect :: .connectSingle p.state connect :: p.pending }
      | some connect => { p with pending := .waiter p.state connect :: p.pending }

/-- `connectSingle` for state `current` once its dial returned. A connection dialed after a
cancellation is closed at once, and one that finds the pool closed or the state replaced is
closed after the section; the source closes the first before it locks, which no other section
can tell apart. -/
def connectSingle (p : ConnPool T) (current connect : Nat) (conn : Option T) (dialErr : Bool) :
    ConnPool T :=
  let p := p.resume (.connectSingle current connect)
  let p := p.setState current { p.states current with connecting := none }
  match conn with
  | none => p.finishConnect connect true
  | some conn =>
    let p := p.dial conn
    if dialErr || p.closed || p.state != current then
      (p.closeLater conn).finishConnect connect true
    else
      (p.setState current
        { p.states current with shared := some conn, all := insert conn (p.states current).all })
        |>.finishConnect connect false

/-- `collectShared`, for a waiter woken by `state.done`. The caller retries on a failed dial it
did not start and when no shared connection is left; a retry is a new `Action.AcquireShared`. -/
def collectShared (p : ConnPool T) (current connect : Nat) (alive : Bool) : ConnPool T :=
  let p := p.resume (.waiter current connect)
  if (p.connects connect).err || p.closed || p.state != current then p
  else
    match (p.states current).shared with
    | none => p
    | some conn =>
      if alive then p.claim current conn
      else (p.setState current (p.removeConn (p.states current) conn)).closeLater conn

/-- `closeState` of state `i`: every connection it tracks goes to `options.Close`. -/
def closeState (p : ConnPool T) (i : Nat) : ConnPool T :=
  { p.resume (.closeState i) with closedConns := p.closedConns ∪ (p.states i).all }

/-- A queued `options.Close(conn, _)` runs. -/
def closeConn (p : ConnPool T) (conn : T) : ConnPool T :=
  { p.resume (.close conn) with closedConns := insert conn p.closedConns }

/-! ### Runs -/

/-- A dial returns nothing, or a connection that no dial returned before. -/
def Fresh (p : ConnPool T) : Option T → Bool
  | none => true
  | some conn => conn ∉ p.dialed

/-- An action taken from `p`; `none` when it is not enabled. A caller releases or invalidates
only connections the pool gave out. -/
def step (p : ConnPool T) : Action T → Option (ConnPool T)
  | .Acquire alive =>
    some (match p.mode with
      | ConnPoolSingle => p.acquireShared alive
      | ConnPoolOrdered => p.acquireOrdered alive)
  | .AcquireShared alive => some (if p.mode = ConnPoolSingle then p.acquireShared alive else p)
  | .Release conn reuse alive => if conn ∈ p.dialed then some (p.Release conn reuse alive) else none
  | .Invalidate conn => if conn ∈ p.dialed then some (p.Invalidate conn) else none
  | .Reset => some p.Reset
  | .Close => some p.Close
  | .dialed i conn dialErr =>
    if .dialOrdered i ∈ p.pending ∧ p.Fresh conn then some (p.dialAndInstall i conn dialErr)
    else none
  | .connected i connect conn dialErr =>
    if .connectSingle i connect ∈ p.pending ∧ p.Fresh conn then
      some (p.connectSingle i connect conn dialErr)
    else none
  | .done i connect alive =>
    if .waiter i connect ∈ p.pending ∧ (p.connects connect).done then
      some (p.collectShared i connect alive)
    else none
  | .cancelled i connect =>
    if .waiter i connect ∈ p.pending then some (p.resume (.waiter i connect)) else none
  | .close conn => if .close conn ∈ p.pending then some (p.closeConn conn) else none
  | .closeState i => if .closeState i ∈ p.pending then some (p.closeState i) else none

def run (p : ConnPool T) : List (Action T) → Option (ConnPool T)
  | [] => some p
  | a :: actions => (p.step a).bind fun p' => p'.run actions

/-- The connections an action passes to `options.Close`. -/
def closes (p : ConnPool T) : Action T → Finset T
  | .close conn => {conn}
  | .closeState i => (p.states i).all
  | _ => ∅

end ConnPool

end SingBox.DNSTransport
