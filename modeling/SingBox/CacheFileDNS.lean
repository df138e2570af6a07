import Mathlib

/-!
# The write-behind of the DNS cache file

`experimental/cachefile/dns_cache.go`. `SaveDNSCacheAsync` queues a response in the map
`saveDNSCache` under the mutex and, when no flusher runs for the key, starts one. A flusher
reads the pending entry, persists it with `SaveDNSCache` outside the lock, and then deletes
the entry if its sequence number has not moved since the read, or reads again.
`ClearDNSCache` clears the map, and then deletes the bucket in a transaction of its own.

The model is a transition system whose steps are those critical sections and the persist
step. Without `ClearDNSCache` no update is lost: the pending entry or, when there is none,
the store holds the last value queued for each key (`LoadDNSCache_of_run`). With it, a
flusher that is persisting when the map is cleared survives the clear, and its compare step
deletes the entry of a newer save that restarted the sequence at the number it read.

The key of an entry and its value (the message with its expiry) are type parameters. Saves
succeed; the flushers of each key are kept in a list of their own, in the order they
started.
-/

namespace SingBox

namespace CacheFile

variable {K V : Type}

/-- `saveDNSCacheEntry`, with the message and its expiry as one value. -/
structure saveDNSCacheEntry (V : Type) where
  value : V
  sequence : Nat
  saving : Bool

/-- Where a goroutine of `flushPendingDNSCacheWith` stands: before its read of the pending
entry, or holding the entry it read, before or after `save`. -/
inductive Phase (V : Type) where
  | read
  | persist (entry : saveDNSCacheEntry V)
  | compare (entry : saveDNSCacheEntry V)

structure State (K V : Type) where
  saveDNSCache : K → Option (saveDNSCacheEntry V)
  /-- The `dns_cache` bucket. -/
  store : K → Option V
  /-- The running flushers of each key. -/
  flushers : K → List (Phase V)
  /-- The `ClearDNSCache` calls that have cleared the map and not yet deleted the bucket. -/
  clearing : Nat

/-- A cache file with nothing pending over a store. -/
def initial (store : K → Option V) : State K V :=
  ⟨fun _ => none, store, fun _ => [], 0⟩

inductive Action (K V : Type) where
  | SaveDNSCacheAsync (key : K) (value : V)
  /-- The next step of the `index`-th flusher of `key`. -/
  | flush (key : K) (index : Nat)
  /-- The critical section of `ClearDNSCache`. -/
  | clearMap
  /-- The transaction of `ClearDNSCache`. -/
  | deleteBucket

/-- The entry `queueDNSCacheSave` writes over the pending one (the zero entry when there is
none), and whether it starts a flusher. -/
def queuedEntry (pending : Option (saveDNSCacheEntry V)) (value : V) :
    saveDNSCacheEntry V × Bool :=
  let (sequence, saving) :=
    match pending with
    | some entry => (entry.sequence, entry.saving)
    | none => (0, false)
  (⟨value, sequence + 1, true⟩, !saving)

/-- What one step of a flusher leaves of its key: the pending entry, the stored value, and
the flusher's next phase, or none when it returns. -/
structure Flushed (V : Type) where
  pending : Option (saveDNSCacheEntry V)
  stored : Option V
  next : Option (Phase V)

/-- One step of a flusher, over the pending entry and the stored value of its key. -/
def flushKey (pending : Option (saveDNSCacheEntry V)) (stored : Option V) :
    Phase V → Flushed V
  | .read =>
    match pending with
    | none => ⟨pending, stored, none⟩
    | some entry => ⟨pending, stored, some (.persist entry)⟩
  | .persist entry => ⟨pending, some entry.value, some (.compare entry)⟩
  | .compare entry =>
    match pending with
    | none => ⟨pending, stored, none⟩
    | some currentEntry =>
      if currentEntry.sequence ≠ entry.sequence then ⟨pending, stored, some .read⟩
      else ⟨none, stored, none⟩

/-- The flushers of a key after the `index`-th one moved to its next phase or returned. -/
def replaceFlusher (flushers : List (Phase V)) (index : Nat) : Option (Phase V) → List (Phase V)
  | some phase => flushers.set index phase
  | none => flushers.eraseIdx index

theorem replaceFlusher_singleton (phase : Phase V) (next : Option (Phase V)) :
    replaceFlusher [phase] 0 next = next.toList := by
  cases next <;> rfl

namespace State

variable [DecidableEq K] (s : State K V)

/-- `LoadDNSCache`: the pending entry, or the stored one. -/
def LoadDNSCache (key : K) : Option V :=
  match s.saveDNSCache key with
  | some entry => some entry.value
  | none => s.store key

/-- `queueDNSCacheSave`, with the `go` of `SaveDNSCacheAsync` when it returns true. -/
def queueDNSCacheSave (key : K) (value : V) : State K V :=
  let (entry, startFlush) := queuedEntry (s.saveDNSCache key) value
  { s with
    saveDNSCache := Function.update s.saveDNSCache key (some entry)
    flushers := Function.update s.flushers key
      (if startFlush then s.flushers key ++ [.read] else s.flushers key) }

/-- The next step of the `index`-th flusher of a key, in the phase it is in. -/
def flushStep (key : K) (index : Nat) (phase : Phase V) : State K V :=
  let flushed := flushKey (s.saveDNSCache key) (s.store key) phase
  { s with
    saveDNSCache := Function.update s.saveDNSCache key flushed.pending
    store := Function.update s.store key flushed.stored
    flushers := Function.update s.flushers key
      (replaceFlusher (s.flushers key) index flushed.next) }

/-- A step of the system; `none` when the action is not enabled. -/
def step : Action K V → Option (State K V)
  | .SaveDNSCacheAsync key value => some (s.queueDNSCacheSave key value)
  | .flush key index => ((s.flushers key)[index]?).map (s.flushStep key index)
  | .clearMap => some { s with saveDNSCache := fun _ => none, clearing := s.clearing + 1 }
  | .deleteBucket =>
    if s.clearing > 0 then some { s with store := fun _ => none, clearing := s.clearing - 1 }
    else none

end State

variable [DecidableEq K]

def run (s : State K V) : List (Action K V) → Option (State K V)
  | [] => some s
  | action :: actions => (s.step action).bind fun s => run s actions

def Action.isClear : Action K V → Bool
  | .clearMap | .deleteBucket => true
  | _ => false

/-- The value each key was last queued with, after one action. -/
def Action.queued (latest : K → Option V) : Action K V → K → Option V
  | .SaveDNSCacheAsync key value => Function.update latest key (some value)
  | _ => latest

/-- The value each key was last queued with, after a run of actions. -/
def lastQueued (latest : K → Option V) : List (Action K V) → K → Option V
  | [] => latest
  | action :: actions => lastQueued (action.queued latest) actions

/-! ### Without a clear, no update is lost -/

/-- What holds of one key between steps when no clear runs, over its pending entry, its
stored value, its flushers and the value it was last queued with: the key has one flusher
while an entry is pending and none otherwise; the pending entry holds the latest value, and
the store does once nothing is pending; a flusher's entry is the pending one or an older
one, and after its persist the store holds it. -/
structure KeyInv (pending : Option (saveDNSCacheEntry V)) (stored : Option V)
    (flushers : List (Phase V)) (latest : Option V) : Prop where
  flushers_length : flushers.length = if pending.isSome then 1 else 0
  saving : ∀ entry, pending = some entry → entry.saving = true
  pending_latest : ∀ entry, pending = some entry → latest = some entry.value
  store_latest : pending = none → stored = latest
  snapshot : ∀ entry, (.persist entry ∈ flushers ∨ .compare entry ∈ flushers) →
    ∃ current, pending = some current ∧ entry.sequence ≤ current.sequence ∧
      (entry.sequence = current.sequence → entry.value = current.value)
  persisted : ∀ entry, .compare entry ∈ flushers → stored = some entry.value

def Inv (s : State K V) (latest : K → Option V) : Prop :=
  ∀ key, KeyInv (s.saveDNSCache key) (s.store key) (s.flushers key) (latest key)

section KeyInv

variable {pending : Option (saveDNSCacheEntry V)} {stored latest : Option V}
  {flushers : List (Phase V)}

theorem KeyInv.idle (stored : Option V) : KeyInv none stored [] stored where
  flushers_length := rfl
  saving _ h := by cases h
  pending_latest _ h := by cases h
  store_latest _ := rfl
  snapshot _ h := by simp at h
  persisted _ h := by cases h

theorem KeyInv.flushers_eq (h : KeyInv pending stored flushers latest) {index : Nat}
    {phase : Phase V} (hphase : flushers[index]? = some phase) :
    index = 0 ∧ flushers = [phase] ∧ ∃ current, pending = some current := by
  have hlen := h.flushers_length
  obtain ⟨hi, rfl⟩ := List.getElem?_eq_some_iff.mp hphase
  cases pending with
  | none =>
    simp only [Option.isSome_none, Bool.false_eq_true, if_false] at hlen
    omega
  | some current =>
    simp only [Option.isSome_some, if_true] at hlen
    obtain ⟨phase', hone⟩ := List.length_eq_one_iff.mp hlen
    have hzero : index = 0 := by simp [hone] at hi; omega
    subst hzero
    exact ⟨rfl, by simp [hone], current, rfl⟩

/-- A queued save of `value`: when an entry is pending its flusher goes on, since the
entry's `saving` flag is set; otherwise a flusher starts. Either way the flusher's entry
is now older than the pending one. -/
theorem KeyInv.queue (h : KeyInv pending stored flushers latest) (value : V) :
    KeyInv (some (queuedEntry pending value).1) stored
      (if (queuedEntry pending value).2 then flushers ++ [.read] else flushers)
      (some value) := by
  cases pending with
  | none =>
    have hnil : flushers = [] := by simpa using h.flushers_length
    subst hnil
    exact
      { flushers_length := rfl
        saving := fun _ he => by cases he; rfl
        pending_latest := fun _ he => by cases he; rfl
        store_latest := fun he => by cases he
        snapshot := fun _ he => by simp [queuedEntry] at he
        persisted := fun _ he => by simp [queuedEntry] at he }
  | some current =>
    have hsaving : current.saving = true := h.saving current rfl
    simp only [queuedEntry, hsaving, Bool.not_true, Bool.false_eq_true, if_false]
    exact
      { flushers_length := by simpa using h.flushers_length
        saving := fun _ he => by cases he; rfl
        pending_latest := fun _ he => by cases he; rfl
        store_latest := fun he => by cases he
        snapshot := fun entry he => by
          obtain ⟨_, hc, hle, -⟩ := h.snapshot entry he
          cases hc
          exact ⟨_, rfl, by simp only; omega, fun heq => by simp only at heq; omega⟩
        persisted := h.persisted }

/-- A flusher's step keeps the invariant of its key. The returns on a missing entry do not
occur: an entry is pending while the key has a flusher. -/
theorem KeyInv.flushKey (h : KeyInv pending stored [phase] latest) :
    KeyInv (flushKey pending stored phase).pending (flushKey pending stored phase).stored
      (flushKey pending stored phase).next.toList latest := by
  obtain ⟨-, -, current, rfl⟩ := h.flushers_eq (show [phase][0]? = some phase from rfl)
  cases phase with
  | read =>
    exact
      { flushers_length := rfl
        saving := h.saving
        pending_latest := h.pending_latest
        store_latest := h.store_latest
        snapshot := fun entry he => by
          simp only [CacheFile.flushKey, Option.toList_some, List.mem_singleton,
            Phase.persist.injEq, reduceCtorEq, or_false] at he
          subst he
          exact ⟨entry, rfl, le_rfl, fun _ => rfl⟩
        persisted := fun _ he => by simp [CacheFile.flushKey] at he }
  | persist entry =>
    exact
      { flushers_length := rfl
        saving := h.saving
        pending_latest := h.pending_latest
        store_latest := fun he => by cases he
        snapshot := fun entry' he => by
          simp only [CacheFile.flushKey, Option.toList_some, List.mem_singleton,
            reduceCtorEq, Phase.compare.injEq, false_or] at he
          subst he
          exact h.snapshot entry' (.inl (List.mem_singleton_self _))
        persisted := fun entry' he => by
          simp only [CacheFile.flushKey, Option.toList_some, List.mem_singleton,
            Phase.compare.injEq] at he
          subst he
          rfl }
  | compare entry =>
    by_cases hseq : current.sequence = entry.sequence
    · obtain ⟨_, hc, -, hvalue⟩ := h.snapshot entry (.inr (List.mem_singleton_self _))
      cases hc
      have hstored : stored = some entry.value := h.persisted entry (List.mem_singleton_self _)
      have hlatest : latest = some current.value := h.pending_latest current rfl
      simp only [CacheFile.flushKey, hseq, ne_eq, not_true_eq_false, if_false]
      exact
        { flushers_length := rfl
          saving := fun _ he => by cases he
          pending_latest := fun _ he => by cases he
          store_latest := fun _ => by rw [hstored, hlatest, hvalue hseq.symm]
          snapshot := fun _ he => by simp at he
          persisted := fun _ he => by cases he }
    · simp only [CacheFile.flushKey, ne_eq, hseq, not_false_eq_true, if_true]
      exact
        { flushers_length := rfl
          saving := h.saving
          pending_latest := h.pending_latest
          store_latest := h.store_latest
          snapshot := fun _ he => by simp at he
          persisted := fun _ he => by simp at he }

end KeyInv

variable {s s' : State K V} {latest latest' : K → Option V}

omit [DecidableEq K] in
theorem Inv.initial (store : K → Option V) : Inv (initial store) store :=
  fun key => KeyInv.idle (store key)

theorem Inv.of_frame (h : Inv s latest) (key : K)
    (hframe : ∀ key', key' ≠ key → s'.saveDNSCache key' = s.saveDNSCache key' ∧
      s'.store key' = s.store key' ∧ s'.flushers key' = s.flushers key' ∧
      latest' key' = latest key')
    (hkey : KeyInv (s'.saveDNSCache key) (s'.store key) (s'.flushers key) (latest' key)) :
    Inv s' latest' := by
  intro key'
  by_cases hk : key' = key
  · subst hk
    exact hkey
  · obtain ⟨hpending, hstored, hflushers, hlatest⟩ := hframe key' hk
    rw [hpending, hstored, hflushers, hlatest]
    exact h key'

theorem Inv.queue (h : Inv s latest) (key : K) (value : V) :
    Inv (s.queueDNSCacheSave key value) (Function.update latest key (some value)) := by
  apply h.of_frame key
  · intro key' hk
    simp [State.queueDNSCacheSave, Function.update_of_ne hk]
  · simpa [State.queueDNSCacheSave] using (h key).queue value

theorem Inv.flush (h : Inv s latest) {key : K} {index : Nat} {phase : Phase V}
    (hphase : (s.flushers key)[index]? = some phase) :
    Inv (s.flushStep key index phase) latest := by
  obtain ⟨rfl, hflushers, -⟩ := (h key).flushers_eq hphase
  apply h.of_frame key
  · intro key' hk
    simp [State.flushStep, Function.update_of_ne hk]
  · have hkey := h key
    rw [hflushers] at hkey
    simpa [State.flushStep, hflushers, replaceFlusher_singleton] using hkey.flushKey

theorem Inv.step (h : Inv s latest) {action : Action K V} (hstep : s.step action = some s')
    (hclear : action.isClear = false) : Inv s' (action.queued latest) := by
  cases action with
  | SaveDNSCacheAsync key value =>
    cases hstep
    exact h.queue key value
  | flush key index =>
    obtain ⟨phase, hphase, rfl⟩ := Option.map_eq_some_iff.mp hstep
    exact h.flush hphase
  | clearMap => cases hclear
  | deleteBucket => cases hclear

theorem Inv.run (h : Inv s latest) {actions : List (Action K V)}
    (hrun : run s actions = some s') (hclear : ∀ action ∈ actions, action.isClear = false) :
    Inv s' (lastQueued latest actions) := by
  induction actions generalizing s latest with
  | nil =>
    cases hrun
    exact h
  | cons action actions ih =>
    obtain ⟨s₁, hstep, hrest⟩ := Option.bind_eq_some_iff.mp hrun
    exact ih (h.step hstep (hclear action (.head _))) hrest
      (fun action' ha => hclear action' (.tail _ ha))

omit [DecidableEq K] in
theorem Inv.LoadDNSCache (h : Inv s latest) (key : K) : s.LoadDNSCache key = latest key := by
  unfold State.LoadDNSCache
  cases hpending : s.saveDNSCache key with
  | none => exact (h key).store_latest hpending
  | some entry => exact ((h key).pending_latest entry hpending).symm

omit [DecidableEq K] in
theorem Inv.flushed (h : Inv s latest) {key : K} (hflushers : s.flushers key = []) :
    s.saveDNSCache key = none ∧ s.store key = latest key := by
  have hlen := (h key).flushers_length
  rw [hflushers] at hlen
  cases hpending : s.saveDNSCache key with
  | none => exact ⟨rfl, (h key).store_latest hpending⟩
  | some entry => simp [hpending] at hlen

/-- With no `ClearDNSCache`, after every run from a cache file with nothing pending,
`LoadDNSCache` returns the value each key was last queued with, or the stored one for a key
never queued; and once every flusher has returned nothing is pending and the store holds
those values. -/
theorem LoadDNSCache_of_run (store : K → Option V) (actions : List (Action K V))
    (hclear : ∀ action ∈ actions, action.isClear = false) (s' : State K V)
    (hrun : run (initial store) actions = some s') :
    (∀ key, s'.LoadDNSCache key = lastQueued store actions key) ∧
      ((∀ key, s'.flushers key = []) →
        ∀ key, s'.saveDNSCache key = none ∧ s'.store key = lastQueued store actions key) := by
  have h := (Inv.initial store).run hrun hclear
  exact ⟨h.LoadDNSCache, fun hflushed key => h.flushed (hflushed key)⟩

example :
    ∃ s' : State Nat Nat,
      run (initial fun _ => none) [.SaveDNSCacheAsync 0 1, .flush 0 0, .flush 0 0, .flush 0 0] =
        some s' ∧
      (∀ key, s'.LoadDNSCache key = lastQueued (fun _ => none)
        [.SaveDNSCacheAsync 0 1, .flush 0 0, .flush 0 0, .flush 0 0] key) ∧
      ((∀ key, s'.flushers key = []) →
        ∀ key, s'.saveDNSCache key = none ∧ s'.store key = lastQueued (fun _ => none)
          [.SaveDNSCacheAsync 0 1, .flush 0 0, .flush 0 0, .flush 0 0] key) :=
  ⟨_, rfl, LoadDNSCache_of_run _ _ (by decide) _ rfl⟩

/-! ### A clear while a flusher persists -/

theorem run_append (s : State K V) (actions actions' : List (Action K V)) :
    run s (actions ++ actions') = (run s actions).bind fun s => run s actions' := by
  induction actions generalizing s with
  | nil => rfl
  | cons action actions ih =>
    simp only [List.cons_append, run, ih, Option.bind_assoc]

/-- A save whose flusher has read its entry when `ClearDNSCache` runs, then a second save of
the key. -/
def clearDuringPersist (key : K) (value₁ value₂ : V) : List (Action K V) :=
  [.SaveDNSCacheAsync key value₁, .flush key 0, .clearMap, .deleteBucket] ++
    [.SaveDNSCacheAsync key value₂, .flush key 0, .flush key 0, .flush key 0]

/-- The second save comes after the whole of `ClearDNSCache`, and every flusher returns; yet
the store keeps the first value and nothing is pending. The clear dropped the entry with its
sequence number and `saving` flag, so the second save restarts the sequence at 1 and starts
a second flusher; the first one persists the old value, finds sequence 1 pending, and
deletes the new entry; the second then reads nothing and returns. -/
theorem run_clearDuringPersist (store : K → Option V) (key : K) (value₁ value₂ : V)
    (hne : value₁ ≠ value₂) :
    ∃ s', run (initial store) (clearDuringPersist key value₁ value₂) = some s' ∧
      (∀ key', s'.flushers key' = []) ∧ s'.saveDNSCache key = none ∧
      s'.store key = some value₁ ∧
      s'.LoadDNSCache key ≠ lastQueued store (clearDuringPersist key value₁ value₂) key := by
  have hcleared : run (initial store)
      [.SaveDNSCacheAsync key value₁, .flush key 0, .clearMap, .deleteBucket] =
      some ⟨fun _ => none, fun _ => none,
        Function.update (fun _ => []) key [.persist ⟨value₁, 1, true⟩], 0⟩ := by
    simp [run, State.step, State.queueDNSCacheSave, queuedEntry, State.flushStep, flushKey,
      replaceFlusher, initial]
  have hlatest : lastQueued store (clearDuringPersist key value₁ value₂) key = some value₂ := by
    simp [clearDuringPersist, lastQueued, Action.queued]
  rw [hlatest, clearDuringPersist, run_append, hcleared]
  simp [run, State.step, State.queueDNSCacheSave, queuedEntry, State.flushStep, flushKey,
    replaceFlusher, State.LoadDNSCache, hne]

theorem run_clearDuringPersist_nat :
    (1 : Nat) ≠ 2 ∧
      ∃ s' : State Nat Nat, run (initial fun _ => none) (clearDuringPersist 0 1 2) = some s' ∧
        (∀ key', s'.flushers key' = []) ∧ s'.saveDNSCache 0 = none ∧ s'.store 0 = some 1 ∧
        s'.LoadDNSCache 0 ≠ lastQueued (fun _ => none) (clearDuringPersist 0 1 2) 0 :=
  ⟨by decide, run_clearDuringPersist (fun _ => none) 0 1 2 (by decide)⟩

end CacheFile

end SingBox
