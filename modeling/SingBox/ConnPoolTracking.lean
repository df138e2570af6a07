import SingBox.ConnPool

/-!
# The books of the connection pool

What every state of a `ConnPool` keeps (`StateInv`), and what the pool keeps besides
(`Tracking`): the indices of its states and `connPoolConnect` records, that no connection is
tracked by two states, the shared connections it handed out, and what its queue holds. One lemma
for each kind of update a section makes says that the books stay kept: a close queued, a state
replaced by one with fewer connections, a fresh connection installed, a shared connection handed
out, a dial started or ended, a call resumed.

`FirstClaims` is the property of the hand-outs: newest first, the `created` flag of an entry is
set exactly when no older entry has its connection.
-/

namespace SingBox.DNSTransport

open ConnPoolMode

variable {T : Type}

/-- Newest first: an entry's `created` is set exactly when no older entry has its connection. -/
def FirstClaims : List (T × Bool) → Prop
  | [] => True
  | (conn, created) :: older => (created = true ↔ conn ∉ older.map Prod.fst) ∧ FirstClaims older

theorem FirstClaims.count_created [DecidableEq T] {returned : List (T × Bool)}
    (h : FirstClaims returned) (c : T) :
    returned.count (c, true) = if c ∈ returned.map Prod.fst then 1 else 0 := by
  induction returned with
  | nil => simp
  | cons x older ih =>
    obtain ⟨conn, created⟩ := x
    obtain ⟨hcreated, holder⟩ := h
    rw [List.count_cons, ih holder]
    by_cases hc : conn = c
    · subst hc
      cases created <;> simp_all
    · simp [hc, Ne.symm hc]

namespace Pending

/-- The `connectSingle` goroutines of state `i`. -/
def connectsFor (i : Nat) : Pending T → Bool
  | .connectSingle j _ => j == i
  | _ => false

/-- The dials in progress for state `i`, of either mode. -/
def dialsFor (i : Nat) : Pending T → Bool
  | .dialOrdered j => j == i
  | .connectSingle j _ => j == i
  | _ => false

def isWaiter : Pending T → Bool
  | .waiter _ _ => true
  | _ => false

end Pending

/-- What every state keeps, given the connections dialed and the shared connections handed
out. -/
structure StateInv (mode : ConnPoolMode) (dialed : Finset T) (returned : List (T × Bool))
    (s : connPoolState T) : Prop where
  idle_nil : mode = ConnPoolSingle → s.idle = []
  ordered : mode = ConnPoolOrdered → s.shared = none ∧ s.connecting = none
  idle_nodup : s.idle.Nodup
  idle_sub : ∀ c ∈ s.idle, c ∈ s.all
  shared_mem : ∀ c, s.shared = some c → c ∈ s.all
  all_sub : s.all ⊆ dialed
  claimed : ∀ c, s.shared = some c → (s.sharedClaimed = true ↔ c ∈ returned.map Prod.fst)
  unclaimed : s.shared = none → s.sharedClaimed = false
  connecting : s.connecting ≠ none → s.shared = none

namespace StateInv

variable {mode : ConnPoolMode} {dialed : Finset T} {returned : List (T × Bool)}
  {s : connPoolState T}

theorem new : StateInv mode dialed returned (newConnPoolState : connPoolState T) where
  idle_nil _ := rfl
  ordered _ := ⟨rfl, rfl⟩
  idle_nodup := List.nodup_nil
  idle_sub := by simp [newConnPoolState]
  shared_mem := by simp [newConnPoolState]
  all_sub := Finset.empty_subset _
  claimed := by simp [newConnPoolState]
  unclaimed _ := rfl
  connecting := by simp [newConnPoolState]

theorem not_mem_idle (h : StateInv mode dialed returned s) {c : T} (hc : c ∉ s.all) :
    c ∉ s.idle :=
  fun hidle => hc (h.idle_sub c hidle)

theorem shared_ne (h : StateInv mode dialed returned s) {c : T} (hc : c ∉ s.all) :
    s.shared ≠ some c :=
  fun hshared => hc (h.shared_mem c hshared)

theorem pushIdle (h : StateInv mode dialed returned s) (hmode : mode = ConnPoolOrdered)
    {c : T} (hc : c ∈ s.all) (hidle : c ∉ s.idle) :
    StateInv mode dialed returned { s with idle := s.idle ++ [c] } := by
  refine { h with idle_nil := ?_, idle_nodup := ?_, idle_sub := ?_ }
  · intro hsingle
    exact absurd (hsingle.symm.trans hmode) nofun
  · refine List.nodup_append.mpr ⟨h.idle_nodup, List.nodup_singleton c, ?_⟩
    intro a ha b hb heq
    rw [List.mem_singleton.mp hb] at heq
    exact hidle (heq ▸ ha)
  · intro c' hc'
    rcases List.mem_append.mp hc' with hc' | hc'
    · exact h.idle_sub c' hc'
    · rw [List.mem_singleton.mp hc']
      exact hc

theorem popIdle (h : StateInv mode dialed returned s) {c : T} {rest : List T}
    (hidle : s.idle = c :: rest) : StateInv mode dialed returned { s with idle := rest } := by
  have hnodup := h.idle_nodup
  rw [hidle] at hnodup
  refine { h with idle_nil := ?_, idle_nodup := hnodup.of_cons, idle_sub := ?_ }
  · intro hsingle
    have hnil := h.idle_nil hsingle
    rw [hidle] at hnil
    exact absurd hnil nofun
  · intro c' hc'
    exact h.idle_sub c' (hidle ▸ List.mem_cons_of_mem c hc')

theorem claim (h : StateInv mode dialed returned s) {c : T} (hshared : s.shared = some c) :
    StateInv mode dialed ((c, !s.sharedClaimed) :: returned) { s with sharedClaimed := true } := by
  refine { h with claimed := ?_, unclaimed := ?_ }
  · intro c' hc'
    rw [Option.some_inj.mp (hshared.symm.trans hc')]
    simp
  · intro hnone
    exact absurd (hshared.symm.trans hnone) nofun

theorem startConnecting (h : StateInv mode dialed returned s) (hmode : mode = ConnPoolSingle)
    (hshared : s.shared = none) (connect : Nat) :
    StateInv mode dialed returned { s with connecting := some connect } := by
  refine { h with ordered := ?_, connecting := fun _ => hshared }
  intro hordered
  exact absurd (hmode.symm.trans hordered) nofun

theorem stopConnecting (h : StateInv mode dialed returned s) :
    StateInv mode dialed returned { s with connecting := none } :=
  { h with ordered := fun hordered => ⟨(h.ordered hordered).1, rfl⟩
           connecting := fun hnone => absurd rfl hnone }

theorem claim_other (h : StateInv mode dialed returned s) {c : T}
    (hne : ∀ c', s.shared = some c' → c' ≠ c) (created : Bool) :
    StateInv mode dialed ((c, created) :: returned) s := by
  refine { h with claimed := ?_ }
  intro c' hc'
  rw [h.claimed c' hc']
  simp [hne c' hc']

variable [DecidableEq T]

theorem dial (h : StateInv mode dialed returned s) (c : T) :
    StateInv mode (insert c dialed) returned s :=
  { h with all_sub := h.all_sub.trans (Finset.subset_insert c dialed) }

theorem removeConn {p : ConnPool T} (h : StateInv p.mode dialed returned s) (c : T) :
    StateInv p.mode dialed returned (p.removeConn s c) := by
  have hall : s.all.erase c ⊆ dialed := (Finset.erase_subset c s.all).trans h.all_sub
  unfold ConnPool.removeConn
  cases hmode : p.mode with
  | ConnPoolSingle =>
    rw [hmode] at h
    have hidle := h.idle_nil rfl
    dsimp only
    split
    · exact { idle_nil := h.idle_nil, ordered := nofun, idle_nodup := h.idle_nodup
              idle_sub := by simp [hidle], shared_mem := by simp, all_sub := hall
              claimed := by simp, unclaimed := fun _ => rfl, connecting := fun _ => rfl }
    · rename_i hshared
      refine { h with idle_sub := by simp [hidle], all_sub := hall, shared_mem := ?_ }
      intro c' hc'
      have hne : c' ≠ c := fun heq => hshared (heq ▸ hc')
      exact Finset.mem_erase.mpr ⟨hne, h.shared_mem c' hc'⟩
  | ConnPoolOrdered =>
    rw [hmode] at h
    have hshared := (h.ordered rfl).1
    dsimp only
    refine { h with idle_nil := nofun, idle_nodup := h.idle_nodup.erase c, all_sub := hall
                    idle_sub := ?_, shared_mem := by simp [hshared] }
    intro c' hc'
    obtain ⟨hne, hidle⟩ := h.idle_nodup.mem_erase_iff.mp hc'
    exact Finset.mem_erase.mpr ⟨hne, h.idle_sub c' hidle⟩

theorem install (h : StateInv mode dialed returned s) (c : T) :
    StateInv mode (insert c dialed) returned { s with all := insert c s.all } := by
  refine { h with idle_sub := ?_, shared_mem := ?_, all_sub := Finset.insert_subset_insert c h.all_sub }
  · intro c' hc'
    exact Finset.mem_insert_of_mem (h.idle_sub c' hc')
  · intro c' hc'
    exact Finset.mem_insert_of_mem (h.shared_mem c' hc')

theorem installShared (h : StateInv mode dialed returned s) (hmode : mode = ConnPoolSingle)
    (hshared : s.shared = none) {c : T} (hc : c ∉ returned.map Prod.fst) :
    StateInv mode (insert c dialed) returned
      { s with connecting := none, shared := some c, all := insert c s.all } := by
  have hinstall := h.install c
  refine { hinstall with ordered := ?_, shared_mem := ?_, claimed := ?_, unclaimed := nofun
                         connecting := fun hnone => absurd rfl hnone }
  · intro hordered
    exact absurd (hmode.symm.trans hordered) nofun
  · intro c' hc'
    cases Option.some_inj.mp hc'
    exact Finset.mem_insert_self c s.all
  · intro c' hc'
    rw [← Option.some_inj.mp hc', h.unclaimed hshared]
    simp [hc]

end StateInv

/-- The pool's books: its states, the indices it has used, the shared connections it handed out
and what its queue holds. -/
structure Tracking (p : ConnPool T) : Prop where
  states : ∀ i, StateInv p.mode p.dialed p.returned (p.states i)
  unused : ∀ i, p.nextState ≤ i → p.states i = newConnPoolState
  state_lt : p.state < p.nextState
  disjoint : ∀ i j c, c ∈ (p.states i).all → c ∈ (p.states j).all → i = j
  returned_sub : ∀ x ∈ p.returned, x.1 ∈ p.dialed
  firstClaims : FirstClaims p.returned
  single_dials : p.mode = ConnPoolSingle → ∀ i, .dialOrdered i ∉ p.pending
  connects : ∀ i, p.pending.countP (Pending.connectsFor i) =
    if (p.states i).connecting = none then 0 else 1
  close_pending : ∀ c, .close c ∈ p.pending → c ∈ p.dialed ∧ (p.closed = false → c ∉ p.current.all)
  closeState_pending : ∀ i, .closeState i ∈ p.pending →
    i < p.nextState ∧ (p.closed = false → i ≠ p.state)

theorem all_subset_setState {p : ConnPool T} {i : Nat} {s : connPoolState T}
    (hsub : (p.states i).all ⊆ s.all) (j : Nat) :
    (p.states j).all ⊆ ((p.setState i s).states j).all := by
  rw [ConnPool.setState_states, Function.update_apply]
  split
  · subst j
    exact hsub
  · exact subset_rfl

theorem all_claim (p : ConnPool T) (i : Nat) (c : T) (j : Nat) :
    ((p.claim i c).states j).all = (p.states j).all := by
  rw [ConnPool.claim_states, Function.update_apply]
  split
  · subst j
    rfl
  · rfl

namespace Tracking

variable {p : ConnPool T}

theorem current_inv (h : Tracking p) : StateInv p.mode p.dialed p.returned p.current :=
  h.states p.state

theorem not_mem_all (h : Tracking p) {c : T} (hc : c ∉ p.dialed) (i : Nat) :
    c ∉ (p.states i).all :=
  fun hi => hc ((h.states i).all_sub hi)

theorem connecting_ne_none (h : Tracking p) {i connect : Nat}
    (hx : .connectSingle i connect ∈ p.pending) : (p.states i).connecting ≠ none := by
  intro hnone
  have hcount := h.connects i
  rw [if_pos hnone, List.countP_eq_zero] at hcount
  exact absurd (hcount _ hx) (by simp [Pending.connectsFor])

/-- A call queued after a section: no dial of single mode, no `connectSingle`, no
`closeState`, and a close only of a dialed connection the current state does not track. -/
theorem cons (h : Tracking p) (x : Pending T)
    (hdial : p.mode = ConnPoolSingle → ∀ i, x ≠ .dialOrdered i)
    (hconnects : ∀ i, x.connectsFor i = false)
    (hclose : ∀ c, x = .close c → c ∈ p.dialed ∧ (p.closed = false → c ∉ p.current.all))
    (hcloseState : ∀ i, x ≠ .closeState i) : Tracking { p with pending := x :: p.pending } := by
  refine { h with single_dials := ?_, connects := ?_, close_pending := ?_
                  closeState_pending := ?_ }
  · intro hmode i hi
    rcases List.mem_cons.mp hi with hi | hi
    · exact hdial hmode i hi.symm
    · exact h.single_dials hmode i hi
  · intro i
    simp [hconnects i, h.connects i]
  · intro c hc
    rcases List.mem_cons.mp hc with hc | hc
    · exact hclose c hc.symm
    · exact h.close_pending c hc
  · intro i hi
    rcases List.mem_cons.mp hi with hi | hi
    · exact absurd hi.symm (hcloseState i)
    · exact h.closeState_pending i hi

theorem closeLater (h : Tracking p) {c : T} (hc : c ∈ p.dialed)
    (huntracked : p.closed = false → c ∉ p.current.all) : Tracking (p.closeLater c) :=
  h.cons (.close c) (by simp) (fun _ => rfl) (fun c' hc' => by cases hc'; exact ⟨hc, huntracked⟩)
    (by simp)

/-- A state in use is replaced by one that tracks no more connections and has the same dial in
progress. -/
theorem setState (h : Tracking p) {i : Nat} (hi : i < p.nextState) {s : connPoolState T}
    (hs : StateInv p.mode p.dialed p.returned s) (hsub : s.all ⊆ (p.states i).all)
    (hconnecting : s.connecting = (p.states i).connecting) : Tracking (p.setState i s) := by
  have hstates : ∀ j, (p.setState i s).states j = if j = i then s else p.states j :=
    fun j => Function.update_apply p.states i s j
  have hall : ∀ j, ((p.setState i s).states j).all ⊆ (p.states j).all := by
    intro j
    rw [hstates]
    split
    · subst j
      exact hsub
    · exact subset_rfl
  refine { h with states := ?_, unused := ?_, disjoint := ?_, connects := ?_
                  close_pending := ?_ }
  · intro j
    rw [hstates]
    split
    · exact hs
    · exact h.states j
  · intro j hj
    rw [ConnPool.setState_nextState] at hj
    rw [hstates, if_neg (by omega)]
    exact h.unused j hj
  · intro j k c hj hk
    exact h.disjoint j k c (hall j hj) (hall k hk)
  · intro j
    rw [hstates]
    split
    · subst j
      rw [hconnecting]
      exact h.connects i
    · exact h.connects j
  · intro c hc
    refine ⟨(h.close_pending c hc).1, fun hopen hcur => ?_⟩
    exact (h.close_pending c hc).2 hopen (hall p.state hcur)

theorem lt_nextState (h : Tracking p) {i : Nat} (hi : (p.states i).all.Nonempty ∨
    (p.states i).shared ≠ none ∨ (p.states i).connecting ≠ none) : i < p.nextState := by
  by_contra hge
  rw [h.unused i (Nat.le_of_not_lt hge)] at hi
  simp [newConnPoolState] at hi

theorem wait (h : Tracking p) (i connect : Nat) :
    Tracking { p with pending := .waiter i connect :: p.pending } :=
  h.cons _ (by simp) (fun _ => rfl) (by simp) (by simp)

theorem dialOrdered (h : Tracking p) (hmode : p.mode = ConnPoolOrdered) (i : Nat) :
    Tracking { p with pending := .dialOrdered i :: p.pending } :=
  h.cons _ (fun hsingle => absurd (hsingle.symm.trans hmode) (by simp)) (fun _ => rfl) (by simp)
    (by simp)

/-- The current state of single mode starts a dial, and the caller waits for it. -/
theorem startDial (h : Tracking p) (hmode : p.mode = ConnPoolSingle)
    (hshared : p.current.shared = none) (hconnecting : p.current.connecting = none)
    (connect : Nat) :
    Tracking { p.setState p.state { p.current with connecting := some connect } with
      connects := Function.update p.connects connect ⟨false, false⟩
      nextConnect := connect + 1
      pending := .waiter p.state connect :: .connectSingle p.state connect :: p.pending } := by
  have hstates : ∀ j, (p.setState p.state { p.current with connecting := some connect }).states j =
      if j = p.state then { p.current with connecting := some connect } else p.states j :=
    fun j => Function.update_apply _ _ _ j
  refine { h with states := ?_, unused := ?_, disjoint := ?_, single_dials := ?_
                  connects := ?_, close_pending := ?_, closeState_pending := ?_ }
  · intro j
    rw [hstates]
    split
    · exact h.current_inv.startConnecting hmode hshared connect
    · exact h.states j
  · intro j hj
    rw [hstates, if_neg (by have := h.state_lt; simp at hj; omega)]
    exact h.unused j hj
  · intro j k c hj hk
    rw [hstates] at hj hk
    split at hj <;> split at hk <;> subst_vars <;> exact h.disjoint _ _ c hj hk
  · intro hsingle j hj
    simp only [List.mem_cons, reduceCtorEq, false_or] at hj
    exact h.single_dials hsingle j hj
  · intro j
    have hcount := h.connects j
    rw [hstates]
    split
    · subst j
      rw [ConnPool.current] at hconnecting
      rw [hconnecting, if_pos rfl] at hcount
      simp [Pending.connectsFor, hcount]
    · rename_i hj
      simp [Pending.connectsFor, hcount, Ne.symm hj]
  · intro c hc
    simp only [List.mem_cons, reduceCtorEq, false_or] at hc
    refine ⟨(h.close_pending c hc).1, fun hopen hcur => (h.close_pending c hc).2 hopen ?_⟩
    simpa [ConnPool.current] using hcur
  · intro j hj
    simp only [List.mem_cons, reduceCtorEq, false_or] at hj
    exact h.closeState_pending j hj

/-- The shared connection of a state is handed out. -/
theorem claim (h : Tracking p) {i : Nat} {c : T} (hshared : (p.states i).shared = some c) :
    Tracking (p.claim i c) := by
  have hc : c ∈ (p.states i).all := (h.states i).shared_mem c hshared
  have hi : i < p.nextState := h.lt_nextState (.inr (.inl (by simp [hshared])))
  have hstates : ∀ j, (p.claim i c).states j =
      if j = i then { p.states i with sharedClaimed := true } else p.states j :=
    fun j => Function.update_apply _ _ _ j
  have hall := all_claim p i c
  refine { h with states := ?_, unused := ?_, disjoint := ?_, returned_sub := ?_
                  firstClaims := ?_, connects := ?_, close_pending := ?_ }
  · intro j
    rw [hstates]
    split
    · subst j
      exact (h.states i).claim hshared
    · rename_i hj
      refine (h.states j).claim_other (fun c' hc' heq => hj ?_) _
      subst heq
      exact h.disjoint j i c' ((h.states j).shared_mem c' hc') hc
  · intro j hj
    rw [hstates, if_neg (by simp at hj; omega)]
    exact h.unused j hj
  · intro j k c' hj hk
    rw [hall] at hj hk
    exact h.disjoint j k c' hj hk
  · intro x hx
    rcases List.mem_cons.mp hx with hx | hx
    · subst hx
      exact (h.states i).all_sub hc
    · exact h.returned_sub x hx
  · refine ⟨?_, h.firstClaims⟩
    rw [Bool.not_eq_true', ← Bool.not_eq_true, (h.states i).claimed c hshared]
  · intro j
    rw [hstates]
    split
    · subst j
      exact h.connects i
    · exact h.connects j
  · intro c' hc'
    refine ⟨(h.close_pending c' hc').1, fun hopen hcur => ?_⟩
    rw [ConnPool.current, hall] at hcur
    exact (h.close_pending c' hc').2 hopen hcur

variable [DecidableEq T]

theorem dial (h : Tracking p) (c : T) : Tracking (p.dial c) := by
  refine { h with states := fun i => (h.states i).dial c, returned_sub := ?_
                  close_pending := ?_ }
  · intro x hx
    exact Finset.mem_insert_of_mem (h.returned_sub x hx)
  · intro c' hc'
    exact ⟨Finset.mem_insert_of_mem (h.close_pending c' hc').1, (h.close_pending c' hc').2⟩

/-- A fresh connection joins a state in use. -/
theorem install (h : Tracking p) {c : T} (hfresh : c ∉ p.dialed) {i : Nat}
    (hi : i < p.nextState) {s : connPoolState T}
    (hs : StateInv p.mode (insert c p.dialed) p.returned s)
    (hall : s.all = insert c (p.states i).all)
    (hconnecting : s.connecting = (p.states i).connecting) : Tracking ((p.dial c).setState i s) := by
  have hstates : ∀ j, ((p.dial c).setState i s).states j = if j = i then s else p.states j :=
    fun j => Function.update_apply _ _ _ j
  have hmem : ∀ j c', c' ∈ (((p.dial c).setState i s).states j).all ↔
      (j = i ∧ c' = c) ∨ c' ∈ (p.states j).all := by
    intro j c'
    rw [hstates]
    split
    · subst j
      simp [hall]
    · simp_all
  have hd := h.dial c
  refine { hd with states := ?_, unused := ?_, disjoint := ?_, connects := ?_
                   close_pending := ?_ }
  · intro j
    rw [hstates]
    split
    · exact hs
    · exact hd.states j
  · intro j hj
    rw [hstates, if_neg (by simp at hj; omega)]
    exact h.unused j hj
  · intro j k c' hj hk
    rcases (hmem j c').mp hj with ⟨rfl, rfl⟩ | hj'
    · rcases (hmem k c').mp hk with ⟨rfl, -⟩ | hk'
      · rfl
      · exact absurd hk' (h.not_mem_all hfresh k)
    · rcases (hmem k c').mp hk with ⟨-, rfl⟩ | hk'
      · exact absurd hj' (h.not_mem_all hfresh j)
      · exact h.disjoint j k c' hj' hk'
  · intro j
    rw [hstates]
    split
    · subst j
      rw [hconnecting]
      exact h.connects i
    · exact h.connects j
  · intro c' hc'
    have hne : c' ≠ c := fun heq => hfresh (heq ▸ (h.close_pending c' hc').1)
    refine ⟨(hd.close_pending c' hc').1, fun hopen hcur => ?_⟩
    rw [ConnPool.current, hmem] at hcur
    rcases hcur with ⟨-, heq⟩ | hcur
    · exact hne heq
    · exact (h.close_pending c' hc').2 hopen hcur

theorem resume (h : Tracking p) (x : Pending T) (hx : ∀ i, x.connectsFor i = false) :
    Tracking (p.resume x) := by
  refine { h with single_dials := ?_, connects := ?_, close_pending := ?_
                  closeState_pending := ?_ }
  · intro hmode i hi
    exact h.single_dials hmode i (List.mem_of_mem_erase hi)
  · intro i
    simp [List.countP_erase, hx i, h.connects i]
  · intro c hc
    exact h.close_pending c (List.mem_of_mem_erase hc)
  · intro i hi
    exact h.closeState_pending i (List.mem_of_mem_erase hi)

/-- The `connectSingle` of state `i` leaves the queue as the state's dial ends. -/
theorem stopConnecting (h : Tracking p) {i connect : Nat}
    (hx : .connectSingle i connect ∈ p.pending) :
    Tracking ((p.resume (.connectSingle i connect)).setState i
      { p.states i with connecting := none }) := by
  have hconnecting := h.connecting_ne_none hx
  have hi : i < p.nextState := h.lt_nextState (.inr (.inr hconnecting))
  have hstates : ∀ j, ((p.resume (.connectSingle i connect)).setState i
      { p.states i with connecting := none }).states j =
      if j = i then { p.states i with connecting := none } else p.states j :=
    fun j => Function.update_apply _ _ _ j
  have hall : ∀ j, (((p.resume (.connectSingle i connect)).setState i
      { p.states i with connecting := none }).states j).all = (p.states j).all := by
    intro j
    rw [hstates]
    split <;> simp_all
  refine { h with states := ?_, unused := ?_, disjoint := ?_, single_dials := ?_
                  connects := ?_, close_pending := ?_, closeState_pending := ?_ }
  · intro j
    rw [hstates]
    split
    · exact (h.states i).stopConnecting
    · exact h.states j
  · intro j hj
    rw [hstates, if_neg (by simp at hj; omega)]
    exact h.unused j hj
  · intro j k c hj hk
    rw [hall] at hj hk
    exact h.disjoint j k c hj hk
  · intro hmode j hj
    exact h.single_dials hmode j (List.mem_of_mem_erase hj)
  · intro j
    have hcount := h.connects j
    rw [hstates]
    split
    · subst j
      rw [if_neg hconnecting] at hcount
      simp [List.countP_erase, hx, Pending.connectsFor, hcount]
    · rename_i hj
      simp [List.countP_erase, Pending.connectsFor, Ne.symm hj, hcount]
  · intro c hc
    have hc' := h.close_pending c (List.mem_of_mem_erase hc)
    refine ⟨hc'.1, fun hopen hcur => hc'.2 hopen ?_⟩
    rw [ConnPool.current, hall] at hcur
    exact hcur
  · intro j hj
    exact h.closeState_pending j (List.mem_of_mem_erase hj)

end Tracking

end SingBox.DNSTransport
