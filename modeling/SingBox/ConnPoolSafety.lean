import SingBox.ConnPoolTracking

/-!
# The connection pool over every interleaving

What `ConnPool` keeps from `NewConnPool` on, whatever the order of calls, dial completions and
`IsAlive` answers.

* `options.Close` is never called on the current state's shared connection or on a connection
  in its idle list: a queued close names a connection the current state no longer tracks, and a
  queued `closeState` a state that is no longer current, whose connections no other state tracks.
* No connection is lost: each one a dial returned has been closed, or has a close queued, or is
  tracked by the current state, or by a replaced state whose `closeState` is queued
  (`Accounted`). So once the pool is closed and only waiters are left, every one has been
  closed. With a release's close still queued it may not have been, even after `Close` returned
  and every dial ended (`releaseThenClose_unclosed`).
* A state of single mode has at most one dial at a time, and exactly the first hand-out of each
  shared connection has `created` set, so `UDPTransport` starts one `recvLoop` per connection
  (`count_created_of_run`).

`Inv` is the books of `ConnPoolTracking` with `Accounted`; one lemma per section of the source
keeps it, and from them the step lemma `Inv.step` and the run lemma `Inv.run`.
-/

namespace SingBox.DNSTransport

open ConnPoolMode

variable {T : Type}

/-- A dialed connection is closed, or will be by a queued close or `closeState`, or is tracked by
the current state. -/
def Accounted (p : ConnPool T) (c : T) : Prop :=
  c ∈ p.closedConns ∨ .close c ∈ p.pending ∨ (p.closed = false ∧ c ∈ p.current.all) ∨
    ∃ i, .closeState i ∈ p.pending ∧ c ∈ (p.states i).all

/-- The invariant of the pool: its books, and no dialed connection lost. -/
structure Inv (p : ConnPool T) : Prop extends Tracking p where
  accounted : ∀ c ∈ p.dialed, Accounted p c

/-- `conn` is neither the current state's shared connection nor in its idle list; a closed pool
has no current state. -/
def ConnPool.CloseSafe (p : ConnPool T) (conn : T) : Prop :=
  p.closed = false → p.current.shared ≠ some conn ∧ conn ∉ p.current.idle

theorem Accounted.mono {p q : ConnPool T} {c : T} (h : Accounted p c)
    (hall : ∀ i, (p.states i).all ⊆ (q.states i).all) (hclosed : q.closed = p.closed)
    (hstate : q.state = p.state) (hclose : .close c ∈ p.pending → .close c ∈ q.pending)
    (hcloseState : ∀ i, .closeState i ∈ p.pending → .closeState i ∈ q.pending)
    (hclosedConns : p.closedConns ⊆ q.closedConns) : Accounted q c := by
  have hcur : p.current.all ⊆ q.current.all := by
    rw [ConnPool.current, ConnPool.current, hstate]
    exact hall p.state
  rcases h with h | h | ⟨hopen, hc⟩ | ⟨i, hi, hc⟩
  · exact .inl (hclosedConns h)
  · exact .inr (.inl (hclose h))
  · exact .inr (.inr (.inl ⟨hclosed.trans hopen, hcur hc⟩))
  · exact .inr (.inr (.inr ⟨i, hcloseState i hi, hall i hc⟩))

theorem Accounted.cons {p : ConnPool T} {c : T} (h : Accounted p c) (x : Pending T) :
    Accounted { p with pending := x :: p.pending } c :=
  h.mono (fun _ => subset_rfl) rfl rfl (List.mem_cons_of_mem _) (fun _ => List.mem_cons_of_mem _)
    subset_rfl

theorem Accounted.queueCloseState {p q : ConnPool T} {c : T} (h : Accounted p c)
    (hall : ∀ i, (p.states i).all ⊆ (q.states i).all)
    (hpending : q.pending = .closeState p.state :: p.pending)
    (hclosedConns : p.closedConns ⊆ q.closedConns) : Accounted q c := by
  rcases h with h1 | h2 | ⟨-, h3⟩ | ⟨i, hi, h4⟩
  · exact .inl (hclosedConns h1)
  · exact .inr (.inl (hpending ▸ List.mem_cons_of_mem _ h2))
  · exact .inr (.inr (.inr ⟨p.state, hpending ▸ List.mem_cons_self .., hall _ h3⟩))
  · exact .inr (.inr (.inr ⟨i, hpending ▸ List.mem_cons_of_mem _ hi, hall i h4⟩))

namespace Inv

variable {p : ConnPool T}

theorem initial (mode : ConnPoolMode) : Inv (NewConnPool mode : ConnPool T) where
  states _ := StateInv.new
  unused _ _ := rfl
  state_lt := Nat.zero_lt_one
  disjoint := by simp [NewConnPool, newConnPoolState]
  returned_sub := by simp [NewConnPool]
  firstClaims := trivial
  single_dials := by simp [NewConnPool]
  connects := by simp [NewConnPool, newConnPoolState]
  close_pending := by simp [NewConnPool]
  closeState_pending := by simp [NewConnPool]
  accounted := by simp [NewConnPool]

theorem closeLater (h : Inv p) {c : T} (hc : c ∈ p.dialed)
    (huntracked : p.closed = false → c ∉ p.current.all) : Inv (p.closeLater c) where
  toTracking := h.toTracking.closeLater hc huntracked
  accounted c' hc' := (h.accounted c' hc').cons _

theorem setCurrent (h : Inv p) {s : connPoolState T}
    (hs : StateInv p.mode p.dialed p.returned s) (hall : s.all = p.current.all)
    (hconnecting : s.connecting = p.current.connecting) : Inv (p.setState p.state s) where
  toTracking := h.toTracking.setState h.state_lt hs (by rw [hall]; rfl) hconnecting
  accounted c hc := (h.accounted c hc).mono (all_subset_setState (by rw [hall]; rfl)) rfl rfl id
    (fun _ => id) subset_rfl

theorem wait (h : Inv p) (i connect : Nat) :
    Inv { p with pending := .waiter i connect :: p.pending } where
  toTracking := h.toTracking.wait i connect
  accounted c hc := (h.accounted c hc).cons _

theorem dialOrdered (h : Inv p) (hmode : p.mode = ConnPoolOrdered) (i : Nat) :
    Inv { p with pending := .dialOrdered i :: p.pending } where
  toTracking := h.toTracking.dialOrdered hmode i
  accounted c hc := (h.accounted c hc).cons _

theorem startDial (h : Inv p) (hmode : p.mode = ConnPoolSingle)
    (hshared : p.current.shared = none) (hconnecting : p.current.connecting = none)
    (connect : Nat) :
    Inv { p.setState p.state { p.current with connecting := some connect } with
      connects := Function.update p.connects connect ⟨false, false⟩
      nextConnect := connect + 1
      pending := .waiter p.state connect :: .connectSingle p.state connect :: p.pending } where
  toTracking := h.toTracking.startDial hmode hshared hconnecting connect
  accounted c hc := (h.accounted c hc).mono (all_subset_setState subset_rfl) rfl rfl
    (fun hx => List.mem_cons_of_mem _ (List.mem_cons_of_mem _ hx))
    (fun _ hx => List.mem_cons_of_mem _ (List.mem_cons_of_mem _ hx)) subset_rfl

theorem claim (h : Inv p) {i : Nat} {c : T} (hshared : (p.states i).shared = some c) :
    Inv (p.claim i c) where
  toTracking := h.toTracking.claim hshared
  accounted c' hc' := (h.accounted c' hc').mono (fun j => (all_claim p i c j).symm.subset) rfl rfl
    id (fun _ => id) subset_rfl

theorem finishConnect (h : Inv p) (connect : Nat) (err : Bool) : Inv (p.finishConnect connect err) :=
  { h with }

theorem Reset (h : Inv p) : Inv p.Reset := by
  unfold ConnPool.Reset
  split
  · exact h
  · rename_i hopen
    have hupdate : Function.update p.states p.nextState newConnPoolState = p.states :=
      Function.update_eq_self_iff.mpr (h.unused _ le_rfl).symm
    simp only [hupdate]
    refine ⟨{ h with unused := ?_, state_lt := Nat.lt_succ_self _, single_dials := ?_
                     connects := ?_, close_pending := ?_, closeState_pending := ?_ }, ?_⟩
    · intro i hi
      exact h.unused i (Nat.le_of_succ_le hi)
    · intro hmode i hi
      simp only [List.mem_cons, reduceCtorEq, false_or] at hi
      exact h.single_dials hmode i hi
    · intro i
      simp [Pending.connectsFor, h.connects i]
    · intro c hc
      simp only [List.mem_cons, reduceCtorEq, false_or] at hc
      refine ⟨(h.close_pending c hc).1, fun _ => ?_⟩
      simp [ConnPool.current, h.unused p.nextState le_rfl, newConnPoolState]
    · intro i hi
      have hlt := h.state_lt
      dsimp only
      rcases List.mem_cons.mp hi with hi | hi
      · cases hi
        exact ⟨by omega, fun _ => by omega⟩
      · have := (h.closeState_pending i hi).1
        exact ⟨by omega, fun _ => by omega⟩
    · intro c hc
      exact (h.accounted c hc).queueCloseState (fun _ => subset_rfl) rfl subset_rfl

theorem Close (h : Inv p) : Inv p.Close := by
  unfold ConnPool.Close
  split
  · exact h
  · refine ⟨{ h with single_dials := ?_, connects := ?_, close_pending := ?_
                     closeState_pending := ?_ }, ?_⟩
    · intro hmode i hi
      simp only [List.mem_cons, reduceCtorEq, false_or] at hi
      exact h.single_dials hmode i hi
    · intro i
      simp [Pending.connectsFor, h.connects i]
    · intro c hc
      simp only [List.mem_cons, reduceCtorEq, false_or] at hc
      exact ⟨(h.close_pending c hc).1, fun hopen => Bool.noConfusion hopen⟩
    · intro i hi
      rcases List.mem_cons.mp hi with hi | hi
      · cases hi
        exact ⟨h.state_lt, fun hopen => Bool.noConfusion hopen⟩
      · exact ⟨(h.closeState_pending i hi).1, fun hopen => Bool.noConfusion hopen⟩
    · intro c hc
      exact (h.accounted c hc).queueCloseState (fun _ => subset_rfl) rfl subset_rfl

theorem dialed_subset_closedConns (h : Inv p) (hclosed : p.closed = true)
    (hwaiters : ∀ x ∈ p.pending, x.isWaiter = true) : p.dialed ⊆ p.closedConns := by
  intro c hc
  rcases h.accounted c hc with h1 | h2 | ⟨hopen, -⟩ | ⟨i, hi, -⟩
  · exact h1
  · exact absurd (hwaiters _ h2) (by simp [Pending.isWaiter])
  · exact absurd (hclosed.symm.trans hopen) nofun
  · exact absurd (hwaiters _ hi) (by simp [Pending.isWaiter])

theorem countP_dialsFor_le_one (h : Inv p) (hmode : p.mode = ConnPoolSingle) (i : Nat) :
    p.pending.countP (Pending.dialsFor i) ≤ 1 := by
  have hsame : p.pending.countP (Pending.dialsFor i) =
      p.pending.countP (Pending.connectsFor i) := by
    apply List.countP_congr
    intro x hx
    cases x with
    | dialOrdered j =>
      simp only [Pending.dialsFor, Pending.connectsFor, beq_iff_eq, Bool.false_eq_true,
        iff_false]
      rintro rfl
      exact h.single_dials hmode _ hx
    | _ => simp [Pending.dialsFor, Pending.connectsFor]
  rw [hsame, h.connects i]
  split <;> omega

variable [DecidableEq T]

/-- A tracked connection of the current state leaves it, and is closed after the section. -/
theorem removeLater (h : Inv p) (hopen : p.closed = false) {c : T} (hc : c ∈ p.current.all) :
    Inv ((p.setState p.state (p.removeConn p.current c)).closeLater c) := by
  have hsub : (p.removeConn p.current c).all ⊆ p.current.all := by
    rw [ConnPool.removeConn_all]
    exact Finset.erase_subset c _
  have hremoved : Tracking (p.setState p.state (p.removeConn p.current c)) :=
    h.toTracking.setState h.state_lt (h.current_inv.removeConn c) hsub
      (ConnPool.removeConn_connecting _ _ _)
  refine ⟨hremoved.closeLater (h.current_inv.all_sub hc) ?_, ?_⟩
  · intro _
    rw [ConnPool.setState_current, ConnPool.removeConn_all]
    exact Finset.notMem_erase c _
  · intro c' hc'
    by_cases hne : c' = c
    · exact .inr (.inl (hne ▸ List.mem_cons_self ..))
    rcases h.accounted c' hc' with h1 | h2 | ⟨hopen', hcur'⟩ | ⟨i, hi, hci⟩
    · exact .inl h1
    · exact .inr (.inl (List.mem_cons_of_mem _ h2))
    · refine .inr (.inr (.inl ⟨hopen', ?_⟩))
      rw [ConnPool.closeLater_current, ConnPool.setState_current, ConnPool.removeConn_all]
      exact Finset.mem_erase.mpr ⟨hne, hcur'⟩
    · have hi' : i ≠ p.state := (h.closeState_pending i hi).2 hopen
      refine .inr (.inr (.inr ⟨i, List.mem_cons_of_mem _ hi, ?_⟩))
      simp only [ConnPool.closeLater_states, ConnPool.setState_states,
        Function.update_of_ne hi']
      exact hci

theorem dialClose (h : Inv p) {c : T} (hfresh : c ∉ p.dialed) : Inv ((p.dial c).closeLater c) where
  toTracking := (h.toTracking.dial c).closeLater (Finset.mem_insert_self c _)
    (fun _ => h.not_mem_all hfresh _)
  accounted c' hc' := by
    rcases Finset.mem_insert.mp hc' with rfl | hc'
    · exact .inr (.inl (List.mem_cons_self ..))
    · exact (h.accounted c' hc').cons _

theorem install (h : Inv p) (hopen : p.closed = false) {c : T} (hfresh : c ∉ p.dialed)
    {s : connPoolState T} (hs : StateInv p.mode (insert c p.dialed) p.returned s)
    (hall : s.all = insert c p.current.all) (hconnecting : s.connecting = p.current.connecting) :
    Inv ((p.dial c).setState p.state s) where
  toTracking := h.toTracking.install hfresh h.state_lt hs hall hconnecting
  accounted c' hc' := by
    rcases Finset.mem_insert.mp hc' with rfl | hc'
    · refine .inr (.inr (.inl ⟨hopen, ?_⟩))
      simp [ConnPool.current, hall]
    · exact (h.accounted c' hc').mono
        (all_subset_setState (by rw [hall]; exact Finset.subset_insert _ _)) rfl rfl id
        (fun _ => id) subset_rfl

theorem resume (h : Inv p) (x : Pending T) (hx : ∀ i, x.connectsFor i = false)
    (hclose : ∀ c, x ≠ .close c) (hcloseState : ∀ i, x ≠ .closeState i) : Inv (p.resume x) where
  toTracking := h.toTracking.resume x hx
  accounted c hc := (h.accounted c hc).mono (fun _ => subset_rfl) rfl rfl
    (List.mem_erase_of_ne (hclose c).symm).mpr
    (fun i => (List.mem_erase_of_ne (hcloseState i).symm).mpr) subset_rfl

theorem stopConnecting (h : Inv p) {i connect : Nat}
    (hx : .connectSingle i connect ∈ p.pending) :
    Inv ((p.resume (.connectSingle i connect)).setState i
      { p.states i with connecting := none }) where
  toTracking := h.toTracking.stopConnecting hx
  accounted c hc := (h.accounted c hc).mono (all_subset_setState subset_rfl) rfl rfl
    (List.mem_erase_of_ne (by simp)).mpr (fun _ => (List.mem_erase_of_ne (by simp)).mpr) subset_rfl

theorem closeConn (h : Inv p) (c : T) : Inv (p.closeConn c) where
  toTracking := { h.toTracking.resume (.close c) (fun _ => rfl) with }
  accounted c' hc' := by
    by_cases hne : c' = c
    · subst hne
      exact .inl (Finset.mem_insert_self c' _)
    · exact (h.accounted c' hc').mono (fun _ => subset_rfl) rfl rfl
        (List.mem_erase_of_ne (by simpa using hne)).mpr
        (fun _ => (List.mem_erase_of_ne (by simp)).mpr) (Finset.subset_insert _ _)

theorem closeState (h : Inv p) (i : Nat) : Inv (p.closeState i) where
  toTracking := { h.toTracking.resume (.closeState i) (fun _ => rfl) with }
  accounted c hc := by
    rcases h.accounted c hc with h1 | h2 | h3 | ⟨j, hj, h4⟩
    · exact .inl (Finset.mem_union_left _ h1)
    · exact .inr (.inl ((List.mem_erase_of_ne (by simp)).mpr h2))
    · exact .inr (.inr (.inl h3))
    · by_cases hji : j = i
      · subst j
        exact .inl (Finset.mem_union_right _ h4)
      · exact .inr (.inr (.inr ⟨j, List.mem_erase_of_ne (by simpa using hji) |>.mpr hj, h4⟩))

/-! ### The sections -/

theorem Release (h : Inv p) {c : T} (hc : c ∈ p.dialed) (reuse alive : Bool) :
    Inv (p.Release c reuse alive) := by
  unfold ConnPool.Release
  split
  · rename_i hclosed
    exact h.closeLater hc (fun hopen => absurd (hopen.symm.trans hclosed) nofun)
  · rename_i hopen
    rw [Bool.not_eq_true] at hopen
    dsimp only
    split
    · rename_i huntracked
      exact h.closeLater hc (fun _ => huntracked)
    · rename_i htracked
      rw [not_not] at htracked
      split
      · exact h.removeLater hopen htracked
      · split
        · rename_i hpush
          exact h.setCurrent (h.current_inv.pushIdle hpush.1 htracked hpush.2) rfl rfl
        · exact h

theorem Invalidate (h : Inv p) {c : T} (hc : c ∈ p.dialed) : Inv (p.Invalidate c) := by
  unfold ConnPool.Invalidate
  split
  · rename_i hclosed
    exact h.closeLater hc (fun hopen => absurd (hopen.symm.trans hclosed) nofun)
  · rename_i hopen
    rw [Bool.not_eq_true] at hopen
    dsimp only
    split
    · exact h
    · rename_i htracked
      rw [not_not] at htracked
      exact h.removeLater hopen htracked

theorem removeConn_of_idle_eq_cons (hmode : p.mode = ConnPoolOrdered) {s : connPoolState T}
    {c : T} {rest : List T} (hidle : s.idle = c :: rest) :
    p.removeConn s c = { s with idle := rest, all := s.all.erase c } := by
  unfold ConnPool.removeConn
  rw [hmode]
  simp [hidle]

theorem acquireOrdered (h : Inv p) (hmode : p.mode = ConnPoolOrdered) (alive : Bool) :
    Inv (p.acquireOrdered alive) := by
  unfold ConnPool.acquireOrdered
  split
  · exact h
  · rename_i hopen
    rw [Bool.not_eq_true] at hopen
    dsimp only
    split
    · rename_i idleConn rest hidle
      split
      · exact h.setCurrent (h.current_inv.popIdle hidle) rfl rfl
      · rw [← removeConn_of_idle_eq_cons hmode hidle]
        exact h.removeLater hopen (h.current_inv.idle_sub idleConn (by simp [hidle]))
    · exact h.dialOrdered hmode p.state

theorem dialAndInstall (h : Inv p) (i : Nat) {conn : Option T} (hfresh : p.Fresh conn = true)
    (dialErr : Bool) : Inv (p.dialAndInstall i conn dialErr) := by
  have hr : Inv (p.resume (.dialOrdered i)) := h.resume _ (fun _ => rfl) nofun nofun
  unfold ConnPool.dialAndInstall
  cases conn with
  | none => exact hr
  | some c =>
    have hc : c ∉ (p.resume (.dialOrdered i)).dialed := by simpa [ConnPool.Fresh] using hfresh
    dsimp only
    split
    · exact hr.dialClose hc
    · split
      · exact hr.dialClose hc
      · split
        · exact hr.dialClose hc
        · rename_i hopen hstate
          rw [Bool.not_eq_true] at hopen
          have hi : p.state = i := not_not.mp hstate
          subst hi
          exact hr.install hopen hc (hr.current_inv.install c) rfl rfl

theorem acquireShared (h : Inv p) (hmode : p.mode = ConnPoolSingle) (alive : Bool) :
    Inv (p.acquireShared alive) := by
  unfold ConnPool.acquireShared
  split
  · exact h
  · rename_i hopen
    rw [Bool.not_eq_true] at hopen
    dsimp only
    split
    · rename_i c hshared
      split
      · exact h.claim hshared
      · exact h.removeLater hopen (h.current_inv.shared_mem c hshared)
    · rename_i hshared
      split
      · rename_i hconnecting
        exact h.startDial hmode hshared hconnecting _
      · exact h.wait _ _

theorem connectSingle (h : Inv p) {i connect : Nat} (hx : .connectSingle i connect ∈ p.pending)
    {conn : Option T} (hfresh : p.Fresh conn = true) (dialErr : Bool) :
    Inv (p.connectSingle i connect conn dialErr) := by
  have hconnecting := h.connecting_ne_none hx
  have hshared : (p.states i).shared = none := (h.states i).connecting hconnecting
  have hmode : p.mode = ConnPoolSingle := by
    cases hm : p.mode
    · rfl
    · exact absurd ((h.states i).ordered hm).2 hconnecting
  have hs := h.stopConnecting hx
  unfold ConnPool.connectSingle
  cases conn with
  | none => exact hs.finishConnect _ _
  | some c =>
    have hc : c ∉ p.dialed := by simpa [ConnPool.Fresh] using hfresh
    dsimp only
    split
    · exact (hs.dialClose hc).finishConnect _ _
    · rename_i hcond
      simp only [Bool.or_eq_true, bne_iff_ne, ne_eq, not_or, Bool.not_eq_true, not_not] at hcond
      have hopen : p.closed = false := hcond.1.2
      have hi : p.state = i := hcond.2
      subst hi
      have hreturned : c ∉ p.returned.map Prod.fst := by
        intro hmem
        obtain ⟨x, hx, rfl⟩ := List.mem_map.mp hmem
        exact hc (h.returned_sub x hx)
      simp only [ConnPool.dial_states, ConnPool.setState_states, ConnPool.resume_states,
        Function.update_self]
      refine (hs.install hopen hc ?_ ?_ ?_).finishConnect _ _
      · exact (h.states p.state).installShared hmode hshared hreturned
      · simp [ConnPool.current]
      · simp [ConnPool.current]

theorem collectShared (h : Inv p) (i connect : Nat) (alive : Bool) :
    Inv (p.collectShared i connect alive) := by
  have hr : Inv (p.resume (.waiter i connect)) := h.resume _ (fun _ => rfl) nofun nofun
  unfold ConnPool.collectShared
  dsimp only
  split
  · exact hr
  · rename_i hcond
    simp only [Bool.or_eq_true, bne_iff_ne, ne_eq, not_or, Bool.not_eq_true, not_not] at hcond
    have hopen : p.closed = false := hcond.1.2
    have hi : p.state = i := hcond.2
    subst hi
    split
    · exact hr
    · rename_i c hshared
      split
      · exact hr.claim hshared
      · exact hr.removeLater hopen (hr.current_inv.shared_mem c hshared)

/-! ### Runs -/

/-- The step lemma: every enabled action keeps the invariant. -/
theorem step (h : Inv p) {a : Action T} {p' : ConnPool T} (hstep : p.step a = some p') :
    Inv p' := by
  cases a with
  | Acquire alive =>
    cases Option.some.inj hstep
    cases hmode : p.mode with
    | ConnPoolSingle => simpa only [hmode] using h.acquireShared hmode alive
    | ConnPoolOrdered => simpa only [hmode] using h.acquireOrdered hmode alive
  | AcquireShared alive =>
    cases Option.some.inj hstep
    split
    · exact h.acquireShared ‹_› alive
    · exact h
  | Reset =>
    cases Option.some.inj hstep
    exact h.Reset
  | Close =>
    cases Option.some.inj hstep
    exact h.Close
  | Release c reuse alive =>
    obtain ⟨hc, hp⟩ := Option.ite_none_right_eq_some.mp hstep
    cases Option.some.inj hp
    exact h.Release hc reuse alive
  | Invalidate c =>
    obtain ⟨hc, hp⟩ := Option.ite_none_right_eq_some.mp hstep
    cases Option.some.inj hp
    exact h.Invalidate hc
  | dialed i conn dialErr =>
    obtain ⟨⟨-, hfresh⟩, hp⟩ := Option.ite_none_right_eq_some.mp hstep
    cases Option.some.inj hp
    exact h.dialAndInstall i hfresh dialErr
  | connected i connect conn dialErr =>
    obtain ⟨⟨hx, hfresh⟩, hp⟩ := Option.ite_none_right_eq_some.mp hstep
    cases Option.some.inj hp
    exact h.connectSingle hx hfresh dialErr
  | done i connect alive =>
    obtain ⟨-, hp⟩ := Option.ite_none_right_eq_some.mp hstep
    cases Option.some.inj hp
    exact h.collectShared i connect alive
  | cancelled i connect =>
    obtain ⟨-, hp⟩ := Option.ite_none_right_eq_some.mp hstep
    cases Option.some.inj hp
    exact h.resume _ (fun _ => rfl) nofun nofun
  | close c =>
    obtain ⟨-, hp⟩ := Option.ite_none_right_eq_some.mp hstep
    cases Option.some.inj hp
    exact h.closeConn c
  | closeState i =>
    obtain ⟨-, hp⟩ := Option.ite_none_right_eq_some.mp hstep
    cases Option.some.inj hp
    exact h.closeState i

/-- The run lemma: the invariant holds after every run from a pool that has it. -/
theorem run (h : Inv p) {actions : List (Action T)} {p' : ConnPool T}
    (hrun : p.run actions = some p') : Inv p' := by
  induction actions generalizing p with
  | nil =>
    cases Option.some.inj hrun
    exact h
  | cons a actions ih =>
    obtain ⟨q, hq, hrun'⟩ := Option.bind_eq_some_iff.mp hrun
    exact ih (h.step hq) hrun'

/-! ### What the invariant gives -/

theorem closes_safe (h : Inv p) {a : Action T} {p' : ConnPool T} (hstep : p.step a = some p') :
    ∀ c ∈ p.closes a, p.CloseSafe c := by
  intro c hc hopen
  have hsafe : c ∉ p.current.all → p.current.shared ≠ some c ∧ c ∉ p.current.idle :=
    fun huntracked => ⟨h.current_inv.shared_ne huntracked, h.current_inv.not_mem_idle huntracked⟩
  cases a with
  | close c' =>
    simp only [ConnPool.closes, Finset.mem_singleton] at hc
    subst hc
    obtain ⟨hx, -⟩ := Option.ite_none_right_eq_some.mp hstep
    exact hsafe ((h.close_pending c hx).2 hopen)
  | closeState i =>
    simp only [ConnPool.closes] at hc
    obtain ⟨hx, -⟩ := Option.ite_none_right_eq_some.mp hstep
    have hi : i ≠ p.state := (h.closeState_pending i hx).2 hopen
    exact hsafe fun hcur => hi (h.disjoint i p.state c hc hcur)
  | _ => simp [ConnPool.closes] at hc

end Inv

variable [DecidableEq T]

/-- What the pool promises its callers at every point of a run. -/
structure Safe (p : ConnPool T) : Prop where
  /-- Every connection an enabled action passes to `options.Close` is safe to close. -/
  closes : ∀ a p', p.step a = some p' → ∀ c ∈ p.closes a, p.CloseSafe c
  /-- Once closed, with no call left but waiters, every dialed connection has been closed. -/
  closed : p.closed = true → (∀ x ∈ p.pending, x.isWaiter = true) → p.dialed ⊆ p.closedConns
  /-- A state of single mode has at most one dial in progress. -/
  dials : p.mode = ConnPoolSingle → ∀ i, p.pending.countP (Pending.dialsFor i) ≤ 1
  /-- Exactly the first hand-out of each shared connection has `created` set. -/
  created : FirstClaims p.returned

theorem Inv.safe {p : ConnPool T} (h : Inv p) : Safe p where
  closes _ _ hstep := h.closes_safe hstep
  closed := h.dialed_subset_closedConns
  dials := h.countP_dialsFor_le_one
  created := h.firstClaims


/-- A shared connection handed out twice, then the pool closed. -/
def sharedTwice : List (Action Nat) :=
  [.AcquireShared true, .connected 0 0 (some 5) false, .done 0 0 true, .AcquireShared true, .Close,
    .closeState 0]

/-- Over every run from `NewConnPool`, in either mode: `options.Close` is never called on the
current state's shared or idle connections, once the pool is closed and every call but the
waiters has returned no dialed connection is left unclosed, a state of single mode has at most
one dial in progress, and the first hand-out of each shared connection, and only it, has
`created` set. -/
theorem run_NewConnPool_safe (mode : ConnPoolMode) (actions : List (Action T)) (p : ConnPool T)
    (hrun : (NewConnPool mode).run actions = some p) : Safe p :=
  ((Inv.initial mode).run hrun).safe

theorem run_NewConnPool_safe_sharedTwice :
    ∃ p, (NewConnPool ConnPoolSingle : ConnPool Nat).run sharedTwice = some p ∧ Safe p := by
  obtain ⟨p, hp⟩ := Option.isSome_iff_exists.mp
    (show ((NewConnPool ConnPoolSingle : ConnPool Nat).run sharedTwice).isSome = true by decide)
  exact ⟨p, hp, run_NewConnPool_safe ConnPoolSingle sharedTwice p hp⟩

/-- `UDPTransport.exchange` starts a `recvLoop` for each hand-out with `created` set: over every
run, one for each shared connection handed out and none for any other. -/
theorem count_created_of_run (mode : ConnPoolMode) (actions : List (Action T)) (p : ConnPool T)
    (hrun : (NewConnPool mode).run actions = some p) (c : T) :
    p.returned.count (c, true) = if c ∈ p.returned.map Prod.fst then 1 else 0 :=
  ((Inv.initial mode).run hrun).firstClaims.count_created c

example :
    ((NewConnPool ConnPoolSingle : ConnPool Nat).run sharedTwice).map ConnPool.returned =
      some [(5, false), (5, true)] := by
  decide

/-- A release that has unlocked but not yet called `options.Close` when `Close` runs. -/
def releaseThenClose : List (Action Nat) :=
  [.Acquire true, .dialed 0 (some 7) false, .Release 7 false true, .Close, .closeState 0]

/-- After this run `Close` has returned and no dial or `closeState` is left, yet the connection
the dial returned has not been passed to `options.Close`: the release's close is still queued. -/
theorem releaseThenClose_unclosed :
    ∃ p, (NewConnPool ConnPoolOrdered : ConnPool Nat).run releaseThenClose = some p ∧
      p.closed = true ∧ p.pending = [.close 7] ∧ 7 ∈ p.dialed ∧ 7 ∉ p.closedConns := by
  refine ⟨_, rfl, ?_⟩
  decide

end SingBox.DNSTransport
