import SingBox.OutboundManager
import SingBox.DependencyOrder

/-!
# The start order of the outbound manager

What `startOutbounds` does with the start list `L`. A pass of `startOne` starts elements
whose dependencies are started, each once, in dependency order (`startOne_pass`); between
passes the started tags are the tags of the elements started so far (`Started`). The loop
always ends: it never runs out of fuel. It returns `nil` exactly when `L` is closed under
dependencies and acyclic, provided its tags are distinct and every start succeeds
(`startOutbounds_ok_iff`), and then every element has started once, after its dependencies
(`startOutbounds_ok`). Its errors say what they report (`startOutbounds_accurate`), with two
exceptions of the code: the walk of the diagnosis resolves tags in the outbound map only, so a
dependency on an endpoint is reported as not found (`startOutbounds_notFound_endpoint`); and the
loop compares the number of started tags with the number of elements, so two elements with one
tag leave no unstarted element to diagnose, and the nil `currentOutbound` panics.

A manager built by `Create` keeps its map in agreement with its list (`Consistent`); its start
stage runs the loop over the outbounds, the fallback when it adds one, and the endpoints
(`Start_start`), so the loop's results carry over to it (`Start_ok`, `Start_accurate`), also
after the initialize stage that `box.go` runs first (`Start_after_initialize`). The
fallback is tagged `direct` whatever the endpoints are tagged, which gives the two elements
under one tag.
-/

namespace SingBox

namespace OutboundManager

open DependencyOrder

/-- An element of `L` with tag `x` depends on `y`. -/
def DependsOn (L : List Outbound) : String → String → Prop :=
  DependencyOrder.DependsOn Outbound.Tag Outbound.Dependencies L

/-- The map resolves a tag only to an element of `L` with that tag. -/
def Indexes (byTag : List (String × Outbound)) (L : List Outbound) : Prop :=
  ∀ k o, byTag.lookup k = some o → o.Tag = k ∧ o ∈ L

/-- What an error of `startOutbounds` over `L` with the map `byTag` says about them. -/
def Accurate (L : List Outbound) (byTag : List (String × Outbound)) : Failure → Prop
  | .cause err context =>
    ∃ o ∈ L, o.Start .StartStateStart = .error err ∧ context = "start " ++ o.name
  | .circular oTree problemOutboundTag =>
    (oTree ++ [problemOutboundTag]).IsChain (DependsOn L) ∧ problemOutboundTag ∈ oTree
  | .notFound problemOutboundTag tag =>
    byTag.lookup problemOutboundTag = none ∧ DependsOn L tag problemOutboundTag
  | .panic value => value = nilPointerDereference ∧ ¬ (L.map Outbound.Tag).Nodup
  | .new _ => False
  | .outOfFuel => False

/-! ### One pass -/

/-- What one `startOne` pass over `L` does: from the started tags `started` to `started'`,
with the elements `newly` it started. -/
structure Pass (L : List Outbound) (started started' : List String) (newly : List Outbound) :
    Prop where
  appended : started' = started ++ newly.map Outbound.Tag
  ordered : Ordered Outbound.Tag Outbound.Dependencies started newly
  mem : ∀ o ∈ newly, o ∈ L
  nodup : started.Nodup → started'.Nodup
  /-- An element the pass leaves unstarted waits for a dependency that was not started
  before the pass. -/
  blocked : ∀ o ∈ L, o.Tag ∈ started' ∨ ∃ d ∈ o.Dependencies, d ∉ started

namespace Pass

variable {L : List Outbound} {started started' : List String} {newly : List Outbound}
  {o : Outbound}

theorem nil (started : List String) : Pass [] started started [] :=
  ⟨by simp, trivial, by simp, id, by simp⟩

theorem skip (hp : Pass L started started' newly)
    (hskip : o.Tag ∈ started ∨ ∃ d ∈ o.Dependencies, d ∉ started) :
    Pass (o :: L) started started' newly where
  appended := hp.appended
  ordered := hp.ordered
  mem o ho := List.mem_cons_of_mem _ (hp.mem o ho)
  nodup := hp.nodup
  blocked := by
    intro o' ho'
    rcases List.mem_cons.mp ho' with rfl | ho'
    · rcases hskip with hin | hwait
      · exact .inl (hp.appended ▸ List.mem_append_left _ hin)
      · exact .inr hwait
    · exact hp.blocked o' ho'

theorem start (hp : Pass L (started ++ [o.Tag]) started' newly) (hfresh : o.Tag ∉ started)
    (hready : ∀ d ∈ o.Dependencies, d ∈ started) :
    Pass (o :: L) started started' (o :: newly) where
  appended := by simp [hp.appended]
  ordered := ⟨hready, hp.ordered⟩
  mem o' ho' := by
    rcases List.mem_cons.mp ho' with rfl | ho'
    · exact List.mem_cons_self
    · exact List.mem_cons_of_mem _ (hp.mem o' ho')
  nodup hs := hp.nodup (List.nodup_append.mpr ⟨hs, List.nodup_singleton _, by
    rintro a ha b hb rfl
    exact hfresh (List.mem_singleton.mp hb ▸ ha)⟩)
  blocked := by
    intro o' ho'
    rcases List.mem_cons.mp ho' with rfl | ho'
    · exact .inl (by simp [hp.appended])
    · rcases hp.blocked o' ho' with hin | ⟨d, hd, hwait⟩
      · exact .inl hin
      · exact .inr ⟨d, hd, fun hin => hwait (List.mem_append_left _ hin)⟩

theorem length_lt (hp : Pass L started started' newly) (hnew : newly ≠ []) :
    started.length < started'.length := by
  have : newly.length ≠ 0 := by simpa using hnew
  rw [hp.appended, List.length_append, List.length_map]
  omega

theorem eq_of_nil (hp : Pass L started started' []) : started' = started := by
  simpa using hp.appended

end Pass

theorem startOne_pass {L : List Outbound} {started started' : List String}
    {newly : List Outbound} (h : startOne L started = .ok (started', newly)) :
    Pass L started started' newly := by
  induction L generalizing started started' newly with
  | nil =>
    simp only [startOne, Except.ok.injEq, Prod.mk.injEq] at h
    obtain ⟨rfl, rfl⟩ := h
    exact Pass.nil started
  | cons o L ih =>
    by_cases hin : o.Tag ∈ started
    · rw [startOne, if_pos hin] at h
      exact (ih h).skip (.inl hin)
    by_cases hready : o.Dependencies.all (· ∈ started)
    · rw [startOne, if_neg hin, if_pos hready] at h
      cases hs : o.Start .StartStateStart with
      | error err => simp [hs] at h
      | ok u =>
        cases hrest : startOne L (started ++ [o.Tag]) with
        | error e => simp [hs, hrest, Except.map] at h
        | ok r =>
          obtain ⟨started'', rest⟩ := r
          simp only [hs, hrest, Except.map, Except.ok.injEq, Prod.mk.injEq] at h
          obtain ⟨rfl, rfl⟩ := h
          exact (ih hrest).start hin (by simpa using hready)
    · rw [startOne, if_neg hin, if_neg hready] at h
      refine (ih h).skip (.inr ?_)
      simpa using hready

/-- A pass stops only at an element whose start fails. -/
theorem startOne_error {L : List Outbound} {started : List String} {e : Failure}
    (h : startOne L started = .error e) :
    ∃ o ∈ L, ∃ err, o.Start .StartStateStart = .error err ∧
      e = .cause err ("start " ++ o.name) := by
  induction L generalizing started with
  | nil => simp [startOne] at h
  | cons o L ih =>
    have hrest : ∀ s, startOne L s = .error e → ∃ o' ∈ o :: L, ∃ err,
        o'.Start .StartStateStart = .error err ∧ e = .cause err ("start " ++ o'.name) := by
      intro s hs
      obtain ⟨o', ho', hstart⟩ := ih hs
      exact ⟨o', List.mem_cons_of_mem _ ho', hstart⟩
    by_cases hin : o.Tag ∈ started
    · rw [startOne, if_pos hin] at h
      exact hrest _ h
    by_cases hready : o.Dependencies.all (· ∈ started)
    · rw [startOne, if_neg hin, if_pos hready] at h
      cases hs : o.Start .StartStateStart with
      | error err =>
        simp only [hs, Except.error.injEq] at h
        exact ⟨o, List.mem_cons_self, err, hs, h.symm⟩
      | ok u =>
        cases hr : startOne L (started ++ [o.Tag]) with
        | error e' =>
          simp only [hs, hr, Except.map, Except.error.injEq] at h
          exact hrest _ (h ▸ hr)
        | ok r => simp [hs, hr, Except.map] at h
    · rw [startOne, if_neg hin, if_neg hready] at h
      exact hrest _ h

theorem startOne_ok {L : List Outbound}
    (hstart : ∀ o ∈ L, o.Start .StartStateStart = .ok ()) (started : List String) :
    ∃ r, startOne L started = .ok r := by
  cases h : startOne L started with
  | ok r => exact ⟨r, rfl⟩
  | error e =>
    obtain ⟨o, ho, err, herr, -⟩ := startOne_error h
    simp [hstart o ho] at herr

/-! ### The loop -/

/-- The state between passes: the started tags are the tags of the elements started so far,
in the order they started, each once and after its dependencies. -/
structure Started (L : List Outbound) (started : List String) (log : List Outbound) : Prop where
  tags : started = log.map Outbound.Tag
  ordered : Ordered Outbound.Tag Outbound.Dependencies [] log
  nodup : started.Nodup
  mem : ∀ o ∈ log, o ∈ L

namespace Started

variable {L : List Outbound} {started started' : List String} {log newly : List Outbound}

theorem initial (L : List Outbound) : Started L [] [] :=
  ⟨rfl, trivial, List.nodup_nil, by simp⟩

theorem pass (hs : Started L started log) (hp : Pass L started started' newly) :
    Started L started' (log ++ newly) where
  tags := by rw [hp.appended, hs.tags, List.map_append]
  ordered :=
    (ordered_append [] log newly).mpr ⟨hs.ordered, by simpa [← hs.tags] using hp.ordered⟩
  nodup := hp.nodup hs.nodup
  mem o ho := by
    rcases List.mem_append.mp ho with ho | ho
    · exact hs.mem o ho
    · exact hp.mem o ho

theorem subset (hs : Started L started log) : started ⊆ L.map Outbound.Tag := by
  intro t ht
  rw [hs.tags] at ht
  obtain ⟨o, ho, rfl⟩ := List.mem_map.mp ht
  exact List.mem_map_of_mem (hs.mem o ho)

theorem length_le (hs : Started L started log) : started.length ≤ L.length := by
  simpa using (List.subperm_of_subset hs.nodup hs.subset).length_le

theorem perm (hs : Started L started log) (hlen : started.length = L.length) : log.Perm L := by
  have hnodup : log.Nodup := List.Nodup.of_map Outbound.Tag (hs.tags ▸ hs.nodup)
  have hlog : log.length = started.length := by rw [hs.tags, List.length_map]
  exact (List.subperm_of_subset hnodup hs.mem).perm_of_length_le (by omega)

theorem exists_unstarted (hs : Started L started log) (hkeys : (L.map Outbound.Tag).Nodup)
    (hne : started.length ≠ L.length) : ∃ o ∈ L, o.Tag ∉ started := by
  by_contra hall
  push Not at hall
  have hsub : L.map Outbound.Tag ⊆ started := by
    intro t ht
    obtain ⟨o, ho, rfl⟩ := List.mem_map.mp ht
    exact hall o ho
  have := (List.subperm_of_subset hkeys hsub).length_le
  rw [List.length_map] at this
  have := hs.length_le
  omega

end Started

/-- At a stall every unstarted element of `L` waits for an unstarted dependency. -/
def Stalled (L : List Outbound) (started : List String) : Prop :=
  ∀ o ∈ L, o.Tag ∉ started → ∃ d ∈ o.Dependencies, d ∉ started

theorem Pass.stalled {L : List Outbound} {started : List String}
    (hp : Pass L started started []) : Stalled L started := by
  intro o ho hfree
  rcases hp.blocked o ho with hin | hwait
  · exact absurd hin hfree
  · exact hwait

/-! ### The diagnosis -/

/-- One more tag on the walk of `lintOutbound` leaves fewer entries of the map off it. -/
theorem countP_lt_of_lookup {byTag : List (String × Outbound)} {oTree : List String}
    {p : String} {o : Outbound} (hlookup : byTag.lookup p = some o) (hp : p ∉ oTree) :
    byTag.countP (fun e => e.1 ∉ oTree ++ [p]) < byTag.countP (fun e => e.1 ∉ oTree) := by
  induction byTag with
  | nil => simp at hlookup
  | cons e byTag ih =>
    obtain ⟨k, v⟩ := e
    by_cases hk : p = k
    · subst hk
      have hle : byTag.countP (fun e => e.1 ∉ oTree ++ [p]) ≤
          byTag.countP (fun e => e.1 ∉ oTree) :=
        List.countP_mono_left (fun e _ he => by simp_all)
      rw [List.countP_cons_of_neg (by simp), List.countP_cons_of_pos (by simpa using hp)]
      omega
    · have hlookup' : byTag.lookup p = some o := by
        rw [List.lookup_cons, beq_false_of_ne hk] at hlookup
        exact hlookup
      have hlt := ih hlookup'
      by_cases hkt : k ∈ oTree
      · rw [List.countP_cons_of_neg (by simp [hkt]), List.countP_cons_of_neg (by simp [hkt])]
        exact hlt
      · rw [List.countP_cons_of_pos (by simp [hkt, Ne.symm hk]),
          List.countP_cons_of_pos (by simp [hkt])]
        omega

section Lint

variable {L : List Outbound} {started : List String} {byTag : List (String × Outbound)}

/-- The walk of `lintOutbound` at a stall: the walked tags form a dependency chain in `L`,
ending at the current element. Its report is accurate while the fuel exceeds the number of
map entries off the walk. -/
theorem lintOutbound_accurate (hstall : Stalled L started) (hindex : Indexes byTag L) :
    ∀ (fuel : Nat) (oTree : List String) (oCurrent : Outbound),
      byTag.countP (fun e => e.1 ∉ oTree) < fuel → oCurrent ∈ L →
      oCurrent.Tag ∉ started →
      oTree.getLast? = some oCurrent.Tag → oTree.IsChain (DependsOn L) →
      Accurate L byTag (lintOutbound started byTag fuel oTree oCurrent) := by
  intro fuel
  induction fuel with
  | zero => intro _ _ hfuel; omega
  | succ fuel ih =>
    intro oTree oCurrent hfuel hmem hfree hlast hchain
    obtain ⟨d, hd, hdfree⟩ := hstall oCurrent hmem hfree
    obtain ⟨p, hfind⟩ : ∃ p, oCurrent.Dependencies.find? (· ∉ started) = some p := by
      cases hf : oCurrent.Dependencies.find? (· ∉ started) with
      | some p => exact ⟨p, rfl⟩
      | none => simpa [hdfree] using List.find?_eq_none.mp hf d hd
    have hp : p ∈ oCurrent.Dependencies := List.mem_of_find?_eq_some hfind
    have hpfree : p ∉ started := by simpa using List.find?_some hfind
    have hedge : DependsOn L oCurrent.Tag p := ⟨oCurrent, hmem, rfl, hp⟩
    have hchain' : (oTree ++ [p]).IsChain (DependsOn L) :=
      hchain.append (.singleton p) (by simp [hlast, hedge])
    simp only [lintOutbound, hfind, Option.getD_some]
    split
    · exact ⟨hchain', ‹_›⟩
    · cases hlookup : byTag.lookup p with
      | none => exact ⟨hlookup, hedge⟩
      | some po =>
        obtain ⟨rfl, hpo⟩ := hindex p po hlookup
        have hless := countP_lt_of_lookup hlookup ‹_›
        exact ih _ po (by omega) hpo hpfree (by simp) hchain'

end Lint

/-! ### The whole loop -/

/-- What `startOutbounds` over `L` may return: the elements in a start order, or an accurate
error. -/
def Outcome (L : List Outbound) (byTag : List (String × Outbound)) :
    Except Failure (List Outbound) → Prop
  | .ok log => log.Perm L ∧ Ordered Outbound.Tag Outbound.Dependencies [] log
  | .error e => Indexes byTag L → Accurate L byTag e

section Loop

variable {L : List Outbound} {byTag : List (String × Outbound)}

/-- The result of `startLoop` from a state between passes, with fuel beyond the number of
elements not yet started. -/
theorem startLoop_outcome :
    ∀ (fuel : Nat) (started : List String) (log : List Outbound),
      Started L started log → L.length < started.length + fuel →
      Outcome L byTag (startLoop L byTag fuel started log) := by
  intro fuel
  induction fuel with
  | zero =>
    intro started log hs hfuel
    have := hs.length_le
    omega
  | succ fuel ih =>
    intro started log hs hfuel
    cases hone : startOne L started with
    | error e =>
      obtain ⟨o, ho, err, herr, rfl⟩ := startOne_error hone
      simp only [startLoop, hone]
      exact fun _ => ⟨o, ho, herr, rfl⟩
    | ok r =>
      obtain ⟨started', newly⟩ := r
      have hp := startOne_pass hone
      have hs' := hs.pass hp
      simp only [startLoop, hone]
      by_cases hdone : started'.length = L.length
      · rw [if_pos hdone]
        exact ⟨hs'.perm hdone, hs'.ordered⟩
      rw [if_neg hdone]
      by_cases hnew : newly ≠ []
      · rw [if_pos hnew]
        have hgrow := hp.length_lt hnew
        exact ih started' (log ++ newly) hs' (by omega)
      rw [if_neg hnew]
      obtain rfl : newly = [] := by simpa using hnew
      obtain rfl := hp.eq_of_nil
      cases hfind : L.find? (fun it => it.Tag ∉ started') with
      | none =>
        refine fun _ => ⟨rfl, fun hkeys => ?_⟩
        obtain ⟨o, ho, hfree⟩ := hs'.exists_unstarted hkeys hdone
        exact List.find?_eq_none.mp hfind o ho (by simpa using hfree)
      | some currentOutbound =>
        have hcur : currentOutbound ∈ L := List.mem_of_find?_eq_some hfind
        have hfree : currentOutbound.Tag ∉ started' := by simpa using List.find?_some hfind
        refine fun hindex => lintOutbound_accurate hp.stalled hindex _ _ _ ?_ hcur hfree (by simp)
          (by simp)
        have := @List.countP_le_length _
          (fun e : String × Outbound => e.1 ∉ [currentOutbound.Tag]) byTag
        omega

theorem startOutbounds_outcome (L : List Outbound) (byTag : List (String × Outbound)) :
    Outcome L byTag (startOutbounds L byTag) :=
  startLoop_outcome (L.length + 1) [] [] (Started.initial L) (by simp)

/-- On `nil` every element of the start list has started once, each after the elements
whose tags it depends on. -/
theorem startOutbounds_ok {log : List Outbound} (h : startOutbounds L byTag = .ok log) :
    log.Perm L ∧ Ordered Outbound.Tag Outbound.Dependencies [] log := by
  have hout := startOutbounds_outcome L byTag
  rw [h] at hout
  exact hout

/-- An error names a failed start, a real dependency cycle, a dependency that the map does not
hold, or, only with two elements under one tag, the nil-pointer panic; never the fuel. -/
theorem startOutbounds_accurate (hindex : Indexes byTag L) {e : Failure}
    (h : startOutbounds L byTag = .error e) : Accurate L byTag e := by
  have hout := startOutbounds_outcome L byTag
  rw [h] at hout
  exact hout hindex

/-- With distinct tags, a closed acyclic start list never stalls: every loop with enough fuel
returns. -/
theorem startLoop_ok_of_acyclic (hkeys : (L.map Outbound.Tag).Nodup)
    (hclosed : Closed Outbound.Tag Outbound.Dependencies L)
    (hacyclic : Acyclic Outbound.Tag Outbound.Dependencies L)
    (hstart : ∀ o ∈ L, o.Start .StartStateStart = .ok ()) :
    ∀ (fuel : Nat) (started : List String) (log : List Outbound),
      Started L started log → L.length < started.length + fuel →
      ∃ log', startLoop L byTag fuel started log = .ok log' := by
  intro fuel
  induction fuel with
  | zero =>
    intro started log hs hfuel
    have := hs.length_le
    omega
  | succ fuel ih =>
    intro started log hs hfuel
    obtain ⟨⟨started', newly⟩, hone⟩ := startOne_ok hstart started
    have hp := startOne_pass hone
    have hs' := hs.pass hp
    simp only [startLoop, hone]
    by_cases hdone : started'.length = L.length
    · exact ⟨_, if_pos hdone⟩
    rw [if_neg hdone]
    by_cases hnew : newly ≠ []
    · rw [if_pos hnew]
      have hgrow := hp.length_lt hnew
      exact ih started' (log ++ newly) hs' (by omega)
    exfalso
    obtain rfl : newly = [] := by simpa using hnew
    obtain rfl := hp.eq_of_nil
    obtain ⟨o, ho, hfree, hready⟩ :=
      exists_ready hclosed hacyclic started' (hs'.exists_unstarted hkeys hdone)
    obtain ⟨d, hd, hwait⟩ := hp.stalled o ho hfree
    exact hwait (hready d hd)

/-- With distinct tags and every start succeeding, `startOutbounds` returns `nil` exactly when
every dependency of the start list is in it and the dependencies have no cycle. -/
theorem startOutbounds_ok_iff (hkeys : (L.map Outbound.Tag).Nodup)
    (hstart : ∀ o ∈ L, o.Start .StartStateStart = .ok ()) :
    (∃ log, startOutbounds L byTag = .ok log) ↔
      Closed Outbound.Tag Outbound.Dependencies L ∧
        Acyclic Outbound.Tag Outbound.Dependencies L := by
  constructor
  · rintro ⟨log, h⟩
    obtain ⟨hperm, hordered⟩ := startOutbounds_ok h
    exact ⟨closed_of_ordered hordered hperm, acyclic_of_ordered hordered hperm hkeys⟩
  · rintro ⟨hclosed, hacyclic⟩
    exact startLoop_ok_of_acyclic hkeys hclosed hacyclic hstart _ [] [] (Started.initial L)
      (by simp)

end Loop

/-! ### Two starts the loop gets wrong -/

theorem startOutbounds_duplicate_panic (first second : Outbound)
    (byTag : List (String × Outbound)) (htag : second.Tag = first.Tag)
    (hdeps : first.Dependencies = []) (hstart : first.Start .StartStateStart = .ok ()) :
    startOutbounds [first, second] byTag = .error (.panic nilPointerDereference) := by
  simp [startOutbounds, startLoop, startOne, htag, hdeps, hstart, Except.map]

/-- The walk resolves tags in the outbound map only: an outbound that depends on a waiting
endpoint is reported as depending on a missing tag, although the endpoint is in the start
list. -/
theorem startOutbounds_notFound_endpoint (outbound endpoint : Outbound)
    (hdeps : outbound.Dependencies = [endpoint.Tag]) (hwait : endpoint.Dependencies ≠ [])
    (hne : outbound.Tag ≠ endpoint.Tag) :
    startOutbounds [outbound, endpoint] [(outbound.Tag, outbound)] =
      .error (.notFound endpoint.Tag outbound.Tag) := by
  obtain ⟨d, ds, hd⟩ := List.exists_cons_of_ne_nil hwait
  simp [startOutbounds, startLoop, startOne, lintOutbound, hdeps, hd, List.lookup_cons,
    beq_false_of_ne (Ne.symm hne), Ne.symm hne]

/-! ### The manager -/

theorem Indexes.mono {byTag : List (String × Outbound)} {L L' : List Outbound}
    (h : Indexes byTag L) (hsub : L ⊆ L') : Indexes byTag L' := by
  intro k o hk
  obtain ⟨htag, hmem⟩ := h k o hk
  exact ⟨htag, hsub hmem⟩

theorem Indexes.mapSet {byTag : List (String × Outbound)} {L : List Outbound} {o : Outbound}
    (h : Indexes byTag L) (ho : o ∈ L) : Indexes (mapSet byTag o.Tag o) L := by
  intro k o' hk
  rcases lookup_mapSet_eq_some hk with ⟨rfl, rfl⟩ | ⟨-, hk⟩
  · exact ⟨rfl, ho⟩
  · exact h k o' hk

namespace Manager

/-- The manager's map agrees with its list: each tag is in the list once, and the map sends it
to that element. -/
structure Consistent (m : Manager) : Prop where
  nodup : (m.outbounds.map Outbound.Tag).Nodup
  index : Indexes m.outboundByTag m.outbounds
  complete : ∀ o ∈ m.outbounds, m.outboundByTag.lookup o.Tag = some o

/-- The managers `box.go` builds before the start: a new manager, then outbounds added by
`Create`. -/
inductive Built : Manager → Prop
  | new (defaultTag : String) : Built (NewManager defaultTag)
  | create {m m' : Manager} (outbound : Outbound) :
    Built m → Create outbound m = .ok m' → Built m'

theorem consistent_NewManager (defaultTag : String) : Consistent (NewManager defaultTag) :=
  ⟨List.nodup_nil, by simp [Indexes, NewManager], by simp [NewManager]⟩

/-- `Create` keeps the map in agreement with the list: the new outbound replaces the one
under its tag in both. -/
theorem Consistent.create {m m' : Manager} {o : Outbound} (hm : Consistent m)
    (h : Create o m = .ok m') : Consistent m' := by
  obtain ⟨-, rfl⟩ := Create_eq_ok h
  have hkept : ∀ o' ∈ m.outbounds.filter (·.Tag != o.Tag),
      o' ∈ m.outbounds ∧ o'.Tag ≠ o.Tag := by
    intro o' ho'
    simpa using ho'
  refine ⟨?_, ?_, ?_⟩
  · rw [List.map_append, List.nodup_append]
    refine ⟨((List.filter_sublist).map _).nodup hm.nodup, List.nodup_singleton _, ?_⟩
    intro t ht t' ht' heq
    obtain ⟨o', ho', rfl⟩ := List.mem_map.mp ht
    simp only [List.map_cons, List.map_nil, List.mem_singleton] at ht'
    exact (hkept o' ho').2 (heq.trans ht')
  · intro k o' hk
    rcases lookup_mapSet_eq_some hk with ⟨rfl, rfl⟩ | ⟨hko, hk⟩
    · exact ⟨rfl, by simp⟩
    · obtain ⟨rfl, hmem⟩ := hm.index k o' hk
      exact ⟨rfl, List.mem_append_left _ (by simp [hmem, hko])⟩
  · intro o' ho'
    simp only [lookup_mapSet]
    rcases List.mem_append.mp ho' with ho' | ho'
    · rw [if_neg (hkept o' ho').2]
      exact hm.complete o' (hkept o' ho').1
    · rw [List.mem_singleton.mp ho', if_pos rfl]

theorem Built.consistent {m : Manager} (hm : Built m) : Consistent m := by
  induction hm with
  | new defaultTag => exact consistent_NewManager defaultTag
  | create outbound _ hcreate ih => exact ih.create hcreate

theorem Built.not_started {m : Manager} (hm : Built m) : m.started = false := by
  induction hm with
  | new defaultTag => rfl
  | create outbound _ hcreate ih => simp [(Create_eq_ok hcreate).2, ih]

section Start

variable {endpoint : EndpointManager} {fb : Except String Outbound} {m m' : Manager}

/-- When the start stage of a built manager reaches the loop (the last case of `Start_start`),
the loop runs over the outbounds and the endpoints with a map that resolves only into them and
holds every outbound's tag. -/
theorem indexes_of_loop (hm : Built m) {r : Except Failure Unit}
    (hloop : r = (startOutbounds (m'.outbounds ++ endpoint.endpoints) m'.outboundByTag).map
      (fun _ => ()) ∧
      ((m'.outbounds = m.outbounds ∧ m'.outboundByTag = m.outboundByTag) ∨
        ∃ direct, fb = .ok direct ∧ m'.outbounds = m.outbounds ++ [direct] ∧
          m'.outboundByTag = mapSet m.outboundByTag direct.Tag direct)) :
    Indexes m'.outboundByTag (m'.outbounds ++ endpoint.endpoints) ∧
      ∀ o ∈ m'.outbounds, m'.outboundByTag.lookup o.Tag ≠ none := by
  have hc := hm.consistent
  rcases hloop.2 with ⟨hlist, hmap⟩ | ⟨direct, -, hlist, hmap⟩
  · rw [hlist, hmap]
    exact ⟨hc.index.mono (List.subset_append_left _ _), fun o ho => by simp [hc.complete o ho]⟩
  · rw [hlist, hmap]
    refine ⟨(hc.index.mono (List.subset_append_left _ [direct])).mapSet (by simp) |>.mono
      (List.subset_append_left _ _), ?_⟩
    intro o ho
    rw [lookup_mapSet]
    split
    · simp
    · rcases List.mem_append.mp ho with ho | ho
      · simp [hc.complete o ho]
      · simp_all

/-- An error of the start stage of a built manager is the missing default endpoint, the
failed fallback, or an accurate error of the loop over the outbounds and the endpoints; a tag
it reports not found is the tag of no outbound. -/
theorem Start_accurate (hm : Built m) {e : Failure}
    (h : Start endpoint fb .StartStateStart m = (.error e, m')) :
    e = .new ("default outbound not found: " ++ m.defaultTag) ∨
    (∃ err, fb = .error err ∧ e = .cause err "create direct outbound for fallback") ∨
    (Accurate (m'.outbounds ++ endpoint.endpoints) m'.outboundByTag e ∧
      ∀ t tag, e = .notFound t tag → t ∉ m'.outbounds.map Outbound.Tag) := by
  rcases Start_start hm.not_started h with hdefault | hfallback | hloop
  · exact .inl (Except.error.inj hdefault)
  · obtain ⟨err, hfb, he⟩ := hfallback
    exact .inr (.inl ⟨err, hfb, Except.error.inj he⟩)
  obtain ⟨hindex, hkeys⟩ := indexes_of_loop hm hloop
  have hrun : startOutbounds (m'.outbounds ++ endpoint.endpoints) m'.outboundByTag = .error e := by
    cases hrun : startOutbounds (m'.outbounds ++ endpoint.endpoints) m'.outboundByTag with
    | error e' => simpa [hrun, Except.map] using hloop.1.symm
    | ok log => simp [hrun, Except.map] at hloop
  have hacc := startOutbounds_accurate hindex hrun
  refine .inr (.inr ⟨hacc, ?_⟩)
  rintro t tag rfl ht
  obtain ⟨o, ho, rfl⟩ := List.mem_map.mp ht
  exact hkeys o ho hacc.1

/-- When the start stage of a built manager returns `nil`, every outbound and endpoint has
started once, each after the elements whose tags it depends on. -/
theorem Start_ok (hm : Built m) (h : Start endpoint fb .StartStateStart m = (.ok (), m')) :
    ∃ log, startOutbounds (m'.outbounds ++ endpoint.endpoints) m'.outboundByTag = .ok log ∧
      log.Perm (m'.outbounds ++ endpoint.endpoints) ∧
      Ordered Outbound.Tag Outbound.Dependencies [] log := by
  rcases Start_start hm.not_started h with hdefault | ⟨err, -, hfallback⟩ | hloop
  · cases hdefault
  · cases hfallback
  cases hrun : startOutbounds (m'.outbounds ++ endpoint.endpoints) m'.outboundByTag with
  | error e => simp [hrun, Except.map] at hloop
  | ok log => exact ⟨log, rfl, startOutbounds_ok hrun⟩

/-- `box.go` starts the manager at the initialize stage first. For a built manager that stage
only marks it started, and the start stage then does what it does on the built manager. -/
theorem Start_after_initialize (hm : Built m) :
    Start endpoint fb .StartStateStart (Start endpoint fb .StartStateInitialize m).2 =
      Start endpoint fb .StartStateStart m := by
  have hfresh := hm.not_started
  have hinit : (Start endpoint fb .StartStateInitialize m).2 =
      { m with started := true, stage := .StartStateInitialize } := by
    simp [Start, hfresh]
  rw [hinit]
  simp [Start, hfresh, StartStage.toNat]

end Start

/-- A manager with no outbounds and an endpoint tagged `direct`: the start stage adds the
fallback `direct` outbound, the start list holds two elements under one tag, and `Start`
panics. -/
theorem Start_directEndpoint (endpoint direct : Outbound) (hendpoint : endpoint.Tag = "direct")
    (hdirect : direct.Tag = "direct") (hdeps : direct.Dependencies = [])
    (hstart : direct.Start .StartStateStart = .ok ()) :
    (Start (EndpointManager.Create endpoint ⟨[], []⟩) (.ok direct) .StartStateStart
      (NewManager "")).1 = .error (.panic nilPointerDereference) := by
  have hpanic := startOutbounds_duplicate_panic direct endpoint (mapSet [] direct.Tag direct)
    (hendpoint.trans hdirect.symm) hdeps hstart
  simp [Start, NewManager, EndpointManager.Create, hpanic, Except.map]

/-- The fallback outbound of `box.go`, and a WireGuard endpoint that took its tag. -/
def directOutbound : Outbound := ⟨"direct", "direct", [], fun _ => .ok (), .ok ()⟩

def directEndpoint : Outbound := ⟨"wireguard", "direct", [], fun _ => .ok (), .ok ()⟩

theorem Start_directEndpoint_wireguard :
    directEndpoint.Tag = "direct" ∧ directOutbound.Tag = "direct" ∧
      directOutbound.Dependencies = [] ∧ directOutbound.Start .StartStateStart = .ok () ∧
      (Start (EndpointManager.Create directEndpoint ⟨[], []⟩) (.ok directOutbound)
        .StartStateStart (NewManager "")).1 = .error (.panic nilPointerDereference) :=
  ⟨rfl, rfl, rfl, rfl, Start_directEndpoint directEndpoint directOutbound rfl rfl rfl rfl⟩

end Manager

end OutboundManager

end SingBox
