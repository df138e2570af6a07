import Mathlib

/-!
# URL-test selection

`protocol/group/urltest.go`. `URLTestGroup.Select` scans the group's outbounds for the
lowest measured delay on a network, starting from the current selection, and replaces the
running minimum only when it exceeds a delay by more than the tolerance; that is the
hysteresis that keeps a selection which is still within tolerance. `performUpdateCheck`
stores the result as the new selection.

A group outbound is its own `realTag` (`RealTag`: the member a group has selected, the tag
of any other outbound). The URL-test history is a map from real tags to delays in whole
milliseconds, as `uint16`, so `0` is a delay that can be measured. The scan compares in
`uint16`: a zero minimum is read as "no candidate yet", and `delay + tolerance` wraps.
With neither, the result is within tolerance of every candidate and a current selection
within tolerance is kept (`Select_within_tolerance`, `Select_current`).
-/

namespace SingBox

namespace URLTest

inductive Network
  | tcp
  | udp
deriving DecidableEq, Repr

structure Outbound where
  tag : String
  realTag : String
  network : List Network
deriving DecidableEq, Repr

structure URLTestGroup where
  outbounds : List Outbound
  history : String → Option UInt16
  tolerance : UInt16
  selectedOutboundTCP : Option Outbound
  selectedOutboundUDP : Option Outbound

namespace URLTestGroup

variable (g : URLTestGroup) (network : Network)

def selectedOutbound : Option Outbound :=
  match network with
  | .tcp => g.selectedOutboundTCP
  | .udp => g.selectedOutboundUDP

/-- The delay the scan reads for a detour: none when the detour does not support the
network or has no history. -/
def delayOn (detour : Outbound) : Option UInt16 :=
  if network ∈ detour.network then g.history detour.realTag else none

/-- The running minimum before the scan: the current selection with its delay, if it has
one, and the sentinel `0` otherwise. -/
def selectStart : Option Outbound × UInt16 :=
  match g.selectedOutbound network with
  | some current =>
    match g.history current.realTag with
    | some delay => (some current, delay)
    | none => (none, 0)
  | none => (none, 0)

def selectStep (acc : Option Outbound × UInt16) (detour : Outbound) :
    Option Outbound × UInt16 :=
  match g.delayOn network detour with
  | none => acc
  | some delay =>
    if acc.2 = 0 ∨ acc.2 > delay + g.tolerance then (some detour, delay) else acc

def Select : Option Outbound × Bool :=
  match (g.outbounds.foldl (g.selectStep network) (g.selectStart network)).1 with
  | some minOutbound => (some minOutbound, true)
  | none => (g.outbounds.find? (fun detour => network ∈ detour.network), false)

end URLTestGroup

/-- The selection one network keeps after a `Select`, and whether it replaced one. -/
def updateSelected (selected : Option Outbound) : Option Outbound × Bool → Option Outbound × Bool
  | (some outbound, isMin) =>
    if selected = none ∨ (isMin = true ∧ some outbound ≠ selected) then
      (some outbound, selected.isSome)
    else (selected, false)
  | (none, _) => (selected, false)

namespace URLTestGroup

/-- The group after `performUpdateCheck`, and whether it interrupts its connections. -/
def performUpdateCheck (g : URLTestGroup) : URLTestGroup × Bool :=
  let tcp := updateSelected g.selectedOutboundTCP (g.Select .tcp)
  let g := { g with selectedOutboundTCP := tcp.1 }
  let udp := updateSelected g.selectedOutboundUDP (g.Select .udp)
  ({ g with selectedOutboundUDP := udp.1 }, tcp.2 || udp.2)

/-- A candidate of the scan: a member of the group with a delay on the network. -/
def Candidate (g : URLTestGroup) (network : Network) (o : Outbound) (delay : UInt16) : Prop :=
  o ∈ g.outbounds ∧ g.delayOn network o = some delay

/-- `delay` is at most every candidate's delay plus the tolerance, over the naturals. -/
def WithinTolerance (g : URLTestGroup) (network : Network) (delay : UInt16) : Prop :=
  ∀ o d, g.Candidate network o d → delay.toNat ≤ d.toNat + g.tolerance.toNat

/-- Every selection is a member of the group that supports its network. -/
def Valid (g : URLTestGroup) : Prop :=
  ∀ network o, g.selectedOutbound network = some o → o ∈ g.outbounds ∧ network ∈ o.network

section Scan

variable (g : URLTestGroup) (network : Network)

/-- The running minimum is the sentinel or a candidate with its delay. -/
def ScanInv (acc : Option Outbound × UInt16) : Prop :=
  acc = (none, 0) ∨ ∃ o, acc.1 = some o ∧ g.Candidate network o acc.2

theorem delayOn_of_candidate {o : Outbound} {d : UInt16} (h : g.Candidate network o d) :
    network ∈ o.network := by
  by_contra hnot
  simp [Candidate, delayOn, hnot] at h

theorem selectStep_of_delayOn_none (acc : Option Outbound × UInt16) (detour : Outbound)
    (h : g.delayOn network detour = none) : g.selectStep network acc detour = acc := by
  simp [selectStep, h]

theorem selectStep_of_delayOn_some (acc : Option Outbound × UInt16) (detour : Outbound)
    {delay : UInt16} (h : g.delayOn network detour = some delay) :
    g.selectStep network acc detour =
      if acc.2 = 0 ∨ acc.2 > delay + g.tolerance then (some detour, delay) else acc := by
  simp [selectStep, h]

theorem scanInv_selectStep {acc : Option Outbound × UInt16} {detour : Outbound}
    (hmem : detour ∈ g.outbounds) (hacc : g.ScanInv network acc) :
    g.ScanInv network (g.selectStep network acc detour) := by
  cases hd : g.delayOn network detour with
  | none => rwa [selectStep_of_delayOn_none g network acc detour hd]
  | some delay =>
    rw [selectStep_of_delayOn_some g network acc detour hd]
    split
    · exact Or.inr ⟨detour, rfl, hmem, hd⟩
    · exact hacc

theorem scanInv_foldl (outbounds : List Outbound) (hsub : ∀ o ∈ outbounds, o ∈ g.outbounds)
    (acc : Option Outbound × UInt16) (hacc : g.ScanInv network acc) :
    g.ScanInv network (outbounds.foldl (g.selectStep network) acc) := by
  induction outbounds generalizing acc with
  | nil => exact hacc
  | cons detour rest ih =>
    exact ih (fun o ho => hsub o (List.mem_cons_of_mem _ ho)) _
      (scanInv_selectStep g network (hsub detour List.mem_cons_self) hacc)

theorem scanInv_selectStart (hvalid : g.Valid) : g.ScanInv network (g.selectStart network) := by
  unfold selectStart
  split
  · rename_i current hcurrent
    obtain ⟨hmem, hnet⟩ := hvalid network current hcurrent
    split
    · rename_i delay hdelay
      exact Or.inr ⟨current, rfl, hmem, by simp [delayOn, hnet, hdelay]⟩
    · exact Or.inl rfl
  · exact Or.inl rfl

/-! The delay bounds below read the `uint16` comparison over the naturals: they hold for
candidates that are not `0` and whose delay plus the tolerance does not wrap. -/

/-- The candidates of a list have nonzero delays that do not wrap with the tolerance. -/
def NoZeroNoWrap (outbounds : List Outbound) : Prop :=
  ∀ o ∈ outbounds, ∀ d, g.delayOn network o = some d →
    d ≠ 0 ∧ d.toNat + g.tolerance.toNat < 2 ^ 16

theorem toNat_add_tolerance {d : UInt16} (h : d.toNat + g.tolerance.toNat < 2 ^ 16) :
    (d + g.tolerance).toNat = d.toNat + g.tolerance.toNat := by
  rw [UInt16.toNat_add, Nat.mod_eq_of_lt h]

theorem add_tolerance_lt_iff {d m : UInt16} (h : d.toNat + g.tolerance.toNat < 2 ^ 16) :
    d + g.tolerance < m ↔ d.toNat + g.tolerance.toNat < m.toNat := by
  rw [UInt16.lt_iff_toNat_lt, toNat_add_tolerance g h]

theorem noZeroNoWrap_cons {detour : Outbound} {rest : List Outbound}
    (h : g.NoZeroNoWrap network (detour :: rest)) :
    g.NoZeroNoWrap network [detour] ∧ g.NoZeroNoWrap network rest :=
  ⟨fun o ho => h o (by simp_all), fun o ho => h o (List.mem_cons_of_mem _ ho)⟩

theorem selectStep_candidate {acc : Option Outbound × UInt16} {detour : Outbound}
    {delay : UInt16} (hd : g.delayOn network detour = some delay)
    (hdetour : g.NoZeroNoWrap network [detour]) :
    (g.selectStep network acc detour).2 ≠ 0 ∧
      (g.selectStep network acc detour).2.toNat ≤ delay.toNat + g.tolerance.toNat := by
  obtain ⟨hzero, hwrap⟩ := hdetour detour List.mem_cons_self delay hd
  rw [selectStep_of_delayOn_some g network acc detour hd]
  split_ifs with hreplace
  · exact ⟨hzero, Nat.le_add_right _ _⟩
  · simp only [not_or, gt_iff_lt, add_tolerance_lt_iff g hwrap, not_lt] at hreplace
    exact hreplace

theorem selectStep_le {acc : Option Outbound × UInt16} {detour : Outbound}
    (hacc : acc.2 ≠ 0) (hdetour : g.NoZeroNoWrap network [detour]) :
    (g.selectStep network acc detour).2 ≠ 0 ∧
      (g.selectStep network acc detour).2.toNat ≤ acc.2.toNat := by
  cases hd : g.delayOn network detour with
  | none => simp [selectStep_of_delayOn_none g network acc detour hd, hacc]
  | some delay =>
    obtain ⟨hzero, hwrap⟩ := hdetour detour List.mem_cons_self delay hd
    rw [selectStep_of_delayOn_some g network acc detour hd]
    split_ifs with hreplace
    · simp only [hacc, false_or, gt_iff_lt, add_tolerance_lt_iff g hwrap] at hreplace
      exact ⟨hzero, by simp only; omega⟩
    · exact ⟨hacc, le_refl _⟩

theorem foldl_selectStep_le (outbounds : List Outbound) (hL : g.NoZeroNoWrap network outbounds)
    (acc : Option Outbound × UInt16) (hacc : acc.2 ≠ 0) :
    (outbounds.foldl (g.selectStep network) acc).2 ≠ 0 ∧
      (outbounds.foldl (g.selectStep network) acc).2.toNat ≤ acc.2.toNat := by
  induction outbounds generalizing acc with
  | nil => exact ⟨hacc, le_refl _⟩
  | cons detour rest ih =>
    obtain ⟨hdetour, hrest⟩ := noZeroNoWrap_cons g network hL
    obtain ⟨hstep, hstepLe⟩ := selectStep_le g network hacc hdetour
    obtain ⟨hne, hle⟩ := ih hrest _ hstep
    exact ⟨hne, le_trans hle hstepLe⟩

theorem foldl_selectStep_candidate (outbounds : List Outbound)
    (hL : g.NoZeroNoWrap network outbounds) (acc : Option Outbound × UInt16)
    {o : Outbound} {d : UInt16} (ho : o ∈ outbounds) (hd : g.delayOn network o = some d) :
    (outbounds.foldl (g.selectStep network) acc).2 ≠ 0 ∧
      (outbounds.foldl (g.selectStep network) acc).2.toNat ≤ d.toNat + g.tolerance.toNat := by
  induction outbounds generalizing acc with
  | nil => cases ho
  | cons detour rest ih =>
    obtain ⟨hdetour, hrest⟩ := noZeroNoWrap_cons g network hL
    rcases List.mem_cons.mp ho with rfl | ho
    · obtain ⟨hstep, hstepLe⟩ := selectStep_candidate g network hd hdetour
      obtain ⟨hne, hle⟩ := foldl_selectStep_le g network rest hrest _ hstep
      exact ⟨hne, le_trans hle hstepLe⟩
    · exact ih hrest _ ho

/-- A nonzero minimum within tolerance of every candidate is never replaced. -/
theorem foldl_selectStep_of_within (outbounds : List Outbound)
    (hL : g.NoZeroNoWrap network outbounds) (acc : Option Outbound × UInt16)
    (hacc : acc.2 ≠ 0)
    (hwithin : ∀ o ∈ outbounds, ∀ d, g.delayOn network o = some d →
      acc.2.toNat ≤ d.toNat + g.tolerance.toNat) :
    outbounds.foldl (g.selectStep network) acc = acc := by
  induction outbounds with
  | nil => rfl
  | cons detour rest ih =>
    obtain ⟨hdetour, hrest⟩ := noZeroNoWrap_cons g network hL
    have hstep : g.selectStep network acc detour = acc := by
      cases hd : g.delayOn network detour with
      | none => exact selectStep_of_delayOn_none g network acc detour hd
      | some delay =>
        have hwrap := (hdetour detour List.mem_cons_self delay hd).2
        have hle := hwithin detour List.mem_cons_self delay hd
        simp [selectStep_of_delayOn_some g network acc detour hd, hacc,
          add_tolerance_lt_iff g hwrap, hle]
    rw [List.foldl_cons, hstep]
    exact ih hrest (fun o ho => hwithin o (List.mem_cons_of_mem _ ho))

end Scan

theorem noZeroNoWrap_outbounds {g : URLTestGroup} {network : Network}
    (hcandidates : ∀ o d, g.Candidate network o d →
      d ≠ 0 ∧ d.toNat + g.tolerance.toNat < 2 ^ 16) :
    g.NoZeroNoWrap network g.outbounds :=
  fun o ho d hd => hcandidates o d ⟨ho, hd⟩

theorem Select_of_scan {g : URLTestGroup} {network : Network} {o : Outbound}
    (h : (g.outbounds.foldl (g.selectStep network) (g.selectStart network)).1 = some o) :
    g.Select network = (some o, true) := by
  simp [Select, h]

/-- With no zero delay and no wrap, `Select` finds a candidate whenever there is one, and
that candidate is within tolerance of every other. -/
theorem Select_within_tolerance (g : URLTestGroup) (network : Network) (hvalid : g.Valid)
    (hcandidates : ∀ o d, g.Candidate network o d →
      d ≠ 0 ∧ d.toNat + g.tolerance.toNat < 2 ^ 16)
    (hsome : ∃ o d, g.Candidate network o d) :
    ∃ o d, g.Select network = (some o, true) ∧ g.Candidate network o d ∧
      g.WithinTolerance network d := by
  obtain ⟨o₀, d₀, ho₀, hd₀⟩ := hsome
  have hL := noZeroNoWrap_outbounds hcandidates
  have hne := (foldl_selectStep_candidate g network _ hL (g.selectStart network) ho₀ hd₀).1
  rcases scanInv_foldl g network g.outbounds (fun _ h => h) _
      (scanInv_selectStart g network hvalid) with hnone | ⟨o, ho, hcand⟩
  · rw [hnone] at hne
    exact absurd rfl hne
  · refine ⟨o, _, Select_of_scan ho, hcand, ?_⟩
    rintro o' d' ⟨ho', hd'⟩
    exact (foldl_selectStep_candidate g network _ hL _ ho' hd').2

theorem selectStart_of_history {g : URLTestGroup} {network : Network} {current : Outbound}
    {delay : UInt16} (hcurrent : g.selectedOutbound network = some current)
    (hdelay : g.history current.realTag = some delay) :
    g.selectStart network = (some current, delay) := by
  simp [selectStart, hcurrent, hdelay]

/-- Hysteresis: with no zero delay and no wrap, a current selection whose delay is within
tolerance of every candidate is kept. -/
theorem Select_current (g : URLTestGroup) (network : Network) (hvalid : g.Valid)
    (hcandidates : ∀ o d, g.Candidate network o d →
      d ≠ 0 ∧ d.toNat + g.tolerance.toNat < 2 ^ 16)
    {current : Outbound} {delay : UInt16} (hcurrent : g.selectedOutbound network = some current)
    (hdelay : g.history current.realTag = some delay) (hwithin : g.WithinTolerance network delay) :
    g.Select network = (some current, true) := by
  obtain ⟨hmem, hnet⟩ := hvalid network current hcurrent
  have hcand : g.Candidate network current delay := ⟨hmem, by simp [delayOn, hnet, hdelay]⟩
  have hstart := selectStart_of_history hcurrent hdelay
  have hkeep := foldl_selectStep_of_within g network g.outbounds
    (noZeroNoWrap_outbounds hcandidates) (g.selectStart network)
    (by rw [hstart]; exact (hcandidates current delay hcand).1)
    (fun o ho d hd => by rw [hstart]; exact hwithin o d ⟨ho, hd⟩)
  apply Select_of_scan
  rw [hkeep, hstart]

/- Where `delay + tolerance` wraps, the current selection at 100 ms, within a tolerance of
65500 of the 50 ms candidate, is replaced all the same. -/
example :
    let a : Outbound := ⟨"a", "a", [.tcp]⟩
    let b : Outbound := ⟨"b", "b", [.tcp]⟩
    (URLTestGroup.mk [a, b] (fun tag => if tag = "a" then some 100 else some 50) 65500
      (some a) none).Select .tcp = (some b, true) := by
  decide

theorem Select_mem {g : URLTestGroup} {network : Network} (hvalid : g.Valid) {o : Outbound}
    (h : (g.Select network).1 = some o) : o ∈ g.outbounds ∧ network ∈ o.network := by
  unfold Select at h
  split at h
  · rename_i minOutbound hmin
    cases h
    rcases scanInv_foldl g network g.outbounds (fun _ h => h) _
        (scanInv_selectStart g network hvalid) with hnone | ⟨o', ho', hcand⟩
    · rw [hnone] at hmin
      cases hmin
    · rw [ho'] at hmin
      cases hmin
      exact ⟨hcand.1, delayOn_of_candidate g network hcand⟩
  · exact ⟨List.mem_of_find?_eq_some h, by simpa using List.find?_some h⟩

end URLTestGroup

theorem updateSelected_fst (selected : Option Outbound) (result : Option Outbound × Bool) :
    (updateSelected selected result).1 = selected ∨
      (updateSelected selected result).1 = result.1 := by
  rcases result with ⟨_ | outbound, isMin⟩
  · simp [updateSelected]
  · simp only [updateSelected]
    split_ifs <;> simp

theorem updateSelected_eq_some {selected : Option Outbound} {result : Option Outbound × Bool}
    {o : Outbound} (h : (updateSelected selected result).1 = some o) :
    selected = some o ∨ result.1 = some o := by
  rcases updateSelected_fst selected result with hkeep | hnew
  · exact Or.inl (hkeep.symm.trans h)
  · exact Or.inr (hnew.symm.trans h)

/-- `NewURLTestGroup`: a tolerance of `0` is the default `50`, and nothing is selected. -/
def NewURLTestGroup (outbounds : List Outbound) (tolerance : UInt16)
    (history : String → Option UInt16) : URLTestGroup :=
  ⟨outbounds, history, if tolerance = 0 then 50 else tolerance, none, none⟩

namespace URLTestGroup

theorem valid_of_selected {g g' : URLTestGroup} (hvalid : g.Valid)
    (houtbounds : g'.outbounds = g.outbounds)
    (hselected : ∀ network o, g'.selectedOutbound network = some o →
      g.selectedOutbound network = some o ∨ (g.Select network).1 = some o) :
    g'.Valid := by
  intro network o ho
  rw [houtbounds]
  rcases hselected network o ho with hold | hnew
  · exact hvalid network o hold
  · exact Select_mem hvalid hnew

theorem performUpdateCheck_valid {g : URLTestGroup} (hvalid : g.Valid) :
    g.performUpdateCheck.1.Valid := by
  obtain ⟨g₁, hg₁⟩ : ∃ g₁ : URLTestGroup, g₁ =
      { g with selectedOutboundTCP := (updateSelected g.selectedOutboundTCP (g.Select .tcp)).1 } :=
    ⟨_, rfl⟩
  have hcheck : g.performUpdateCheck.1 =
      { g₁ with selectedOutboundUDP :=
        (updateSelected g₁.selectedOutboundUDP (g₁.Select .udp)).1 } := by
    subst hg₁; rfl
  have hvalid₁ : g₁.Valid := by
    subst hg₁
    refine valid_of_selected hvalid rfl ?_
    rintro (_ | _) o ho
    · exact updateSelected_eq_some ho
    · exact Or.inl ho
  rw [hcheck]
  refine valid_of_selected hvalid₁ rfl ?_
  rintro (_ | _) o ho
  · exact Or.inl ho
  · exact updateSelected_eq_some ho

/-- The life of a group: URL tests store new delays, and `performUpdateCheck` selects. -/
inductive Step : URLTestGroup → URLTestGroup → Prop
  | urlTest (g : URLTestGroup) (history : String → Option UInt16) :
      Step g { g with history := history }
  | updateCheck (g : URLTestGroup) : Step g g.performUpdateCheck.1

theorem Step.valid {g g' : URLTestGroup} (hstep : Step g g') (hvalid : g.Valid) : g'.Valid := by
  cases hstep with
  | urlTest history => exact hvalid
  | updateCheck => exact performUpdateCheck_valid hvalid

theorem valid_of_reachable {outbounds : List Outbound} {tolerance : UInt16}
    {history : String → Option UInt16} {g : URLTestGroup}
    (hreach : Relation.ReflTransGen Step (NewURLTestGroup outbounds tolerance history) g) :
    g.Valid := by
  induction hreach with
  | refl => rintro (_ | _) o ho <;> cases ho
  | tail _ hstep ih => exact hstep.valid ih

/-- A measured delay of `0` is the scan's sentinel, so the next candidate replaces it. Under
the default tolerance the first update check of a new group selects `b` at 100 ms over `a`
at 0 ms, and a selection of `a`, within tolerance of everything, is replaced by `b`. -/
theorem Select_zeroDelay :
    let a : Outbound := ⟨"a", "a", [.tcp, .udp]⟩
    let b : Outbound := ⟨"b", "b", [.tcp, .udp]⟩
    let history : String → Option UInt16 :=
      fun tag => if tag = "a" then some 0 else if tag = "b" then some 100 else none
    let g := NewURLTestGroup [a, b] 0 history
    g.Candidate .tcp a 0 ∧ g.Candidate .tcp b 100 ∧
      g.Select .tcp = (some b, true) ∧
      g.performUpdateCheck.1.selectedOutboundTCP = some b ∧ ¬ g.WithinTolerance .tcp 100 ∧
      { g with selectedOutboundTCP := some a }.WithinTolerance .tcp 0 ∧
      { g with selectedOutboundTCP := some a }.Select .tcp = (some b, true) := by
  intro a b history g
  have ha : g.Candidate .tcp a 0 := ⟨by decide, by decide⟩
  refine ⟨ha, ⟨by decide, by decide⟩, by decide, by decide, ?_, ?_, by decide⟩
  · intro hwithin
    have hle := hwithin a 0 ha
    revert hle
    decide
  · intro o d _
    exact Nat.zero_le _

end URLTestGroup

end URLTest

end SingBox
