import SingBox.RuleMerge

/-!
# Legacy pre-lookup matching

In legacy DNS mode the router decides on a rule before the lookup with
`LegacyPreMatch`, which sets `IgnoreDestinationIPCIDRMatch` so that the address filter
items (destination `ip_cidr`, `ip_is_private`, `ip_accept_any`, and `ip_cidr` of
included rule sets) are neither required nor counted; after the lookup it checks the
response with `MatchAddressLimit`.

Pre-lookup matching over-approximates the response check only where dropping a filter
item cannot remove an alternative. A domain item and an `ip_cidr` item fill the same
destination group, so a rule with both is skipped before the lookup when its domain
fails, although the response check would accept an answer in the CIDR. The theorem
here covers the rules where each group is filled either by filter items or by resolved
items along every chain of merged rules, and which hold no inverted rule.

The proof is a simulation. A pre-lookup context `PreLookup` shares everything the
resolved items read; a post-lookup state is matched by a pre-lookup state that agrees
with it outside the groups filled by filter items (`AgreeOutside`), and a set of
states by a set that holds such a state for each of its states (`SetSim`).
-/

namespace SingBox

variable {σ α : Type}

/-- The four groups a state records. -/
def ruleMatchGroups : List RuleMatchState :=
  [ruleMatchSourceAddress, ruleMatchSourcePort, ruleMatchDestinationAddress,
    ruleMatchDestinationPort]

namespace RuleMatchState

/-- `x` and `y` record the same groups outside `deferred`. -/
def AgreeOutside (deferred x y : RuleMatchState) : Prop :=
  ∀ target ∈ ruleMatchGroups, deferred.has target = false → x.has target = y.has target

theorem AgreeOutside.refl (deferred x : RuleMatchState) : AgreeOutside deferred x x :=
  fun _ _ _ => rfl

theorem AgreeOutside.or_mask {deferred x y : RuleMatchState} (h : AgreeOutside deferred x y)
    (extra : RuleMatchState) : AgreeOutside (deferred ||| extra) x y := by
  intro target ht hd
  rw [has_or, Bool.or_eq_false_iff] at hd
  exact h target ht hd.1

theorem AgreeOutside.or {deferred x y x' y' : RuleMatchState} (h : AgreeOutside deferred x y)
    (h' : AgreeOutside deferred x' y') : AgreeOutside deferred (x ||| x') (y ||| y') := by
  intro target ht hd
  rw [has_or, has_or, h target ht hd, h' target ht hd]

/-- Two masks, the first inside the second. -/
def Sub (deferred deferred' : RuleMatchState) : Prop :=
  ∀ target ∈ ruleMatchGroups, deferred.has target = true → deferred'.has target = true

theorem AgreeOutside.mono {deferred deferred' x y : RuleMatchState} (h : AgreeOutside deferred x y)
    (hsub : Sub deferred deferred') : AgreeOutside deferred' x y := by
  intro target ht hd
  apply h target ht
  cases hdt : deferred.has target with
  | false => rfl
  | true => simpa [hd] using hsub target ht hdt

theorem Sub.refl (deferred : RuleMatchState) : Sub deferred deferred :=
  fun _ _ h => h

theorem Sub.of_or_or_left {a b c m : RuleMatchState} (h : Sub (a ||| (b ||| c)) m) :
    Sub (a ||| b) m := by
  intro target ht hab
  apply h target ht
  rw [has_or, Bool.or_eq_true] at hab
  rw [has_or, has_or]
  rcases hab with hab | hab <;> simp [hab]

theorem Sub.of_or_or_right {a b c m : RuleMatchState} (h : Sub (a ||| (b ||| c)) m) :
    Sub (a ||| c) m := by
  intro target ht hac
  apply h target ht
  rw [has_or, Bool.or_eq_true] at hac
  rw [has_or, has_or]
  rcases hac with hac | hac <;> simp [hac]

theorem Sub.trans {a b c : RuleMatchState} (hab : Sub a b) (hbc : Sub b c) : Sub a c :=
  fun target ht h => hbc target ht (hab target ht h)

theorem has_eq_false_of_and_eq_zero {a b : RuleMatchState} (h : a &&& b = 0#4) :
    ∀ target ∈ ruleMatchGroups, a.has target = true → b.has target = false := by
  revert a b
  decide

end RuleMatchState

namespace RuleMatchStateSet

open RuleMatchState

/-- Every state of `s` is matched by a state of `t` that agrees with it outside
`deferred`. -/
def SetSim (deferred : RuleMatchState) (s t : RuleMatchStateSet) : Prop :=
  ∀ x ∈ s, ∃ y ∈ t, AgreeOutside deferred x y

theorem SetSim.zero (deferred : RuleMatchState) (t : RuleMatchStateSet) : SetSim deferred 0#16 t :=
  fun x hx => absurd hx (not_mem_zero x)

theorem SetSim.single {deferred x y : RuleMatchState} (h : AgreeOutside deferred x y) :
    SetSim deferred (singleRuleMatchState x) (singleRuleMatchState y) := by
  intro x' hx'
  rw [mem_singleRuleMatchState] at hx'
  subst hx'
  exact ⟨y, (mem_singleRuleMatchState y y).mpr rfl, h⟩

theorem SetSim.mono {deferred deferred' : RuleMatchState} {s t : RuleMatchStateSet}
    (h : SetSim deferred s t) (hsub : Sub deferred deferred') : SetSim deferred' s t := by
  intro x hx
  obtain ⟨y, hy, hxy⟩ := h x hx
  exact ⟨y, hy, hxy.mono hsub⟩

theorem SetSim.merge {deferred : RuleMatchState} {s t s' t' : RuleMatchStateSet}
    (h : SetSim deferred s t) (h' : SetSim deferred s' t') :
    SetSim deferred (s.merge s') (t.merge t') := by
  intro x hx
  rw [mem_merge] at hx
  rcases hx with hx | hx
  · obtain ⟨y, hy, hxy⟩ := h x hx
    exact ⟨y, (mem_merge t t' y).mpr (Or.inl hy), hxy⟩
  · obtain ⟨y, hy, hxy⟩ := h' x hx
    exact ⟨y, (mem_merge t t' y).mpr (Or.inr hy), hxy⟩

theorem SetSim.combine {deferred : RuleMatchState} {s t s' t' : RuleMatchStateSet}
    (h : SetSim deferred s t) (h' : SetSim deferred s' t') :
    SetSim deferred (s.combine s') (t.combine t') := by
  intro x hx
  rw [mem_combine] at hx
  obtain ⟨l, hl, r, hr, rfl⟩ := hx
  obtain ⟨l', hl', hll'⟩ := h l hl
  obtain ⟨r', hr', hrr'⟩ := h' r hr
  exact ⟨l' ||| r', (mem_combine t t' _).mpr ⟨l', hl', r', hr', rfl⟩, hll'.or hrr'⟩

theorem SetSim.filter {deferred : RuleMatchState} {s t : RuleMatchStateSet}
    {allowed allowed' : RuleMatchState → Bool} (h : SetSim deferred s t)
    (hallowed : ∀ x y, AgreeOutside deferred x y → allowed x = true → allowed' y = true) :
    SetSim deferred (s.filter allowed) (t.filter allowed') := by
  intro x hx
  rw [mem_filter] at hx
  obtain ⟨y, hy, hxy⟩ := h x hx.1
  exact ⟨y, (mem_filter t allowed' y).mpr ⟨hy, hallowed x y hxy hx.2⟩, hxy⟩

theorem SetSim.isEmpty_eq_false {deferred : RuleMatchState} {s t : RuleMatchStateSet}
    (h : SetSim deferred s t) (hs : s.isEmpty = false) : t.isEmpty = false := by
  obtain ⟨x, hx⟩ := (isEmpty_eq_false_iff s).mp hs
  obtain ⟨y, hy, -⟩ := h x hx
  exact (isEmpty_eq_false_iff t).mpr ⟨y, hy⟩

end RuleMatchStateSet

/-- The item is decided before the lookup: it reads the connection or the source, never
the destination addresses or the response. -/
def RuleItem.resolved : RuleItem σ α → Bool
  | .plain _ => true
  | .ipcidr isSource _ => isSource
  | .ipIsPrivate isSource _ => isSource
  | _ => false

/-- The contexts before and after the lookup: the same connection, source and
rule-set flag, and before the lookup the address filter items are skipped. -/
structure PreLookup (cPost cPre : InboundContext σ α) : Prop where
  conn : cPost.conn = cPre.conn
  source : cPost.source = cPre.source
  ipcidrMatchSource : cPost.ipcidrMatchSource = cPre.ipcidrMatchSource
  ignore : cPre.ignoreDestinationIPCIDRMatch = true

namespace PreLookup

variable {cPost cPre : InboundContext σ α}

theorem resetRuleCache (h : PreLookup cPost cPre) :
    PreLookup cPost.resetRuleCache cPre.resetRuleCache :=
  ⟨h.conn, h.source, rfl, h.ignore⟩

theorem resetRuleMatchCache (h : PreLookup cPost cPre) :
    PreLookup cPost.resetRuleMatchCache cPre.resetRuleMatchCache :=
  ⟨h.conn, h.source, h.ipcidrMatchSource, h.ignore⟩

theorem nestedMetadata {R : Type} (h : PreLookup cPost cPre) (item : RuleSetItem R) :
    PreLookup (item.nestedMetadata cPost) (item.nestedMetadata cPre) :=
  ⟨h.conn, h.source, rfl, h.ignore⟩

theorem Match_eq (h : PreLookup cPost cPre) {item : RuleItem σ α} (hr : item.resolved = true) :
    item.Match cPost = item.Match cPre := by
  cases item with
  | plain f => simp [RuleItem.Match, h.conn]
  | ipcidr isSource ipSet =>
    simp only [RuleItem.resolved] at hr
    simp [RuleItem.Match, hr, h.source]
  | ipIsPrivate isSource isPublicAddr =>
    simp only [RuleItem.resolved] at hr
    simp [RuleItem.Match, hr, h.source]
  | ipAcceptAny => simp [RuleItem.resolved] at hr
  | responseRcode _ => simp [RuleItem.resolved] at hr
  | responseRecord _ => simp [RuleItem.resolved] at hr

theorem matchAnyItem_eq (h : PreLookup cPost cPre) {items : List (RuleItem σ α)}
    (hr : items.all RuleItem.resolved = true) : matchAnyItem items cPost = matchAnyItem items cPre := by
  rw [List.all_eq_true] at hr
  apply Bool.eq_iff_iff.mpr
  simp only [matchAnyItem, List.any_eq_true]
  constructor
  · rintro ⟨item, hitem, hm⟩
    exact ⟨item, hitem, (h.Match_eq (hr item hitem)).symm.trans hm⟩
  · rintro ⟨item, hitem, hm⟩
    exact ⟨item, hitem, (h.Match_eq (hr item hitem)).trans hm⟩

theorem all_Match_eq (h : PreLookup cPost cPre) {items : List (RuleItem σ α)}
    (hr : items.all RuleItem.resolved = true) :
    items.all (fun item => item.Match cPost) = items.all (fun item => item.Match cPre) := by
  rw [List.all_eq_true] at hr
  apply Bool.eq_iff_iff.mpr
  simp only [List.all_eq_true]
  constructor
  · intro hm item hitem
    exact (h.Match_eq (hr item hitem)).symm.trans (hm item hitem)
  · intro hm item hitem
    exact (h.Match_eq (hr item hitem)).trans (hm item hitem)

end PreLookup

namespace RuleItemGroups

variable (g : RuleItemGroups σ α)

/-- Every item outside the address filter group is decided before the lookup, as the
rule constructors place them. -/
def resolvedItems : Bool :=
  g.items.all RuleItem.resolved && g.sourceAddressItems.all RuleItem.resolved &&
    g.sourcePortItems.all RuleItem.resolved && g.destinationAddressItems.all RuleItem.resolved &&
    g.destinationPortItems.all RuleItem.resolved

/-- The group the address filter items fill: source under `ipcidr_match_source`,
destination otherwise. -/
def deferredState (matchSource : Bool) : RuleMatchState :=
  if g.destinationIPCIDRItems.isEmpty then 0#4
  else if matchSource then ruleMatchSourceAddress else ruleMatchDestinationAddress

/-- The groups the resolved items fill, which the filter requires before the lookup. -/
def resolvedState : RuleMatchState :=
  (if g.sourceAddressItems.isEmpty then 0#4 else ruleMatchSourceAddress) |||
    (if g.sourcePortItems.isEmpty then 0#4 else ruleMatchSourcePort) |||
    (if g.destinationAddressItems.isEmpty then 0#4 else ruleMatchDestinationAddress) |||
    (if g.destinationPortItems.isEmpty then 0#4 else ruleMatchDestinationPort)

theorem deferredState_has_sourceAddress (matchSource : Bool) :
    (g.deferredState matchSource).has ruleMatchSourceAddress =
      (!g.destinationIPCIDRItems.isEmpty && matchSource) := by
  unfold deferredState
  cases g.destinationIPCIDRItems.isEmpty <;> cases matchSource <;> decide

theorem deferredState_has_destinationAddress (matchSource : Bool) :
    (g.deferredState matchSource).has ruleMatchDestinationAddress =
      (!g.destinationIPCIDRItems.isEmpty && !matchSource) := by
  unfold deferredState
  cases g.destinationIPCIDRItems.isEmpty <;> cases matchSource <;> decide

theorem resolvedState_has :
    (g.resolvedState.has ruleMatchSourceAddress = true ↔ g.sourceAddressItems ≠ []) ∧
      (g.resolvedState.has ruleMatchSourcePort = true ↔ g.sourcePortItems ≠ []) ∧
      (g.resolvedState.has ruleMatchDestinationAddress = true ↔ g.destinationAddressItems ≠ []) ∧
      (g.resolvedState.has ruleMatchDestinationPort = true ↔ g.destinationPortItems ≠ []) := by
  simp only [resolvedState, RuleMatchState.has_or, ne_eq, ← List.isEmpty_iff]
  cases g.sourceAddressItems.isEmpty <;> cases g.sourcePortItems.isEmpty <;>
    cases g.destinationAddressItems.isEmpty <;> cases g.destinationPortItems.isEmpty <;> decide

theorem requiresSourceAddressMatch_of_ignore {c : InboundContext σ α}
    (hc : c.ignoreDestinationIPCIDRMatch = true) :
    g.requiresSourceAddressMatch c = true ↔ g.sourceAddressItems ≠ [] := by
  simp [requiresSourceAddressMatch, destinationIPCIDRMatchesSource, hc]

theorem requiresDestinationAddressMatch_of_ignore {c : InboundContext σ α}
    (hc : c.ignoreDestinationIPCIDRMatch = true) :
    g.requiresDestinationAddressMatch c = true ↔ g.destinationAddressItems ≠ [] := by
  simp [requiresDestinationAddressMatch, destinationIPCIDRMatchesDestination, hc]

variable {cPost cPre : InboundContext σ α}

open RuleMatchState in
/-- Before and after the lookup the grouped blocks record the same groups, except
the one the rule's own filter items fill. -/
theorem baseState_agreeOutside (hres : g.resolvedItems = true) (hc : PreLookup cPost cPre)
    {deferred bPost bPre : RuleMatchState} (hb : AgreeOutside deferred bPost bPre) :
    AgreeOutside (deferred ||| g.deferredState cPost.ipcidrMatchSource)
      (g.baseState cPost bPost) (g.baseState cPre bPre) := by
  simp only [resolvedItems, Bool.and_eq_true] at hres
  obtain ⟨⟨⟨⟨-, hsa⟩, hsp⟩, hda⟩, hdp⟩ := hres
  intro target ht hd
  rw [has_or, Bool.or_eq_false_iff] at hd
  obtain ⟨hdeferred, hown⟩ := hd
  have hbt := hb target ht hdeferred
  simp only [ruleMatchGroups, List.mem_cons, List.not_mem_nil, or_false] at ht
  rcases ht with rfl | rfl | rfl | rfl
  · have hpost : g.destinationIPCIDRMatchesSource cPost = false := by
      rw [deferredState_has_sourceAddress] at hown
      simp only [destinationIPCIDRMatchesSource]
      revert hown
      cases g.destinationIPCIDRItems.isEmpty <;> cases cPost.ipcidrMatchSource <;> simp
    rw [baseState_has_sourceAddress, baseState_has_sourceAddress, hbt, sourceAddressMatches,
      sourceAddressMatches, hpost, hc.matchAnyItem_eq hsa]
    simp [destinationIPCIDRMatchesSource, hc.ignore]
  · rw [baseState_has_sourcePort, baseState_has_sourcePort, hbt, hc.matchAnyItem_eq hsp]
  · have hpost : g.destinationIPCIDRMatchesDestination cPost = false := by
      rw [deferredState_has_destinationAddress] at hown
      simp only [destinationIPCIDRMatchesDestination]
      revert hown
      cases g.destinationIPCIDRItems.isEmpty <;> cases cPost.ipcidrMatchSource <;> simp
    rw [baseState_has_destinationAddress, baseState_has_destinationAddress, hbt,
      destinationAddressMatches, destinationAddressMatches, hpost, hc.matchAnyItem_eq hda]
    simp [destinationIPCIDRMatchesDestination, hc.ignore]
  · rw [baseState_has_destinationPort, baseState_has_destinationPort, hbt, hc.matchAnyItem_eq hdp]

open RuleMatchState in
/-- A state the filter keeps after the lookup is kept before it in any state that
agrees with it on the groups the rule's resolved items fill. -/
theorem allows_preLookup (hc : PreLookup cPost cPre) {deferred x y : RuleMatchState}
    (hxy : AgreeOutside deferred x y) (hdisjoint : g.resolvedState &&& deferred = 0#4)
    (h : g.allows cPost x = true) : g.allows cPre y = true := by
  have hagree : ∀ target ∈ ruleMatchGroups, g.resolvedState.has target = true →
      y.has target = x.has target := fun target ht hres =>
    (hxy target ht (has_eq_false_of_and_eq_zero hdisjoint target ht hres)).symm
  obtain ⟨hsa, hsp, hda, hdp⟩ := g.resolvedState_has
  rw [allows_eq_true] at h ⊢
  obtain ⟨hpostSA, hpostSP, hpostDA, hpostDP⟩ := h
  refine ⟨?_, ?_, ?_, ?_⟩
  · intro hreq
    have hne := (g.requiresSourceAddressMatch_of_ignore hc.ignore).mp hreq
    rw [hagree _ (by simp [ruleMatchGroups]) (hsa.mpr hne)]
    exact hpostSA (by simp [requiresSourceAddressMatch, hne])
  · intro hne
    rw [hagree _ (by simp [ruleMatchGroups]) (hsp.mpr hne)]
    exact hpostSP hne
  · intro hreq
    have hne := (g.requiresDestinationAddressMatch_of_ignore hc.ignore).mp hreq
    rw [hagree _ (by simp [ruleMatchGroups]) (hda.mpr hne)]
    exact hpostDA (by simp [requiresDestinationAddressMatch, hne])
  · intro hne
    rw [hagree _ (by simp [ruleMatchGroups]) (hdp.mpr hne)]
    exact hpostDP hne

open RuleMatchStateSet in
theorem setSim_filter_allows (hc : PreLookup cPost cPre) {deferred : RuleMatchState}
    (hdisjoint : g.resolvedState &&& deferred = 0#4) {sPost sPre : RuleMatchStateSet}
    (h : SetSim deferred sPost sPre) :
    SetSim deferred (sPost.filter (g.allows cPost)) (sPre.filter (g.allows cPre)) :=
  h.filter fun _ _ hxy hx => g.allows_preLookup hc hxy hdisjoint hx

open RuleMatchState RuleMatchStateSet in
/-- A default rule without `invert` keeps the simulation of its candidate states. -/
theorem setSim_matchStatesWithBase (hres : g.resolvedItems = true) (hc : PreLookup cPost cPre)
    (fPost fPre : Option (RuleMatchState → RuleMatchStateSet)) (hnone : fPost.isNone = fPre.isNone)
    {deferred bPost bPre : RuleMatchState} (hb : AgreeOutside deferred bPost bPre)
    (hcand : SetSim deferred (g.candidateStates fPost cPost (g.baseState cPost bPost))
      (g.candidateStates fPre cPre (g.baseState cPre bPre))) :
    SetSim deferred (g.matchStatesWithBase fPost false cPost bPost)
      (g.matchStatesWithBase fPre false cPre bPre) := by
  cases hempty : (g.isEmpty && fPost.isNone) with
  | true =>
    rw [matchStatesWithBase_of_isEmpty g fPost false cPost bPost hempty,
      matchStatesWithBase_of_isEmpty g fPre false cPre bPre (by rw [← hnone, hempty])]
    exact SetSim.single hb
  | false =>
    have hempty' : (g.isEmpty && fPre.isNone) = false := by rw [← hnone, hempty]
    have hitems : g.items.all (fun item => item.Match cPost) =
        g.items.all (fun item => item.Match cPre) := by
      simp only [resolvedItems, Bool.and_eq_true] at hres
      exact hc.all_Match_eq hres.1.1.1.1
    intro x hx
    rw [mem_matchStatesWithBase_false g fPost cPost bPost x hempty] at hx
    obtain ⟨y, hy, hxy⟩ := hcand x hx.2
    refine ⟨y, ?_, hxy⟩
    rw [mem_matchStatesWithBase_false g fPre cPre bPre y hempty', ← hitems]
    exact ⟨hx.1, hy⟩

end RuleItemGroups

mutual

/-- The groups that the address filter items of a rule and of everything below it may
fill, read with the rule-set flag `matchSource` of the rule's context. -/
def Rule.deferredState : Rule σ α → Bool → RuleMatchState
  | .default g ruleSetItem _ _, matchSource =>
    g.deferredState matchSource |||
      match ruleSetItem with
      | some item => RuleSetItem.deferredState item
      | none => 0#4
  | .logical rules _ _, _ => Rule.deferredStateAll rules

def Rule.deferredStateAll : List (Rule σ α) → RuleMatchState
  | [] => 0#4
  | rule :: rules => rule.deferredState false ||| Rule.deferredStateAll rules

def RuleSetItem.deferredState : RuleSetItem (Rule σ α) → RuleMatchState
  | ⟨setList, matchSource, _⟩ => Rule.deferredStateSets setList matchSource

def Rule.deferredStateSets : List (List (Rule σ α)) → Bool → RuleMatchState
  | [], _ => 0#4
  | rules :: setList, matchSource =>
    Rule.deferredStateRules rules matchSource ||| Rule.deferredStateSets setList matchSource

def Rule.deferredStateRules : List (Rule σ α) → Bool → RuleMatchState
  | [], _ => 0#4
  | rule :: rules, matchSource =>
    rule.deferredState matchSource ||| Rule.deferredStateRules rules matchSource

end

mutual

/-- The rule holds no inverted rule and no `match_response`, its items sit in their
groups as the constructors place them, and along every chain of merged rules no
group is filled both by address filter items and by resolved items. `deferred` holds
the groups filled by filter items above the rule. -/
def Rule.filtersApart : Rule σ α → Bool → RuleMatchState → Bool
  | r@(.default g ruleSetItem invert matchResponse), matchSource, deferred =>
    !invert && !matchResponse && g.resolvedItems &&
      g.resolvedState &&& (deferred ||| r.deferredState matchSource) == 0#4 &&
      match ruleSetItem with
      | some item => RuleSetItem.filtersApart item (deferred ||| g.deferredState matchSource)
      | none => true
  | .logical rules _ invert, _, deferred => !invert && Rule.filtersApartAll rules deferred

def Rule.filtersApartAll : List (Rule σ α) → RuleMatchState → Bool
  | [], _ => true
  | rule :: rules, deferred =>
    rule.filtersApart false deferred && Rule.filtersApartAll rules deferred

def RuleSetItem.filtersApart : RuleSetItem (Rule σ α) → RuleMatchState → Bool
  | ⟨setList, matchSource, _⟩, deferred => Rule.filtersApartSets setList matchSource deferred

def Rule.filtersApartSets : List (List (Rule σ α)) → Bool → RuleMatchState → Bool
  | [], _, _ => true
  | rules :: setList, matchSource, deferred =>
    Rule.filtersApartRules rules matchSource deferred &&
      Rule.filtersApartSets setList matchSource deferred

def Rule.filtersApartRules : List (Rule σ α) → Bool → RuleMatchState → Bool
  | [], _, _ => true
  | rule :: rules, matchSource, deferred =>
    rule.filtersApart matchSource deferred && Rule.filtersApartRules rules matchSource deferred

end

open RuleMatchState RuleMatchStateSet

mutual

/-- Pre-lookup evaluation simulates post-lookup evaluation: each state after the lookup
is matched by a state before it that agrees outside the groups filled by filter items,
from bases that agree outside `deferred`. -/
theorem Rule.setSim_preLookup : ∀ (r : Rule σ α) (cPost cPre : InboundContext σ α)
    (deferred bPost bPre : RuleMatchState), PreLookup cPost cPre →
    r.filtersApart cPost.ipcidrMatchSource deferred = true → AgreeOutside deferred bPost bPre →
    SetSim (deferred ||| r.deferredState cPost.ipcidrMatchSource)
      (r.matchStatesWithBase cPost bPost) (r.matchStatesWithBase cPre bPre)
  | .default g none invert matchResponse, cPost, cPre, deferred, bPost, bPre, hc, hapart, hb => by
    simp only [Rule.filtersApart, Rule.deferredState, BitVec.or_zero, Bool.and_eq_true,
      Bool.not_eq_true', beq_iff_eq, and_true] at hapart
    obtain ⟨⟨⟨rfl, -⟩, hres⟩, hdisjoint⟩ := hapart
    simp only [Rule.deferredState, BitVec.or_zero]
    apply g.setSim_matchStatesWithBase hres hc none none rfl (hb.or_mask _)
    exact g.setSim_filter_allows hc hdisjoint (SetSim.single (g.baseState_agreeOutside hres hc hb))
  | .default g (some item) invert matchResponse, cPost, cPre, deferred, bPost, bPre, hc, hapart,
      hb => by
    simp only [Rule.filtersApart, Rule.deferredState, Bool.and_eq_true, Bool.not_eq_true',
      beq_iff_eq] at hapart
    obtain ⟨⟨⟨⟨rfl, -⟩, hres⟩, hdisjoint⟩, hitem⟩ := hapart
    have hsim := RuleSetItem.setSim_preLookup item cPost cPre _ _ _ hc hitem
      (g.baseState_agreeOutside hres hc hb)
    rw [BitVec.or_assoc] at hsim
    simp only [Rule.deferredState]
    apply g.setSim_matchStatesWithBase hres hc (some fun base => item.matchStatesWithBase cPost base)
      (some fun base => item.matchStatesWithBase cPre base) rfl (hb.or_mask _)
    exact g.setSim_filter_allows hc hdisjoint hsim
  | .logical rules mode invert, cPost, cPre, deferred, bPost, bPre, hc, hapart, hb => by
    simp only [Rule.filtersApart, Bool.and_eq_true, Bool.not_eq_true'] at hapart
    obtain ⟨rfl, hall⟩ := hapart
    simp only [Rule.deferredState]
    cases mode with
    | and =>
      simp only [Rule.matchStatesWithBase, Bool.false_eq_true, if_false]
      have hinit : SetSim (deferred ||| Rule.deferredStateAll rules)
          (emptyRuleMatchState.withBase bPost) (emptyRuleMatchState.withBase bPre) := by
        rw [withBase_emptyRuleMatchState, withBase_emptyRuleMatchState]
        exact SetSim.single (hb.or_mask _)
      cases hpost : Rule.matchAndStates rules cPost bPost (emptyRuleMatchState.withBase bPost) with
      | none => exact SetSim.zero _ _
      | some sPost =>
        obtain ⟨sPre, hpre, hsim⟩ := Rule.setSim_matchAndStates rules cPost cPre deferred bPost
          bPre _ _ _ hc hall hb (Sub.refl _) hinit sPost hpost
        simp only [hpre]
        exact hsim
    | or =>
      simp only [Rule.matchStatesWithBase, Bool.false_eq_true, if_false]
      have hsim := Rule.setSim_matchOrStates rules cPost cPre deferred bPost bPre _ 0#16 0#16 hc
        hall hb (Sub.refl _) (SetSim.zero _ _)
      cases hempty : (Rule.matchOrStates rules cPost bPost 0#16).isEmpty with
      | true => simp only [if_true, invertedFailure_false]; exact SetSim.zero _ _
      | false =>
        simp only [hsim.isEmpty_eq_false hempty, Bool.false_eq_true, if_false]
        exact hsim

theorem Rule.setSim_matchAndStates : ∀ (rules : List (Rule σ α)) (cPost cPre : InboundContext σ α)
    (deferred bPost bPre mask : RuleMatchState) (accPost accPre : RuleMatchStateSet),
    PreLookup cPost cPre → Rule.filtersApartAll rules deferred = true →
    AgreeOutside deferred bPost bPre → Sub (deferred ||| Rule.deferredStateAll rules) mask →
    SetSim mask accPost accPre → ∀ sPost,
    Rule.matchAndStates rules cPost bPost accPost = some sPost →
    ∃ sPre, Rule.matchAndStates rules cPre bPre accPre = some sPre ∧ SetSim mask sPost sPre
  | [], _, _, _, _, _, _, _, accPre, _, _, _, _, hacc, sPost, hpost => by
    simp only [Rule.matchAndStates, Option.some.injEq] at hpost
    subst hpost
    exact ⟨accPre, rfl, hacc⟩
  | rule :: rules, cPost, cPre, deferred, bPost, bPre, mask, accPost, accPre, hc, hall, hb, hsub,
      hacc, sPost, hpost => by
    simp only [Rule.filtersApartAll, Bool.and_eq_true] at hall
    simp only [Rule.deferredStateAll] at hsub
    have hrule : SetSim mask (rule.matchStatesWithBase cPost.resetRuleCache bPost)
        (rule.matchStatesWithBase cPre.resetRuleCache bPre) :=
      (Rule.setSim_preLookup rule _ _ deferred bPost bPre hc.resetRuleCache hall.1 hb).mono
        hsub.of_or_or_left
    simp only [Rule.matchAndStates] at hpost ⊢
    cases hnested : (rule.matchStatesWithBase cPost.resetRuleCache bPost).isEmpty with
    | true => simp [hnested] at hpost
    | false =>
      simp only [hnested, Bool.false_eq_true, if_false] at hpost
      simp only [hrule.isEmpty_eq_false hnested, Bool.false_eq_true, if_false]
      exact Rule.setSim_matchAndStates rules cPost cPre deferred bPost bPre mask _ _ hc hall.2 hb
        hsub.of_or_or_right (hacc.combine hrule) sPost hpost

theorem Rule.setSim_matchOrStates : ∀ (rules : List (Rule σ α)) (cPost cPre : InboundContext σ α)
    (deferred bPost bPre mask : RuleMatchState) (accPost accPre : RuleMatchStateSet),
    PreLookup cPost cPre → Rule.filtersApartAll rules deferred = true →
    AgreeOutside deferred bPost bPre → Sub (deferred ||| Rule.deferredStateAll rules) mask →
    SetSim mask accPost accPre →
    SetSim mask (Rule.matchOrStates rules cPost bPost accPost)
      (Rule.matchOrStates rules cPre bPre accPre)
  | [], _, _, _, _, _, _, _, _, _, _, _, _, hacc => hacc
  | rule :: rules, cPost, cPre, deferred, bPost, bPre, mask, accPost, accPre, hc, hall, hb, hsub,
      hacc => by
    simp only [Rule.filtersApartAll, Bool.and_eq_true] at hall
    simp only [Rule.deferredStateAll] at hsub
    have hrule : SetSim mask (rule.matchStatesWithBase cPost.resetRuleCache bPost)
        (rule.matchStatesWithBase cPre.resetRuleCache bPre) :=
      (Rule.setSim_preLookup rule _ _ deferred bPost bPre hc.resetRuleCache hall.1 hb).mono
        hsub.of_or_or_left
    exact Rule.setSim_matchOrStates rules cPost cPre deferred bPost bPre mask _ _ hc hall.2 hb
      hsub.of_or_or_right (hacc.merge hrule)

theorem RuleSetItem.setSim_preLookup : ∀ (item : RuleSetItem (Rule σ α))
    (cPost cPre : InboundContext σ α) (deferred bPost bPre : RuleMatchState),
    PreLookup cPost cPre → item.filtersApart deferred = true → AgreeOutside deferred bPost bPre →
    SetSim (deferred ||| item.deferredState) (item.matchStatesWithBase cPost bPost)
      (item.matchStatesWithBase cPre bPre)
  | ⟨setList, matchSource, acceptEmpty⟩, _, _, deferred, bPost, bPre, hc, hapart, hb =>
    Rule.setSim_matchRuleSetsWithBase setList _ _ deferred bPost bPre _ 0#16 0#16
      (hc.nestedMetadata ⟨setList, matchSource, acceptEmpty⟩) hapart hb (Sub.refl _)
      (SetSim.zero _ _)

theorem Rule.setSim_matchRuleSetsWithBase : ∀ (setList : List (List (Rule σ α)))
    (cPost cPre : InboundContext σ α) (deferred bPost bPre mask : RuleMatchState)
    (accPost accPre : RuleMatchStateSet), PreLookup cPost cPre →
    Rule.filtersApartSets setList cPost.ipcidrMatchSource deferred = true →
    AgreeOutside deferred bPost bPre →
    Sub (deferred ||| Rule.deferredStateSets setList cPost.ipcidrMatchSource) mask →
    SetSim mask accPost accPre →
    SetSim mask (Rule.matchRuleSetsWithBase setList cPost bPost accPost)
      (Rule.matchRuleSetsWithBase setList cPre bPre accPre)
  | [], _, _, _, _, _, _, _, _, _, _, _, _, hacc => hacc
  | rules :: setList, cPost, cPre, deferred, bPost, bPre, mask, accPost, accPre, hc, hapart, hb,
      hsub, hacc => by
    simp only [Rule.filtersApartSets, Bool.and_eq_true] at hapart
    simp only [Rule.deferredStateSets] at hsub
    have hrules := Rule.setSim_matchRulesWithBase rules cPost cPre deferred bPost bPre mask 0#16
      0#16 hc hapart.1 hb hsub.of_or_or_left (SetSim.zero _ _)
    exact Rule.setSim_matchRuleSetsWithBase setList cPost cPre deferred bPost bPre mask _ _ hc
      hapart.2 hb hsub.of_or_or_right (hacc.merge hrules)

theorem Rule.setSim_matchRulesWithBase : ∀ (rules : List (Rule σ α))
    (cPost cPre : InboundContext σ α) (deferred bPost bPre mask : RuleMatchState)
    (accPost accPre : RuleMatchStateSet), PreLookup cPost cPre →
    Rule.filtersApartRules rules cPost.ipcidrMatchSource deferred = true →
    AgreeOutside deferred bPost bPre →
    Sub (deferred ||| Rule.deferredStateRules rules cPost.ipcidrMatchSource) mask →
    SetSim mask accPost accPre →
    SetSim mask (Rule.matchRulesWithBase rules cPost bPost accPost)
      (Rule.matchRulesWithBase rules cPre bPre accPre)
  | [], _, _, _, _, _, _, _, _, _, _, _, _, hacc => hacc
  | rule :: rules, cPost, cPre, deferred, bPost, bPre, mask, accPost, accPre, hc, hapart, hb,
      hsub, hacc => by
    simp only [Rule.filtersApartRules, Bool.and_eq_true] at hapart
    simp only [Rule.deferredStateRules] at hsub
    have hrule : SetSim mask (rule.matchStatesWithBase cPost.resetRuleMatchCache bPost)
        (rule.matchStatesWithBase cPre.resetRuleMatchCache bPre) :=
      (Rule.setSim_preLookup rule _ _ deferred bPost bPre hc.resetRuleMatchCache hapart.1 hb).mono
        hsub.of_or_or_left
    exact Rule.setSim_matchRulesWithBase rules cPost cPre deferred bPost bPre mask _ _ hc
      hapart.2 hb hsub.of_or_or_right (hacc.merge hrule)

end

end SingBox
