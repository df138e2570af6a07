import SingBox.RuleInvert

/-!
# Rule-set merge semantics

The documentation of route rules says that each branch inside an included rule set
is merged into the outer rule, and that different branches keep OR semantics. The
code never builds the merged rule: the outer rule hands its satisfied groups to the
rule-set item as a base state, each headless rule of each set adds its own groups and
filters, and the outer rule filters the union again.

`RuleSetMergeMatches` states the documented reading. The outer rule's plain items
match, and some branch `B` of some set either merges into the outer rule (each of the
four groups that is non-empty in either rule has a matching item in one of them), or
is inverted and does not match on its own, in which case the outer rule's groups must
hold by themselves. A rule reads its `ip_cidr` items with the flags of its own context:
the branch is read on the context the rule-set item builds, so under
`rule_set_ip_cidr_match_source` its `ip_cidr` items join the source-address group.
The main theorem shows that `Match` computes exactly this reading.
-/

namespace SingBox

variable {σ α : Type}

namespace RuleItemGroups

variable (g : RuleItemGroups σ α)

/-- The source-address group as the documentation counts it. -/
def sourceAddressGroup (matchSource : Bool) : List (RuleItem σ α) :=
  g.sourceAddressItems ++ if matchSource then g.destinationIPCIDRItems else []

/-- The destination-address group as the documentation counts it. -/
def destinationAddressGroup (matchSource : Bool) : List (RuleItem σ α) :=
  g.destinationAddressItems ++ if matchSource then [] else g.destinationIPCIDRItems

/-- The groups of a rule with no item. -/
def empty : RuleItemGroups σ α :=
  ⟨[], [], [], [], [], []⟩

end RuleItemGroups

/-- One group of a merged rule: when the outer rule or the branch has items in the
group, one of those items matches. -/
def GroupMatches (outer inner : List (RuleItem σ α)) (m n : InboundContext σ α) : Prop :=
  (outer ≠ [] ∨ inner ≠ []) → matchAnyItem outer m = true ∨ matchAnyItem inner n = true

/-- The four groups of the merged rule `outer + inner`, the outer rule read on `m` and
the branch on `n`. -/
def GroupsMatch (outer inner : RuleItemGroups σ α) (m n : InboundContext σ α) : Prop :=
  GroupMatches (outer.sourceAddressGroup m.ipcidrMatchSource)
      (inner.sourceAddressGroup n.ipcidrMatchSource) m n ∧
    GroupMatches outer.sourcePortItems inner.sourcePortItems m n ∧
    GroupMatches (outer.destinationAddressGroup m.ipcidrMatchSource)
      (inner.destinationAddressGroup n.ipcidrMatchSource) m n ∧
    GroupMatches outer.destinationPortItems inner.destinationPortItems m n

/-- The documented formula of the merged rule `outer + inner`. -/
def MergedMatches (outer inner : RuleItemGroups σ α) (m n : InboundContext σ α) : Prop :=
  (∀ item ∈ outer.items, item.Match m = true) ∧ (∀ item ∈ inner.items, item.Match n = true) ∧
    GroupsMatch outer inner m n

/-- A headless branch `B` lets the outer rule match: merged into it, or inverted and
failing on its own, with the outer rule matching alone. -/
def BranchMerges (g gB : RuleItemGroups σ α) (invB : Bool) (m n : InboundContext σ α) :
    Prop :=
  (invB = false ∧ MergedMatches g gB m n) ∨
    (invB = true ∧ (gB.isEmpty = true ∨ ¬ MergedMatches .empty gB n n) ∧
      MergedMatches g .empty m n)

/-- The documented reading of a default rule whose rule-set item is `item`. -/
def RuleSetMergeMatches (g : RuleItemGroups σ α) (item : RuleSetItem (Rule σ α))
    (m : InboundContext σ α) : Prop :=
  (∀ it ∈ g.items, it.Match m = true) ∧
    ∃ rules ∈ item.setList, ∃ gB invB, Rule.default gB none invB false ∈ rules ∧
      BranchMerges g gB invB m (item.nestedMetadata m)

namespace RuleItemGroups

variable (g : RuleItemGroups σ α) {c : InboundContext σ α}

theorem sourceAddressMatches_eq (hc : c.ignoreDestinationIPCIDRMatch = false) :
    g.sourceAddressMatches c = matchAnyItem (g.sourceAddressGroup c.ipcidrMatchSource) c := by
  cases hs : c.ipcidrMatchSource <;>
    simp [sourceAddressMatches, sourceAddressGroup, destinationIPCIDRMatchesSource, hc, hs,
      matchAnyItem_append, matchAnyItem_nonempty]

theorem destinationAddressMatches_eq (hc : c.ignoreDestinationIPCIDRMatch = false) :
    g.destinationAddressMatches c =
      matchAnyItem (g.destinationAddressGroup c.ipcidrMatchSource) c := by
  cases hs : c.ipcidrMatchSource <;>
    simp [destinationAddressMatches, destinationAddressGroup,
      destinationIPCIDRMatchesDestination, hc, hs, matchAnyItem_append, matchAnyItem_nonempty]

theorem requiresSourceAddressMatch_iff (hc : c.ignoreDestinationIPCIDRMatch = false) :
    g.requiresSourceAddressMatch c = true ↔ g.sourceAddressGroup c.ipcidrMatchSource ≠ [] := by
  cases hs : c.ipcidrMatchSource <;>
    simp [requiresSourceAddressMatch, sourceAddressGroup, destinationIPCIDRMatchesSource, hc, hs,
      or_iff_not_imp_left]

theorem requiresDestinationAddressMatch_iff (hc : c.ignoreDestinationIPCIDRMatch = false) :
    g.requiresDestinationAddressMatch c = true ↔
      g.destinationAddressGroup c.ipcidrMatchSource ≠ [] := by
  cases hs : c.ipcidrMatchSource <;>
    simp [requiresDestinationAddressMatch, destinationAddressGroup,
      destinationIPCIDRMatchesDestination, hc, hs, or_iff_not_imp_left]

@[simp]
theorem empty_items : (empty : RuleItemGroups σ α).items = [] := rfl

@[simp]
theorem empty_isEmpty : (empty : RuleItemGroups σ α).isEmpty = true := rfl

@[simp]
theorem empty_baseState (c : InboundContext σ α) (evaluationBase : RuleMatchState) :
    (empty : RuleItemGroups σ α).baseState c evaluationBase = evaluationBase := by
  apply RuleMatchState.ext_has <;>
    simp [baseState_has_sourceAddress, baseState_has_sourcePort,
      baseState_has_destinationAddress, baseState_has_destinationPort, sourceAddressMatches,
      destinationAddressMatches, destinationIPCIDRMatchesSource,
      destinationIPCIDRMatchesDestination, empty, matchAnyItem]

@[simp]
theorem empty_allows (c : InboundContext σ α) (state : RuleMatchState) :
    (empty : RuleItemGroups σ α).allows c state = true := by
  simp [allows_eq_true, requiresSourceAddressMatch, requiresDestinationAddressMatch,
    destinationIPCIDRMatchesSource, destinationIPCIDRMatchesDestination, empty]

theorem eq_empty_of_isEmpty (h : g.isEmpty = true) : g = empty := by
  rcases g with ⟨items, sourceAddressItems, sourcePortItems, destinationAddressItems,
    destinationIPCIDRItems, destinationPortItems⟩
  simp only [isEmpty, Bool.and_eq_true, List.isEmpty_iff] at h
  obtain ⟨⟨⟨⟨⟨rfl, rfl⟩, rfl⟩, rfl⟩, rfl⟩, rfl⟩ := h
  rfl

end RuleItemGroups

theorem groupMatches_iff (outer inner : List (RuleItem σ α)) (m n : InboundContext σ α)
    (bit : Bool) (hbit : bit = (matchAnyItem outer m || matchAnyItem inner n)) :
    ((outer ≠ [] → bit = true) ∧ (inner ≠ [] → bit = true)) ↔
      GroupMatches outer inner m n := by
  subst hbit
  simp only [GroupMatches, Bool.or_eq_true]
  tauto

/-- The outer filter and the branch filter, both applied to the state the branch
computes from the outer rule's base state, are the four groups of the merged rule. -/
theorem allows_merged_iff (outer inner : RuleItemGroups σ α) {m n : InboundContext σ α}
    (hm : m.ignoreDestinationIPCIDRMatch = false) (hn : n.ignoreDestinationIPCIDRMatch = false) :
    (outer.allows m (inner.baseState n (outer.baseState m 0#4)) = true ∧
        inner.allows n (inner.baseState n (outer.baseState m 0#4)) = true) ↔
      GroupsMatch outer inner m n := by
  have hsa := groupMatches_iff (outer.sourceAddressGroup m.ipcidrMatchSource)
    (inner.sourceAddressGroup n.ipcidrMatchSource) m n
    ((inner.baseState n (outer.baseState m 0#4)).has ruleMatchSourceAddress) (by
      simp [RuleItemGroups.baseState_has_sourceAddress,
        RuleItemGroups.sourceAddressMatches_eq _ hm, RuleItemGroups.sourceAddressMatches_eq _ hn])
  have hsp := groupMatches_iff outer.sourcePortItems inner.sourcePortItems m n
    ((inner.baseState n (outer.baseState m 0#4)).has ruleMatchSourcePort) (by
      simp [RuleItemGroups.baseState_has_sourcePort])
  have hda := groupMatches_iff (outer.destinationAddressGroup m.ipcidrMatchSource)
    (inner.destinationAddressGroup n.ipcidrMatchSource) m n
    ((inner.baseState n (outer.baseState m 0#4)).has ruleMatchDestinationAddress) (by
      simp [RuleItemGroups.baseState_has_destinationAddress,
        RuleItemGroups.destinationAddressMatches_eq _ hm,
        RuleItemGroups.destinationAddressMatches_eq _ hn])
  have hdp := groupMatches_iff outer.destinationPortItems inner.destinationPortItems m n
    ((inner.baseState n (outer.baseState m 0#4)).has ruleMatchDestinationPort) (by
      simp [RuleItemGroups.baseState_has_destinationPort])
  rw [GroupsMatch, ← hsa, ← hsp, ← hda, ← hdp, RuleItemGroups.allows_eq_true,
    RuleItemGroups.allows_eq_true, RuleItemGroups.requiresSourceAddressMatch_iff _ hm,
    RuleItemGroups.requiresSourceAddressMatch_iff _ hn,
    RuleItemGroups.requiresDestinationAddressMatch_iff _ hm,
    RuleItemGroups.requiresDestinationAddressMatch_iff _ hn]
  constructor
  · rintro ⟨⟨sa, sp, da, dp⟩, sa', sp', da', dp'⟩
    exact ⟨⟨sa, sa'⟩, ⟨sp, sp'⟩, ⟨da, da'⟩, dp, dp'⟩
  · rintro ⟨⟨sa, sa'⟩, ⟨sp, sp'⟩, ⟨da, da'⟩, dp, dp'⟩
    exact ⟨⟨sa, sp, da, dp⟩, sa', sp', da', dp'⟩

theorem RuleItemGroups.mem_matchStatesWithBase_none (g : RuleItemGroups σ α)
    (c : InboundContext σ α) (b x : RuleMatchState) (hne : g.isEmpty = false) :
    x ∈ g.matchStatesWithBase none false c b ↔
      g.items.all (fun item => item.Match c) = true ∧ x = g.baseState c b ∧
        g.allows c x = true := by
  rw [RuleItemGroups.mem_matchStatesWithBase_false g none c b x (by simp [hne]),
    RuleItemGroups.mem_candidateStates]

theorem mergedMatches_iff (outer inner : RuleItemGroups σ α) {m n : InboundContext σ α}
    (hm : m.ignoreDestinationIPCIDRMatch = false) (hn : n.ignoreDestinationIPCIDRMatch = false)
    (hitems : ∀ item ∈ outer.items, item.Match m = true) :
    MergedMatches outer inner m n ↔
      inner.items.all (fun item => item.Match n) = true ∧
        outer.allows m (inner.baseState n (outer.baseState m 0#4)) = true ∧
        inner.allows n (inner.baseState n (outer.baseState m 0#4)) = true := by
  rw [MergedMatches, ← allows_merged_iff outer inner hm hn, List.all_eq_true]
  exact and_iff_right hitems

/-- One headless branch of a rule set, evaluated at the outer rule's base state and
filtered by the outer rule, is the branch case of the documented reading. -/
theorem exists_branch_iff (g gB : RuleItemGroups σ α) (invB : Bool) (m n : InboundContext σ α)
    (hm : m.ignoreDestinationIPCIDRMatch = false) (hn : n.ignoreDestinationIPCIDRMatch = false)
    (hitems : ∀ item ∈ g.items, item.Match m = true) :
    (∃ x, x ∈ gB.matchStatesWithBase none invB n (g.baseState m 0#4) ∧ g.allows m x = true) ↔
      BranchMerges g gB invB m n := by
  have halone : g.allows m (g.baseState m 0#4) = true ↔ MergedMatches g .empty m n := by
    rw [mergedMatches_iff g .empty hm hn hitems]
    simp
  cases hempty : gB.isEmpty with
  | true =>
    obtain rfl := gB.eq_empty_of_isEmpty hempty
    rw [RuleItemGroups.matchStatesWithBase_of_isEmpty _ _ _ _ _ (by simp)]
    cases invB <;> simp [BranchMerges, halone]
  | false =>
    cases invB with
    | false =>
      simp only [RuleItemGroups.mem_matchStatesWithBase_none gB n _ _ hempty, BranchMerges,
        mergedMatches_iff g gB hm hn hitems]
      simp only [Bool.false_eq_true, false_and, or_false, true_and]
      constructor
      · rintro ⟨x, ⟨hall, rfl, hinner⟩, houter⟩
        exact ⟨hall, houter, hinner⟩
      · rintro ⟨hall, houter, hinner⟩
        exact ⟨_, ⟨hall, rfl, hinner⟩, houter⟩
    | true =>
      have hown : (gB.matchStatesWithBase none false n 0#4).isEmpty = false ↔
          MergedMatches .empty gB n n := by
        rw [RuleMatchStateSet.isEmpty_eq_false_iff,
          mergedMatches_iff .empty gB hn hn (by simp)]
        simp [RuleItemGroups.mem_matchStatesWithBase_none gB n _ _ hempty]
      rw [RuleItemGroups.matchStatesWithBase_invert gB none n hn (by simp [hempty])]
      cases hB : (gB.matchStatesWithBase none false n 0#4).isEmpty with
      | true =>
        have hfails : ¬ MergedMatches .empty gB n n := fun h => by simp [hown.mpr h] at hB
        simp [BranchMerges, halone, hfails]
      | false => simp [BranchMerges, hown.mp hB, hempty]

theorem RuleSetItem.resetRuleMatchCache_nestedMetadata {R : Type} (item : RuleSetItem R)
    (m : InboundContext σ α) : (item.nestedMetadata m).resetRuleMatchCache = item.nestedMetadata m :=
  rfl

theorem Rule.Match_default_some_iff (g : RuleItemGroups σ α) (item : RuleSetItem (Rule σ α))
    (m : InboundContext σ α) :
    (Rule.default g (some item) false false).Match m = true ↔
      (∀ it ∈ g.items, it.Match m = true) ∧
        ∃ x, x ∈ item.matchStatesWithBase m (g.baseState m 0#4) ∧ g.allows m x = true := by
  simp only [Rule.Match, Rule.matchStates, Rule.matchStatesWithBase, Bool.not_eq_true',
    RuleMatchStateSet.isEmpty_eq_false_iff,
    RuleItemGroups.mem_matchStatesWithBase_false g
      (some fun base => item.matchStatesWithBase m base) m 0#4 _ (by simp),
    RuleItemGroups.mem_candidateStates, List.all_eq_true, exists_and_left]

/-- **Rule-set merge semantics.** A default rule (route, or DNS without
`match_response`) whose rule sets hold headless default rules matches exactly when
its own items match and some branch of some set merges into it by the documented
formula, an inverted branch counting when it fails on its own. -/
theorem Rule.Match_ruleSet_iff_merged (g : RuleItemGroups σ α) (item : RuleSetItem (Rule σ α))
    (hheadless : ∀ rules ∈ item.setList, ∀ r ∈ rules, ∃ gB invB, r = .default gB none invB false)
    (m : InboundContext σ α) (hig : m.ignoreDestinationIPCIDRMatch = false) :
    ((Rule.default g (some item) false false).Match m = true ↔ RuleSetMergeMatches g item m) ∧
    (DNSRule.Match (Rule.default g (some item) false false) m = true ↔
      RuleSetMergeMatches g item m) := by
  rw [DNSRule.Match_default, and_self, Rule.Match_default_some_iff, RuleSetMergeMatches]
  apply and_congr_right
  intro hitems
  have hbranch := fun gB invB =>
    exists_branch_iff g gB invB m (item.nestedMetadata m) hig hig hitems
  simp only [RuleSetItem.mem_matchStatesWithBase, RuleSetItem.resetRuleMatchCache_nestedMetadata]
  constructor
  · rintro ⟨x, ⟨rules, hrules, r, hr, hx⟩, hallows⟩
    obtain ⟨gB, invB, rfl⟩ := hheadless rules hrules r hr
    exact ⟨rules, hrules, gB, invB, hr, (hbranch gB invB).mp ⟨x, hx, hallows⟩⟩
  · rintro ⟨rules, hrules, gB, invB, hr, hmerges⟩
    obtain ⟨x, hx, hallows⟩ := (hbranch gB invB).mpr hmerges
    exact ⟨x, ⟨rules, hrules, _, hr, hx⟩, hallows⟩

/-- Port 443 as a route rule's only group. -/
def port443Groups : RuleItemGroups Nat Nat :=
  { items := [], sourceAddressItems := [], sourcePortItems := [], destinationAddressItems := [],
    destinationIPCIDRItems := [], destinationPortItems := [.plain (· == 443)] }

/-- A rule-set item read as source, with an `ip_cidr` branch and an inverted branch. -/
def sourceRuleSetItem : RuleSetItem (Rule Nat Nat) :=
  { setList :=
      [[.default { RuleItemGroups.empty with destinationIPCIDRItems := [.ipcidr false (· == 7)] }
          none false false,
        .default { RuleItemGroups.empty with sourcePortItems := [.plain (· == 80)] }
          none true false]],
    ipCidrMatchSource := true, ipCidrAcceptEmpty := false }

theorem port443_sourceRuleSet_merged :
    (∀ rules ∈ sourceRuleSetItem.setList, ∀ r ∈ rules,
        ∃ gB invB, r = Rule.default gB none invB false) ∧
      port443Context.ignoreDestinationIPCIDRMatch = false ∧
      (((Rule.default port443Groups (some sourceRuleSetItem) false false).Match port443Context =
          true ↔ RuleSetMergeMatches port443Groups sourceRuleSetItem port443Context) ∧
        (DNSRule.Match (Rule.default port443Groups (some sourceRuleSetItem) false false)
            port443Context = true ↔
          RuleSetMergeMatches port443Groups sourceRuleSetItem port443Context)) := by
  have hheadless : ∀ rules ∈ sourceRuleSetItem.setList, ∀ r ∈ rules,
      ∃ gB invB, r = Rule.default gB none invB false := by
    intro rules hrules r hr
    simp only [sourceRuleSetItem, List.mem_singleton] at hrules
    subst hrules
    simp only [List.mem_cons, List.not_mem_nil, or_false] at hr
    rcases hr with rfl | rfl <;> exact ⟨_, _, rfl⟩
  exact ⟨hheadless, rfl,
    Rule.Match_ruleSet_iff_merged port443Groups sourceRuleSetItem hheadless port443Context rfl⟩

example : (Rule.default port443Groups (some sourceRuleSetItem) false false).Match
    { port443Context with source := 8 } = true := by
  decide

end SingBox
