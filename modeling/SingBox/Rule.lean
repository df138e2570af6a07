import SingBox.RuleItem

/-!
# Default and logical rules, rule-set items and rule sets

`route/rule/rule_abstract.go`, `rule_item_rule_set.go`, `rule_set_local.go`,
`rule_set_remote.go` and the DNS entry points of `rule_dns.go`.

A rule is a tree. A default rule holds its items by group and at most one rule-set
item, which refers to rule sets given by their rules; a logical rule holds its
children. Route, DNS and headless rules all evaluate through the two abstract rules,
so one tree type serves for all of them; `matchResponse` is the field of
`DefaultDNSRule` and is `false` for the other kinds. `LocalRuleSet` and
`RemoteRuleSet` evaluate their rules in the same way, and a rule set is its list of
rules.

`matchStatesWithBase` is the mutual recursion of the Go methods over this tree. Each
nested call receives a copy of the context with the cache reset, so only the
`DidMatch` writes of a default rule are seen by the code after them; `didMatch`
computes the value that the inverted branch reads.
-/

namespace SingBox

variable {σ α : Type}

/-- The item lists of an `abstractDefaultRule`, by group. -/
structure RuleItemGroups (σ α : Type) where
  items : List (RuleItem σ α)
  sourceAddressItems : List (RuleItem σ α)
  sourcePortItems : List (RuleItem σ α)
  destinationAddressItems : List (RuleItem σ α)
  destinationIPCIDRItems : List (RuleItem σ α)
  destinationPortItems : List (RuleItem σ α)

namespace RuleItemGroups

variable (g : RuleItemGroups σ α) (m : InboundContext σ α)

/-- No item at all: `allItems` is empty when there is no rule-set item either. -/
def isEmpty : Bool :=
  g.items.isEmpty && g.sourceAddressItems.isEmpty && g.sourcePortItems.isEmpty &&
    g.destinationAddressItems.isEmpty && g.destinationIPCIDRItems.isEmpty &&
    g.destinationPortItems.isEmpty

def destinationIPCIDRMatchesSource : Bool :=
  !m.ignoreDestinationIPCIDRMatch && m.ipcidrMatchSource && !g.destinationIPCIDRItems.isEmpty

def destinationIPCIDRMatchesDestination : Bool :=
  !m.ignoreDestinationIPCIDRMatch && !m.ipcidrMatchSource && !g.destinationIPCIDRItems.isEmpty

def requiresSourceAddressMatch : Bool :=
  !g.sourceAddressItems.isEmpty || g.destinationIPCIDRMatchesSource m

def requiresDestinationAddressMatch : Bool :=
  !g.destinationAddressItems.isEmpty || g.destinationIPCIDRMatchesDestination m

/-- `baseState` after the grouped-item blocks of `matchStatesWithBase`. -/
def baseState (evaluationBase : RuleMatchState) : RuleMatchState :=
  let baseState := evaluationBase
  let baseState :=
    if !g.sourceAddressItems.isEmpty && matchAnyItem g.sourceAddressItems m then
      baseState ||| ruleMatchSourceAddress
    else baseState
  let baseState :=
    if g.destinationIPCIDRMatchesSource m && !baseState.has ruleMatchSourceAddress &&
        matchAnyItem g.destinationIPCIDRItems m then
      baseState ||| ruleMatchSourceAddress
    else baseState
  let baseState :=
    if !g.sourcePortItems.isEmpty && matchAnyItem g.sourcePortItems m then
      baseState ||| ruleMatchSourcePort
    else baseState
  let baseState :=
    if !g.destinationAddressItems.isEmpty && matchAnyItem g.destinationAddressItems m then
      baseState ||| ruleMatchDestinationAddress
    else baseState
  let baseState :=
    if g.destinationIPCIDRMatchesDestination m && !baseState.has ruleMatchDestinationAddress &&
        matchAnyItem g.destinationIPCIDRItems m then
      baseState ||| ruleMatchDestinationAddress
    else baseState
  if !g.destinationPortItems.isEmpty && matchAnyItem g.destinationPortItems m then
    baseState ||| ruleMatchDestinationPort
  else baseState

/-- The source-address group matched: a `source_ip_cidr` (or private) item, or an
`ip_cidr` item read against the source. -/
def sourceAddressMatches : Bool :=
  matchAnyItem g.sourceAddressItems m ||
    (g.destinationIPCIDRMatchesSource m && matchAnyItem g.destinationIPCIDRItems m)

/-- The destination-address group matched: a domain item, or an `ip_cidr` item read
against the destination. -/
def destinationAddressMatches : Bool :=
  matchAnyItem g.destinationAddressItems m ||
    (g.destinationIPCIDRMatchesDestination m && matchAnyItem g.destinationIPCIDRItems m)

theorem baseState_has_sourceAddress (evaluationBase : RuleMatchState) :
    (g.baseState m evaluationBase).has ruleMatchSourceAddress =
      (evaluationBase.has ruleMatchSourceAddress || g.sourceAddressMatches m) := by
  simp only [baseState, sourceAddressMatches, RuleMatchState.has_ite_or, matchAnyItem_nonempty]
  cases evaluationBase.has ruleMatchSourceAddress <;>
    cases matchAnyItem g.sourceAddressItems m <;>
    simp [ruleMatchSourceAddress, ruleMatchSourcePort, ruleMatchDestinationAddress,
      ruleMatchDestinationPort, RuleMatchState.has]

theorem baseState_has_sourcePort (evaluationBase : RuleMatchState) :
    (g.baseState m evaluationBase).has ruleMatchSourcePort =
      (evaluationBase.has ruleMatchSourcePort || matchAnyItem g.sourcePortItems m) := by
  simp only [baseState, RuleMatchState.has_ite_or, matchAnyItem_nonempty]
  simp [ruleMatchSourceAddress, ruleMatchSourcePort, ruleMatchDestinationAddress,
    ruleMatchDestinationPort, RuleMatchState.has]

theorem baseState_has_destinationAddress (evaluationBase : RuleMatchState) :
    (g.baseState m evaluationBase).has ruleMatchDestinationAddress =
      (evaluationBase.has ruleMatchDestinationAddress || g.destinationAddressMatches m) := by
  simp only [baseState, destinationAddressMatches, RuleMatchState.has_ite_or,
    matchAnyItem_nonempty]
  cases evaluationBase.has ruleMatchDestinationAddress <;>
    cases matchAnyItem g.destinationAddressItems m <;>
    simp [ruleMatchSourceAddress, ruleMatchSourcePort, ruleMatchDestinationAddress,
      ruleMatchDestinationPort, RuleMatchState.has]

theorem baseState_has_destinationPort (evaluationBase : RuleMatchState) :
    (g.baseState m evaluationBase).has ruleMatchDestinationPort =
      (evaluationBase.has ruleMatchDestinationPort || matchAnyItem g.destinationPortItems m) := by
  simp only [baseState, RuleMatchState.has_ite_or, matchAnyItem_nonempty]
  simp [ruleMatchSourceAddress, ruleMatchSourcePort, ruleMatchDestinationAddress,
    ruleMatchDestinationPort, RuleMatchState.has]

theorem baseState_congr {m m' : InboundContext σ α} (h : ItemAgree m m')
    (hig : m.ignoreDestinationIPCIDRMatch = m'.ignoreDestinationIPCIDRMatch)
    (evaluationBase : RuleMatchState) :
    g.baseState m evaluationBase = g.baseState m' evaluationBase := by
  apply RuleMatchState.ext_has <;>
    simp only [baseState_has_sourceAddress, baseState_has_sourcePort,
      baseState_has_destinationAddress, baseState_has_destinationPort, sourceAddressMatches,
      destinationAddressMatches, destinationIPCIDRMatchesSource,
      destinationIPCIDRMatchesDestination, matchAnyItem_congr _ h, h.ipcidrMatchSource, hig]

/-- The filter applied to the candidate states of a default rule. -/
def allows (state : RuleMatchState) : Bool :=
  if g.requiresSourceAddressMatch m && !state.has ruleMatchSourceAddress then false
  else if !g.sourcePortItems.isEmpty && !state.has ruleMatchSourcePort then false
  else if g.requiresDestinationAddressMatch m && !state.has ruleMatchDestinationAddress then false
  else if !g.destinationPortItems.isEmpty && !state.has ruleMatchDestinationPort then false
  else true

theorem allows_eq_true (state : RuleMatchState) :
    g.allows m state = true ↔
      (g.requiresSourceAddressMatch m = true → state.has ruleMatchSourceAddress = true) ∧
      (g.sourcePortItems ≠ [] → state.has ruleMatchSourcePort = true) ∧
      (g.requiresDestinationAddressMatch m = true →
        state.has ruleMatchDestinationAddress = true) ∧
      (g.destinationPortItems ≠ [] → state.has ruleMatchDestinationPort = true) := by
  unfold allows
  split_ifs <;> simp_all

theorem allows_congr {m m' : InboundContext σ α} (h : ItemAgree m m')
    (hig : m.ignoreDestinationIPCIDRMatch = m'.ignoreDestinationIPCIDRMatch)
    (state : RuleMatchState) : g.allows m state = g.allows m' state := by
  apply Bool.eq_iff_iff.mpr
  simp only [allows_eq_true, requiresSourceAddressMatch, requiresDestinationAddressMatch,
    destinationIPCIDRMatchesSource, destinationIPCIDRMatchesDestination, h.ipcidrMatchSource, hig]

/-- `metadata.DidMatch` where the inverted branch reads it: every block before it has
run and set it when its group was evaluated. -/
def didMatch (hasRuleSet : Bool) : Bool :=
  m.didMatch || !g.sourceAddressItems.isEmpty || g.destinationIPCIDRMatchesSource m ||
    !g.sourcePortItems.isEmpty || !g.destinationAddressItems.isEmpty ||
    g.destinationIPCIDRMatchesDestination m || !g.destinationPortItems.isEmpty ||
    !g.items.isEmpty || hasRuleSet

end RuleItemGroups

/-- `C.LogicalTypeAnd` and `C.LogicalTypeOr`; the constructors refuse any other mode. -/
inductive LogicalMode where
  | and
  | or
deriving DecidableEq, Repr

/-- `RuleSetItem` after `Start`: the rules of each referenced rule set, in tag order. -/
structure RuleSetItem (R : Type) where
  setList : List (List R)
  ipCidrMatchSource : Bool
  ipCidrAcceptEmpty : Bool

inductive Rule (σ α : Type) where
  | default (groups : RuleItemGroups σ α) (ruleSetItem : Option (RuleSetItem (Rule σ α)))
      (invert : Bool) (matchResponse : Bool)
  | logical (rules : List (Rule σ α)) (mode : LogicalMode) (invert : Bool)

def invertedFailure (invert : Bool) (base : RuleMatchState) : RuleMatchStateSet :=
  if invert then emptyRuleMatchState.withBase base else 0#16

/-- The states a default rule keeps once its plain items matched: the rule-set item's
states at `baseState`, or `baseState` alone, filtered by the rule's groups. -/
def RuleItemGroups.candidateStates (g : RuleItemGroups σ α)
    (ruleSetItem : Option (RuleMatchState → RuleMatchStateSet)) (m : InboundContext σ α)
    (baseState : RuleMatchState) : RuleMatchStateSet :=
  let stateSet :=
    match ruleSetItem with
    | some ruleSetStates => ruleSetStates baseState
    | none => singleRuleMatchState baseState
  stateSet.filter (g.allows m)

/-- `abstractDefaultRule.matchStatesWithBase`, with the rule-set item given by the
function that evaluates it at a base state. -/
def RuleItemGroups.matchStatesWithBase (g : RuleItemGroups σ α)
    (ruleSetItem : Option (RuleMatchState → RuleMatchStateSet)) (invert : Bool)
    (m : InboundContext σ α) (inheritedBase : RuleMatchState) : RuleMatchStateSet :=
  if g.isEmpty && ruleSetItem.isNone then emptyRuleMatchState.withBase inheritedBase
  else
    let evaluationBase := if invert then 0#4 else inheritedBase
    let baseState := g.baseState m evaluationBase
    if !g.items.all (fun item => item.Match m) then invertedFailure invert inheritedBase
    else
      let stateSet := g.candidateStates ruleSetItem m baseState
      if stateSet.isEmpty then invertedFailure invert inheritedBase
      else if invert then
        if m.ignoreDestinationIPCIDRMatch && stateSet == emptyRuleMatchState &&
            !g.didMatch m ruleSetItem.isSome && !g.destinationIPCIDRItems.isEmpty then
          emptyRuleMatchState.withBase inheritedBase
        else 0#16
      else stateSet

/-- The context a rule-set item hands to its rule sets. -/
def RuleSetItem.nestedMetadata {R : Type} (item : RuleSetItem R) (m : InboundContext σ α) :
    InboundContext σ α :=
  { m.resetRuleMatchCache with
    ipcidrMatchSource := item.ipCidrMatchSource
    ipcidrAcceptEmpty := item.ipCidrAcceptEmpty }

mutual

/-- `abstractDefaultRule.matchStatesWithBase` and `abstractLogicalRule.matchStatesWithBase`. -/
def Rule.matchStatesWithBase :
    Rule σ α → InboundContext σ α → RuleMatchState → RuleMatchStateSet
  | .default g ruleSetItem invert _, m, inheritedBase =>
    g.matchStatesWithBase
      (match ruleSetItem with
        | some item => some (fun base => RuleSetItem.matchStatesWithBase item m base)
        | none => none)
      invert m inheritedBase
  | .logical rules mode invert, m, base =>
    let evaluationBase := if invert then 0#4 else base
    match mode with
    | .and =>
      match Rule.matchAndStates rules m evaluationBase (emptyRuleMatchState.withBase evaluationBase) with
      | none => invertedFailure invert base
      | some stateSet => if invert then 0#16 else stateSet
    | .or =>
      let stateSet := Rule.matchOrStates rules m evaluationBase 0#16
      if stateSet.isEmpty then invertedFailure invert base
      else if invert then 0#16 else stateSet

/-- The loop of a logical `and`: `none` is the early return on an empty child. -/
def Rule.matchAndStates : List (Rule σ α) → InboundContext σ α → RuleMatchState →
    RuleMatchStateSet → Option RuleMatchStateSet
  | [], _, _, stateSet => some stateSet
  | rule :: rules, m, evaluationBase, stateSet =>
    let nestedStateSet := rule.matchStatesWithBase m.resetRuleCache evaluationBase
    if nestedStateSet.isEmpty then none
    else Rule.matchAndStates rules m evaluationBase (stateSet.combine nestedStateSet)

/-- The loop of a logical `or`. -/
def Rule.matchOrStates : List (Rule σ α) → InboundContext σ α → RuleMatchState →
    RuleMatchStateSet → RuleMatchStateSet
  | [], _, _, stateSet => stateSet
  | rule :: rules, m, evaluationBase, stateSet =>
    Rule.matchOrStates rules m evaluationBase
      (stateSet.merge (rule.matchStatesWithBase m.resetRuleCache evaluationBase))

def RuleSetItem.matchStatesWithBase :
    RuleSetItem (Rule σ α) → InboundContext σ α → RuleMatchState → RuleMatchStateSet
  | item@⟨setList, _, _⟩, m, base => Rule.matchRuleSetsWithBase setList (item.nestedMetadata m) base 0#16

/-- The loop of `RuleSetItem.matchStatesWithBase` over its rule sets. -/
def Rule.matchRuleSetsWithBase : List (List (Rule σ α)) → InboundContext σ α →
    RuleMatchState → RuleMatchStateSet → RuleMatchStateSet
  | [], _, _, stateSet => stateSet
  | rules :: setList, m, base, stateSet =>
    Rule.matchRuleSetsWithBase setList m base (stateSet.merge (Rule.matchRulesWithBase rules m base 0#16))

/-- `LocalRuleSet.matchStatesWithBase`, the same as `RemoteRuleSet`'s. -/
def Rule.matchRulesWithBase : List (Rule σ α) → InboundContext σ α → RuleMatchState →
    RuleMatchStateSet → RuleMatchStateSet
  | [], _, _, stateSet => stateSet
  | rule :: rules, m, base, stateSet =>
    Rule.matchRulesWithBase rules m base
      (stateSet.merge (rule.matchStatesWithBase m.resetRuleMatchCache base))

end

namespace Rule

def matchStates (r : Rule σ α) (m : InboundContext σ α) : RuleMatchStateSet :=
  r.matchStatesWithBase m 0#4

/-- `Match` of route, headless and rule-set rules. -/
def Match (r : Rule σ α) (m : InboundContext σ α) : Bool :=
  !(r.matchStates m).isEmpty

/-- The same rule with its top-level `invert` flag set to `invert`. -/
def withInvert : Rule σ α → Bool → Rule σ α
  | .default g ruleSetItem _ matchResponse, invert => .default g ruleSetItem invert matchResponse
  | .logical rules mode _, invert => .logical rules mode invert

/-- A default rule whose `allItems` is empty; a logical rule never is. -/
def allItemsEmpty : Rule σ α → Bool
  | .default g ruleSetItem _ _ => g.isEmpty && ruleSetItem.isNone
  | .logical _ _ _ => false

end Rule

@[simp]
theorem invertedFailure_true (base : RuleMatchState) :
    invertedFailure true base = singleRuleMatchState base := by
  simp [invertedFailure, RuleMatchStateSet.withBase_emptyRuleMatchState]

@[simp]
theorem invertedFailure_false (base : RuleMatchState) : invertedFailure false base = 0#16 := rfl

theorem RuleItemGroups.mem_candidateStates (g : RuleItemGroups σ α)
    (ruleSetItem : Option (RuleMatchState → RuleMatchStateSet)) (m : InboundContext σ α)
    (baseState x : RuleMatchState) :
    x ∈ g.candidateStates ruleSetItem m baseState ↔
      (match ruleSetItem with
        | some ruleSetStates => x ∈ ruleSetStates baseState
        | none => x = baseState) ∧ g.allows m x = true := by
  cases ruleSetItem <;> simp [RuleItemGroups.candidateStates]

theorem RuleItemGroups.matchStatesWithBase_of_isEmpty (g : RuleItemGroups σ α)
    (ruleSetItem : Option (RuleMatchState → RuleMatchStateSet)) (invert : Bool)
    (m : InboundContext σ α) (inheritedBase : RuleMatchState)
    (h : (g.isEmpty && ruleSetItem.isNone) = true) :
    g.matchStatesWithBase ruleSetItem invert m inheritedBase = singleRuleMatchState inheritedBase := by
  simp [RuleItemGroups.matchStatesWithBase, h, RuleMatchStateSet.withBase_emptyRuleMatchState]

theorem RuleItemGroups.mem_matchStatesWithBase_false (g : RuleItemGroups σ α)
    (ruleSetItem : Option (RuleMatchState → RuleMatchStateSet)) (m : InboundContext σ α)
    (inheritedBase x : RuleMatchState) (h : (g.isEmpty && ruleSetItem.isNone) = false) :
    x ∈ g.matchStatesWithBase ruleSetItem false m inheritedBase ↔
      g.items.all (fun item => item.Match m) = true ∧
        x ∈ g.candidateStates ruleSetItem m (g.baseState m inheritedBase) := by
  simp only [RuleItemGroups.matchStatesWithBase, h, Bool.false_eq_true, if_false]
  by_cases hitems : g.items.all (fun item => item.Match m) = true
  · cases hempty : (g.candidateStates ruleSetItem m (g.baseState m inheritedBase)).isEmpty with
    | true =>
      have hnone := (RuleMatchStateSet.isEmpty_iff _).mp hempty x
      simp [hitems, hnone]
    | false => simp [hitems]
  · simp [hitems]

theorem Rule.isEmpty_of_matchAndStates (rules : List (Rule σ α)) (m : InboundContext σ α)
    (evaluationBase : RuleMatchState) {stateSet result : RuleMatchStateSet}
    (hs : stateSet.isEmpty = false)
    (h : Rule.matchAndStates rules m evaluationBase stateSet = some result) :
    result.isEmpty = false := by
  induction rules generalizing stateSet with
  | nil =>
    simp only [Rule.matchAndStates, Option.some.injEq] at h
    rw [← h]
    exact hs
  | cons rule rules ih =>
    simp only [Rule.matchAndStates] at h
    split at h
    · cases h
    · rename_i hnested
      exact ih (RuleMatchStateSet.isEmpty_combine hs (Bool.eq_false_iff.mpr hnested)) h

theorem Rule.matchAndStates_isSome (rules : List (Rule σ α)) (m : InboundContext σ α)
    (evaluationBase : RuleMatchState) (stateSet : RuleMatchStateSet) :
    (Rule.matchAndStates rules m evaluationBase stateSet).isSome =
      rules.all fun r => !(r.matchStatesWithBase m.resetRuleCache evaluationBase).isEmpty := by
  induction rules generalizing stateSet with
  | nil => rfl
  | cons rule rules ih =>
    simp only [Rule.matchAndStates, List.all_cons]
    split
    · rename_i hnested
      simp [hnested]
    · rename_i hnested
      simp [hnested, ih]

theorem Rule.isEmpty_matchOrStates (rules : List (Rule σ α)) (m : InboundContext σ α)
    (evaluationBase : RuleMatchState) (stateSet : RuleMatchStateSet) :
    (Rule.matchOrStates rules m evaluationBase stateSet).isEmpty =
      (stateSet.isEmpty &&
        rules.all fun r => (r.matchStatesWithBase m.resetRuleCache evaluationBase).isEmpty) := by
  induction rules generalizing stateSet with
  | nil => simp [Rule.matchOrStates]
  | cons rule rules ih =>
    simp only [Rule.matchOrStates, ih, RuleMatchStateSet.isEmpty_merge, List.all_cons,
      Bool.and_assoc]

theorem Rule.mem_matchOrStates (rules : List (Rule σ α)) (m : InboundContext σ α)
    (evaluationBase : RuleMatchState) (stateSet : RuleMatchStateSet) (x : RuleMatchState) :
    x ∈ Rule.matchOrStates rules m evaluationBase stateSet ↔
      x ∈ stateSet ∨ ∃ r ∈ rules, x ∈ r.matchStatesWithBase m.resetRuleCache evaluationBase := by
  induction rules generalizing stateSet with
  | nil => simp [Rule.matchOrStates]
  | cons rule rules ih =>
    simp only [Rule.matchOrStates, ih, RuleMatchStateSet.mem_merge, List.mem_cons,
      exists_eq_or_imp]
    tauto

theorem Rule.foldl_combine_zero (rules : List (Rule σ α)) (f : Rule σ α → RuleMatchStateSet) :
    rules.foldl (fun (stateSet : RuleMatchStateSet) r => stateSet.combine (f r)) 0#16 = 0#16 := by
  induction rules with
  | nil => rfl
  | cons rule rules ih => simpa using ih

theorem Rule.matchAndStates_getD (rules : List (Rule σ α)) (m : InboundContext σ α)
    (evaluationBase : RuleMatchState) (stateSet : RuleMatchStateSet) :
    (Rule.matchAndStates rules m evaluationBase stateSet).getD 0#16 =
      rules.foldl (fun stateSet r =>
        stateSet.combine (r.matchStatesWithBase m.resetRuleCache evaluationBase)) stateSet := by
  induction rules generalizing stateSet with
  | nil => rfl
  | cons rule rules ih =>
    simp only [Rule.matchAndStates, List.foldl_cons]
    split
    · rename_i hnested
      rw [RuleMatchStateSet.combine_of_isEmpty _ hnested, Rule.foldl_combine_zero]
      rfl
    · exact ih _

theorem Rule.isEmpty_logical_and (rules : List (Rule σ α)) (invert : Bool)
    (m : InboundContext σ α) (base : RuleMatchState) :
    ((Rule.logical rules .and invert).matchStatesWithBase m base).isEmpty =
      (invert == rules.all fun r =>
        !(r.matchStatesWithBase m.resetRuleCache (if invert then 0#4 else base)).isEmpty) := by
  have hinit : (emptyRuleMatchState.withBase (if invert then 0#4 else base)).isEmpty = false := by
    rw [RuleMatchStateSet.withBase_emptyRuleMatchState]
    exact RuleMatchStateSet.isEmpty_singleRuleMatchState _
  rw [← Rule.matchAndStates_isSome _ _ _ (emptyRuleMatchState.withBase _)]
  simp only [Rule.matchStatesWithBase]
  cases hand : Rule.matchAndStates rules m (if invert then 0#4 else base)
      (emptyRuleMatchState.withBase (if invert then 0#4 else base)) with
  | none => cases invert <;> simp [RuleMatchStateSet.isEmpty_singleRuleMatchState]
  | some stateSet =>
    cases invert <;> simp [Rule.isEmpty_of_matchAndStates rules m _ hinit hand]

theorem Rule.isEmpty_logical_or (rules : List (Rule σ α)) (invert : Bool)
    (m : InboundContext σ α) (base : RuleMatchState) :
    ((Rule.logical rules .or invert).matchStatesWithBase m base).isEmpty =
      (invert == rules.any fun r =>
        !(r.matchStatesWithBase m.resetRuleCache (if invert then 0#4 else base)).isEmpty) := by
  simp only [Rule.matchStatesWithBase]
  have hor := Rule.isEmpty_matchOrStates rules m (if invert then 0#4 else base) 0#16
  cases hempty : (Rule.matchOrStates rules m (if invert then 0#4 else base) 0#16).isEmpty <;>
    cases invert <;>
    simp_all [RuleMatchStateSet.isEmpty_singleRuleMatchState, List.all_eq_not_any_not]

theorem Rule.mem_matchRulesWithBase (rules : List (Rule σ α)) (m : InboundContext σ α)
    (base : RuleMatchState) (stateSet : RuleMatchStateSet) (x : RuleMatchState) :
    x ∈ Rule.matchRulesWithBase rules m base stateSet ↔
      x ∈ stateSet ∨ ∃ r ∈ rules, x ∈ r.matchStatesWithBase m.resetRuleMatchCache base := by
  induction rules generalizing stateSet with
  | nil => simp [Rule.matchRulesWithBase]
  | cons rule rules ih =>
    simp only [Rule.matchRulesWithBase, ih, RuleMatchStateSet.mem_merge, List.mem_cons,
      exists_eq_or_imp]
    tauto

theorem Rule.mem_matchRuleSetsWithBase (setList : List (List (Rule σ α)))
    (m : InboundContext σ α) (base : RuleMatchState) (stateSet : RuleMatchStateSet)
    (x : RuleMatchState) :
    x ∈ Rule.matchRuleSetsWithBase setList m base stateSet ↔
      x ∈ stateSet ∨
        ∃ rules ∈ setList, ∃ r ∈ rules, x ∈ r.matchStatesWithBase m.resetRuleMatchCache base := by
  induction setList generalizing stateSet with
  | nil => simp [Rule.matchRuleSetsWithBase]
  | cons rules setList ih =>
    simp only [Rule.matchRuleSetsWithBase, ih, RuleMatchStateSet.mem_merge,
      Rule.mem_matchRulesWithBase, RuleMatchStateSet.not_mem_zero, false_or, List.mem_cons,
      exists_eq_or_imp]
    exact or_assoc

theorem RuleSetItem.mem_matchStatesWithBase (item : RuleSetItem (Rule σ α))
    (m : InboundContext σ α) (base x : RuleMatchState) :
    x ∈ item.matchStatesWithBase m base ↔
      ∃ rules ∈ item.setList, ∃ r ∈ rules,
        x ∈ r.matchStatesWithBase (item.nestedMetadata m).resetRuleMatchCache base := by
  rcases item with ⟨setList, ipCidrMatchSource, ipCidrAcceptEmpty⟩
  simp [RuleSetItem.matchStatesWithBase, Rule.mem_matchRuleSetsWithBase]

end SingBox
