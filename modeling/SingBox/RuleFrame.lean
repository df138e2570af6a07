import SingBox.RuleDNS

/-!
# What rule evaluation leaves in the metadata

The Go methods take the metadata by pointer. A default rule sets `DidMatch` as its blocks
run; a logical rule hands each child a copy, and a rule-set item each rule set, so
nothing below the top rule writes to the caller's struct. `LegacyPreMatch` sets
`IgnoreDestinationIPCIDRMatch` for its evaluation and clears it after, and
`MatchAddressLimit` works on a copy.

The functions below thread the caller's metadata as the Go code does; the nested
evaluations, on copies, are the pure model's. Their state sets are the pure model's
(`RuleItemGroups.matchStatesWithBaseM_eq`), and the only field they change is `DidMatch`.
The pure model reads `DidMatch` in one place, the inverted branch of a rule evaluated with
`IgnoreDestinationIPCIDRMatch` set; with the flag clear no result depends on the
rule-cache fields (`Rule.matchStatesWithBase_resetRuleMatchCache`).
-/

namespace SingBox

variable {σ α : Type}

namespace InboundContext

/-- `m'` is `m` with at most `DidMatch` changed. -/
def OnlyDidMatch (m m' : InboundContext σ α) : Prop :=
  m' = { m with didMatch := m'.didMatch }

theorem OnlyDidMatch.refl (m : InboundContext σ α) : OnlyDidMatch m m := rfl

theorem onlyDidMatch_setDidMatch (m : InboundContext σ α) (d : Bool) :
    OnlyDidMatch m { m with didMatch := d } := rfl

theorem ItemAgree.setDidMatch (m : InboundContext σ α) (d : Bool) :
    ItemAgree { m with didMatch := d } m :=
  ⟨rfl, rfl, rfl, rfl, rfl, rfl, rfl, rfl⟩

end InboundContext

namespace RuleItemGroups

/-- A block of grouped items: it records in `DidMatch` that the group ran, and adds the
group's bit when one of its items matches. -/
def groupBlock (items : List (RuleItem σ α)) (flag : RuleMatchState)
    (state : InboundContext σ α × RuleMatchState) : InboundContext σ α × RuleMatchState :=
  if !items.isEmpty then
    let m := { state.1 with didMatch := true }
    (m, if matchAnyItem items m then state.2 ||| flag else state.2)
  else state

/-- The block of the `ip_cidr` items on one side; `matchesSide` is
`destinationIPCIDRMatchesSource` or `destinationIPCIDRMatchesDestination`. -/
def ipcidrBlock (matchesSide : Bool) (items : List (RuleItem σ α)) (flag : RuleMatchState)
    (state : InboundContext σ α × RuleMatchState) : InboundContext σ α × RuleMatchState :=
  if matchesSide && !state.2.has flag then
    let m := { state.1 with didMatch := true }
    (m, if matchAnyItem items m then state.2 ||| flag else state.2)
  else if matchesSide then ({ state.1 with didMatch := true }, state.2)
  else state

/-- The loop over the plain items: `DidMatch` is set before each one. -/
def matchItemsM : List (RuleItem σ α) → InboundContext σ α → Bool × InboundContext σ α
  | [], m => (true, m)
  | item :: items, m =>
    let m := { m with didMatch := true }
    if !item.Match m then (false, m) else matchItemsM items m

/-- The six grouped-item blocks of `matchStatesWithBase`, in the source's order. -/
def matchBlocksM (g : RuleItemGroups σ α) (m : InboundContext σ α)
    (evaluationBase : RuleMatchState) : InboundContext σ α × RuleMatchState :=
  let state := groupBlock g.sourceAddressItems ruleMatchSourceAddress (m, evaluationBase)
  let state := ipcidrBlock (g.destinationIPCIDRMatchesSource state.1)
    g.destinationIPCIDRItems ruleMatchSourceAddress state
  let state := groupBlock g.sourcePortItems ruleMatchSourcePort state
  let state := groupBlock g.destinationAddressItems ruleMatchDestinationAddress state
  let state := ipcidrBlock (g.destinationIPCIDRMatchesDestination state.1)
    g.destinationIPCIDRItems ruleMatchDestinationAddress state
  groupBlock g.destinationPortItems ruleMatchDestinationPort state

/-- `abstractDefaultRule.matchStatesWithBase` with the caller's metadata threaded through.
The rule-set item is the function that evaluates it on the metadata at that point. -/
def matchStatesWithBaseM (g : RuleItemGroups σ α)
    (ruleSetItem : Option (InboundContext σ α → RuleMatchState → RuleMatchStateSet))
    (invert : Bool) (m : InboundContext σ α) (inheritedBase : RuleMatchState) :
    RuleMatchStateSet × InboundContext σ α :=
  if g.isEmpty && ruleSetItem.isNone then (emptyRuleMatchState.withBase inheritedBase, m)
  else
    let evaluationBase := if invert then 0#4 else inheritedBase
    let state := g.matchBlocksM m evaluationBase
    let baseState := state.2
    let items := matchItemsM g.items state.1
    if !items.1 then (invertedFailure invert inheritedBase, items.2)
    else
      let ruleSet : RuleMatchStateSet × InboundContext σ α :=
        match ruleSetItem with
        | some ruleSetStates =>
          let m := { items.2 with didMatch := true }
          (ruleSetStates m baseState, m)
        | none => (singleRuleMatchState baseState, items.2)
      let m := ruleSet.2
      let stateSet := ruleSet.1.filter (g.allows m)
      if stateSet.isEmpty then (invertedFailure invert inheritedBase, m)
      else if invert then
        if m.ignoreDestinationIPCIDRMatch && stateSet == emptyRuleMatchState &&
            !m.didMatch && !g.destinationIPCIDRItems.isEmpty then
          (emptyRuleMatchState.withBase inheritedBase, m)
        else (0#16, m)
      else (stateSet, m)

/-! The blocks read the metadata only through fields that `DidMatch` does not touch. -/

@[simp] theorem matchAnyItem_setDidMatch (items : List (RuleItem σ α)) (m : InboundContext σ α)
    (d : Bool) : matchAnyItem items { m with didMatch := d } = matchAnyItem items m :=
  matchAnyItem_congr items (InboundContext.ItemAgree.setDidMatch m d)

@[simp] theorem RuleItem.Match_setDidMatch (item : RuleItem σ α) (m : InboundContext σ α)
    (d : Bool) : item.Match { m with didMatch := d } = item.Match m :=
  item.Match_congr (InboundContext.ItemAgree.setDidMatch m d)

@[simp] theorem allows_setDidMatch (g : RuleItemGroups σ α) (m : InboundContext σ α) (d : Bool) :
    g.allows { m with didMatch := d } = g.allows m := by
  funext state
  exact g.allows_congr (InboundContext.ItemAgree.setDidMatch m d) rfl state

theorem groupBlock_eq (items : List (RuleItem σ α)) (flag : RuleMatchState)
    (m : InboundContext σ α) (b : RuleMatchState) :
    groupBlock items flag (m, b) =
      ({ m with didMatch := m.didMatch || !items.isEmpty },
        if !items.isEmpty && matchAnyItem items m then b ||| flag else b) := by
  unfold groupBlock
  cases items.isEmpty <;> simp

theorem ipcidrBlock_eq (matchesSide : Bool) (items : List (RuleItem σ α)) (flag : RuleMatchState)
    (m : InboundContext σ α) (b : RuleMatchState) :
    ipcidrBlock matchesSide items flag (m, b) =
      ({ m with didMatch := m.didMatch || matchesSide },
        if matchesSide && !b.has flag && matchAnyItem items m then b ||| flag else b) := by
  unfold ipcidrBlock
  cases matchesSide <;> cases b.has flag <;> simp

/-- `DidMatch` after the blocks: the entry value, or any group that ran. -/
def didMatchBlocks (g : RuleItemGroups σ α) (m : InboundContext σ α) : Bool :=
  m.didMatch || !g.sourceAddressItems.isEmpty || g.destinationIPCIDRMatchesSource m ||
    !g.sourcePortItems.isEmpty || !g.destinationAddressItems.isEmpty ||
    g.destinationIPCIDRMatchesDestination m || !g.destinationPortItems.isEmpty

theorem matchBlocksM_eq (g : RuleItemGroups σ α) (m : InboundContext σ α)
    (evaluationBase : RuleMatchState) :
    g.matchBlocksM m evaluationBase =
      ({ m with didMatch := g.didMatchBlocks m }, g.baseState m evaluationBase) := by
  refine Prod.ext ?_ ?_
  · simp only [matchBlocksM, groupBlock_eq, ipcidrBlock_eq, didMatchBlocks,
      destinationIPCIDRMatchesSource, destinationIPCIDRMatchesDestination, Bool.or_assoc]
  · simp only [matchBlocksM, groupBlock_eq, ipcidrBlock_eq, baseState,
      destinationIPCIDRMatchesSource, destinationIPCIDRMatchesDestination, matchAnyItem_setDidMatch]
    rfl

theorem matchItemsM_eq (items : List (RuleItem σ α)) (m : InboundContext σ α) :
    matchItemsM items m =
      (items.all (fun item => item.Match m), { m with didMatch := m.didMatch || !items.isEmpty }) := by
  induction items generalizing m with
  | nil => simp [matchItemsM]
  | cons item items ih =>
    simp only [matchItemsM, RuleItem.Match_setDidMatch, ih]
    cases hitem : item.Match m <;> simp [hitem]

theorem didMatch_eq_didMatchBlocks (g : RuleItemGroups σ α) (m : InboundContext σ α)
    (hasRuleSet : Bool) :
    g.didMatch m hasRuleSet = (g.didMatchBlocks m || !g.items.isEmpty || hasRuleSet) := by
  simp only [didMatch, didMatchBlocks, Bool.or_assoc]

theorem matchStatesWithBaseM_fst (g : RuleItemGroups σ α)
    (ruleSetItem : Option (InboundContext σ α → RuleMatchState → RuleMatchStateSet))
    (invert : Bool) (m : InboundContext σ α) (inheritedBase : RuleMatchState) :
    (g.matchStatesWithBaseM ruleSetItem invert m inheritedBase).1 =
      g.matchStatesWithBase (ruleSetItem.map fun f => f { m with didMatch := true }) invert m
        inheritedBase := by
  unfold matchStatesWithBaseM matchStatesWithBase
  cases ruleSetItem with
  | none =>
    simp only [Option.isNone_none, Option.map_none, Option.isSome_none, matchBlocksM_eq,
      matchItemsM_eq, RuleItem.Match_setDidMatch, candidateStates, allows_setDidMatch,
      didMatch_eq_didMatchBlocks, Bool.or_false]
    split_ifs <;> rfl
  | some f =>
    simp only [Option.isNone_some, Option.map_some, Option.isSome_some, matchBlocksM_eq,
      matchItemsM_eq, RuleItem.Match_setDidMatch, candidateStates, allows_setDidMatch,
      didMatch_eq_didMatchBlocks, Bool.or_true]
    split_ifs <;> rfl

/-- The metadata the threaded default rule leaves: as it came when the rule has no item,
and otherwise with `DidMatch` as the inverted branch reads it. -/
theorem matchStatesWithBaseM_snd (g : RuleItemGroups σ α)
    (ruleSetItem : Option (InboundContext σ α → RuleMatchState → RuleMatchStateSet))
    (invert : Bool) (m : InboundContext σ α) (inheritedBase : RuleMatchState) :
    (g.matchStatesWithBaseM ruleSetItem invert m inheritedBase).2 =
      if g.isEmpty && ruleSetItem.isNone then m
      else { m with didMatch := g.didMatch m ruleSetItem.isSome } := by
  unfold matchStatesWithBaseM
  by_cases hempty : (g.isEmpty && ruleSetItem.isNone) = true
  · simp only [hempty, if_true]
  simp only [hempty, Bool.false_eq_true, if_false, matchBlocksM_eq, matchItemsM_eq,
    RuleItem.Match_setDidMatch, didMatch_eq_didMatchBlocks]
  by_cases hitems : g.items.all (fun item => item.Match m) = true
  · cases ruleSetItem <;> simp only [hitems, Bool.not_true, Bool.false_eq_true, if_false] <;>
      split_ifs <;> simp
  · have hne : g.items.isEmpty = false := by
      cases hnil : g.items with
      | nil => simp [hnil] at hitems
      | cons _ _ => rfl
    simp [hitems, hne]

end RuleItemGroups

theorem RuleSetItem.matchStatesWithBase_of_reset (item : RuleSetItem (Rule σ α))
    (m m' : InboundContext σ α) (h : m.resetRuleMatchCache = m'.resetRuleMatchCache)
    (base : RuleMatchState) : item.matchStatesWithBase m base = item.matchStatesWithBase m' base := by
  obtain ⟨setList, matchSource, acceptEmpty⟩ := item
  simp only [RuleSetItem.matchStatesWithBase, RuleSetItem.nestedMetadata, h]

namespace Rule

/-- The top rule with the caller's metadata threaded; a logical rule evaluates its
children on copies and leaves the metadata as it came. -/
def matchStatesWithBaseM : Rule σ α → InboundContext σ α → RuleMatchState →
    RuleMatchStateSet × InboundContext σ α
  | .default g ruleSetItem invert _, m, inheritedBase =>
    g.matchStatesWithBaseM (ruleSetItem.map fun item m base => item.matchStatesWithBase m base)
      invert m inheritedBase
  | r@(.logical _ _ _), m, base => (r.matchStatesWithBase m base, m)

def matchStatesM (r : Rule σ α) (m : InboundContext σ α) :
    RuleMatchStateSet × InboundContext σ α :=
  r.matchStatesWithBaseM m 0#4

/-- `Match` of route, headless and rule-set rules, with the metadata it leaves. -/
def MatchM (r : Rule σ α) (m : InboundContext σ α) : Bool × InboundContext σ α :=
  (!(r.matchStatesM m).1.isEmpty, (r.matchStatesM m).2)

theorem matchStatesWithBase_default (g : RuleItemGroups σ α)
    (ruleSetItem : Option (RuleSetItem (Rule σ α))) (invert matchResponse : Bool)
    (m : InboundContext σ α) (base : RuleMatchState) :
    (Rule.default g ruleSetItem invert matchResponse).matchStatesWithBase m base =
      g.matchStatesWithBase (ruleSetItem.map fun item base => item.matchStatesWithBase m base)
        invert m base := by
  cases ruleSetItem <;> simp [Rule.matchStatesWithBase]

theorem matchStatesWithBaseM_fst (r : Rule σ α) (m : InboundContext σ α)
    (base : RuleMatchState) : (r.matchStatesWithBaseM m base).1 = r.matchStatesWithBase m base := by
  cases r with
  | default g ruleSetItem invert matchResponse =>
    rw [matchStatesWithBaseM, RuleItemGroups.matchStatesWithBaseM_fst, Option.map_map,
      matchStatesWithBase_default]
    congr 1
    cases ruleSetItem with
    | none => rfl
    | some item =>
      simp only [Option.map_some, Function.comp_def,
        RuleSetItem.matchStatesWithBase_of_reset item { m with didMatch := true } m rfl]
  | logical => rfl

theorem onlyDidMatch_matchStatesWithBaseM (r : Rule σ α) (m : InboundContext σ α)
    (base : RuleMatchState) : m.OnlyDidMatch (r.matchStatesWithBaseM m base).2 := by
  cases r with
  | default g ruleSetItem invert matchResponse =>
    rw [matchStatesWithBaseM, RuleItemGroups.matchStatesWithBaseM_snd]
    split_ifs
    · exact InboundContext.OnlyDidMatch.refl m
    · exact InboundContext.onlyDidMatch_setDidMatch m _
  | logical => exact InboundContext.OnlyDidMatch.refl m

theorem MatchM_fst (r : Rule σ α) (m : InboundContext σ α) : (r.MatchM m).1 = r.Match m := by
  simp [MatchM, matchStatesM, matchStatesWithBaseM_fst, Rule.Match, Rule.matchStates]

theorem onlyDidMatch_MatchM (r : Rule σ α) (m : InboundContext σ α) :
    m.OnlyDidMatch (r.MatchM m).2 :=
  onlyDidMatch_matchStatesWithBaseM r m 0#4

end Rule

/-! ### Reading the rule cache

Nested rules and rule sets see a reset copy, so only the top rule could read the cache
fields, and it reads `DidMatch` only with `IgnoreDestinationIPCIDRMatch` set. -/

theorem InboundContext.resetRuleCache_resetRuleMatchCache (m : InboundContext σ α) :
    m.resetRuleMatchCache.resetRuleCache = m.resetRuleCache := rfl

theorem RuleItemGroups.matchStatesWithBase_resetRuleMatchCache (g : RuleItemGroups σ α)
    (ruleSetItem : Option (RuleMatchState → RuleMatchStateSet)) (invert : Bool)
    {m : InboundContext σ α} (hignore : m.ignoreDestinationIPCIDRMatch = false)
    (inheritedBase : RuleMatchState) :
    g.matchStatesWithBase ruleSetItem invert m.resetRuleMatchCache inheritedBase =
      g.matchStatesWithBase ruleSetItem invert m inheritedBase := by
  have hagree := ItemAgree.resetRuleMatchCache m
  have hignore' : m.resetRuleMatchCache.ignoreDestinationIPCIDRMatch = false := hignore
  have hallows : g.allows m.resetRuleMatchCache = g.allows m := funext (g.allows_congr hagree rfl)
  unfold RuleItemGroups.matchStatesWithBase
  simp only [g.baseState_congr hagree rfl, RuleItemGroups.candidateStates, hallows,
    fun item : RuleItem σ α => item.Match_congr hagree, hignore, hignore', Bool.false_and]

theorem Rule.matchAndStates_resetRuleMatchCache (rules : List (Rule σ α))
    (m : InboundContext σ α) (evaluationBase : RuleMatchState) (stateSet : RuleMatchStateSet) :
    Rule.matchAndStates rules m.resetRuleMatchCache evaluationBase stateSet =
      Rule.matchAndStates rules m evaluationBase stateSet := by
  induction rules generalizing stateSet with
  | nil => rfl
  | cons rule rules ih =>
    simp only [Rule.matchAndStates, InboundContext.resetRuleCache_resetRuleMatchCache, ih]

theorem Rule.matchOrStates_resetRuleMatchCache (rules : List (Rule σ α))
    (m : InboundContext σ α) (evaluationBase : RuleMatchState) (stateSet : RuleMatchStateSet) :
    Rule.matchOrStates rules m.resetRuleMatchCache evaluationBase stateSet =
      Rule.matchOrStates rules m evaluationBase stateSet := by
  induction rules generalizing stateSet with
  | nil => rfl
  | cons rule rules ih =>
    simp only [Rule.matchOrStates, InboundContext.resetRuleCache_resetRuleMatchCache, ih]

theorem Rule.matchStatesWithBase_resetRuleMatchCache (r : Rule σ α) {m : InboundContext σ α}
    (hignore : m.ignoreDestinationIPCIDRMatch = false) (base : RuleMatchState) :
    r.matchStatesWithBase m.resetRuleMatchCache base = r.matchStatesWithBase m base := by
  cases r with
  | default g ruleSetItem invert matchResponse =>
    rw [Rule.matchStatesWithBase_default, Rule.matchStatesWithBase_default,
      g.matchStatesWithBase_resetRuleMatchCache _ _ hignore]
    congr 1
    cases ruleSetItem with
    | none => rfl
    | some item => simp only [Option.map_some,
        RuleSetItem.matchStatesWithBase_of_reset item m.resetRuleMatchCache m rfl]
  | logical rules mode invert =>
    simp only [Rule.matchStatesWithBase, Rule.matchAndStates_resetRuleMatchCache,
      Rule.matchOrStates_resetRuleMatchCache]

theorem Rule.matchAndStatesForMatch_resetRuleMatchCache (rules : List (Rule σ α))
    (m : InboundContext σ α) (stateSet : RuleMatchStateSet) :
    Rule.matchAndStatesForMatch rules m.resetRuleMatchCache stateSet =
      Rule.matchAndStatesForMatch rules m stateSet := by
  induction rules generalizing stateSet with
  | nil => rfl
  | cons rule rules ih =>
    simp only [Rule.matchAndStatesForMatch, InboundContext.resetRuleCache_resetRuleMatchCache, ih]

theorem Rule.matchOrStatesForMatch_resetRuleMatchCache (rules : List (Rule σ α))
    (m : InboundContext σ α) (stateSet : RuleMatchStateSet) :
    Rule.matchOrStatesForMatch rules m.resetRuleMatchCache stateSet =
      Rule.matchOrStatesForMatch rules m stateSet := by
  induction rules generalizing stateSet with
  | nil => rfl
  | cons rule rules ih =>
    simp only [Rule.matchOrStatesForMatch, InboundContext.resetRuleCache_resetRuleMatchCache, ih]

theorem Rule.matchStatesForMatch_resetRuleMatchCache (r : Rule σ α) {m : InboundContext σ α}
    (hignore : m.ignoreDestinationIPCIDRMatch = false) :
    r.matchStatesForMatch m.resetRuleMatchCache = r.matchStatesForMatch m := by
  cases r with
  | default g ruleSetItem invert matchResponse =>
    cases matchResponse with
    | false =>
      simp only [Rule.matchStatesForMatch, Bool.false_eq_true, if_false, Rule.matchStates]
      exact Rule.matchStatesWithBase_resetRuleMatchCache _ hignore 0#4
    | true =>
      have hresponse : m.resetRuleMatchCache.dnsResponse = m.dnsResponse := rfl
      simp only [Rule.matchStatesForMatch, if_true, hresponse, Rule.matchStates]
      split
      · rfl
      · exact Rule.matchStatesWithBase_resetRuleMatchCache _
          (m := { m with destinationAddressMatchFromResponse := true }) hignore 0#4
  | logical rules mode invert =>
    simp only [Rule.matchStatesForMatch, Rule.matchAndStatesForMatch_resetRuleMatchCache,
      Rule.matchOrStatesForMatch_resetRuleMatchCache]

theorem Rule.matchStatesWithBase_eq_of_reset (r : Rule σ α) (m m' : InboundContext σ α)
    (hignore : m.ignoreDestinationIPCIDRMatch = false)
    (hcache : m.resetRuleMatchCache = m'.resetRuleMatchCache) (base : RuleMatchState) :
    r.matchStatesWithBase m base = r.matchStatesWithBase m' base := by
  have hignore' : m'.ignoreDestinationIPCIDRMatch = false :=
    (congrArg InboundContext.ignoreDestinationIPCIDRMatch hcache).symm.trans hignore
  rw [← Rule.matchStatesWithBase_resetRuleMatchCache r hignore, hcache,
    Rule.matchStatesWithBase_resetRuleMatchCache r hignore']

theorem Rule.matchStatesForMatch_eq_of_reset (r : Rule σ α) {m m' : InboundContext σ α}
    (hignore : m.ignoreDestinationIPCIDRMatch = false)
    (hcache : m.resetRuleMatchCache = m'.resetRuleMatchCache) :
    r.matchStatesForMatch m = r.matchStatesForMatch m' := by
  have hignore' : m'.ignoreDestinationIPCIDRMatch = false :=
    (congrArg InboundContext.ignoreDestinationIPCIDRMatch hcache).symm.trans hignore
  rw [← Rule.matchStatesForMatch_resetRuleMatchCache r hignore, hcache,
    Rule.matchStatesForMatch_resetRuleMatchCache r hignore']

namespace DNSRule

/-- `matchStatesForMatch` with the caller's metadata threaded: a `match_response` rule
evaluates a copy, and a logical rule its children on copies. -/
def matchStatesForMatchM : DNSRule σ α → InboundContext σ α →
    RuleMatchStateSet × InboundContext σ α
  | r@(.default _ _ invert matchResponse), m =>
    if matchResponse then
      match m.dnsResponse with
      | none => (invertedFailure invert 0#4, m)
      | some _ =>
        ((Rule.matchStatesM r { m with destinationAddressMatchFromResponse := true }).1, m)
    else Rule.matchStatesM r m
  | r@(.logical _ _ _), m => (Rule.matchStatesForMatch r m, m)

def MatchM (r : DNSRule σ α) (m : InboundContext σ α) : Bool × InboundContext σ α :=
  (!(matchStatesForMatchM r m).1.isEmpty, (matchStatesForMatchM r m).2)

/-- `LegacyPreMatch`: the flag is set for the evaluation and cleared by the deferred call. -/
def LegacyPreMatchM : DNSRule σ α → InboundContext σ α → Bool × InboundContext σ α
  | r@(.default _ _ _ matchResponse), m =>
    if matchResponse then (false, m)
    else
      let result := Rule.matchStatesM r { m with ignoreDestinationIPCIDRMatch := true }
      (!result.1.isEmpty, { result.2 with ignoreDestinationIPCIDRMatch := false })
  | r@(.logical _ _ _), m =>
    let result := Rule.matchStatesM r { m with ignoreDestinationIPCIDRMatch := true }
    (!result.1.isEmpty, { result.2 with ignoreDestinationIPCIDRMatch := false })

def MatchAddressLimitM (r : DNSRule σ α) (m : InboundContext σ α)
    (response : Option (DNSMessage α)) : Bool × InboundContext σ α :=
  let matchMetadata :=
    { m with dnsResponse := response, destinationAddressMatchFromResponse := true }
  (!(Rule.matchStatesM r matchMetadata).1.isEmpty, m)

theorem matchStatesForMatchM_fst (r : DNSRule σ α) (m : InboundContext σ α) :
    (matchStatesForMatchM r m).1 = Rule.matchStatesForMatch r m := by
  cases r with
  | default g ruleSetItem invert matchResponse =>
    cases matchResponse with
    | false =>
      simp [matchStatesForMatchM, Rule.matchStatesForMatch, Rule.matchStatesM,
        Rule.matchStatesWithBaseM_fst, Rule.matchStates]
    | true =>
      cases hresponse : m.dnsResponse <;>
        simp [matchStatesForMatchM, Rule.matchStatesForMatch, hresponse, Rule.matchStatesM,
          Rule.matchStatesWithBaseM_fst, Rule.matchStates]
  | logical => rfl

theorem onlyDidMatch_matchStatesForMatchM (r : DNSRule σ α) (m : InboundContext σ α) :
    m.OnlyDidMatch (matchStatesForMatchM r m).2 := by
  cases r with
  | default g ruleSetItem invert matchResponse =>
    cases matchResponse with
    | false =>
      simp only [matchStatesForMatchM, Bool.false_eq_true, if_false, Rule.matchStatesM]
      exact Rule.onlyDidMatch_matchStatesWithBaseM _ m 0#4
    | true =>
      cases hresponse : m.dnsResponse <;>
        simp [matchStatesForMatchM, hresponse, InboundContext.OnlyDidMatch.refl]
  | logical => exact InboundContext.OnlyDidMatch.refl m

theorem MatchM_fst (r : DNSRule σ α) (m : InboundContext σ α) : (MatchM r m).1 = Match r m := by
  simp [MatchM, Match, matchStatesForMatchM_fst]

theorem LegacyPreMatchM_fst (r : DNSRule σ α) (m : InboundContext σ α) :
    (LegacyPreMatchM r m).1 = legacyPreMatch r m := by
  cases r with
  | default g ruleSetItem invert matchResponse =>
    cases matchResponse <;>
      simp [LegacyPreMatchM, legacyPreMatch, Rule.matchStatesM, Rule.matchStatesWithBaseM_fst,
        Rule.matchStates]
  | logical =>
    simp [LegacyPreMatchM, legacyPreMatch, Rule.matchStatesM, Rule.matchStatesWithBaseM_fst,
      Rule.matchStates]

theorem MatchAddressLimitM_fst (r : DNSRule σ α) (m : InboundContext σ α)
    (response : Option (DNSMessage α)) :
    (MatchAddressLimitM r m response).1 = matchAddressLimit r m response := by
  exact congrArg (fun stateSet => !stateSet.isEmpty) (Rule.matchStatesWithBaseM_fst r _ 0#4)

theorem onlyDidMatch_LegacyPreMatchM (r : DNSRule σ α) {m : InboundContext σ α}
    (hignore : m.ignoreDestinationIPCIDRMatch = false) :
    m.OnlyDidMatch (LegacyPreMatchM r m).2 := by
  have hevaluated (result : InboundContext σ α)
      (h : InboundContext.OnlyDidMatch { m with ignoreDestinationIPCIDRMatch := true } result) :
      m.OnlyDidMatch { result with ignoreDestinationIPCIDRMatch := false } := by
    obtain ⟨d, rfl⟩ : ∃ d, result = { m with ignoreDestinationIPCIDRMatch := true, didMatch := d } :=
      ⟨result.didMatch, h⟩
    cases m
    simp only at hignore
    subst hignore
    rfl
  cases r with
  | default g ruleSetItem invert matchResponse =>
    cases matchResponse with
    | false => exact hevaluated _ (Rule.onlyDidMatch_matchStatesWithBaseM _ _ 0#4)
    | true => exact InboundContext.OnlyDidMatch.refl m
  | logical => exact hevaluated _ (Rule.onlyDidMatch_matchStatesWithBaseM _ _ 0#4)

theorem onlyDidMatch_MatchM (r : DNSRule σ α) (m : InboundContext σ α) :
    m.OnlyDidMatch (MatchM r m).2 :=
  onlyDidMatch_matchStatesForMatchM r m

end DNSRule

/-- Two metadata that differ only in the rule-cache fields, the first with
`IgnoreDestinationIPCIDRMatch` clear as everywhere outside `LegacyPreMatch`: `Match`,
DNS `Match` and `MatchAddressLimit` give both the same result, and every entry point leaves
every field but `DidMatch` as it found it. -/
theorem Rule.match_cacheIndependent_frame (r : Rule σ α) (m m' : InboundContext σ α)
    (response : Option (DNSMessage α)) (hignore : m.ignoreDestinationIPCIDRMatch = false)
    (hcache : m.resetRuleMatchCache = m'.resetRuleMatchCache) :
    ((r.MatchM m).1 = (r.MatchM m').1 ∧ (DNSRule.MatchM r m).1 = (DNSRule.MatchM r m').1 ∧
        (DNSRule.MatchAddressLimitM r m response).1 =
          (DNSRule.MatchAddressLimitM r m' response).1) ∧
      m.OnlyDidMatch (r.MatchM m).2 ∧ m.OnlyDidMatch (DNSRule.MatchM r m).2 ∧
      (DNSRule.MatchAddressLimitM r m response).2 = m ∧
      m.OnlyDidMatch (DNSRule.LegacyPreMatchM r m).2 := by
  have hmatch := Rule.matchStatesWithBase_eq_of_reset r m m' hignore hcache 0#4
  have hdns := Rule.matchStatesForMatch_eq_of_reset r hignore hcache
  have hlimit := Rule.matchStatesWithBase_eq_of_reset r
    { m with dnsResponse := response, destinationAddressMatchFromResponse := true }
    { m' with dnsResponse := response, destinationAddressMatchFromResponse := true }
    hignore (congrArg (fun c : InboundContext σ α =>
      { c with dnsResponse := response, destinationAddressMatchFromResponse := true }) hcache) 0#4
  refine ⟨⟨?_, ?_, ?_⟩, Rule.onlyDidMatch_MatchM r m, DNSRule.onlyDidMatch_MatchM r m, rfl,
    DNSRule.onlyDidMatch_LegacyPreMatchM r hignore⟩
  · rw [Rule.MatchM_fst, Rule.MatchM_fst, Rule.Match, Rule.Match, Rule.matchStates,
      Rule.matchStates, hmatch]
  · calc (DNSRule.MatchM r m).1 = DNSRule.Match r m := DNSRule.MatchM_fst r m
      _ = DNSRule.Match r m' := congrArg (fun stateSet : RuleMatchStateSet => !stateSet.isEmpty) hdns
      _ = (DNSRule.MatchM r m').1 := (DNSRule.MatchM_fst r m').symm
  · calc (DNSRule.MatchAddressLimitM r m response).1
        = DNSRule.matchAddressLimit r m response := DNSRule.MatchAddressLimitM_fst r m response
      _ = DNSRule.matchAddressLimit r m' response :=
        congrArg (fun stateSet : RuleMatchStateSet => !stateSet.isEmpty) hlimit
      _ = (DNSRule.MatchAddressLimitM r m' response).1 :=
        (DNSRule.MatchAddressLimitM_fst r m' response).symm

/-- An inverted rule with one destination `ip_cidr` item. -/
def invertedCIDRRule : Rule Nat Nat :=
  .default
    { items := [], sourceAddressItems := [], sourcePortItems := [], destinationAddressItems := [],
      destinationIPCIDRItems := [.ipcidr false (· == 1)], destinationPortItems := [] }
    none true false

/-- A query context with an empty rule cache. -/
def queryContext : InboundContext Nat Nat :=
  { conn := 0, source := 7, destination := none, destinationAddresses := [],
    dnsResponse := none, destinationAddressMatchFromResponse := false,
    ipcidrMatchSource := false, ipcidrAcceptEmpty := false, sourceAddressMatch := false,
    sourcePortMatch := false, destinationAddressMatch := false, destinationPortMatch := false,
    didMatch := false, ignoreDestinationIPCIDRMatch := false }

theorem invertedCIDRRule_stale_didMatch :
    ((invertedCIDRRule.MatchM queryContext).1 =
        (invertedCIDRRule.MatchM { queryContext with didMatch := true }).1 ∧
      (DNSRule.MatchM invertedCIDRRule queryContext).1 =
        (DNSRule.MatchM invertedCIDRRule { queryContext with didMatch := true }).1 ∧
      (DNSRule.MatchAddressLimitM invertedCIDRRule queryContext none).1 =
        (DNSRule.MatchAddressLimitM invertedCIDRRule { queryContext with didMatch := true }
          none).1) ∧
      queryContext.OnlyDidMatch (invertedCIDRRule.MatchM queryContext).2 ∧
      queryContext.OnlyDidMatch (DNSRule.MatchM invertedCIDRRule queryContext).2 ∧
      (DNSRule.MatchAddressLimitM invertedCIDRRule queryContext none).2 = queryContext ∧
      queryContext.OnlyDidMatch (DNSRule.LegacyPreMatchM invertedCIDRRule queryContext).2 :=
  Rule.match_cacheIndependent_frame invertedCIDRRule queryContext
    { queryContext with didMatch := true } none rfl rfl

end SingBox
