import SingBox.RuleDNS

/-!
# Inversion

An inverted rule is not evaluated as the negation of a result. It evaluates from base
`0`, returns `invertedFailure` from every early exit, and returns the empty set when
the evaluation succeeds. Outside the pre-lookup mode (`IgnoreDestinationIPCIDRMatch`
unset) these pieces agree: the inverted rule yields exactly `{b}` at base `b` when
the rule without `invert` yields nothing at base `0`, and yields nothing otherwise.
So an inverted branch passes its base through unchanged and adds no group of its own.
-/

namespace SingBox

variable {σ α : Type}

theorem RuleItemGroups.matchStatesWithBase_invert (g : RuleItemGroups σ α)
    (ruleSetItem : Option (RuleMatchState → RuleMatchStateSet)) (m : InboundContext σ α)
    (hm : m.ignoreDestinationIPCIDRMatch = false)
    (hne : (g.isEmpty && ruleSetItem.isNone) = false) (b : RuleMatchState) :
    g.matchStatesWithBase ruleSetItem true m b =
      if (g.matchStatesWithBase ruleSetItem false m 0#4).isEmpty then singleRuleMatchState b
      else 0#16 := by
  simp only [RuleItemGroups.matchStatesWithBase, hne, hm, Bool.false_eq_true, if_false,
    if_true, Bool.false_and]
  by_cases hitems : (!g.items.all fun item => item.Match m) = true
  · simp [hitems, RuleMatchStateSet.isEmpty_zero]
  · cases hempty : (g.candidateStates ruleSetItem m (g.baseState m 0#4)).isEmpty with
    | true => simp [hitems]
    | false => simp [hitems, hempty]

theorem Rule.matchStatesWithBase_logical_invert (rules : List (Rule σ α)) (mode : LogicalMode)
    (m : InboundContext σ α) (b : RuleMatchState) :
    (Rule.logical rules mode true).matchStatesWithBase m b =
      if ((Rule.logical rules mode false).matchStatesWithBase m 0#4).isEmpty then
        singleRuleMatchState b
      else 0#16 := by
  cases mode with
  | and =>
    simp only [Rule.matchStatesWithBase, if_true, Bool.false_eq_true, if_false]
    cases hand : Rule.matchAndStates rules m 0#4 (emptyRuleMatchState.withBase 0#4) with
    | none => simp
    | some stateSet =>
      have hinit : (emptyRuleMatchState.withBase 0#4).isEmpty = false := by
        rw [RuleMatchStateSet.withBase_emptyRuleMatchState]
        exact RuleMatchStateSet.isEmpty_singleRuleMatchState 0#4
      simp [Rule.isEmpty_of_matchAndStates rules m 0#4 hinit hand]
  | or =>
    simp only [Rule.matchStatesWithBase, if_true, Bool.false_eq_true, if_false]
    cases hempty : (Rule.matchOrStates rules m 0#4 0#16).isEmpty with
    | true => simp
    | false => simp [hempty]

theorem Rule.matchStatesWithBase_withInvert (r : Rule σ α) (hr : r.allItemsEmpty = false)
    (m : InboundContext σ α) (hm : m.ignoreDestinationIPCIDRMatch = false)
    (b : RuleMatchState) :
    (r.withInvert true).matchStatesWithBase m b =
      if ((r.withInvert false).matchStatesWithBase m 0#4).isEmpty then singleRuleMatchState b
      else 0#16 := by
  cases r with
  | default g ruleSetItem invert matchResponse =>
    cases ruleSetItem with
    | none =>
      have hne : g.isEmpty = false := by simpa [Rule.allItemsEmpty] using hr
      simpa only [Rule.withInvert, Rule.matchStatesWithBase] using
        RuleItemGroups.matchStatesWithBase_invert g none m hm (by simp [hne]) b
    | some item =>
      simpa only [Rule.withInvert, Rule.matchStatesWithBase] using
        RuleItemGroups.matchStatesWithBase_invert g
          (some fun base => item.matchStatesWithBase m base) m hm (by simp) b
  | logical rules mode invert =>
    exact Rule.matchStatesWithBase_logical_invert rules mode m b

theorem Rule.matchStatesForMatch_logical_invert (rules : List (Rule σ α)) (mode : LogicalMode)
    (m : InboundContext σ α) :
    (Rule.logical rules mode true).matchStatesForMatch m =
      if ((Rule.logical rules mode false).matchStatesForMatch m).isEmpty then
        emptyRuleMatchState
      else 0#16 := by
  cases mode with
  | and =>
    simp only [Rule.matchStatesForMatch, if_true, Bool.false_eq_true, if_false]
    cases hand : Rule.matchAndStatesForMatch rules m emptyRuleMatchState with
    | none => simp
    | some stateSet =>
      have hs : stateSet.isEmpty = false := by
        apply Rule.isEmpty_of_matchAndStatesForMatch rules m _ hand
        exact RuleMatchStateSet.isEmpty_singleRuleMatchState 0#4
      simp [hs]
  | or =>
    simp only [Rule.matchStatesForMatch, if_true, Bool.false_eq_true, if_false]
    cases hempty : (Rule.matchOrStatesForMatch rules m 0#16).isEmpty with
    | true => simp
    | false => simp [hempty]

/-- The inversion law of `DefaultDNSRule.matchStatesForMatch` and
`LogicalDNSRule.matchStatesForMatch`, with or without `match_response`. -/
theorem Rule.matchStatesForMatch_withInvert (r : Rule σ α) (hr : r.allItemsEmpty = false)
    (m : InboundContext σ α) (hm : m.ignoreDestinationIPCIDRMatch = false) :
    (r.withInvert true).matchStatesForMatch m =
      if ((r.withInvert false).matchStatesForMatch m).isEmpty then emptyRuleMatchState
      else 0#16 := by
  cases r with
  | default g ruleSetItem invert matchResponse =>
    have hlaw : ∀ m' : InboundContext σ α, m'.ignoreDestinationIPCIDRMatch = false →
        (Rule.default g ruleSetItem true matchResponse).matchStates m' =
          if ((Rule.default g ruleSetItem false matchResponse).matchStates m').isEmpty then
            emptyRuleMatchState
          else 0#16 :=
      fun m' hm' =>
        Rule.matchStatesWithBase_withInvert (.default g ruleSetItem invert matchResponse) hr m'
          hm' 0#4
    cases matchResponse with
    | false =>
      simp only [Rule.withInvert, Rule.matchStatesForMatch, Bool.false_eq_true, if_false]
      exact hlaw m hm
    | true =>
      cases hresp : m.dnsResponse with
      | none =>
        simp [Rule.withInvert, Rule.matchStatesForMatch, hresp, emptyRuleMatchState]
      | some response =>
        simp only [Rule.withInvert, Rule.matchStatesForMatch, if_true, hresp]
        exact hlaw _ hm
  | logical rules mode invert =>
    exact Rule.matchStatesForMatch_logical_invert rules mode m

/-- The inversion law of the rule engine: at every base an inverted rule yields `{b}`
or nothing, the opposite of the rule without `invert` at base `0`, and so at top level
inverting a route, headless or DNS rule negates its `Match`. -/
theorem Rule.withInvert_matchStatesWithBase_and_Match (r : Rule σ α)
    (hr : r.allItemsEmpty = false) (m : InboundContext σ α)
    (hm : m.ignoreDestinationIPCIDRMatch = false) (b : RuleMatchState) :
    ((r.withInvert true).matchStatesWithBase m b =
      if ((r.withInvert false).matchStatesWithBase m 0#4).isEmpty then singleRuleMatchState b
      else 0#16) ∧
    (r.withInvert true).Match m = !(r.withInvert false).Match m ∧
    DNSRule.Match (r.withInvert true) m = !DNSRule.Match (r.withInvert false) m := by
  refine ⟨Rule.matchStatesWithBase_withInvert r hr m hm b, ?_, ?_⟩
  · have hlaw := Rule.matchStatesWithBase_withInvert r hr m hm 0#4
    simp only [Rule.Match, Rule.matchStates, hlaw]
    cases ((r.withInvert false).matchStatesWithBase m 0#4).isEmpty <;>
      simp [RuleMatchStateSet.isEmpty_singleRuleMatchState]
  · have hlaw := Rule.matchStatesForMatch_withInvert r hr m hm
    simp only [DNSRule.Match, hlaw]
    cases ((r.withInvert false).matchStatesForMatch m).isEmpty <;>
      simp [emptyRuleMatchState, RuleMatchStateSet.isEmpty_singleRuleMatchState]

/-- An inverted DNS rule with a port item and an `ip_cidr` item. -/
def invertedPortRule : Rule Nat Nat :=
  .default
    { items := [], sourceAddressItems := [], sourcePortItems := [],
      destinationAddressItems := [], destinationIPCIDRItems := [.ipcidr false (· == 1)],
      destinationPortItems := [.plain (· == 443)] }
    none true false

/-- A context on port 443 with no destination address and a clean rule cache. -/
def port443Context : InboundContext Nat Nat :=
  { conn := 443, source := 7, destination := none, destinationAddresses := [],
    dnsResponse := none, destinationAddressMatchFromResponse := false,
    ipcidrMatchSource := false, ipcidrAcceptEmpty := false, sourceAddressMatch := false,
    sourcePortMatch := false, destinationAddressMatch := false, destinationPortMatch := false,
    didMatch := false, ignoreDestinationIPCIDRMatch := false }

theorem invertedPortRule_withInvert_law :
    (invertedPortRule.allItemsEmpty = false ∧
      port443Context.ignoreDestinationIPCIDRMatch = false) ∧
    ((invertedPortRule.withInvert true).matchStatesWithBase port443Context 2#4 =
      if ((invertedPortRule.withInvert false).matchStatesWithBase port443Context 0#4).isEmpty then
        singleRuleMatchState 2#4
      else 0#16) ∧
    (invertedPortRule.withInvert true).Match port443Context =
      !(invertedPortRule.withInvert false).Match port443Context ∧
    DNSRule.Match (invertedPortRule.withInvert true) port443Context =
      !DNSRule.Match (invertedPortRule.withInvert false) port443Context :=
  ⟨⟨rfl, rfl⟩, Rule.withInvert_matchStatesWithBase_and_Match invertedPortRule rfl port443Context rfl 2#4⟩

end SingBox
