import SingBox.Rule

/-!
# DNS rules

`route/rule/rule_dns.go`. `DefaultDNSRule` and `LogicalDNSRule` are the abstract rules
with three entry points of their own. `Match` goes through `matchStatesForMatch`,
which evaluates a `match_response` rule against the DNS response and walks logical
children through the same function. `LegacyPreMatch` evaluates before the lookup and
skips the destination IP items by setting `IgnoreDestinationIPCIDRMatch`.
`MatchAddressLimit` evaluates against a response's addresses.
-/

namespace SingBox

variable {σ α : Type}

mutual

/-- `DefaultDNSRule.matchStatesForMatch` and `LogicalDNSRule.matchStatesForMatch`. -/
def Rule.matchStatesForMatch : Rule σ α → InboundContext σ α → RuleMatchStateSet
  | r@(.default _ _ invert matchResponse), m =>
    if matchResponse then
      match m.dnsResponse with
      | none => invertedFailure invert 0#4
      | some _ => r.matchStates { m with destinationAddressMatchFromResponse := true }
    else r.matchStates m
  | .logical rules mode invert, m =>
    match mode with
    | .and =>
      match Rule.matchAndStatesForMatch rules m emptyRuleMatchState with
      | none => if invert then emptyRuleMatchState else 0#16
      | some stateSet => if invert then 0#16 else stateSet
    | .or =>
      let stateSet := Rule.matchOrStatesForMatch rules m 0#16
      if stateSet.isEmpty then (if invert then emptyRuleMatchState else 0#16)
      else if invert then 0#16 else stateSet

def Rule.matchAndStatesForMatch : List (Rule σ α) → InboundContext σ α → RuleMatchStateSet →
    Option RuleMatchStateSet
  | [], _, stateSet => some stateSet
  | rule :: rules, m, stateSet =>
    let nestedStateSet := rule.matchStatesForMatch m.resetRuleCache
    if nestedStateSet.isEmpty then none
    else Rule.matchAndStatesForMatch rules m (stateSet.combine nestedStateSet)

def Rule.matchOrStatesForMatch : List (Rule σ α) → InboundContext σ α → RuleMatchStateSet →
    RuleMatchStateSet
  | [], _, stateSet => stateSet
  | rule :: rules, m, stateSet =>
    Rule.matchOrStatesForMatch rules m (stateSet.merge (rule.matchStatesForMatch m.resetRuleCache))

end

theorem Rule.isEmpty_of_matchAndStatesForMatch (rules : List (Rule σ α)) (m : InboundContext σ α)
    {stateSet result : RuleMatchStateSet} (hs : stateSet.isEmpty = false)
    (h : Rule.matchAndStatesForMatch rules m stateSet = some result) :
    result.isEmpty = false := by
  induction rules generalizing stateSet with
  | nil =>
    simp only [Rule.matchAndStatesForMatch, Option.some.injEq] at h
    rw [← h]
    exact hs
  | cons rule rules ih =>
    simp only [Rule.matchAndStatesForMatch] at h
    split at h
    · cases h
    · rename_i hnested
      exact ih (RuleMatchStateSet.isEmpty_combine hs (Bool.eq_false_iff.mpr hnested)) h

/-- A DNS rule (a `DefaultDNSRule` or a `LogicalDNSRule`) and its own entry points. -/
def DNSRule (σ α : Type) := Rule σ α

namespace DNSRule

def Match (r : DNSRule σ α) (m : InboundContext σ α) : Bool :=
  !(Rule.matchStatesForMatch r m).isEmpty

theorem Match_default (g : RuleItemGroups σ α) (ruleSetItem : Option (RuleSetItem (Rule σ α)))
    (invert : Bool) (m : InboundContext σ α) :
    DNSRule.Match (Rule.default g ruleSetItem invert false) m =
      (Rule.default g ruleSetItem invert false).Match m := by
  simp [DNSRule.Match, Rule.matchStatesForMatch, Rule.Match]

def legacyPreMatch : DNSRule σ α → InboundContext σ α → Bool
  | r@(.default _ _ _ matchResponse), m =>
    if matchResponse then false
    else !(Rule.matchStates r { m with ignoreDestinationIPCIDRMatch := true }).isEmpty
  | r@(.logical _ _ _), m =>
    !(Rule.matchStates r { m with ignoreDestinationIPCIDRMatch := true }).isEmpty

def matchAddressLimit (r : DNSRule σ α) (m : InboundContext σ α)
    (response : Option (DNSMessage α)) : Bool :=
  !(Rule.matchStates r
    { m with dnsResponse := response, destinationAddressMatchFromResponse := true }).isEmpty

end DNSRule

end SingBox
