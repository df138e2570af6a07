import SingBox.DNSRouterRules
import SingBox.RuleFrame

/-!
# Legacy mode and rule mode on the rules both can run

`resolveLegacyDNSMode` picks legacy mode when some rule needs it, and rule mode when some
rule has `disable_optimistic_cache`, which only rule mode applies. A rule that neither mode
needs, one with no address filter, no `match_response`, and neither a strategy nor
`disable_optimistic_cache` on its action, is run alike by both: legacy mode's
`LegacyPreMatch` skips address filter items the rule does not have, and its address-limit
retry never starts. So on a router all of whose rules are such, `Router.Exchange` answers
the same in either mode (`DNSRouter.Exchange_legacyDNSMode_eq`).
-/

namespace SingBox

variable {σ α : Type}

mutual

/-- The rule and every rule below it, in its children and in its rule sets, has no address
filter item (the `ip_cidr`, `ip_is_private` and `ip_accept_any` items of the destination)
and no `match_response`. -/
def Rule.noAddressFilter : Rule σ α → Bool
  | .default g none _ matchResponse => g.destinationIPCIDRItems.isEmpty && !matchResponse
  | .default g (some item) _ matchResponse =>
    g.destinationIPCIDRItems.isEmpty && !matchResponse && RuleSetItem.noAddressFilter item
  | .logical rules _ _ => Rule.noAddressFilterAll rules

def Rule.noAddressFilterAll : List (Rule σ α) → Bool
  | [] => true
  | rule :: rules => rule.noAddressFilter && Rule.noAddressFilterAll rules

def RuleSetItem.noAddressFilter : RuleSetItem (Rule σ α) → Bool
  | ⟨setList, _, _⟩ => Rule.noAddressFilterSets setList

def Rule.noAddressFilterSets : List (List (Rule σ α)) → Bool
  | [] => true
  | rules :: setList => Rule.noAddressFilterAll rules && Rule.noAddressFilterSets setList

end

/-! ### `IgnoreDestinationIPCIDRMatch` is read only through address filter items -/

@[simp] theorem RuleItem.Match_setIgnore (item : RuleItem σ α) (m : InboundContext σ α)
    (b : Bool) : item.Match { m with ignoreDestinationIPCIDRMatch := b } = item.Match m :=
  item.Match_congr ⟨rfl, rfl, rfl, rfl, rfl, rfl, rfl, rfl⟩

@[simp] theorem matchAnyItem_setIgnore (items : List (RuleItem σ α)) (m : InboundContext σ α)
    (b : Bool) : matchAnyItem items { m with ignoreDestinationIPCIDRMatch := b } = matchAnyItem items m := by
  simp [matchAnyItem]

namespace RuleItemGroups

variable (g : RuleItemGroups σ α) (hg : g.destinationIPCIDRItems = [])
include hg

theorem destinationIPCIDRMatchesSource_of_nil (m : InboundContext σ α) :
    g.destinationIPCIDRMatchesSource m = false := by
  simp [destinationIPCIDRMatchesSource, hg]

theorem destinationIPCIDRMatchesDestination_of_nil (m : InboundContext σ α) :
    g.destinationIPCIDRMatchesDestination m = false := by
  simp [destinationIPCIDRMatchesDestination, hg]

theorem matchStatesWithBase_setIgnore (ruleSetItem : Option (RuleMatchState → RuleMatchStateSet))
    (invert : Bool) (m : InboundContext σ α) (b : Bool) (inheritedBase : RuleMatchState) :
    g.matchStatesWithBase ruleSetItem invert { m with ignoreDestinationIPCIDRMatch := b }
        inheritedBase =
      g.matchStatesWithBase ruleSetItem invert m inheritedBase := by
  have hsource := g.destinationIPCIDRMatchesSource_of_nil hg
  have hdestination := g.destinationIPCIDRMatchesDestination_of_nil hg
  have hbase : ∀ evaluationBase, g.baseState { m with ignoreDestinationIPCIDRMatch := b }
      evaluationBase = g.baseState m evaluationBase := by
    intro evaluationBase
    apply RuleMatchState.ext_has <;>
      simp only [baseState_has_sourceAddress, baseState_has_sourcePort,
        baseState_has_destinationAddress, baseState_has_destinationPort, sourceAddressMatches,
        destinationAddressMatches, hsource, hdestination, matchAnyItem_setIgnore]
  have hallows : g.allows { m with ignoreDestinationIPCIDRMatch := b } = g.allows m := by
    funext state
    simp only [allows, requiresSourceAddressMatch, requiresDestinationAddressMatch, hsource,
      hdestination]
  have hdid : ∀ hasRuleSet, g.didMatch { m with ignoreDestinationIPCIDRMatch := b } hasRuleSet =
      g.didMatch m hasRuleSet := by
    intro hasRuleSet
    simp only [didMatch, hsource, hdestination]
  unfold RuleItemGroups.matchStatesWithBase
  simp only [hbase, candidateStates, hallows, hdid, RuleItem.Match_setIgnore, hg, List.isEmpty_nil,
    Bool.not_true, Bool.and_false]

end RuleItemGroups

mutual

theorem Rule.matchStatesWithBase_setIgnore : ∀ (r : Rule σ α), r.noAddressFilter = true →
    ∀ (m : InboundContext σ α) (b : Bool) (base : RuleMatchState),
    r.matchStatesWithBase { m with ignoreDestinationIPCIDRMatch := b } base =
      r.matchStatesWithBase m base
  | .default g none invert matchResponse, hr, m, b, base => by
    simp only [Rule.noAddressFilter, Bool.and_eq_true, List.isEmpty_iff] at hr
    simp only [Rule.matchStatesWithBase, g.matchStatesWithBase_setIgnore hr.1]
  | .default g (some item) invert matchResponse, hr, m, b, base => by
    simp only [Rule.noAddressFilter, Bool.and_eq_true, List.isEmpty_iff] at hr
    simp only [Rule.matchStatesWithBase, g.matchStatesWithBase_setIgnore hr.1.1,
      RuleSetItem.matchStatesWithBase_setIgnore item hr.2 m b]
  | .logical rules mode invert, hr, m, b, base => by
    simp only [Rule.noAddressFilter] at hr
    simp only [Rule.matchStatesWithBase, Rule.matchAndStates_setIgnore rules hr,
      Rule.matchOrStates_setIgnore rules hr]

theorem Rule.matchAndStates_setIgnore : ∀ (rules : List (Rule σ α)),
    Rule.noAddressFilterAll rules = true → ∀ (m : InboundContext σ α) (b : Bool)
    (evaluationBase : RuleMatchState) (stateSet : RuleMatchStateSet),
    Rule.matchAndStates rules { m with ignoreDestinationIPCIDRMatch := b } evaluationBase stateSet =
      Rule.matchAndStates rules m evaluationBase stateSet
  | [], _, _, _, _, _ => rfl
  | rule :: rules, hr, m, b, evaluationBase, stateSet => by
    simp only [Rule.noAddressFilterAll, Bool.and_eq_true] at hr
    have hreset : ({ m with ignoreDestinationIPCIDRMatch := b } : InboundContext σ α).resetRuleCache =
        { m.resetRuleCache with ignoreDestinationIPCIDRMatch := b } := rfl
    simp only [Rule.matchAndStates, hreset, Rule.matchStatesWithBase_setIgnore rule hr.1,
      Rule.matchAndStates_setIgnore rules hr.2]

theorem Rule.matchOrStates_setIgnore : ∀ (rules : List (Rule σ α)),
    Rule.noAddressFilterAll rules = true → ∀ (m : InboundContext σ α) (b : Bool)
    (evaluationBase : RuleMatchState) (stateSet : RuleMatchStateSet),
    Rule.matchOrStates rules { m with ignoreDestinationIPCIDRMatch := b } evaluationBase stateSet =
      Rule.matchOrStates rules m evaluationBase stateSet
  | [], _, _, _, _, _ => rfl
  | rule :: rules, hr, m, b, evaluationBase, stateSet => by
    simp only [Rule.noAddressFilterAll, Bool.and_eq_true] at hr
    have hreset : ({ m with ignoreDestinationIPCIDRMatch := b } : InboundContext σ α).resetRuleCache =
        { m.resetRuleCache with ignoreDestinationIPCIDRMatch := b } := rfl
    simp only [Rule.matchOrStates, hreset, Rule.matchStatesWithBase_setIgnore rule hr.1,
      Rule.matchOrStates_setIgnore rules hr.2]

theorem RuleSetItem.matchStatesWithBase_setIgnore : ∀ (item : RuleSetItem (Rule σ α)),
    item.noAddressFilter = true → ∀ (m : InboundContext σ α) (b : Bool) (base : RuleMatchState),
    item.matchStatesWithBase { m with ignoreDestinationIPCIDRMatch := b } base =
      item.matchStatesWithBase m base
  | ⟨setList, matchSource, acceptEmpty⟩, hr, m, b, base => by
    simp only [RuleSetItem.noAddressFilter] at hr
    have hnested : RuleSetItem.nestedMetadata ⟨setList, matchSource, acceptEmpty⟩
        { m with ignoreDestinationIPCIDRMatch := b } =
        { RuleSetItem.nestedMetadata ⟨setList, matchSource, acceptEmpty⟩ m with
          ignoreDestinationIPCIDRMatch := b } := rfl
    simp only [RuleSetItem.matchStatesWithBase, hnested,
      Rule.matchRuleSetsWithBase_setIgnore setList hr]

theorem Rule.matchRuleSetsWithBase_setIgnore : ∀ (setList : List (List (Rule σ α))),
    Rule.noAddressFilterSets setList = true → ∀ (m : InboundContext σ α) (b : Bool)
    (base : RuleMatchState) (stateSet : RuleMatchStateSet),
    Rule.matchRuleSetsWithBase setList { m with ignoreDestinationIPCIDRMatch := b } base stateSet =
      Rule.matchRuleSetsWithBase setList m base stateSet
  | [], _, _, _, _, _ => rfl
  | rules :: setList, hr, m, b, base, stateSet => by
    simp only [Rule.noAddressFilterSets, Bool.and_eq_true] at hr
    simp only [Rule.matchRuleSetsWithBase, Rule.matchRulesWithBase_setIgnore rules hr.1,
      Rule.matchRuleSetsWithBase_setIgnore setList hr.2]

theorem Rule.matchRulesWithBase_setIgnore : ∀ (rules : List (Rule σ α)),
    Rule.noAddressFilterAll rules = true → ∀ (m : InboundContext σ α) (b : Bool)
    (base : RuleMatchState) (stateSet : RuleMatchStateSet),
    Rule.matchRulesWithBase rules { m with ignoreDestinationIPCIDRMatch := b } base stateSet =
      Rule.matchRulesWithBase rules m base stateSet
  | [], _, _, _, _, _ => rfl
  | rule :: rules, hr, m, b, base, stateSet => by
    simp only [Rule.noAddressFilterAll, Bool.and_eq_true] at hr
    have hreset : ({ m with ignoreDestinationIPCIDRMatch := b } : InboundContext σ α).resetRuleMatchCache =
        { m.resetRuleMatchCache with ignoreDestinationIPCIDRMatch := b } := rfl
    simp only [Rule.matchRulesWithBase, hreset, Rule.matchStatesWithBase_setIgnore rule hr.1,
      Rule.matchRulesWithBase_setIgnore rules hr.2]

end

mutual

/-- With no `match_response` in it, a DNS rule's `matchStatesForMatch` is its abstract rule's
`matchStates`. -/
theorem Rule.matchStatesForMatch_of_noAddressFilter : ∀ (r : Rule σ α), r.noAddressFilter = true →
    ∀ m : InboundContext σ α, r.matchStatesForMatch m = r.matchStates m
  | .default g none invert matchResponse, hr, m => by
    simp only [Rule.noAddressFilter, Bool.and_eq_true, Bool.not_eq_true'] at hr
    simp only [Rule.matchStatesForMatch, hr.2, Bool.false_eq_true, if_false]
  | .default g (some item) invert matchResponse, hr, m => by
    simp only [Rule.noAddressFilter, Bool.and_eq_true, Bool.not_eq_true'] at hr
    simp only [Rule.matchStatesForMatch, hr.1.2, Bool.false_eq_true, if_false]
  | .logical rules mode invert, hr, m => by
    simp only [Rule.noAddressFilter] at hr
    have hempty : emptyRuleMatchState.withBase 0#4 = emptyRuleMatchState := by decide
    cases mode with
    | and =>
      simp only [Rule.matchStatesForMatch, Rule.matchStates, Rule.matchStatesWithBase, ite_self,
        hempty, Rule.matchAndStatesForMatch_of_noAddressFilter rules hr]
      cases Rule.matchAndStates rules m 0#4 emptyRuleMatchState <;> cases invert <;> rfl
    | or =>
      simp only [Rule.matchStatesForMatch, Rule.matchStates, Rule.matchStatesWithBase, ite_self,
        Rule.matchOrStatesForMatch_of_noAddressFilter rules hr]
      cases invert <;> simp [invertedFailure, hempty]

theorem Rule.matchAndStatesForMatch_of_noAddressFilter : ∀ (rules : List (Rule σ α)),
    Rule.noAddressFilterAll rules = true → ∀ (m : InboundContext σ α) (stateSet : RuleMatchStateSet),
    Rule.matchAndStatesForMatch rules m stateSet = Rule.matchAndStates rules m 0#4 stateSet
  | [], _, _, _ => rfl
  | rule :: rules, hr, m, stateSet => by
    simp only [Rule.noAddressFilterAll, Bool.and_eq_true] at hr
    simp only [Rule.matchAndStatesForMatch, Rule.matchAndStates,
      Rule.matchStatesForMatch_of_noAddressFilter rule hr.1, Rule.matchStates,
      Rule.matchAndStatesForMatch_of_noAddressFilter rules hr.2]

theorem Rule.matchOrStatesForMatch_of_noAddressFilter : ∀ (rules : List (Rule σ α)),
    Rule.noAddressFilterAll rules = true → ∀ (m : InboundContext σ α) (stateSet : RuleMatchStateSet),
    Rule.matchOrStatesForMatch rules m stateSet = Rule.matchOrStates rules m 0#4 stateSet
  | [], _, _, _ => rfl
  | rule :: rules, hr, m, stateSet => by
    simp only [Rule.noAddressFilterAll, Bool.and_eq_true] at hr
    simp only [Rule.matchOrStatesForMatch, Rule.matchOrStates,
      Rule.matchStatesForMatch_of_noAddressFilter rule hr.1, Rule.matchStates,
      Rule.matchOrStatesForMatch_of_noAddressFilter rules hr.2]

end

mutual

theorem Rule.hasIPCIDRRule_of_noAddressFilter : ∀ (r : Rule σ α), r.noAddressFilter = true →
    r.hasIPCIDRRule = false
  | .default g none invert matchResponse, hr => by
    simp only [Rule.noAddressFilter, Bool.and_eq_true] at hr
    simp [Rule.hasIPCIDRRule, hr.1]
  | .default g (some item) invert matchResponse, hr => by
    simp only [Rule.noAddressFilter, Bool.and_eq_true] at hr
    simp [Rule.hasIPCIDRRule, hr.1.1]
  | .logical rules mode invert, hr => by
    simp only [Rule.noAddressFilter] at hr
    simp only [Rule.hasIPCIDRRule, Rule.anyHasIPCIDRRule_of_noAddressFilter rules hr]

theorem Rule.anyHasIPCIDRRule_of_noAddressFilter : ∀ (rules : List (Rule σ α)),
    Rule.noAddressFilterAll rules = true → Rule.anyHasIPCIDRRule rules = false
  | [], _ => rfl
  | rule :: rules, hr => by
    simp only [Rule.noAddressFilterAll, Bool.and_eq_true] at hr
    simp only [Rule.anyHasIPCIDRRule, Rule.hasIPCIDRRule_of_noAddressFilter rule hr.1,
      Rule.anyHasIPCIDRRule_of_noAddressFilter rules hr.2, Bool.or_self]

end

theorem RuleSetItem.ContainsDestinationIPCIDRRule_of_noAddressFilter (item : RuleSetItem (Rule σ α))
    (hr : item.noAddressFilter = true) : item.ContainsDestinationIPCIDRRule = false := by
  obtain ⟨setList, matchSource, acceptEmpty⟩ := item
  simp only [RuleSetItem.noAddressFilter] at hr
  have hsets : ∀ setList : List (List (Rule σ α)), Rule.noAddressFilterSets setList = true →
      setList.any Rule.anyHasIPCIDRRule = false := by
    intro setList hsets
    induction setList with
    | nil => rfl
    | cons rules setList ih =>
      simp only [Rule.noAddressFilterSets, Bool.and_eq_true] at hsets
      simp [Rule.anyHasIPCIDRRule_of_noAddressFilter rules hsets.1, ih hsets.2]
  simp [RuleSetItem.ContainsDestinationIPCIDRRule, hsets setList hr]

mutual

theorem DNSRule.WithAddressLimit_of_noAddressFilter : ∀ (r : Rule σ α), r.noAddressFilter = true →
    DNSRule.WithAddressLimit r = false
  | .default g none invert matchResponse, hr => by
    simp only [Rule.noAddressFilter, Bool.and_eq_true] at hr
    simp [DNSRule.WithAddressLimit, hr.1]
  | .default g (some item) invert matchResponse, hr => by
    simp only [Rule.noAddressFilter, Bool.and_eq_true] at hr
    simp [DNSRule.WithAddressLimit, hr.1.1,
      RuleSetItem.ContainsDestinationIPCIDRRule_of_noAddressFilter item hr.2]
  | .logical rules mode invert, hr => by
    simp only [Rule.noAddressFilter] at hr
    simp only [DNSRule.WithAddressLimit, DNSRule.anyWithAddressLimit_of_noAddressFilter rules hr]

theorem DNSRule.anyWithAddressLimit_of_noAddressFilter : ∀ (rules : List (Rule σ α)),
    Rule.noAddressFilterAll rules = true → DNSRule.anyWithAddressLimit rules = false
  | [], _ => rfl
  | rule :: rules, hr => by
    simp only [Rule.noAddressFilterAll, Bool.and_eq_true] at hr
    simp only [DNSRule.anyWithAddressLimit, DNSRule.WithAddressLimit_of_noAddressFilter rule hr.1,
      DNSRule.anyWithAddressLimit_of_noAddressFilter rules hr.2, Bool.or_self]

end

theorem DNSRule.legacyPreMatch_of_noAddressFilter (r : Rule σ α) (hr : r.noAddressFilter = true)
    (m : InboundContext σ α) : DNSRule.legacyPreMatch r m = DNSRule.Match r m := by
  have hignore : Rule.matchStates r { m with ignoreDestinationIPCIDRMatch := true } =
      Rule.matchStates r m := Rule.matchStatesWithBase_setIgnore r hr m true 0#4
  have hmatch : DNSRule.Match r m = !(Rule.matchStates r m).isEmpty := by
    simp only [DNSRule.Match, Rule.matchStatesForMatch_of_noAddressFilter r hr m]
  rw [hmatch]
  cases r with
  | default g ruleSetItem invert matchResponse =>
    have hmr : matchResponse = false := by
      cases ruleSetItem <;> simp_all [Rule.noAddressFilter]
    subst hmr
    simp only [DNSRule.legacyPreMatch, Bool.false_eq_true, if_false, hignore]
  | logical rules mode invert => simp only [DNSRule.legacyPreMatch, hignore]

/-! ### The rule loops of the two modes -/

/-- The actions legacy mode runs as rule mode does: those of legacy mode, with no strategy and
no `disable_optimistic_cache`. -/
def DNSAction.bothModes : DNSAction α → Bool
  | .route _ options => options.strategy == .asIS && !options.disableOptimisticCache
  | .routeOptions options => options.strategy == .asIS && !options.disableOptimisticCache
  | .evaluate _ _ => false
  | .respond => false
  | .reject _ => true
  | .predefined .. => true

/-- A rule that neither mode needs: no address filter and no `match_response` anywhere in it,
and an action that `bothModes` admits. -/
def DNSEntry.bothModes (entry : DNSEntry σ α) : Bool :=
  entry.rule.noAddressFilter && entry.action.bothModes

section BothModes

variable {routeOptions : DNSRouteOptions} (h : routeOptions.strategy = .asIS)
  (hoptimistic : routeOptions.disableOptimisticCache = false)
include h hoptimistic

theorem DNSRouteOptions.apply_eq_applyDNSRouteOptions (disableCache : Bool)
    (options : DNSQueryOptions α) :
    routeOptions.apply disableCache options =
      { applyDNSRouteOptions options routeOptions with
        disableCache := options.disableCache || disableCache } := by
  simp [DNSRouteOptions.apply, applyDNSRouteOptions, h, hoptimistic]

theorem DNSRouteOptions.apply_disableCache_eq (options : DNSQueryOptions α) :
    routeOptions.apply routeOptions.disableCache options = applyDNSRouteOptions options routeOptions := by
  simp [DNSRouteOptions.apply, applyDNSRouteOptions, h, hoptimistic]

theorem DNSRouter.resolveDNSRoute_of_transport (r : DNSRouter σ α) {server : String}
    {transport : DNSTransport α} (htransport : r.transport server = some transport)
    {allowFakeIP : Bool} (hallow : (transport.isFakeIP && !allowFakeIP) = false)
    (options : DNSQueryOptions α) :
    r.resolveDNSRoute server routeOptions allowFakeIP options =
      (some transport, .dnsRouteStatusResolved,
        routeOptions.apply (transport.isFakeIP || routeOptions.disableCache) options) := by
  rw [DNSRouteOptions.apply_eq_applyDNSRouteOptions h hoptimistic]
  cases hfake : transport.isFakeIP with
  | false => simp [DNSRouter.resolveDNSRoute, htransport, hfake, applyDNSRouteOptions]
  | true =>
    simp only [hfake, Bool.true_and, Bool.not_eq_false'] at hallow
    simp [DNSRouter.resolveDNSRoute, htransport, hfake, hallow, applyDNSRouteOptions]

end BothModes

namespace Router

variable (r : Router σ α)

/-- Legacy mode's answer at what `matchDNS` returns, when the rule it stops at has no address
limit: one exchange, or the reject or predefined response. -/
def answerWithoutLimit (now : Nat) (message : Msg α) (question : Question) (c : Client α) :
    DNSMatch σ α × DNSQueryOptions α → Except DNSError (Msg α) × Client α
  | (.fallback transport, dnsOptions) =>
    c.Exchange now transport message (r.withDefaultStrategy dnsOptions) none
  | (.reject .default, _) => (.ok ⟨message.id, rcodeRefused, [question], [], [], []⟩, c)
  | (.reject .drop, _) => (.error .drop, c)
  | (.predefined rcode answer ns extra, _) =>
    (.ok (predefinedResponse rcode answer ns extra message question), c)
  | (.route transport _ _, dnsOptions) =>
    c.Exchange now transport message (r.withDefaultStrategy dnsOptions) none

/-- With no address limit among the rules, the legacy loop makes one pass of `matchDNS`: no
response checker, so no retry. -/
theorem exchangeLegacy_of_noLimit {now : Nat} {message : Msg α} {question : Question}
    {m : InboundContext σ α} {options : DNSQueryOptions α} {rules : List (DNSRuleEntry σ α)}
    (hrules : ∀ entry ∈ rules, entry.rule.WithAddressLimit = false) (c : Client α) :
    r.exchangeLegacy now message question m options rules c =
      r.answerWithoutLimit now message question c
        (r.matchDNS m true (isAddressQuery message) rules options) := by
  rw [exchangeLegacy_eq]
  rcases hmatch : r.matchDNS m true (isAddressQuery message) rules options with
    ⟨_ | _ | _ | _, dnsOptions⟩
  · rename_i transport rule rest
    obtain ⟨⟨entry, hentry, hrule⟩, -⟩ := r.matchDNS_route hmatch
    have hcheck : addressLimitResponseCheck rule m = none := by
      simp [addressLimitResponseCheck, ← hrule, hrules entry hentry]
    simp only [hcheck, answerWithoutLimit, Option.isSome_none, Bool.false_and, Bool.false_eq_true,
      if_false]
    rcases c.Exchange now transport message (r.withDefaultStrategy dnsOptions) none with
      ⟨_ | _, _⟩ <;> rfl
  · rename_i method
    cases method <;> rfl
  · rfl
  · rfl

end Router

namespace DNSRouter

variable (r : DNSRouter σ α) {now : Nat} {message : Msg α} {question : Question}
  {m : InboundContext σ α} {allowFakeIP : Bool}

theorem evaluateContext_none (hm : m.dnsResponse = none) : evaluateContext m none = ruleContext m := by
  simp only [evaluateContext, ruleContext, InboundContext.resetRuleCache,
    InboundContext.resetRuleMatchCache, Option.map_none, ← hm]

variable (now message question m allowFakeIP) in
/-- Rule mode's loop on rules that neither mode needs is legacy mode's one pass of `matchDNS`
over them. -/
theorem exchangeWithRules_eq_legacy (hm : m.dnsResponse = none) :
    ∀ (rules : List (DNSEntry σ α)), (∀ entry ∈ rules, entry.bothModes = true) →
    ∀ (options : DNSQueryOptions α) (c : Client α),
    ((r.exchangeWithRules now message question m allowFakeIP rules options none none c).1.response,
        (r.exchangeWithRules now message question m allowFakeIP rules options none none c).2) =
      Prod.map (Except.mapError RouterError.dns) id
        (r.toRouter.answerWithoutLimit now message question c
          (r.toRouter.matchDNS m allowFakeIP (isAddressQuery message)
            (rules.filterMap DNSEntry.legacyEntry?) options))
  | [], _, options, c => by
    simp only [exchangeWithRules, List.filterMap_nil, Router.matchDNS,
      Router.answerWithoutLimit, Prod.map]
    rfl
  | entry :: rules, hrules, options, c => by
    have hentry : entry.bothModes = true := hrules entry List.mem_cons_self
    have ih := exchangeWithRules_eq_legacy hm rules fun entry' hentry' =>
      hrules entry' (List.mem_cons_of_mem _ hentry')
    simp only [DNSEntry.bothModes, Bool.and_eq_true] at hentry
    obtain ⟨hfilter, haction⟩ := hentry
    have hmatch : entry.rule.Match (evaluateContext m none) =
        entry.rule.legacyPreMatch (ruleContext m) := by
      rw [evaluateContext_none hm, DNSRule.legacyPreMatch_of_noAddressFilter _ hfilter]
    have hlimit := DNSRule.WithAddressLimit_of_noAddressFilter _ hfilter
    obtain ⟨action, hlegacy⟩ : ∃ action, entry.action.legacyAction? = some action := by
      cases hentryAction : entry.action <;>
        simp_all [DNSAction.bothModes, DNSAction.legacyAction?]
    have hcons : (entry :: rules).filterMap DNSEntry.legacyEntry? =
        ⟨entry.rule, action⟩ :: rules.filterMap DNSEntry.legacyEntry? := by
      simp [DNSEntry.legacyEntry?, hlegacy]
    rw [hcons]
    cases hpre : entry.rule.legacyPreMatch (ruleContext m) with
    | false =>
      simp only [exchangeWithRules, hmatch, hpre, Router.matchDNS, hlimit, Bool.false_and,
        Bool.false_eq_true, if_false]
      exact ih options c
    | true =>
      simp only [exchangeWithRules, hmatch, hpre, Router.matchDNS, hlimit, Bool.false_and,
        Bool.false_eq_true, if_false, if_true]
      cases hentryAction : entry.action with
      | evaluate server routeOptions => simp [hentryAction, DNSAction.bothModes] at haction
      | respond => simp [hentryAction, DNSAction.bothModes] at haction
      | routeOptions routeOptions =>
        simp only [hentryAction, DNSAction.legacyAction?, Option.some.injEq] at hlegacy haction
        subst hlegacy
        simp only [DNSAction.bothModes, Bool.and_eq_true, beq_iff_eq, Bool.not_eq_true'] at haction
        dsimp only
        rw [DNSRouteOptions.apply_disableCache_eq haction.1 haction.2]
        exact ih _ c
      | route server routeOptions =>
        simp only [hentryAction, DNSAction.legacyAction?, Option.some.injEq] at hlegacy haction
        subst hlegacy
        simp only [DNSAction.bothModes, Bool.and_eq_true, beq_iff_eq, Bool.not_eq_true'] at haction
        dsimp only
        cases htransport : r.transport server with
        | none =>
          simp only [resolveDNSRoute, htransport, toRouter_transport]
          exact ih options c
        | some transport =>
          cases hallow : transport.isFakeIP && !allowFakeIP with
          | true =>
            simp only [resolveDNSRoute, htransport, hallow, toRouter_transport, if_true]
            exact ih options c
          | false =>
            simp only [r.resolveDNSRoute_of_transport haction.1 haction.2 htransport hallow,
              toRouter_transport,
              htransport, hallow, Bool.false_eq_true, if_false, Router.answerWithoutLimit, Prod.map]
            rfl
      | reject method =>
        simp only [hentryAction, DNSAction.legacyAction?, Option.some.injEq] at hlegacy
        subst hlegacy
        cases method <;> rfl
      | predefined rcode answer ns extra =>
        simp only [hentryAction, DNSAction.legacyAction?, Option.some.injEq] at hlegacy
        subst hlegacy
        rfl

theorem WithAddressLimit_of_bothModes (hr : ∀ entry ∈ r.rules, entry.bothModes = true) :
    ∀ entry ∈ r.toRouter.rules, entry.rule.WithAddressLimit = false := by
  intro entry hentry
  simp only [toRouter_rules, List.mem_filterMap, DNSEntry.legacyEntry?, Option.map_eq_some_iff] at hentry
  obtain ⟨e, he, action, -, rfl⟩ := hentry
  have hboth := hr e he
  simp only [DNSEntry.bothModes, Bool.and_eq_true] at hboth
  exact DNSRule.WithAddressLimit_of_noAddressFilter _ hboth.1

/-- **The two modes agree on the rules neither needs.** On a router none of whose rules has an
address filter, a `match_response`, a strategy, `disable_optimistic_cache`, or an `evaluate`
or `respond` action, `Router.Exchange` gives the same answer and leaves the same client in
legacy mode and in rule mode. -/
theorem Exchange_legacyDNSMode_eq (hr : ∀ entry ∈ r.rules, entry.bothModes = true) (c : Client α)
    (now : Nat) (message : Msg α) (options : DNSQueryOptions α) (m : InboundContext σ α) :
    { r with legacyDNSMode := true }.Exchange c now message options m =
      { r with legacyDNSMode := false }.Exchange c now message options m := by
  unfold Exchange
  split
  · rename_i question _
    split
    · rfl
    · split
      · rfl
      · simp only [if_true, Bool.false_eq_true, if_false]
        rw [Router.exchangeLegacy_of_noLimit _
          (DNSRouter.WithAddressLimit_of_bothModes { r with legacyDNSMode := true } hr)]
        have hloop := DNSRouter.exchangeWithRules_eq_legacy { r with legacyDNSMode := false } now
          message question (r.toRouter.exchangeMetadata m question) true rfl r.rules hr options c
        exact hloop.symm
  · rfl

end DNSRouter

/-- A FakeIP server: every A query gets an address of its range. -/
def fakeIPTransport : DNSTransport Nat := ⟨"fakeip", true, fun message => .ok (answerWith 198 message)⟩

/-- A router whose one rule sends every query to `fakeip`, with `local` as its default. -/
def fakeIPRouter : DNSRouter Unit Nat where
  rules := [⟨.default ⟨[], [], [], [], [], []⟩ none false false,
    .route "fakeip" ⟨.asIS, false, false, none, none⟩⟩]
  transport tag :=
    if tag = "local" then some localTransport else if tag = "fakeip" then some fakeIPTransport else none
  defaultTransport := localTransport
  defaultDomainStrategy := .asIS
  queryMetadata _ _ := ()
  lookupMetadata _ _ := ()
  lookupQueryMetadata _ _ := ()
  legacyDNSMode := false
  closing := false

theorem fakeIPRouter_Exchange_legacyDNSMode_eq :
    (∀ entry ∈ fakeIPRouter.rules, entry.bothModes = true) ∧
      { fakeIPRouter with legacyDNSMode := true }.Exchange cachingClient 0 exampleQuery
          { localOptions with transport := none } exampleMetadata =
        { fakeIPRouter with legacyDNSMode := false }.Exchange cachingClient 0 exampleQuery
          { localOptions with transport := none } exampleMetadata :=
  ⟨by decide, DNSRouter.Exchange_legacyDNSMode_eq fakeIPRouter (by decide) _ _ _ _ _⟩

end SingBox
