import SingBox.DNSMessage
import SingBox.IndexedFold
import SingBox.LockStep

/-!
# Legacy DNS mode

The DNS router of `dns/router.go` runs its rules in one of two modes. In legacy mode an address
filter (`ip_cidr`, `ip_is_private`, `ip_accept_any`, a rule set with IP CIDR rules) matches the
addresses of a response the router fetches before it decides; in the other mode a rule matches a
response only under `match_response`, after an `evaluate` rule fetched it. `resolveLegacyDNSMode`
reads the configured rules (`option.DNSRule`, here under `Options`), logical ones with all their
sub-rules, and the metadata of the rule sets they name, and settles the mode; when the mode is
not legacy, `validateLegacyDNSModeDisabledRules` rejects what only legacy mode could run.
`buildRules` makes these checks before it builds the rules, and
`ValidateRuleSetMetadataUpdate` makes them again, on the new metadata, each time a rule set
reloads.

What is proved: the mode does not depend on the order of the rules; what the validation
accepts; that no check dereferences a missing router; and, over any run of starts, closes and
rule-set reloads, that a started router's rules stay valid for the mode it runs in.
-/

namespace SingBox

/-- `adapter.RuleSetMetadata`, on the fields the DNS router reads. -/
structure RuleSetMetadata where
  ContainsIPCIDRRule : Bool
  ContainsDNSQueryTypeRule : Bool
  ContainsNonIPCIDRRule : Bool
  deriving DecidableEq, Repr

/-- `adapter.Router`, on `RuleSet(tag)` followed by the rule set's `Metadata()`. -/
structure MetadataRouter where
  RuleSet : String → Option RuleSetMetadata

namespace Deprecated

/-- `deprecated.Note`, on the fields `MessageWithLink` reads. -/
structure Note where
  Description : String
  DeprecatedVersion : String
  ScheduledVersion : String
  MigrationLink : String

def Note.MessageWithLink (n : Note) : String :=
  if n.MigrationLink ≠ "" then
    n.Description ++ " is deprecated in sing-box " ++ n.DeprecatedVersion ++
      " and will be removed in sing-box " ++ n.ScheduledVersion ++
      ", checkout documentation for migration: " ++ n.MigrationLink
  else
    n.Description ++ " is deprecated in sing-box " ++ n.DeprecatedVersion ++
      " and will be removed in sing-box " ++ n.ScheduledVersion ++ "."

def OptionRuleSetIPCIDRAcceptEmpty : Note where
  Description := "Legacy `rule_set_ip_cidr_accept_empty` DNS rule item"
  DeprecatedVersion := "1.14.0"
  ScheduledVersion := "1.16.0"
  MigrationLink :=
    "https://sing-box.sagernet.org/migration/#migrate-address-filter-fields-to-response-matching"

def OptionLegacyDNSAddressFilter : Note where
  Description := "Legacy Address Filter Fields in DNS rules"
  DeprecatedVersion := "1.14.0"
  ScheduledVersion := "1.16.0"
  MigrationLink :=
    "https://sing-box.sagernet.org/migration/#migrate-address-filter-fields-to-response-matching"

def OptionLegacyDNSRuleStrategy : Note where
  Description := "Legacy `strategy` DNS rule action option"
  DeprecatedVersion := "1.14.0"
  ScheduledVersion := "1.16.0"
  MigrationLink :=
    "https://sing-box.sagernet.org/migration/#migrate-dns-rule-action-strategy-to-rule-items"

end Deprecated

def RuleActionTypeRoute : String := "route"
def RuleActionTypeEvaluate : String := "evaluate"
def RuleActionTypeRespond : String := "respond"

def DNSRuleActionNestedUnsupportedMessage : String :=
  "DNS rule action is not supported in nested rules"

namespace Options

/-- `option.DNSRouteActionOptions`; a duration is its count of nanoseconds, a prefix its text. -/
structure DNSRouteActionOptions where
  Server : String := ""
  Timeout : Nat := 0
  Strategy : DomainStrategy := .asIS
  DisableCache : Bool := false
  DisableOptimisticCache : Bool := false
  RewriteTTL : Option Nat := none
  ClientSubnet : Option String := none
  deriving DecidableEq, Repr

structure DNSRouteOptionsActionOptions where
  Strategy : DomainStrategy := .asIS
  Timeout : Nat := 0
  DisableCache : Bool := false
  DisableOptimisticCache : Bool := false
  RewriteTTL : Option Nat := none
  ClientSubnet : Option String := none
  deriving DecidableEq, Repr

structure RejectActionOptions where
  Method : String := ""
  NoDrop : Bool := false
  deriving DecidableEq, Repr

/-- `option.DNSRouteActionPredefined`; a record is its text. -/
structure DNSRouteActionPredefined where
  Rcode : Option Nat := none
  Answer : List String := []
  Ns : List String := []
  Extra : List String := []
  deriving DecidableEq, Repr

structure DNSRuleAction where
  Action : String := ""
  RouteOptions : DNSRouteActionOptions := {}
  RouteOptionsOptions : DNSRouteOptionsActionOptions := {}
  RejectOptions : RejectActionOptions := {}
  PredefinedOptions : DNSRouteActionPredefined := {}
  deriving DecidableEq, Repr

/-- `option.DefaultDNSRule`, on the fields the mode checks read, with its action. -/
structure DefaultDNSRule where
  IPVersion : Int := 0
  QueryType : List Nat := []
  RuleSet : List String := []
  RuleSetIPCIDRMatchSource : Bool := false
  RuleSetIPCIDRAcceptEmpty : Bool := false
  MatchResponse : Bool := false
  IPCIDR : List String := []
  IPIsPrivate : Bool := false
  IPAcceptAny : Bool := false
  ResponseRcode : Option Nat := none
  ResponseAnswer : List String := []
  ResponseNs : List String := []
  ResponseExtra : List String := []
  DNSRuleAction : DNSRuleAction := {}
  deriving DecidableEq, Repr

/-- `DefaultDNSRule.Action`, the field of the embedded action. -/
def DefaultDNSRule.Action (rule : DefaultDNSRule) : String := rule.DNSRuleAction.Action

/-- `option.DNSRule` as the option parser leaves it: of type `default`, or `logical` with its
sub-rules and its action. -/
inductive DNSRule where
  | default (DefaultOptions : DefaultDNSRule)
  | logical (Rules : List DNSRule) (DNSRuleAction : DNSRuleAction)
  deriving Repr

end Options

open Options

/-- How a check ends other than with `nil`. -/
inductive ModeError where
  /-- `E.New(message)`. -/
  | new (message : String)
  /-- `E.Cause(err, context)`. -/
  | cause (err : ModeError) (context : String)
  /-- A method call on a nil `router`: a Go panic. -/
  | nilRouter
  deriving DecidableEq, Repr

/-- `E.Cause(err, context)` as the loops apply it: a panic passes through unwrapped. -/
def ModeError.Cause (err : ModeError) (context : String) : ModeError :=
  match err with
  | nilRouter => nilRouter
  | err => cause err context

/-- The text of an error. -/
def ModeError.Error : ModeError → String
  | new message => message
  | cause err context => context ++ ": " ++ err.Error
  | nilRouter => "runtime error: invalid memory address or nil pointer dereference"

/-! ### What one rule asks of the mode -/

def defaultRuleNeedsLegacyDNSModeFromAddressFilter (rule : DefaultDNSRule) : Bool :=
  if rule.RuleSetIPCIDRAcceptEmpty then true
  else !rule.MatchResponse && (rule.IPAcceptAny || rule.IPCIDR.length > 0 || rule.IPIsPrivate)

def hasResponseMatchFields (rule : DefaultDNSRule) : Bool :=
  rule.ResponseRcode.isSome || rule.ResponseAnswer.length > 0 || rule.ResponseNs.length > 0 ||
    rule.ResponseExtra.length > 0

def defaultRuleDisablesLegacyDNSMode (rule : DefaultDNSRule) : Bool :=
  rule.MatchResponse || hasResponseMatchFields rule || rule.Action == RuleActionTypeEvaluate ||
    rule.Action == RuleActionTypeRespond || decide (rule.IPVersion > 0) || rule.QueryType.length > 0

def dnsRuleActionDisablesLegacyDNSMode (action : DNSRuleAction) : Bool :=
  match action.Action with
  | "" | "route" | "evaluate" => action.RouteOptions.DisableOptimisticCache
  | "route-options" => action.RouteOptionsOptions.DisableOptimisticCache
  | _ => false

def dnsRuleActionHasStrategy (action : DNSRuleAction) : Bool :=
  match action.Action with
  | "" | "route" | "evaluate" => action.RouteOptions.Strategy != .asIS
  | "route-options" => action.RouteOptionsOptions.Strategy != .asIS
  | _ => false

def dnsRuleActionType : DNSRule → String
  | .default options => if options.Action = "" then RuleActionTypeRoute else options.Action
  | .logical _ action => if action.Action = "" then RuleActionTypeRoute else action.Action

structure dnsRuleModeFlags where
  disabled : Bool := false
  needed : Bool := false
  neededFromStrategy : Bool := false
  deriving DecidableEq, Repr

def dnsRuleModeFlags.merge (f other : dnsRuleModeFlags) : dnsRuleModeFlags where
  disabled := f.disabled || other.disabled
  needed := f.needed || other.needed
  neededFromStrategy := f.neededFromStrategy || other.neededFromStrategy

def lookupDNSRuleSetMetadata (router : Option MetadataRouter) (tag : String)
    (metadataOverrides : String → Option RuleSetMetadata) : Except ModeError RuleSetMetadata :=
  match metadataOverrides tag with
  | some metadata => .ok metadata
  | none =>
    match router with
    | none => .error .nilRouter
    | some router =>
      match router.RuleSet tag with
      | some metadata => .ok metadata
      | none => .error (.new ("rule-set not found: " ++ tag))

/-- One pass of the loop of `dnsRuleModeRequirementsInDefaultRule` over the rule's rule sets. -/
def ruleSetModeFlags (rule : DefaultDNSRule) (flags : dnsRuleModeFlags) (metadata : RuleSetMetadata) :
    dnsRuleModeFlags :=
  { flags with
    disabled := flags.disabled || metadata.ContainsDNSQueryTypeRule
    needed := if !rule.RuleSetIPCIDRMatchSource && metadata.ContainsIPCIDRRule then true
      else flags.needed }

/-- The flags a default rule sets before its rule sets are read. -/
def defaultRuleModeFlags (rule : DefaultDNSRule) : dnsRuleModeFlags where
  disabled := defaultRuleDisablesLegacyDNSMode rule || dnsRuleActionDisablesLegacyDNSMode rule.DNSRuleAction
  needed := defaultRuleNeedsLegacyDNSModeFromAddressFilter rule || dnsRuleActionHasStrategy rule.DNSRuleAction
  neededFromStrategy := dnsRuleActionHasStrategy rule.DNSRuleAction

def dnsRuleModeRequirementsInDefaultRule (router : Option MetadataRouter) (rule : DefaultDNSRule)
    (metadataOverrides : String → Option RuleSetMetadata) : Except ModeError dnsRuleModeFlags :=
  if rule.RuleSet.length = 0 then .ok (defaultRuleModeFlags rule)
  else
    match router with
    | none => .error (.new "router service not found")
    | some _ =>
      foldIndexed (lookupDNSRuleSetMetadata router · metadataOverrides) (fun _ err => err)
        (ruleSetModeFlags rule) rule.RuleSet 0 (defaultRuleModeFlags rule)

/-- The flags a logical rule sets before its sub-rules are read. -/
def logicalRuleModeFlags (Rules : List DNSRule) (action : DNSRuleAction) : dnsRuleModeFlags where
  disabled := dnsRuleActionType (.logical Rules action) == RuleActionTypeEvaluate ||
    dnsRuleActionType (.logical Rules action) == RuleActionTypeRespond ||
    dnsRuleActionDisablesLegacyDNSMode action
  needed := dnsRuleActionHasStrategy action
  neededFromStrategy := dnsRuleActionHasStrategy action

mutual

def dnsRuleModeRequirementsInRule (router : Option MetadataRouter)
    (metadataOverrides : String → Option RuleSetMetadata) : DNSRule → Except ModeError dnsRuleModeFlags
  | .default options => dnsRuleModeRequirementsInDefaultRule router options metadataOverrides
  | .logical Rules action =>
    subRuleModeRequirements router metadataOverrides Rules 0 (logicalRuleModeFlags Rules action)

/-- The loop of `dnsRuleModeRequirementsInRule` over the sub-rules, from the `i`-th on. -/
def subRuleModeRequirements (router : Option MetadataRouter)
    (metadataOverrides : String → Option RuleSetMetadata) :
    List DNSRule → Nat → dnsRuleModeFlags → Except ModeError dnsRuleModeFlags
  | [], _, flags => .ok flags
  | subRule :: subRules, i, flags =>
    match dnsRuleModeRequirementsInRule router metadataOverrides subRule with
    | .error err => .error (err.Cause ("sub rule[" ++ toString i ++ "]"))
    | .ok subFlags => subRuleModeRequirements router metadataOverrides subRules (i + 1) (flags.merge subFlags)

end

def dnsRuleModeRequirements (router : Option MetadataRouter) (rules : List DNSRule)
    (metadataOverrides : String → Option RuleSetMetadata) : Except ModeError dnsRuleModeFlags :=
  foldIndexed (dnsRuleModeRequirementsInRule router metadataOverrides)
    (fun i err => err.Cause ("dns rule[" ++ toString i ++ "]")) dnsRuleModeFlags.merge rules 0 {}

def resolveLegacyDNSMode (router : Option MetadataRouter) (rules : List DNSRule)
    (metadataOverrides : String → Option RuleSetMetadata) : Except ModeError (Bool × dnsRuleModeFlags) :=
  match dnsRuleModeRequirements router rules metadataOverrides with
  | .error err => .error err
  | .ok flags =>
    if flags.disabled && flags.neededFromStrategy then
      .error (.new Deprecated.OptionLegacyDNSRuleStrategy.MessageWithLink)
    else if flags.disabled then .ok (false, flags)
    else .ok (flags.needed, flags)

/-! ### What the other mode rejects -/

/-- One pass of the loop of `validateLegacyDNSModeDisabledDefaultRule` over the rule sets: a rule
set of IP CIDR rules only matches nothing before a response. -/
def pureIPRuleSetCheck (router : Option MetadataRouter)
    (metadataOverrides : String → Option RuleSetMetadata) (tag : String) : Except ModeError Unit :=
  match lookupDNSRuleSetMetadata router tag metadataOverrides with
  | .error err => .error err
  | .ok metadata =>
    if metadata.ContainsIPCIDRRule && !metadata.ContainsNonIPCIDRRule then
      .error (.new Deprecated.OptionLegacyDNSAddressFilter.MessageWithLink)
    else .ok ()

/-- The rule-set check of `validateLegacyDNSModeDisabledDefaultRule`: made when the rule names
rule sets and does not match responses. -/
def pureIPRuleSetsCheck (router : Option MetadataRouter) (rule : DefaultDNSRule)
    (metadataOverrides : String → Option RuleSetMetadata) : Except ModeError Unit :=
  if !rule.MatchResponse && rule.RuleSet.length > 0 then
    foldIndexed (pureIPRuleSetCheck router metadataOverrides) (fun _ err => err) (fun _ _ => ())
      rule.RuleSet 0 ()
  else .ok ()

def validateLegacyDNSModeDisabledDefaultRule (router : Option MetadataRouter) (rule : DefaultDNSRule)
    (metadataOverrides : String → Option RuleSetMetadata) : Except ModeError Bool :=
  if (hasResponseMatchFields rule || rule.IPCIDR.length > 0 || rule.IPIsPrivate || rule.IPAcceptAny) &&
      !rule.MatchResponse then
    .error (.new ("Response Match Fields (ip_cidr, ip_is_private, ip_accept_any, response_rcode, " ++
      "response_answer, response_ns, response_extra) require match_response to be enabled"))
  else
    match pureIPRuleSetsCheck router rule metadataOverrides with
    | .error err => .error err
    | .ok () =>
      if rule.RuleSetIPCIDRAcceptEmpty then
        .error (.new Deprecated.OptionRuleSetIPCIDRAcceptEmpty.MessageWithLink)
      else .ok (rule.MatchResponse || rule.Action == RuleActionTypeRespond)

mutual

def validateLegacyDNSModeDisabledRuleTree (router : Option MetadataRouter)
    (metadataOverrides : String → Option RuleSetMetadata) : DNSRule → Except ModeError Bool
  | .default options => validateLegacyDNSModeDisabledDefaultRule router options metadataOverrides
  | .logical Rules action =>
    validateSubRules router metadataOverrides Rules 0
      (dnsRuleActionType (.logical Rules action) == RuleActionTypeRespond)

/-- The loop of `validateLegacyDNSModeDisabledRuleTree` over the sub-rules, from the `i`-th on. -/
def validateSubRules (router : Option MetadataRouter)
    (metadataOverrides : String → Option RuleSetMetadata) :
    List DNSRule → Nat → Bool → Except ModeError Bool
  | [], _, requiresPriorEvaluate => .ok requiresPriorEvaluate
  | subRule :: subRules, i, requiresPriorEvaluate =>
    match validateLegacyDNSModeDisabledRuleTree router metadataOverrides subRule with
    | .error err => .error (err.Cause ("sub rule[" ++ toString i ++ "]"))
    | .ok subRequiresPriorEvaluate =>
      validateSubRules router metadataOverrides subRules (i + 1)
        (requiresPriorEvaluate || subRequiresPriorEvaluate)

end

/-- The loop of `validateLegacyDNSModeDisabledRules` from the `i`-th rule on. -/
def validateLegacyDNSModeDisabledRulesFrom (router : Option MetadataRouter)
    (metadataOverrides : String → Option RuleSetMetadata) :
    List DNSRule → Nat → Bool → Except ModeError Unit
  | [], _, _ => .ok ()
  | rule :: rules, i, seenEvaluate =>
    match validateLegacyDNSModeDisabledRuleTree router metadataOverrides rule with
    | .error err => .error (err.Cause ("validate dns rule[" ++ toString i ++ "]"))
    | .ok requiresPriorEvaluate =>
      if requiresPriorEvaluate && !seenEvaluate then
        .error (.new ("dns rule[" ++ toString i ++
          "]: response-based matching requires a preceding evaluate action"))
      else
        validateLegacyDNSModeDisabledRulesFrom router metadataOverrides rules (i + 1)
          (seenEvaluate || dnsRuleActionType rule == RuleActionTypeEvaluate)

def validateLegacyDNSModeDisabledRules (router : Option MetadataRouter) (rules : List DNSRule)
    (metadataOverrides : String → Option RuleSetMetadata) : Except ModeError Unit :=
  validateLegacyDNSModeDisabledRulesFrom router metadataOverrides rules 0 false

/-! ### Actions in nested rules -/

def dnsRuleHasConfiguredAction : DNSRule → Bool
  | .default options => options.DNSRuleAction != {}
  | .logical _ action => action != {}

mutual

def validateNoNestedDNSRuleActions (rule : DNSRule) (nested : Bool) : Except ModeError Unit :=
  if nested && dnsRuleHasConfiguredAction rule then .error (.new DNSRuleActionNestedUnsupportedMessage)
  else
    match rule with
    | .default _ => .ok ()
    | .logical Rules _ => validateNoNestedSubRules Rules 0

/-- The loop of `validateNoNestedDNSRuleActions` over the sub-rules, from the `i`-th on. -/
def validateNoNestedSubRules : List DNSRule → Nat → Except ModeError Unit
  | [], _ => .ok ()
  | subRule :: subRules, i =>
    match validateNoNestedDNSRuleActions subRule true with
    | .error err => .error (err.Cause ("sub rule[" ++ toString i ++ "]"))
    | .ok () => validateNoNestedSubRules subRules (i + 1)

end

def ValidateNoNestedDNSRuleActions (rule : DNSRule) : Except ModeError Unit :=
  validateNoNestedDNSRuleActions rule false

/-! ### The checks of `buildRules` and of a rule-set reload -/

/-- What `buildRules` settles before it builds the rules: the nested-action check of each rule,
the mode, and in the mode that is not legacy, its validation. -/
def buildRulesMode (router : Option MetadataRouter) (rawRules : List DNSRule) :
    Except ModeError (Bool × dnsRuleModeFlags) :=
  match foldIndexed ValidateNoNestedDNSRuleActions
      (fun i err => err.Cause ("parse dns rule[" ++ toString i ++ "]")) (fun _ _ => ()) rawRules 0 () with
  | .error err => .error err
  | .ok () =>
    match resolveLegacyDNSMode router rawRules (fun _ => none) with
    | .error err => .error err
    | .ok (legacyDNSMode, modeFlags) =>
      if !legacyDNSMode then
        match validateLegacyDNSModeDisabledRules router rawRules (fun _ => none) with
        | .error err => .error err
        | .ok () => .ok (legacyDNSMode, modeFlags)
      else .ok (legacyDNSMode, modeFlags)

/-- The fields of the DNS router that `ValidateRuleSetMetadataUpdate` and `Start` read.
`buildNewRules` is the rest of `buildRules(true)` after the mode checks, in the mode they
settle: `validateEvaluateFakeIPRules`, then `NewDNSRule` and `Start` of each rule, which read
the transports and the rule items this model leaves out. -/
structure RuleModeRouter where
  rawRules : List DNSRule
  started : Bool
  legacyDNSMode : Bool
  closing : Bool
  buildNewRules : Bool → Except ModeError Unit

/-- The overrides of `ValidateRuleSetMetadataUpdate`: the new metadata under its tag. -/
def metadataOverride (tag : String) (metadata : RuleSetMetadata) : String → Option RuleSetMetadata :=
  fun t => if t = tag then some metadata else none

def RuleModeRouter.ValidateRuleSetMetadataUpdate (r : RuleModeRouter) (router : Option MetadataRouter)
    (tag : String) (metadata : RuleSetMetadata) : Except ModeError Unit :=
  if r.rawRules.length = 0 then .ok ()
  else
    match router with
    | none => .error (.new "router service not found")
    | some _ =>
      let overrides := metadataOverride tag metadata
      if r.closing then .ok ()
      else if !r.started then
        match resolveLegacyDNSMode router r.rawRules overrides with
        | .error err => .error err
        | .ok (candidateLegacyDNSMode, _) =>
          if !candidateLegacyDNSMode then validateLegacyDNSModeDisabledRules router r.rawRules overrides
          else .ok ()
      else
        match resolveLegacyDNSMode router r.rawRules overrides with
        | .error err => .error err
        | .ok (candidateLegacyDNSMode, flags) =>
          if r.legacyDNSMode then
            if !candidateLegacyDNSMode && flags.disabled then
              match validateLegacyDNSModeDisabledRules router r.rawRules overrides with
              | .error err => .error err
              | .ok () => .error (.new Deprecated.OptionLegacyDNSAddressFilter.MessageWithLink)
            else .ok ()
          else if candidateLegacyDNSMode then
            .error (.new Deprecated.OptionLegacyDNSAddressFilter.MessageWithLink)
          else validateLegacyDNSModeDisabledRules router r.rawRules overrides

/-! ### Rules as trees -/

namespace Options.DNSRule

/-- Induction on a rule, with the hypothesis for each sub-rule of a logical rule. -/
@[elab_as_elim]
theorem induction {motive : DNSRule → Prop} (default : ∀ options, motive (.default options))
    (logical : ∀ Rules action, (∀ r ∈ Rules, motive r) → motive (.logical Rules action))
    (r : DNSRule) : motive r :=
  @DNSRule.rec motive (fun Rules => ∀ r ∈ Rules, motive r) default logical
    (fun _ h => absurd h List.not_mem_nil)
    (fun _ _ hr hRules r' hr' => (List.mem_cons.mp hr').elim (fun h => h ▸ hr) (hRules r')) r

mutual

/-- A rule and every rule under it. -/
def nodes : DNSRule → List DNSRule
  | .default options => [.default options]
  | .logical Rules action => .logical Rules action :: nodesOf Rules

/-- The rules of a list and every rule under them. -/
def nodesOf : List DNSRule → List DNSRule
  | [] => []
  | r :: Rules => r.nodes ++ nodesOf Rules

end

theorem mem_nodesOf {n : DNSRule} : ∀ {Rules : List DNSRule}, n ∈ nodesOf Rules ↔ ∃ r ∈ Rules, n ∈ r.nodes
  | [] => by simp [nodesOf]
  | r :: Rules => by simp [nodesOf, mem_nodesOf]

@[simp] theorem nodes_default (options : DefaultDNSRule) : (DNSRule.default options).nodes = [.default options] := by
  rw [nodes]

theorem mem_nodes_logical {n : DNSRule} {Rules : List DNSRule} {action : DNSRuleAction} :
    n ∈ (DNSRule.logical Rules action).nodes ↔ n = .logical Rules action ∨ ∃ r ∈ Rules, n ∈ r.nodes := by
  rw [nodes, List.mem_cons, mem_nodesOf]

end Options.DNSRule

/-! ### The loops over sub-rules -/

section Loops

variable (router : Option MetadataRouter) (metadataOverrides : String → Option RuleSetMetadata)

theorem subRuleModeRequirements_eq : ∀ (Rules : List DNSRule) (i : Nat) (flags : dnsRuleModeFlags),
    subRuleModeRequirements router metadataOverrides Rules i flags =
      foldIndexed (dnsRuleModeRequirementsInRule router metadataOverrides)
        (fun i err => err.Cause ("sub rule[" ++ toString i ++ "]")) dnsRuleModeFlags.merge Rules i flags
  | [], _, _ => rfl
  | r :: Rules, i, flags => by
    rw [subRuleModeRequirements, foldIndexed]
    cases dnsRuleModeRequirementsInRule router metadataOverrides r with
    | error err => rfl
    | ok subFlags => exact subRuleModeRequirements_eq Rules (i + 1) _

theorem dnsRuleModeRequirementsInRule_logical (Rules : List DNSRule) (action : DNSRuleAction) :
    dnsRuleModeRequirementsInRule router metadataOverrides (.logical Rules action) =
      foldIndexed (dnsRuleModeRequirementsInRule router metadataOverrides)
        (fun i err => err.Cause ("sub rule[" ++ toString i ++ "]")) dnsRuleModeFlags.merge Rules 0
        (logicalRuleModeFlags Rules action) := by
  rw [dnsRuleModeRequirementsInRule, subRuleModeRequirements_eq]

theorem validateSubRules_eq : ∀ (Rules : List DNSRule) (i : Nat) (requiresPriorEvaluate : Bool),
    validateSubRules router metadataOverrides Rules i requiresPriorEvaluate =
      foldIndexed (validateLegacyDNSModeDisabledRuleTree router metadataOverrides)
        (fun i err => err.Cause ("sub rule[" ++ toString i ++ "]")) (· || ·) Rules i requiresPriorEvaluate
  | [], _, _ => rfl
  | r :: Rules, i, requiresPriorEvaluate => by
    rw [validateSubRules, foldIndexed]
    cases validateLegacyDNSModeDisabledRuleTree router metadataOverrides r with
    | error err => rfl
    | ok sub => exact validateSubRules_eq Rules (i + 1) _

theorem validateLegacyDNSModeDisabledRuleTree_logical (Rules : List DNSRule) (action : DNSRuleAction) :
    validateLegacyDNSModeDisabledRuleTree router metadataOverrides (.logical Rules action) =
      foldIndexed (validateLegacyDNSModeDisabledRuleTree router metadataOverrides)
        (fun i err => err.Cause ("sub rule[" ++ toString i ++ "]")) (· || ·) Rules 0
        (dnsRuleActionType (.logical Rules action) == RuleActionTypeRespond) := by
  rw [validateLegacyDNSModeDisabledRuleTree, validateSubRules_eq]

end Loops

theorem validateNoNestedSubRules_eq : ∀ (Rules : List DNSRule) (i : Nat),
    validateNoNestedSubRules Rules i =
      foldIndexed (validateNoNestedDNSRuleActions · true)
        (fun i err => err.Cause ("sub rule[" ++ toString i ++ "]")) (fun _ _ => ()) Rules i ()
  | [], _ => rfl
  | r :: Rules, i => by
    rw [validateNoNestedSubRules, foldIndexed]
    cases validateNoNestedDNSRuleActions r true with
    | error err => rfl
    | ok u => exact validateNoNestedSubRules_eq Rules (i + 1)

/-! ### The mode does not depend on the order of the rules -/

namespace dnsRuleModeFlags

@[simp] theorem merge_disabled (f g : dnsRuleModeFlags) : (f.merge g).disabled = (f.disabled || g.disabled) :=
  rfl

@[simp] theorem merge_needed (f g : dnsRuleModeFlags) : (f.merge g).needed = (f.needed || g.needed) := rfl

@[simp] theorem merge_neededFromStrategy (f g : dnsRuleModeFlags) :
    (f.merge g).neededFromStrategy = (f.neededFromStrategy || g.neededFromStrategy) := rfl

theorem merge_right_comm (f g h : dnsRuleModeFlags) : (f.merge g).merge h = (f.merge h).merge g := by
  simp only [merge, Bool.or_assoc, Bool.or_comm g.disabled, Bool.or_comm g.needed,
    Bool.or_comm g.neededFromStrategy]

end dnsRuleModeFlags

theorem dnsRuleModeRequirements_perm (router : Option MetadataRouter)
    (metadataOverrides : String → Option RuleSetMetadata) {rules rules' : List DNSRule}
    (hperm : rules.Perm rules') :
    (dnsRuleModeRequirements router rules metadataOverrides).toOption =
      (dnsRuleModeRequirements router rules' metadataOverrides).toOption :=
  foldIndexed.perm dnsRuleModeFlags.merge_right_comm hperm 0 0 {}

/-- The mode, the flags, and whether the mode resolves at all, do not depend on the order of
the rules; only which error is reported does. -/
theorem resolveLegacyDNSMode_perm (router : Option MetadataRouter)
    (metadataOverrides : String → Option RuleSetMetadata) {rules rules' : List DNSRule}
    (hperm : rules.Perm rules') :
    (resolveLegacyDNSMode router rules metadataOverrides).toOption =
      (resolveLegacyDNSMode router rules' metadataOverrides).toOption := by
  have h := dnsRuleModeRequirements_perm router metadataOverrides hperm
  unfold resolveLegacyDNSMode
  cases h₁ : dnsRuleModeRequirements router rules metadataOverrides with
  | error err =>
    cases h₂ : dnsRuleModeRequirements router rules' metadataOverrides with
    | error err' => rfl
    | ok flags' => simp [h₁, h₂, Except.toOption] at h
  | ok flags =>
    cases h₂ : dnsRuleModeRequirements router rules' metadataOverrides with
    | error err' => simp [h₁, h₂, Except.toOption] at h
    | ok flags' =>
      simp only [h₁, h₂, Except.toOption, Option.some.injEq] at h
      rw [h]

/-! ### What the checks read of the router -/

/-- Two routers, each with its overrides, that find the same metadata for every tag, and are
both present or both missing. -/
structure LookupAgree (router router' : Option MetadataRouter)
    (metadataOverrides metadataOverrides' : String → Option RuleSetMetadata) : Prop where
  isSome : router.isSome = router'.isSome
  lookup : ∀ tag, lookupDNSRuleSetMetadata router tag metadataOverrides =
    lookupDNSRuleSetMetadata router' tag metadataOverrides'

namespace LookupAgree

variable {router router' : Option MetadataRouter} {o o' : String → Option RuleSetMetadata}
  (h : LookupAgree router router' o o')
include h

theorem requirementsInDefaultRule_eq (rule : DefaultDNSRule) :
    dnsRuleModeRequirementsInDefaultRule router rule o =
      dnsRuleModeRequirementsInDefaultRule router' rule o' := by
  unfold dnsRuleModeRequirementsInDefaultRule
  split_ifs
  · rfl
  · cases router with
    | none => cases router' with
      | none => rfl
      | some _ => cases h.isSome
    | some _ => cases router' with
      | none => cases h.isSome
      | some _ => exact foldIndexed.congr (fun tag _ => h.lookup tag) 0 _

theorem requirementsInRule_eq (r : DNSRule) :
    dnsRuleModeRequirementsInRule router o r = dnsRuleModeRequirementsInRule router' o' r := by
  induction r using DNSRule.induction with
  | default options => exact h.requirementsInDefaultRule_eq options
  | logical Rules action ih =>
    rw [dnsRuleModeRequirementsInRule_logical, dnsRuleModeRequirementsInRule_logical]
    exact foldIndexed.congr ih 0 _

theorem resolve_eq (rules : List DNSRule) :
    resolveLegacyDNSMode router rules o = resolveLegacyDNSMode router' rules o' := by
  have hreq : dnsRuleModeRequirements router rules o = dnsRuleModeRequirements router' rules o' := by
    unfold dnsRuleModeRequirements
    exact foldIndexed.congr (fun r _ => h.requirementsInRule_eq r) 0 _
  rw [resolveLegacyDNSMode, resolveLegacyDNSMode, hreq]

theorem validateDefault_eq (rule : DefaultDNSRule) :
    validateLegacyDNSModeDisabledDefaultRule router rule o =
      validateLegacyDNSModeDisabledDefaultRule router' rule o' := by
  have hcheck : ∀ tag ∈ rule.RuleSet, pureIPRuleSetCheck router o tag = pureIPRuleSetCheck router' o' tag :=
    fun tag _ => by rw [pureIPRuleSetCheck, pureIPRuleSetCheck, h.lookup tag]
  simp only [validateLegacyDNSModeDisabledDefaultRule, pureIPRuleSetsCheck, foldIndexed.congr hcheck]

theorem validateTree_eq (r : DNSRule) :
    validateLegacyDNSModeDisabledRuleTree router o r = validateLegacyDNSModeDisabledRuleTree router' o' r := by
  induction r using DNSRule.induction with
  | default options =>
    rw [validateLegacyDNSModeDisabledRuleTree, validateLegacyDNSModeDisabledRuleTree]
    exact h.validateDefault_eq options
  | logical Rules action ih =>
    rw [validateLegacyDNSModeDisabledRuleTree_logical, validateLegacyDNSModeDisabledRuleTree_logical]
    exact foldIndexed.congr ih 0 _

theorem validate_eq (rules : List DNSRule) :
    validateLegacyDNSModeDisabledRules router rules o = validateLegacyDNSModeDisabledRules router' rules o' := by
  suffices ∀ i seenEvaluate, validateLegacyDNSModeDisabledRulesFrom router o rules i seenEvaluate =
      validateLegacyDNSModeDisabledRulesFrom router' o' rules i seenEvaluate from this 0 false
  induction rules with
  | nil => intro _ _; rfl
  | cons rule rules ih =>
    intro i seenEvaluate
    simp only [validateLegacyDNSModeDisabledRulesFrom, h.validateTree_eq rule, ih]

end LookupAgree

/-! ### No check calls a missing router -/

theorem ModeError.Cause_ne_nilRouter {err : ModeError} (h : err ≠ .nilRouter) (context : String) :
    err.Cause context ≠ .nilRouter := by
  cases err <;> simp_all [ModeError.Cause]

theorem lookupDNSRuleSetMetadata_ne_nilRouter (router : MetadataRouter) (tag : String)
    (metadataOverrides : String → Option RuleSetMetadata) :
    lookupDNSRuleSetMetadata (some router) tag metadataOverrides ≠ .error .nilRouter := by
  cases hoverride : metadataOverrides tag <;> cases hfound : router.RuleSet tag <;>
    simp [lookupDNSRuleSetMetadata, hoverride, hfound]

theorem dnsRuleModeRequirementsInDefaultRule_ne_nilRouter (router : Option MetadataRouter)
    (rule : DefaultDNSRule) (metadataOverrides : String → Option RuleSetMetadata) :
    dnsRuleModeRequirementsInDefaultRule router rule metadataOverrides ≠ .error .nilRouter := by
  intro h
  unfold dnsRuleModeRequirementsInDefaultRule at h
  split_ifs at h
  cases router with
  | none => cases h
  | some router =>
    exact foldIndexed.error_of_forall (· ≠ .nilRouter)
      (fun tag _ err herr => by
        rintro rfl
        exact lookupDNSRuleSetMetadata_ne_nilRouter router tag metadataOverrides herr)
      (fun _ _ herr => herr) h rfl

theorem dnsRuleModeRequirementsInRule_ne_nilRouter (router : Option MetadataRouter)
    (metadataOverrides : String → Option RuleSetMetadata) (r : DNSRule) :
    dnsRuleModeRequirementsInRule router metadataOverrides r ≠ .error .nilRouter := by
  induction r using DNSRule.induction with
  | default options => exact dnsRuleModeRequirementsInDefaultRule_ne_nilRouter router options metadataOverrides
  | logical Rules action ih =>
    rw [dnsRuleModeRequirementsInRule_logical]
    intro h
    exact foldIndexed.error_of_forall (· ≠ .nilRouter) (fun r hr err herr => by
      rintro rfl
      exact ih r hr herr)
      (fun i err herr => ModeError.Cause_ne_nilRouter herr _) h rfl

theorem resolveLegacyDNSMode_ne_nilRouter (router : Option MetadataRouter) (rules : List DNSRule)
    (metadataOverrides : String → Option RuleSetMetadata) :
    resolveLegacyDNSMode router rules metadataOverrides ≠ .error .nilRouter := by
  unfold resolveLegacyDNSMode dnsRuleModeRequirements
  split
  · rename_i err herr
    intro h
    cases h
    exact foldIndexed.error_of_forall (· ≠ .nilRouter)
      (fun r _ err' herr' => by
        rintro rfl
        exact dnsRuleModeRequirementsInRule_ne_nilRouter router metadataOverrides r herr')
      (fun i err herr => ModeError.Cause_ne_nilRouter herr _) herr rfl
  · split_ifs <;> nofun

theorem resolveLegacyDNSMode_eq_ok_iff {router : Option MetadataRouter} {rules : List DNSRule}
    {metadataOverrides : String → Option RuleSetMetadata} {legacyDNSMode : Bool} {flags : dnsRuleModeFlags} :
    resolveLegacyDNSMode router rules metadataOverrides = .ok (legacyDNSMode, flags) ↔
      dnsRuleModeRequirements router rules metadataOverrides = .ok flags ∧
        (flags.disabled && flags.neededFromStrategy) = false ∧
        legacyDNSMode = (!flags.disabled && flags.needed) := by
  unfold resolveLegacyDNSMode
  cases hreq : dnsRuleModeRequirements router rules metadataOverrides with
  | error err => simp
  | ok flags' =>
    simp only [Except.ok.injEq]
    constructor
    · intro h
      split_ifs at h with hstrategy hdisabled <;> cases h
      · exact ⟨rfl, by simpa using hstrategy, by simp [hdisabled]⟩
      · exact ⟨rfl, by simpa using hstrategy, by simp [hdisabled]⟩
    · rintro ⟨rfl, hstrategy, rfl⟩
      cases hdisabled : flags'.disabled
      · simp
      · simp_all

theorem pureIPRuleSetCheck_ne_nilRouter (router : MetadataRouter)
    (metadataOverrides : String → Option RuleSetMetadata) (tag : String) :
    pureIPRuleSetCheck (some router) metadataOverrides tag ≠ .error .nilRouter := by
  unfold pureIPRuleSetCheck
  cases hlookup : lookupDNSRuleSetMetadata (some router) tag metadataOverrides with
  | error err =>
    rintro ⟨⟩
    exact lookupDNSRuleSetMetadata_ne_nilRouter router tag metadataOverrides hlookup
  | ok metadata => simp only; split_ifs <;> nofun

theorem isSome_or_nil_of_requirementsInDefaultRule {router : Option MetadataRouter} {rule : DefaultDNSRule}
    {metadataOverrides : String → Option RuleSetMetadata} {flags : dnsRuleModeFlags}
    (h : dnsRuleModeRequirementsInDefaultRule router rule metadataOverrides = .ok flags) :
    router.isSome = true ∨ rule.RuleSet = [] := by
  unfold dnsRuleModeRequirementsInDefaultRule at h
  split_ifs at h with hempty
  · exact .inr (List.eq_nil_of_length_eq_zero hempty)
  · cases router with
    | none => cases h
    | some _ => exact .inl rfl

theorem validateLegacyDNSModeDisabledDefaultRule_ne_nilRouter {router : Option MetadataRouter}
    {rule : DefaultDNSRule} (hrouter : router.isSome = true ∨ rule.RuleSet = [])
    (metadataOverrides : String → Option RuleSetMetadata) :
    validateLegacyDNSModeDisabledDefaultRule router rule metadataOverrides ≠ .error .nilRouter := by
  have hsets : pureIPRuleSetsCheck router rule metadataOverrides ≠ .error .nilRouter := by
    unfold pureIPRuleSetsCheck
    split_ifs with hsets
    · have hsome : router.isSome = true := hrouter.resolve_right fun hnil => by simp [hnil] at hsets
      obtain ⟨router, rfl⟩ := Option.isSome_iff_exists.mp hsome
      intro hloop
      exact foldIndexed.error_of_forall (· ≠ .nilRouter)
        (fun tag _ err herr => by
          rintro rfl
          exact pureIPRuleSetCheck_ne_nilRouter router metadataOverrides tag herr)
        (fun _ _ herr => herr) hloop rfl
    · nofun
  unfold validateLegacyDNSModeDisabledDefaultRule
  split_ifs
  · nofun
  all_goals
    cases hcheck : pureIPRuleSetsCheck router rule metadataOverrides with
    | error err =>
      simp only
      rintro ⟨⟩
      exact hsets hcheck
    | ok u =>
      cases u
      simp only
      nofun

/-- Where the mode flags of a rule are read, its validation calls no missing router, whatever
overrides it is given. -/
theorem validateLegacyDNSModeDisabledRuleTree_ne_nilRouter {router : Option MetadataRouter}
    {metadataOverrides : String → Option RuleSetMetadata} (metadataOverrides' : String → Option RuleSetMetadata)
    (r : DNSRule) (h : ∃ flags, dnsRuleModeRequirementsInRule router metadataOverrides r = .ok flags) :
    validateLegacyDNSModeDisabledRuleTree router metadataOverrides' r ≠ .error .nilRouter := by
  induction r using DNSRule.induction with
  | default options =>
    obtain ⟨flags, hflags⟩ := h
    rw [validateLegacyDNSModeDisabledRuleTree]
    exact validateLegacyDNSModeDisabledDefaultRule_ne_nilRouter
      (isSome_or_nil_of_requirementsInDefaultRule hflags) metadataOverrides'
  | logical Rules action ih =>
    obtain ⟨flags, hflags⟩ := h
    rw [dnsRuleModeRequirementsInRule_logical] at hflags
    rw [validateLegacyDNSModeDisabledRuleTree_logical]
    intro hvalid
    exact foldIndexed.error_of_forall (· ≠ .nilRouter)
      (fun r hr err herr => by
        rintro rfl
        exact ih r hr (foldIndexed.ok_of_mem hflags hr) herr)
      (fun _ _ herr => ModeError.Cause_ne_nilRouter herr _) hvalid rfl

theorem validateNoNestedDNSRuleActions_default (options : DefaultDNSRule) (nested : Bool) :
    validateNoNestedDNSRuleActions (.default options) nested =
      if nested && dnsRuleHasConfiguredAction (.default options) then
        .error (.new DNSRuleActionNestedUnsupportedMessage)
      else .ok () := by
  rw [validateNoNestedDNSRuleActions]

theorem validateNoNestedDNSRuleActions_logical (Rules : List DNSRule) (action : DNSRuleAction)
    (nested : Bool) :
    validateNoNestedDNSRuleActions (.logical Rules action) nested =
      if nested && dnsRuleHasConfiguredAction (.logical Rules action) then
        .error (.new DNSRuleActionNestedUnsupportedMessage)
      else
        foldIndexed (validateNoNestedDNSRuleActions · true)
          (fun i err => err.Cause ("sub rule[" ++ toString i ++ "]")) (fun _ _ => ()) Rules 0 () := by
  rw [validateNoNestedDNSRuleActions, validateNoNestedSubRules_eq]

theorem validateNoNestedDNSRuleActions_ne_nilRouter (r : DNSRule) (nested : Bool) :
    validateNoNestedDNSRuleActions r nested ≠ .error .nilRouter := by
  induction r using DNSRule.induction generalizing nested with
  | default options =>
    rw [validateNoNestedDNSRuleActions_default]
    split_ifs <;> nofun
  | logical Rules action ih =>
    rw [validateNoNestedDNSRuleActions_logical]
    split_ifs
    · nofun
    · intro h
      exact foldIndexed.error_of_forall (· ≠ .nilRouter)
        (fun r hr err herr => by
          rintro rfl
          exact ih r hr true herr)
        (fun _ _ herr => ModeError.Cause_ne_nilRouter herr _) h rfl

/-- `buildRules` never calls a missing router: when there is no router service, every check
that would read a rule set fails with an error first. -/
theorem buildRulesMode_ne_nilRouter (router : Option MetadataRouter) (rawRules : List DNSRule) :
    buildRulesMode router rawRules ≠ .error .nilRouter := by
  unfold buildRulesMode
  cases hnested : foldIndexed ValidateNoNestedDNSRuleActions
      (fun i err => err.Cause ("parse dns rule[" ++ toString i ++ "]")) (fun _ _ => ()) rawRules 0 () with
  | error err =>
    intro h
    cases Except.error.inj h
    exact foldIndexed.error_of_forall (· ≠ .nilRouter)
      (fun r _ err herr => by
        rintro rfl
        exact validateNoNestedDNSRuleActions_ne_nilRouter r false herr)
      (fun _ _ herr => ModeError.Cause_ne_nilRouter herr _) hnested rfl
  | ok u =>
    simp only
    cases hresolve : resolveLegacyDNSMode router rawRules (fun _ => none) with
    | error err =>
      rintro ⟨⟩
      exact resolveLegacyDNSMode_ne_nilRouter router rawRules _ hresolve
    | ok mode =>
      obtain ⟨legacyDNSMode, flags⟩ := mode
      obtain ⟨hreq, -, -⟩ := resolveLegacyDNSMode_eq_ok_iff.mp hresolve
      have hrules : ∀ r ∈ rawRules, ∃ flags, dnsRuleModeRequirementsInRule router (fun _ => none) r = .ok flags :=
        fun r hr => foldIndexed.ok_of_mem hreq hr
      have hvalid : ∀ i seenEvaluate,
          validateLegacyDNSModeDisabledRulesFrom router (fun _ => none) rawRules i seenEvaluate ≠
            .error .nilRouter := by
        clear hresolve hreq hnested
        induction rawRules with
        | nil => intro _ _; nofun
        | cons r rules ih =>
          intro i seenEvaluate
          have hr := validateLegacyDNSModeDisabledRuleTree_ne_nilRouter (fun _ => none) r
            (hrules r List.mem_cons_self)
          unfold validateLegacyDNSModeDisabledRulesFrom
          cases htree : validateLegacyDNSModeDisabledRuleTree router (fun _ => none) r with
          | error err =>
            intro h
            exact ModeError.Cause_ne_nilRouter (fun h => hr (h ▸ htree)) _ (Except.error.inj h)
          | ok requiresPriorEvaluate =>
            simp only
            split_ifs
            · nofun
            · exact ih (fun r' hr' => hrules r' (List.mem_cons_of_mem _ hr')) _ _
      cases legacyDNSMode
      · simp only [Bool.not_false, if_true]
        cases hvalidate : validateLegacyDNSModeDisabledRules router rawRules (fun _ => none) with
        | error err =>
          rintro ⟨⟩
          exact hvalid 0 false hvalidate
        | ok u => nofun
      · nofun

/-! ### Legacy mode is never chosen for rules that match responses -/

/-- What in a rule itself, not under it or in its rule sets, turns legacy mode off. -/
def Options.DNSRule.disablesLegacyDNSMode : DNSRule → Bool
  | .default options => (defaultRuleModeFlags options).disabled
  | .logical Rules action => (logicalRuleModeFlags Rules action).disabled

theorem dnsRuleModeRequirementsInDefaultRule_disabled {router : Option MetadataRouter}
    {rule : DefaultDNSRule} {metadataOverrides : String → Option RuleSetMetadata} {flags : dnsRuleModeFlags}
    (h : dnsRuleModeRequirementsInDefaultRule router rule metadataOverrides = .ok flags)
    (hdisabled : (defaultRuleModeFlags rule).disabled = true) : flags.disabled = true := by
  unfold dnsRuleModeRequirementsInDefaultRule at h
  split_ifs at h
  · cases h
    exact hdisabled
  · cases router with
    | none => cases h
    | some _ =>
      exact foldIndexed.of_init (fun flags => flags.disabled = true)
        (fun flags metadata hflags => by simp [ruleSetModeFlags, hflags]) hdisabled h

theorem dnsRuleModeRequirementsInRule_disabled {router : Option MetadataRouter}
    {metadataOverrides : String → Option RuleSetMetadata} (r : DNSRule) {flags : dnsRuleModeFlags}
    (h : dnsRuleModeRequirementsInRule router metadataOverrides r = .ok flags) :
    ∀ node ∈ r.nodes, node.disablesLegacyDNSMode = true → flags.disabled = true := by
  induction r using DNSRule.induction generalizing flags with
  | default options =>
    intro node hnode hdisabled
    rw [DNSRule.nodes_default, List.mem_singleton] at hnode
    subst hnode
    exact dnsRuleModeRequirementsInDefaultRule_disabled h hdisabled
  | logical Rules action ih =>
    rw [dnsRuleModeRequirementsInRule_logical] at h
    have hkeep : ∀ (c : dnsRuleModeFlags) (b : dnsRuleModeFlags), c.disabled = true → (c.merge b).disabled = true :=
      fun c b hc => by simp [hc]
    intro node hnode hdisabled
    rcases DNSRule.mem_nodes_logical.mp hnode with rfl | ⟨r, hr, hnode⟩
    · exact foldIndexed.of_init (fun flags => flags.disabled = true) hkeep hdisabled h
    · exact foldIndexed.of_mem (fun flags => flags.disabled = true) hkeep hr
        (fun b hb c => by simp [ih r hr hb node hnode hdisabled]) h

theorem disablesLegacyDNSMode_eq_false {node : DNSRule} (h : node.disablesLegacyDNSMode = false) :
    dnsRuleActionType node ≠ RuleActionTypeEvaluate ∧ dnsRuleActionType node ≠ RuleActionTypeRespond ∧
      ∀ options, node = .default options →
        options.MatchResponse = false ∧ hasResponseMatchFields options = false := by
  cases node with
  | default options =>
    simp only [DNSRule.disablesLegacyDNSMode, defaultRuleModeFlags, defaultRuleDisablesLegacyDNSMode,
      Bool.or_eq_false_iff, beq_eq_false_iff_ne] at h
    obtain ⟨⟨⟨⟨⟨⟨hmatch, hfields⟩, hevaluate⟩, hrespond⟩, -⟩, -⟩, -⟩ := h
    refine ⟨?_, ?_, fun _ h => by cases h; exact ⟨hmatch, hfields⟩⟩ <;>
      simp only [dnsRuleActionType] <;> split_ifs <;> simp_all [RuleActionTypeRoute, RuleActionTypeEvaluate,
        RuleActionTypeRespond]
  | logical Rules action =>
    simp only [DNSRule.disablesLegacyDNSMode, logicalRuleModeFlags, Bool.or_eq_false_iff,
      beq_eq_false_iff_ne] at h
    exact ⟨h.1.1, h.1.2, fun _ h => by cases h⟩

/-- In legacy mode no rule, at any depth, has `match_response` or a response field, or an
`evaluate` or `respond` action: legacy mode and response matching never mix. -/
theorem resolveLegacyDNSMode_legacy {router : Option MetadataRouter} {rules : List DNSRule}
    {metadataOverrides : String → Option RuleSetMetadata} {flags : dnsRuleModeFlags}
    (h : resolveLegacyDNSMode router rules metadataOverrides = .ok (true, flags)) :
    ∀ rule ∈ rules, ∀ node ∈ rule.nodes,
      dnsRuleActionType node ≠ RuleActionTypeEvaluate ∧ dnsRuleActionType node ≠ RuleActionTypeRespond ∧
        ∀ options, node = .default options →
          options.MatchResponse = false ∧ hasResponseMatchFields options = false := by
  obtain ⟨hreq, -, hlegacy⟩ := resolveLegacyDNSMode_eq_ok_iff.mp h
  have hflags : flags.disabled = false := by
    cases hd : flags.disabled
    · rfl
    · simp [hd] at hlegacy
  intro rule hrule node hnode
  apply disablesLegacyDNSMode_eq_false
  cases hnd : node.disablesLegacyDNSMode
  · rfl
  · have : flags.disabled = true :=
      foldIndexed.of_mem (fun flags => flags.disabled = true) (fun c b hc => by simp [hc]) hrule
        (fun b hb c => by simp [dnsRuleModeRequirementsInRule_disabled rule hb node hnode hnd]) hreq
    rw [hflags] at this
    cases this

/-! ### What the other mode accepts -/

/-- Whether a rule itself matches a response: `match_response`, or a `respond` action. -/
def Options.DNSRule.matchesResponse : DNSRule → Bool
  | .default options => options.MatchResponse || options.Action == RuleActionTypeRespond
  | .logical Rules action => dnsRuleActionType (.logical Rules action) == RuleActionTypeRespond

theorem Options.DNSRule.any_nodesOf (p : DNSRule → Bool) :
    ∀ Rules : List DNSRule, (nodesOf Rules).any p = Rules.any fun r => r.nodes.any p
  | [] => by rw [nodesOf]; rfl
  | r :: Rules => by rw [nodesOf, List.any_append, any_nodesOf p Rules, List.any_cons]

theorem validateLegacyDNSModeDisabledDefaultRule_eq_ok {router : Option MetadataRouter}
    {rule : DefaultDNSRule} {metadataOverrides : String → Option RuleSetMetadata} {b : Bool}
    (h : validateLegacyDNSModeDisabledDefaultRule router rule metadataOverrides = .ok b) :
    b = (rule.MatchResponse || rule.Action == RuleActionTypeRespond) := by
  unfold validateLegacyDNSModeDisabledDefaultRule at h
  cases hcheck : pureIPRuleSetsCheck router rule metadataOverrides with
  | error err =>
    simp only [hcheck] at h
    split_ifs at h
  | ok u =>
    cases u
    simp only [hcheck] at h
    split_ifs at h
    cases h
    rfl

theorem validateLegacyDNSModeDisabledRuleTree_eq_ok {router : Option MetadataRouter}
    {metadataOverrides : String → Option RuleSetMetadata} (r : DNSRule) {b : Bool}
    (h : validateLegacyDNSModeDisabledRuleTree router metadataOverrides r = .ok b) :
    b = r.nodes.any DNSRule.matchesResponse := by
  induction r using DNSRule.induction generalizing b with
  | default options =>
    rw [validateLegacyDNSModeDisabledRuleTree] at h
    rw [validateLegacyDNSModeDisabledDefaultRule_eq_ok h, DNSRule.nodes_default, List.any_cons,
      List.any_nil, Bool.or_false]
    rfl
  | logical Rules action ih =>
    rw [validateLegacyDNSModeDisabledRuleTree_logical] at h
    rw [foldIndexed.eq_foldl (fun r hr b hb => ih r hr hb) h, List.foldl_or_eq_any, DNSRule.nodes,
      List.any_cons, DNSRule.any_nodesOf]
    rfl

theorem validateLegacyDNSModeDisabledRulesFrom_eq_ok_iff {router : Option MetadataRouter}
    {metadataOverrides : String → Option RuleSetMetadata} :
    ∀ (rules : List DNSRule) (i : Nat) (seenEvaluate : Bool),
      validateLegacyDNSModeDisabledRulesFrom router metadataOverrides rules i seenEvaluate = .ok () ↔
        ∀ before rule after, rules = before ++ rule :: after →
          ∃ b, validateLegacyDNSModeDisabledRuleTree router metadataOverrides rule = .ok b ∧
            (b = true → seenEvaluate = true ∨ ∃ r ∈ before, dnsRuleActionType r = RuleActionTypeEvaluate)
  | [], _, _ => by
    simp only [validateLegacyDNSModeDisabledRulesFrom, true_iff]
    intro before rule after h
    cases before <;> cases h
  | rule :: rules, i, seenEvaluate => by
    unfold validateLegacyDNSModeDisabledRulesFrom
    cases htree : validateLegacyDNSModeDisabledRuleTree router metadataOverrides rule with
    | error err =>
      simp only [reduceCtorEq, false_iff, not_forall]
      exact ⟨[], rule, rules, rfl, by simp [htree]⟩
    | ok requiresPriorEvaluate =>
      simp only
      split_ifs with hprior
      · simp only [false_iff, not_forall]
        refine ⟨[], rule, rules, rfl, ?_⟩
        simp_all
      · rw [validateLegacyDNSModeDisabledRulesFrom_eq_ok_iff rules (i + 1)]
        constructor
        · intro h before rule' after hsplit
          cases before with
          | nil =>
            obtain ⟨rfl, rfl⟩ := List.cons.inj hsplit
            exact ⟨requiresPriorEvaluate, htree, fun hb => by simp_all⟩
          | cons r before =>
            obtain ⟨rfl, rfl⟩ := List.cons.inj hsplit
            obtain ⟨b, hb, hseen⟩ := h before rule' after rfl
            refine ⟨b, hb, fun hbt => ?_⟩
            rcases hseen hbt with hseen | ⟨r', hr', hevaluate⟩
            · rcases Bool.or_eq_true_iff.mp hseen with hseen | hseen
              · exact .inl hseen
              · exact .inr ⟨rule, List.mem_cons_self, by simpa using hseen⟩
            · exact .inr ⟨r', List.mem_cons_of_mem _ hr', hevaluate⟩
        · intro h before rule' after hsplit
          obtain ⟨b, hb, hseen⟩ := h (rule :: before) rule' after (by rw [hsplit]; rfl)
          refine ⟨b, hb, fun hbt => ?_⟩
          rcases hseen hbt with hseen | ⟨r', hr', hevaluate⟩
          · exact .inl (by rw [hseen, Bool.true_or])
          · rcases List.mem_cons.mp hr' with rfl | hr'
            · exact .inl (by simp [hevaluate])
            · exact .inr ⟨r', hr', hevaluate⟩

/-- The validation of the mode that is not legacy passes exactly when every rule passes its own
checks and every rule that matches a response, at any depth, comes after an `evaluate` rule. -/
theorem validateLegacyDNSModeDisabledRules_eq_ok_iff {router : Option MetadataRouter}
    {rules : List DNSRule} {metadataOverrides : String → Option RuleSetMetadata} :
    validateLegacyDNSModeDisabledRules router rules metadataOverrides = .ok () ↔
      ∀ before rule after, rules = before ++ rule :: after →
        (∃ b, validateLegacyDNSModeDisabledRuleTree router metadataOverrides rule = .ok b) ∧
          (rule.nodes.any DNSRule.matchesResponse = true →
            ∃ r ∈ before, dnsRuleActionType r = RuleActionTypeEvaluate) := by
  rw [validateLegacyDNSModeDisabledRules, validateLegacyDNSModeDisabledRulesFrom_eq_ok_iff]
  constructor
  · intro h before rule after hsplit
    obtain ⟨b, hb, hseen⟩ := h before rule after hsplit
    refine ⟨⟨b, hb⟩, fun hmatches => ?_⟩
    rw [← validateLegacyDNSModeDisabledRuleTree_eq_ok rule hb] at hmatches
    simpa using hseen hmatches
  · intro h before rule after hsplit
    obtain ⟨⟨b, hb⟩, hevaluate⟩ := h before rule after hsplit
    refine ⟨b, hb, fun hbt => .inr (hevaluate ?_)⟩
    rw [← validateLegacyDNSModeDisabledRuleTree_eq_ok rule hb, hbt]

/-! ### Actions in nested rules -/

theorem Options.DNSRule.nodes_eq_cons (r : DNSRule) : r.nodes = r :: r.nodes.tail := by
  cases r <;> rw [nodes] <;> rfl

theorem validateNoNested_eq_ok_iff (r : DNSRule) (nested : Bool) :
    validateNoNestedDNSRuleActions r nested = .ok () ↔
      (nested = true → dnsRuleHasConfiguredAction r = false) ∧
        ∀ node ∈ r.nodes.tail, dnsRuleHasConfiguredAction node = false := by
  induction r using DNSRule.induction generalizing nested with
  | default options =>
    rw [validateNoNestedDNSRuleActions_default, DNSRule.nodes_default]
    cases nested <;> cases dnsRuleHasConfiguredAction (.default options) <;> simp
  | logical Rules action ih =>
    rw [validateNoNestedDNSRuleActions_logical, DNSRule.nodes, List.tail_cons]
    have hsub : (∃ u, foldIndexed (validateNoNestedDNSRuleActions · true)
        (fun i err => err.Cause ("sub rule[" ++ toString i ++ "]")) (fun _ _ => ()) Rules 0 () = .ok u) ↔
        ∀ node ∈ DNSRule.nodesOf Rules, dnsRuleHasConfiguredAction node = false := by
      rw [foldIndexed.isOk_iff]
      simp only [DNSRule.mem_nodesOf]
      constructor
      · rintro h node ⟨r, hr, hnode⟩
        obtain ⟨u, hu⟩ := h r hr
        obtain ⟨hself, htail⟩ := (ih r hr true).mp hu
        rw [DNSRule.nodes_eq_cons, List.mem_cons] at hnode
        rcases hnode with rfl | hnode
        · exact hself rfl
        · exact htail node hnode
      · intro h r hr
        refine ⟨(), (ih r hr true).mpr ⟨fun _ => h r ⟨r, hr, ?_⟩, fun node hnode => h node ⟨r, hr, ?_⟩⟩⟩
        · rw [DNSRule.nodes_eq_cons]; exact List.mem_cons_self
        · rw [DNSRule.nodes_eq_cons]; exact List.mem_cons_of_mem _ hnode
    split_ifs with hnested
    · simp only [false_iff, not_and]
      intro hself
      simp_all
    · constructor
      · intro h
        refine ⟨fun hn => by simp_all, hsub.mp ⟨(), h⟩⟩
      · rintro ⟨-, h⟩
        obtain ⟨u, hu⟩ := hsub.mpr h
        exact hu

/-- A rule passes the nested-action check exactly when no rule under it, at any depth, has an
action of its own. -/
theorem ValidateNoNestedDNSRuleActions_eq_ok_iff (r : DNSRule) :
    ValidateNoNestedDNSRuleActions r = .ok () ↔ ∀ node ∈ r.nodes.tail, dnsRuleHasConfiguredAction node = false := by
  rw [ValidateNoNestedDNSRuleActions, validateNoNested_eq_ok_iff]
  simp

/-! ### Rule-set reloads over a run -/

theorem buildRulesMode_eq_ok_iff {router : Option MetadataRouter} {rawRules : List DNSRule}
    {legacyDNSMode : Bool} {flags : dnsRuleModeFlags} :
    buildRulesMode router rawRules = .ok (legacyDNSMode, flags) ↔
      foldIndexed ValidateNoNestedDNSRuleActions
          (fun i err => err.Cause ("parse dns rule[" ++ toString i ++ "]")) (fun _ _ => ()) rawRules 0 () =
          .ok () ∧
        resolveLegacyDNSMode router rawRules (fun _ => none) = .ok (legacyDNSMode, flags) ∧
        (legacyDNSMode = false → validateLegacyDNSModeDisabledRules router rawRules (fun _ => none) = .ok ()) := by
  unfold buildRulesMode
  constructor
  · intro h
    split at h
    · cases h
    · rename_i hnested
      split at h
      · cases h
      · rename_i legacyDNSMode' flags' hresolve
        split_ifs at h with hlegacy
        · split at h
          · cases h
          · rename_i hvalid
            cases h
            exact ⟨hnested, hresolve, fun _ => hvalid⟩
        · cases h
          exact ⟨hnested, hresolve, fun h' => by simp [h'] at hlegacy⟩
  · rintro ⟨hnested, hresolve, hvalid⟩
    simp only [hnested, hresolve]
    cases legacyDNSMode
    · simp [hvalid rfl]
    · rfl

/-- A reload accepted by `ValidateRuleSetMetadataUpdate`: the router has no rules or is closing,
or the rules resolve under the new metadata, and the mode they resolve to is valid, or, in
legacy mode, still legacy or not turned off. -/
theorem ValidateRuleSetMetadataUpdate_eq_ok {r : RuleModeRouter} {router : MetadataRouter}
    {tag : String} {metadata : RuleSetMetadata}
    (h : r.ValidateRuleSetMetadataUpdate (some router) tag metadata = .ok ()) :
    r.rawRules = [] ∨ r.closing = true ∨
      ∃ legacyDNSMode flags,
        resolveLegacyDNSMode (some router) r.rawRules (metadataOverride tag metadata) =
          .ok (legacyDNSMode, flags) ∧
        (r.started = false → legacyDNSMode = false →
          validateLegacyDNSModeDisabledRules (some router) r.rawRules (metadataOverride tag metadata) = .ok ()) ∧
        (r.started = true → r.legacyDNSMode = true → legacyDNSMode = true ∨ flags.disabled = false) ∧
        (r.started = true → r.legacyDNSMode = false → legacyDNSMode = false ∧
          validateLegacyDNSModeDisabledRules (some router) r.rawRules (metadataOverride tag metadata) = .ok ()) := by
  unfold RuleModeRouter.ValidateRuleSetMetadataUpdate at h
  split_ifs at h with hempty hclosing hstarted hlegacy
  · exact .inl (List.eq_nil_of_length_eq_zero hempty)
  · exact .inr (.inl hclosing)
  · have hs : r.started = false := by simpa using hstarted
    cases hresolve : resolveLegacyDNSMode (some router) r.rawRules (metadataOverride tag metadata) with
    | error err => simp [hresolve] at h
    | ok mode =>
      obtain ⟨legacyDNSMode, flags⟩ := mode
      simp only [hresolve] at h
      refine .inr (.inr ⟨legacyDNSMode, flags, rfl, fun _ hl => by simpa [hl] using h,
        fun h' => by simp [hs] at h', fun h' => by simp [hs] at h'⟩)
  · have hs : r.started = true := by simpa using hstarted
    cases hresolve : resolveLegacyDNSMode (some router) r.rawRules (metadataOverride tag metadata) with
    | error err => simp [hresolve] at h
    | ok mode =>
      obtain ⟨legacyDNSMode, flags⟩ := mode
      simp only [hresolve] at h
      split_ifs at h with hturned
      · split at h <;> cases h
      · refine .inr (.inr ⟨legacyDNSMode, flags, rfl, fun h' => by simp [hs] at h', fun _ _ => ?_,
          fun _ h' => by simp [hlegacy] at h'⟩)
        cases legacyDNSMode
        · exact .inr (by simpa using hturned)
        · exact .inl rfl
  · have hs : r.started = true := by simpa using hstarted
    cases hresolve : resolveLegacyDNSMode (some router) r.rawRules (metadataOverride tag metadata) with
    | error err => simp [hresolve] at h
    | ok mode =>
      obtain ⟨legacyDNSMode, flags⟩ := mode
      simp only [hresolve] at h
      split_ifs at h with hcandidate
      refine .inr (.inr ⟨legacyDNSMode, flags, rfl, fun h' => by simp [hs] at h',
        fun _ h' => by simp [h'] at hlegacy, fun _ _ => ⟨by simpa using hcandidate, h⟩⟩)

/-- A rule set's metadata after a reload. -/
def MetadataRouter.update (router : MetadataRouter) (tag : String) (metadata : RuleSetMetadata) :
    MetadataRouter where
  RuleSet := Function.update router.RuleSet tag (some metadata)

theorem lookupAgree_update (router : MetadataRouter) (tag : String) (metadata : RuleSetMetadata) :
    LookupAgree (some router) (some (router.update tag metadata)) (metadataOverride tag metadata)
      (fun _ => none) where
  isSome := rfl
  lookup t := by
    by_cases ht : t = tag
    · subst ht
      simp [lookupDNSRuleSetMetadata, metadataOverride, MetadataRouter.update]
    · simp [lookupDNSRuleSetMetadata, metadataOverride, MetadataRouter.update, ht]

namespace RuleModeRouter

/-- `buildRules(true)`: the mode checks, then the rest of it in the mode they settle. -/
def buildRules (r : RuleModeRouter) (router : Option MetadataRouter) :
    Except ModeError (Bool × dnsRuleModeFlags) :=
  match buildRulesMode router r.rawRules with
  | .error err => .error err
  | .ok (legacyDNSMode, modeFlags) =>
    match r.buildNewRules legacyDNSMode with
    | .error err => .error err
    | .ok () => .ok (legacyDNSMode, modeFlags)

/-- `Router.Start` at `StartStateStart`, on the rules' mode: a router that is closing keeps its
state. -/
def Start (r : RuleModeRouter) (router : Option MetadataRouter) : Except ModeError Unit × RuleModeRouter :=
  match r.buildRules router with
  | .error err => (.error err, r)
  | .ok (legacyDNSMode, _) =>
    if r.closing then (.ok (), r) else (.ok (), { r with legacyDNSMode, started := true })

/-- `Router.Close`, on the fields the checks read. -/
def Close (r : RuleModeRouter) : Except ModeError Unit × RuleModeRouter :=
  (.ok (), { r with closing := true })

theorem buildRulesMode_of_buildRules {r : RuleModeRouter} {router : Option MetadataRouter}
    {mode : Bool × dnsRuleModeFlags} (h : r.buildRules router = .ok mode) :
    buildRulesMode router r.rawRules = .ok mode := by
  unfold buildRules at h
  split at h
  · cases h
  · split at h
    · cases h
    · rename_i hmode _ _
      cases h
      exact hmode

end RuleModeRouter

/-- The DNS router, the rule sets of the route router that it reads, and for each rule set the
metadata of a reload that `ValidateRuleSetMetadataUpdate` accepted and the rule set has not
kept yet. -/
structure RuleModeSystem where
  ruleSets : MetadataRouter
  dnsRouter : RuleModeRouter
  pending : String → Option RuleSetMetadata

/-- The steps of a run. A rule-set reload (`reloadRules` of a local rule set, `updateOnce` of a
remote one) is two of them: the check, and the rule set keeping the metadata under its lock,
which `validateRuleSetMetadataUpdate` does not hold. -/
inductive RuleModeEvent where
  | start
  | close
  | check (tag : String) (metadata : RuleSetMetadata)
  | keep (tag : String)

namespace RuleModeSystem

def step (s : RuleModeSystem) : RuleModeEvent → Except ModeError Unit × RuleModeSystem
  | .start => ((s.dnsRouter.Start (some s.ruleSets)).1, { s with dnsRouter := (s.dnsRouter.Start (some s.ruleSets)).2 })
  | .close => ((s.dnsRouter.Close).1, { s with dnsRouter := s.dnsRouter.Close.2 })
  | .check tag metadata =>
    match s.dnsRouter.ValidateRuleSetMetadataUpdate (some s.ruleSets) tag metadata with
    | .error err => (.error err, s)
    | .ok () => (.ok (), { s with pending := Function.update s.pending tag (some metadata) })
  | .keep tag =>
    match s.pending tag with
    | none => (.ok (), s)
    | some metadata =>
      (.ok (), { s with
        ruleSets := s.ruleSets.update tag metadata
        pending := Function.update s.pending tag none })

/-- The rules are valid for the mode the DNS router runs in: before the start, for the mode it
would start in; once started, for the mode it runs in, and in legacy mode they still resolve,
and not to a mode that turns legacy mode off. -/
structure Consistent (s : RuleModeSystem) : Prop where
  beforeStart : s.dnsRouter.closing = false → s.dnsRouter.started = false →
    ∃ mode, buildRulesMode (some s.ruleSets) s.dnsRouter.rawRules = .ok mode
  notLegacy : s.dnsRouter.closing = false → s.dnsRouter.started = true →
    s.dnsRouter.legacyDNSMode = false →
    ∃ flags, buildRulesMode (some s.ruleSets) s.dnsRouter.rawRules = .ok (false, flags)
  legacy : s.dnsRouter.closing = false → s.dnsRouter.started = true → s.dnsRouter.legacyDNSMode = true →
    ∃ legacyDNSMode flags,
      resolveLegacyDNSMode (some s.ruleSets) s.dnsRouter.rawRules (fun _ => none) = .ok (legacyDNSMode, flags) ∧
        (legacyDNSMode = true ∨ flags.disabled = false)

/-- No reload is between its check and its keep. -/
def NoPending (s : RuleModeSystem) : Prop := ∀ tag, s.pending tag = none

theorem Consistent.start {s : RuleModeSystem} (hs : s.Consistent) : (s.step .start).2.Consistent := by
  simp only [step, RuleModeRouter.Start]
  cases hbuild : s.dnsRouter.buildRules (some s.ruleSets) with
  | error err => exact hs
  | ok mode =>
    obtain ⟨legacyDNSMode, flags⟩ := mode
    have hmode := RuleModeRouter.buildRulesMode_of_buildRules hbuild
    obtain ⟨-, hresolve, -⟩ := buildRulesMode_eq_ok_iff.mp hmode
    by_cases hclosing : s.dnsRouter.closing = true
    · simpa [hclosing] using hs
    · simp only [hclosing, Bool.false_eq_true, if_false]
      refine ⟨fun _ h => (nomatch h), fun _ _ hlegacy => ⟨flags, hlegacy ▸ hmode⟩,
        fun _ _ hlegacy => ⟨legacyDNSMode, flags, hresolve, .inl hlegacy⟩⟩

theorem consistent_close (s : RuleModeSystem) : (s.step .close).2.Consistent where
  beforeStart h := by cases h
  notLegacy h := by cases h
  legacy h := by cases h

/-- Metadata that `ValidateRuleSetMetadataUpdate` accepted on the system as it is keeps the
rules valid once the rule set holds it. -/
theorem Consistent.update {s : RuleModeSystem} (hs : s.Consistent) {tag : String}
    {metadata : RuleSetMetadata}
    (hvalid : s.dnsRouter.ValidateRuleSetMetadataUpdate (some s.ruleSets) tag metadata = .ok ())
    (pending : String → Option RuleSetMetadata) :
    Consistent ⟨s.ruleSets.update tag metadata, s.dnsRouter, pending⟩ := by
  have hagree := lookupAgree_update s.ruleSets tag metadata
  rcases ValidateRuleSetMetadataUpdate_eq_ok hvalid with
    hnil | hclosing | ⟨legacyDNSMode, flags, hresolve, hbefore, hlegacy, hnotLegacy⟩
  · refine ⟨fun _ _ => ⟨(false, {}), ?_⟩, fun _ _ _ => ⟨{}, ?_⟩, fun _ _ _ => ⟨false, {}, ?_, .inr rfl⟩⟩ <;>
      simp only [hnil] <;> rfl
  · refine ⟨fun h => ?_, fun h => ?_, fun h => ?_⟩ <;> simp [hclosing] at h
  · have hresolve' := (hagree.resolve_eq s.dnsRouter.rawRules).symm.trans hresolve
    have hvalidate' := (hagree.validate_eq s.dnsRouter.rawRules).symm
    refine ⟨fun hclosing hstarted => ?_, fun hclosing hstarted hmode => ?_,
      fun _ hstarted hmode => ⟨legacyDNSMode, flags, hresolve', hlegacy hstarted hmode⟩⟩
    · obtain ⟨mode, hmode⟩ := hs.beforeStart hclosing hstarted
      obtain ⟨hnested, -, -⟩ := buildRulesMode_eq_ok_iff.mp hmode
      exact ⟨(legacyDNSMode, flags), buildRulesMode_eq_ok_iff.mpr
        ⟨hnested, hresolve', fun hl => hvalidate'.trans (hbefore hstarted hl)⟩⟩
    · obtain ⟨flags₀, hmode₀⟩ := hs.notLegacy hclosing hstarted hmode
      obtain ⟨hnested, -, -⟩ := buildRulesMode_eq_ok_iff.mp hmode₀
      obtain ⟨rfl, hvalidated⟩ := hnotLegacy hstarted hmode
      exact ⟨flags, buildRulesMode_eq_ok_iff.mpr ⟨hnested, hresolve', fun _ => hvalidated.symm ▸ hvalidate'⟩⟩

theorem Consistent.reload {s : RuleModeSystem} (hs : s.Consistent) (hp : s.NoPending) (tag : String)
    (metadata : RuleSetMetadata) :
    (LockStep.run step s [.check tag metadata, .keep tag]).2.Consistent ∧
      (LockStep.run step s [.check tag metadata, .keep tag]).2.NoPending := by
  simp only [LockStep.run_cons, LockStep.run_nil, step]
  cases hvalid : s.dnsRouter.ValidateRuleSetMetadataUpdate (some s.ruleSets) tag metadata with
  | error err =>
    simp only [hp tag]
    exact ⟨hs, hp⟩
  | ok u =>
    simp only [Function.update_self, Function.update_idem]
    refine ⟨hs.update hvalid _, fun tag' => ?_⟩
    by_cases htag : tag' = tag
    · subst htag
      exact Function.update_self ..
    · exact (Function.update_of_ne htag _ _).trans (hp tag')

theorem consistent_of_buildRulesMode {ruleSets : MetadataRouter} {rawRules : List DNSRule}
    {buildNewRules : Bool → Except ModeError Unit} {mode : Bool × dnsRuleModeFlags}
    (hinit : buildRulesMode (some ruleSets) rawRules = .ok mode) :
    Consistent ⟨ruleSets, ⟨rawRules, false, false, false, buildNewRules⟩, fun _ => none⟩ where
  beforeStart _ _ := ⟨mode, hinit⟩
  notLegacy _ h := by cases h
  legacy _ h := by cases h

end RuleModeSystem

/-- What one caller does at once: a start, a close, or a rule-set reload from its check to its
keep. -/
inductive RuleModeTask where
  | start
  | close
  | reload (tag : String) (metadata : RuleSetMetadata)

def RuleModeTask.events : RuleModeTask → List RuleModeEvent
  | .start => [.start]
  | .close => [.close]
  | .reload tag metadata => [.check tag metadata, .keep tag]

theorem RuleModeSystem.consistent_run_events {s : RuleModeSystem} (hs : s.Consistent ∧ s.NoPending)
    (task : RuleModeTask) :
    (LockStep.run step s task.events).2.Consistent ∧ (LockStep.run step s task.events).2.NoPending := by
  cases task with
  | start => exact ⟨hs.1.start, hs.2⟩
  | close => exact ⟨consistent_close s, hs.2⟩
  | reload tag metadata => exact hs.1.reload hs.2 tag metadata

open RuleModeSystem in
/-- From rules that `Initialize` accepted, over any run of starts, closes and rule-set reloads
in which nothing comes between a reload's check and its keep, the rules stay valid for the
mode of the DNS router: no reload it accepts leaves a started router running in a mode its
rules would not start in. -/
theorem run_consistent {ruleSets : MetadataRouter} {rawRules : List DNSRule}
    {buildNewRules : Bool → Except ModeError Unit} {mode : Bool × dnsRuleModeFlags}
    (hinit : buildRulesMode (some ruleSets) rawRules = .ok mode) (tasks : List RuleModeTask) :
    (LockStep.run RuleModeSystem.step ⟨ruleSets, ⟨rawRules, false, false, false, buildNewRules⟩, fun _ => none⟩
      (tasks.flatMap RuleModeTask.events)).2.Consistent :=
  (LockStep.run_flatMap_invariant (fun s => Consistent s ∧ NoPending s) RuleModeTask.events
    (fun _ task hs => consistent_run_events hs task) tasks _
    ⟨consistent_of_buildRulesMode hinit, fun _ => rfl⟩).1

/-! ### Witnesses -/

/-- A rule that filters the addresses of a response without `match_response`. -/
def addressFilterRule : DNSRule := .default { IPCIDR := ["10.0.0.0/8"] }

def evaluateRule : DNSRule := .default { DNSRuleAction := { Action := "evaluate" } }

/-- A rule that matches the addresses of the response an `evaluate` rule fetched. -/
def responseRule : DNSRule := .default { MatchResponse := true, IPCIDR := ["10.0.0.0/8"] }

/-- A rule that reads the rule set `geoip`. -/
def ruleSetRule : DNSRule := .default { RuleSet := ["geoip"] }

/-- A router whose rule set `geoip` has no IP CIDR rule. -/
def domainRuleSets : MetadataRouter := ⟨fun _ => some ⟨false, false, true⟩⟩

def ipRuleSetMetadata : RuleSetMetadata := ⟨true, false, true⟩

theorem resolveLegacyDNSMode_perm_swap :
    [evaluateRule, responseRule].Perm [responseRule, evaluateRule] ∧
      (resolveLegacyDNSMode none [evaluateRule, responseRule] (fun _ => none)).toOption =
        (resolveLegacyDNSMode none [responseRule, evaluateRule] (fun _ => none)).toOption :=
  ⟨List.Perm.swap _ _ _, resolveLegacyDNSMode_perm none (fun _ => none) (List.Perm.swap _ _ _)⟩

/-- The order still matters to the validation: a rule that matches a response must come after
an `evaluate` rule. -/
example : validateLegacyDNSModeDisabledRules none [evaluateRule, responseRule] (fun _ => none) = .ok () ∧
    validateLegacyDNSModeDisabledRules none [responseRule, evaluateRule] (fun _ => none) ≠ .ok () := by
  decide

theorem resolveLegacyDNSMode_legacy_addressFilter :
    resolveLegacyDNSMode none [addressFilterRule] (fun _ => none) = .ok (true, { needed := true }) ∧
      ∀ rule ∈ [addressFilterRule], ∀ node ∈ rule.nodes,
        dnsRuleActionType node ≠ RuleActionTypeEvaluate ∧ dnsRuleActionType node ≠ RuleActionTypeRespond ∧
          ∀ options, node = .default options →
            options.MatchResponse = false ∧ hasResponseMatchFields options = false := by
  have h : resolveLegacyDNSMode none [addressFilterRule] (fun _ => none) = .ok (true, { needed := true }) := by
    decide
  exact ⟨h, resolveLegacyDNSMode_legacy h⟩

/-- A DNS router whose rules build in either mode. -/
def ruleSetRouter (started : Bool) : RuleModeRouter := ⟨[ruleSetRule], started, false, false, fun _ => .ok ()⟩

/-- A rule-set reload that would ask for legacy mode is refused once the router has started in
the other mode. -/
example : (RuleModeSystem.step ⟨domainRuleSets, ruleSetRouter true, fun _ => none⟩
    (.check "geoip" ipRuleSetMetadata)).1 =
      .error (.new Deprecated.OptionLegacyDNSAddressFilter.MessageWithLink) :=
  rfl

theorem run_consistent_reload :
    buildRulesMode (some domainRuleSets) [ruleSetRule] = .ok (false, {}) ∧
      (LockStep.run RuleModeSystem.step ⟨domainRuleSets, ruleSetRouter false, fun _ => none⟩
        ([.reload "geoip" ipRuleSetMetadata, .start].flatMap RuleModeTask.events)).2.Consistent := by
  have hinit : buildRulesMode (some domainRuleSets) [ruleSetRule] = .ok (false, {}) := by decide
  exact ⟨hinit, run_consistent hinit _⟩

/-! ### A start between a reload's check and its keep -/

/-- A start between the check and the keep of a reload reads the old metadata: the check passed
because the router had not started, the router starts in the other mode, and then the rule set
keeps metadata that asks for legacy mode. -/
theorem reload_start_race :
    buildRulesMode (some domainRuleSets) [ruleSetRule] = .ok (false, {}) ∧
      ¬ (LockStep.run RuleModeSystem.step ⟨domainRuleSets, ruleSetRouter false, fun _ => none⟩
        [.check "geoip" ipRuleSetMetadata, .start, .keep "geoip"]).2.Consistent := by
  refine ⟨by decide, fun h => ?_⟩
  obtain ⟨flags, hflags⟩ := h.notLegacy rfl rfl rfl
  have hlegacy : buildRulesMode (some (domainRuleSets.update "geoip" ipRuleSetMetadata)) [ruleSetRule] =
      .ok (true, { needed := true }) := by
    decide
  have hfinal : (LockStep.run RuleModeSystem.step ⟨domainRuleSets, ruleSetRouter false, fun _ => none⟩
      [.check "geoip" ipRuleSetMetadata, .start, .keep "geoip"]).2.ruleSets =
        domainRuleSets.update "geoip" ipRuleSetMetadata := by
    rfl
  have hrules : (LockStep.run RuleModeSystem.step ⟨domainRuleSets, ruleSetRouter false, fun _ => none⟩
      [.check "geoip" ipRuleSetMetadata, .start, .keep "geoip"]).2.dnsRouter.rawRules = [ruleSetRule] := by
    rfl
  rw [hfinal, hrules, hlegacy] at hflags
  cases hflags

end SingBox
