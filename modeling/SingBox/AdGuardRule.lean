import SingBox.AdGuard

/-!
# Building and matching AdGuard rules

`NewHeadlessRule` of `route/rule/rule_headless.go` on the rules that `ToOptions` returns,
and what the built rule matches. The items it builds are the parameters `DomainItems`.

On these rules the state sets of the engine reduce to truth values
(`isEmpty_of_NewHeadlessRule`): a default rule with items yields a state exactly when one of
its items matches, or exactly when none does if it is inverted; a default rule with no item
yields a state whatever its flag; a logical rule combines the answers of its rules. So the
rule that `ToOptions` assembles means "no important exception, and an important line or
else no exception and an ordinary line" (`Meaning_assemble`), where an empty set of
ordinary lines counts as matching every domain.
-/

namespace SingBox

namespace AdGuard

variable {σ α : Type}

/-- The items `NewDefaultHeadlessRule` builds from the three fields: the matcher of
`NewDomainItem`, `NewDomainRegexItem` (each expression through `regexp.Compile`, whose error
it returns) and the matcher of `NewAdGuardDomainItem`. Each reads the connection only. -/
structure DomainItems (σ : Type) where
  Domain : List (List Char) → σ → Bool
  DomainRegex : List (List Char) → Except String (σ → Bool)
  AdGuardDomain : List (List Char) → σ → Bool

/-- The groups of a rule whose items are all destination-address items. -/
def destinationGroups (destinationAddressItems : List (RuleItem σ α)) : RuleItemGroups σ α :=
  ⟨[], [], [], destinationAddressItems, [], []⟩

mutual

/-- `HeadlessRule.IsValid`. A default rule is valid: its lists are never nil slices, so
`reflect.DeepEqual` tells it from the zero value. -/
def HeadlessRule.IsValid : HeadlessRule → Bool
  | .default _ => true
  | .logical _ Rules _ => Rules.length > 0 && HeadlessRule.allValid Rules

def HeadlessRule.allValid : List HeadlessRule → Bool
  | [] => true
  | rule :: rules => rule.IsValid && HeadlessRule.allValid rules

end

section Build

variable (items : DomainItems σ)

/-- The item of `Domain`, built when the list is not empty. -/
def domainItem (options : DefaultHeadlessRule) : Except String (List (RuleItem σ α)) :=
  if options.Domain.length > 0 then
    if [] ∈ options.Domain then .error "domain: empty item is not allowed"
    else .ok [RuleItem.plain (items.Domain options.Domain)]
  else .ok []

def domainRegexItem (options : DefaultHeadlessRule) : Except String (List (RuleItem σ α)) :=
  if options.DomainRegex.length > 0 then
    match items.DomainRegex options.DomainRegex with
    | .ok matchRegex => .ok [RuleItem.plain matchRegex]
    | .error err => .error ("domain_regex: " ++ err)
  else .ok []

def adGuardDomainItem (options : DefaultHeadlessRule) : List (RuleItem σ α) :=
  if options.AdGuardDomain.length > 0 then
    [RuleItem.plain (items.AdGuardDomain options.AdGuardDomain)]
  else []

/-- `NewDefaultHeadlessRule` on the three fields: their items, in the order the source
appends them, all in the destination-address group. -/
def NewDefaultHeadlessRule (options : DefaultHeadlessRule) : Except String (Rule σ α) := do
  let domainItem ← domainItem items options
  let domainRegexItem ← domainRegexItem items options
  pure (.default
    (destinationGroups (domainItem ++ domainRegexItem ++ adGuardDomainItem items options)) none
    options.Invert false)

mutual

def NewHeadlessRule : HeadlessRule → Except String (Rule σ α)
  | .default options => NewDefaultHeadlessRule items options
  | .logical Mode Rules Invert =>
    if !(HeadlessRule.logical Mode Rules Invert).IsValid then .error "missing conditions"
    else (NewSubRules Rules 0).map fun rules => .logical rules Mode Invert

/-- The loop of `NewLogicalHeadlessRule` over its sub-rules, from the `i`-th on. -/
def NewSubRules : List HeadlessRule → Nat → Except String (List (Rule σ α))
  | [], _ => .ok []
  | subRule :: subRules, i =>
    match NewHeadlessRule subRule with
    | .error err => .error ("sub rule[" ++ toString i ++ "]: " ++ err)
    | .ok rule => (NewSubRules subRules (i + 1)).map (rule :: ·)

end

/-! ### What a rule means -/

/-- Whether the expressions of `DomainRegex` match, once they compile. -/
def DefaultHeadlessRule.regexMatches (options : DefaultHeadlessRule) (c : σ) : Bool :=
  match items.DomainRegex options.DomainRegex with
  | .ok matchRegex => matchRegex c
  | .error _ => false

/-- Whether one of the items a default rule builds matches. -/
def DefaultHeadlessRule.itemMatches (options : DefaultHeadlessRule) (c : σ) : Bool :=
  (options.Domain.length > 0 && items.Domain options.Domain c) ||
    (options.DomainRegex.length > 0 && options.regexMatches items c) ||
    (options.AdGuardDomain.length > 0 && items.AdGuardDomain options.AdGuardDomain c)

def DefaultHeadlessRule.hasItems (options : DefaultHeadlessRule) : Bool :=
  options.Domain.length > 0 || options.DomainRegex.length > 0 || options.AdGuardDomain.length > 0

/-- A default rule without an item holds of every connection, inverted or not: the empty
`allItems` of `abstractDefaultRule`. -/
def DefaultHeadlessRule.Meaning (options : DefaultHeadlessRule) (c : σ) : Bool :=
  if options.hasItems then options.Invert != options.itemMatches items c else true

mutual

def HeadlessRule.Meaning : HeadlessRule → σ → Bool
  | .default options, c => options.Meaning items c
  | .logical .and Rules Invert, c => Invert != HeadlessRule.allMeaning Rules c
  | .logical .or Rules Invert, c => Invert != HeadlessRule.anyMeaning Rules c

def HeadlessRule.allMeaning : List HeadlessRule → σ → Bool
  | [], _ => true
  | rule :: rules, c => rule.Meaning c && HeadlessRule.allMeaning rules c

def HeadlessRule.anyMeaning : List HeadlessRule → σ → Bool
  | [], _ => false
  | rule :: rules, c => rule.Meaning c || HeadlessRule.anyMeaning rules c

end

end Build

/-! ### The engine on these rules -/

theorem bind_eq_ok {ε β γ : Type} {x : Except ε β} {f : β → Except ε γ} {y : γ}
    (h : x >>= f = .ok y) : ∃ b, x = .ok b ∧ f b = .ok y := by
  cases x with
  | error e => cases h
  | ok b => exact ⟨b, rfl, h⟩

theorem isEmpty_append {β : Type} (l r : List β) :
    (l ++ r).isEmpty = (l.isEmpty && r.isEmpty) := by
  cases l <;> rfl

theorem allows_destinationGroups (D : List (RuleItem σ α)) (hD : D ≠ [])
    (m : InboundContext σ α) :
    (destinationGroups D).allows m ((destinationGroups D).baseState m 0#4) =
      matchAnyItem D m := by
  apply Bool.eq_iff_iff.mpr
  rw [RuleItemGroups.allows_eq_true, RuleItemGroups.baseState_has_destinationAddress]
  simp [destinationGroups, hD, RuleItemGroups.requiresSourceAddressMatch,
    RuleItemGroups.requiresDestinationAddressMatch, RuleItemGroups.destinationAddressMatches,
    RuleItemGroups.destinationIPCIDRMatchesSource,
    RuleItemGroups.destinationIPCIDRMatchesDestination, RuleMatchState.zero_has]

/-- A default rule of destination-address items yields nothing at base `0` exactly when it
has items and its flag is whether one of them matches. -/
theorem isEmpty_destinationGroups (D : List (RuleItem σ α)) (invert : Bool)
    (m : InboundContext σ α) :
    ((destinationGroups D).matchStatesWithBase none invert m 0#4).isEmpty =
      (!D.isEmpty && (invert == matchAnyItem D m)) := by
  cases D with
  | nil =>
    rw [RuleItemGroups.matchStatesWithBase_of_isEmpty _ _ _ _ _ rfl]
    simp [RuleMatchStateSet.isEmpty_singleRuleMatchState]
  | cons item items =>
    have hne : (destinationGroups (item :: items) : RuleItemGroups σ α).isEmpty = false := rfl
    have hitems : (destinationGroups (item :: items) : RuleItemGroups σ α).items = [] := rfl
    have hcidr :
        (destinationGroups (item :: items) : RuleItemGroups σ α).destinationIPCIDRItems = [] :=
      rfl
    have hallows := allows_destinationGroups _ (List.cons_ne_nil item items) m
    simp only [RuleItemGroups.matchStatesWithBase, RuleItemGroups.candidateStates, ite_self,
      RuleMatchStateSet.isEmpty_filter_singleRuleMatchState, hallows, hne, hcidr, hitems,
      List.all_nil, Bool.not_true, Bool.false_eq_true, if_false, Bool.false_and]
    cases hmatch : matchAnyItem (item :: items) m <;> cases invert <;>
      simp [RuleMatchStateSet.isEmpty_singleRuleMatchState,
        RuleMatchStateSet.isEmpty_filter_singleRuleMatchState, hallows, hmatch]

section Items

variable (items : DomainItems σ) (m : InboundContext σ α)

theorem domainItem_eq_ok {options : DefaultHeadlessRule} {D : List (RuleItem σ α)}
    (h : domainItem items options = .ok D) :
    D.isEmpty = !(options.Domain.length > 0) ∧
      matchAnyItem D m = (options.Domain.length > 0 && items.Domain options.Domain m.conn) := by
  unfold domainItem at h
  split_ifs at h with hlen hmem
  · cases Except.ok.inj h
    simp [hlen, matchAnyItem, RuleItem.Match]
  · cases Except.ok.inj h
    simp [hlen, matchAnyItem]

theorem domainRegexItem_eq_ok {options : DefaultHeadlessRule} {D : List (RuleItem σ α)}
    (h : domainRegexItem items options = .ok D) :
    D.isEmpty = !(options.DomainRegex.length > 0) ∧
      matchAnyItem D m =
        (options.DomainRegex.length > 0 && options.regexMatches items m.conn) := by
  unfold domainRegexItem at h
  split_ifs at h with hlen
  · split at h
    · rename_i matchRegex hregex
      cases Except.ok.inj h
      simp [hlen, hregex, matchAnyItem, RuleItem.Match, DefaultHeadlessRule.regexMatches]
    · cases h
  · cases Except.ok.inj h
    simp [hlen, matchAnyItem]

theorem adGuardDomainItem_spec (options : DefaultHeadlessRule) :
    (adGuardDomainItem items options : List (RuleItem σ α)).isEmpty =
        !(options.AdGuardDomain.length > 0) ∧
      matchAnyItem (adGuardDomainItem items options) m =
        (options.AdGuardDomain.length > 0 &&
          items.AdGuardDomain options.AdGuardDomain m.conn) := by
  unfold adGuardDomainItem
  split_ifs with hlen <;> simp [hlen, matchAnyItem, RuleItem.Match]

theorem isEmpty_of_NewDefaultHeadlessRule {options : DefaultHeadlessRule} {rule : Rule σ α}
    (h : NewDefaultHeadlessRule items options = .ok rule) :
    (rule.matchStatesWithBase m 0#4).isEmpty = !options.Meaning items m.conn := by
  obtain ⟨D, hdomain, h⟩ := bind_eq_ok h
  obtain ⟨R, hregex, h⟩ := bind_eq_ok h
  cases Except.ok.inj h
  obtain ⟨hD, hDm⟩ := domainItem_eq_ok items m hdomain
  obtain ⟨hR, hRm⟩ := domainRegexItem_eq_ok items m hregex
  obtain ⟨hA, hAm⟩ := adGuardDomainItem_spec items m options
  have hempty : (D ++ R ++ adGuardDomainItem items options).isEmpty = !options.hasItems := by
    simp [isEmpty_append, hD, hR, hA, DefaultHeadlessRule.hasItems, Bool.and_assoc]
  have hmatch : matchAnyItem (D ++ R ++ adGuardDomainItem items options) m =
      options.itemMatches items m.conn := by
    simp only [matchAnyItem_append, hDm, hRm, hAm, DefaultHeadlessRule.itemMatches]
  simp only [Rule.matchStatesWithBase, isEmpty_destinationGroups, hempty, hmatch,
    DefaultHeadlessRule.Meaning]
  cases options.hasItems <;> cases options.Invert <;> simp

theorem map_eq_ok {ε β γ : Type} {x : Except ε β} {f : β → γ} {y : γ}
    (h : x.map f = .ok y) : ∃ b, x = .ok b ∧ f b = y := by
  cases x with
  | error e => cases h
  | ok b => exact ⟨b, rfl, Except.ok.inj h⟩

/-- A built rule follows the meaning of its options: at base `0` it yields a state exactly
when the options hold of the connection. -/
def Simulates (r : HeadlessRule) (rule : Rule σ α) : Prop :=
  ∀ m : InboundContext σ α, (rule.matchStatesWithBase m 0#4).isEmpty = !r.Meaning items m.conn

theorem all_of_forall₂ {Rules : List HeadlessRule} {rules : List (Rule σ α)}
    (h : List.Forall₂ (Simulates items) Rules rules) :
    (rules.all fun rule => !(rule.matchStatesWithBase m 0#4).isEmpty) =
      HeadlessRule.allMeaning items Rules m.conn := by
  induction h with
  | nil => rfl
  | cons hsim _ ih => simp [hsim m, ih, HeadlessRule.allMeaning]

theorem any_of_forall₂ {Rules : List HeadlessRule} {rules : List (Rule σ α)}
    (h : List.Forall₂ (Simulates items) Rules rules) :
    (rules.any fun rule => !(rule.matchStatesWithBase m 0#4).isEmpty) =
      HeadlessRule.anyMeaning items Rules m.conn := by
  induction h with
  | nil => rfl
  | cons hsim _ ih => simp [hsim m, ih, HeadlessRule.anyMeaning]

end Items

section Simulation

variable (items : DomainItems σ)

mutual

theorem simulates_of_NewHeadlessRule : ∀ (r : HeadlessRule) {rule : Rule σ α},
    NewHeadlessRule items r = .ok rule → Simulates items r rule
  | .default options, _, h => fun m => isEmpty_of_NewDefaultHeadlessRule items m h
  | .logical mode Rules Invert, _, h => by
    simp only [NewHeadlessRule] at h
    split_ifs at h
    obtain ⟨rules, hsub, rfl⟩ := map_eq_ok h
    have hsim := forall₂_of_NewSubRules Rules 0 hsub
    intro m
    cases mode with
    | and =>
      rw [Rule.isEmpty_logical_and, ite_self, all_of_forall₂ items _ hsim]
      cases Invert <;> simp [HeadlessRule.Meaning, InboundContext.resetRuleCache,
        InboundContext.resetRuleMatchCache]
    | or =>
      rw [Rule.isEmpty_logical_or, ite_self, any_of_forall₂ items _ hsim]
      cases Invert <;> simp [HeadlessRule.Meaning, InboundContext.resetRuleCache,
        InboundContext.resetRuleMatchCache]

theorem forall₂_of_NewSubRules :
    ∀ (Rules : List HeadlessRule) (i : Nat) {rules : List (Rule σ α)},
      NewSubRules items Rules i = .ok rules → List.Forall₂ (Simulates items) Rules rules
  | [], _, _, h => by
    cases Except.ok.inj h
    exact .nil
  | r :: Rules, i, _, h => by
    simp only [NewSubRules] at h
    split at h
    · cases h
    · rename_i rule hrule
      obtain ⟨rules, hsub, rfl⟩ := map_eq_ok h
      exact .cons (simulates_of_NewHeadlessRule r hrule)
        (forall₂_of_NewSubRules Rules (i + 1) hsub)

end

theorem Match_of_NewHeadlessRule {r : HeadlessRule} {rule : Rule σ α}
    (h : NewHeadlessRule items r = .ok rule) (m : InboundContext σ α) :
    rule.Match m = r.Meaning items m.conn := by
  rw [Rule.Match, Rule.matchStates, simulates_of_NewHeadlessRule items r h m, Bool.not_not]

end Simulation

/-! ### The rule `ToOptions` assembles -/

/-- The matcher semantics the converter is written for: a list of AdGuard lines matches a
connection when one of its lines does, and a list of expressions compiles and matches when
one of them does. -/
structure DomainItems.Lawful (items : DomainItems σ)
    (lineMatches regexMatches : List Char → σ → Bool) : Prop where
  AdGuardDomain : ∀ ruleLines c,
    items.AdGuardDomain ruleLines c = ruleLines.any (lineMatches · c)
  DomainRegex : ∀ ruleLines,
    items.DomainRegex ruleLines = .ok fun c => ruleLines.any (regexMatches · c)

/-- Some line of a pair of buckets matches: an AdGuard line of the first, or an expression
of the second. -/
def bucketMatches (lineMatches regexMatches : List Char → σ → Bool)
    (AdGuardDomain DomainRegex : List (List Char)) (c : σ) : Bool :=
  AdGuardDomain.any (lineMatches · c) || DomainRegex.any (regexMatches · c)

theorem bucketMatches_nil (lineMatches regexMatches : List Char → σ → Bool) (c : σ) :
    bucketMatches lineMatches regexMatches [] [] c = false := rfl

/-- What the buckets mean as `ToOptions` nests them: no important exception, and an
important line or else no ordinary exception and an ordinary line, where an empty set of
ordinary lines counts as matching. -/
def Buckets.Meaning (lineMatches regexMatches : List Char → σ → Bool) (b : Buckets) (c : σ) :
    Bool :=
  !bucketMatches lineMatches regexMatches b.importantExcludeDomain
      b.importantExcludeDomainRegex c &&
    (bucketMatches lineMatches regexMatches b.importantDomain b.importantDomainRegex c ||
      !bucketMatches lineMatches regexMatches b.excludeDomain b.excludeDomainRegex c &&
        (bucketMatches lineMatches regexMatches b.domain b.domainRegex c ||
          b.domain.isEmpty && b.domainRegex.isEmpty))

/-- AdGuard's priority: an important line that no important exception overrides, or an
ordinary line that no exception of either kind overrides. -/
def Buckets.Priority (lineMatches regexMatches : List Char → σ → Bool) (b : Buckets) (c : σ) :
    Bool :=
  (bucketMatches lineMatches regexMatches b.importantDomain b.importantDomainRegex c &&
      !bucketMatches lineMatches regexMatches b.importantExcludeDomain
        b.importantExcludeDomainRegex c) ||
    (bucketMatches lineMatches regexMatches b.domain b.domainRegex c &&
      !bucketMatches lineMatches regexMatches b.importantExcludeDomain
        b.importantExcludeDomainRegex c &&
      !bucketMatches lineMatches regexMatches b.excludeDomain b.excludeDomainRegex c)

theorem Meaning_and_pair (items : DomainItems σ) (r r' : HeadlessRule) (c : σ) :
    (HeadlessRule.logical .and [r, r'] false).Meaning items c =
      (r.Meaning items c && r'.Meaning items c) := by
  simp [HeadlessRule.Meaning, HeadlessRule.allMeaning]

theorem Meaning_or_pair (items : DomainItems σ) (r r' : HeadlessRule) (c : σ) :
    (HeadlessRule.logical .or [r, r'] false).Meaning items c =
      (r.Meaning items c || r'.Meaning items c) := by
  simp [HeadlessRule.Meaning, HeadlessRule.anyMeaning]

section Lawful

variable {items : DomainItems σ} {lineMatches regexMatches : List Char → σ → Bool}
  (h : items.Lawful lineMatches regexMatches) (L R : List (List Char))
  (currentRule : HeadlessRule) (c : σ)
include h

theorem Meaning_default (Invert : Bool) :
    (HeadlessRule.default { AdGuardDomain := L, DomainRegex := R, Invert }).Meaning items c =
      if L = [] ∧ R = [] then true
      else Invert != bucketMatches lineMatches regexMatches L R c := by
  have hR : (R.length > 0 && R.any (regexMatches · c)) = R.any (regexMatches · c) := by
    cases R <;> simp
  have hL : (L.length > 0 && L.any (lineMatches · c)) = L.any (lineMatches · c) := by
    cases L <;> simp
  simp only [HeadlessRule.Meaning, DefaultHeadlessRule.Meaning, DefaultHeadlessRule.hasItems,
    DefaultHeadlessRule.itemMatches, DefaultHeadlessRule.regexMatches, h.DomainRegex,
    h.AdGuardDomain, hR, hL, bucketMatches]
  cases L <;> cases R <;> simp [Bool.or_comm]

theorem Meaning_layer_and :
    (layer .and true L R currentRule).Meaning items c =
      (!bucketMatches lineMatches regexMatches L R c && currentRule.Meaning items c) := by
  by_cases hLR : L = [] ∧ R = []
  · rw [layer_of_empty L R currentRule hLR]
    simp [bucketMatches, hLR.1, hLR.2]
  · rw [layer_of_ne L R currentRule .and true hLR, Meaning_and_pair, Meaning_default h,
      if_neg hLR]
    simp

theorem Meaning_layer_or :
    (layer .or false L R currentRule).Meaning items c =
      (bucketMatches lineMatches regexMatches L R c || currentRule.Meaning items c) := by
  by_cases hLR : L = [] ∧ R = []
  · rw [layer_of_empty L R currentRule hLR]
    simp [bucketMatches, hLR.1, hLR.2]
  · rw [layer_of_ne L R currentRule .or false hLR, Meaning_or_pair, Meaning_default h,
      if_neg hLR]
    simp

theorem Meaning_ordinary :
    (HeadlessRule.default { AdGuardDomain := L, DomainRegex := R }).Meaning items c =
      (bucketMatches lineMatches regexMatches L R c || L.isEmpty && R.isEmpty) := by
  rw [Meaning_default h]
  by_cases hLR : L = [] ∧ R = []
  · simp [hLR.1, hLR.2]
  · rw [if_neg hLR]
    cases L <;> cases R <;> simp_all

theorem Meaning_assemble (b : Buckets) :
    (assemble b).Meaning items c = b.Meaning lineMatches regexMatches c := by
  rw [assemble, Meaning_layer_and h, Meaning_layer_or h, Meaning_layer_and h, Meaning_ordinary h,
    Buckets.Meaning]

end Lawful

section Buckets

variable {lineMatches regexMatches : List Char → σ → Bool}

theorem Buckets.Meaning_eq_Priority (b : Buckets) (hb : ¬(b.domain = [] ∧ b.domainRegex = []))
    (c : σ) : b.Meaning lineMatches regexMatches c = b.Priority lineMatches regexMatches c := by
  have hempty : (b.domain.isEmpty && b.domainRegex.isEmpty) = false := by
    simpa using hb
  simp only [Buckets.Meaning, Buckets.Priority, hempty, Bool.or_false]
  cases bucketMatches lineMatches regexMatches b.importantExcludeDomain
    b.importantExcludeDomainRegex c <;> simp [Bool.and_comm]

theorem Buckets.Meaning_of_empty (b : Buckets) (hb : b.domain = [] ∧ b.domainRegex = [])
    (c : σ) :
    b.Meaning lineMatches regexMatches c =
      (!bucketMatches lineMatches regexMatches b.importantExcludeDomain
          b.importantExcludeDomainRegex c &&
        (bucketMatches lineMatches regexMatches b.importantDomain b.importantDomainRegex c ||
          !bucketMatches lineMatches regexMatches b.excludeDomain b.excludeDomainRegex c)) := by
  simp [Buckets.Meaning, bucketMatches, hb.1, hb.2]

theorem Buckets.Meaning_recovered (b : Buckets)
    (hb : b.importantExcludeDomain = [] ∧ b.importantExcludeDomainRegex = []) (c : σ) :
    (recovered b).Meaning lineMatches regexMatches c =
      (b.Meaning lineMatches regexMatches c &&
        !bucketMatches lineMatches regexMatches b.excludeDomain b.excludeDomainRegex c) := by
  have hrec : recovered b = { b with
      importantExcludeDomain := b.excludeDomain
      importantExcludeDomainRegex := b.excludeDomainRegex
      excludeDomain := []
      excludeDomainRegex := [] } := by
    simp [recovered, hb.1, hb.2]
  rw [hrec]
  simp only [Buckets.Meaning, hb.1, hb.2, bucketMatches_nil, Bool.not_false, Bool.true_and]
  cases bucketMatches lineMatches regexMatches b.importantDomain b.importantDomainRegex c <;>
    cases bucketMatches lineMatches regexMatches b.excludeDomain b.excludeDomainRegex c <;> simp

end Buckets

section Building

variable (items : DomainItems σ)

theorem IsValid_of_NewHeadlessRule {r : HeadlessRule} {rule : Rule σ α}
    (h : NewHeadlessRule items r = .ok rule) : r.IsValid = true := by
  cases r with
  | default options => rfl
  | logical Mode Rules Invert =>
    simp only [NewHeadlessRule] at h
    split_ifs at h with hvalid
    simpa using hvalid

theorem NewHeadlessRule_pair (Mode : LogicalMode) {r r' : HeadlessRule} {rule rule' : Rule σ α}
    (h : NewHeadlessRule items r = .ok rule) (h' : NewHeadlessRule items r' = .ok rule') :
    NewHeadlessRule items (.logical Mode [r, r'] false) =
      .ok (.logical [rule, rule'] Mode false) := by
  have hvalid := IsValid_of_NewHeadlessRule items h
  have hvalid' := IsValid_of_NewHeadlessRule items h'
  simp [NewHeadlessRule, NewSubRules, HeadlessRule.IsValid, HeadlessRule.allValid, hvalid,
    hvalid', h, h', Except.map]

end Building

section BuildingLawful

variable {items : DomainItems σ} {lineMatches regexMatches : List Char → σ → Bool}
  (h : items.Lawful lineMatches regexMatches)
include h

theorem NewHeadlessRule_default_of_lawful (L R : List (List Char)) (Invert : Bool) :
    ∃ rule : Rule σ α,
      NewHeadlessRule items (.default { AdGuardDomain := L, DomainRegex := R, Invert }) =
        .ok rule := by
  have hdomain : domainItem items { AdGuardDomain := L, DomainRegex := R, Invert } =
      (.ok [] : Except String (List (RuleItem σ α))) := rfl
  obtain ⟨D, hregex⟩ : ∃ D : List (RuleItem σ α),
      domainRegexItem items { AdGuardDomain := L, DomainRegex := R, Invert } = .ok D := by
    unfold domainRegexItem
    split_ifs
    · simp [h.DomainRegex]
    · exact ⟨_, rfl⟩
  exact ⟨_, by simp only [NewHeadlessRule, NewDefaultHeadlessRule, hdomain, hregex]; rfl⟩

theorem NewHeadlessRule_layer (Mode : LogicalMode) (Invert : Bool) (L R : List (List Char))
    {currentRule : HeadlessRule} {rule : Rule σ α}
    (hcurrent : NewHeadlessRule items currentRule = .ok rule) :
    ∃ rule' : Rule σ α,
      NewHeadlessRule items (layer Mode Invert L R currentRule) = .ok rule' := by
  by_cases hLR : L = [] ∧ R = []
  · exact ⟨rule, by rw [layer_of_empty L R currentRule hLR, hcurrent]⟩
  · obtain ⟨first, hfirst⟩ := @NewHeadlessRule_default_of_lawful _ α _ _ _ h L R Invert
    rw [layer_of_ne L R currentRule Mode Invert hLR]
    exact ⟨_, NewHeadlessRule_pair items Mode hfirst hcurrent⟩

theorem Match_assemble (b : Buckets) :
    ∃ rule : Rule σ α, NewHeadlessRule items (assemble b) = .ok rule ∧
      ∀ m, rule.Match m = b.Meaning lineMatches regexMatches m.conn := by
  obtain ⟨base, hbase⟩ :=
    @NewHeadlessRule_default_of_lawful _ α _ _ _ h b.domain b.domainRegex false
  obtain ⟨rule₁, h₁⟩ :=
    NewHeadlessRule_layer h .and true b.excludeDomain b.excludeDomainRegex hbase
  obtain ⟨rule₂, h₂⟩ :=
    NewHeadlessRule_layer h .or false b.importantDomain b.importantDomainRegex h₁
  obtain ⟨rule, hrule⟩ := NewHeadlessRule_layer h .and true b.importantExcludeDomain
    b.importantExcludeDomainRegex h₂
  refine ⟨rule, hrule, fun m => ?_⟩
  rw [Match_of_NewHeadlessRule items hrule, ← assemble, Meaning_assemble h]

end BuildingLawful

/-! ### A list of one important line -/

theorem NewHeadlessRule_importantOnlyList (lib : Library)
    (hline : lib.IsDomainName importantOnlyList = false)
    (hafter : lib.SubstringAfter importantOnlyList "$".toList = "important".toList)
    (hbefore : lib.SubstringBefore importantOnlyList "$".toList = "||a.com^".toList)
    (hdomain : lib.IsDomainName "a.com".toList = true) (items : DomainItems σ) :
    ToOptions lib importantOnlyList = .ok [importantOnlyRule] ∧
      ∃ rule : Rule σ α, NewHeadlessRule items importantOnlyRule = .ok rule ∧
        ∀ m, rule.Match m = true := by
  refine ⟨ToOptions_importantOnlyList lib hline hafter hbefore hdomain, ?_⟩
  have hfirst : NewHeadlessRule items (.default { AdGuardDomain := ["||a.com^".toList] }) =
      .ok (.default (destinationGroups [.plain (items.AdGuardDomain ["||a.com^".toList])]) none
        false false : Rule σ α) := rfl
  have hempty : NewHeadlessRule items (.default {}) =
      .ok (.default (destinationGroups []) none false false : Rule σ α) := rfl
  refine ⟨_, NewHeadlessRule_pair items .or hfirst hempty, fun m => ?_⟩
  rw [Match_of_NewHeadlessRule items (NewHeadlessRule_pair items .or hfirst hempty),
    Meaning_or_pair]
  simp [HeadlessRule.Meaning, DefaultHeadlessRule.Meaning, DefaultHeadlessRule.hasItems]

/-- Matchers that match a list's own entries only. -/
def exactItems : DomainItems (List Char) where
  Domain domains c := domains.contains c
  DomainRegex _ := .ok fun _ => false
  AdGuardDomain ruleLines c := ruleLines.contains c

theorem NewHeadlessRule_importantOnlyList_ascii :
    (asciiLibrary.IsDomainName importantOnlyList = false ∧
      asciiLibrary.SubstringAfter importantOnlyList "$".toList = "important".toList ∧
      asciiLibrary.SubstringBefore importantOnlyList "$".toList = "||a.com^".toList ∧
      asciiLibrary.IsDomainName "a.com".toList = true) ∧
    ToOptions asciiLibrary importantOnlyList = .ok [importantOnlyRule] ∧
      ∃ rule : Rule (List Char) Unit, NewHeadlessRule exactItems importantOnlyRule = .ok rule ∧
        ∀ m, rule.Match m = true :=
  ⟨by decide, NewHeadlessRule_importantOnlyList asciiLibrary (by decide) (by decide) (by decide)
    (by decide) exactItems⟩

/-! ### A regular expression with an open bracket -/

/-- A list whose one line is a regular expression that `regexp.Compile` refuses converts,
and the rule it converts to does not build. -/
theorem NewHeadlessRule_unclosedRegexList (lib : Library)
    (hline : lib.IsDomainName unclosedRegexList = false)
    (hescaped : lib.SubstringBefore "[".toList "\\.".toList = "[".toList)
    (hdot : lib.SubstringBefore "[".toList ".".toList = "[".toList) (items : DomainItems σ)
    (err : String) (hcompile : items.DomainRegex ["[".toList] = .error err) :
    ToOptions lib unclosedRegexList = .ok [.default { DomainRegex := ["[".toList] }] ∧
      (NewHeadlessRule items (.default { DomainRegex := ["[".toList] }) :
        Except String (Rule σ α)) = .error ("domain_regex: " ++ err) := by
  refine ⟨ToOptions_unclosedRegexList lib hline hescaped hdot, ?_⟩
  have hregex : domainRegexItem items { DomainRegex := ["[".toList] } =
      (.error ("domain_regex: " ++ err) : Except String (List (RuleItem σ α))) := by
    rw [domainRegexItem, if_pos (by decide), hcompile]
  simp only [NewHeadlessRule, NewDefaultHeadlessRule, hregex]
  rfl

/-- `NewDomainRegexItem` over an expression compiler: the first expression that does not
compile fails the item, with its index. -/
def compiledItems (Compile : List Char → Except String (List Char → Bool)) :
    DomainItems (List Char) where
  Domain domains c := domains.contains c
  DomainRegex expressions :=
    (expressions.mapIdxM fun i regex =>
      match Compile regex with
      | .ok matcher => (.ok matcher : Except String (List Char → Bool))
      | .error err => .error ("parse expression " ++ toString i ++ ": " ++ err)).map
      fun (matchers : List (List Char → Bool)) c => matchers.any (· c)
  AdGuardDomain ruleLines c := ruleLines.contains c

/-- `regexp.Compile` on expressions with an open bracket, and on the others an expression
that matches nothing. -/
def bracketCompile (regex : List Char) : Except String (List Char → Bool) :=
  if regex.count '[' > regex.count ']' then
    .error ("error parsing regexp: missing closing ]: " ++ String.ofList regex)
  else .ok fun _ => false

theorem NewHeadlessRule_unclosedRegexList_ascii :
    (asciiLibrary.IsDomainName unclosedRegexList = false ∧
      asciiLibrary.SubstringBefore "[".toList "\\.".toList = "[".toList ∧
      asciiLibrary.SubstringBefore "[".toList ".".toList = "[".toList ∧
      (compiledItems bracketCompile).DomainRegex ["[".toList] =
        .error "parse expression 0: error parsing regexp: missing closing ]: [") ∧
    ToOptions asciiLibrary unclosedRegexList = .ok [.default { DomainRegex := ["[".toList] }] ∧
      (NewHeadlessRule (compiledItems bracketCompile) (.default { DomainRegex := ["[".toList] }) :
        Except String (Rule (List Char) Unit)) =
        .error ("domain_regex: " ++ "parse expression 0: error parsing regexp: missing closing ]: [") :=
  ⟨⟨by decide, by decide, by decide, rfl⟩,
    NewHeadlessRule_unclosedRegexList asciiLibrary (by decide) (by decide) (by decide)
      (compiledItems bracketCompile) _ rfl⟩

end AdGuard

end SingBox
