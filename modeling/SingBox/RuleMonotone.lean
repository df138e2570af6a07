import SingBox.RuleOrder

/-!
# The base of an evaluation

`matchStatesWithBase` hands every rule the groups that the rules around it have already
satisfied. Each state a rule yields contains that base, and a larger base only enlarges the
states: a state at a base, joined with a larger base, is a state at the larger base
(`Rule.matchStatesWithBase_baseMonotone`). So a branch that matches under fewer outer
groups still matches under more.

The proof is an induction over the rule tree with one lemma per kind of node. A default
rule joins the groups its items fill onto the base, which `baseState_eq_or` shows to be an
or with a set that does not depend on the base, and its filter only asks for groups to be
present. An inverted rule evaluates from no group and yields the base alone or nothing,
whatever the base. `and` folds `combine` from the base alone; `or`, rule sets and rule-set
items take unions.
-/

namespace SingBox

variable {σ α : Type}

open RuleMatchStateSet

/-- A function from base states to state sets that keeps its base in each of its states,
and that only grows with the base: a state at a base, joined with a larger base, is a
state at the larger base. -/
structure BaseMonotone (R : RuleMatchState → RuleMatchStateSet) : Prop where
  includes : ∀ base, ∀ s ∈ R base, base ||| s = s
  lifts : ∀ base base', base ||| base' = base' → ∀ s ∈ R base, s ||| base' ∈ R base'

namespace BaseMonotone

theorem single : BaseMonotone singleRuleMatchState where
  includes base s hs := by
    rw [mem_singleRuleMatchState] at hs
    subst hs
    exact BitVec.or_self
  lifts base base' h s hs := by
    rw [mem_singleRuleMatchState] at hs ⊢
    subst hs
    exact h

theorem zero : BaseMonotone fun _ => 0#16 where
  includes _ s hs := absurd hs (not_mem_zero s)
  lifts _ _ _ s hs := absurd hs (not_mem_zero s)

theorem ite (c : Prop) [Decidable c] {f g : RuleMatchState → RuleMatchStateSet}
    (hf : BaseMonotone f) (hg : BaseMonotone g) :
    BaseMonotone fun base => if c then f base else g base := by
  by_cases hc : c
  · simpa only [hc, if_true] using hf
  · simpa only [hc, if_false] using hg

theorem of_mem_iff {ι : Type} (P : ι → Prop) (f : ι → RuleMatchState → RuleMatchStateSet)
    (hf : ∀ i, P i → BaseMonotone (f i)) {R : RuleMatchState → RuleMatchStateSet}
    (hR : ∀ base x, x ∈ R base ↔ ∃ i, P i ∧ x ∈ f i base) : BaseMonotone R where
  includes base s hs := by
    obtain ⟨i, hi, hs⟩ := (hR base s).mp hs
    exact (hf i hi).includes base s hs
  lifts base base' h s hs := by
    obtain ⟨i, hi, hs⟩ := (hR base s).mp hs
    exact (hR base' _).mpr ⟨i, hi, (hf i hi).lifts base base' h s hs⟩

theorem combine {f g : RuleMatchState → RuleMatchStateSet} (hf : BaseMonotone f)
    (hg : BaseMonotone g) : BaseMonotone fun base => (f base).combine (g base) where
  includes base s hs := by
    obtain ⟨l, hl, r, hr, rfl⟩ := (mem_combine _ _ _).mp hs
    rw [← BitVec.or_assoc, hf.includes base l hl]
  lifts base base' h s hs := by
    obtain ⟨l, hl, r, hr, rfl⟩ := (mem_combine _ _ _).mp hs
    have hjoin : (l ||| r) ||| base' = (l ||| base') ||| (r ||| base') := by grind
    exact (mem_combine _ _ _).mpr
      ⟨_, hf.lifts base base' h l hl, _, hg.lifts base base' h r hr, hjoin⟩

theorem foldl_combine {β : Type} {f : β → RuleMatchState → RuleMatchStateSet} (l : List β)
    (hf : ∀ b ∈ l, BaseMonotone (f b)) {acc : RuleMatchState → RuleMatchStateSet}
    (hacc : BaseMonotone acc) :
    BaseMonotone fun base =>
      l.foldl (fun (stateSet : RuleMatchStateSet) b => stateSet.combine (f b base)) (acc base) := by
  induction l generalizing acc with
  | nil => exact hacc
  | cons b l ih =>
    exact ih (fun b' hb' => hf b' (List.mem_cons_of_mem b hb'))
      (hacc.combine (hf b List.mem_cons_self))

end BaseMonotone

/-! ### Default rules -/

namespace RuleItemGroups

variable (g : RuleItemGroups σ α) (m : InboundContext σ α)

/-- The grouped-item blocks only add groups: `baseState` is the base joined with the groups
they fill from no group. -/
theorem baseState_eq_or (evaluationBase : RuleMatchState) :
    g.baseState m evaluationBase = evaluationBase ||| g.baseState m 0#4 := by
  apply RuleMatchState.ext_has <;>
    simp only [baseState_has_sourceAddress, baseState_has_sourcePort,
      baseState_has_destinationAddress, baseState_has_destinationPort, RuleMatchState.has_or,
      RuleMatchState.zero_has, Bool.false_or]

theorem allows_or {s : RuleMatchState} (h : g.allows m s = true) (t : RuleMatchState) :
    g.allows m (s ||| t) = true := by
  rw [allows_eq_true] at h ⊢
  simp only [RuleMatchState.has_or, Bool.or_eq_true]
  obtain ⟨hsa, hsp, hda, hdp⟩ := h
  exact ⟨fun h => .inl (hsa h), fun h => .inl (hsp h), fun h => .inl (hda h),
    fun h => .inl (hdp h)⟩

variable {ruleSetItem : Option (RuleMatchState → RuleMatchStateSet)}

theorem matchStatesWithBase_true_eq (hne : (g.isEmpty && ruleSetItem.isNone) = false)
    (base : RuleMatchState) :
    g.matchStatesWithBase ruleSetItem true m base =
      if (g.matchStatesWithBase ruleSetItem true m 0#4).isEmpty then 0#16
      else singleRuleMatchState base := by
  simp only [matchStatesWithBase, hne, Bool.false_eq_true, if_false, if_true,
    invertedFailure_true, withBase_emptyRuleMatchState]
  split_ifs <;> simp_all [isEmpty_singleRuleMatchState]

theorem baseState_or_of_mem (hitem : ∀ f, ruleSetItem = some f → BaseMonotone f)
    {base s : RuleMatchState} (hs : s ∈ g.candidateStates ruleSetItem m (g.baseState m base)) :
    g.baseState m base ||| s = s := by
  rw [mem_candidateStates] at hs
  cases ruleSetItem with
  | none =>
    obtain ⟨rfl, -⟩ := hs
    exact BitVec.or_self
  | some f => exact (hitem f rfl).includes _ s hs.1

/-- Without `invert`, the candidate states at a base lift to those at a larger base. -/
theorem lift_mem_candidateStates (hitem : ∀ f, ruleSetItem = some f → BaseMonotone f)
    {base base' s : RuleMatchState} (h : base ||| base' = base')
    (hs : s ∈ g.candidateStates ruleSetItem m (g.baseState m base)) :
    s ||| base' ∈ g.candidateStates ruleSetItem m (g.baseState m base') := by
  have hincl := g.baseState_or_of_mem m hitem hs
  rw [mem_candidateStates] at hs ⊢
  refine ⟨?_, g.allows_or m hs.2 base'⟩
  rw [g.baseState_eq_or m base'] at ⊢
  rw [g.baseState_eq_or m base] at hincl hs
  cases ruleSetItem with
  | none =>
    obtain ⟨rfl, -⟩ := hs
    show (base ||| g.baseState m 0#4) ||| base' = base' ||| g.baseState m 0#4
    grind
  | some f =>
    have hB : (base ||| g.baseState m 0#4) ||| (base' ||| g.baseState m 0#4) =
        base' ||| g.baseState m 0#4 := by grind
    have hlift := (hitem f rfl).lifts _ _ hB s hs.1
    have hs' : s ||| (base' ||| g.baseState m 0#4) = s ||| base' := by grind
    rwa [hs'] at hlift

/-- A default rule is monotone in its base when its rule-set item is. -/
theorem baseMonotone_matchStatesWithBase (hitem : ∀ f, ruleSetItem = some f → BaseMonotone f)
    (invert : Bool) : BaseMonotone (g.matchStatesWithBase ruleSetItem invert m) := by
  cases hempty : (g.isEmpty && ruleSetItem.isNone) with
  | true =>
    have heq : g.matchStatesWithBase ruleSetItem invert m = singleRuleMatchState :=
      funext fun base => matchStatesWithBase_of_isEmpty g ruleSetItem invert m base hempty
    rw [heq]
    exact BaseMonotone.single
  | false =>
    cases invert with
    | true =>
      have heq : g.matchStatesWithBase ruleSetItem true m = fun base =>
          if (g.matchStatesWithBase ruleSetItem true m 0#4).isEmpty then 0#16
          else singleRuleMatchState base :=
        funext (g.matchStatesWithBase_true_eq m hempty)
      rw [heq]
      exact BaseMonotone.ite _ BaseMonotone.zero BaseMonotone.single
    | false =>
      refine ⟨fun base s hs => ?_, fun base base' h s hs => ?_⟩
      · rw [mem_matchStatesWithBase_false g ruleSetItem m base s hempty] at hs
        have hincl := g.baseState_or_of_mem m hitem hs.2
        rw [g.baseState_eq_or m base] at hincl
        grind
      · rw [mem_matchStatesWithBase_false g ruleSetItem m base s hempty] at hs
        rw [mem_matchStatesWithBase_false g ruleSetItem m base' _ hempty]
        exact ⟨hs.1, g.lift_mem_candidateStates m hitem h hs.2⟩

end RuleItemGroups

/-! ### Logical rules and rule sets -/

namespace Rule

variable {rules : List (Rule σ α)}

theorem baseMonotone_logical_and (hrules : ∀ r ∈ rules, ∀ m, BaseMonotone (r.matchStatesWithBase m))
    (invert : Bool) (m : InboundContext σ α) :
    BaseMonotone ((Rule.logical rules .and invert).matchStatesWithBase m) := by
  cases invert with
  | true =>
    have heq : (Rule.logical rules .and true).matchStatesWithBase m = fun base =>
        if (matchAndStates rules m 0#4 (emptyRuleMatchState.withBase 0#4)).isSome then 0#16
        else singleRuleMatchState base := by
      funext base
      simp only [matchStatesWithBase, if_true]
      cases matchAndStates rules m 0#4 (emptyRuleMatchState.withBase 0#4) <;> simp
    rw [heq]
    exact BaseMonotone.ite _ BaseMonotone.zero BaseMonotone.single
  | false =>
    have heq : (Rule.logical rules .and false).matchStatesWithBase m = fun base =>
        rules.foldl (fun (stateSet : RuleMatchStateSet) r =>
          stateSet.combine (r.matchStatesWithBase m.resetRuleCache base))
          (singleRuleMatchState base) := by
      funext base
      rw [← withBase_emptyRuleMatchState, ← matchAndStates_getD]
      simp only [matchStatesWithBase, Bool.false_eq_true, if_false]
      cases matchAndStates rules m base (emptyRuleMatchState.withBase base) <;> rfl
    rw [heq]
    exact BaseMonotone.foldl_combine rules (fun r hr => hrules r hr _) BaseMonotone.single

theorem baseMonotone_logical_or (hrules : ∀ r ∈ rules, ∀ m, BaseMonotone (r.matchStatesWithBase m))
    (invert : Bool) (m : InboundContext σ α) :
    BaseMonotone ((Rule.logical rules .or invert).matchStatesWithBase m) := by
  cases invert with
  | true =>
    have heq : (Rule.logical rules .or true).matchStatesWithBase m = fun base =>
        if (matchOrStates rules m 0#4 0#16).isEmpty then singleRuleMatchState base
        else 0#16 := by
      funext base
      simp [matchStatesWithBase]
    rw [heq]
    exact BaseMonotone.ite _ BaseMonotone.single BaseMonotone.zero
  | false =>
    refine BaseMonotone.of_mem_iff (fun r => r ∈ rules)
      (fun r => r.matchStatesWithBase m.resetRuleCache) (fun r hr => hrules r hr _) ?_
    intro base x
    have hunion : (Rule.logical rules .or false).matchStatesWithBase m base =
        matchOrStates rules m base 0#16 := by
      simp only [matchStatesWithBase, Bool.false_eq_true, if_false, invertedFailure_false]
      split_ifs with hempty
      · exact (beq_iff_eq.mp hempty).symm
      · rfl
    rw [hunion, mem_matchOrStates]
    simp

theorem baseMonotone_matchRulesWithBase
    (hrules : ∀ r ∈ rules, ∀ m, BaseMonotone (r.matchStatesWithBase m)) (m : InboundContext σ α) :
    BaseMonotone fun base => matchRulesWithBase rules m base 0#16 :=
  BaseMonotone.of_mem_iff (fun r => r ∈ rules)
    (fun r => r.matchStatesWithBase m.resetRuleMatchCache) (fun r hr => hrules r hr _)
    fun base x => by simp [mem_matchRulesWithBase]

theorem baseMonotone_matchRuleSetsWithBase {setList : List (List (Rule σ α))}
    (hsets : ∀ rules ∈ setList, ∀ r ∈ rules, ∀ m, BaseMonotone (r.matchStatesWithBase m))
    (m : InboundContext σ α) :
    BaseMonotone fun base => matchRuleSetsWithBase setList m base 0#16 :=
  BaseMonotone.of_mem_iff (fun r => ∃ rules ∈ setList, r ∈ rules)
    (fun r => r.matchStatesWithBase m.resetRuleMatchCache)
    (fun r ⟨rules, hrules, hr⟩ => hsets rules hrules r hr _)
    fun base x => by
      simp only [mem_matchRuleSetsWithBase, not_mem_zero, false_or]
      constructor
      · rintro ⟨rules, hrules, r, hr, hx⟩
        exact ⟨r, ⟨rules, hrules, hr⟩, hx⟩
      · rintro ⟨r, ⟨rules, hrules, hr⟩, hx⟩
        exact ⟨rules, hrules, r, hr, hx⟩

end Rule

/-! ### The induction over the rule tree -/

mutual

theorem Rule.baseMonotone : ∀ (r : Rule σ α) (m : InboundContext σ α),
    BaseMonotone (r.matchStatesWithBase m)
  | .default g none invert _, m =>
    g.baseMonotone_matchStatesWithBase m (fun _ h => by cases h) invert
  | .default g (some item) invert _, m =>
    g.baseMonotone_matchStatesWithBase m
      (fun _ h => by cases h; exact RuleSetItem.baseMonotone item m) invert
  | .logical rules .and invert, m =>
    Rule.baseMonotone_logical_and (Rule.baseMonotone_all rules) invert m
  | .logical rules .or invert, m =>
    Rule.baseMonotone_logical_or (Rule.baseMonotone_all rules) invert m

theorem Rule.baseMonotone_all : ∀ (rules : List (Rule σ α)),
    ∀ r ∈ rules, ∀ m, BaseMonotone (r.matchStatesWithBase m)
  | [], _, h, _ => absurd h List.not_mem_nil
  | rule :: _, _, .head _, m => Rule.baseMonotone rule m
  | _ :: rules, r, .tail _ h, m => Rule.baseMonotone_all rules r h m

theorem RuleSetItem.baseMonotone : ∀ (item : RuleSetItem (Rule σ α)) (m : InboundContext σ α),
    BaseMonotone (item.matchStatesWithBase m)
  | ⟨setList, _, _⟩, _ =>
    Rule.baseMonotone_matchRuleSetsWithBase (Rule.baseMonotone_sets setList) _

theorem Rule.baseMonotone_sets : ∀ (setList : List (List (Rule σ α))),
    ∀ rules ∈ setList, ∀ r ∈ rules, ∀ m, BaseMonotone (r.matchStatesWithBase m)
  | [], _, h, _, _, _ => absurd h List.not_mem_nil
  | rules :: _, _, .head _, r, hr, m => Rule.baseMonotone_all rules r hr m
  | _ :: setList, rules, .tail _ h, r, hr, m => Rule.baseMonotone_sets setList rules h r hr m

end

/-- Every state of a rule, of a rule set and of a rule-set item contains its base, and joined
with a larger base it is a state at that base. -/
theorem Rule.matchStatesWithBase_baseMonotone :
    (∀ (r : Rule σ α) m, BaseMonotone (r.matchStatesWithBase m)) ∧
    (∀ (rules : List (Rule σ α)) m,
      BaseMonotone fun base => Rule.matchRulesWithBase rules m base 0#16) ∧
    (∀ (item : RuleSetItem (Rule σ α)) m, BaseMonotone (item.matchStatesWithBase m)) :=
  ⟨Rule.baseMonotone,
    fun rules m => Rule.baseMonotone_matchRulesWithBase (Rule.baseMonotone_all rules) m,
    RuleSetItem.baseMonotone⟩

end SingBox
