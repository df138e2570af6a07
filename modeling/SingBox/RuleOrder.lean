import SingBox.RuleInvert

/-!
# The order of children

`route/rule/rule_abstract.go` and `rule_set_local.go` loop over the children of a logical
rule, the rules of a rule set and the rule sets of a rule-set item in list order. What they
compute does not depend on that order. `or`, rule sets and rule-set items merge their
children's states, so they see only which rules are present. `and` folds `combine`, which
is commutative and associative, and its early return on an empty child gives what the fold
would give, since the empty set annihilates `combine` (`Rule.matchAndStates_getD`).
-/

namespace SingBox

variable {σ α : Type}

open RuleMatchStateSet

namespace Rule

section Permuted

variable {rules rules' : List (Rule σ α)}

theorem foldl_combine_perm (h : rules.Perm rules') (f : Rule σ α → RuleMatchStateSet)
    (stateSet : RuleMatchStateSet) :
    rules.foldl (fun (stateSet : RuleMatchStateSet) r => stateSet.combine (f r)) stateSet =
      rules'.foldl (fun (stateSet : RuleMatchStateSet) r => stateSet.combine (f r)) stateSet :=
  h.foldl_eq' (fun x _ y _ z => combine_right_comm z (f x) (f y)) stateSet

theorem matchAndStates_perm (h : rules.Perm rules') (m : InboundContext σ α)
    (evaluationBase : RuleMatchState) (stateSet : RuleMatchStateSet) :
    matchAndStates rules m evaluationBase stateSet =
      matchAndStates rules' m evaluationBase stateSet := by
  have hsome : (matchAndStates rules m evaluationBase stateSet).isSome =
      (matchAndStates rules' m evaluationBase stateSet).isSome := by
    rw [matchAndStates_isSome, matchAndStates_isSome]
    exact h.all_eq
  have hget : (matchAndStates rules m evaluationBase stateSet).getD 0#16 =
      (matchAndStates rules' m evaluationBase stateSet).getD 0#16 := by
    rw [matchAndStates_getD, matchAndStates_getD, foldl_combine_perm h]
  cases hl : matchAndStates rules m evaluationBase stateSet <;>
    cases hr : matchAndStates rules' m evaluationBase stateSet <;> simp_all

theorem matchOrStates_perm (h : rules.Perm rules') (m : InboundContext σ α)
    (evaluationBase : RuleMatchState) (stateSet : RuleMatchStateSet) :
    matchOrStates rules m evaluationBase stateSet =
      matchOrStates rules' m evaluationBase stateSet := by
  ext x
  simp only [mem_matchOrStates, h.mem_iff]

theorem matchStatesWithBase_logical_perm (h : rules.Perm rules') (mode : LogicalMode)
    (invert : Bool) (m : InboundContext σ α) (base : RuleMatchState) :
    (logical rules mode invert).matchStatesWithBase m base =
      (logical rules' mode invert).matchStatesWithBase m base := by
  cases mode with
  | and => simp only [matchStatesWithBase, matchAndStates_perm h]
  | or => simp only [matchStatesWithBase, matchOrStates_perm h]

theorem matchRulesWithBase_perm (h : rules.Perm rules') (m : InboundContext σ α)
    (base : RuleMatchState) (stateSet : RuleMatchStateSet) :
    matchRulesWithBase rules m base stateSet = matchRulesWithBase rules' m base stateSet := by
  ext x
  simp only [mem_matchRulesWithBase, h.mem_iff]

end Permuted

theorem matchRuleSetsWithBase_forall₂_perm {setList setList' : List (List (Rule σ α))}
    (h : List.Forall₂ List.Perm setList setList') (m : InboundContext σ α)
    (base : RuleMatchState) (stateSet : RuleMatchStateSet) :
    matchRuleSetsWithBase setList m base stateSet =
      matchRuleSetsWithBase setList' m base stateSet := by
  induction h generalizing stateSet with
  | nil => rfl
  | cons hperm _ ih => simp only [matchRuleSetsWithBase, matchRulesWithBase_perm hperm, ih]

theorem matchRuleSetsWithBase_perm {setList setList' : List (List (Rule σ α))}
    (h : setList.Perm setList') (m : InboundContext σ α) (base : RuleMatchState)
    (stateSet : RuleMatchStateSet) :
    matchRuleSetsWithBase setList m base stateSet =
      matchRuleSetsWithBase setList' m base stateSet := by
  ext x
  simp only [mem_matchRuleSetsWithBase, h.mem_iff]

end Rule

/-- Permuting the children of a logical rule, the rules of a rule set, or the rule sets of a
rule-set item and the rules of each of them, leaves the states unchanged. -/
theorem Rule.matchStatesWithBase_perm :
    (∀ (rules rules' : List (Rule σ α)) (mode : LogicalMode) (invert : Bool),
      rules.Perm rules' → ∀ m base,
        (Rule.logical rules mode invert).matchStatesWithBase m base =
          (Rule.logical rules' mode invert).matchStatesWithBase m base) ∧
    (∀ rules rules' : List (Rule σ α), rules.Perm rules' → ∀ m base,
      Rule.matchRulesWithBase rules m base 0#16 = Rule.matchRulesWithBase rules' m base 0#16) ∧
    (∀ (setList setList₁ setList' : List (List (Rule σ α)))
      (ipCidrMatchSource ipCidrAcceptEmpty : Bool),
      List.Forall₂ List.Perm setList setList₁ → setList₁.Perm setList' → ∀ m base,
        RuleSetItem.matchStatesWithBase ⟨setList, ipCidrMatchSource, ipCidrAcceptEmpty⟩ m base =
          RuleSetItem.matchStatesWithBase ⟨setList', ipCidrMatchSource, ipCidrAcceptEmpty⟩ m
            base) := by
  refine ⟨fun rules rules' mode invert h m base =>
      Rule.matchStatesWithBase_logical_perm h mode invert m base,
    fun rules rules' h m base => Rule.matchRulesWithBase_perm h m base 0#16,
    fun setList setList₁ setList' _ _ hrules hsets m base => ?_⟩
  simp only [RuleSetItem.matchStatesWithBase]
  rw [Rule.matchRuleSetsWithBase_forall₂_perm hrules, Rule.matchRuleSetsWithBase_perm hsets]
  rfl

/-- The inverted port rule and an empty `or`, in both orders. -/
theorem matchStatesWithBase_perm_invertedPortRule :
    let rules : List (Rule Nat Nat) := [invertedPortRule, .logical [] .or false]
    let rules' : List (Rule Nat Nat) := [.logical [] .or false, invertedPortRule]
    rules.Perm rules' ∧
      (Rule.logical rules .and false).matchStatesWithBase port443Context 2#4 =
        (Rule.logical rules' .and false).matchStatesWithBase port443Context 2#4 ∧
      Rule.matchRulesWithBase rules port443Context 2#4 0#16 =
        Rule.matchRulesWithBase rules' port443Context 2#4 0#16 ∧
      RuleSetItem.matchStatesWithBase ⟨[rules, [invertedPortRule]], true, false⟩ port443Context
          2#4 =
        RuleSetItem.matchStatesWithBase ⟨[[invertedPortRule], rules'], true, false⟩
          port443Context 2#4 :=
  ⟨.swap _ _ _,
    Rule.matchStatesWithBase_perm.1 _ _ .and false (.swap _ _ _) port443Context 2#4,
    Rule.matchStatesWithBase_perm.2.1 _ _ (.swap _ _ _) port443Context 2#4,
    Rule.matchStatesWithBase_perm.2.2 _ [[.logical [] .or false, invertedPortRule],
      [invertedPortRule]] _ true false
      (.cons (.swap _ _ _) (.cons (.refl _) .nil)) (.swap _ _ _) port443Context 2#4⟩

end SingBox
