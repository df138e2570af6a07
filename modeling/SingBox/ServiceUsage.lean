import Mathlib

/-!
# Claude usage accounting

`service/ccm/service_usage.go`. `AddUsageWithCycleHint` adds the counters of one response to
the combination of its model, context window and week, and to the user's entry there;
`calculateCost` prices a combination's totals with the pricing of the first model family
whose pattern matches. Cache writes are priced by their TTL split when the totals hold any
split tokens, and otherwise by the legacy counter at the five-minute price; the aggregation
fills the legacy counter of a response from its split counters when it reports none.

So a combination that sums responses reporting only the legacy counter and responses that
report the split counters is priced by the split formula alone, and the legacy responses'
cache writes are left out of its cost (`costBeforeRounding_mixedRecords`). Per combination
the aggregation keeps one combination per key (`Keyed.addUsageToCombinations`).

Prices are exact rationals and token counts are integers, without the rounding of
`float64` or the wrapping of `int64`. A model family's pattern is the regular expression's
alternatives: a literal prefix, followed by `-` or the end of the text when the alternative
ends in `(?:-|$)`. The week start is given: `deriveWeekStartUnix` reads the clock.
-/

namespace SingBox

namespace ServiceUsage

/-! ### Prices -/

structure ModelPricing where
  InputPrice : ℚ
  OutputPrice : ℚ
  CacheReadPrice : ℚ
  CacheWritePrice5Minute : ℚ
  CacheWritePrice1Hour : ℚ

def opus46StandardPricing : ModelPricing := ⟨5.0, 25.0, 0.5, 6.25, 10.0⟩
def opus46PremiumPricing : ModelPricing := ⟨10.0, 37.5, 1.0, 12.5, 20.0⟩
def opus45Pricing : ModelPricing := ⟨5.0, 25.0, 0.5, 6.25, 10.0⟩
def opus4Pricing : ModelPricing := ⟨15.0, 75.0, 1.5, 18.75, 30.0⟩
def sonnet46StandardPricing : ModelPricing := ⟨3.0, 15.0, 0.3, 3.75, 6.0⟩
def sonnet46PremiumPricing : ModelPricing := ⟨6.0, 22.5, 0.6, 7.5, 12.0⟩
def sonnet45StandardPricing : ModelPricing := ⟨3.0, 15.0, 0.3, 3.75, 6.0⟩
def sonnet45PremiumPricing : ModelPricing := ⟨6.0, 22.5, 0.6, 7.5, 12.0⟩
def sonnet4StandardPricing : ModelPricing := ⟨3.0, 15.0, 0.3, 3.75, 6.0⟩
def sonnet4PremiumPricing : ModelPricing := ⟨6.0, 22.5, 0.6, 7.5, 12.0⟩
def sonnet37Pricing : ModelPricing := ⟨3.0, 15.0, 0.3, 3.75, 6.0⟩
def sonnet35Pricing : ModelPricing := ⟨3.0, 15.0, 0.3, 3.75, 6.0⟩
def haiku45Pricing : ModelPricing := ⟨1.0, 5.0, 0.1, 1.25, 2.0⟩
def haiku4Pricing : ModelPricing := ⟨1.0, 5.0, 0.1, 1.25, 2.0⟩
def haiku35Pricing : ModelPricing := ⟨0.8, 4.0, 0.08, 1.0, 1.6⟩
def haiku3Pricing : ModelPricing := ⟨0.25, 1.25, 0.03, 0.3, 0.5⟩
def opus3Pricing : ModelPricing := ⟨15.0, 75.0, 1.5, 18.75, 30.0⟩

/-- One alternative of an anchored pattern: the literal text it starts with, and whether
`(?:-|$)` follows it. -/
structure Alternative where
  literal : String
  bounded : Bool

def Alternative.MatchString (alternative : Alternative) (s : String) : Bool :=
  let rest := s.drop alternative.literal.length
  s.startsWith alternative.literal &&
    (!alternative.bounded || rest.isEmpty || rest.startsWith "-")

structure modelFamily where
  pattern : List Alternative
  standardPricing : ModelPricing
  premiumPricing : Option ModelPricing

def modelFamily.MatchString (family : modelFamily) (model : String) : Bool :=
  family.pattern.any (·.MatchString model)

def modelFamilies : List modelFamily :=
  [⟨[⟨"claude-opus-4-6", true⟩], opus46StandardPricing, some opus46PremiumPricing⟩,
    ⟨[⟨"claude-opus-4-5", true⟩], opus45Pricing, none⟩,
    ⟨[⟨"claude-opus-4", true⟩, ⟨"claude-4-opus-", false⟩], opus4Pricing, none⟩,
    ⟨[⟨"claude-opus-3", true⟩, ⟨"claude-3-opus-", false⟩], opus3Pricing, none⟩,
    ⟨[⟨"claude-sonnet-4-6", true⟩, ⟨"claude-4-6-sonnet-", false⟩], sonnet46StandardPricing,
      some sonnet46PremiumPricing⟩,
    ⟨[⟨"claude-sonnet-4-5", true⟩, ⟨"claude-4-5-sonnet-", false⟩], sonnet45StandardPricing,
      some sonnet45PremiumPricing⟩,
    ⟨[⟨"claude-sonnet-4", true⟩, ⟨"claude-4-sonnet-", false⟩], sonnet4StandardPricing,
      some sonnet4PremiumPricing⟩,
    ⟨[⟨"claude-3-7-sonnet", true⟩], sonnet37Pricing, none⟩,
    ⟨[⟨"claude-3-5-sonnet", true⟩], sonnet35Pricing, none⟩,
    ⟨[⟨"claude-haiku-4-5", true⟩, ⟨"claude-4-5-haiku-", false⟩], haiku45Pricing, none⟩,
    ⟨[⟨"claude-haiku-4", true⟩], haiku4Pricing, none⟩,
    ⟨[⟨"claude-3-5-haiku", true⟩], haiku35Pricing, none⟩,
    ⟨[⟨"claude-3-haiku", true⟩], haiku3Pricing, none⟩]

def contextWindowPremium : Int := 1000000

def getPricing (model : String) (contextWindow : Int) : ModelPricing :=
  let isPremium := contextWindow ≥ contextWindowPremium
  match modelFamilies.find? (·.MatchString model) with
  | some family =>
    match family.premiumPricing with
    | some premiumPricing => if isPremium then premiumPricing else family.standardPricing
    | none => family.standardPricing
  | none => sonnet4StandardPricing

/-- Every pricing prices a five-minute cache write. -/
theorem getPricing_cacheWrite5Minute_pos (model : String) (contextWindow : Int) :
    0 < (getPricing model contextWindow).CacheWritePrice5Minute := by
  have hfamilies : ∀ family ∈ modelFamilies, 0 < family.standardPricing.CacheWritePrice5Minute ∧
      ∀ p, family.premiumPricing = some p → 0 < p.CacheWritePrice5Minute := by
    simp only [modelFamilies, List.mem_cons, List.not_mem_nil, or_false]
    rintro family (rfl | rfl | rfl | rfl | rfl | rfl | rfl | rfl | rfl | rfl | rfl | rfl | rfl) <;>
      refine ⟨?_, fun p hp => ?_⟩ <;> (try cases hp) <;>
      norm_num [opus46StandardPricing, opus46PremiumPricing, opus45Pricing, opus4Pricing,
        opus3Pricing, sonnet46StandardPricing, sonnet46PremiumPricing, sonnet45StandardPricing,
        sonnet45PremiumPricing, sonnet4StandardPricing, sonnet4PremiumPricing, sonnet37Pricing,
        sonnet35Pricing, haiku45Pricing, haiku4Pricing, haiku35Pricing, haiku3Pricing]
  simp only [getPricing]
  cases hfind : modelFamilies.find? (·.MatchString model) with
  | none => norm_num [sonnet4StandardPricing]
  | some family =>
    obtain ⟨hstandard, hpremium⟩ := hfamilies family (List.mem_of_find?_eq_some hfind)
    dsimp only
    cases hp : family.premiumPricing with
    | none => exact hstandard
    | some premiumPricing =>
      dsimp only
      split_ifs
      · exact hpremium premiumPricing hp
      · exact hstandard

/-! ### Counters and cost -/

structure UsageStats where
  RequestCount : Int := 0
  MessagesCount : Int := 0
  InputTokens : Int := 0
  OutputTokens : Int := 0
  CacheReadInputTokens : Int := 0
  CacheCreationInputTokens : Int := 0
  CacheCreation5MinuteInputTokens : Int := 0
  CacheCreation1HourInputTokens : Int := 0
deriving DecidableEq, Repr

/-- `calculateCost` before `math.Round(cost*100) / 100`. -/
def costBeforeRounding (stats : UsageStats) (model : String) (contextWindow : Int) : ℚ :=
  let pricing := getPricing model contextWindow
  let cacheCreationCost :=
    if stats.CacheCreation5MinuteInputTokens > 0 ∨ stats.CacheCreation1HourInputTokens > 0 then
      stats.CacheCreation5MinuteInputTokens * pricing.CacheWritePrice5Minute +
        stats.CacheCreation1HourInputTokens * pricing.CacheWritePrice1Hour
    else
      -- usage files written before the TTL split
      stats.CacheCreationInputTokens * pricing.CacheWritePrice5Minute
  (stats.InputTokens * pricing.InputPrice + stats.OutputTokens * pricing.OutputPrice +
    stats.CacheReadInputTokens * pricing.CacheReadPrice + cacheCreationCost) / 1000000

/-- `math.Round`: to the nearest integer, halves away from zero. -/
def Round (x : ℚ) : ℤ := if x < 0 then -round (-x) else round x

def roundCost (cost : ℚ) : ℚ := Round (cost * 100) / 100

def calculateCost (stats : UsageStats) (model : String) (contextWindow : Int) : ℚ :=
  roundCost (costBeforeRounding stats model contextWindow)

/-! ### Aggregation -/

/-- The counters of one `AddUsageWithCycleHint` call. -/
structure Usage where
  messagesCount : Int := 0
  inputTokens : Int := 0
  outputTokens : Int := 0
  cacheReadTokens : Int := 0
  cacheCreationTokens : Int := 0
  cacheCreation5MinuteTokens : Int := 0
  cacheCreation1HourTokens : Int := 0
  user : String := ""
deriving DecidableEq, Repr

/-- The block of `+=` in `addUsageToCombinations`, with the legacy counter already filled. -/
def UsageStats.addUsage (stats : UsageStats) (usage : Usage) (cacheCreationTokens : Int) :
    UsageStats where
  RequestCount := stats.RequestCount + 1
  MessagesCount := stats.MessagesCount + usage.messagesCount
  InputTokens := stats.InputTokens + usage.inputTokens
  OutputTokens := stats.OutputTokens + usage.outputTokens
  CacheReadInputTokens := stats.CacheReadInputTokens + usage.cacheReadTokens
  CacheCreationInputTokens := stats.CacheCreationInputTokens + cacheCreationTokens
  CacheCreation5MinuteInputTokens :=
    stats.CacheCreation5MinuteInputTokens + usage.cacheCreation5MinuteTokens
  CacheCreation1HourInputTokens :=
    stats.CacheCreation1HourInputTokens + usage.cacheCreation1HourTokens

/-- A combination; `ByUser` is the Go map read with its zero value. -/
structure CostCombination where
  Model : String
  ContextWindow : Int
  WeekStartUnix : Int
  Total : UsageStats
  ByUser : String → UsageStats

def CostCombination.key (combination : CostCombination) : String × Int × Int :=
  (combination.Model, combination.ContextWindow, combination.WeekStartUnix)

/-- The legacy counter of a call: its own, or the sum of its split counters when it is zero. -/
def Usage.cacheCreation (usage : Usage) : Int :=
  if usage.cacheCreationTokens = 0 then
    usage.cacheCreation5MinuteTokens + usage.cacheCreation1HourTokens
  else usage.cacheCreationTokens

/-- The counters of a combination after one call. -/
def CostCombination.addUsage (combination : CostCombination) (usage : Usage) :
    CostCombination :=
  { combination with
    Total := combination.Total.addUsage usage usage.cacheCreation
    ByUser :=
      if usage.user ≠ "" then
        Function.update combination.ByUser usage.user
          ((combination.ByUser usage.user).addUsage usage usage.cacheCreation)
      else combination.ByUser }

def addUsageToCombinations (combinations : List CostCombination) (model : String)
    (contextWindow weekStartUnix : Int) (usage : Usage) : List CostCombination :=
  match combinations.findIdx? (·.key = (model, contextWindow, weekStartUnix)) with
  | some index => combinations.modify index (·.addUsage usage)
  | none => combinations ++ [CostCombination.addUsage
      ⟨model, contextWindow, weekStartUnix, {}, fun _ => {}⟩ usage]

/-- `AddUsageWithCycleHint` on the combinations, at the week start its hint gives. -/
def AddUsageWithCycleHint (model : String) (contextWindow : Int) (usage : Usage)
    (weekStartUnix : Int) (combinations : List CostCombination) :
    Except String (List CostCombination) :=
  if model = "" then .error "model cannot be empty"
  else if contextWindow ≤ 0 then .error "contextWindow must be positive"
  else .ok (addUsageToCombinations combinations model contextWindow weekStartUnix usage)

/-- A sequence of calls for one model, context window and week. -/
def addUsages (model : String) (contextWindow weekStartUnix : Int) :
    List Usage → List CostCombination → Except String (List CostCombination)
  | [], combinations => .ok combinations
  | usage :: usages, combinations => do
    let combinations ← AddUsageWithCycleHint model contextWindow usage weekStartUnix combinations
    addUsages model contextWindow weekStartUnix usages combinations

/-! ### One combination per key -/

/-- No two combinations share a model, a context window and a week. -/
def Keyed (combinations : List CostCombination) : Prop :=
  (combinations.map CostCombination.key).Nodup

theorem key_addUsage (combination : CostCombination) (usage : Usage) :
    (combination.addUsage usage).key = combination.key := rfl

theorem map_key_modify (combinations : List CostCombination) (index : Nat) (usage : Usage) :
    (combinations.modify index (·.addUsage usage)).map CostCombination.key =
      combinations.map CostCombination.key := by
  induction combinations generalizing index with
  | nil => simp
  | cons c combinations ih =>
    cases index with
    | zero => simp [key_addUsage]
    | succ index => simp [ih]

theorem Keyed.addUsageToCombinations {combinations : List CostCombination}
    (h : Keyed combinations) (model : String) (contextWindow weekStartUnix : Int)
    (usage : Usage) :
    Keyed (addUsageToCombinations combinations model contextWindow weekStartUnix usage) := by
  unfold Keyed SingBox.ServiceUsage.addUsageToCombinations
  split
  · rw [map_key_modify]
    exact h
  · rename_i hnone
    rw [List.map_append, List.nodup_append]
    refine ⟨h, List.nodup_singleton _, ?_⟩
    intro k hk k' hk' heq
    obtain ⟨c, hc, rfl⟩ := List.mem_map.mp hk
    simp only [List.map_cons, List.map_nil, List.mem_singleton] at hk'
    have := List.findIdx?_eq_none_iff.mp hnone c hc
    simp only [decide_eq_false_iff_not] at this
    exact this (heq.trans hk')

/-! ### Mixed responses -/

/-- The totals of a combination that holds one call alone. -/
def Usage.stats (usage : Usage) : UsageStats :=
  ({} : UsageStats).addUsage usage usage.cacheCreation

/-- A response that reports only the legacy cache-write counter, then one that reports the
same tokens as five-minute writes, for one combination: the combination is priced by the
split formula, which leaves out the first response's cache writes, and costs less than the
two responses do apart. -/
theorem costBeforeRounding_mixedRecords (model : String) (contextWindow weekStartUnix : Int)
    (user : String) (n : Int) (hmodel : model ≠ "") (hwindow : 0 < contextWindow) (hn : 0 < n) :
    ∃ combination, addUsages model contextWindow weekStartUnix
        [{ cacheCreationTokens := n, user }, { cacheCreation5MinuteTokens := n, user }] [] =
        .ok [combination] ∧
      costBeforeRounding combination.Total model contextWindow <
        costBeforeRounding (Usage.stats { cacheCreationTokens := n, user }) model contextWindow +
          costBeforeRounding (Usage.stats { cacheCreation5MinuteTokens := n, user }) model
            contextWindow := by
  have hprice := getPricing_cacheWrite5Minute_pos model contextWindow
  have hn0 : n ≠ 0 := hn.ne'
  refine ⟨(CostCombination.addUsage ⟨model, contextWindow, weekStartUnix, {}, fun _ => {}⟩
    { cacheCreationTokens := n, user }).addUsage { cacheCreation5MinuteTokens := n, user },
    ?_, ?_⟩
  · simp [addUsages, AddUsageWithCycleHint, hmodel, not_le.mpr hwindow, bind, Except.bind,
      addUsageToCombinations, CostCombination.key, CostCombination.addUsage, List.findIdx?_cons]
  · simp [costBeforeRounding, Usage.stats, UsageStats.addUsage, CostCombination.addUsage,
      Usage.cacheCreation, hn0, hn]
    have hpos : 0 < (n : ℚ) * (getPricing model contextWindow).CacheWritePrice5Minute :=
      mul_pos (by exact_mod_cast hn) hprice
    linarith

theorem costBeforeRounding_mixedRecords_sonnet :
    "claude-sonnet-4-5" ≠ "" ∧ (0 : Int) < 200000 ∧ (0 : Int) < 1000 ∧
      ∃ combination, addUsages "claude-sonnet-4-5" 200000 0
          [{ cacheCreationTokens := 1000 }, { cacheCreation5MinuteTokens := 1000 }] [] =
          .ok [combination] ∧
        costBeforeRounding combination.Total "claude-sonnet-4-5" 200000 <
          costBeforeRounding (Usage.stats { cacheCreationTokens := 1000 }) "claude-sonnet-4-5"
              200000 +
            costBeforeRounding (Usage.stats { cacheCreation5MinuteTokens := 1000 })
              "claude-sonnet-4-5" 200000 :=
  ⟨by decide, by decide, by decide,
    costBeforeRounding_mixedRecords "claude-sonnet-4-5" 200000 0 "" 1000 (by decide) (by decide)
      (by decide)⟩

end ServiceUsage

end SingBox
