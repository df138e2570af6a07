import Mathlib

/-!
# Match states of the rule engine

`route/rule/match_state.go`. A match state records which of the four address and
port groups an evaluation has already satisfied; a match-state set is a 16-bit mask
over those states. The operations below loop over the sixteen states exactly as the
Go code does. Their specification lemmas describe each result by membership, and
the rule evaluation proofs use only those lemmas.
-/

namespace SingBox

/-- `ruleMatchState`: one bit per group. Every state the engine builds is an or of
the four group constants, so four bits hold it. -/
abbrev RuleMatchState := BitVec 4

def ruleMatchSourceAddress : RuleMatchState := 1#4
def ruleMatchSourcePort : RuleMatchState := 2#4
def ruleMatchDestinationAddress : RuleMatchState := 4#4
def ruleMatchDestinationPort : RuleMatchState := 8#4

def RuleMatchState.has (s target : RuleMatchState) : Bool :=
  s &&& target != 0#4

namespace RuleMatchState

theorem has_or (s t target : RuleMatchState) :
    (s ||| t).has target = (s.has target || t.has target) := by
  apply Bool.eq_iff_iff.mpr
  simp only [has, BitVec.and_or_distrib_right, Bool.or_eq_true, bne_iff_ne, ne_eq,
    BitVec.or_eq_zero_iff]
  tauto

theorem has_ite_or (b : Bool) (s state target : RuleMatchState) :
    (if b = true then s ||| state else s).has target = (s.has target || (b && state.has target)) := by
  cases b <;> simp [has_or]

@[simp]
theorem zero_has (target : RuleMatchState) : RuleMatchState.has 0#4 target = false := by
  simp [has]

theorem ext_has {x y : RuleMatchState}
    (hsa : x.has ruleMatchSourceAddress = y.has ruleMatchSourceAddress)
    (hsp : x.has ruleMatchSourcePort = y.has ruleMatchSourcePort)
    (hda : x.has ruleMatchDestinationAddress = y.has ruleMatchDestinationAddress)
    (hdp : x.has ruleMatchDestinationPort = y.has ruleMatchDestinationPort) : x = y := by
  revert x y
  decide

end RuleMatchState

/-- `ruleMatchStateSet`: bit `i` is set when state `i` is in the set. -/
abbrev RuleMatchStateSet := BitVec 16

/-- The states `0, 1, ..., 15` in the order of `range ruleMatchState(16)`. -/
def allRuleMatchStates : List RuleMatchState :=
  (List.range 16).map (BitVec.ofNat 4)

def singleRuleMatchState (state : RuleMatchState) : RuleMatchStateSet :=
  1#16 <<< state.toNat

def emptyRuleMatchState : RuleMatchStateSet :=
  singleRuleMatchState 0#4

namespace RuleMatchStateSet

def isEmpty (s : RuleMatchStateSet) : Bool :=
  s == 0#16

def contains (s : RuleMatchStateSet) (state : RuleMatchState) : Bool :=
  s &&& (1#16 <<< state.toNat) != 0#16

def add (s : RuleMatchStateSet) (state : RuleMatchState) : RuleMatchStateSet :=
  s ||| singleRuleMatchState state

def merge (s other : RuleMatchStateSet) : RuleMatchStateSet :=
  s ||| other

def combine (s other : RuleMatchStateSet) : RuleMatchStateSet :=
  if s.isEmpty || other.isEmpty then 0#16
  else
    allRuleMatchStates.foldl (fun combined left =>
      if !s.contains left then combined
      else
        allRuleMatchStates.foldl (fun combined right =>
          if !other.contains right then combined
          else combined.add (left ||| right)) combined) 0#16

def withBase (s : RuleMatchStateSet) (base : RuleMatchState) : RuleMatchStateSet :=
  if s.isEmpty then 0#16
  else
    allRuleMatchStates.foldl (fun withBase state =>
      if !s.contains state then withBase
      else withBase.add (state ||| base)) 0#16

def filter (s : RuleMatchStateSet) (allowed : RuleMatchState → Bool) : RuleMatchStateSet :=
  allRuleMatchStates.foldl (fun filtered state =>
    if !s.contains state then filtered
    else if allowed state then filtered.add state
    else filtered) 0#16

instance : Membership RuleMatchState RuleMatchStateSet where
  mem s state := s.contains state = true

theorem mem_def (s : RuleMatchStateSet) (x : RuleMatchState) : x ∈ s ↔ s.contains x = true :=
  Iff.rfl

instance (x : RuleMatchState) (s : RuleMatchStateSet) : Decidable (x ∈ s) :=
  inferInstanceAs (Decidable (s.contains x = true))

theorem mem_allRuleMatchStates (x : RuleMatchState) : x ∈ allRuleMatchStates := by
  revert x
  decide

theorem contains_eq_getLsbD (s : RuleMatchStateSet) (x : RuleMatchState) :
    s.contains x = s.getLsbD x.toNat := by
  have hx : x.toNat < 16 := x.isLt
  have hpow : BitVec.twoPow 16 x.toNat ≠ 0#16 := by
    intro h
    have ht := congrArg BitVec.toNat h
    rw [BitVec.toNat_twoPow_of_lt hx] at ht
    simp at ht
  simp only [contains, ← BitVec.twoPow_eq, BitVec.and_twoPow]
  split <;> simp_all

theorem mem_iff_getLsbD (s : RuleMatchStateSet) (x : RuleMatchState) :
    x ∈ s ↔ s.getLsbD x.toNat = true := by
  rw [mem_def, contains_eq_getLsbD]

@[ext]
theorem ext {s t : RuleMatchStateSet} (h : ∀ x : RuleMatchState, x ∈ s ↔ x ∈ t) : s = t := by
  apply BitVec.eq_of_getLsbD_eq
  intro i hi
  have hx := h (BitVec.ofNat 4 i)
  have hi' : (BitVec.ofNat 4 i).toNat = i := by
    rw [BitVec.toNat_ofNat]
    exact Nat.mod_eq_of_lt hi
  rw [mem_iff_getLsbD, mem_iff_getLsbD, hi'] at hx
  exact Bool.eq_iff_iff.mpr hx

@[simp]
theorem not_mem_zero (x : RuleMatchState) : x ∉ (0#16 : RuleMatchStateSet) := by
  simp [mem_iff_getLsbD]

@[simp]
theorem mem_singleRuleMatchState (state x : RuleMatchState) :
    x ∈ singleRuleMatchState state ↔ x = state := by
  have hx : x.toNat < 16 := x.isLt
  have hs : state.toNat < 16 := state.isLt
  simp only [mem_iff_getLsbD, singleRuleMatchState, ← BitVec.twoPow_eq, BitVec.getLsbD_twoPow]
  simp [hs, eq_comm, BitVec.toNat_inj]

@[simp]
theorem mem_emptyRuleMatchState (x : RuleMatchState) : x ∈ emptyRuleMatchState ↔ x = 0#4 :=
  mem_singleRuleMatchState 0#4 x

theorem isEmpty_iff (s : RuleMatchStateSet) : s.isEmpty = true ↔ ∀ x : RuleMatchState, x ∉ s := by
  constructor
  · intro h x
    have hs : s = 0 := by simpa [isEmpty] using h
    simp [hs]
  · intro h
    have hs : s = 0 := by
      ext x
      simp [h x]
    simp [isEmpty, hs]

theorem isEmpty_eq_false_iff (s : RuleMatchStateSet) :
    s.isEmpty = false ↔ ∃ x : RuleMatchState, x ∈ s := by
  rw [← Bool.not_eq_true, isEmpty_iff]
  simp

@[simp]
theorem mem_add (s : RuleMatchStateSet) (state x : RuleMatchState) :
    x ∈ s.add state ↔ x ∈ s ∨ x = state := by
  rw [← mem_singleRuleMatchState state x]
  simp only [mem_iff_getLsbD, add, BitVec.getLsbD_or, Bool.or_eq_true]

@[simp]
theorem mem_merge (s t : RuleMatchStateSet) (x : RuleMatchState) :
    x ∈ s.merge t ↔ x ∈ s ∨ x ∈ t := by
  simp only [mem_iff_getLsbD, merge, BitVec.getLsbD_or, Bool.or_eq_true]

theorem mem_foldl {α : Type} (l : List α) (F : RuleMatchStateSet → α → RuleMatchStateSet)
    (Q : α → RuleMatchState → Prop) (hF : ∀ acc a x, x ∈ F acc a ↔ x ∈ acc ∨ Q a x)
    (acc : RuleMatchStateSet) (x : RuleMatchState) :
    x ∈ l.foldl F acc ↔ x ∈ acc ∨ ∃ a ∈ l, Q a x := by
  induction l generalizing acc with
  | nil => simp
  | cons a l ih =>
    rw [List.foldl_cons, ih, hF]
    simp only [List.mem_cons, exists_eq_or_imp]
    tauto

@[simp]
theorem mem_filter (s : RuleMatchStateSet) (allowed : RuleMatchState → Bool) (x : RuleMatchState) :
    x ∈ s.filter allowed ↔ x ∈ s ∧ allowed x = true := by
  rw [filter, mem_foldl allRuleMatchStates _ (fun state x => x = state ∧ state ∈ s ∧ allowed state)]
  · simp only [not_mem_zero, false_or]
    constructor
    · rintro ⟨state, -, rfl, hs, ha⟩
      exact ⟨hs, ha⟩
    · rintro ⟨hs, ha⟩
      exact ⟨x, mem_allRuleMatchStates x, rfl, hs, ha⟩
  · intro acc state x
    by_cases hs : state ∈ s
    · have hc : s.contains state = true := hs
      by_cases ha : allowed state = true
      · simp [hc, ha, hs]
      · simp [hc, ha, hs]
    · have hc : s.contains state = false := by simpa [mem_def] using hs
      simp [hc, hs]

@[simp]
theorem mem_withBase (s : RuleMatchStateSet) (base x : RuleMatchState) :
    x ∈ s.withBase base ↔ ∃ y ∈ s, x = y ||| base := by
  rw [withBase]
  split
  · rename_i he
    simp only [isEmpty_iff] at he
    simp [he]
  · rw [mem_foldl allRuleMatchStates _ (fun state x => state ∈ s ∧ x = state ||| base)]
    · simp only [not_mem_zero, false_or]
      constructor
      · rintro ⟨state, -, hs, rfl⟩
        exact ⟨state, hs, rfl⟩
      · rintro ⟨y, hy, rfl⟩
        exact ⟨y, mem_allRuleMatchStates y, hy, rfl⟩
    · intro acc state x
      by_cases hs : state ∈ s
      · have hc : s.contains state = true := hs
        simp [hc, hs]
      · have hc : s.contains state = false := by simpa [mem_def] using hs
        simp [hc, hs]

@[simp]
theorem mem_combine (s t : RuleMatchStateSet) (x : RuleMatchState) :
    x ∈ s.combine t ↔ ∃ l ∈ s, ∃ r ∈ t, x = l ||| r := by
  rw [combine]
  split
  · rename_i he
    simp only [Bool.or_eq_true, isEmpty_iff] at he
    rcases he with he | he <;> simp [he]
  · have inner : ∀ (left : RuleMatchState) (acc : RuleMatchStateSet) (x : RuleMatchState),
        x ∈ allRuleMatchStates.foldl (fun combined right =>
          if !t.contains right then combined else combined.add (left ||| right)) acc ↔
        x ∈ acc ∨ ∃ r ∈ t, x = left ||| r := by
      intro left acc x
      rw [mem_foldl allRuleMatchStates _ (fun right x => right ∈ t ∧ x = left ||| right)]
      · constructor
        · rintro (h | ⟨r, -, hr, rfl⟩)
          · exact Or.inl h
          · exact Or.inr ⟨r, hr, rfl⟩
        · rintro (h | ⟨r, hr, rfl⟩)
          · exact Or.inl h
          · exact Or.inr ⟨r, mem_allRuleMatchStates r, hr, rfl⟩
      · intro acc right x
        by_cases hr : right ∈ t
        · have hc : t.contains right = true := hr
          simp [hc, hr]
        · have hc : t.contains right = false := by simpa [mem_def] using hr
          simp [hc, hr]
    rw [mem_foldl allRuleMatchStates _ (fun left x => left ∈ s ∧ ∃ r ∈ t, x = left ||| r)]
    · simp only [not_mem_zero, false_or]
      constructor
      · rintro ⟨l, -, hl, hx⟩
        exact ⟨l, hl, hx⟩
      · rintro ⟨l, hl, hx⟩
        exact ⟨l, mem_allRuleMatchStates l, hl, hx⟩
    · intro acc left x
      by_cases hl : left ∈ s
      · have hc : s.contains left = true := hl
        simp only [hc, Bool.not_true, Bool.false_eq_true, if_false, inner, hl, true_and]
      · have hc : s.contains left = false := by simpa [mem_def] using hl
        simp [hc, hl]

theorem withBase_emptyRuleMatchState (base : RuleMatchState) :
    emptyRuleMatchState.withBase base = singleRuleMatchState base := by
  ext x
  simp

@[simp]
theorem isEmpty_zero : isEmpty 0#16 = true := rfl

theorem isEmpty_singleRuleMatchState (state : RuleMatchState) :
    (singleRuleMatchState state).isEmpty = false := by
  rw [isEmpty_eq_false_iff]
  exact ⟨state, by simp⟩

theorem isEmpty_merge (s t : RuleMatchStateSet) :
    (s.merge t).isEmpty = (s.isEmpty && t.isEmpty) := by
  apply Bool.eq_iff_iff.mpr
  simp only [isEmpty_iff, mem_merge, Bool.and_eq_true]
  constructor
  · intro h
    exact ⟨fun x hx => h x (Or.inl hx), fun x hx => h x (Or.inr hx)⟩
  · rintro ⟨hs, ht⟩ x (hx | hx)
    · exact hs x hx
    · exact ht x hx

theorem isEmpty_combine {s t : RuleMatchStateSet} (hs : s.isEmpty = false)
    (ht : t.isEmpty = false) : (s.combine t).isEmpty = false := by
  obtain ⟨l, hl⟩ := (isEmpty_eq_false_iff s).mp hs
  obtain ⟨r, hr⟩ := (isEmpty_eq_false_iff t).mp ht
  rw [isEmpty_eq_false_iff]
  exact ⟨l ||| r, by simpa using ⟨l, hl, r, hr, rfl⟩⟩

theorem isEmpty_filter_singleRuleMatchState (state : RuleMatchState)
    (allowed : RuleMatchState → Bool) :
    ((singleRuleMatchState state).filter allowed).isEmpty = !allowed state := by
  apply Bool.eq_iff_iff.mpr
  simp [isEmpty_iff]

/-! ### The algebra of merge and combine

`merge` is union and `combine` the set of pairwise joins; both are commutative and
associative, `combine` has the empty set as annihilator and `emptyRuleMatchState` (the set
of the state with no group) as unit. -/

theorem merge_comm (s t : RuleMatchStateSet) : s.merge t = t.merge s := by
  ext x
  simp only [mem_merge]
  exact or_comm

theorem merge_assoc (s t u : RuleMatchStateSet) :
    (s.merge t).merge u = s.merge (t.merge u) := by
  ext x
  simp only [mem_merge]
  exact or_assoc

theorem combine_of_isEmpty (s : RuleMatchStateSet) {t : RuleMatchStateSet}
    (ht : t.isEmpty = true) : s.combine t = 0#16 := by
  simp [combine, ht]

@[simp]
theorem zero_combine (t : RuleMatchStateSet) : combine 0#16 t = 0#16 := by
  simp [combine]

theorem combine_comm (s t : RuleMatchStateSet) : s.combine t = t.combine s := by
  ext x
  simp only [mem_combine]
  constructor <;>
  · rintro ⟨l, hl, r, hr, rfl⟩
    exact ⟨r, hr, l, hl, BitVec.or_comm _ _⟩

theorem combine_assoc (s t u : RuleMatchStateSet) :
    (s.combine t).combine u = s.combine (t.combine u) := by
  ext x
  simp only [mem_combine]
  constructor
  · rintro ⟨_, ⟨l, hl, r, hr, rfl⟩, r', hr', rfl⟩
    exact ⟨l, hl, r ||| r', ⟨r, hr, r', hr', rfl⟩, BitVec.or_assoc _ _ _⟩
  · rintro ⟨l, hl, _, ⟨r, hr, r', hr', rfl⟩, rfl⟩
    exact ⟨l ||| r, ⟨l, hl, r, hr, rfl⟩, r', hr', (BitVec.or_assoc _ _ _).symm⟩

theorem combine_right_comm (s t u : RuleMatchStateSet) :
    (s.combine t).combine u = (s.combine u).combine t := by
  rw [combine_assoc, combine_comm t u, ← combine_assoc]

theorem emptyRuleMatchState_combine (t : RuleMatchStateSet) :
    emptyRuleMatchState.combine t = t := by
  ext x
  simp only [mem_combine, mem_emptyRuleMatchState]
  constructor
  · rintro ⟨_, rfl, r, hr, rfl⟩
    simpa using hr
  · intro hx
    exact ⟨0#4, rfl, x, hx, by simp⟩

end RuleMatchStateSet

end SingBox
