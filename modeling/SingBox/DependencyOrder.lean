import Mathlib.Data.Fintype.Card
import Mathlib.Data.Fintype.EquivFin
import Mathlib.Data.Fintype.Sets
import Mathlib.Data.List.Chain
import Mathlib.Logic.Relation
import Mathlib.Order.WellFounded

/-!
# Dependency orders

Elements with a key and a list of the keys they depend on, as a start-up sequence sees them.
A list is ordered over the keys already present when each element's dependencies are present
or are keys of elements before it. An ordered arrangement of a list shows that the list is
closed (every dependency is a key in it) and, when its keys are distinct, acyclic
(`closed_of_ordered`, `acyclic_of_ordered`). Conversely, in a closed acyclic list every set
of started keys that misses an element misses a ready one: an element whose dependencies are
all started (`exists_ready`). A chain of dependencies that returns to one of its keys is a
cycle (`transGen_of_isChain`).
-/

namespace DependencyOrder

variable {α β : Type} (key : α → β) (deps : α → List β)

/-- Each element's dependencies are among `present` and the keys of the elements before it. -/
def Ordered : List β → List α → Prop
  | _, [] => True
  | present, a :: as => (∀ d ∈ deps a, d ∈ present) ∧ Ordered (present ++ [key a]) as

/-- `x` depends on `y` in `L`: an element of `L` with key `x` lists `y`. -/
def DependsOn (L : List α) (x y : β) : Prop := ∃ a ∈ L, key a = x ∧ y ∈ deps a

/-- Every dependency of an element of `L` is the key of an element of `L`. -/
def Closed (L : List α) : Prop := ∀ a ∈ L, ∀ d ∈ deps a, d ∈ L.map key

/-- No key reaches itself along the dependencies of `L`. -/
def Acyclic (L : List α) : Prop := ∀ x, ¬ Relation.TransGen (DependsOn key deps L) x x

variable {key deps}

@[simp] theorem ordered_nil (present : List β) : Ordered key deps present [] := trivial

@[simp] theorem ordered_cons (present : List β) (a : α) (as : List α) :
    Ordered key deps present (a :: as) ↔
      (∀ d ∈ deps a, d ∈ present) ∧ Ordered key deps (present ++ [key a]) as := Iff.rfl

theorem ordered_append (present : List β) (l₁ l₂ : List α) :
    Ordered key deps present (l₁ ++ l₂) ↔
      Ordered key deps present l₁ ∧ Ordered key deps (present ++ l₁.map key) l₂ := by
  induction l₁ generalizing present with
  | nil => simp
  | cons a l₁ ih => simp [ih, and_assoc]

theorem mem_of_ordered {present : List β} {l : List α} (h : Ordered key deps present l) :
    ∀ a ∈ l, ∀ d ∈ deps a, d ∈ present ∨ d ∈ l.map key := by
  induction l generalizing present with
  | nil => simp
  | cons b l ih =>
    intro a ha d hd
    rcases List.mem_cons.mp ha with rfl | ha
    · exact .inl (h.1 d hd)
    · rcases ih h.2 a ha d hd with hd | hd
      · simp only [List.mem_append, List.mem_singleton] at hd
        rcases hd with hd | rfl
        · exact .inl hd
        · simp
      · simp [hd]

/-- In an ordered list with distinct keys, a dependency that is not present comes before
the element that lists it. -/
theorem idxOf_lt_of_ordered [BEq β] [LawfulBEq β] {present : List β} {l : List α}
    (h : Ordered key deps present l) (hkeys : (l.map key).Nodup) :
    ∀ a ∈ l, ∀ d ∈ deps a,
      d ∈ present ∨ (l.map key).idxOf d < (l.map key).idxOf (key a) := by
  induction l generalizing present with
  | nil => simp
  | cons b l ih =>
    intro a ha d hd
    have hfresh : key b ∉ l.map key := (List.nodup_cons.mp hkeys).1
    rcases List.mem_cons.mp ha with rfl | ha
    · exact .inl (h.1 d hd)
    · have hne : key b ≠ key a := fun heq => hfresh (heq ▸ List.mem_map_of_mem ha)
      have hpos : (key b :: l.map key).idxOf (key a) = (l.map key).idxOf (key a) + 1 := by
        simp [hne]
      rcases ih h.2 (List.nodup_cons.mp hkeys).2 a ha d hd with hd | hlt
      · simp only [List.mem_append, List.mem_singleton] at hd
        rcases hd with hd | rfl
        · exact .inl hd
        · right
          simp [hpos]
      · right
        rw [List.map_cons, hpos, List.idxOf_cons]
        cases key b == d <;> simp only [cond_true, cond_false] <;> omega

section Permuted

variable {l L : List α}

theorem closed_of_ordered (h : Ordered key deps [] l) (hperm : l.Perm L) :
    Closed key deps L := by
  intro a ha d hd
  rcases mem_of_ordered h a (hperm.mem_iff.mpr ha) d hd with hd | hd
  · cases hd
  · exact (hperm.map key).mem_iff.mp hd

theorem acyclic_of_ordered [DecidableEq β] (h : Ordered key deps [] l) (hperm : l.Perm L)
    (hkeys : (L.map key).Nodup) : Acyclic key deps L := by
  intro x hx
  have hedge : ∀ x y, DependsOn key deps L x y → (l.map key).idxOf y < (l.map key).idxOf x := by
    rintro x y ⟨a, ha, rfl, hy⟩
    have hl : (l.map key).Nodup := (hperm.map key).nodup_iff.mpr hkeys
    rcases idxOf_lt_of_ordered h hl a (hperm.mem_iff.mpr ha) y hy with hy | hlt
    · cases hy
    · exact hlt
  have hdesc : ∀ y, Relation.TransGen (DependsOn key deps L) x y →
      (l.map key).idxOf y < (l.map key).idxOf x := by
    intro y hxy
    induction hxy with
    | single hxy => exact hedge _ _ hxy
    | tail _ hyz ih => exact (hedge _ _ hyz).trans ih
  exact lt_irrefl _ (hdesc x hx)

end Permuted

/-- In a closed acyclic list, started keys that miss an element miss a ready one. The
element is minimal, in the finite set of unstarted keys, for the order "is a dependency
of", which acyclicity makes well founded. -/
theorem exists_ready {L : List α} (hclosed : Closed key deps L) (hacyclic : Acyclic key deps L)
    (started : List β) (hsome : ∃ a ∈ L, key a ∉ started) :
    ∃ a ∈ L, key a ∉ started ∧ ∀ d ∈ deps a, d ∈ started := by
  classical
  let lower : {x // x ∈ L.map key} → {x // x ∈ L.map key} → Prop :=
    fun y x => Relation.TransGen (DependsOn key deps L) x.1 y.1
  have : Std.Irrefl lower := ⟨fun x hx => hacyclic x.1 hx⟩
  have : IsTrans _ lower := ⟨fun _ _ _ hxy hyz => hyz.trans hxy⟩
  have hwf : WellFounded lower := Finite.wellFounded_of_trans_of_irrefl lower
  obtain ⟨a, ha, hstart⟩ := hsome
  obtain ⟨⟨x, hx⟩, hxs, hmin⟩ :=
    hwf.has_min {x | x.1 ∉ started} ⟨⟨key a, List.mem_map_of_mem ha⟩, hstart⟩
  obtain ⟨b, hb, rfl⟩ := List.mem_map.mp hx
  refine ⟨b, hb, hxs, fun d hd => ?_⟩
  by_contra hdn
  exact hmin ⟨d, hclosed b hb d hd⟩ hdn (.single ⟨b, hb, rfl, hd⟩)

/-- A chain that ends at one of its own elements closes a cycle. -/
theorem transGen_of_isChain {r : β → β → Prop} {tree : List β} {t : β}
    (hchain : (tree ++ [t]).IsChain r) (ht : t ∈ tree) : Relation.TransGen r t t := by
  obtain ⟨l₁, l₂, rfl⟩ := List.append_of_mem ht
  have hcycle : (t :: (l₂ ++ [t])).IsChain r := by
    simpa using (List.isChain_append.mp (by simpa using hchain)).2.1
  obtain ⟨b, rest, hrest⟩ := List.exists_cons_of_ne_nil
    (show l₂ ++ [t] ≠ [] by simp)
  rw [hrest, List.isChain_cons_cons] at hcycle
  have hlast : (b :: rest).getLast (List.cons_ne_nil _ _) = t := by
    simp [← hrest]
  exact .head' hcycle.1 (List.relationReflTransGen_of_exists_isChain_cons rest hcycle.2 hlast)

end DependencyOrder
