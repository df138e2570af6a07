import Mathlib.Data.List.Perm.Basic
import Mathlib.Data.List.Forall2

/-!
# Fallible loops that fold what each element gives

A loop that asks each element of a list for a value in turn, folds the value into an
accumulator, and stops at the first element that fails, putting that element's position on its
error. Its success is the fold of all the values (`foldIndexed.eq_ok_iff`); its failure is the
first element's that fails, at its position (`foldIndexed.eq_error_iff`). Which of the two it
is, and the value, do not depend on the positions or on how errors are wrapped
(`foldIndexed.toOption_congr`), nor, when the fold may take its values in any order, on the
order of the list (`foldIndexed.perm`).
-/

variable {α β γ ε : Type}

/-- The loop from position `i` on, with accumulator `c`. -/
def foldIndexed (F : α → Except ε β) (wrap : Nat → ε → ε) (op : γ → β → γ) :
    List α → Nat → γ → Except ε γ
  | [], _, c => .ok c
  | a :: l, i, c =>
    match F a with
    | .error e => .error (wrap i e)
    | .ok b => foldIndexed F wrap op l (i + 1) (op c b)

namespace foldIndexed

variable {F : α → Except ε β} {wrap : Nat → ε → ε} {op : γ → β → γ}

@[simp] theorem nil (i : Nat) (c : γ) : foldIndexed F wrap op [] i c = .ok c := rfl

theorem cons_of_ok {a : α} {b : β} (h : F a = .ok b) (l : List α) (i : Nat) (c : γ) :
    foldIndexed F wrap op (a :: l) i c = foldIndexed F wrap op l (i + 1) (op c b) := by
  simp only [foldIndexed, h]

theorem cons_of_error {a : α} {e : ε} (h : F a = .error e) (l : List α) (i : Nat) (c : γ) :
    foldIndexed F wrap op (a :: l) i c = .error (wrap i e) := by
  simp only [foldIndexed, h]

/-- The loop succeeds exactly when every element gives a value, with the fold of the values. -/
theorem eq_ok_iff {l : List α} {i : Nat} {c c' : γ} :
    foldIndexed F wrap op l i c = .ok c' ↔
      ∃ bs, List.Forall₂ (fun a b => F a = .ok b) l bs ∧ bs.foldl op c = c' := by
  induction l generalizing i c with
  | nil => simp [eq_comm]
  | cons a l ih =>
    cases ha : F a with
    | error e =>
      simp only [cons_of_error ha, reduceCtorEq, false_iff, not_exists, not_and]
      intro bs hbs
      cases hbs with
      | cons hb _ => simp [ha] at hb
    | ok b =>
      rw [cons_of_ok ha, ih]
      constructor
      · rintro ⟨bs, hbs, rfl⟩
        exact ⟨b :: bs, .cons ha hbs, rfl⟩
      · rintro ⟨bs, hbs, rfl⟩
        cases hbs with
        | cons hb hbs =>
          rw [ha, Except.ok.injEq] at hb
          exact ⟨_, hbs, by rw [hb, List.foldl_cons]⟩

theorem isOk_iff {l : List α} {i : Nat} {c : γ} :
    (∃ c', foldIndexed F wrap op l i c = .ok c') ↔ ∀ a ∈ l, ∃ b, F a = .ok b := by
  simp only [eq_ok_iff]
  constructor
  · rintro ⟨_, bs, hbs, -⟩ a ha
    induction hbs with
    | nil => cases ha
    | @cons x b l bs hb _ ih =>
      rcases List.mem_cons.mp ha with rfl | ha
      · exact ⟨b, hb⟩
      · exact ih ha
  · intro h
    induction l generalizing c with
    | nil => exact ⟨c, [], .nil, rfl⟩
    | cons a l ih =>
      obtain ⟨b, hb⟩ := h a List.mem_cons_self
      obtain ⟨c', bs, hbs, hfold⟩ := ih (c := op c b) fun a' ha' => h a' (List.mem_cons_of_mem _ ha')
      exact ⟨c', b :: bs, .cons hb hbs, hfold⟩

theorem ok_of_mem {l : List α} {i : Nat} {c c' : γ} (h : foldIndexed F wrap op l i c = .ok c')
    {a : α} (ha : a ∈ l) : ∃ b, F a = .ok b := by
  induction l generalizing i c with
  | nil => cases ha
  | cons x l ih =>
    cases hx : F x with
    | error e => rw [cons_of_error hx] at h; cases h
    | ok b =>
      rw [cons_of_ok hx] at h
      rcases List.mem_cons.mp ha with rfl | ha
      · exact ⟨b, hx⟩
      · exact ih h ha

theorem congr {F' : α → Except ε β} {l : List α} (h : ∀ a ∈ l, F a = F' a) (i : Nat) (c : γ) :
    foldIndexed F wrap op l i c = foldIndexed F' wrap op l i c := by
  induction l generalizing i c with
  | nil => rfl
  | cons a l ih =>
    have hl : ∀ a' ∈ l, F a' = F' a' := fun a' ha' => h a' (List.mem_cons_of_mem _ ha')
    simp only [foldIndexed, h a List.mem_cons_self, ih hl]

theorem eq_foldl {g : α → β} {l : List α} {i : Nat} {c c' : γ}
    (hF : ∀ a ∈ l, ∀ b, F a = .ok b → b = g a) (h : foldIndexed F wrap op l i c = .ok c') :
    c' = l.foldl (fun c a => op c (g a)) c := by
  induction l generalizing i c with
  | nil => exact (Except.ok.inj h).symm
  | cons a l ih =>
    cases ha : F a with
    | error e => rw [cons_of_error ha] at h; cases h
    | ok b =>
      rw [cons_of_ok ha] at h
      rw [List.foldl_cons, ← hF a List.mem_cons_self b ha]
      exact ih (fun a' ha' => hF a' (List.mem_cons_of_mem _ ha')) h

theorem of_init (P : γ → Prop) (hkeep : ∀ c b, P c → P (op c b)) {l : List α} {i : Nat} {c c' : γ}
    (h0 : P c) (h : foldIndexed F wrap op l i c = .ok c') : P c' := by
  induction l generalizing i c with
  | nil => exact (Except.ok.inj h) ▸ h0
  | cons a l ih =>
    cases ha : F a with
    | error e => rw [cons_of_error ha] at h; cases h
    | ok b =>
      rw [cons_of_ok ha] at h
      exact ih (hkeep c b h0) h

theorem of_mem (P : γ → Prop) (hkeep : ∀ c b, P c → P (op c b)) {l : List α} {a : α}
    (hmem : a ∈ l) (ha : ∀ b, F a = .ok b → ∀ c, P (op c b)) {i : Nat} {c c' : γ}
    (h : foldIndexed F wrap op l i c = .ok c') : P c' := by
  induction l generalizing i c with
  | nil => cases hmem
  | cons x l ih =>
    cases hx : F x with
    | error e => rw [cons_of_error hx] at h; cases h
    | ok b =>
      rw [cons_of_ok hx] at h
      rcases List.mem_cons.mp hmem with rfl | hmem
      · exact of_init P hkeep (ha b hx c) h
      · exact ih hmem h

/-- The loop fails exactly at the first element that fails, with that element's error wrapped
at its position. -/
theorem eq_error_iff {l : List α} {i : Nat} {c : γ} {e : ε} :
    foldIndexed F wrap op l i c = .error e ↔
      ∃ before a after e₀, l = before ++ a :: after ∧ (∀ a' ∈ before, ∃ b, F a' = .ok b) ∧
        F a = .error e₀ ∧ e = wrap (i + before.length) e₀ := by
  induction l generalizing i c with
  | nil =>
    simp only [nil, reduceCtorEq, false_iff, not_exists, not_and]
    intro before a after _ h
    cases before <;> cases h
  | cons x l ih =>
    cases hx : F x with
    | error e' =>
      rw [cons_of_error hx, Except.error.injEq]
      constructor
      · rintro rfl
        exact ⟨[], x, l, e', rfl, nofun, hx, rfl⟩
      · rintro ⟨before, a, after, e₀, hl, hbefore, ha, rfl⟩
        cases before with
        | nil =>
          obtain ⟨rfl, -⟩ := List.cons.inj hl
          rw [hx, Except.error.injEq] at ha
          rw [ha]
          rfl
        | cons y before =>
          obtain ⟨rfl, -⟩ := List.cons.inj hl
          obtain ⟨b, hb⟩ := hbefore x List.mem_cons_self
          rw [hx] at hb
          cases hb
    | ok b =>
      rw [cons_of_ok hx, ih]
      constructor
      · rintro ⟨before, a, after, e₀, rfl, hbefore, ha, rfl⟩
        refine ⟨x :: before, a, after, e₀, rfl, ?_, ha, by simp [Nat.add_assoc, Nat.add_comm 1]⟩
        intro a' ha'
        rcases List.mem_cons.mp ha' with rfl | ha'
        · exact ⟨b, hx⟩
        · exact hbefore a' ha'
      · rintro ⟨before, a, after, e₀, hl, hbefore, ha, rfl⟩
        cases before with
        | nil =>
          obtain ⟨rfl, -⟩ := List.cons.inj hl
          rw [hx] at ha
          cases ha
        | cons y before =>
          obtain ⟨rfl, rfl⟩ := List.cons.inj hl
          refine ⟨before, a, after, e₀, rfl, fun a' ha' => hbefore a' (List.mem_cons_of_mem _ ha'),
            ha, by simp [Nat.add_assoc, Nat.add_comm 1]⟩

theorem error_of_forall (Q : ε → Prop) {l : List α} (hF : ∀ a ∈ l, ∀ e, F a = .error e → Q e)
    (hwrap : ∀ i e, Q e → Q (wrap i e)) {i : Nat} {c : γ} {e : ε}
    (h : foldIndexed F wrap op l i c = .error e) : Q e := by
  obtain ⟨before, a, after, e₀, rfl, -, ha, rfl⟩ := eq_error_iff.mp h
  exact hwrap _ _ (hF a (by simp) e₀ ha)

/-- Whether the loop succeeds, and with what, depends neither on the positions nor on how
errors are wrapped. -/
theorem toOption_congr (wrap' : Nat → ε → ε) (l : List α) (i j : Nat) (c : γ) :
    (foldIndexed F wrap op l i c).toOption = (foldIndexed F wrap' op l j c).toOption := by
  induction l generalizing i j c with
  | nil => rfl
  | cons a l ih =>
    cases ha : F a with
    | error e => simp only [cons_of_error ha, Except.toOption]
    | ok b => rw [cons_of_ok ha, cons_of_ok ha, ih]

/-- Where the fold may take its values in any order, the loop gives the same on any
permutation of the list. -/
theorem perm (hop : ∀ c b b', op (op c b) b' = op (op c b') b) {l l' : List α} (hl : l.Perm l')
    (i j : Nat) (c : γ) :
    (foldIndexed F wrap op l i c).toOption = (foldIndexed F wrap op l' j c).toOption := by
  induction hl generalizing i j c with
  | nil => rfl
  | cons a _ ih =>
    cases ha : F a with
    | error e => simp only [cons_of_error ha, Except.toOption]
    | ok b => rw [cons_of_ok ha, cons_of_ok ha, ih]
  | swap a a' l =>
    cases ha : F a with
    | error e =>
      cases ha' : F a' with
      | error e' => simp only [cons_of_error ha, cons_of_error ha', Except.toOption]
      | ok b' => simp only [cons_of_ok ha', cons_of_error ha, Except.toOption]
    | ok b =>
      cases ha' : F a' with
      | error e' => simp only [cons_of_ok ha, cons_of_error ha', Except.toOption]
      | ok b' =>
        rw [cons_of_ok ha', cons_of_ok ha, cons_of_ok ha, cons_of_ok ha', hop]
        exact toOption_congr wrap l _ _ _
  | trans _ _ ih₁ ih₂ => exact (ih₁ i j c).trans (ih₂ j j c)

end foldIndexed

theorem List.foldl_or_eq_any (g : α → Bool) (l : List α) (b : Bool) :
    l.foldl (fun c a => c || g a) b = (b || l.any g) := by
  induction l generalizing b with
  | nil => simp
  | cons a l ih => rw [List.foldl_cons, ih, List.any_cons, Bool.or_assoc]
