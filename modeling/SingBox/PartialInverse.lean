import Mathlib.Logic.Function.Basic
import Mathlib.Data.Option.Basic

/-!
# Two partial maps that are inverse to each other

A table from keys to owners and the owners' own record of their key are kept in step when each
is the partial inverse of the other: `f a = some b` exactly when `g b = some a` (the condition
of Mathlib's `PEquiv`, for two maps held apart). Linking a free key to a free owner and
unlinking a linked pair keep it, and under it no two owners hold one key.
-/

variable {α β : Type}

def PartialInverse (f : α → Option β) (g : β → Option α) : Prop :=
  ∀ a b, f a = some b ↔ g b = some a

namespace PartialInverse

variable {f : α → Option β} {g : β → Option α}

theorem empty : PartialInverse (fun _ : α => (none : Option β)) (fun _ : β => (none : Option α)) := by
  intro a b
  simp

theorem symm (h : PartialInverse f g) : PartialInverse g f :=
  fun b a => (h a b).symm

theorem injective (h : PartialInverse f g) {a : α} {b₁ b₂ : β} (h₁ : g b₁ = some a)
    (h₂ : g b₂ = some a) : b₁ = b₂ := by
  have e₁ := (h a b₁).mpr h₁
  have e₂ := (h a b₂).mpr h₂
  exact Option.some_injective _ (e₁.symm.trans e₂)

theorem ne_some_of_eq_none (h : PartialInverse f g) {b : β} (hb : g b = none) (a : α) :
    f a ≠ some b := by
  simp [h a b, hb]

variable [DecidableEq α] [DecidableEq β]

theorem link (h : PartialInverse f g) {a : α} {b : β} (ha : f a = none) (hb : g b = none) :
    PartialInverse (Function.update f a (some b)) (Function.update g b (some a)) := by
  intro a' b'
  by_cases ha' : a' = a
  · subst ha'
    by_cases hb' : b' = b
    · simp [hb']
    · have : g b' ≠ some a' := fun h' => by simp [(h a' b').mpr h'] at ha
      simp [hb', Ne.symm hb', this]
  · by_cases hb' : b' = b
    · subst hb'
      have : f a' ≠ some b' := h.ne_some_of_eq_none hb a'
      simp [ha', Ne.symm ha', this]
    · simp [ha', hb', h a' b']

theorem unlink (h : PartialInverse f g) {a : α} {b : β} (hab : f a = some b) :
    PartialInverse (Function.update f a none) (Function.update g b none) := by
  have hba : g b = some a := (h a b).mp hab
  intro a' b'
  by_cases ha' : a' = a
  · subst ha'
    by_cases hb' : b' = b
    · simp [hb']
    · have : g b' ≠ some a' := fun h' => hb' (h.injective h' hba)
      simp [hb', this]
  · by_cases hb' : b' = b
    · subst hb'
      have : f a' ≠ some b' := fun h' => ha' (h.symm.injective h' hab)
      simp [ha', this]
    · simp [ha', hb', h a' b']

end PartialInverse
