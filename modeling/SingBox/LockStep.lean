import Mathlib.Data.List.Forall2

/-!
# Runs of a machine, and two machines in lock step

A machine takes a state and an input to an output and a new state; `run` feeds it a list of
inputs and collects the outputs. Two machines fed the same inputs run in lock step when a
relation between their states is kept by every admitted input and relates the two outputs
of each step (`forall₂_run`); a property every admitted input keeps holds at the end of
a run (`run_invariant`), and one every block of inputs keeps, at the end of a run of blocks
(`run_flatMap_invariant`). A machine whose step never changes its state answers each
input by a function of the input alone (`run_of_stateless`).
-/

namespace LockStep

variable {S T I O P : Type}

/-- The outputs of a run over a list of inputs, and the last state. -/
def run (step : S → I → O × S) : S → List I → List O × S
  | s, [] => ([], s)
  | s, i :: is =>
    let (o, s') := step s i
    let (os, s'') := run step s' is
    (o :: os, s'')

@[simp] theorem run_nil (step : S → I → O × S) (s : S) : run step s [] = ([], s) := rfl

@[simp] theorem run_cons (step : S → I → O × S) (s : S) (i : I) (is : List I) :
    run step s (i :: is) =
      ((step s i).1 :: (run step (step s i).2 is).1, (run step (step s i).2 is).2) := rfl

/-- Lock step: a relation between the states that every admitted input keeps, and under
which the two steps' outputs agree, makes the outputs of the two runs agree one by one. -/
theorem forall₂_run {step₁ : S → I → O × S} {step₂ : T → I → P × T} (R : S → T → Prop)
    (admitted : I → Prop) (agree : O → P → Prop)
    (hstep : ∀ s t i, R s t → admitted i →
      agree (step₁ s i).1 (step₂ t i).1 ∧ R (step₁ s i).2 (step₂ t i).2) :
    ∀ (is : List I) (s : S) (t : T), R s t → (∀ i ∈ is, admitted i) →
      List.Forall₂ agree (run step₁ s is).1 (run step₂ t is).1 := by
  intro is
  induction is with
  | nil => intro s t _ _; exact .nil
  | cons i is ih =>
    intro s t hR hadmitted
    obtain ⟨hagree, hR'⟩ := hstep s t i hR (hadmitted i (List.mem_cons_self ..))
    exact .cons hagree (ih _ _ hR' fun i' hi' => hadmitted i' (List.mem_cons_of_mem _ hi'))

/-- What every admitted input keeps holds of the last state of a run of admitted inputs. -/
theorem run_invariant {step : S → I → O × S} (P : S → Prop) (admitted : I → Prop)
    (hstep : ∀ s i, P s → admitted i → P (step s i).2) :
    ∀ (is : List I) (s : S), P s → (∀ i ∈ is, admitted i) → P (run step s is).2 := by
  intro is
  induction is with
  | nil => intro s hs _; exact hs
  | cons i is ih =>
    intro s hs hadmitted
    exact ih _ (hstep s i hs (hadmitted i (List.mem_cons_self ..)))
      fun i' hi' => hadmitted i' (List.mem_cons_of_mem _ hi')

theorem run_append_snd (step : S → I → O × S) (s : S) (is js : List I) :
    (run step s (is ++ js)).2 = (run step (run step s is).2 js).2 := by
  induction is generalizing s with
  | nil => rfl
  | cons i is ih => exact ih _

/-- Inputs that come in blocks, each block lowered from a task: what every block keeps holds
at the end of a run of blocks. -/
theorem run_flatMap_invariant {J : Type} {step : S → I → O × S} (P : S → Prop)
    (lower : J → List I) (htask : ∀ s j, P s → P (run step s (lower j)).2) :
    ∀ (js : List J) (s : S), P s → P (run step s (js.flatMap lower)).2 := by
  intro js
  induction js with
  | nil => intro s hs; exact hs
  | cons j js ih =>
    intro s hs
    rw [List.flatMap_cons, run_append_snd]
    exact ih _ (htask s j hs)

/-- A machine that keeps its state answers a run input by input. -/
theorem run_of_stateless {step : S → I → O × S} {s : S} (f : I → O)
    (hstep : ∀ i, step s i = (f i, s)) (is : List I) : run step s is = (is.map f, s) := by
  induction is with
  | nil => rfl
  | cons i is ih => simp [hstep, ih]

end LockStep
