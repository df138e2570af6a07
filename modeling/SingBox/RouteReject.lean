import SingBox.LockStep
import Mathlib.Data.List.Pairwise

/-!
# The reject action and its flood counter

`RuleActionReject` of `route/rule/rule_action.go`, with its options as
`RejectActionOptions.UnmarshalJSON` of `option/rule_action.go` accepts them. `Error` answers a
`default` reject with a reset, unless the rule is flooded: it keeps the times of its calls of
the last 30 seconds, and when they are more than 50 it answers with a drop instead. Times are
nanoseconds of the monotonic clock.

What the counter implements is `floodDrop`: on any non-decreasing sequence of calls, a call is
dropped exactly when more than 50 calls, itself and the dropped ones included, fell within the
30 seconds up to it (`run_Error`).
-/

namespace SingBox

inductive RuleActionRejectMethod where
  | RuleActionRejectMethodDefault
  | RuleActionRejectMethodDrop
  | RuleActionRejectMethodReply
  deriving DecidableEq, Repr

open RuleActionRejectMethod

/-- `RejectActionOptions.UnmarshalJSON`, on the fields read. -/
def RejectActionOptions.parse (method : String) (noDrop : Bool) :
    Except String RuleActionRejectMethod := do
  let method ← match method with
    | "" | "default" => pure RuleActionRejectMethodDefault
    | "drop" => pure RuleActionRejectMethodDrop
    | "reply" => pure RuleActionRejectMethodReply
    | method => throw ("unknown reject method: " ++ method)
  if method = RuleActionRejectMethodDrop && noDrop then
    throw "no_drop is not available in current context"
  pure method

/-- `RejectedError` with `tun.ErrReset` or `tun.ErrDrop`. -/
inductive RejectedError where
  | ErrReset
  | ErrDrop
  deriving DecidableEq, Repr

open RejectedError

/-- `RuleActionReject`; `dropCounter` holds times. -/
structure RuleActionReject where
  Method : RuleActionRejectMethod
  NoDrop : Bool
  dropCounter : List Int
  deriving DecidableEq, Repr

/-- `30 * time.Second`. -/
def dropWindow : Int := 30000000000

/-- The times of a list that lie within the 30 seconds up to `timeNow`. -/
def recentCalls (times : List Int) (timeNow : Int) : List Int :=
  times.filter fun t => timeNow - t ≤ dropWindow

namespace RuleActionReject

/-- `Error` at `timeNow`; `reply` returns no error. -/
def Error (r : RuleActionReject) (timeNow : Int) : Option RejectedError × RuleActionReject :=
  match r.Method with
  | RuleActionRejectMethodDefault =>
    if r.NoDrop then (some ErrReset, r)
    else
      let dropCounter := recentCalls r.dropCounter timeNow ++ [timeNow]
      if dropCounter.length > 50 then (some ErrDrop, { r with dropCounter })
      else (some ErrReset, { r with dropCounter })
  | RuleActionRejectMethodDrop => (some ErrDrop, r)
  | RuleActionRejectMethodReply => (none, r)

end RuleActionReject

/-- What the counter is for: each call in turn, after the calls of `history`, is dropped when
more than 50 calls, itself included, fell within the 30 seconds up to it. -/
def floodDrop (history : List Int) : List Int → List (Option RejectedError)
  | [] => []
  | timeNow :: times =>
    some (if (recentCalls (history ++ [timeNow]) timeNow).length > 50 then ErrDrop else ErrReset) ::
      floodDrop (history ++ [timeNow]) times

theorem recentCalls_append (l l' : List Int) (timeNow : Int) :
    recentCalls (l ++ l') timeNow = recentCalls l timeNow ++ recentCalls l' timeNow :=
  List.filter_append ..

theorem recentCalls_recentCalls (l : List Int) {timeNow timeNow' : Int} (hle : timeNow ≤ timeNow') :
    recentCalls (recentCalls l timeNow) timeNow' = recentCalls l timeNow' := by
  simp only [recentCalls, List.filter_filter]
  apply List.filter_congr
  intro t _
  by_cases h : timeNow' - t ≤ dropWindow
  · have : timeNow - t ≤ dropWindow := by omega
    simp [h, this]
  · simp [h]

theorem recentCalls_self (timeNow : Int) : recentCalls [timeNow] timeNow = [timeNow] := by
  simp [recentCalls, dropWindow]

namespace RuleActionReject

/-- The counter agrees with the history of calls on every window from `timeNow` on. -/
def Tracks (r : RuleActionReject) (history : List Int) (timeNow : Int) : Prop :=
  ∀ timeNow', timeNow ≤ timeNow' → recentCalls r.dropCounter timeNow' = recentCalls history timeNow'

theorem Error_tracks {r : RuleActionReject} (hmethod : r.Method = RuleActionRejectMethodDefault)
    (hnoDrop : r.NoDrop = false) {history : List Int} {timeNow : Int}
    (htracks : Tracks r history timeNow) :
    (r.Error timeNow).1 =
      some (if (recentCalls (history ++ [timeNow]) timeNow).length > 50 then ErrDrop else ErrReset) ∧
    (r.Error timeNow).2.Method = RuleActionRejectMethodDefault ∧ (r.Error timeNow).2.NoDrop = false ∧
    Tracks (r.Error timeNow).2 (history ++ [timeNow]) timeNow := by
  have hcounter : recentCalls r.dropCounter timeNow ++ [timeNow] =
      recentCalls (history ++ [timeNow]) timeNow := by
    rw [htracks timeNow (Int.le_refl timeNow), recentCalls_append, recentCalls_self]
  have hnext : Tracks { r with dropCounter := recentCalls r.dropCounter timeNow ++ [timeNow] }
      (history ++ [timeNow]) timeNow := by
    intro timeNow' hle
    show recentCalls (recentCalls r.dropCounter timeNow ++ [timeNow]) timeNow' = _
    rw [recentCalls_append, recentCalls_recentCalls _ hle, htracks timeNow' hle, recentCalls_append]
  simp only [Error, hmethod, hnoDrop, Bool.false_eq_true, if_false]
  rw [hcounter] at hnext ⊢
  split_ifs <;> exact ⟨rfl, rfl, rfl, hnext⟩

theorem run_Error_of_tracks {r : RuleActionReject} (hmethod : r.Method = RuleActionRejectMethodDefault)
    (hnoDrop : r.NoDrop = false) {history times : List Int} {timeNow : Int}
    (htracks : Tracks r history timeNow) (htimes : (timeNow :: times).Pairwise (· ≤ ·)) :
    (LockStep.run Error r times).1 = floodDrop history times := by
  induction times generalizing r history timeNow with
  | nil => rfl
  | cons time times ih =>
    have hle : timeNow ≤ time := List.rel_of_pairwise_cons htimes (by simp)
    have htracks' : Tracks r history time := fun t ht => htracks t (Int.le_trans hle ht)
    obtain ⟨hout, hmethod', hnoDrop', htracks''⟩ := Error_tracks hmethod hnoDrop htracks'
    rw [LockStep.run_cons, floodDrop, hout, ih hmethod' hnoDrop' htracks'' (List.Pairwise.of_cons htimes)]

end RuleActionReject

open RuleActionReject in
/-- A `default` reject action without `no_drop`, called at non-decreasing times, answers each
call with a drop exactly when more than 50 calls, itself and the dropped ones included, fell
within the 30 seconds up to it, and with a reset otherwise. -/
theorem run_Error (times : List Int) (htimes : times.Pairwise (· ≤ ·)) :
    (LockStep.run Error ⟨RuleActionRejectMethodDefault, false, []⟩ times).1 = floodDrop [] times := by
  cases times with
  | nil => rfl
  | cons time times =>
    have htracks : Tracks ⟨RuleActionRejectMethodDefault, false, []⟩ [] time := fun _ _ => rfl
    have hfirst : ∀ t ∈ time :: times, time ≤ t := by
      intro t ht
      rcases List.mem_cons.mp ht with rfl | ht
      · exact Int.le_refl t
      · exact List.rel_of_pairwise_cons htimes ht
    exact run_Error_of_tracks rfl rfl htracks (List.Pairwise.cons hfirst htimes)

theorem run_Error_threeCalls :
    [0, 1, 2].Pairwise (· ≤ ·) ∧
      (LockStep.run RuleActionReject.Error ⟨RuleActionRejectMethodDefault, false, []⟩ [0, 1, 2]).1 =
        floodDrop [] [0, 1, 2] :=
  ⟨by decide, run_Error [0, 1, 2] (by decide)⟩

example :
    (LockStep.run RuleActionReject.Error ⟨RuleActionRejectMethodDefault, false, []⟩
      (List.replicate 51 0)).1.getLast? = some (some ErrDrop) := by
  decide

end SingBox
