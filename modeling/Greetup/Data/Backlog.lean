import Mathlib.Algebra.Order.Floor.Div
import Mathlib.Data.Finset.Card
import Mathlib.Data.Finset.SDiff
import Mathlib.Order.Iterate

/-!
A backlog worked off in batches. Each round takes as many members of the
backlog as the limit allows, whichever it likes, and if they are gone from the
backlog afterwards then nobody waits longer than it takes to serve everybody
once.
-/

namespace Greetup.Data

variable {W K : Type} [DecidableEq K]

/-- What is taken in the first rounds. -/
def taken (take : W → List K) (step : W → W) : ℕ → W → List K
  | 0, _ => []
  | k + 1, w => take w ++ taken take step k (step w)

/-- Every round takes a full batch, and what it takes does not come back. -/
structure WorksOff (backlog : W → Finset K) (take : W → List K) (step : W → W) (limit : ℕ)
    (I : W → Prop) : Prop where
  keeps : ∀ w, I w → I (step w)
  nodup : ∀ w, (take w).Nodup
  subset : ∀ w, (take w).toFinset ⊆ backlog w
  length : ∀ w, (take w).length = min limit (backlog w).card
  gone : ∀ w, I w → backlog (step w) = backlog w \ (take w).toFinset

namespace WorksOff

variable {backlog : W → Finset K} {take : W → List K} {step : W → W} {limit : ℕ} {I : W → Prop}
  {w : W}

theorem card_step (h : WorksOff backlog take step limit I) (hw : I w) :
    (backlog (step w)).card = (backlog w).card - limit := by
  rw [h.gone w hw, Finset.card_sdiff_of_subset (h.subset w),
    List.toFinset_card_of_nodup (h.nodup w), h.length w]
  omega

/-- After `k` rounds the backlog is what has not been taken. -/
theorem backlog_iterate (h : WorksOff backlog take step limit I) (hw : I w) (k : ℕ) :
    backlog (step^[k] w) = backlog w \ (taken take step k w).toFinset := by
  induction k generalizing w with
  | zero => simp [taken]
  | succ k ih =>
      rw [Function.iterate_succ_apply, ih (h.keeps w hw), h.gone w hw, taken, List.toFinset_append,
        sdiff_sdiff]
      rfl

theorem card_iterate (h : WorksOff backlog take step limit I) (hw : I w) (k : ℕ) :
    (backlog (step^[k] w)).card = (backlog w).card - k * limit := by
  induction k generalizing w with
  | zero => simp
  | succ k ih =>
      rw [Function.iterate_succ_apply, ih (h.keeps w hw), h.card_step hw, Nat.succ_mul]
      omega

/-- Enough rounds for everybody serve everybody. -/
theorem mem_taken (h : WorksOff backlog take step limit I) (hw : I w) {k : ℕ}
    (hk : (backlog w).card ≤ k * limit) {a : K} (ha : a ∈ backlog w) :
    a ∈ taken take step k w := by
  have hempty : backlog (step^[k] w) = ∅ := by
    rw [← Finset.card_eq_zero, h.card_iterate hw]
    omega
  rw [h.backlog_iterate hw, Finset.sdiff_eq_empty_iff_subset] at hempty
  exact List.mem_toFinset.mp (hempty ha)

/-- What has been taken is not in the backlog any more. -/
theorem not_mem_backlog (h : WorksOff backlog take step limit I) (hw : I w) {k : ℕ} {a : K}
    (ha : a ∈ taken take step k w) : a ∉ backlog (step^[k] w) := by
  rw [h.backlog_iterate hw, Finset.mem_sdiff, List.mem_toFinset]
  exact fun hmem => hmem.2 ha

end WorksOff

end Greetup.Data
