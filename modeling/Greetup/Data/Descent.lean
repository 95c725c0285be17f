import Mathlib

/-!
Relations whose steps lower a rank. A chain of steps is no longer than the rank
of where it starts, and from everywhere a place is reached that has no step on.
-/

namespace Greetup.Data

open Relation

variable {α : Type} {r : α → α → Prop} {rank : α → ℕ} {a : α}

/-- Each step lowers the rank. -/
def Lowers (r : α → α → Prop) (rank : α → ℕ) : Prop := ∀ a b, r a b → rank b < rank a

namespace Lowers

theorem length_le (h : Lowers r rank) {visits : List α} (hvisits : (a :: visits).IsChain r) :
    visits.length ≤ rank a := by
  induction visits generalizing a with
  | nil => exact Nat.zero_le _
  | cons b visits ih =>
      have hboth := List.isChain_cons_cons.mp hvisits
      have hlt := h a b hboth.1
      have hle := ih hboth.2
      rw [List.length_cons]
      omega

theorem exists_end (h : Lowers r rank) (a : α) : ∃ b, ReflTransGen r a b ∧ ∀ c, ¬ r b c := by
  induction hrank : rank a using Nat.strong_induction_on generalizing a with
  | _ n ih =>
      by_cases hstep : ∃ b, r a b
      · obtain ⟨b, hstep⟩ := hstep
        obtain ⟨last, hreach, hlast⟩ := ih _ (hrank ▸ h a b hstep) b rfl
        exact ⟨last, .head hstep hreach, hlast⟩
      · exact ⟨a, .refl, not_exists.mp hstep⟩

end Lowers

end Greetup.Data
