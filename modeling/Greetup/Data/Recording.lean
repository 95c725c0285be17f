import Mathlib.Data.List.Infix
import Mathlib.Tactic.Common

/-!
Items that are collected until they are enough, and then taken together. What is
enough is up to a test on what was collected so far.
-/

namespace Greetup

variable {α : Type} {enough : List α → Bool}

/-- Not enough yet, and never before. -/
def Wanting (enough : List α → Bool) (g : List α) : Prop :=
  ∀ g', g' <+: g → g' ≠ [] → enough g' = false

/-- Enough, by its last item. -/
structure Filled (enough : List α → Bool) (g : List α) : Prop where
  full : enough g = true
  ne_nil : g ≠ []
  wanting : Wanting enough g.dropLast

/-- The items make the groups, one after the other, and the rest. -/
structure Recorded (enough : List α → Bool) (items : List α) (groups : List (List α))
    (rest : List α) : Prop where
  items : items = groups.flatten ++ rest
  filled : ∀ g ∈ groups, Filled enough g
  wanting : Wanting enough rest

theorem wanting_nil : Wanting enough [] :=
  fun _ hg' hne => absurd (List.prefix_nil.mp hg') hne

/-- One more item, which is not enough. -/
theorem Wanting.concat {g : List α} {a : α} (h : Wanting enough g)
    (hnot : enough (g ++ [a]) = false) : Wanting enough (g ++ [a]) := by
  intro g' hg' hne
  rcases List.prefix_concat_iff.mp hg' with rfl | hprefix
  · exact hnot
  · exact h g' hprefix hne

theorem Wanting.filled {g : List α} {a : α} (h : Wanting enough g)
    (hyes : enough (g ++ [a]) = true) : Filled enough (g ++ [a]) where
  full := hyes
  ne_nil := List.concat_ne_nil a g
  wanting := by rwa [List.dropLast_concat]

theorem Wanting.recorded {rest : List α} (h : Wanting enough rest) :
    Recorded enough rest [] rest where
  items := rfl
  filled _ hg := absurd hg List.not_mem_nil
  wanting := h

/-- What is recorded later is recorded after a group that was filled before. -/
theorem Recorded.after {items : List α} {groups : List (List α)} {g rest : List α}
    (hg : Filled enough g) (h : Recorded enough items groups rest) :
    Recorded enough (g ++ items) (g :: groups) rest where
  items := by rw [List.flatten_cons, List.append_assoc, ← h.items]
  filled := List.forall_mem_cons.mpr ⟨hg, h.filled⟩
  wanting := h.wanting

end Greetup
