import Mathlib.Data.Nat.Notation
import Mathlib.Tactic.Common

/-!
Histories cut into epochs.

Some events of a history open a new epoch: a key is written anew, a window
begins, a lease is granted. A history lists its newest event first, and an
event belongs to the epoch that was open when it happened; the one that opens an
epoch belongs to it.
-/

namespace Greetup.Interleaving

variable {ε : Type} (opens : ε → Bool)

/-- The events of the `k`-th epoch. -/
def during (k : ℕ) : List ε → List ε
  | [] => []
  | e :: l => if (e :: l).countP opens = k then e :: during k l else during k l

/-- The events of the epoch that is open. -/
def current (l : List ε) : List ε := during opens (l.countP opens) l

variable {opens} {k m : ℕ} {e e' : ε} {l l' : List ε} {p : ε → Bool}

theorem during_cons : during opens k (e :: l) =
    if (e :: l).countP opens = k then e :: during opens k l else during opens k l :=
  rfl

theorem during_cons_of_eq (h : (e :: l).countP opens = k) :
    during opens k (e :: l) = e :: during opens k l :=
  if_pos h

theorem during_cons_of_ne (h : (e :: l).countP opens ≠ k) :
    during opens k (e :: l) = during opens k l :=
  if_neg h

theorem mem_during_cons :
    e' ∈ during opens k (e :: l) ↔ e' = e ∧ (e :: l).countP opens = k ∨ e' ∈ during opens k l := by
  rw [during_cons]
  split
  · rename_i hk
    rw [List.mem_cons, and_iff_left hk]
  · rename_i hk
    rw [iff_false_intro (fun h => hk h.2 : ¬ (e' = e ∧ _)), false_or]

theorem during_sublist : (during opens k l).Sublist l := by
  induction l with
  | nil => exact .slnil
  | cons e l ih =>
      rw [during_cons]
      split
      · exact ih.cons_cons e
      · exact ih.cons e

theorem during_subset : during opens k l ⊆ l := during_sublist.subset

/-- An epoch that has not been opened is empty. -/
theorem during_of_lt (h : l.countP opens < k) : during opens k l = [] := by
  induction l with
  | nil => rfl
  | cons e l ih =>
      rw [during_cons_of_ne (Nat.ne_of_lt h)]
      exact ih (Nat.lt_of_le_of_lt (by rw [List.countP_cons]; exact Nat.le_add_right _ _) h)

theorem current_cons_of_opens (h : opens e = true) : current opens (e :: l) = [e] := by
  rw [current, during_cons_of_eq rfl, List.countP_cons_of_pos h,
    during_of_lt (Nat.lt_succ_self _)]

theorem current_cons_of_not_opens (h : opens e = false) :
    current opens (e :: l) = e :: current opens l := by
  rw [current, during_cons_of_eq rfl, List.countP_cons_of_neg (by simp [h]), current]

/-- A bound for the epoch that is open is all that has to be shown anew. -/
theorem countP_during_cons_le (h : ∀ k, (during opens k l).countP p ≤ m)
    (hcurrent : (current opens (e :: l)).countP p ≤ m) (k : ℕ) :
    (during opens k (e :: l)).countP p ≤ m := by
  by_cases hk : (e :: l).countP opens = k
  · subst hk
    exact hcurrent
  · rw [during_cons_of_ne hk]
    exact h k

/-- An event that the bound is not about keeps it. -/
theorem countP_during_cons_of_false (h : ∀ k, (during opens k l).countP p ≤ m)
    (he : p e = false) (k : ℕ) : (during opens k (e :: l)).countP p ≤ m := by
  rw [during_cons]
  split
  · rw [List.countP_cons_of_neg (by simp [he])]
    exact h k
  · exact h k

end Greetup.Interleaving
