import Mathlib.Data.List.AList
import Mathlib.Algebra.Order.Ring.Nat

/-!
Association lists of numbers: the amount that stands under a key, and what all
the amounts come to.
-/

namespace Greetup.Data

variable {α : Type} [DecidableEq α]

abbrev Tally (α : Type) := AList fun _ : α => ℕ

/-- What is not there counts as nothing. -/
def Tally.amount (s : Tally α) (a : α) : ℕ := (s.lookup a).getD 0

def Tally.total (s : Tally α) : ℕ := (s.entries.map (·.2)).sum

@[simp] theorem Tally.amount_insert_self {s : Tally α} {a : α} {n : ℕ} :
    Tally.amount (s.insert a n) a = n := by
  rw [Tally.amount, AList.lookup_insert]
  rfl

theorem Tally.amount_insert_of_ne {s : Tally α} {a b : α} {n : ℕ} (h : b ≠ a) :
    Tally.amount (s.insert a n) b = s.amount b := by
  rw [Tally.amount, AList.lookup_insert_ne h]
  rfl

theorem sum_kerase (a : α) (l : List (Sigma fun _ : α => ℕ)) :
    ((l.kerase a).map (·.2)).sum + (l.dlookup a).getD 0 = (l.map (·.2)).sum := by
  induction l with
  | nil => rfl
  | cons e l ih =>
      by_cases h : a = e.1
      · subst h
        rw [List.kerase_cons_eq rfl, List.dlookup_cons_eq]
        simp only [Option.getD_some, List.map_cons, List.sum_cons]
        omega
      · rw [List.kerase_cons_ne h, List.dlookup_cons_ne _ _ h]
        simp only [List.map_cons, List.sum_cons]
        omega

theorem Tally.total_insert (s : Tally α) (a : α) (n : ℕ) :
    Tally.total (s.insert a n) + s.amount a = s.total + n := by
  have h := sum_kerase a s.entries
  simp only [Tally.total, Tally.amount, AList.lookup, AList.entries_insert, List.map_cons,
    List.sum_cons]
  omega

end Greetup.Data
