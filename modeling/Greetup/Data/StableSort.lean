import Mathlib.Data.List.Sort

/-!
Stability of sorting: elements none of which has to come before another one stay
in the order they came in. A list whose order is only wrong between two kinds of
elements is sorted by taking the one kind and then the other.
-/

namespace Greetup.Data

variable {α : Type} {r : α → α → Prop} [DecidableRel r]

theorem filter_insertionSort {p : α → Bool} (hties : ∀ a b, p a → p b → r a b) (l : List α) :
    (l.insertionSort r).filter p = l.filter p := by
  have hpairwise : (l.filter p).Pairwise r := by
    refine List.pairwise_of_forall_mem_list fun a ha b hb => ?_
    exact hties a b (List.mem_filter.mp ha).2 (List.mem_filter.mp hb).2
  have hsub : (l.filter p).Sublist ((l.insertionSort r).filter p) := by
    have hsorted := (List.sublist_insertionSort hpairwise List.filter_sublist).filter p
    simpa only [List.filter_filter, Bool.and_self] using hsorted
  exact (hsub.eq_of_length ((l.perm_insertionSort r).filter p).length_eq.symm).symm

theorem orderedInsert_append {a : α} {front : List α}
    (hfront : ∀ b ∈ front, ¬ r a b) (back : List α) :
    (front ++ back).orderedInsert r a = front ++ back.orderedInsert r a := by
  induction front with
  | nil => rfl
  | cons b front ih =>
      obtain ⟨hb, hfront⟩ := List.forall_mem_cons.mp hfront
      rw [List.cons_append, List.orderedInsert_cons, if_neg hb, ih hfront, List.cons_append]

theorem orderedInsert_of_forall {a : α} {l : List α} (h : ∀ b ∈ l, r a b) :
    l.orderedInsert r a = a :: l := by
  cases l with
  | nil => rfl
  | cons b l => exact List.orderedInsert_cons_of_le r l (h b List.mem_cons_self)

/-- Elements of the first kind go before the others, and each kind is in order
already. -/
theorem insertionSort_eq_partition {g : α → Bool} (hfirst : ∀ a b, g a → ¬ g b → r a b ∧ ¬ r b a)
    {l : List α} (hl : l.Pairwise fun a b => g a = g b → r a b) :
    l.insertionSort r = l.filter g ++ l.filter (!g ·) := by
  induction hl with
  | nil => rfl
  | @cons a l ha _ ih =>
      rw [List.insertionSort_cons, ih]
      by_cases hg : g a
      · rw [List.filter_cons_of_pos hg, List.filter_cons_of_neg (by simp [hg]), List.cons_append]
        refine orderedInsert_of_forall fun b hb => ?_
        rcases List.mem_append.mp hb with hb | hb
        · exact ha b (List.mem_of_mem_filter hb) (hg.trans (List.mem_filter.mp hb).2.symm)
        · exact (hfirst a b hg (by simpa using (List.mem_filter.mp hb).2)).1
      · rw [List.filter_cons_of_neg hg, List.filter_cons_of_pos (by simp [hg]),
          orderedInsert_append fun b hb => (hfirst b a (List.mem_filter.mp hb).2 hg).2]
        congr 1
        refine orderedInsert_of_forall fun b hb => ha b (List.mem_of_mem_filter hb) ?_
        have hb := (List.mem_filter.mp hb).2
        simp_all

end Greetup.Data
