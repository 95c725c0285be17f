import Mathlib.Data.List.Nodup
import Mathlib.Tactic.Common

/-!
The first element of every kind, in the order of the list: what a loop keeps
that has seen a set of keys.
-/

namespace Greetup.Data

variable {α κ : Type} [DecidableEq κ]

/-- The elements whose key no earlier one has. -/
def distinctBy (key : α → κ) (l : List α) : List α :=
  l.eraseDupsBy fun a b => key a = key b

variable {key : α → κ} {l : List α} {a b : α}

@[simp] theorem distinctBy_nil : distinctBy key [] = [] := rfl

theorem distinctBy_cons : distinctBy key (a :: l) =
    a :: distinctBy key (l.filter fun b => key b ≠ key a) := by
  rw [distinctBy, List.eraseDupsBy_cons, distinctBy]
  congr 2
  exact List.filter_congr fun b _ => by simp

variable (key) in
/-- An induction over what is left when the first of a kind is taken. -/
theorem distinctBy_induction {P : List α → Prop} (hnil : P [])
    (hcons : ∀ a l, P (l.filter fun b => key b ≠ key a) → P (a :: l)) (l : List α) : P l := by
  induction hn : l.length using Nat.strongRecOn generalizing l with
  | ind n ih =>
      cases l with
      | nil => exact hnil
      | cons a l =>
          refine hcons a l (ih _ ?_ _ rfl)
          rw [← hn, List.length_cons]
          exact Nat.lt_succ_of_le (List.length_filter_le _ _)

theorem distinctBy_sublist (l : List α) : (distinctBy key l).Sublist l := by
  induction l using distinctBy_induction key with
  | hnil => exact .slnil
  | hcons a l ih =>
      rw [distinctBy_cons]
      exact (ih.trans List.filter_sublist).cons_cons a

theorem nodup_map_distinctBy (l : List α) : ((distinctBy key l).map key).Nodup := by
  induction l using distinctBy_induction key with
  | hnil => exact List.nodup_nil
  | hcons a l ih =>
      rw [distinctBy_cons, List.map_cons, List.nodup_cons]
      refine ⟨fun hmem => ?_, ih⟩
      obtain ⟨b, hb, hkey⟩ := List.mem_map.mp hmem
      have hne := (List.mem_filter.mp ((distinctBy_sublist _).subset hb)).2
      exact of_decide_eq_true hne hkey

/-- What is kept is the first of its kind. -/
theorem mem_distinctBy : a ∈ distinctBy key l ↔ l.find? (key · = key a) = some a := by
  induction l using distinctBy_induction key with
  | hnil => simp
  | hcons b l ih =>
      rw [distinctBy_cons, List.mem_cons, List.find?_cons]
      by_cases hkey : key b = key a
      · rw [decide_eq_true hkey]
        constructor
        · rintro (rfl | hmem)
          · rfl
          · have hne := (List.mem_filter.mp ((distinctBy_sublist _).subset hmem)).2
            exact absurd hkey.symm (of_decide_eq_true hne)
        · intro heq
          exact .inl (Option.some.inj heq).symm
      · rw [decide_eq_false hkey]
        have hfind : (l.filter fun c => key c ≠ key b).find? (key · = key a) =
            l.find? (key · = key a) := by
          rw [List.find?_filter]
          congr 1
          funext c
          by_cases hc : key c = key a
          · simp [hc, Ne.symm hkey]
          · simp [hc]
        rw [ih, hfind]
        constructor
        · rintro (rfl | hmem)
          · exact absurd rfl hkey
          · exact hmem
        · exact .inr

/-- Every kind is there. -/
theorem exists_mem_distinctBy (ha : a ∈ l) : ∃ b ∈ distinctBy key l, key b = key a := by
  cases hfind : l.find? (key · = key a) with
  | none =>
      have hne := List.find?_eq_none.mp hfind a ha
      exact absurd (decide_eq_true rfl) hne
  | some b =>
      have hkey : key b = key a := by
        have h := List.find?_some (p := fun c => decide (key c = key a)) hfind
        exact of_decide_eq_true h
      refine ⟨b, mem_distinctBy.mpr ?_, hkey⟩
      rw [hkey]
      exact hfind

theorem length_distinctBy_le (l : List α) : (distinctBy key l).length ≤ l.length :=
  (distinctBy_sublist l).length_le

end Greetup.Data
