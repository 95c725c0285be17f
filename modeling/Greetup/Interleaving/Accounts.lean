import Greetup.Interleaving.Licence
import Mathlib.Tactic.Common

/-!
Counting what has happened in a run, and what every caller has settled by the
time that nothing is in progress.
-/

namespace Greetup.Interleaving

open Prog

/-- What is covered for each owner is covered for all. -/
theorem countP_le_of_each {ι β : Type} [DecidableEq ι] (owner : β → ι) {p q : β → Bool}
    (l : List β) (h : ∀ i, (l.filter (owner · = i)).countP p ≤ (l.filter (owner · = i)).countP q) :
    l.countP p ≤ l.countP q := by
  induction hn : l.length using Nat.strongRecOn generalizing l with
  | ind n ih =>
      cases l with
      | nil => exact Nat.le_refl _
      | cons b l =>
          -- what belongs to the owner of the first, and what belongs to others
          obtain ⟨rest, hrest⟩ :
              ∃ rest, rest = (b :: l).filter fun x => !decide (owner x = owner b) := ⟨_, rfl⟩
          have hlt : rest.length < n := by
            rw [← hn, hrest, List.filter_cons_of_neg (by simp), List.length_cons]
            exact Nat.lt_succ_of_le (List.length_filter_le _ _)
          have hothers : rest.countP p ≤ rest.countP q := by
            refine ih _ hlt rest (fun i => ?_) rfl
            rw [hrest, List.filter_filter]
            by_cases hi : i = owner b
            · have hnone : ((b :: l).filter fun x => decide (owner x = i) &&
                  !decide (owner x = owner b)) = [] := by
                rw [List.filter_eq_nil_iff]
                simp [hi]
              rw [hnone]
              exact Nat.le_refl _
            · have hsame : ((b :: l).filter fun x => decide (owner x = i) &&
                  !decide (owner x = owner b)) = (b :: l).filter (owner · = i) := by
                refine List.filter_congr fun x _ => ?_
                by_cases hx : owner x = i
                · simp [hx, hi]
                · simp [hx]
              rw [hsame]
              exact h i
          have hsplit (r : β → Bool) : (b :: l).countP r =
              ((b :: l).filter (owner · = owner b)).countP r + rest.countP r := by
            rw [hrest, List.countP_eq_countP_filter_add _ r (owner · = owner b)]
          rw [hsplit p, hsplit q]
          exact Nat.add_le_add (h (owner b)) hothers

/-- What is balanced for each owner is balanced for all. -/
theorem countP_eq_of_each {ι β : Type} [DecidableEq ι] (owner : β → ι) {p q : β → Bool}
    (l : List β) (h : ∀ i, (l.filter (owner · = i)).countP p = (l.filter (owner · = i)).countP q) :
    l.countP p = l.countP q :=
  Nat.le_antisymm (countP_le_of_each owner l fun i => Nat.le_of_eq (h i))
    (countP_le_of_each owner l fun i => Nat.le_of_eq (h i).symm)

variable {ι C : Type} {R : C → Type} {W α : Type}

/-- How many of the commands so far, with their replies, satisfy `P`. -/
def Scene.count (P : Told C R → Bool) (s : Scene ι C R W) : ℕ :=
  s.trace.countP fun e => P ⟨e.cmd, e.reply⟩

section Count

variable {P Q : Told C R → Bool} {s : Scene ι C R W} {i : ι} {c : C}
  {exec : (c : C) → W → R c × W}

theorem Scene.count_after : (s.after exec i c).count P =
    s.count P + if P ⟨c, (exec c s.world).1⟩ then 1 else 0 := by
  rw [count, after_trace, List.countP_cons]
  rfl

theorem Scene.count_after_of_false (h : P ⟨c, (exec c s.world).1⟩ = false) :
    (s.after exec i c).count P = s.count P := by
  rw [count_after, h]
  rfl

theorem Scene.count_after_of_true (h : P ⟨c, (exec c s.world).1⟩ = true) :
    (s.after exec i c).count P = s.count P + 1 := by
  rw [count_after, h]
  rfl

variable [DecidableEq ι]

theorem Scene.told_eq_map (i : ι) (s : Scene ι C R W) :
    s.told i = (s.trace.filter (·.tid = i)).map fun e => ⟨e.cmd, e.reply⟩ := by
  rw [told]
  generalize s.trace = l
  induction l with
  | nil => rfl
  | cons e l ih =>
      by_cases h : e.tid = i
      · rw [List.filterMap_cons, if_pos h, List.filter_cons_of_pos (by simpa using h),
          List.map_cons, ih]
      · rw [List.filterMap_cons, if_neg h, List.filter_cons_of_neg (by simpa using h), ih]

/-- What every caller covers for itself is covered. -/
theorem Scene.count_le_of_told (h : ∀ i, (s.told i).countP P ≤ (s.told i).countP Q) :
    s.count P ≤ s.count Q := by
  refine countP_le_of_each Event.tid s.trace fun i => ?_
  have hi := h i
  rw [told_eq_map, List.countP_map, List.countP_map] at hi
  exact hi

/-- What every caller balances for itself is balanced. -/
theorem Scene.countP_eq_of_told {P Q : ι → Told C R → Bool}
    (h : ∀ i, (s.told i).countP (P i) = (s.told i).countP (Q i)) :
    s.trace.countP (fun e => P e.tid ⟨e.cmd, e.reply⟩) =
      s.trace.countP fun e => Q e.tid ⟨e.cmd, e.reply⟩ := by
  refine countP_eq_of_each Event.tid s.trace fun i => ?_
  have hi := h i
  rw [told_eq_map, List.countP_map, List.countP_map] at hi
  have howner (S : ι → Told C R → Bool) :
      (s.trace.filter (·.tid = i)).countP (fun e => S e.tid ⟨e.cmd, e.reply⟩) =
        (s.trace.filter (·.tid = i)).countP (S i ∘ fun e => ⟨e.cmd, e.reply⟩) := by
    refine List.countP_congr fun e he => ?_
    rw [of_decide_eq_true (List.mem_filter.mp he).2]
    rfl
  rw [howner P, howner Q, hi]

theorem Scene.count_eq_of_told (h : ∀ i, (s.told i).countP P = (s.told i).countP Q) :
    s.count P = s.count Q :=
  countP_eq_of_told (P := fun _ => P) (Q := fun _ => Q) h

end Count

/-! ### At rest -/

/-- No call is in progress: every one has returned, or has done nothing yet. -/
def Conf.AtRest (conf : Conf ι C R α W) : Prop :=
  ∀ i, (∃ a, conf.threads i = .done a) ∨ ∀ e ∈ conf.scene.trace, e.tid ≠ i

theorem Conf.Licensed.told_of_atRest [DecidableEq ι] {exec : (c : C) → W → R c × W}
    {K : ι → List (Told C R) → C → Prop} {Q : ι → List (Told C R) → α → Prop}
    {conf : Conf ι C R α W} (h : conf.Licensed exec K Q) (hrest : conf.AtRest) (i : ι) :
    conf.scene.told i = [] ∨ ∃ a, Q i (conf.scene.told i) a := by
  rcases hrest i with ⟨a, ha⟩ | hnone
  · exact .inr ⟨a, h.result ha⟩
  · refine .inl (List.filterMap_eq_nil_iff.mpr fun e he => ?_)
    exact if_neg (hnone e he)

/-- Who has returned is told nothing more. -/
theorem Conf.told_of_done [DecidableEq ι] {exec : (c : C) → W → R c × W}
    {conf : Conf ι C R α W} {i : ι} {a : α} (h : conf.threads i = .done a) (sched : List ι) :
    (conf.runs exec sched).scene.told i = conf.scene.told i := by
  induction sched generalizing conf with
  | nil => rfl
  | cons j sched ih =>
      by_cases hij : j = i
      · subst hij
        rw [Conf.runs_cons, Conf.step_of_done exec h]
        exact ih h
      · cases hj : conf.threads j with
        | done b =>
            rw [Conf.runs_cons, Conf.step_of_done exec hj]
            exact ih h
        | call c k =>
            rw [Conf.runs_cons, Conf.step_of_call exec hj, ih]
            · exact Scene.told_after_of_ne exec hij
            · show Function.update _ j _ i = _
              rw [Function.update_of_ne (Ne.symm hij)]
              exact h

/-- Who has no turn is told nothing. -/
theorem Conf.told_of_notMem [DecidableEq ι] {exec : (c : C) → W → R c × W}
    {conf : Conf ι C R α W} {i : ι} {sched : List ι} (h : i ∉ sched) :
    (conf.runs exec sched).scene.told i = conf.scene.told i := by
  induction sched generalizing conf with
  | nil => rfl
  | cons j sched ih =>
      rw [List.mem_cons, not_or] at h
      obtain ⟨hij, hmem⟩ := h
      rw [Conf.runs_cons, ih hmem]
      cases hj : conf.threads j with
      | done b => rw [Conf.step_of_done exec hj]
      | call c k =>
          rw [Conf.step_of_call exec hj]
          exact Scene.told_after_of_ne exec (Ne.symm hij)

end Greetup.Interleaving
