import Greetup.Interleaving.Together

/-!
What a program owes.

Some replies oblige their caller to a command: who is told that a row is new has
to announce it. A debt is incurred by a reply and paid by a command; programs
that are awaited together owe what each of them owes.
-/

namespace Greetup.Interleaving

variable {ι C : Type} {R : C → Type} {W α β : Type}

namespace Prog

section Owes

variable (exec : (c : C) → W → R c × W) (incurs : Told C R → Bool) (pays : C → Bool)

/-- The program, which owes `n`, pays only what it owes, and ends with nothing
owed; each reply is that of some store. -/
def Owes : Prog C R α → ℕ → Prop
  | .done _, n => n = 0
  | .call c k, n =>
      (pays c).toNat ≤ n ∧ ∀ w, (k (exec c w).1).Owes
        (n - (pays c).toNat + (incurs ⟨c, (exec c w).1⟩).toNat)

variable {exec incurs pays} {m n : ℕ} {p : Prog C R α}

/-- What comes after a program may owe as well. -/
theorem Owes.bind_add {f : α → Prog C R β} (hp : p.Owes exec incurs pays n)
    (hf : ∀ a, (f a).Owes exec incurs pays m) : (p >>= f).Owes exec incurs pays (n + m) := by
  induction p generalizing n with
  | done a =>
      obtain rfl : n = 0 := hp
      rw [Nat.zero_add]
      exact hf a
  | call c k ih =>
      refine ⟨Nat.le_trans hp.1 (Nat.le_add_right n m), fun w => ?_⟩
      rw [Nat.sub_add_comm hp.1, Nat.add_right_comm]
      exact ih _ (hp.2 w)

theorem Owes.bind {f : α → Prog C R β} (hp : p.Owes exec incurs pays n)
    (hf : ∀ a, (f a).Owes exec incurs pays 0) : (p >>= f).Owes exec incurs pays n :=
  hp.bind_add hf

theorem Owes.map (hp : p.Owes exec incurs pays n) (f : α → β) :
    (f <$> p).Owes exec incurs pays n :=
  hp.bind fun _ => rfl

/-- A command that has nothing to do with debts. -/
theorem Owes.call_of_none {c : C} {k : R c → Prog C R α} (hpays : pays c = false)
    (hincurs : ∀ r, incurs ⟨c, r⟩ = false) (hk : ∀ w, (k (exec c w).1).Owes exec incurs pays n) :
    (Prog.call c k).Owes exec incurs pays n := by
  refine ⟨?_, fun w => ?_⟩
  · rw [hpays]
    exact Nat.zero_le n
  · rw [hpays, hincurs]
    exact hk w

theorem Uses.owes_zero (hp : p.Uses fun c => pays c = false ∧ ∀ r, incurs ⟨c, r⟩ = false) :
    p.Owes exec incurs pays 0 := by
  induction p with
  | done a => rfl
  | call c k ih => exact .call_of_none hp.1.1 hp.1.2 fun w => ih _ (hp.2 _)

variable {ns : List ℕ} {ps : List (Prog C R β)}

theorem owes_inTurn (hps : List.Forall₂ (fun n p => p.Owes exec incurs pays n) ns ps) :
    (inTurn ps).Owes exec incurs pays ns.sum := by
  induction hps with
  | nil => rfl
  | cons hp _ ih =>
      rw [List.sum_cons]
      exact hp.bind_add fun b => ih.bind fun bs => rfl

/-- One of them issues its next command. -/
theorem owes_move (hps : List.Forall₂ (fun n p => p.Owes exec incurs pays n) ns ps) {i : ℕ} {c : C}
    {k : R c → Prog C R β} (hi : ps[i]? = some (.call c k)) :
    (pays c).toNat ≤ ns.sum ∧ ∀ w, ∃ ns',
      ns'.sum = ns.sum - (pays c).toNat + (incurs ⟨c, (exec c w).1⟩).toNat ∧
        List.Forall₂ (fun n p => p.Owes exec incurs pays n) ns' (ps.set i (k (exec c w).1)) := by
  induction hps generalizing i with
  | nil => cases hi
  | @cons n p ns ps hp hps ih =>
      cases i with
      | zero =>
          obtain rfl : p = .call c k := Option.some.inj hi
          refine ⟨Nat.le_trans hp.1 (Nat.le_add_right _ _), fun w =>
            ⟨_ :: ns, ?_, .cons (hp.2 w) hps⟩⟩
          rw [List.sum_cons, List.sum_cons, Nat.sub_add_comm hp.1, Nat.add_right_comm]
      | succ i =>
          obtain ⟨hle, hmove⟩ := ih hi
          refine ⟨Nat.le_trans hle (Nat.le_add_left _ _), fun w => ?_⟩
          obtain ⟨ns', hsum, hps'⟩ := hmove w
          refine ⟨n :: ns', ?_, .cons hp hps'⟩
          rw [List.sum_cons, List.sum_cons, hsum, Nat.add_sub_assoc hle, Nat.add_assoc]

/-- **Together**, programs owe what each of them owes. -/
theorem owes_together (hps : List.Forall₂ (fun n p => p.Owes exec incurs pays n) ns ps)
    (turns : List ℕ) : (together turns ps).Owes exec incurs pays ns.sum := by
  induction turns generalizing ns ps with
  | nil => exact owes_inTurn hps
  | cons i turns ih =>
      rw [together]
      split
      · rename_i c k hi
        obtain ⟨hle, hmove⟩ := owes_move hps hi
        refine ⟨hle, fun w => ?_⟩
        obtain ⟨ns', hsum, hps'⟩ := hmove w
        rw [← hsum]
        exact ih hps'
      · exact ih hps

theorem owes_together_of_forall (hps : ∀ p ∈ ps, p.Owes exec incurs pays 0) (turns : List ℕ) :
    (together turns ps).Owes exec incurs pays 0 := by
  have hzeros : List.Forall₂ (fun n p => p.Owes exec incurs pays n)
      (List.replicate ps.length 0) ps := by
    induction ps with
    | nil => exact .nil
    | cons p ps ih =>
        obtain ⟨hp, hps⟩ := List.forall_mem_cons.mp hps
        exact .cons hp (ih hps)
  have hall := owes_together hzeros turns
  rwa [List.sum_replicate, Nat.nsmul_eq_mul, Nat.mul_zero] at hall

end Owes

end Prog

/-! ### In a run with others -/

variable [DecidableEq ι] {exec : (c : C) → W → R c × W} {incurs : Told C R → Bool}
  {pays : C → Bool}

/-- Every caller owes what it has incurred and not paid. -/
def Conf.Owing (exec : (c : C) → W → R c × W) (incurs : Told C R → Bool) (pays : C → Bool)
    (conf : Conf ι C R α W) : Prop :=
  ∀ i, ∃ n, (conf.threads i).Owes exec incurs pays n ∧
    (conf.scene.told i).countP (fun e => pays e.1) + n = (conf.scene.told i).countP incurs

theorem Conf.Owing.step {conf : Conf ι C R α W} (h : conf.Owing exec incurs pays) (j : ι) :
    (conf.step exec j).Owing exec incurs pays := by
  cases hj : conf.threads j with
  | done a => rwa [Conf.step_of_done exec hj]
  | call c k =>
      rw [Conf.step_of_call exec hj]
      intro i
      obtain ⟨n, howes, hcount⟩ := h i
      by_cases hij : j = i
      · subst hij
        rw [hj] at howes
        refine ⟨n - (pays c).toNat + (incurs ⟨c, (exec c conf.scene.world).1⟩).toNat, ?_, ?_⟩
        · show (Function.update conf.threads j _ j).Owes exec incurs pays _
          rw [Function.update_self]
          exact howes.2 _
        · have hle := howes.1
          rw [Scene.told_after_self, List.countP_cons, List.countP_cons, ← hcount]
          cases hpays : pays c <;> rw [hpays] at hle <;>
            cases incurs ⟨c, (exec c conf.scene.world).1⟩ <;> simp at hle ⊢ <;> omega
      · refine ⟨n, ?_, ?_⟩
        · show (Function.update conf.threads j _ i).Owes exec incurs pays _
          rw [Function.update_of_ne (Ne.symm hij)]
          exact howes
        · rw [Scene.told_after_of_ne exec hij]
          exact hcount

theorem Conf.Owing.runs {conf : Conf ι C R α W} (h : conf.Owing exec incurs pays)
    (sched : List ι) : (conf.runs exec sched).Owing exec incurs pays := by
  induction sched generalizing conf with
  | nil => exact h
  | cons i sched ih => exact ih (h.step i)

/-- Nobody pays more than has been incurred. -/
theorem Conf.Owing.count_le {conf : Conf ι C R α W} (h : conf.Owing exec incurs pays) :
    conf.scene.count (fun e => pays e.1) ≤ conf.scene.count incurs := by
  refine Scene.count_le_of_told fun i => ?_
  obtain ⟨n, -, hcount⟩ := h i
  omega

/-- When nothing is in progress, everything is paid. -/
theorem Conf.Owing.count_eq_of_atRest {conf : Conf ι C R α W} (h : conf.Owing exec incurs pays)
    (hrest : conf.AtRest) : conf.scene.count (fun e => pays e.1) = conf.scene.count incurs := by
  refine Scene.count_eq_of_told fun i => ?_
  obtain ⟨n, howes, hcount⟩ := h i
  rcases hrest i with ⟨a, ha⟩ | hnone
  · rw [ha] at howes
    obtain rfl : n = 0 := howes
    exact hcount
  · have htold : conf.scene.told i = [] :=
      List.filterMap_eq_nil_iff.mpr fun e he => if_neg (hnone e he)
    rw [htold]
    rfl

end Greetup.Interleaving
