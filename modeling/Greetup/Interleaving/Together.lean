import Greetup.Interleaving.Accounts
import Greetup.Interleaving.Parallel
import Mathlib.Algebra.BigOperators.Group.List.Basic
import Mathlib.Algebra.Ring.Nat

/-!
Programs that are cut short, programs that are awaited together, and how often a
program does something.
-/

namespace Greetup.Interleaving

namespace Prog

variable {C : Type} {R : C → Type} {W α β : Type}

/-- The program, unless it has not returned after fewer than `n` commands: then
it stops there. -/
def stopAfter : ℕ → Prog C R α → Prog C R (Option α)
  | 0, _ => .done none
  | _ + 1, .done a => .done (some a)
  | n + 1, .call c k => .call c fun r => stopAfter n (k r)

/-- The programs one after the other, with what they return. -/
def inTurn : List (Prog C R β) → Prog C R (List β)
  | [] => .done []
  | p :: ps => p >>= fun b => inTurn ps >>= fun bs => .done (b :: bs)

/-- The programs side by side, in the order of the turns, with what they return. -/
def together : List ℕ → List (Prog C R β) → Prog C R (List β)
  | [], ps => inTurn ps
  | n :: turns, ps =>
      match ps[n]? with
      | some (.call c k) => .call c fun r => together turns (ps.set n (k r))
      | _ => together turns ps

section Uses

variable {P : C → Prop}

theorem Uses.stopAfter {p : Prog C R α} (hp : p.Uses P) (n : ℕ) : (p.stopAfter n).Uses P := by
  induction n generalizing p with
  | zero => trivial
  | succ n ih =>
      cases p with
      | done a => trivial
      | call c k => exact ⟨hp.1, fun r => ih (hp.2 r)⟩

theorem uses_inTurn {ps : List (Prog C R β)} (hps : ∀ p ∈ ps, p.Uses P) :
    (inTurn ps).Uses P := by
  induction ps with
  | nil => trivial
  | cons p ps ih =>
      obtain ⟨hp, hps⟩ := List.forall_mem_cons.mp hps
      exact hp.bind fun b => (ih hps).bind fun bs => trivial

theorem uses_together {ps : List (Prog C R β)} (hps : ∀ p ∈ ps, p.Uses P) (turns : List ℕ) :
    (together turns ps).Uses P := by
  induction turns generalizing ps with
  | nil => exact uses_inTurn hps
  | cons n turns ih =>
      rw [together]
      split
      · rename_i c k hn
        have hp := hps _ (List.mem_of_getElem? hn)
        refine ⟨hp.1, fun r => ih fun q hq => ?_⟩
        rcases List.mem_or_eq_of_mem_set hq with hq | rfl
        · exact hps q hq
        · exact hp.2 r
      · exact ih hps

end Uses

/-! ### Licences -/

section Licensed

variable {exec : (c : C) → W → R c × W} {K : List (Told C R) → C → Prop} {U : C → Prop}

/-- A program that is cut short has the licences it had, and if it returns it
ends as it did. -/
theorem Licensed.stopAfter {Q : List (Told C R) → α → Prop} {p : Prog C R α}
    {h : List (Told C R)} (hp : p.Licensed exec K Q h) (n : ℕ) :
    (p.stopAfter n).Licensed exec K (fun h r => ∀ a, r = some a → Q h a) h := by
  induction n generalizing p h with
  | zero =>
      intro a ha
      cases ha
  | succ n ih =>
      cases p with
      | done a =>
          intro b hb
          cases hb
          exact hp
      | call c k => exact ⟨hp.1, fun w => ih (hp.2 w)⟩

/-- Programs that are licensed, each with what it ends in. -/
def EachLicensed (exec : (c : C) → W → R c × W) (K : List (Told C R) → C → Prop) (U : C → Prop)
    (ends : List (List (Told C R) → β → Prop)) (ps : List (Prog C R β)) (h : List (Told C R)) :
    Prop :=
  List.Forall₂ (fun q p => p.Uses U ∧ p.Licensed exec K q h) ends ps

variable {ends : List (List (Told C R) → β → Prop)} {ps : List (Prog C R β)}
  {h h' : List (Told C R)}

variable (hK : ∀ h h' c, U c → h ⊆ h' → K h c → K h' c)
  (hends : ∀ q ∈ ends, ∀ h h' b, h ⊆ h' → q h b → q h' b)

include hK hends

theorem EachLicensed.later (hps : EachLicensed exec K U ends ps h) (hsub : h ⊆ h') :
    EachLicensed exec K U ends ps h' := by
  induction hps with
  | nil => exact .nil
  | @cons q p ends ps hp hps ih =>
      obtain ⟨hq, hends⟩ := List.forall_mem_cons.mp hends
      exact .cons ⟨hp.1, hp.2.later hK hq hp.1 hsub⟩ (ih hends)

theorem EachLicensed.inTurn (hps : EachLicensed exec K U ends ps h) :
    (inTurn ps).Licensed exec K (fun h bs => List.Forall₂ (fun q b => q h b) ends bs) h := by
  induction ps generalizing ends h with
  | nil =>
      cases hps
      exact .nil
  | cons p ps ih =>
      rcases hps with _ | @⟨q, _, ends, _, hp, hps⟩
      obtain ⟨hq, hends⟩ := List.forall_mem_cons.mp hends
      refine hp.2.grows.bind fun h' b hdone => ?_
      have hrest := ih hends (EachLicensed.later hK hends hps hdone.1)
      refine hrest.grows.bind fun h'' bs hall => ?_
      exact .cons (hq h' h'' b hall.1 hdone.2) hall.2

/-- One of them issues its next command. -/
theorem EachLicensed.move (hps : EachLicensed exec K U ends ps h) {n : ℕ} {c : C}
    {k : R c → Prog C R β} (hn : ps[n]? = some (.call c k)) :
    K h c ∧ ∀ w, EachLicensed exec K U ends (ps.set n (k (exec c w).1))
      (⟨c, (exec c w).1⟩ :: h) := by
  induction hps generalizing n with
  | nil => cases hn
  | @cons q p ends ps hp hps ih =>
      obtain ⟨hq, hends'⟩ := List.forall_mem_cons.mp hends
      cases n with
      | zero =>
          obtain rfl : p = .call c k := Option.some.inj hn
          refine ⟨hp.2.1, fun w => .cons ⟨hp.1.2 _, hp.2.2 w⟩ ?_⟩
          exact EachLicensed.later hK hends' hps (List.subset_cons_self _ _)
      | succ n =>
          obtain ⟨hc, hmove⟩ := ih hends' hn
          refine ⟨hc, fun w => .cons ⟨hp.1, ?_⟩ (hmove w)⟩
          exact hp.2.later hK hq hp.1 (List.subset_cons_self _ _)

/-- **Together**, programs are licensed if each of them is, and each ends as it
would alone. -/
theorem EachLicensed.together (hps : EachLicensed exec K U ends ps h) (turns : List ℕ) :
    (together turns ps).Licensed exec K
      (fun h bs => List.Forall₂ (fun q b => q h b) ends bs) h := by
  induction turns generalizing ps h with
  | nil => exact hps.inTurn hK hends
  | cons n turns ih =>
      rw [Prog.together]
      split
      · rename_i c k hn
        obtain ⟨hc, hmove⟩ := hps.move hK hends hn
        exact ⟨hc, fun w => ih (hmove w)⟩
      · exact ih hps

end Licensed

/-! ### How often -/

section AtMost

variable (exec : (c : C) → W → R c × W) (P : C → Bool)

/-- Whatever it is answered, the program issues at most `n` commands with `P`;
each reply is that of some store. -/
def AtMost : Prog C R α → ℕ → Prop
  | .done _, _ => True
  | .call c k, n => (P c).toNat ≤ n ∧ ∀ w, (k (exec c w).1).AtMost (n - (P c).toNat)

variable {exec P} {m n : ℕ} {p : Prog C R α}

theorem AtMost.mono (hp : p.AtMost exec P m) (hmn : m ≤ n) : p.AtMost exec P n := by
  induction p generalizing m n with
  | done a => trivial
  | call c k ih =>
      exact ⟨Nat.le_trans hp.1 hmn, fun w => ih _ (hp.2 w) (Nat.sub_le_sub_right hmn _)⟩

theorem Uses.atMost_zero (hp : p.Uses fun c => P c = false) : p.AtMost exec P 0 := by
  induction p with
  | done a => trivial
  | call c k ih =>
      rw [AtMost, hp.1]
      exact ⟨Nat.le_refl _, fun w => ih _ (hp.2 _)⟩

theorem AtMost.call_of_false {c : C} {k : R c → Prog C R α} (hc : P c = false)
    (hk : ∀ w, (k (exec c w).1).AtMost exec P n) : (Prog.call c k).AtMost exec P n := by
  rw [AtMost, hc]
  exact ⟨Nat.zero_le _, hk⟩

theorem AtMost.call_succ {c : C} {k : R c → Prog C R α}
    (hk : ∀ w, (k (exec c w).1).AtMost exec P n) : (Prog.call c k).AtMost exec P (n + 1) := by
  cases hc : P c with
  | false => exact .call_of_false hc fun w => (hk w).mono (Nat.le_succ n)
  | true =>
      rw [AtMost, hc]
      exact ⟨Nat.succ_le_succ (Nat.zero_le n), hk⟩

theorem AtMost.bind {f : α → Prog C R β} (hp : p.AtMost exec P m)
    (hf : ∀ a, (f a).AtMost exec P n) : (p >>= f).AtMost exec P (m + n) := by
  induction p generalizing m with
  | done a => exact (hf a).mono (Nat.le_add_left n m)
  | call c k ih =>
      refine ⟨Nat.le_trans hp.1 (Nat.le_add_right m n), fun w => ?_⟩
      rw [Nat.sub_add_comm hp.1]
      exact ih _ (hp.2 w)

theorem AtMost.map (hp : p.AtMost exec P n) (f : α → β) : (f <$> p).AtMost exec P n :=
  AtMost.bind (n := 0) hp fun _ => trivial

theorem AtMost.stopAfter (hp : p.AtMost exec P n) (k : ℕ) :
    (p.stopAfter k).AtMost exec P n := by
  induction k generalizing p n with
  | zero => trivial
  | succ k ih =>
      cases p with
      | done a => trivial
      | call c f => exact ⟨hp.1, fun w => ih (hp.2 w)⟩

variable {ns : List ℕ} {ps : List (Prog C R β)}

theorem atMost_inTurn (hps : List.Forall₂ (fun n p => p.AtMost exec P n) ns ps) :
    (inTurn ps).AtMost exec P ns.sum := by
  induction hps with
  | nil => trivial
  | cons hp _ ih =>
      rw [List.sum_cons]
      exact hp.bind fun b => AtMost.bind (n := 0) ih fun bs => trivial

/-- One of them issues its next command. -/
theorem atMost_move (hps : List.Forall₂ (fun n p => p.AtMost exec P n) ns ps) {i : ℕ} {c : C}
    {k : R c → Prog C R β} (hi : ps[i]? = some (.call c k)) :
    (P c).toNat ≤ ns.sum ∧ ∃ ns', ns'.sum = ns.sum - (P c).toNat ∧
      ∀ w, List.Forall₂ (fun n p => p.AtMost exec P n) ns' (ps.set i (k (exec c w).1)) := by
  induction hps generalizing i with
  | nil => cases hi
  | @cons n p ns ps hp hps ih =>
      cases i with
      | zero =>
          obtain rfl : p = .call c k := Option.some.inj hi
          refine ⟨Nat.le_trans hp.1 (Nat.le_add_right _ _), (n - (P c).toNat) :: ns, ?_, fun w =>
            .cons (hp.2 w) hps⟩
          rw [List.sum_cons, List.sum_cons, Nat.sub_add_comm hp.1]
      | succ i =>
          obtain ⟨hle, ns', hsum, hmove⟩ := ih hi
          refine ⟨Nat.le_trans hle (Nat.le_add_left _ _), n :: ns', ?_, fun w => .cons hp (hmove w)⟩
          rw [List.sum_cons, List.sum_cons, hsum, Nat.add_sub_assoc hle]

/-- Together they do it as often as one after the other. -/
theorem atMost_together (hps : List.Forall₂ (fun n p => p.AtMost exec P n) ns ps)
    (turns : List ℕ) : (together turns ps).AtMost exec P ns.sum := by
  induction turns generalizing ns ps with
  | nil => exact atMost_inTurn hps
  | cons i turns ih =>
      rw [together]
      split
      · rename_i c k hi
        obtain ⟨hle, ns', hsum, hmove⟩ := atMost_move hps hi
        refine ⟨hle, fun w => ?_⟩
        rw [← hsum]
        exact ih (hmove w)
      · exact ih hps

end AtMost

end Prog

/-! ### In a run with others -/

variable {ι C : Type} {R : C → Type} {W α : Type} [DecidableEq ι] {exec : (c : C) → W → R c × W}
  {P : C → Bool} {n : ι → ℕ}

/-- A caller has done it no more often than its program allows. -/
theorem Conf.countP_told_le (conf : Conf ι C R α W) (hp : ∀ i, (conf.threads i).AtMost exec P (n i))
    (hnone : conf.scene.trace = []) (sched : List ι) (i : ι) :
    ((conf.runs exec sched).scene.told i).countP (fun e => P e.1) ≤ n i := by
  suffices h : ∀ (conf : Conf ι C R α W), (∀ i, ∃ m, (conf.threads i).AtMost exec P m ∧
      (conf.scene.told i).countP (fun e => P e.1) + m ≤ n i) →
      ∀ i, ∃ m, ((conf.runs exec sched).threads i).AtMost exec P m ∧
        ((conf.runs exec sched).scene.told i).countP (fun e => P e.1) + m ≤ n i by
    obtain ⟨m, -, hle⟩ := h conf (fun i => ⟨n i, hp i, by rw [Scene.told, hnone]; simp⟩) i
    omega
  induction sched with
  | nil => exact fun conf h => h
  | cons j sched ih =>
      intro conf h
      rw [Conf.runs_cons]
      refine ih _ fun i => ?_
      cases hj : conf.threads j with
      | done a =>
          rw [Conf.step_of_done exec hj]
          exact h i
      | call c k =>
          rw [Conf.step_of_call exec hj]
          obtain ⟨m, hm, hle⟩ := h i
          by_cases hij : j = i
          · subst hij
            rw [hj] at hm
            refine ⟨m - (P c).toNat, ?_, ?_⟩
            · show (Function.update conf.threads j _ j).AtMost exec P _
              rw [Function.update_self]
              exact hm.2 _
            · show ((conf.scene.after exec j c).told j).countP _ + _ ≤ _
              have hone := hm.1
              rw [Scene.told_after_self, List.countP_cons]
              cases hc : P c <;> rw [hc] at hone <;> simp at hone ⊢ <;> omega
          · refine ⟨m, ?_, ?_⟩
            · show (Function.update conf.threads j _ i).AtMost exec P _
              rw [Function.update_of_ne (Ne.symm hij)]
              exact hm
            · show ((conf.scene.after exec j c).told i).countP _ + _ ≤ _
              rw [Scene.told_after_of_ne exec hij]
              exact hle

/-- What the commands append to a log is in the trace, the oldest last. -/
theorem Conf.log_runs {β : Type} {f : W → List β} {g : C → Option β}
    (conf : Conf ι C R α W) (hlog : ∀ c w, f (exec c w).2 = f w ++ (g c).toList)
    (hnone : conf.scene.trace = []) (sched : List ι) :
    f (conf.runs exec sched).scene.world = f conf.scene.world ++
      (conf.runs exec sched).scene.trace.reverse.filterMap fun e => g e.cmd := by
  refine Conf.runs_induction exec (P := fun _ _ _ => True)
    (I := fun conf' => f conf'.scene.world = f conf.scene.world ++
      conf'.scene.trace.reverse.filterMap fun e => g e.cmd) ?_ ?_
    (Conf.meets_of_forall exec (fun _ _ _ => trivial) conf sched)
  · intro conf' i ih _
    cases hi : conf'.threads i with
    | done a => rwa [Conf.step_of_done exec hi]
    | call c k =>
        rw [Conf.step_of_call exec hi, Scene.after_world, hlog, ih, Scene.after_trace,
          List.reverse_cons, List.filterMap_append, List.append_assoc]
        cases hg : g c <;> simp [hg]
  · rw [hnone]
    exact (List.append_nil _).symm

/-- What every owner has once at most, and no two owners have, is there once at
most. -/
theorem countP_le_one_of_owner {β : Type} (owner : β → ι) {p : β → Bool} (l : List β)
    (heach : ∀ i, (l.filter (owner · = i)).countP p ≤ 1)
    (hsame : ∀ b ∈ l, ∀ b' ∈ l, p b = true → p b' = true → owner b = owner b') :
    l.countP p ≤ 1 := by
  by_cases hb : ∃ b ∈ l, p b = true
  · obtain ⟨b, hb, hpb⟩ := hb
    refine le_of_eq_of_le ?_ (heach (owner b))
    rw [List.countP_filter]
    refine List.countP_congr fun b' hb' => ?_
    constructor
    · intro hpb'
      rw [hpb', Bool.true_and]
      exact decide_eq_true (hsame b' hb' b hb hpb' hpb)
    · intro h
      exact (Bool.and_eq_true_iff.mp h).1
  · have hzero : l.countP p = 0 := List.countP_eq_zero.mpr fun b hbl hpb => hb ⟨b, hbl, hpb⟩
    omega

end Greetup.Interleaving
