import Greetup.Interleaving.Schedule
import Mathlib.Data.Nat.Notation

/-!
How long a program takes.

A program that issues at most `n` commands, whatever it is answered, has
returned in every run in which it was given `n` moves, no matter how the others
were scheduled.
-/

namespace Greetup.Interleaving

open Prog

namespace Prog

variable {C : Type} {R : C → Type} {α β : Type}

/-- The program returns after at most `n` commands. -/
def Ends : ℕ → Prog C R α → Prop
  | _, .done _ => True
  | 0, .call _ _ => False
  | n + 1, .call _ k => ∀ r, (k r).Ends n

/-- The result of a program that has returned. -/
def result? : Prog C R α → Option α
  | .done a => some a
  | .call _ _ => none

theorem ends_done (n : ℕ) (a : α) : (Prog.done a : Prog C R α).Ends n := by
  cases n <;> trivial

theorem ends_call {n : ℕ} {c : C} {k : R c → Prog C R α} :
    (Prog.call c k).Ends (n + 1) ↔ ∀ r, (k r).Ends n := Iff.rfl

theorem ends_perform (c : C) : (perform c : Prog C R (R c)).Ends 1 := fun r => ends_done 0 r

theorem Ends.mono {m n : ℕ} {p : Prog C R α} (h : p.Ends m) (hmn : m ≤ n) : p.Ends n := by
  induction p generalizing m n with
  | done a => exact ends_done n a
  | call c k ih =>
      cases m with
      | zero => exact h.elim
      | succ m =>
          obtain ⟨n, rfl⟩ : ∃ l, n = l + 1 := ⟨n - 1, by omega⟩
          exact fun r => ih r (h r) (by omega)

theorem Ends.bind {m n : ℕ} {p : Prog C R α} {f : α → Prog C R β} (hp : p.Ends m)
    (hf : ∀ a, (f a).Ends n) : (p >>= f).Ends (m + n) := by
  induction p generalizing m with
  | done a => exact (hf a).mono (by omega)
  | call c k ih =>
      cases m with
      | zero => exact hp.elim
      | succ m =>
          rw [show m + 1 + n = m + n + 1 by omega, call_bind, ends_call]
          exact fun r => ih r (hp r)

theorem ends_ite {n : ℕ} {P : Prop} [Decidable P] {p q : Prog C R α} (hp : p.Ends n)
    (hq : q.Ends n) : (if P then p else q).Ends n := by
  split <;> assumption

theorem Ends.map {n : ℕ} {p : Prog C R α} (hp : p.Ends n) (f : α → β) : (f <$> p).Ends n :=
  hp.bind fun a => ends_done 0 (f a)

end Prog

variable {ι C : Type} {R : C → Type} {α W : Type} [DecidableEq ι] (exec : (c : C) → W → R c × W)

theorem Conf.threads_step_of_ne (conf : Conf ι C R α W) {i j : ι} (hij : i ≠ j) :
    (conf.step exec i).threads j = conf.threads j := by
  cases hi : conf.threads i with
  | done a => rw [Conf.step_of_done exec hi]
  | call c k =>
      rw [Conf.step_of_call exec hi]
      exact Function.update_of_ne (Ne.symm hij) _ _

theorem Conf.ends_step {conf : Conf ι C R α W} {i : ι} {n : ℕ}
    (h : (conf.threads i).Ends (n + 1)) : ((conf.step exec i).threads i).Ends n := by
  cases hi : conf.threads i with
  | done a =>
      rw [Conf.step_of_done exec hi, hi]
      exact ends_done n a
  | call c k =>
      rw [hi] at h
      rw [Conf.step_of_call exec hi]
      show (Function.update conf.threads i _ i).Ends n
      rw [Function.update_self]
      exact h _

/-- A program that has been given all the moves it needs has returned. -/
theorem Conf.done_of_count [BEq ι] [LawfulBEq ι] {conf : Conf ι C R α W} {i : ι} {n : ℕ}
    {sched : List ι} (h : (conf.threads i).Ends n) (hcount : n ≤ sched.count i) :
    ∃ a, (conf.runs exec sched).threads i = .done a := by
  induction sched generalizing conf n with
  | nil =>
      rw [List.count_nil] at hcount
      obtain rfl : n = 0 := by omega
      cases hi : conf.threads i with
      | done a => exact ⟨a, hi⟩
      | call c k =>
          rw [hi] at h
          exact h.elim
  | cons j sched ih =>
      rw [Conf.runs_cons]
      by_cases hji : j = i
      · subst hji
        rw [List.count_cons_self] at hcount
        have hstep := Conf.ends_step exec (h.mono (show n ≤ n - 1 + 1 by omega))
        exact ih hstep (by omega)
      · rw [List.count_cons_of_ne hji] at hcount
        refine ih ?_ hcount
        rw [Conf.threads_step_of_ne exec conf hji]
        exact h

end Greetup.Interleaving
