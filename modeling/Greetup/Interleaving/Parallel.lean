import Greetup.Interleaving.Licence
import Mathlib.Data.List.Forall2

/-!
Programs that one call runs side by side.

Waiting for several programs at once leaves open in which order they advance. A
list of turns settles it: each turn names the program that issues the next
command. Programs that are left when the turns are used up are run one after the
other, so that every order in which they can finish is that of some turns.
-/

namespace Greetup.Interleaving

namespace Prog

variable {C : Type} {R : C → Type} {W : Type}

/-- The programs one after the other. -/
def oneByOne : List (Prog C R Unit) → Prog C R Unit
  | [] => .done ()
  | p :: ps => p >>= fun _ => oneByOne ps

/-- The programs side by side, in the order of the turns. -/
def sideBySide : List ℕ → List (Prog C R Unit) → Prog C R Unit
  | [], ps => oneByOne ps
  | n :: turns, ps =>
      match ps[n]? with
      | some (.call c k) => .call c fun r => sideBySide turns (ps.set n (k r))
      | _ => sideBySide turns ps

section Uses

variable {P : C → Prop} {ps : List (Prog C R Unit)}

theorem uses_oneByOne (hps : ∀ p ∈ ps, p.Uses P) : (oneByOne ps).Uses P := by
  induction ps with
  | nil => trivial
  | cons p ps ih =>
      obtain ⟨hp, hps⟩ := List.forall_mem_cons.mp hps
      exact hp.bind fun _ => ih hps

theorem uses_sideBySide (hps : ∀ p ∈ ps, p.Uses P) (turns : List ℕ) :
    (sideBySide turns ps).Uses P := by
  induction turns generalizing ps with
  | nil => exact uses_oneByOne hps
  | cons n turns ih =>
      rw [sideBySide]
      split
      · rename_i c k hn
        have hp := hps _ (List.mem_of_getElem? hn)
        refine ⟨hp.1, fun r => ih fun q hq => ?_⟩
        rcases List.mem_or_eq_of_mem_set hq with hq | rfl
        · exact hps q hq
        · exact hp.2 r
      · exact ih hps

end Uses

variable {exec : (c : C) → W → R c × W} {K : List (Told C R) → C → Prop} {U : C → Prop}

/-- What has been told before does not take a licence away. -/
theorem Licensed.later {α : Type} {Q : List (Told C R) → α → Prop} {p : Prog C R α}
    (hK : ∀ h h' c, U c → h ⊆ h' → K h c → K h' c) (hQ : ∀ h h' a, h ⊆ h' → Q h a → Q h' a)
    (huses : p.Uses U) {h h' : List (Told C R)} (hp : p.Licensed exec K Q h) (hsub : h ⊆ h') :
    p.Licensed exec K Q h' := by
  induction p generalizing h h' with
  | done a => exact hQ h h' a hsub hp
  | call c k ih =>
      refine ⟨hK h h' c huses.1 hsub hp.1, fun w => ?_⟩
      exact ih _ (huses.2 _) (hp.2 w) (List.cons_subset_cons _ hsub)

/-- A list of programs that are licensed, each with what it ends in. -/
def AllLicensed (exec : (c : C) → W → R c × W) (K : List (Told C R) → C → Prop) (U : C → Prop)
    (ends : List (List (Told C R) → Prop)) (ps : List (Prog C R Unit)) (h : List (Told C R)) :
    Prop :=
  List.Forall₂ (fun q p => p.Uses U ∧ p.Licensed exec K (fun h _ => q h) h) ends ps

section AllLicensed

variable {ends : List (List (Told C R) → Prop)} {ps : List (Prog C R Unit)}
  {h h' : List (Told C R)}

variable (hK : ∀ h h' c, U c → h ⊆ h' → K h c → K h' c)
  (hends : ∀ q ∈ ends, ∀ h h', h ⊆ h' → q h → q h')

include hK hends

theorem AllLicensed.later (hps : AllLicensed exec K U ends ps h) (hsub : h ⊆ h') :
    AllLicensed exec K U ends ps h' := by
  induction hps with
  | nil => exact .nil
  | @cons q p ends ps hp hps ih =>
      obtain ⟨hq, hends⟩ := List.forall_mem_cons.mp hends
      refine .cons ⟨hp.1, ?_⟩ (ih hends)
      exact hp.2.later hK (fun h h' _ hsub hqh => hq h h' hsub hqh) hp.1 hsub

theorem AllLicensed.oneByOne (hps : AllLicensed exec K U ends ps h) :
    (oneByOne ps).Licensed exec K (fun h _ => ∀ q ∈ ends, q h) h := by
  induction ps generalizing ends h with
  | nil =>
      cases hps
      intro q hq
      cases hq
  | cons p ps ih =>
      rcases hps with _ | @⟨q, _, ends, _, hp, hps⟩
      obtain ⟨hq, hends⟩ := List.forall_mem_cons.mp hends
      refine hp.2.grows.bind fun h' _ hdone => ?_
      have hrest := ih hends (AllLicensed.later hK hends hps hdone.1)
      refine hrest.grows.mono fun h'' _ hall => List.forall_mem_cons.mpr ⟨?_, hall.2⟩
      exact hq h' h'' hall.1 hdone.2

/-- One of them issues its next command. -/
theorem AllLicensed.move (hps : AllLicensed exec K U ends ps h) {n : ℕ} {c : C}
    {k : R c → Prog C R Unit} (hn : ps[n]? = some (.call c k)) :
    K h c ∧ ∀ w, AllLicensed exec K U ends (ps.set n (k (exec c w).1))
      (⟨c, (exec c w).1⟩ :: h) := by
  induction hps generalizing n with
  | nil => cases hn
  | @cons q p ends ps hp hps ih =>
      obtain ⟨hq, hends'⟩ := List.forall_mem_cons.mp hends
      cases n with
      | zero =>
          obtain rfl : p = .call c k := Option.some.inj hn
          refine ⟨hp.2.1, fun w => .cons ⟨hp.1.2 _, hp.2.2 w⟩ ?_⟩
          exact AllLicensed.later hK hends' hps (List.subset_cons_self _ _)
      | succ n =>
          obtain ⟨hc, hmove⟩ := ih hends' hn
          refine ⟨hc, fun w => .cons ⟨hp.1, ?_⟩ (hmove w)⟩
          exact hp.2.later hK (fun h h' _ hsub hqh => hq h h' hsub hqh) hp.1
            (List.subset_cons_self _ _)

/-- **Side by side**, programs are licensed if each of them is, and all of them
end as they would alone. -/
theorem AllLicensed.sideBySide (hps : AllLicensed exec K U ends ps h) (turns : List ℕ) :
    (sideBySide turns ps).Licensed exec K (fun h _ => ∀ q ∈ ends, q h) h := by
  induction turns generalizing ps h with
  | nil => exact hps.oneByOne hK hends
  | cons n turns ih =>
      rw [Prog.sideBySide]
      split
      · rename_i c k hn
        obtain ⟨hc, hmove⟩ := hps.move hK hends hn
        exact ⟨hc, fun w => ih (hmove w)⟩
      · exact ih hps

end AllLicensed

end Prog

end Greetup.Interleaving
