import Mathlib.Data.List.Infix

/-!
Operations run one after the other, each to its end before the next. What holds
at rest is what holds after every prefix of the sequence.
-/

namespace Greetup.Interleaving

variable {W A : Type} (step : W → A → W)

/-- `I` holds at the start and after every operation. -/
def Always (I : W → Prop) (w : W) (as : List A) : Prop :=
  ∀ pre, pre <+: as → I (pre.foldl step w)

/-- Every operation is started in a state in which `P` allows it. -/
def EveryStep (P : W → A → Prop) (w : W) (as : List A) : Prop :=
  ∀ pre a, pre ++ [a] <+: as → P (pre.foldl step w) a

variable {step} {I J : W → Prop} {P : W → A → Prop} {w : W} {a : A} {as : List A}

theorem always_nil : Always step I w [] ↔ I w := by
  simp [Always]

theorem always_cons : Always step I w (a :: as) ↔ I w ∧ Always step I (step w a) as := by
  constructor
  · intro h
    exact ⟨h [] List.nil_prefix,
      fun pre hpre => h (a :: pre) (List.cons_prefix_cons.mpr ⟨rfl, hpre⟩)⟩
  · rintro ⟨h, hrest⟩ pre hpre
    rcases List.prefix_cons_iff.mp hpre with rfl | ⟨pre', rfl, hpre'⟩
    · exact h
    · exact hrest pre' hpre'

theorem everyStep_nil : EveryStep step P w [] := by
  intro pre a h
  simp at h

theorem everyStep_cons :
    EveryStep step P w (a :: as) ↔ P w a ∧ EveryStep step P (step w a) as := by
  constructor
  · intro h
    refine ⟨h [] a (List.cons_prefix_cons.mpr ⟨rfl, List.nil_prefix⟩), fun pre b hpre => ?_⟩
    exact h (a :: pre) b (List.cons_prefix_cons.mpr ⟨rfl, hpre⟩)
  · rintro ⟨h, hrest⟩ pre b hpre
    cases pre with
    | nil =>
        obtain ⟨rfl, -⟩ := List.cons_prefix_cons.mp hpre
        exact h
    | cons c pre =>
        obtain ⟨rfl, hpre'⟩ := List.cons_prefix_cons.mp hpre
        exact hrest pre b hpre'

instance EveryStep.decidable [DecidableRel P] :
    (w : W) → (as : List A) → Decidable (EveryStep step P w as)
  | _, [] => isTrue everyStep_nil
  | w, a :: as =>
      have := EveryStep.decidable (step w a) as
      decidable_of_iff (P w a ∧ EveryStep step P (step w a) as) everyStep_cons.symm

theorem everyStep_congr {Q : W → A → Prop} (h : ∀ w a, P w a ↔ Q w a) :
    EveryStep step P w as ↔ EveryStep step Q w as :=
  forall_congr' fun _ => forall_congr' fun _ => imp_congr_right fun _ => h _ _

/-- **Exactness at rest.** `J` implies `I`, is kept by every allowed operation,
and every other operation run from `J` breaks `I`. Then `I` holds throughout a
run from `J` exactly when every operation of the run is allowed. -/
theorem always_iff_everyStep (hJI : ∀ w, J w → I w)
    (hkeep : ∀ w a, J w → P w a → J (step w a))
    (hbreak : ∀ w a, J w → ¬ P w a → ¬ I (step w a)) (hw : J w) :
    Always step I w as ↔ EveryStep step P w as := by
  induction as generalizing w with
  | nil => exact ⟨fun _ => everyStep_nil, fun _ => always_nil.mpr (hJI w hw)⟩
  | cons a as ih =>
      rw [always_cons, everyStep_cons]
      by_cases ha : P w a
      · simp only [ha, hJI w hw, true_and]
        exact ih (hkeep w a hw ha)
      · refine ⟨fun h => absurd (h.2 [] List.nil_prefix) (hbreak w a hw ha), fun h => absurd h.1 ha⟩

/-- The allowed operations keep `J` throughout. -/
theorem always_of_everyStep (hkeep : ∀ w a, J w → P w a → J (step w a)) (hw : J w)
    (h : EveryStep step P w as) : Always step J w as := by
  induction as generalizing w with
  | nil => exact always_nil.mpr hw
  | cons a as ih =>
      rw [everyStep_cons] at h
      exact always_cons.mpr ⟨hw, ih (hkeep w a hw h.1) h.2⟩

end Greetup.Interleaving
