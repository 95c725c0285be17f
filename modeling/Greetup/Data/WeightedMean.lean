import Mathlib.Algebra.Order.Field.Basic
import Mathlib.Algebra.Order.BigOperators.Group.List
import Mathlib.Order.Interval.Set.Basic

/-!
The mean of finitely many signals, each with a whole number of votes. A signal
without votes may have any value; the mean of signals that all lie on the unit
scale lies on it.
-/

namespace Greetup

variable {K : Type} [Field K] [LinearOrder K] [IsStrictOrderedRing K]

/-- The unit scale a signal is given on. -/
abbrev UnitScale (K : Type) [Field K] [LinearOrder K] : Set K := Set.Icc 0 1

def weightedTotal (signals : List (K × ℕ)) : K := (signals.map fun s => s.1 * (s.2 : K)).sum

def totalWeight (signals : List (K × ℕ)) : ℕ := (signals.map (·.2)).sum

def weightedMean (signals : List (K × ℕ)) : K := weightedTotal signals / totalWeight signals

theorem weightedTotal_nonneg {signals : List (K × ℕ)} (h : ∀ s ∈ signals, 0 ≤ s.1) :
    0 ≤ weightedTotal signals := by
  refine List.sum_nonneg fun x hx => ?_
  obtain ⟨s, hs, rfl⟩ := List.mem_map.mp hx
  exact mul_nonneg (h s hs) (Nat.cast_nonneg _)

theorem weightedTotal_le {signals : List (K × ℕ)} (h : ∀ s ∈ signals, s.1 ≤ 1) :
    weightedTotal signals ≤ totalWeight signals := by
  induction signals with
  | nil => simp [weightedTotal, totalWeight]
  | cons s signals ih =>
    have hs : s.1 * s.2 ≤ (s.2 : K) :=
      mul_le_of_le_one_left (Nat.cast_nonneg _) (h s List.mem_cons_self)
    have hrest := ih fun t ht => h t (List.mem_cons_of_mem _ ht)
    simpa [weightedTotal, totalWeight] using add_le_add hs hrest

theorem weightedMean_nonneg {signals : List (K × ℕ)} (h : ∀ s ∈ signals, 0 ≤ s.1) :
    0 ≤ weightedMean signals :=
  div_nonneg (weightedTotal_nonneg h) (Nat.cast_nonneg _)

theorem weightedMean_mem {signals : List (K × ℕ)} (h : ∀ s ∈ signals, s.1 ∈ UnitScale K) :
    weightedMean signals ∈ UnitScale K := by
  refine ⟨weightedMean_nonneg fun s hs => (h s hs).1, ?_⟩
  exact div_le_one_of_le₀ (weightedTotal_le fun s hs => (h s hs).2) (Nat.cast_nonneg _)

theorem weightedTotal_mem {signals : List (K × ℕ)} {lo hi : K}
    (h : ∀ s ∈ signals, s.1 ∈ Set.Icc lo hi) : weightedTotal signals ∈
      Set.Icc (lo * (totalWeight signals : K)) (hi * (totalWeight signals : K)) := by
  induction signals with
  | nil => simp [weightedTotal, totalWeight]
  | cons s signals ih =>
    obtain ⟨hlo, hhi⟩ := h s List.mem_cons_self
    obtain ⟨hrestlo, hresthi⟩ := ih fun t ht => h t (List.mem_cons_of_mem _ ht)
    have hweight : (0 : K) ≤ s.2 := Nat.cast_nonneg _
    simp only [weightedTotal, totalWeight, List.map_cons, List.sum_cons, Nat.cast_add, mul_add]
      at hrestlo hresthi ⊢
    exact ⟨add_le_add (mul_le_mul_of_nonneg_right hlo hweight) hrestlo,
      add_le_add (mul_le_mul_of_nonneg_right hhi hweight) hresthi⟩

/-- The mean of signals with votes lies between bounds of the signals. -/
theorem weightedMean_mem_Icc {signals : List (K × ℕ)} {lo hi : K}
    (hvotes : 0 < totalWeight signals) (h : ∀ s ∈ signals, s.1 ∈ Set.Icc lo hi) :
    weightedMean signals ∈ Set.Icc lo hi := by
  have hpos : (0 : K) < totalWeight signals := Nat.cast_pos.mpr hvotes
  obtain ⟨hlo, hhi⟩ := weightedTotal_mem h
  exact ⟨(le_div_iff₀ hpos).mpr hlo, (div_le_iff₀ hpos).mpr hhi⟩

/-- A share of a total is on the unit scale. -/
theorem div_mem_unitScale {m n : ℕ} (h : m ≤ n) : (m : K) / n ∈ UnitScale K :=
  ⟨div_nonneg (Nat.cast_nonneg _) (Nat.cast_nonneg _),
    div_le_one_of_le₀ (Nat.cast_le.mpr h) (Nat.cast_nonneg _)⟩

end Greetup
