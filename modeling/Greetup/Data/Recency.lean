import Greetup.Data.WeightedMean
import Mathlib.Algebra.BigOperators.Fin
import Mathlib.Algebra.Order.Rearrangement
import Mathlib.Data.Fin.Tuple.Sort

/-!
The mean of a sequence in which what comes later has more votes: the first value
has one vote, the second two, and so on. It is greatest when the values ascend,
and least when they descend.
-/

namespace Greetup

variable {K : Type} [Field K]

omit [Field K] in
theorem totalWeight_zipIdx (xs : List K) :
    totalWeight (xs.zipIdx 1) = (List.range' 1 xs.length).sum := by
  rw [totalWeight, List.zipIdx_map_snd]

theorem weightedTotal_ofFn {n : ℕ} (f : Fin n → K) :
    weightedTotal ((List.ofFn f).zipIdx 1) = ∑ i, f i * ((i : ℕ) + 1 : ℕ) := by
  rw [weightedTotal, ← List.sum_ofFn]
  congr 1
  refine List.ext_getElem (by simp) fun i hi hi' => ?_
  simp [Nat.add_comm]

theorem weightedTotal_neg (xs : List K) :
    weightedTotal ((xs.map fun x => -x).zipIdx 1) = -weightedTotal (xs.zipIdx 1) := by
  obtain ⟨n, f, rfl⟩ : ∃ n, ∃ f : Fin n → K, xs = List.ofFn f :=
    ⟨xs.length, xs.get, (List.ofFn_get xs).symm⟩
  rw [List.map_ofFn, weightedTotal_ofFn, weightedTotal_ofFn, ← Finset.sum_neg_distrib]
  exact Finset.sum_congr rfl fun i _ => neg_mul _ _

/-- What is sorted is the sorting of what it permutes. -/
theorem eq_ofFn_sort {α : Type} [LinearOrder α] {n : ℕ} {f : Fin n → α} {xs : List α}
    (hperm : (List.ofFn f).Perm xs) (hsorted : xs.Pairwise (· ≤ ·)) :
    xs = List.ofFn (f ∘ Tuple.sort f) := by
  have hsort := (Tuple.sort f).ofFn_comp_perm f
  exact (hperm.symm.trans hsort.symm).eq_of_pairwise' hsorted
    (Tuple.monotone_sort f).sortedLE_ofFn.pairwise

variable [LinearOrder K] [IsStrictOrderedRing K] {xs ys : List K}

theorem weightedTotal_le_of_perm (hperm : ys.Perm xs) (hsorted : xs.Pairwise (· ≤ ·)) :
    weightedTotal (ys.zipIdx 1) ≤ weightedTotal (xs.zipIdx 1) := by
  obtain ⟨n, f, rfl⟩ : ∃ n, ∃ f : Fin n → K, ys = List.ofFn f :=
    ⟨ys.length, ys.get, (List.ofFn_get ys).symm⟩
  have hmono : Monotone fun i : Fin n => (((i : ℕ) + 1 : ℕ) : K) := fun i j hij =>
    Nat.cast_le.mpr (Nat.succ_le_succ hij)
  have hrearrange := ((Tuple.monotone_sort f).monovary hmono).sum_comp_perm_mul_le_sum_mul
    (σ := (Tuple.sort f).symm)
  rw [eq_ofFn_sort hperm hsorted, weightedTotal_ofFn, weightedTotal_ofFn]
  refine le_trans (le_of_eq ?_) hrearrange
  refine Finset.sum_congr rfl fun i _ => ?_
  rw [Function.comp_apply, Equiv.apply_symm_apply]

theorem weightedTotal_reverse_le_of_perm (hperm : ys.Perm xs) (hsorted : xs.Pairwise (· ≤ ·)) :
    weightedTotal (xs.reverse.zipIdx 1) ≤ weightedTotal (ys.zipIdx 1) := by
  have hnegated : (xs.reverse.map fun x => -x).Pairwise (· ≤ ·) := by
    rw [List.pairwise_map, List.pairwise_reverse]
    exact hsorted.imp neg_le_neg
  have hle := weightedTotal_le_of_perm
    ((hperm.trans xs.reverse_perm.symm).map fun x => -x) hnegated
  rw [weightedTotal_neg, weightedTotal_neg] at hle
  exact neg_le_neg_iff.mp hle

def recencyMean (xs : List K) : K := weightedMean (xs.zipIdx 1)

theorem recencyMean_mem_Icc {lo hi : K} (hne : xs ≠ []) (h : ∀ x ∈ xs, x ∈ Set.Icc lo hi) :
    recencyMean xs ∈ Set.Icc lo hi := by
  refine weightedMean_mem_Icc ?_ fun s hs => ?_
  · obtain ⟨x, rest, rfl⟩ := List.exists_cons_of_ne_nil hne
    rw [totalWeight_zipIdx]
    exact Nat.add_pos_left Nat.one_pos _
  · exact h s.1 (List.fst_mem_of_mem_zipIdx hs)

/-- **Later counts more.** No order of the values has a greater mean than the
ascending one, and none a smaller one than the descending. -/
theorem recencyMean_mem_of_perm (hperm : ys.Perm xs) (hsorted : xs.Pairwise (· ≤ ·)) :
    recencyMean ys ∈ Set.Icc (recencyMean xs.reverse) (recencyMean xs) := by
  simp only [recencyMean, weightedMean, totalWeight_zipIdx, List.length_reverse,
    hperm.length_eq]
  exact ⟨div_le_div_of_nonneg_right (weightedTotal_reverse_le_of_perm hperm hsorted)
      (Nat.cast_nonneg _),
    div_le_div_of_nonneg_right (weightedTotal_le_of_perm hperm hsorted) (Nat.cast_nonneg _)⟩

end Greetup
