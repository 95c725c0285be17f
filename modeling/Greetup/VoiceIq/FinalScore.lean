import Greetup.VoiceIq.Aggregation
import Greetup.Data.Recency
import Mathlib

/-!
What the windows of a participant come to, over exact numbers: every dimension
is the mean in which a later window counts more, rounded to a tenth, and the
intelligence score is a mean of the dimensions.
-/

namespace Greetup.VoiceIq

/-! ### Sums -/

theorem foldl_add {α : Type} (l : List α) (f : α → ℚ) (x : ℚ) :
    l.foldl (fun sum a => Numbers.add sum (f a)) x = x + (l.map f).sum := by
  induction l generalizing x with
  | nil => simp
  | cons a l ih =>
      rw [List.foldl_cons, ih, List.map_cons, List.sum_cons, ← add_assoc]
      rfl

theorem sum_map_div {α : Type} (l : List α) (f : α → ℚ) (c : ℚ) :
    (l.map fun a => f a / c).sum = (l.map f).sum / c := by
  simp only [div_eq_mul_inv]
  exact List.sum_map_mul_right l f c⁻¹

/-- The window weights are the shares of `1, 2, …, n` in their sum. -/
theorem buildWindowWeights_eq {count : ℕ} (h : count ≠ 0) :
    (buildWindowWeights count : List ℚ) =
      (List.range' 1 count).map fun n : ℕ => (n : ℚ) / ((List.range' 1 count).sum : ℕ) := by
  by_cases hone : count = 1
  · subst hone
    simp [buildWindowWeights, List.range'_succ]
    rfl
  · have hcount : (count : ℚ) ≠ 0 := Nat.cast_ne_zero.mpr h
    have hraw : ((List.range count).map fun i : ℕ =>
        Numbers.div (Numbers.ofRat (i + 1)) (Numbers.ofRat count)) =
          (List.range' 1 count).map fun n : ℕ => (n : ℚ) / count := by
      rw [List.range'_eq_map_range, List.map_map]
      refine List.map_congr_left fun i _ => ?_
      show ((i : ℚ) + 1) / count = ((1 + i : ℕ) : ℚ) / count
      rw [Nat.cast_add, Nat.cast_one, add_comm]
    have htotal : ((List.range' 1 count).map fun n : ℕ => (n : ℚ) / count).foldl Numbers.add
        (Numbers.ofRat 0) = ((List.range' 1 count).sum : ℕ) / count := by
      have hfold := foldl_add ((List.range' 1 count).map fun n : ℕ => (n : ℚ) / count) id 0
      rw [List.map_id] at hfold
      refine hfold.trans ?_
      rw [zero_add, sum_map_div, Nat.cast_list_sum]
    rw [buildWindowWeights, if_neg hone]
    dsimp only
    rw [hraw, htotal, List.map_map]
    exact List.map_congr_left fun n _ => div_div_div_cancel_right₀ hcount _ _

/-- A dimension, before it is rounded. -/
theorem weightedSum_eq {windows : List WindowScores} (h : windows ≠ []) (dim : Dimension) :
    weightedSum windows (buildWindowWeights windows.length) dim =
      recencyMean (windows.map fun w => (w.score dim : ℚ)) := by
  have hzip : (windows.map fun w => (w.score dim : ℚ)).zipIdx 1 =
      (windows.zip (List.range' 1 windows.length)).map
        (Prod.map (fun w => (w.score dim : ℚ)) id) := by
    rw [List.zipIdx_map, List.zipIdx_eq_zip_range']
  rw [recencyMean, weightedMean, totalWeight_zipIdx, List.length_map, weightedTotal, hzip,
    List.map_map, ← sum_map_div, weightedSum, buildWindowWeights_eq (by simpa using h),
    List.zip_map_right, foldl_add, List.map_map]
  refine (zero_add _).trans (congrArg List.sum (List.map_congr_left fun x _ => ?_))
  exact (mul_div_assoc _ _ _).symm

def percent : Dimension → ℕ
  | .topicKnowledge => 30
  | .topicDepth => 25
  | .coherence => 15
  | .languageQuality => 15
  | .confidence => 8
  | .originality => 7

theorem combine_eq_sum (dimensions : Dimension → ℚ) :
    combine dimensions =
      (Dimension.all.map fun dim => dimensions dim * dimensionWeights dim).sum := by
  rw [combine, foldl_add]
  exact zero_add _

theorem combine_mono {d d' : Dimension → ℚ} (h : ∀ dim, d dim ≤ d' dim) :
    combine d ≤ combine d' := by
  rw [combine_eq_sum, combine_eq_sum]
  refine List.sum_le_sum fun dim _ => mul_le_mul_of_nonneg_right (h dim) ?_
  cases dim <;> norm_num [dimensionWeights]

/-- The intelligence score, before it is rounded. -/
theorem combine_eq (dimensions : Dimension → ℚ) :
    combine dimensions =
      weightedMean (Dimension.all.map fun dim => (dimensions dim, percent dim)) := by
  have hshare (dim : Dimension) : (dimensionWeights dim : ℚ) = (percent dim : ℚ) / 100 := by
    cases dim <;> rfl
  have htotal : totalWeight (Dimension.all.map fun dim => (dimensions dim, percent dim)) = 100 :=
    rfl
  rw [combine_eq_sum, weightedMean, htotal, weightedTotal, List.map_map, ← sum_map_div]
  refine congrArg List.sum (List.map_congr_left fun dim _ => ?_)
  rw [hshare]
  exact (mul_div_assoc _ _ _).symm

/-! ### Rounding -/

theorem roundToTenth_eq (x : ℚ) : roundToTenth x = (⌊x * 10 + 1 / 2⌋ : ℚ) / 10 := rfl

theorem roundToTenth_monotone : Monotone (roundToTenth (ν := ℚ)) := by
  intro x y hxy
  have hfloor : ⌊x * 10 + 1 / 2⌋ ≤ ⌊y * 10 + 1 / 2⌋ := Int.floor_le_floor (by linarith)
  rw [roundToTenth_eq, roundToTenth_eq]
  exact div_le_div_of_nonneg_right (Int.cast_le.mpr hfloor) (by norm_num)

/-- A whole number is a tenth already. -/
theorem roundToTenth_intCast (n : ℤ) : roundToTenth (n : ℚ) = n := by
  have hfloor : ⌊(n : ℚ) * 10 + 1 / 2⌋ = n * 10 := by
    rw [Int.floor_eq_iff]
    push_cast
    constructor <;> linarith
  rw [roundToTenth_eq, hfloor]
  push_cast
  ring

theorem roundToTenth_mem {x : ℚ} {lo hi : ℤ} (h : x ∈ Set.Icc (lo : ℚ) hi) :
    roundToTenth x ∈ Set.Icc (lo : ℚ) hi := by
  rw [← roundToTenth_intCast lo, ← roundToTenth_intCast hi]
  exact ⟨roundToTenth_monotone h.1, roundToTenth_monotone h.2⟩

/-! ### The result -/

variable {windows : List WindowScores}

/-- The scores of a dimension, in the order of the windows. -/
def scoresOf (dim : Dimension) (windows : List WindowScores) : List ℚ :=
  windows.map fun w => (w.score dim : ℚ)

theorem dimensions_eq (h : windows ≠ []) (dim : Dimension) :
    (aggregateWindows windows : AggregatedScores ℚ).dimensions dim =
      roundToTenth (recencyMean (scoresOf dim windows)) := by
  rw [scoresOf, ← weightedSum_eq h, aggregateWindows, if_neg (by simpa using h)]

theorem intelligenceScore_eq (h : windows ≠ []) :
    (aggregateWindows windows : AggregatedScores ℚ).intelligenceScore =
      roundToTenth (combine (aggregateWindows windows).dimensions) := by
  rw [aggregateWindows, if_neg (by simpa using h)]

/-- A dimension does not leave the range of its scores, and the intelligence
score does not leave that of all scores; the rounding does not change this. -/
theorem aggregateWindows_mem (windows : List WindowScores) (hne : windows ≠ []) (lo hi : ℤ) :
    (∀ dim, (∀ w ∈ windows, w.score dim ∈ Set.Icc lo hi) →
      (aggregateWindows windows : AggregatedScores ℚ).dimensions dim ∈ Set.Icc (lo : ℚ) hi) ∧
    ((∀ w ∈ windows, ∀ dim, w.score dim ∈ Set.Icc lo hi) →
      (aggregateWindows windows : AggregatedScores ℚ).intelligenceScore ∈ Set.Icc (lo : ℚ) hi) := by
  have hdim (dim : Dimension) (h : ∀ w ∈ windows, w.score dim ∈ Set.Icc lo hi) :
      (aggregateWindows windows : AggregatedScores ℚ).dimensions dim ∈ Set.Icc (lo : ℚ) hi := by
    rw [dimensions_eq hne]
    refine roundToTenth_mem (recencyMean_mem_Icc (by simpa [scoresOf] using hne) fun x hx => ?_)
    obtain ⟨w, hw, rfl⟩ := List.mem_map.mp hx
    exact ⟨Int.cast_le.mpr (h w hw).1, Int.cast_le.mpr (h w hw).2⟩
  refine ⟨hdim, fun h => ?_⟩
  rw [intelligenceScore_eq hne, combine_eq]
  refine roundToTenth_mem (weightedMean_mem_Icc (Nat.succ_pos 99) fun s hs => ?_)
  obtain ⟨dim, -, rfl⟩ := List.mem_map.mp hs
  exact hdim dim fun w hw => h w hw dim

namespace Sample

/-- Two windows, the second better than the first. -/
def improving : List WindowScores := [⟨fun _ => 40, "short"⟩, ⟨fun _ => 90, "thorough"⟩]

theorem aggregateWindows_improving_mem :
    (aggregateWindows improving : AggregatedScores ℚ).dimensions .topicKnowledge ∈
      Set.Icc ((40 : ℤ) : ℚ) (90 : ℤ) := by
  have hle : (40 : ℤ) ≤ 90 := by norm_num
  refine (aggregateWindows_mem improving (List.cons_ne_nil _ _) 40 90).1 _ fun w hw => ?_
  rcases List.mem_cons.mp hw with rfl | hw
  · exact ⟨Int.le_refl _, hle⟩
  · cases List.mem_singleton.mp hw
    exact ⟨hle, Int.le_refl _⟩

end Sample

/-- Whoever improves in every dimension is scored higher than with the same
windows in any other order, and whoever fades is scored lower. -/
theorem aggregateWindows_mem_of_perm (windows reordered : List WindowScores)
    (hperm : reordered.Perm windows)
    (himproves : ∀ dim, windows.Pairwise fun w w' => w.score dim ≤ w'.score dim) :
    (∀ dim, (aggregateWindows reordered : AggregatedScores ℚ).dimensions dim ∈
      Set.Icc ((aggregateWindows windows.reverse).dimensions dim)
        ((aggregateWindows windows).dimensions dim)) ∧
    (aggregateWindows reordered : AggregatedScores ℚ).intelligenceScore ∈
      Set.Icc (aggregateWindows windows.reverse).intelligenceScore
        (aggregateWindows windows).intelligenceScore := by
  rcases eq_or_ne windows [] with rfl | hne
  · rw [hperm.eq_nil]
    exact ⟨fun dim => ⟨le_refl _, le_refl _⟩, le_refl _, le_refl _⟩
  have hne' : reordered ≠ [] := fun hnil => hne (hnil ▸ hperm.symm).eq_nil
  have hner : windows.reverse ≠ [] := by simpa using hne
  have hdim (dim : Dimension) : (aggregateWindows reordered : AggregatedScores ℚ).dimensions dim ∈
      Set.Icc ((aggregateWindows windows.reverse).dimensions dim)
        ((aggregateWindows windows).dimensions dim) := by
    have hsorted : (scoresOf dim windows).Pairwise (· ≤ ·) :=
      List.pairwise_map.mpr ((himproves dim).imp fun h => Int.cast_le.mpr h)
    obtain ⟨hlo, hhi⟩ := recencyMean_mem_of_perm (hperm.map _) hsorted
    rw [dimensions_eq hne, dimensions_eq hne', dimensions_eq hner, scoresOf, List.map_reverse]
    exact ⟨roundToTenth_monotone hlo, roundToTenth_monotone hhi⟩
  refine ⟨hdim, ?_⟩
  rw [intelligenceScore_eq hne, intelligenceScore_eq hne', intelligenceScore_eq hner]
  exact ⟨roundToTenth_monotone (combine_mono fun dim => (hdim dim).1),
    roundToTenth_monotone (combine_mono fun dim => (hdim dim).2)⟩

namespace Sample

theorem aggregateWindows_improving_le :
    (aggregateWindows improving.reverse : AggregatedScores ℚ).intelligenceScore ≤
      (aggregateWindows improving : AggregatedScores ℚ).intelligenceScore := by
  refine (aggregateWindows_mem_of_perm improving improving.reverse (List.reverse_perm _)
    fun dim => ?_).2.2
  refine List.pairwise_pair.mpr ?_
  show (40 : ℤ) ≤ 90
  norm_num

end Sample

end Greetup.VoiceIq
