import Greetup.Interleaving.Licence
import Mathlib.Order.Nat

/-!
Ids that are drawn from a source that never repeats itself. Whatever was drawn
in a run was drawn by one caller, and was not there when the run began.
-/

namespace Greetup.Interleaving

variable {ι C : Type} {R : C → Type} {W : Type}

/-- `draw` replies with the ids in a row, and nothing else moves the source on. -/
structure Source (exec : (c : C) → W → R c × W) (draw : C) (ids : W → ℕ → R draw)
    (drawn : W → ℕ) : Prop where
  ids_exec : ∀ c w, ids (exec c w).2 = ids w
  reply : ∀ w, (exec draw w).1 = ids w (drawn w)
  drawn_draw : ∀ w, drawn (exec draw w).2 = drawn w + 1
  drawn_exec : ∀ c w, c ≠ draw → drawn (exec c w).2 = drawn w

variable [DecidableEq ι] {exec : (c : C) → W → R c × W} {draw : C} {ids : W → ℕ → R draw}
  {drawn : W → ℕ} {w₀ : W} {s : Scene ι C R W} {i : ι} {c : C}

/-- The ids that were drawn in the run from `w₀`, each by one caller. -/
structure Scene.DrawnOnce (draw : C) (ids : W → ℕ → R draw) (drawn : W → ℕ) (w₀ : W)
    (s : Scene ι C R W) : Prop where
  ids_eq : ids s.world = ids w₀
  le : drawn w₀ ≤ drawn s.world
  drawn_of_mem : ∀ i id, (⟨draw, id⟩ : Told C R) ∈ s.told i →
    ∃ n, drawn w₀ ≤ n ∧ n < drawn s.world ∧ ids w₀ n = id
  once : ∀ i j id, (⟨draw, id⟩ : Told C R) ∈ s.told i → (⟨draw, id⟩ : Told C R) ∈ s.told j → i = j

theorem Scene.DrawnOnce.start : Scene.DrawnOnce (ι := ι) draw ids drawn w₀ ⟨w₀, []⟩ where
  ids_eq := rfl
  le := le_rfl
  drawn_of_mem _ _ hmem := absurd hmem List.not_mem_nil
  once _ _ _ hmem := absurd hmem List.not_mem_nil

theorem mem_told_after_draw (hsource : Source exec draw ids drawn) {j : ι} {id : R draw}
    (h : (⟨draw, id⟩ : Told C R) ∈ (s.after exec i c).told j) :
    i = j ∧ c = draw ∧ ids s.world (drawn s.world) = id ∨ (⟨draw, id⟩ : Told C R) ∈ s.told j := by
  rcases (Scene.mem_told_after _).mp h with ⟨hij, heq⟩ | hmem
  · obtain ⟨rfl, hreply⟩ := Sigma.mk.inj heq
    exact .inl ⟨hij, rfl, (hsource.reply _).symm.trans (eq_of_heq hreply).symm⟩
  · exact .inr hmem

/-- What is drawn now was not drawn before. -/
theorem Scene.DrawnOnce.not_mem (h : s.DrawnOnce draw ids drawn w₀)
    (hinj : Function.Injective (ids w₀)) (j : ι) :
    (⟨draw, ids s.world (drawn s.world)⟩ : Told C R) ∉ s.told j := by
  intro hmem
  obtain ⟨n, -, hlt, heq⟩ := h.drawn_of_mem j _ hmem
  rw [h.ids_eq] at heq
  exact absurd (hinj heq) hlt.ne

theorem Scene.DrawnOnce.after (h : s.DrawnOnce draw ids drawn w₀)
    (hsource : Source exec draw ids drawn) (hinj : Function.Injective (ids w₀)) :
    (s.after exec i c).DrawnOnce draw ids drawn w₀ := by
  have hle : drawn s.world ≤ drawn (exec c s.world).2 := by
    by_cases hdraw : c = draw
    · rw [hdraw, hsource.drawn_draw]
      exact Nat.le_succ _
    · rw [hsource.drawn_exec c _ hdraw]
  refine ⟨(hsource.ids_exec c _).trans h.ids_eq, h.le.trans hle, ?_, ?_⟩
  · intro j id hmem
    rcases mem_told_after_draw hsource hmem with ⟨-, rfl, heq⟩ | hmem
    · refine ⟨drawn s.world, h.le, ?_, h.ids_eq ▸ heq⟩
      rw [Scene.after_world, hsource.drawn_draw]
      exact Nat.lt_succ_self _
    · obtain ⟨n, hge, hlt, heq⟩ := h.drawn_of_mem j id hmem
      exact ⟨n, hge, hlt.trans_le hle, heq⟩
  · intro j k id hj hk
    rcases mem_told_after_draw hsource hj with ⟨rfl, -, rfl⟩ | hj
    · rcases mem_told_after_draw hsource hk with ⟨rfl, -, -⟩ | hk
      · rfl
      · exact absurd hk (h.not_mem hinj k)
    · rcases mem_told_after_draw hsource hk with ⟨rfl, -, rfl⟩ | hk
      · exact absurd hj (h.not_mem hinj j)
      · exact h.once j k id hj hk

end Greetup.Interleaving
