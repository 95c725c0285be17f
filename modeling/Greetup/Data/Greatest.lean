import Mathlib.Data.List.MinMax
import Mathlib.Logic.Function.Basic

/-!
The greatest element for each key, in one pass over a list.
-/

namespace Greetup.Data

variable {α κ τ : Type} [DecidableEq κ] [LinearOrder τ] (key : α → κ) (rank : α → τ)

/-- An element takes the place of a smaller one of its key. -/
def keepGreatest (m : κ → Option α) (a : α) : κ → Option α :=
  Function.update m (key a) (List.argAux (fun b c => rank c < rank b) (m (key a)) a)

/-- Each key only sees its own elements. -/
theorem foldl_keepGreatest (l : List α) (m : κ → Option α) (k : κ) :
    l.foldl (keepGreatest key rank) m k =
      (l.filter (key · = k)).foldl (List.argAux fun b c => rank c < rank b) (m k) := by
  induction l generalizing m with
  | nil => rfl
  | cons a l ih =>
      rw [List.foldl_cons, ih]
      by_cases h : key a = k
      · subst h
        rw [List.filter_cons_of_pos (by simp), List.foldl_cons, keepGreatest, Function.update_self]
      · rw [List.filter_cons_of_neg (by simpa using h), keepGreatest,
          Function.update_of_ne (Ne.symm h)]

theorem greatest_eq_argmax (l : List α) (k : κ) :
    l.foldl (keepGreatest key rank) (fun _ => none) k = (l.filter (key · = k)).argmax rank :=
  foldl_keepGreatest key rank l (fun _ => none) k

theorem greatest_eq_some_iff {l : List α} {k : κ} {a : α}
    (hinj : ∀ a ∈ l, ∀ b ∈ l, rank a = rank b → a = b) :
    l.foldl (keepGreatest key rank) (fun _ => none) k = some a ↔
      a ∈ l ∧ key a = k ∧ ∀ b ∈ l, key b = k → rank b ≤ rank a := by
  rw [greatest_eq_argmax]
  constructor
  · intro h
    obtain ⟨hmem, hkey⟩ := List.mem_filter.mp (List.argmax_mem h)
    refine ⟨hmem, of_decide_eq_true hkey, fun b hb hkb => ?_⟩
    exact List.le_of_mem_argmax (List.mem_filter.mpr ⟨hb, decide_eq_true hkb⟩) h
  · rintro ⟨hmem, hkey, hmax⟩
    have hfilter : a ∈ l.filter (key · = k) := List.mem_filter.mpr ⟨hmem, decide_eq_true hkey⟩
    cases h : (l.filter (key · = k)).argmax rank with
    | none =>
        rw [List.argmax_eq_none.mp h] at hfilter
        exact absurd hfilter List.not_mem_nil
    | some b =>
        obtain ⟨hb, hkb⟩ := List.mem_filter.mp (List.argmax_mem h)
        have hle := List.le_of_mem_argmax hfilter h
        have hge := hmax b hb (of_decide_eq_true hkb)
        rw [hinj b hb a hmem (le_antisymm hge hle)]

theorem isSome_greatest_iff {l : List α} {k : κ} :
    (l.foldl (keepGreatest key rank) (fun _ => none) k).isSome ↔ ∃ a ∈ l, key a = k := by
  rw [greatest_eq_argmax, Option.isSome_iff_ne_none, ne_eq, List.argmax_eq_none,
    List.filter_eq_nil_iff]
  simp

end Greetup.Data
