import Greetup.Interleaving.Program

/-!
Programs whose commands are programs themselves.

What one level takes for a single command may be several on the level below. A
program of the upper level is brought down by replacing each of its commands by
the program that carries it out. Run alone it does what it did before; what it
does among others is another matter.
-/

namespace Greetup.Interleaving

namespace Prog

variable {C C' : Type} {R : C → Type} {R' : C' → Type} {W W' α β : Type}

/-- Every command is replaced by the program that carries it out. -/
def expand (f : (c : C) → Prog C' R' (R c)) : Prog C R α → Prog C' R' α
  | .done a => .done a
  | .call c k => f c >>= fun r => (k r).expand f

variable {f : (c : C) → Prog C' R' (R c)}

@[simp] theorem expand_done (a : α) : (Prog.done a : Prog C R α).expand f = .done a := rfl

@[simp] theorem expand_call (c : C) (k : R c → Prog C R α) :
    (Prog.call c k).expand f = f c >>= fun r => (k r).expand f := rfl

theorem Uses.expand {Q : C → Prop} {P : C' → Prop} {p : Prog C R α} (hp : p.Uses Q)
    (hf : ∀ c, Q c → (f c).Uses P) : (p.expand f).Uses P := by
  induction p with
  | done a => trivial
  | call c k ih => exact (hf c hp.1).bind fun r => ih r (hp.2 r)

theorem uses_expand {P : C' → Prop} (hf : ∀ c, (f c).Uses P) (p : Prog C R α) :
    (p.expand f).Uses P := by
  induction p with
  | done a => trivial
  | call c k ih => exact (hf c).bind ih

/-- **Refinement of a program that runs alone.** If every command is carried
out as it should, seen through `view`, then so is the program. -/
theorem run_expand {exec : (c : C) → W → R c × W} {exec' : (c : C') → W' → R' c × W'}
    (view : W' → W) {I : W' → Prop}
    (hf : ∀ c w, I w → ((f c).run exec' w).1 = (exec c (view w)).1 ∧
      view ((f c).run exec' w).2 = (exec c (view w)).2 ∧ I ((f c).run exec' w).2)
    (p : Prog C R α) {w : W'} (hw : I w) :
    ((p.expand f).run exec' w).1 = (p.run exec (view w)).1 ∧
      view ((p.expand f).run exec' w).2 = (p.run exec (view w)).2 ∧
        I ((p.expand f).run exec' w).2 := by
  induction p generalizing w with
  | done a => exact ⟨rfl, rfl, hw⟩
  | call c k ih =>
      obtain ⟨hreply, hview, hI⟩ := hf c w hw
      rw [expand_call, run_bind, run_call, ← hreply, ← hview]
      exact ih _ hI

end Prog

end Greetup.Interleaving
