import Mathlib.Logic.Function.Basic

/-!
Programs that act on a shared store one atomic command at a time.

A server handler is a sequence of `await`s. What happens inside one command is
atomic; what happens between two commands is not, and everything that can go
wrong under concurrency goes wrong there. A program is therefore kept as the
tree of its commands: the next command, and for every reply to it the program
that follows. Run alone it is an ordinary function of the store (`Prog.run`);
run with others it is advanced one command at a time (`Interleaving.Schedule`).
-/

namespace Greetup.Interleaving

/-- A program over commands `C`, where the command `c` is answered by an
element of `R c`. -/
inductive Prog (C : Type) (R : C → Type) (α : Type) : Type
  | done (a : α)
  | call (c : C) (k : R c → Prog C R α)

namespace Prog

variable {C : Type} {R : C → Type} {W α β γ : Type}

def bind : Prog C R α → (α → Prog C R β) → Prog C R β
  | .done a, f => f a
  | .call c k, f => .call c fun r => (k r).bind f

instance : Monad (Prog C R) where
  pure := .done
  bind := bind

/-- The program that issues one command and returns its reply. -/
def perform (c : C) : Prog C R (R c) := .call c .done

@[simp] theorem pure_eq (a : α) : (pure a : Prog C R α) = .done a := rfl

@[simp] theorem done_bind (a : α) (f : α → Prog C R β) : (Prog.done a >>= f) = f a := rfl

@[simp] theorem call_bind (c : C) (k : R c → Prog C R α) (f : α → Prog C R β) :
    (Prog.call c k >>= f) = .call c fun r => k r >>= f := rfl

@[simp] theorem perform_bind (c : C) (f : R c → Prog C R α) :
    (perform c >>= f) = .call c f := rfl

theorem bind_done (p : Prog C R α) : (p >>= fun a => .done a) = p := by
  induction p with
  | done a => rfl
  | call c k ih => simp only [call_bind, ih]

theorem bind_bind (p : Prog C R α) (f : α → Prog C R β) (g : β → Prog C R γ) :
    (p >>= f >>= g) = p >>= fun a => f a >>= g := by
  induction p with
  | done a => rfl
  | call c k ih => simp only [call_bind, ih]

instance : LawfulMonad (Prog C R) :=
  LawfulMonad.mk' _ bind_done (fun _ _ => rfl) bind_bind

/-! ### Running alone -/

/-- The result and the final store of a program nothing interferes with. -/
def run (exec : (c : C) → W → R c × W) : Prog C R α → W → α × W
  | .done a, w => (a, w)
  | .call c k, w => (k (exec c w).1).run exec (exec c w).2

section Run

variable (exec : (c : C) → W → R c × W)

@[simp] theorem run_done (a : α) (w : W) : (Prog.done a : Prog C R α).run exec w = (a, w) := rfl

@[simp] theorem run_call (c : C) (k : R c → Prog C R α) (w : W) :
    (Prog.call c k).run exec w = (k (exec c w).1).run exec (exec c w).2 := rfl

@[simp] theorem run_perform (c : C) (w : W) :
    (perform c : Prog C R (R c)).run exec w = exec c w := rfl

@[simp] theorem run_bind (p : Prog C R α) (f : α → Prog C R β) (w : W) :
    (p >>= f).run exec w = (f (p.run exec w).1).run exec (p.run exec w).2 := by
  induction p generalizing w with
  | done a => rfl
  | call c k ih => simp only [call_bind, run_call, ih]

@[simp] theorem run_map (f : α → β) (p : Prog C R α) (w : W) :
    (f <$> p).run exec w = (f (p.run exec w).1, (p.run exec w).2) :=
  run_bind exec p (fun a => .done (f a)) w

end Run

/-! ### The commands a program can issue -/

/-- Every command the program can issue, whatever it is answered, satisfies `P`. -/
def Uses (P : C → Prop) : Prog C R α → Prop
  | .done _ => True
  | .call c k => P c ∧ ∀ r, (k r).Uses P

section Uses

variable {P Q : C → Prop}

@[simp] theorem uses_done (a : α) : (Prog.done a : Prog C R α).Uses P := trivial

@[simp] theorem uses_call (c : C) (k : R c → Prog C R α) :
    (Prog.call c k).Uses P ↔ P c ∧ ∀ r, (k r).Uses P := Iff.rfl

@[simp] theorem uses_perform (c : C) : (perform c : Prog C R (R c)).Uses P ↔ P c :=
  ⟨fun h => h.1, fun h => ⟨h, fun _ => trivial⟩⟩

theorem Uses.bind {p : Prog C R α} {f : α → Prog C R β} (hp : p.Uses P)
    (hf : ∀ a, (f a).Uses P) : (p >>= f).Uses P := by
  induction p with
  | done a => exact hf a
  | call c k ih => exact ⟨hp.1, fun r => ih r (hp.2 r)⟩

theorem Uses.map {p : Prog C R α} (hp : p.Uses P) (f : α → β) : (f <$> p).Uses P :=
  hp.bind fun _ => trivial

theorem Uses.mono {p : Prog C R α} (hp : p.Uses P) (h : ∀ c, P c → Q c) : p.Uses Q := by
  induction p with
  | done a => trivial
  | call c k ih => exact ⟨h c hp.1, fun r => ih r (hp.2 r)⟩

/-- A property of the store that every command of a program keeps is kept by
the program. -/
theorem Uses.run_keeps {exec : (c : C) → W → R c × W} {I : W → Prop}
    {p : Prog C R α} (hp : p.Uses P) (hI : ∀ c, P c → ∀ w, I w → I (exec c w).2)
    {w : W} (hw : I w) : I (p.run exec w).2 := by
  induction p generalizing w with
  | done a => exact hw
  | call c k ih => exact ih _ (hp.2 _) (hI c hp.1 w hw)

end Uses

/-! ### The commands of one run -/

/-- `S` relates the store before and after every command of the run from `w`. -/
def Steps (exec : (c : C) → W → R c × W) (S : W → W → Prop) : Prog C R α → W → Prop
  | .done _, _ => True
  | .call c k, w => S w (exec c w).2 ∧ (k (exec c w).1).Steps exec S (exec c w).2

section Steps

variable {exec : (c : C) → W → R c × W} {S : W → W → Prop} {P : C → Prop}

@[simp] theorem steps_done (a : α) (w : W) : (Prog.done a : Prog C R α).Steps exec S w := trivial

@[simp] theorem steps_call (c : C) (k : R c → Prog C R α) (w : W) :
    (Prog.call c k).Steps exec S w ↔
      S w (exec c w).2 ∧ (k (exec c w).1).Steps exec S (exec c w).2 := Iff.rfl

@[simp] theorem steps_perform (c : C) (w : W) :
    (perform c : Prog C R (R c)).Steps exec S w ↔ S w (exec c w).2 := and_iff_left trivial

/-- The run of a sequence is one run and then the other. -/
theorem steps_bind (p : Prog C R α) (f : α → Prog C R β) (w : W) :
    (p >>= f).Steps exec S w ↔
      p.Steps exec S w ∧ (f (p.run exec w).1).Steps exec S (p.run exec w).2 := by
  induction p generalizing w with
  | done a => exact (and_iff_right trivial).symm
  | call c k ih => rw [call_bind, steps_call, steps_call, ih, and_assoc, run_call]

theorem Uses.steps {p : Prog C R α} (hp : p.Uses P) (hS : ∀ c, P c → ∀ w, S w (exec c w).2)
    (w : W) : p.Steps exec S w := by
  induction p generalizing w with
  | done a => trivial
  | call c k ih => exact ⟨hS c hp.1 w, ih _ (hp.2 _) _⟩

end Steps

end Prog

end Greetup.Interleaving
