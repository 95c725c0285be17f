import Mathlib.Logic.Basic

/-!
Computations that change a state and may throw.

What has been changed before an exception is thrown stays changed: nothing is
undone but by a handler. `Yields` and `Throws` say how a computation ends from a
given state, and have a rule for each way to put computations together.
-/

namespace Greetup.Data

variable {σ ε α β : Type}

abbrev Throwing (σ ε : Type) := ExceptT ε (StateM σ)

namespace Throwing

/-- How the computation ends, and the state in which it does. -/
def exec (m : Throwing σ ε α) (w : σ) : Except ε α × σ := (m.run.run w).run

/-- It returns the value and leaves the state. -/
def Yields (m : Throwing σ ε α) (w : σ) (a : α) (v : σ) : Prop := m.exec w = (.ok a, v)

/-- It throws, in a state of this kind. -/
def Throws (m : Throwing σ ε α) (w : σ) (P : σ → Prop) : Prop :=
  ∃ e v, m.exec w = (.error e, v) ∧ P v

/-- A command that throws or not, and has no effect if it does. -/
def attempt (refused : Bool) (e : ε) (f : σ → α × σ) : Throwing σ ε α :=
  if refused then throw e else modifyGet f

/-- However it ends, what the view shows of the state is as before. -/
def Keeps {γ : Type} (view : σ → γ) (m : Throwing σ ε α) : Prop :=
  ∀ w, view (m.exec w).2 = view w

variable {m : Throwing σ ε α} {f : α → Throwing σ ε β} {w v u : σ} {a : α} {b : β}
  {P Q : σ → Prop}

theorem exec_bind : (m >>= f).exec w =
    match m.exec w with
    | (.ok a, v) => (f a).exec v
    | (.error e, v) => (.error e, v) := by
  rw [exec, exec, ExceptT.run_bind, StateT.run_bind, Id.run_bind]
  rcases (m.run.run w).run with ⟨_ | _, v⟩ <;> rfl

theorem exec_tryCatch {handler : ε → Throwing σ ε α} : (tryCatch m handler).exec w =
    match m.exec w with
    | (.ok a, v) => (.ok a, v)
    | (.error e, v) => (handler e).exec v := by
  rw [exec, exec, ExceptT.run_tryCatch, StateT.run_bind, Id.run_bind]
  rcases (m.run.run w).run with ⟨_ | _, v⟩ <;> rfl

/-! ### Returning -/

@[simp] theorem yields_pure : (pure a : Throwing σ ε α).Yields w a w := rfl

theorem Yields.exec_bind (h : m.Yields w a v) : (m >>= f).exec w = (f a).exec v := by
  rw [Throwing.exec_bind, h]

theorem Yields.bind (h : m.Yields w a v) (hf : (f a).Yields v b u) : (m >>= f).Yields w b u :=
  h.exec_bind.trans hf

theorem Yields.snd_exec (h : m.Yields w a v) : (m.exec w).2 = v := congrArg Prod.snd h

theorem Yields.tryCatch {handler : ε → Throwing σ ε α} (h : m.Yields w a v) :
    (tryCatch m handler).Yields w a v := by
  rw [Yields, exec_tryCatch, h]

theorem yields_attempt {refused : Bool} {e : ε} {f : σ → α × σ} (h : refused = false) :
    (attempt refused e f).Yields w (f w).1 (f w).2 := by
  subst h
  rfl

/-! ### Throwing -/

theorem throws_throw {e : ε} (h : P w) : (throw e : Throwing σ ε α).Throws w P := ⟨e, w, rfl, h⟩

theorem Throws.mono (h : m.Throws w P) (hPQ : ∀ v, P v → Q v) : m.Throws w Q := by
  obtain ⟨e, v, he, hv⟩ := h
  exact ⟨e, v, he, hPQ v hv⟩

/-- What comes behind is not run. -/
theorem Throws.bind (h : m.Throws w P) : (m >>= f).Throws w P := by
  obtain ⟨e, v, he, hv⟩ := h
  exact ⟨e, v, by rw [exec_bind, he], hv⟩

theorem Yields.bind_throws (h : m.Yields w a v) (hf : (f a).Throws v P) :
    (m >>= f).Throws w P := by
  obtain ⟨e, u, he, hu⟩ := hf
  exact ⟨e, u, h.exec_bind.trans he, hu⟩

/-- A handler starts where the exception was thrown. -/
theorem Throws.catch_throws {handler : ε → Throwing σ ε α} (h : m.Throws w P)
    (hhandler : ∀ e v, P v → (handler e).Throws v Q) : (tryCatch m handler).Throws w Q := by
  obtain ⟨e, v, he, hv⟩ := h
  obtain ⟨e', u, he', hu⟩ := hhandler e v hv
  exact ⟨e', u, by rw [exec_tryCatch, he]; exact he', hu⟩

theorem throws_attempt {refused : Bool} {e : ε} {f : σ → α × σ} (h : refused = true) (hw : P w) :
    (attempt refused e f).Throws w P := by
  subst h
  exact ⟨e, w, rfl, hw⟩

theorem Throws.snd_exec (h : m.Throws w (· = v)) : (m.exec w).2 = v := by
  obtain ⟨e, u, he, rfl⟩ := h
  rw [he]

/-- It throws in one state only. -/
theorem Throws.of_exec {e : ε} (h : m.Throws w P) (he : m.exec w = (.error e, v)) : P v := by
  obtain ⟨e', u, he', hu⟩ := h
  rw [he] at he'
  cases he'
  exact hu

/-! ### Keeping -/

section Keeps

variable {γ : Type} {view : σ → γ}

theorem Keeps.pure (a : α) : Keeps view (pure a : Throwing σ ε α) := fun _ => rfl

theorem Keeps.throw (e : ε) : Keeps view (throw e : Throwing σ ε α) := fun _ => rfl

theorem Keeps.bind (hm : Keeps view m) (hf : ∀ a, Keeps view (f a)) : Keeps view (m >>= f) := by
  intro w
  have hw := hm w
  rw [exec_bind]
  rcases h : m.exec w with ⟨e | a, v⟩ <;> rw [h] at hw
  · exact hw
  · exact (hf a v).trans hw

theorem Keeps.attempt {refused : Bool} {e : ε} {f : σ → α × σ} (h : ∀ w, view (f w).2 = view w) :
    Keeps view (attempt refused e f) := by
  intro w
  cases refused
  · exact h w
  · rfl

/-- A computation that keeps the state ends as it has begun. -/
theorem Keeps.ends (h : Keeps id m) (w : σ) : m.Throws w (· = w) ∨ ∃ a, m.Yields w a w := by
  have hw : (m.exec w).2 = w := h w
  rcases he : m.exec w with ⟨e | a, v⟩ <;> rw [he] at hw <;> dsimp only at hw <;> subst hw
  · exact .inl ⟨e, v, he, rfl⟩
  · exact .inr ⟨a, he⟩

end Keeps

end Throwing

end Greetup.Data
