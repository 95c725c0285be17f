import Greetup.Interleaving.Program

/-!
Any number of programs on one store, interleaved in any order.

A schedule is the list of who moves next; a move is one atomic command. The
trace records every command with its caller and its reply, newest first, so
that "this happened before that" and "this happened at most once" are
statements about a list.

The proof rule is `Outline.keeps_runs`. It asks for one invariant of the scene
(the store together with the trace) and, for every program, that each of its
commands keeps the invariant wherever the others may have taken the scene by
the time it is issued. What a program remembers between two of its own
commands are facts about the trace: the trace only grows, and the commands
marked as `key` in a program's own name are its own doing.
-/

namespace Greetup.Interleaving

open Prog

/-- One executed command. -/
structure Event (ι C : Type) (R : C → Type) where
  tid : ι
  cmd : C
  reply : R cmd

/-- The store and everything that has been done to it. -/
structure Scene (ι C : Type) (R : C → Type) (W : Type) where
  world : W
  trace : List (Event ι C R)

/-- A scene with what is left of every program. -/
structure Conf (ι C : Type) (R : C → Type) (α W : Type) where
  threads : ι → Prog C R α
  scene : Scene ι C R W

variable {ι C : Type} {R : C → Type} {W α β : Type}

section Semantics

variable (exec : (c : C) → W → R c × W)

/-- The scene after caller `i` has executed `c`. -/
def Scene.after (s : Scene ι C R W) (i : ι) (c : C) : Scene ι C R W :=
  ⟨(exec c s.world).2, ⟨i, c, (exec c s.world).1⟩ :: s.trace⟩

@[simp] theorem Scene.after_world (s : Scene ι C R W) (i : ι) (c : C) :
    (s.after exec i c).world = (exec c s.world).2 := rfl

@[simp] theorem Scene.after_trace (s : Scene ι C R W) (i : ι) (c : C) :
    (s.after exec i c).trace = ⟨i, c, (exec c s.world).1⟩ :: s.trace := rfl

variable [DecidableEq ι]

/-- Caller `i` executes its next command, if it has one left. -/
def Conf.step (conf : Conf ι C R α W) (i : ι) : Conf ι C R α W :=
  match conf.threads i with
  | .done _ => conf
  | .call c k =>
    { threads := Function.update conf.threads i (k (exec c conf.scene.world).1)
      scene := conf.scene.after exec i c }

def Conf.runs (conf : Conf ι C R α W) (sched : List ι) : Conf ι C R α W :=
  sched.foldl (Conf.step exec) conf

@[simp] theorem Conf.runs_nil (conf : Conf ι C R α W) : conf.runs exec [] = conf := rfl

@[simp] theorem Conf.runs_cons (conf : Conf ι C R α W) (i : ι) (sched : List ι) :
    conf.runs exec (i :: sched) = (conf.step exec i).runs exec sched := rfl

theorem Conf.runs_append (conf : Conf ι C R α W) (s t : List ι) :
    conf.runs exec (s ++ t) = (conf.runs exec s).runs exec t :=
  List.foldl_append

/-- The next move of caller `i` satisfies `P`; a caller that has returned does
not move. -/
def Conf.NextMeets (P : ι → C → Scene ι C R W → Prop) (conf : Conf ι C R α W) (i : ι) : Prop :=
  match conf.threads i with
  | .done _ => True
  | .call c _ => P i c conf.scene

/-- Every move of the schedule satisfies `P` in the scene in which it is made. -/
def Conf.Meets (P : ι → C → Scene ι C R W → Prop) (conf : Conf ι C R α W) : List ι → Prop
  | [] => True
  | i :: sched => conf.NextMeets P i ∧ (conf.step exec i).Meets P sched

@[simp] theorem Conf.meets_nil (P : ι → C → Scene ι C R W → Prop) (conf : Conf ι C R α W) :
    conf.Meets exec P [] := trivial

@[simp] theorem Conf.meets_cons (P : ι → C → Scene ι C R W → Prop) (conf : Conf ι C R α W)
    (i : ι) (sched : List ι) :
    conf.Meets exec P (i :: sched) ↔
      conf.NextMeets P i ∧ (conf.step exec i).Meets exec P sched := Iff.rfl

/-- What every move satisfies. -/
theorem Conf.meets_of_forall {P : ι → C → Scene ι C R W → Prop} (h : ∀ i c s, P i c s)
    (conf : Conf ι C R α W) (sched : List ι) : conf.Meets exec P sched := by
  induction sched generalizing conf with
  | nil => trivial
  | cons i sched ih =>
      refine ⟨?_, ih _⟩
      cases hi : conf.threads i with
      | done a => simp only [Conf.NextMeets, hi]
      | call c k =>
          simp only [Conf.NextMeets, hi]
          exact h i c conf.scene

theorem Conf.meets_append {P : ι → C → Scene ι C R W → Prop} {conf : Conf ι C R α W}
    {s t : List ι} :
    conf.Meets exec P (s ++ t) ↔ conf.Meets exec P s ∧ (conf.runs exec s).Meets exec P t := by
  induction s generalizing conf with
  | nil => exact (and_iff_right trivial).symm
  | cons i s ih => rw [List.cons_append, meets_cons, meets_cons, ih, and_assoc, runs_cons]

theorem Conf.step_of_done {conf : Conf ι C R α W} {i : ι} {a : α}
    (h : conf.threads i = .done a) : conf.step exec i = conf := by
  simp only [Conf.step, h]

theorem Conf.step_of_call {conf : Conf ι C R α W} {i : ι} {c : C} {k : R c → Prog C R α}
    (h : conf.threads i = .call c k) :
    conf.step exec i =
      { threads := Function.update conf.threads i (k (exec c conf.scene.world).1)
        scene := conf.scene.after exec i c } := by
  simp only [Conf.step, h]

omit [DecidableEq ι] in
theorem Conf.nextMeets_of_call {P : ι → C → Scene ι C R W → Prop} {conf : Conf ι C R α W}
    {i : ι} {c : C} {k : R c → Prog C R α} (h : conf.threads i = .call c k) :
    conf.NextMeets P i ↔ P i c conf.scene := by
  simp only [Conf.NextMeets, h]

instance {P : ι → C → Scene ι C R W → Prop} [∀ i c s, Decidable (P i c s)]
    (conf : Conf ι C R α W) (i : ι) : Decidable (conf.NextMeets P i) :=
  match h : conf.threads i with
  | .done _ => isTrue (by simp only [Conf.NextMeets, h])
  | .call c _ => decidable_of_iff (P i c conf.scene) (Conf.nextMeets_of_call h).symm

instance Conf.decidableMeets {P : ι → C → Scene ι C R W → Prop} [∀ i c s, Decidable (P i c s)] :
    (conf : Conf ι C R α W) → (sched : List ι) → Decidable (conf.Meets exec P sched)
  | _, [] => isTrue trivial
  | conf, i :: sched =>
    have := decidableMeets (P := P) (conf.step exec i) sched
    inferInstanceAs (Decidable (_ ∧ _))

/-- A property of configurations that every permitted move keeps holds
throughout every permitted run. -/
theorem Conf.runs_induction {P : ι → C → Scene ι C R W → Prop} {I : Conf ι C R α W → Prop}
    (hstep : ∀ conf i, I conf → conf.NextMeets P i → I (conf.step exec i))
    {conf : Conf ι C R α W} {sched : List ι} (h : I conf) (hm : conf.Meets exec P sched) :
    I (conf.runs exec sched) := by
  induction sched generalizing conf with
  | nil => exact h
  | cons i sched ih => exact ih (hstep conf i h hm.1) hm.2

theorem Conf.Meets.mono {P Q : ι → C → Scene ι C R W → Prop} {conf : Conf ι C R α W}
    {sched : List ι} (h : conf.Meets exec P sched) (hPQ : ∀ i c s, P i c s → Q i c s) :
    conf.Meets exec Q sched := by
  induction sched generalizing conf with
  | nil => trivial
  | cons i sched ih =>
      refine ⟨?_, ih h.2⟩
      cases hi : conf.threads i with
      | done a => simp only [Conf.NextMeets, hi]
      | call c k =>
          rw [Conf.nextMeets_of_call hi]
          exact hPQ i c conf.scene ((Conf.nextMeets_of_call hi).mp h.1)

/-- A condition on moves that shows in the trace: it is met by every move if
and only if every event meets it. -/
theorem Conf.forall_mem_runs_iff {P : ι → C → Scene ι C R W → Prop} {G : Event ι C R → Prop}
    (hPG : ∀ i c s, P i c s ↔ G ⟨i, c, (exec c s.world).1⟩) (conf : Conf ι C R α W)
    (sched : List ι) : (∀ e ∈ (conf.runs exec sched).scene.trace, G e) ↔
      (∀ e ∈ conf.scene.trace, G e) ∧ conf.Meets exec P sched := by
  induction sched generalizing conf with
  | nil => exact (and_iff_left trivial).symm
  | cons i sched ih =>
      rw [runs_cons, ih, meets_cons, ← and_assoc]
      refine and_congr_left fun _ => ?_
      cases hi : conf.threads i with
      | done a =>
          rw [Conf.step_of_done exec hi]
          simp only [Conf.NextMeets, hi, and_true]
      | call c k =>
          rw [Conf.step_of_call exec hi, Conf.nextMeets_of_call hi, hPG, Scene.after_trace,
            List.forall_mem_cons, and_comm]

/-- Two conditions that agree on every move of a configuration the moves keep
agree on whole schedules. -/
theorem Conf.meets_iff {P Q : ι → C → Scene ι C R W → Prop} {I : Conf ι C R α W → Prop}
    (hstep : ∀ conf i, I conf → I (conf.step exec i))
    (hiff : ∀ conf i, I conf → (conf.NextMeets P i ↔ conf.NextMeets Q i))
    {conf : Conf ι C R α W} {sched : List ι} (hI : I conf) :
    conf.Meets exec P sched ↔ conf.Meets exec Q sched := by
  induction sched generalizing conf with
  | nil => exact Iff.rfl
  | cons i sched ih =>
      rw [Conf.meets_cons, Conf.meets_cons, hiff conf i hI, ih (hstep conf i hI)]

/-- What a program can issue is what the trace shows of its caller. -/
def Conf.Footprint (P : C → Prop) (i : ι) (conf : Conf ι C R α W) : Prop :=
  (conf.threads i).Uses P ∧ ∀ e ∈ conf.scene.trace, e.tid = i → P e.cmd

theorem Conf.Footprint.step {P : C → Prop} {i : ι} {conf : Conf ι C R α W}
    (h : conf.Footprint P i) (j : ι) : (conf.step exec j).Footprint P i := by
  cases hj : conf.threads j with
  | done a =>
      rw [Conf.step_of_done exec hj]
      exact h
  | call c k =>
      rw [Conf.step_of_call exec hj]
      by_cases hij : i = j
      · subst hij
        have huses := h.1
        rw [hj, uses_call] at huses
        refine ⟨?_, List.forall_mem_cons.mpr ⟨fun _ => huses.1, h.2⟩⟩
        show (Function.update conf.threads i _ i).Uses P
        rw [Function.update_self]
        exact huses.2 _
      · refine ⟨?_, List.forall_mem_cons.mpr ⟨fun heq => absurd heq.symm hij, h.2⟩⟩
        show (Function.update conf.threads j _ i).Uses P
        rw [Function.update_of_ne hij]
        exact h.1

theorem Conf.Footprint.runs {P : C → Prop} {i : ι} {conf : Conf ι C R α W}
    (h : conf.Footprint P i) (sched : List ι) : (conf.runs exec sched).Footprint P i := by
  induction sched generalizing conf with
  | nil => exact h
  | cons j sched ih => exact ih (h.step exec j)

end Semantics

/-! ### Scenes that others may have moved on -/

/-- The scene `s'` is a later one than `s`, and in between caller `i` has
executed none of the commands `key` singles out. -/
def Scene.Since (key : C → Prop) (i : ι) (s s' : Scene ι C R W) : Prop :=
  ∃ l, s'.trace = l ++ s.trace ∧ ∀ e ∈ l, e.tid = i → ¬ key e.cmd

section Since

variable {key : C → Prop} {i j : ι} {s s' s'' : Scene ι C R W}

theorem Scene.Since.refl (key : C → Prop) (i : ι) (s : Scene ι C R W) : Scene.Since key i s s :=
  ⟨[], rfl, by simp⟩

theorem Scene.Since.trans (h : Scene.Since key i s s') (h' : Scene.Since key i s' s'') :
    Scene.Since key i s s'' := by
  obtain ⟨l, hl, hkey⟩ := h
  obtain ⟨l', hl', hkey'⟩ := h'
  refine ⟨l' ++ l, by rw [hl', hl, List.append_assoc], fun e he => ?_⟩
  rcases List.mem_append.mp he with he | he
  · exact hkey' e he
  · exact hkey e he

theorem Scene.Since.of_other (exec : (c : C) → W → R c × W) (s : Scene ι C R W) (c : C)
    (hij : i ≠ j) : Scene.Since key j s (s.after exec i c) :=
  ⟨[⟨i, c, (exec c s.world).1⟩], rfl, by simp [hij]⟩

theorem Scene.Since.of_not_key (exec : (c : C) → W → R c × W) (s : Scene ι C R W) (i : ι)
    {c : C} (hc : ¬ key c) : Scene.Since key i s (s.after exec i c) :=
  ⟨[⟨i, c, (exec c s.world).1⟩], rfl, by simp [hc]⟩

/-- What has happened stays in the trace. -/
theorem Scene.Since.mem (h : Scene.Since key i s s') {e : Event ι C R} (he : e ∈ s.trace) :
    e ∈ s'.trace := by
  obtain ⟨l, hl, -⟩ := h
  exact hl ▸ List.mem_append_right l he

/-- A key command that caller `i` has executed by the later scene it had
already executed in the earlier one. -/
theorem Scene.Since.mem_of_key (h : Scene.Since key i s s') {e : Event ι C R}
    (he : e ∈ s'.trace) (hi : e.tid = i) (hk : key e.cmd) : e ∈ s.trace := by
  obtain ⟨l, hl, hkey⟩ := h
  rw [hl] at he
  rcases List.mem_append.mp he with he | he
  · exact absurd hk (hkey e he hi)
  · exact he

end Since

/-! ### Events that happen at most once -/

/-- No two events of the trace satisfy `P`. -/
def Scene.AtMostOnce (P : Event ι C R → Bool) (s : Scene ι C R W) : Prop := s.trace.countP P ≤ 1

instance (P : Event ι C R → Bool) (s : Scene ι C R W) : Decidable (s.AtMostOnce P) :=
  inferInstanceAs (Decidable (_ ≤ _))

section AtMostOnce

variable {P : Event ι C R → Bool} {exec : (c : C) → W → R c × W} {i : ι} {c : C}
  {s : Scene ι C R W}

theorem Scene.AtMostOnce.after_of_false (h : s.AtMostOnce P)
    (hP : P ⟨i, c, (exec c s.world).1⟩ = false) : (s.after exec i c).AtMostOnce P := by
  simpa [AtMostOnce, List.countP_cons, hP] using h

theorem Scene.AtMostOnce.after_of_none (hnone : ∀ e ∈ s.trace, P e = false) :
    (s.after exec i c).AtMostOnce P := by
  have hzero : s.trace.countP P = 0 := List.countP_eq_zero.mpr (by simpa using hnone)
  simp only [AtMostOnce, Scene.after_trace, List.countP_cons, hzero]
  split <;> omega

theorem Scene.AtMostOnce.eq (h : s.AtMostOnce P) {e e' : Event ι C R} (he : e ∈ s.trace)
    (he' : e' ∈ s.trace) (hP : P e) (hP' : P e') : e = e' := by
  rw [AtMostOnce, List.countP_eq_length_filter] at h
  have hmem : e ∈ s.trace.filter P := List.mem_filter.mpr ⟨he, hP⟩
  have hmem' : e' ∈ s.trace.filter P := List.mem_filter.mpr ⟨he', hP'⟩
  generalize s.trace.filter P = l at h hmem hmem'
  rcases l with _ | ⟨x, _ | ⟨y, l⟩⟩
  · simp at hmem
  · rw [List.mem_singleton] at hmem hmem'
    rw [hmem, hmem']
  · simp at h

end AtMostOnce

/-! ### The proof rule -/

/-- What a proof about interleaved programs fixes: which commands it tracks,
the invariant, and under which circumstances a command may be issued. -/
structure Outline (ι : Type) {C : Type} {R : C → Type} {W : Type}
    (exec : (c : C) → W → R c × W) where
  key : C → Prop
  inv : Scene ι C R W → Prop
  allowed : ι → C → Scene ι C R W → Prop

namespace Outline

variable {exec : (c : C) → W → R c × W} (o : Outline ι exec) (i : ι)

/-- Program `p`, run by caller `i` from scene `s` on, keeps the invariant with
every command it issues, however the others move in between, and ends in `Q`. -/
def Keeps : Prog C R α → (α → Scene ι C R W → Prop) → Scene ι C R W → Prop
  | .done a, Q, s => ∀ s', Scene.Since o.key i s s' → o.inv s' → Q a s'
  | .call c k, Q, s => ∀ s', Scene.Since o.key i s s' → o.inv s' → o.allowed i c s' →
      o.inv (s'.after exec i c) ∧
        Keeps (k (exec c s'.world).1) Q (s'.after exec i c)

/-- The commands in `N` are not tracked and keep the invariant. -/
structure Quiet (N : C → Prop) : Prop where
  not_key : ∀ c, N c → ¬ o.key c
  inv_after : ∀ c, N c → ∀ s, o.inv s → o.allowed i c s → o.inv (s.after exec i c)

variable {o i} {Q Q' : α → Scene ι C R W → Prop} {s s' : Scene ι C R W}

@[simp] theorem keeps_done {a : α} :
    o.Keeps i (.done a) Q s ↔ ∀ s', Scene.Since o.key i s s' → o.inv s' → Q a s' := Iff.rfl

theorem keeps_call {c : C} {k : R c → Prog C R α} :
    o.Keeps i (.call c k) Q s ↔
      ∀ s', Scene.Since o.key i s s' → o.inv s' → o.allowed i c s' →
        o.inv (s'.after exec i c) ∧
          o.Keeps i (k (exec c s'.world).1) Q (s'.after exec i c) := Iff.rfl

/-- A program that is safe to run is still safe to run later. -/
theorem Keeps.later {p : Prog C R α} (h : o.Keeps i p Q s) (hs : Scene.Since o.key i s s') :
    o.Keeps i p Q s' := by
  cases p with
  | done a => exact fun s'' hs' => h s'' (hs.trans hs')
  | call c k => exact fun s'' hs' => h s'' (hs.trans hs')

theorem Keeps.imp {p : Prog C R α} (h : o.Keeps i p Q s)
    (hQ : ∀ a s', o.inv s' → Q a s' → Q' a s') : o.Keeps i p Q' s := by
  induction p generalizing s with
  | done a => exact fun s' hs hI => hQ a s' hI (h s' hs hI)
  | call c k ih =>
      intro s' hs hI ha
      exact ⟨(h s' hs hI ha).1, ih _ (h s' hs hI ha).2⟩

/-- A program that issues no key command ends in a scene its caller has reached
without one. -/
theorem Keeps.since {p : Prog C R α} (h : o.Keeps i p Q s) (hp : p.Uses fun c => ¬ o.key c) :
    o.Keeps i p (fun a s' => Q a s' ∧ Scene.Since o.key i s s') s := by
  induction p generalizing s with
  | done a => exact fun s' hs hI => ⟨h s' hs hI, hs⟩
  | call c k ih =>
      intro s' hs hI ha
      refine ⟨(h s' hs hI ha).1, (ih _ (h s' hs hI ha).2 (hp.2 _)).imp fun a s'' _ hQ => ?_⟩
      exact ⟨hQ.1, (hs.trans (.of_not_key exec s' i hp.1)).trans hQ.2⟩

/-- Sequencing: the first program ends where the second is safe to run. -/
theorem Keeps.bind {p : Prog C R α} {f : α → Prog C R β} {Q : β → Scene ι C R W → Prop}
    (h : o.Keeps i p (fun a s' => o.Keeps i (f a) Q s') s) (hs : o.inv s) :
    o.Keeps i (p >>= f) Q s := by
  induction p generalizing s with
  | done a => exact h s (.refl ..) hs
  | call c k ih =>
      intro s' hs' hI ha
      have hstep := h s' hs' hI ha
      exact ⟨hstep.1, ih _ hstep.2 hstep.1⟩

theorem Keeps.map {p : Prog C R α} {f : α → β} {Q : β → Scene ι C R W → Prop}
    (h : o.Keeps i p (fun a => Q (f a)) s) : o.Keeps i (f <$> p) Q s := by
  induction p generalizing s with
  | done a => exact h
  | call c k ih =>
      intro s' hs hI ha
      exact ⟨(h s' hs hI ha).1, ih _ (h s' hs hI ha).2⟩

/-- What a program was proved to end in holds once it has returned. -/
theorem Keeps.of_done {a : α} (h : o.Keeps i (.done a) Q s) (hI : o.inv s) : Q a s :=
  h s (.refl ..) hI

section Quiet

variable {N : C → Prop} (hN : o.Quiet i N)

include hN

/-- A program made of quiet commands ends in whatever holds from now on. -/
theorem Quiet.keeps {p : Prog C R α} (hp : p.Uses N)
    (hQ : ∀ a s', Scene.Since o.key i s s' → o.inv s' → Q a s') : o.Keeps i p Q s := by
  induction p generalizing s with
  | done a => exact hQ a
  | call c k ih =>
      intro s' hs hI ha
      refine ⟨hN.inv_after c hp.1 s' hI ha, ih _ (hp.2 _) fun a s'' hs' => ?_⟩
      exact hQ a s'' ((hs.trans (.of_not_key exec s' i (hN.not_key c hp.1))).trans hs')

/-- A quiet command first: the rest knows in which scene it was answered. -/
theorem Quiet.keeps_call {c : C} {k : R c → Prog C R α} (hc : N c)
    (hk : ∀ s', Scene.Since o.key i s s' → o.inv s' →
      Scene.Since o.key i s' (s'.after exec i c) → o.inv (s'.after exec i c) →
      o.Keeps i (k (exec c s'.world).1) Q (s'.after exec i c)) :
    o.Keeps i (.call c k) Q s := by
  intro s' hs hI ha
  have hI' := hN.inv_after c hc s' hI ha
  exact ⟨hI', hk s' hs hI (.of_not_key exec s' i (hN.not_key c hc)) hI'⟩

/-- Quiet commands first, then the rest. -/
theorem Quiet.keeps_bind {p : Prog C R α} {f : α → Prog C R β} {Q : β → Scene ι C R W → Prop}
    (hp : p.Uses N) (hs : o.inv s)
    (hf : ∀ a s', Scene.Since o.key i s s' → o.inv s' → o.Keeps i (f a) Q s') :
    o.Keeps i (p >>= f) Q s :=
  Keeps.bind (hN.keeps hp hf) hs

end Quiet

variable [DecidableEq ι] {R' : ι → α → Scene ι C R W → Prop} {conf : Conf ι C R α W}

/-- One permitted move keeps the invariant and leaves every program safe. -/
theorem keeps_step (hI : o.inv conf.scene)
    (hK : ∀ i, o.Keeps i (conf.threads i) (R' i) conf.scene) {i : ι}
    (ha : conf.NextMeets o.allowed i) :
    o.inv (conf.step exec i).scene ∧
      ∀ j, o.Keeps j ((conf.step exec i).threads j) (R' j) (conf.step exec i).scene := by
  cases hi : conf.threads i with
  | done a => rw [Conf.step_of_done exec hi]; exact ⟨hI, hK⟩
  | call c k =>
      have hmove := hK i
      rw [hi] at hmove
      obtain ⟨hI', hk⟩ :=
        hmove conf.scene (.refl ..) hI ((Conf.nextMeets_of_call hi).mp ha)
      rw [Conf.step_of_call exec hi]
      refine ⟨hI', fun j => ?_⟩
      by_cases hij : i = j
      · subst hij
        simpa only [Function.update_self] using hk
      · simp only [Function.update_of_ne (Ne.symm hij)]
        exact (hK j).later (.of_other exec conf.scene c hij)

/-- **The interleaving rule.** If every program is safe in the initial scene,
then in every permitted run the invariant holds and every program stays safe. -/
theorem keeps_runs (hI : o.inv conf.scene)
    (hK : ∀ i, o.Keeps i (conf.threads i) (R' i) conf.scene) {sched : List ι}
    (ha : conf.Meets exec o.allowed sched) :
    o.inv (conf.runs exec sched).scene ∧
      ∀ i, o.Keeps i ((conf.runs exec sched).threads i) (R' i)
        (conf.runs exec sched).scene :=
  Conf.runs_induction exec
    (I := fun c => o.inv c.scene ∧ ∀ i, o.Keeps i (c.threads i) (R' i) c.scene)
    (fun _ _ h hm => keeps_step h.1 h.2 hm) ⟨hI, hK⟩ ha

/-- What the invariant makes of the permission to move holds at every move. -/
theorem meets_of_inv {P : ι → C → Scene ι C R W → Prop} (hI : o.inv conf.scene)
    (hK : ∀ i, o.Keeps i (conf.threads i) (R' i) conf.scene)
    (hP : ∀ i c s, o.inv s → o.allowed i c s → P i c s) {sched : List ι}
    (ha : conf.Meets exec o.allowed sched) : conf.Meets exec P sched := by
  induction sched generalizing conf with
  | nil => trivial
  | cons i sched ih =>
      have hstep := keeps_step hI hK ha.1
      refine ⟨?_, ih hstep.1 hstep.2 ha.2⟩
      cases hi : conf.threads i with
      | done a => simp only [Conf.NextMeets, hi]
      | call c k =>
          have hallowed := (Conf.nextMeets_of_call hi).mp ha.1
          exact (Conf.nextMeets_of_call hi).mpr (hP i c _ hI hallowed)

end Outline

end Greetup.Interleaving
