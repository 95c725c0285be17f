import Greetup.Interleaving.Schedule

/-!
What a program has been told before it acts.

A handler decides on its next command by the replies to its earlier ones, and by
nothing else. A licence says of a command which replies its caller must have
had; a program is licensed if it has had them whenever it issues the command,
whatever it was answered in between. In a run with others the replies are those
that the trace shows of the caller, so what a caller does is always something
that it was once told it may do. Whether that still holds when it does it is
another question.
-/

namespace Greetup.Interleaving

open Prog

/-- A command and the reply to it. -/
abbrev Told (C : Type) (R : C → Type) : Type := (c : C) × R c

variable {ι C : Type} {R : C → Type} {W α β : Type}

/-- The newest reply to `c` in the history is `r`. -/
def Newest (c : C) (r : R c) (h : List (Told C R)) : Prop :=
  ∃ l rest, h = l ++ ⟨c, r⟩ :: rest ∧ ∀ e ∈ l, e.1 ≠ c

section Newest

variable {c : C} {r r' : R c} {h l : List (Told C R)}

theorem Newest.mem (hn : Newest c r h) : (⟨c, r⟩ : Told C R) ∈ h := by
  obtain ⟨l, rest, rfl, -⟩ := hn
  exact List.mem_append_right l List.mem_cons_self

theorem newest_cons : Newest c r (⟨c, r⟩ :: h) := by
  refine ⟨[], h, rfl, ?_⟩
  intro e he
  cases he

theorem Newest.append (hn : Newest c r h) (hl : ∀ e ∈ l, e.1 ≠ c) : Newest c r (l ++ h) := by
  obtain ⟨l', rest, rfl, hl'⟩ := hn
  refine ⟨l ++ l', rest, by rw [List.append_assoc], ?_⟩
  intro e he
  rcases List.mem_append.mp he with he | he
  · exact hl e he
  · exact hl' e he

theorem Newest.cons {e : Told C R} (hn : Newest c r h) (he : e.1 ≠ c) : Newest c r (e :: h) :=
  hn.append (l := [e]) (by
    intro e' he'
    cases List.mem_singleton.mp he'
    exact he)

theorem Newest.of_cons {e : Told C R} (hn : Newest c r (e :: h)) (he : e.1 ≠ c) :
    Newest c r h := by
  obtain ⟨l, rest, heq, hl⟩ := hn
  cases l with
  | nil =>
      cases heq
      exact absurd rfl he
  | cons e' l =>
      obtain ⟨-, rfl⟩ := List.cons_eq_cons.mp heq
      exact ⟨l, rest, rfl, fun e' he' => hl e' (List.mem_cons_of_mem _ he')⟩

theorem Newest.unique (hn : Newest c r h) (hn' : Newest c r' h) : r = r' := by
  obtain ⟨l, rest, rfl, hl⟩ := hn
  obtain ⟨l', rest', heq, hl'⟩ := hn'
  rcases List.append_eq_append_iff.mp heq with ⟨m, hm, hrest⟩ | ⟨m, hm, hrest⟩
  · cases m with
    | nil =>
        rw [List.nil_append] at hrest
        cases hrest
        rfl
    | cons e m =>
        obtain ⟨he, -⟩ := List.cons_eq_cons.mp hrest
        have hmem : e ∈ l' := hm ▸ List.mem_append_right l List.mem_cons_self
        rw [← he] at hmem
        exact absurd rfl (hl' _ hmem)
  · cases m with
    | nil =>
        rw [List.nil_append] at hrest
        cases hrest
        rfl
    | cons e m =>
        obtain ⟨he, -⟩ := List.cons_eq_cons.mp hrest
        have hmem : e ∈ l := hm ▸ List.mem_append_right l' List.mem_cons_self
        rw [← he] at hmem
        exact absurd rfl (hl _ hmem)

end Newest

/-- From the history `h` on, newest first, every command of the program has its
licence, and the result satisfies `Q`; each reply is that of some store. -/
def Prog.Licensed (exec : (c : C) → W → R c × W) (K : List (Told C R) → C → Prop)
    (Q : List (Told C R) → α → Prop) : Prog C R α → List (Told C R) → Prop
  | .done a, h => Q h a
  | .call c k, h =>
      K h c ∧ ∀ w, (k (exec c w).1).Licensed exec K Q (⟨c, (exec c w).1⟩ :: h)

namespace Prog

variable {exec : (c : C) → W → R c × W} {K : List (Told C R) → C → Prop}
  {Q Q' : List (Told C R) → α → Prop} {T : List (Told C R) → β → Prop} {h : List (Told C R)}
  {p : Prog C R α}

@[simp] theorem licensed_done {a : α} :
    (Prog.done a : Prog C R α).Licensed exec K Q h ↔ Q h a := Iff.rfl

@[simp] theorem licensed_call {c : C} {k : R c → Prog C R α} :
    (Prog.call c k).Licensed exec K Q h ↔
      K h c ∧ ∀ w, (k (exec c w).1).Licensed exec K Q (⟨c, (exec c w).1⟩ :: h) := Iff.rfl

theorem Licensed.mono (hp : p.Licensed exec K Q h) (hQ : ∀ h a, Q h a → Q' h a) :
    p.Licensed exec K Q' h := by
  induction p generalizing h with
  | done a => exact hQ h a hp
  | call c k ih => exact ⟨hp.1, fun w => ih _ (hp.2 w)⟩

theorem Licensed.bind {f : α → Prog C R β} (hp : p.Licensed exec K Q h)
    (hf : ∀ h' a, Q h' a → (f a).Licensed exec K T h') : (p >>= f).Licensed exec K T h := by
  induction p generalizing h with
  | done a => exact hf h a hp
  | call c k ih => exact ⟨hp.1, fun w => ih _ (hp.2 w)⟩

theorem Licensed.map {f : α → β} (hp : p.Licensed exec K (fun h' a => T h' (f a)) h) :
    (f <$> p).Licensed exec K T h :=
  hp.bind fun _ _ h' => h'

/-- Two licences are one. -/
theorem Licensed.and {K' : List (Told C R) → C → Prop} (hp : p.Licensed exec K Q h)
    (hp' : p.Licensed exec K' Q' h) :
    p.Licensed exec (fun h c => K h c ∧ K' h c) (fun h a => Q h a ∧ Q' h a) h := by
  induction p generalizing h with
  | done a => exact ⟨hp, hp'⟩
  | call c k ih => exact ⟨⟨hp.1, hp'.1⟩, fun w => ih _ (hp.2 w) (hp'.2 w)⟩

/-- Nothing is forgotten, and only the commands of the program are added. -/
theorem Licensed.uses {P : C → Prop} (hp : p.Licensed exec K Q h) (huses : p.Uses P) :
    p.Licensed exec K (fun h' a => (∃ l, h' = l ++ h ∧ ∀ e ∈ l, P e.1) ∧ Q h' a) h := by
  induction p generalizing h with
  | done a =>
      refine ⟨⟨[], rfl, ?_⟩, hp⟩
      intro e he
      cases he
  | call c k ih =>
      refine ⟨hp.1, fun w => (ih _ (hp.2 w) (huses.2 _)).mono ?_⟩
      rintro h' a ⟨⟨l, rfl, hl⟩, hQ⟩
      refine ⟨⟨l ++ [⟨c, (exec c w).1⟩], ?_, ?_⟩, hQ⟩
      · rw [List.append_assoc, List.singleton_append]
      · intro e he
        rcases List.mem_append.mp he with he | he
        · exact hl e he
        · cases List.mem_singleton.mp he
          exact huses.1

theorem uses_true (p : Prog C R α) : p.Uses fun _ => True := by
  induction p with
  | done a => trivial
  | call c k ih => exact ⟨trivial, ih⟩

theorem Licensed.grows (hp : p.Licensed exec K Q h) :
    p.Licensed exec K (fun h' a => h ⊆ h' ∧ Q h' a) h := by
  refine (hp.uses (uses_true p)).mono ?_
  rintro h' a ⟨⟨l, rfl, -⟩, hQ⟩
  exact ⟨List.subset_append_right l h, hQ⟩

/-- A program whose commands need no more than has been told already. -/
theorem Uses.licensed_of_subset {P : C → Prop} {h₀ : List (Told C R)} (hp : p.Uses P)
    (hK : ∀ h, h₀ ⊆ h → ∀ c, P c → K h c) (hsub : h₀ ⊆ h) :
    p.Licensed exec K (fun h' _ => h₀ ⊆ h') h := by
  induction p generalizing h with
  | done a => exact hsub
  | call c k ih =>
      refine ⟨hK h hsub c hp.1, fun w => ih _ (hp.2 _) ?_⟩
      intro e he
      exact List.mem_cons_of_mem _ (hsub he)

/-- A program whose commands need no licence. -/
theorem Uses.licensed {P : C → Prop} (hp : p.Uses P) (hK : ∀ h c, P c → K h c) :
    p.Licensed exec K (fun _ _ => True) h :=
  (hp.licensed_of_subset (fun h _ => hK h) (List.nil_subset h)).mono fun _ _ _ => trivial

end Prog

/-! ### In a run with others -/

section Run

variable [DecidableEq ι]

/-- What caller `i` has been told. -/
def Scene.told (i : ι) (s : Scene ι C R W) : List (Told C R) :=
  s.trace.filterMap fun e => if e.tid = i then some ⟨e.cmd, e.reply⟩ else none

variable {s : Scene ι C R W} {i j : ι} {c : C} (exec : (c : C) → W → R c × W)

theorem Scene.mem_told {e : Told C R} : e ∈ s.told i ↔ ⟨i, e.1, e.2⟩ ∈ s.trace := by
  rw [told, List.mem_filterMap]
  constructor
  · rintro ⟨⟨j, c, r⟩, hmem, heq⟩
    split at heq
    · rename_i hij
      cases hij
      cases heq
      exact hmem
    · cases heq
  · intro hmem
    exact ⟨_, hmem, if_pos rfl⟩

/-- The newest reply, and what the caller had been told before it. -/
theorem Scene.told_eq_cons {e : Told C R} {h : List (Told C R)}
    (heq : s.told i = e :: h) : ∃ l rest, s.trace = l ++ ⟨i, e.1, e.2⟩ :: rest ∧
      (∀ e' ∈ l, e'.tid ≠ i) ∧ Scene.told i ⟨s.world, rest⟩ = h := by
  obtain ⟨l, ⟨j, c, r⟩, rest, htrace, hnone, hsome, hrest⟩ := List.filterMap_eq_cons_iff.mp heq
  refine ⟨l, rest, ?_, fun e' he' htid => ?_, hrest⟩
  · split at hsome
    · rename_i htid
      cases htid
      cases hsome
      exact htrace
    · cases hsome
  · have hnone := hnone e' he'
    rw [if_pos htid] at hnone
    cases hnone

theorem Scene.told_after_self :
    (s.after exec i c).told i = ⟨c, (exec c s.world).1⟩ :: s.told i := by
  rw [told, after_trace, List.filterMap_cons, if_pos rfl]
  rfl

theorem Scene.told_after_of_ne (hij : i ≠ j) : (s.after exec i c).told j = s.told j := by
  rw [told, after_trace, List.filterMap_cons, if_neg hij]
  rfl

theorem Scene.mem_told_after {e : Told C R} :
    e ∈ (s.after exec i c).told j ↔ i = j ∧ e = ⟨c, (exec c s.world).1⟩ ∨ e ∈ s.told j := by
  by_cases hij : i = j
  · subst hij
    rw [told_after_self, List.mem_cons]
    simp
  · rw [told_after_of_ne exec hij]
    simp [hij]

theorem Scene.told_subset_after : s.told j ⊆ (s.after exec i c).told j :=
  fun _ he => (mem_told_after exec).mpr (.inr he)

/-- Since the newest reply of `c` to caller `i`, nothing `bad` has happened. -/
def Scene.QuietSince (bad : Event ι C R → Prop) (i : ι) (c : C) (s : Scene ι C R W) : Prop :=
  ∃ l r rest, s.trace = l ++ ⟨i, c, r⟩ :: rest ∧ (∀ e ∈ l, e.tid = i → e.cmd ≠ c) ∧
    ∀ e ∈ l, ¬ bad e

/-- The newest reply, and where it stands in the trace. -/
theorem Scene.QuietSince.split {bad : Event ι C R → Prop} {r : R c} (hs : s.QuietSince bad i c)
    (hn : Newest c r (s.told i)) :
    ∃ l rest, s.trace = l ++ ⟨i, c, r⟩ :: rest ∧ ∀ e ∈ l, ¬ bad e := by
  obtain ⟨l, r', rest, heq, hown, hbad⟩ := hs
  have hnewest : Newest c r' (s.told i) := by
    rw [told, heq, List.filterMap_append, List.filterMap_cons, if_pos rfl]
    refine ⟨_, _, rfl, ?_⟩
    intro e he
    obtain ⟨e', he', hsome⟩ := List.mem_filterMap.mp he
    split at hsome
    · rename_i htid
      cases hsome
      exact hown e' he' htid
    · cases hsome
  cases hn.unique hnewest
  exact ⟨l, rest, heq, hbad⟩

variable {K : ι → List (Told C R) → C → Prop} {Q : ι → List (Told C R) → α → Prop}

/-- Every caller is licensed by what it has been told so far. -/
def Conf.Licensed (K : ι → List (Told C R) → C → Prop) (Q : ι → List (Told C R) → α → Prop)
    (conf : Conf ι C R α W) : Prop :=
  ∀ i, (conf.threads i).Licensed exec (K i) (Q i) (conf.scene.told i)

variable {exec}

theorem Conf.Licensed.step {conf : Conf ι C R α W} (h : conf.Licensed exec K Q) (i : ι) :
    (conf.step exec i).Licensed exec K Q := by
  cases hi : conf.threads i with
  | done a =>
      rw [Conf.step_of_done exec hi]
      exact h
  | call c k =>
      rw [Conf.step_of_call exec hi]
      intro j
      by_cases hij : i = j
      · subst hij
        have hown := h i
        rw [hi, licensed_call] at hown
        show (Function.update conf.threads i _ i).Licensed exec (K i) (Q i) _
        rw [Function.update_self, Scene.told_after_self]
        exact hown.2 _
      · show (Function.update conf.threads i _ j).Licensed exec (K j) (Q j) _
        rw [Function.update_of_ne (Ne.symm hij), Scene.told_after_of_ne exec hij]
        exact h j

theorem Conf.Licensed.runs {conf : Conf ι C R α W} (h : conf.Licensed exec K Q)
    (sched : List ι) : (conf.runs exec sched).Licensed exec K Q := by
  induction sched generalizing conf with
  | nil => exact h
  | cons i sched ih => exact ih (h.step i)

/-- The next command of a caller has its licence. -/
theorem Conf.Licensed.next {conf : Conf ι C R α W} (h : conf.Licensed exec K Q) (i : ι) :
    conf.NextMeets (fun i c s => K i (s.told i) c) i := by
  cases hi : conf.threads i with
  | done a => simp only [Conf.NextMeets, hi]
  | call c k =>
      have hown := h i
      rw [hi] at hown
      exact (Conf.nextMeets_of_call hi).mpr hown.1

theorem Conf.Licensed.result {conf : Conf ι C R α W} (h : conf.Licensed exec K Q) {i : ι} {a : α}
    (hi : conf.threads i = .done a) : Q i (conf.scene.told i) a := by
  have hown := h i
  rw [hi] at hown
  exact hown

/-- A caller has not moved, or it has been told what each of its moves tells it. -/
theorem Conf.unmoved_or_told {P : List (Told C R) → Prop} {conf : Conf ι C R α W} {sched : List ι}
    (hm : conf.Meets exec (fun j c s => j = i → P (⟨c, (exec c s.world).1⟩ :: s.told i)) sched) :
    (conf.runs exec sched).threads i = conf.threads i ∧
        (conf.runs exec sched).scene.told i = conf.scene.told i ∨
      P ((conf.runs exec sched).scene.told i) := by
  induction sched generalizing conf with
  | nil => exact .inl ⟨rfl, rfl⟩
  | cons j sched ih =>
      cases ih hm.2 with
      | inr hlast => exact .inr hlast
      | inl hsame =>
          rw [Conf.runs_cons, hsame.1, hsame.2]
          cases hj : conf.threads j with
          | done a =>
              rw [Conf.step_of_done exec hj]
              exact .inl ⟨rfl, rfl⟩
          | call c k =>
              rw [Conf.step_of_call exec hj]
              by_cases hij : j = i
              · subst hij
                rw [Scene.told_after_self]
                exact .inr ((Conf.nextMeets_of_call hj).mp hm.1 rfl)
              · exact .inl ⟨Function.update_of_ne (Ne.symm hij) _ _,
                  Scene.told_after_of_ne exec hij⟩

/-- Whatever a caller has been told, it had the licence to ask. -/
def Scene.Lawful (K : ι → List (Told C R) → C → Prop) (s : Scene ι C R W) : Prop :=
  ∀ i, ∀ e ∈ s.told i, K i (s.told i) e.1

theorem Scene.Lawful.after (hmono : ∀ i h h' c, h ⊆ h' → K i h c → K i h' c)
    (hs : s.Lawful K) (hK : K i (s.told i) c) : (s.after exec i c).Lawful K := by
  intro j e he
  refine hmono j _ _ _ (told_subset_after exec) ?_
  rcases (mem_told_after exec).mp he with ⟨rfl, rfl⟩ | he
  · exact hK
  · exact hs j e he

/-- **Invariants of licensed runs.** A property of scenes that is kept by every
move that is permitted and has its licence holds throughout. -/
theorem Conf.Licensed.runs_inv {P : ι → C → Scene ι C R W → Prop} {I : Scene ι C R W → Prop}
    (hstep : ∀ s i c, I s → K i (s.told i) c → P i c s → I (s.after exec i c))
    {conf : Conf ι C R α W} {sched : List ι} (hlic : conf.Licensed exec K Q) (h : I conf.scene)
    (hm : conf.Meets exec P sched) : I (conf.runs exec sched).scene := by
  induction sched generalizing conf with
  | nil => exact h
  | cons i sched ih =>
      refine ih (hlic.step i) ?_ hm.2
      cases hi : conf.threads i with
      | done a =>
          rw [Conf.step_of_done exec hi]
          exact h
      | call c k =>
          rw [Conf.step_of_call exec hi]
          have hown := (Conf.nextMeets_of_call hi).mp (hlic.next i)
          exact hstep _ i c h hown ((Conf.nextMeets_of_call hi).mp hm.1)

/-- What follows from the invariant, the licence and the permission of a move
holds at every move. -/
theorem Conf.Licensed.meets_of_inv {P P' : ι → C → Scene ι C R W → Prop} {I : Scene ι C R W → Prop}
    (hstep : ∀ s i c, I s → K i (s.told i) c → P i c s → I (s.after exec i c))
    (hmove : ∀ s i c, I s → K i (s.told i) c → P i c s → P' i c s)
    {conf : Conf ι C R α W} {sched : List ι} (hlic : conf.Licensed exec K Q) (h : I conf.scene)
    (hm : conf.Meets exec P sched) : conf.Meets exec P' sched := by
  induction sched generalizing conf with
  | nil => trivial
  | cons i sched ih =>
      have hfirst : conf.Meets exec P [i] := ⟨hm.1, trivial⟩
      have hnext := hlic.runs_inv hstep h hfirst
      refine ⟨?_, ih (hlic.step i) hnext hm.2⟩
      cases hi : conf.threads i with
      | done a => simp only [Conf.NextMeets, hi]
      | call c k =>
          have hown := (Conf.nextMeets_of_call hi).mp (hlic.next i)
          have hallowed := (Conf.nextMeets_of_call hi).mp hm.1
          exact (Conf.nextMeets_of_call hi).mpr (hmove _ i c h hown hallowed)

end Run

end Greetup.Interleaving
