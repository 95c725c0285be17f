import Greetup.Interleaving.Accounts
import Greetup.Data.JobQueue

/-!
Workers of a queue whose jobs are tried again.

Each attempt at a job is a caller of its own. What one attempt leaves behind is
there when the next one begins, so a job leaves at most one mark only if an
attempt that is repeated has left none.
-/

namespace Greetup.Interleaving

variable {ι C : Type} {R : C → Type} {W δ : Type} {limit : ℕ} [Tries limit]

/-- The store has a queue: `act` is what a command does to it, and `given` is
the attempt that a reply hands to its caller. -/
structure Worked (exec : (c : C) → W → R c × W) (queue : W → JobQueue δ limit)
    (act : C → JobAction δ) (given : Told C R → Option (Attempt δ)) : Prop where
  queue_exec : ∀ c w, queue (exec c w).2 = (queue w).apply (act c)
  given_exec : ∀ c w, given ⟨c, (exec c w).1⟩ = (queue w).given (act c)

/-- The attempt is among what has been told. -/
def Given (given : Told C R → Option (Attempt δ)) (h : List (Told C R)) (g : Attempt δ) : Prop :=
  ∃ e ∈ h, given e = some g

theorem Given.mono {given : Told C R → Option (Attempt δ)} {h h' : List (Told C R)}
    {g : Attempt δ} (hg : Given given h g) (hsub : h ⊆ h') : Given given h' g := by
  obtain ⟨e, he, hge⟩ := hg
  exact ⟨e, hsub he, hge⟩

/-- What a worker may do to a queue: it takes one job, and ends only the attempt
that it was given. -/
def Works (act : C → JobAction δ) (given : Told C R → Option (Attempt δ))
    (h : List (Told C R)) (c : C) : Prop :=
  (∀ job, act c = .take job → ∀ g, ¬ Given given h g) ∧
    ∀ job number, (act c).ends = some (job, number) →
      ∃ g, Given given h g ∧ g.job = job ∧ g.number = number

theorem works_of_rest {act : C → JobAction δ} {given : Told C R → Option (Attempt δ)}
    {h : List (Told C R)} {c : C} (hrest : act c = .rest) : Works act given h c := by
  refine ⟨fun job htake => ?_, fun job number hends => ?_⟩
  · rw [hrest] at htake
    cases htake
  · rw [hrest] at hends
    cases hends

theorem works_of_add {act : C → JobAction δ} {given : Told C R → Option (Attempt δ)}
    {h : List (Told C R)} {c : C} {data : δ} (hadd : act c = .add data) :
    Works act given h c := by
  refine ⟨fun job htake => ?_, fun job number hends => ?_⟩
  · rw [hadd] at htake
    cases htake
  · rw [hadd] at hends
    cases hends

variable [DecidableEq ι] {exec : (c : C) → W → R c × W} {queue : W → JobQueue δ limit}
  {act : C → JobAction δ} {given : Told C R → Option (Attempt δ)} {w₀ : W} {s : Scene ι C R W}
  {i k : ι} {c : C} {g g' : Attempt δ}

/-- The attempts of a run, and the jobs they are made at. -/
structure Scene.Attempted (queue : W → JobQueue δ limit) (act : C → JobAction δ)
    (given : Told C R → Option (Attempt δ)) (w₀ : W) (s : Scene ι C R W) : Prop where
  known : ∀ i g, Given given (s.told i) g → ∃ j, (queue s.world).job g.job = some j ∧
    j.data = g.data ∧ g.number ≤ j.attempts
  /-- a worker makes one attempt -/
  single : ∀ i g g', Given given (s.told i) g → Given given (s.told i) g' → g = g'
  /-- an attempt is made by one worker -/
  once : ∀ i k g g', Given given (s.told i) g → Given given (s.told k) g' → g.job = g'.job →
    g.number = g'.number → i = k
  /-- an attempt that its worker has not ended is under way -/
  underWay : ∀ i g, Given given (s.told i) g →
    (∀ e ∈ s.told i, (act e.1).ends ≠ some (g.job, g.number)) →
    ∃ j, (queue s.world).job g.job = some j ∧ j.state = .active ∧ j.attempts = g.number
  completed : ∀ n j, (queue s.world).job n = some j → j.state = .completed →
    (∃ j', (queue w₀).job n = some j' ∧ j'.data = j.data) ∨
      ∃ i g, Given given (s.told i) g ∧ g.job = n ∧
        ∃ e ∈ s.told i, act e.1 = .complete n g.number

omit [Tries limit] in
theorem Scene.Attempted.start : Scene.Attempted (ι := ι) queue act given w₀ ⟨w₀, []⟩ where
  known _ _ h := by
    obtain ⟨e, he, -⟩ := h
    cases he
  single _ _ _ h := by
    obtain ⟨e, he, -⟩ := h
    cases he
  once _ _ _ _ h := by
    obtain ⟨e, he, -⟩ := h
    cases he
  underWay _ _ h := by
    obtain ⟨e, he, -⟩ := h
    cases he
  completed _ j hj _ := .inl ⟨j, hj, rfl⟩

omit [Tries limit] in
/-- No attempt was given before that has the number of one that is given now. -/
theorem Scene.Attempted.not_given (h : s.Attempted queue act given w₀)
    (hnow : (queue s.world).given (act c) = some g) (hbefore : Given given (s.told k) g')
    (hjob : g.job = g'.job) : g.number ≠ g'.number := by
  obtain ⟨-, j, hj, -, -, hnumber⟩ := JobQueue.given_eq_some hnow
  obtain ⟨j', hj', -, hle⟩ := h.known k g' hbefore
  rw [hjob, hj'] at hj
  cases hj
  omega

variable (hqueue : Worked exec queue act given)

include hqueue

/-- An attempt is given now, or it was given before. -/
theorem given_told_after (h : Given given ((s.after exec i c).told k) g) :
    i = k ∧ (queue s.world).given (act c) = some g ∨ Given given (s.told k) g := by
  obtain ⟨e, he, hge⟩ := h
  rcases (Scene.mem_told_after exec).mp he with ⟨rfl, rfl⟩ | he
  · exact .inl ⟨rfl, (hqueue.given_exec c _).symm.trans hge⟩
  · exact .inr ⟨e, he, hge⟩

omit [DecidableEq ι] in
/-- The attempt that is given now is under way. -/
theorem underWay_of_given (h : (queue s.world).given (act c) = some g) :
    ∃ j, (queue (s.after exec i c).world).job g.job = some j ∧ j.state = .active ∧
      j.data = g.data ∧ j.attempts = g.number := by
  rw [Scene.after_world, hqueue.queue_exec]
  exact JobQueue.job_apply_of_given h

omit [DecidableEq ι] in
theorem job_after {n : ℕ} {j : Job δ limit} (h : (queue s.world).job n = some j) :
    (queue (s.after exec i c).world).job n = some (j.apply n (act c)) := by
  rw [Scene.after_world, hqueue.queue_exec]
  exact JobQueue.job_apply h

theorem Scene.Attempted.after (h : s.Attempted queue act given w₀)
    (hworks : Works act given (s.told i) c) :
    (s.after exec i c).Attempted queue act given w₀ := by
  refine ⟨?_, ?_, ?_, ?_, ?_⟩
  · intro k g hg
    rcases given_told_after hqueue hg with ⟨-, hnow⟩ | hbefore
    · obtain ⟨j, hj, -, hdata, hnumber⟩ := underWay_of_given (i := i) hqueue hnow
      exact ⟨j, hj, hdata, hnumber.ge⟩
    · obtain ⟨j, hj, hdata, hle⟩ := h.known k g hbefore
      refine ⟨_, job_after hqueue hj, ?_, hle.trans Job.attempts_le_apply⟩
      rw [Job.data_apply, hdata]
  · intro k g g' hg hg'
    rcases given_told_after hqueue hg with ⟨rfl, hnow⟩ | hbefore
    · obtain ⟨htake, -⟩ := JobQueue.given_eq_some hnow
      rcases given_told_after hqueue hg' with ⟨-, hnow'⟩ | hbefore'
      · exact Option.some.inj (hnow.symm.trans hnow')
      · exact absurd hbefore' (hworks.1 _ htake g')
    · rcases given_told_after hqueue hg' with ⟨rfl, hnow'⟩ | hbefore'
      · obtain ⟨htake, -⟩ := JobQueue.given_eq_some hnow'
        exact absurd hbefore (hworks.1 _ htake g)
      · exact h.single k g g' hbefore hbefore'
  · intro k l g g' hg hg' hjob hnumber
    rcases given_told_after hqueue hg with ⟨rfl, hnow⟩ | hbefore
    · rcases given_told_after hqueue hg' with ⟨rfl, -⟩ | hbefore'
      · rfl
      · exact absurd hnumber (h.not_given hnow hbefore' hjob)
    · rcases given_told_after hqueue hg' with ⟨rfl, hnow'⟩ | hbefore'
      · exact absurd hnumber.symm (h.not_given hnow' hbefore hjob.symm)
      · exact h.once k l g g' hbefore hbefore' hjob hnumber
  · intro k g hg hopen
    rcases given_told_after hqueue hg with ⟨-, hnow⟩ | hbefore
    · obtain ⟨j, hj, hactive, -, hnumber⟩ := underWay_of_given (i := i) hqueue hnow
      exact ⟨j, hj, hactive, hnumber⟩
    · obtain ⟨j, hj, hactive, hnumber⟩ := h.underWay k g hbefore fun e he =>
        hopen e (Scene.told_subset_after exec he)
      refine ⟨j, ?_, hactive, hnumber⟩
      rw [job_after hqueue hj, Job.apply_of_active hactive]
      -- who ends the attempt is the worker that was given it
      intro hends
      obtain ⟨g', hg', hjob, hnumber'⟩ := hworks.2 _ _ hends
      have hsame := h.once k i g g' hbefore hg' hjob.symm (hnumber.symm.trans hnumber'.symm)
      subst hsame
      refine hopen _ ((Scene.mem_told_after exec).mpr (.inl ⟨rfl, rfl⟩)) ?_
      rw [hends, hnumber]
  · intro n j hj hcompleted
    rw [Scene.after_world, hqueue.queue_exec] at hj
    rcases JobQueue.of_job_apply hj with ⟨j', hj', rfl⟩ | ⟨data, -, -, rfl⟩
    · rcases Job.completed_apply hcompleted with hbefore | ⟨-, hact⟩
      · rw [Job.data_apply]
        rcases h.completed n j' hj' hbefore with hold | ⟨k, g, hg, hjob, e, he, hact⟩
        · exact .inl hold
        · exact .inr ⟨k, g, hg.mono (Scene.told_subset_after exec), hjob, e,
            Scene.told_subset_after exec he, hact⟩
      · obtain ⟨g, hg, hjob, hnumber⟩ := hworks.2 n j'.attempts (by rw [hact]; rfl)
        refine .inr ⟨i, g, hg.mono (Scene.told_subset_after exec), hjob, _,
          (Scene.mem_told_after exec).mpr (.inl ⟨rfl, rfl⟩), ?_⟩
        rw [hnumber]
        exact hact
    · cases hcompleted

omit hqueue

/-! ### How many attempts -/

/-- The jobs that were not there at the start are sound. -/
def Scene.SoundJobs (queue : W → JobQueue δ limit) (w₀ : W) (s : Scene ι C R W) : Prop :=
  ∀ n j, (queue s.world).job n = some j →
    (∃ j', (queue w₀).job n = some j' ∧ j'.data = j.data) ∨ j.Sound

omit [Tries limit] [DecidableEq ι] in
theorem Scene.SoundJobs.start : Scene.SoundJobs (ι := ι) queue w₀ (⟨w₀, []⟩ : Scene ι C R W) :=
  fun _ j hj => .inl ⟨j, hj, rfl⟩

/-- The attempts at a job that were given so far. -/
def Scene.attemptsAt (given : Told C R → Option (Attempt δ)) (n : ℕ) (s : Scene ι C R W) : ℕ :=
  s.count fun e => (given e).any (·.job = n)

/-- The attempts that were given are among those that the queue has counted. -/
def Scene.Counted (queue : W → JobQueue δ limit) (given : Told C R → Option (Attempt δ))
    (s : Scene ι C R W) : Prop :=
  ∀ n, (∀ j, (queue s.world).job n = some j → s.attemptsAt given n ≤ j.attempts) ∧
    ((queue s.world).job n = none → s.attemptsAt given n = 0)

omit [Tries limit] [DecidableEq ι] in
theorem Scene.Counted.start : Scene.Counted (ι := ι) queue given (⟨w₀, []⟩ : Scene ι C R W) :=
  fun _ => ⟨fun j _ => Nat.zero_le j.attempts, fun _ => rfl⟩

/-- Whoever was given an attempt has taken its job. -/
def Scene.Taken (act : C → JobAction δ) (given : Told C R → Option (Attempt δ))
    (s : Scene ι C R W) : Prop :=
  ∀ i, ∀ e ∈ s.told i, ∀ g, given e = some g → act e.1 = .take g.job

omit [Tries limit] in
/-- What a worker does at most once, and only if it was given an attempt at the
job, is done no more often than there are attempts. -/
theorem Scene.countP_le_attemptsAt {q : Event ι C R → Bool} {n : ℕ}
    (hone : ∀ i, (s.trace.filter (·.tid = i)).countP q ≤ 1)
    (hgiven : ∀ e ∈ s.trace, q e = true → ∃ g, Given given (s.told e.tid) g ∧ g.job = n) :
    s.trace.countP q ≤ s.attemptsAt given n := by
  refine countP_le_of_each Event.tid s.trace fun i => ?_
  rcases Nat.eq_zero_or_pos ((s.trace.filter (·.tid = i)).countP q) with hzero | hpos
  · rw [hzero]
    exact Nat.zero_le _
  · obtain ⟨e, he, hq⟩ := List.countP_pos_iff.mp hpos
    obtain ⟨hmem, htid⟩ := List.mem_filter.mp he
    obtain rfl := of_decide_eq_true htid
    obtain ⟨g, ⟨e', he', hge⟩, hjob⟩ := hgiven e hmem hq
    refine (hone _).trans (List.countP_pos_iff.mpr ⟨_, List.mem_filter.mpr
      ⟨Scene.mem_told.mp he', decide_eq_true rfl⟩, ?_⟩)
    show (given e').any _ = true
    rw [hge]
    exact decide_eq_true hjob

omit [Tries limit] in
theorem Scene.length_filterMap_le_attemptsAt {β : Type} {f : C → Option β} {q : ι → Bool} {n : ℕ}
    (hone : ∀ i, (s.told i).countP (fun e => (f e.1).isSome) ≤ 1)
    (hgiven : ∀ e ∈ s.trace, (f e.cmd).isSome = true → q e.tid = true →
      ∃ g, Given given (s.told e.tid) g ∧ g.job = n) :
    (s.trace.filterMap fun e => if q e.tid then f e.cmd else none).length ≤
      s.attemptsAt given n := by
  have hboth (e : Event ι C R) (h : (if q e.tid then f e.cmd else none).isSome = true) :
      (f e.cmd).isSome = true ∧ q e.tid = true := by
    split at h
    · rename_i hq
      exact ⟨h, hq⟩
    · cases h
  rw [List.length_filterMap_eq_countP]
  refine Scene.countP_le_attemptsAt (fun i => ?_) fun e he h =>
    hgiven e he (hboth e h).1 (hboth e h).2
  refine le_trans ?_ (hone i)
  rw [Scene.told_eq_map, List.countP_map]
  exact List.countP_mono_left fun e _ h => (hboth e h).1

include hqueue

theorem Scene.Taken.after (h : s.Taken act given) : (s.after exec i c).Taken act given := by
  intro k e he g hge
  rcases (Scene.mem_told_after exec).mp he with ⟨-, rfl⟩ | hold
  · exact (JobQueue.given_eq_some ((hqueue.given_exec c _).symm.trans hge)).1
  · exact h k e hold g hge

omit [DecidableEq ι] in
theorem Scene.SoundJobs.after (h : s.SoundJobs queue w₀) :
    (s.after exec i c).SoundJobs queue w₀ := by
  intro n j hj
  rw [Scene.after_world, hqueue.queue_exec] at hj
  rcases JobQueue.of_job_apply hj with ⟨j', hj', rfl⟩ | ⟨data, -, -, rfl⟩
  · rw [Job.data_apply]
    exact (h n j' hj').imp_right Job.Sound.apply
  · exact .inr (Job.sound_new data)

omit [DecidableEq ι] in
theorem Scene.attemptsAt_after (n : ℕ) : (s.after exec i c).attemptsAt given n =
    s.attemptsAt given n + if ((queue s.world).given (act c)).any (·.job = n) then 1 else 0 := by
  rw [attemptsAt, count_after, hqueue.given_exec]
  rfl

omit [DecidableEq ι] in
theorem Scene.Counted.after (h : s.Counted queue given) :
    (s.after exec i c).Counted queue given := by
  intro n
  rw [Scene.attemptsAt_after hqueue, Scene.after_world, hqueue.queue_exec]
  cases hnow : ((queue s.world).given (act c)).any (·.job = n) with
  | false =>
      refine ⟨fun j hj => ?_, fun hnone => ?_⟩
      · rcases JobQueue.of_job_apply hj with ⟨j', hj', rfl⟩ | ⟨data, -, rfl, rfl⟩
        · exact ((h n).1 j' hj').trans Job.attempts_le_apply
        · rw [(h _).2 (List.getElem?_eq_none_iff.mpr (Nat.le_refl _))]
          exact Nat.le_refl 0
      · cases hbefore : (queue s.world).job n with
        | none => exact (h n).2 hbefore
        | some j =>
            rw [JobQueue.job_apply hbefore] at hnone
            cases hnone
  | true =>
      obtain ⟨g, hgiven, hjob⟩ := (Option.any_eq_true ..).mp hnow
      obtain rfl := of_decide_eq_true hjob
      obtain ⟨-, j, hj, -, -, hnumber⟩ := JobQueue.given_eq_some hgiven
      obtain ⟨j', hj', -, -, hattempts⟩ := JobQueue.job_apply_of_given hgiven
      refine ⟨fun j'' hj'' => ?_, fun hnone => ?_⟩
      · rw [hj'] at hj''
        cases hj''
        rw [hattempts, hnumber]
        exact Nat.succ_le_succ ((h g.job).1 j hj)
      · rw [hj'] at hnone
        cases hnone

omit hqueue

/-! ### What attempts leave behind -/

variable {mark : Told C R → Bool} {rel : δ → Prop}

/-- At the jobs in question, an attempt that is repeated has left no mark. -/
def Scene.CleanRepeats (queue : W → JobQueue δ limit) (given : Told C R → Option (Attempt δ))
    (mark : Told C R → Bool) (rel : δ → Prop) (s : Scene ι C R W) : Prop :=
  ∀ i g j, Given given (s.told i) g → rel g.data → (queue s.world).job g.job = some j →
    j.Repeated g.number → ∀ e ∈ s.told i, mark e = false

/-- What keeps it so: an attempt that will be repeated fails without a mark, and
an attempt that is repeated leaves none. -/
def LeavesNoMark (queue : W → JobQueue δ limit) (act : C → JobAction δ)
    (given : Told C R → Option (Attempt δ)) (mark : Told C R → Bool) (rel : δ → Prop)
    (exec : (c : C) → W → R c × W) (i : ι) (c : C) (s : Scene ι C R W) : Prop :=
  ∀ g, Given given (s.told i) g → rel g.data →
    (g.number < limit → act c = .fail g.job g.number → ∀ e ∈ s.told i, mark e = false) ∧
      (mark ⟨c, (exec c s.world).1⟩ = true → ∀ j, (queue s.world).job g.job = some j →
        ¬ j.Repeated g.number)

omit [Tries limit] in
theorem Scene.CleanRepeats.start : Scene.CleanRepeats (ι := ι) queue given mark rel ⟨w₀, []⟩ := by
  intro i g j hg
  obtain ⟨e, he, -⟩ := hg
  cases he

include hqueue

theorem Scene.CleanRepeats.after (h : s.CleanRepeats queue given mark rel)
    (hs : s.Attempted queue act given w₀) (hworks : Works act given (s.told i) c)
    (hrest : mark ⟨c, (exec c s.world).1⟩ = true → act c = .rest)
    (hmark : LeavesNoMark queue act given mark rel exec i c s) :
    (s.after exec i c).CleanRepeats queue given mark rel := by
  intro k g j hg hrel hj hrepeated
  rcases given_told_after hqueue hg with ⟨-, hnow⟩ | hbefore
  · -- an attempt is not repeated when it begins
    obtain ⟨j', hj', hactive, -, hnumber⟩ := underWay_of_given (i := i) hqueue hnow
    rw [hj] at hj'
    cases hj'
    rcases hrepeated with hlt | hwaiting
    · exact absurd hlt (by omega)
    · rw [hactive] at hwaiting
      cases hwaiting
  · obtain ⟨j', hj', -, hle⟩ := hs.known k g hbefore
    rw [job_after hqueue hj'] at hj
    cases hj
    rcases Job.repeated_apply hrepeated hle with hold | ⟨hnumber, hlimit, hact⟩
    · intro e he
      rcases (Scene.mem_told_after exec).mp he with ⟨rfl, rfl⟩ | he
      · cases hm : mark ⟨c, (exec c s.world).1⟩ with
        | false => rfl
        | true => exact absurd hold ((hmark g hbefore hrel).2 hm j' hj')
      · exact h k g j' hbefore hrel hj' hold e he
    · -- who fails is the worker of the attempt
      obtain ⟨g', hg', hjob, hnumber'⟩ := hworks.2 g.job g.number (by rw [hact]; rfl)
      have hsame := hs.once k i g g' hbefore hg' hjob.symm hnumber'.symm
      subst hsame
      intro e he
      rcases (Scene.mem_told_after exec).mp he with ⟨-, rfl⟩ | he
      · cases hm : mark ⟨c, (exec c s.world).1⟩ with
        | false => rfl
        | true =>
            rw [hrest hm] at hact
            cases hact
      · exact (hmark g hbefore hrel).1 hlimit hact e he

omit hqueue

omit [Tries limit] in
/-- **One attempt at a job** leaves marks. -/
theorem Scene.CleanRepeats.eq_of_mark (h : s.CleanRepeats queue given mark rel)
    (hs : s.Attempted queue act given w₀) (hg : Given given (s.told i) g)
    (hg' : Given given (s.told k) g') (hjob : g.job = g'.job) (hrel : rel g.data)
    {e e' : Told C R} (he : e ∈ s.told i) (hm : mark e = true) (he' : e' ∈ s.told k)
    (hm' : mark e' = true) : i = k := by
  obtain ⟨j, hj, hdata, hle⟩ := hs.known i g hg
  obtain ⟨j', hj', hdata', hle'⟩ := hs.known k g' hg'
  rw [← hjob, hj] at hj'
  cases hj'
  have hrel' : rel g'.data := by
    rw [← hdata', hdata]
    exact hrel
  have hlast : ¬ j.Repeated g.number := fun hrepeated => by
    rw [h i g j hg hrel hj hrepeated e he] at hm
    cases hm
  have hlast' : ¬ j.Repeated g'.number := fun hrepeated => by
    rw [h k g' j hg' hrel' (hjob ▸ hj) hrepeated e' he'] at hm'
    cases hm'
  refine hs.once i k g g' hg hg' hjob ?_
  have hge : ¬ g.number < j.attempts := fun hlt => hlast (.inl hlt)
  have hge' : ¬ g'.number < j.attempts := fun hlt => hlast' (.inl hlt)
  omega

end Greetup.Interleaving
