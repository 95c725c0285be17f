import Mathlib.Data.Nat.Notation
import Mathlib.Data.List.Basic
import Mathlib.Order.Nat

/-!
A queue whose jobs are tried again when they fail.

A job waits until a worker takes it. That starts an attempt, and the attempt
completes or fails, by throwing; a job that has failed waits again, until it was
attempted as often as the queue allows. A worker that dies without failing its
job leaves it active here: that the queue finds such a job stalled and hands it
out again is not part of the model. Jobs are numbered in the order in which they
were added, the attempts at one job from one on.
-/

namespace Greetup

/-- A queue attempts every job. -/
class Tries (limit : ℕ) : Prop where
  pos : 0 < limit

inductive JobState
  | waiting
  | active
  | completed
  | failed
  deriving DecidableEq, Repr

/-- A job; one that waits has attempts left. -/
structure Job (δ : Type) (limit : ℕ) where
  data : δ
  /-- How many attempts were started. -/
  attempts : ℕ
  state : JobState
  left : state = .waiting → attempts < limit

/-- What is done to a queue at once. -/
inductive JobAction (δ : Type)
  | add (data : δ)
  | take (job : ℕ)
  | complete (job attempt : ℕ)
  | fail (job attempt : ℕ)
  /-- What does not concern the queue. -/
  | rest

/-- The attempt that the action ends. -/
def JobAction.ends {δ : Type} : JobAction δ → Option (ℕ × ℕ)
  | .complete job attempt | .fail job attempt => some (job, attempt)
  | _ => none

/-- An attempt at a job, as a worker is given it. -/
structure Attempt (δ : Type) where
  job : ℕ
  data : δ
  number : ℕ

variable {δ : Type} {limit : ℕ}

namespace Job

def new [Tries limit] (data : δ) : Job δ limit :=
  ⟨data, 0, .waiting, fun _ => Tries.pos⟩

/-- The job after the action, if it has the number `n`. What is done about an
attempt is done only while that attempt is under way. -/
def apply (n : ℕ) (j : Job δ limit) : JobAction δ → Job δ limit
  | .take m =>
      if m = n ∧ j.state = .waiting then
        { j with attempts := j.attempts + 1, state := .active, left := fun h => by cases h }
      else j
  | .complete m a =>
      if m = n ∧ j.state = .active ∧ j.attempts = a then
        { j with state := .completed, left := fun h => by cases h }
      else j
  | .fail m a =>
      if m = n ∧ j.state = .active ∧ j.attempts = a then
        if h : j.attempts < limit then { j with state := .waiting, left := fun _ => h }
        else { j with state := .failed, left := fun h => by cases h }
      else j
  | .add _ | .rest => j

/-- The attempt is repeated, or will be. -/
def Repeated (j : Job δ limit) (a : ℕ) : Prop := a < j.attempts ∨ j.state = .waiting

instance (j : Job δ limit) (a : ℕ) : Decidable (j.Repeated a) :=
  inferInstanceAs (Decidable (_ ∨ _))

variable {j : Job δ limit} {n a : ℕ} {action : JobAction δ}

theorem apply_take (m : ℕ) : j.apply n (.take m) =
    if m = n ∧ j.state = .waiting then
      { j with attempts := j.attempts + 1, state := .active, left := fun h => by cases h }
    else j :=
  rfl

theorem apply_complete (m a : ℕ) : j.apply n (.complete m a) =
    if m = n ∧ j.state = .active ∧ j.attempts = a then
      { j with state := .completed, left := fun h => by cases h }
    else j :=
  rfl

theorem apply_fail (m a : ℕ) : j.apply n (.fail m a) =
    if m = n ∧ j.state = .active ∧ j.attempts = a then
      if h : j.attempts < limit then { j with state := .waiting, left := fun _ => h }
      else { j with state := .failed, left := fun h => by cases h }
    else j :=
  rfl

@[simp] theorem data_apply : (j.apply n action).data = j.data := by
  cases action with
  | take =>
      rw [apply_take]
      split <;> rfl
  | complete =>
      rw [apply_complete]
      split <;> rfl
  | fail =>
      rw [apply_fail]
      split
      · split <;> rfl
      · rfl
  | add | rest => rfl

theorem attempts_le_apply : j.attempts ≤ (j.apply n action).attempts := by
  cases action with
  | take =>
      rw [apply_take]
      split
      · exact Nat.le_succ _
      · exact Nat.le_refl _
  | complete =>
      rw [apply_complete]
      split <;> exact Nat.le_refl _
  | fail =>
      rw [apply_fail]
      split
      · split <;> exact Nat.le_refl _
      · exact Nat.le_refl _
  | add | rest => exact Nat.le_refl _

/-- What ends no attempt at the job that is under way leaves it under way. -/
theorem apply_of_active (h : j.state = .active) (hne : action.ends ≠ some (n, j.attempts)) :
    j.apply n action = j := by
  cases action with
  | take m =>
      rw [apply_take, if_neg]
      rintro ⟨-, hwaiting⟩
      rw [h] at hwaiting
      cases hwaiting
  | complete m a =>
      rw [apply_complete, if_neg]
      rintro ⟨rfl, -, rfl⟩
      exact hne rfl
  | fail m a =>
      rw [apply_fail, if_neg]
      rintro ⟨rfl, -, rfl⟩
      exact hne rfl
  | add | rest => rfl

/-- A job completes by the completion of the attempt that is under way. -/
theorem completed_apply (h : (j.apply n action).state = .completed) :
    j.state = .completed ∨
      j.state = .active ∧ action = .complete n j.attempts := by
  cases action with
  | take m =>
      rw [apply_take] at h
      split at h
      · cases h
      · exact .inl h
  | complete m a =>
      rw [apply_complete] at h
      split at h
      · rename_i hunder
        obtain ⟨rfl, hactive, rfl⟩ := hunder
        exact .inr ⟨hactive, rfl⟩
      · exact .inl h
  | fail m a =>
      rw [apply_fail] at h
      split at h
      · split at h <;> cases h
      · exact .inl h
  | add | rest => exact .inl h

/-- An attempt will be repeated as soon as it fails with attempts left. -/
theorem repeated_apply (h : (j.apply n action).Repeated a) (ha : a ≤ j.attempts) :
    j.Repeated a ∨ a = j.attempts ∧ a < limit ∧ action = .fail n a := by
  cases action with
  | take m =>
      rw [apply_take] at h
      split at h
      · rename_i hwaiting
        exact .inl (.inr hwaiting.2)
      · exact .inl h
  | complete m b =>
      rw [apply_complete] at h
      split at h
      · rcases h with h | h
        · exact .inl (.inl h)
        · cases h
      · exact .inl h
  | fail m b =>
      rw [apply_fail] at h
      split at h
      · rename_i hunder
        obtain ⟨rfl, -, rfl⟩ := hunder
        split at h
        · rename_i hleft
          rcases Nat.lt_or_eq_of_le ha with hlt | rfl
          · exact .inl (.inl hlt)
          · exact .inr ⟨rfl, hleft, rfl⟩
        · rcases h with h | h
          · exact .inl (.inl h)
          · cases h
      · exact .inl h
  | add | rest => exact .inl h

/-- A job is not attempted too often, and not given up too early. -/
structure Sound (j : Job δ limit) : Prop where
  attempts_le : j.attempts ≤ limit
  failed : j.state = .failed → j.attempts = limit

theorem sound_new [Tries limit] (data : δ) : (Job.new data : Job δ limit).Sound where
  attempts_le := Nat.zero_le limit
  failed h := by cases h

theorem Sound.apply (hj : j.Sound) : (j.apply n action).Sound := by
  cases action with
  | take m =>
      rw [Job.apply_take]
      split
      · rename_i hwaiting
        exact ⟨j.left hwaiting.2, fun h => by cases h⟩
      · exact hj
  | complete m a =>
      rw [Job.apply_complete]
      split
      · exact ⟨hj.attempts_le, fun h => by cases h⟩
      · exact hj
  | fail m a =>
      rw [Job.apply_fail]
      split
      · split
        · exact ⟨hj.attempts_le, fun h => by cases h⟩
        · rename_i hnone
          exact ⟨hj.attempts_le, fun _ => Nat.le_antisymm hj.attempts_le (Nat.not_lt.mp hnone)⟩
      · exact hj
  | add | rest => exact hj

end Job

structure JobQueue (δ : Type) (limit : ℕ) where
  jobs : List (Job δ limit)

namespace JobQueue

variable (q : JobQueue δ limit) (n : ℕ)

def job : Option (Job δ limit) := q.jobs[n]?

def added [Tries limit] : JobAction δ → List (Job δ limit)
  | .add data => [.new data]
  | _ => []

def apply [Tries limit] (action : JobAction δ) : JobQueue δ limit :=
  ⟨q.jobs.mapIdx (fun n j => j.apply n action) ++ added action⟩

/-- The attempt that the action starts. -/
def given : JobAction δ → Option (Attempt δ)
  | .take n =>
      match q.job n with
      | some j => if j.state = .waiting then some ⟨n, j.data, j.attempts + 1⟩ else none
      | none => none
  | _ => none

variable [Tries limit] {q} {n} {j : Job δ limit} {action : JobAction δ} {g : Attempt δ}

@[simp] theorem apply_rest : q.apply .rest = q := by
  have hself : q.jobs.mapIdx (fun n j => j.apply n .rest) = q.jobs := by
    refine List.ext_getElem (by simp) fun n hn hn' => ?_
    rw [List.getElem_mapIdx]
    rfl
  show (⟨q.jobs.mapIdx (fun n j => j.apply n .rest) ++ []⟩ : JobQueue δ limit) = q
  rw [List.append_nil, hself]

/-- A job stays in its place. -/
theorem job_apply (h : q.job n = some j) : (q.apply action).job n = some (j.apply n action) := by
  have hlt : n < q.jobs.length := (List.getElem?_eq_some_iff.mp h).1
  rw [job, apply, List.getElem?_append_left (by rwa [List.length_mapIdx]), List.getElem?_mapIdx]
  rw [job] at h
  rw [h]
  rfl

/-- Where a job comes from. -/
theorem of_job_apply (h : (q.apply action).job n = some j) :
    (∃ j', q.job n = some j' ∧ j = j'.apply n action) ∨
      ∃ data, action = .add data ∧ n = q.jobs.length ∧ j = .new data := by
  cases hn : q.job n with
  | some j' =>
      rw [job_apply hn] at h
      exact .inl ⟨j', rfl, (Option.some.inj h).symm⟩
  | none =>
      have hle : q.jobs.length ≤ n := List.getElem?_eq_none_iff.mp hn
      rw [job, apply, List.getElem?_append_right (by rwa [List.length_mapIdx]),
        List.length_mapIdx] at h
      have hmem := List.mem_of_getElem? h
      cases action with
      | add data =>
          have hlt := (List.getElem?_eq_some_iff.mp h).1
          rw [added, List.length_singleton] at hlt
          rw [added, List.mem_singleton] at hmem
          exact .inr ⟨data, rfl, by omega, hmem⟩
      | take | complete | fail | rest => exact absurd hmem List.not_mem_nil

omit [Tries limit] in
/-- An attempt is given at a job that waits. -/
theorem given_eq_some (h : q.given action = some g) :
    action = .take g.job ∧ ∃ j, q.job g.job = some j ∧ j.state = .waiting ∧ j.data = g.data ∧
      g.number = j.attempts + 1 := by
  cases action with
  | take n =>
      rw [given] at h
      split at h
      · rename_i j hj
        split at h
        · rename_i hwaiting
          cases h
          exact ⟨rfl, j, hj, hwaiting, rfl, rfl⟩
        · cases h
      · cases h
  | add | complete | fail | rest => cases h

/-- The attempt that is given is under way. -/
theorem job_apply_of_given (h : q.given action = some g) :
    ∃ j, (q.apply action).job g.job = some j ∧ j.state = .active ∧ j.data = g.data ∧
      j.attempts = g.number := by
  obtain ⟨rfl, j, hj, hwaiting, hdata, hnumber⟩ := given_eq_some h
  refine ⟨_, job_apply hj, ?_⟩
  rw [Job.apply, if_pos ⟨rfl, hwaiting⟩]
  exact ⟨rfl, hdata, hnumber.symm⟩

end JobQueue

end Greetup
