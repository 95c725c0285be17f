import Greetup.Matching.Alone

/-!
Concurrent starts of one user's search.

Any number of calls may try to start a search for the same user at once. Each
of them looks for a search under way, waits for the start-search lock, looks
again and then commits. The lock key expires and its release is not atomic, so
two callers may well hold it one after the other without a look in between. What
makes the commit unique is that the lock changes hands for the first time only
after the first holder has committed: every later holder looks again and finds
the search of the first.
-/

namespace Greetup.Matching

open Greetup.Interleaving Prog

/-! ### An idle user -/

/-- The user has a snapshot and neither a state nor a search under way. -/
structure Redis.Idle (r : Redis) (u : UserId) : Prop where
  snapshot : r.snapshot u ≠ none
  userState : r.userState u = none
  last : ∀ a h, r.userLastAttempt u = some a → r.attempt a = some h →
    (parseAttemptRecord h a).status ≠ .searching ∧ (parseAttemptRecord h a).status ≠ .proposed

theorem Redis.Idle.coalesced {r : Redis} {u : UserId} (h : r.Idle u) {a : RequestId}
    {hash : AttemptHash} (ha : r.userLastAttempt u = some a) (hhash : r.attempt a = some hash) :
    (parseAttemptRecord hash a).coalesced = none := by
  obtain ⟨hsearch, hpropose⟩ := h.last a hash ha hhash
  rw [AttemptRecord.coalesced, if_neg hsearch, if_neg fun h => hpropose h.1]

/-! ### Events -/

variable {ι : Type}

/-- A caller has got the start-search lock. -/
def acquires : Event ι Cmd Cmd.Reply → Bool
  | ⟨_, .setStartSearchLockNX _ _, acquired⟩ => acquired
  | _ => false

/-- A caller begins to let go of the start-search lock. -/
def releases : Event ι Cmd Cmd.Reply → Bool
  | ⟨_, .getStartSearchLock _, _⟩ => true
  | _ => false

/-- A caller writes its attempt, the first command of a commit. -/
def commits : Event ι Cmd Cmd.Reply → Bool
  | ⟨_, .hsetAttempt _ _, _⟩ => true
  | _ => false

/-- The commit is of the attempt `a`. -/
def commitsTo (a : RequestId) : Event ι Cmd Cmd.Reply → Bool
  | ⟨_, .hsetAttempt b _, _⟩ => b = a
  | _ => false

/-- A caller makes its attempt the user's last one. -/
def settles : Event ι Cmd Cmd.Reply → Bool
  | ⟨_, .setUserLastAttempt _ _, _⟩ => true
  | _ => false

/-- A caller queues its job, the last command of a commit. -/
def queuesJob : Event ι Cmd Cmd.Reply → Bool
  | ⟨_, .lpushJob _, _⟩ => true
  | _ => false

theorem commitsTo_of_commits {a : RequestId} {e : Event ι Cmd Cmd.Reply} (h : commits e = false) :
    commitsTo a e = false := by
  obtain ⟨i, c, r⟩ := e
  cases c <;> first | rfl | cases h

theorem commits_of_commitsTo {a : RequestId} {e : Event ι Cmd Cmd.Reply} (h : commitsTo a e) :
    commits e := by
  obtain ⟨i, c, r⟩ := e
  cases c <;> first | rfl | cases h

/-- The caller that has got the lock first. -/
def firstHolder (trace : List (Event ι Cmd Cmd.Reply)) : Option ι :=
  ((trace.filter acquires).getLast?).map (·.tid)

theorem firstHolder_cons {e : Event ι Cmd Cmd.Reply} {trace : List (Event ι Cmd Cmd.Reply)}
    {i : ι} (h : firstHolder trace = some i) : firstHolder (e :: trace) = some i := by
  rw [firstHolder, List.filter_cons]
  split_ifs with he
  · rw [firstHolder, Option.map_eq_some_iff] at h
    obtain ⟨e', he', rfl⟩ := h
    rw [List.getLast?_cons, he']
    rfl
  · exact h

/-- A caller that has got the lock when nobody had before has got it first. -/
theorem firstHolder_of_countP {trace : List (Event ι Cmd Cmd.Reply)} {e : Event ι Cmd Cmd.Reply}
    (hcount : trace.countP acquires ≤ 1) (he : e ∈ trace) (hacq : acquires e) :
    firstHolder trace = some e.tid := by
  rw [List.countP_eq_length_filter] at hcount
  have hmem : e ∈ trace.filter acquires := List.mem_filter.mpr ⟨he, hacq⟩
  rw [firstHolder]
  generalize trace.filter acquires = l at hcount hmem
  rcases l with _ | ⟨x, _ | ⟨y, l⟩⟩
  · cases hmem
  · rw [List.mem_singleton] at hmem
    rw [hmem]
    rfl
  · rw [List.length_cons, List.length_cons] at hcount
    omega

/-! ### The invariant -/

section Start

variable (r₀ : Redis) (u : UserId)

/-- Some caller has made its attempt the user's last one. -/
def Settled (s : Scene (Option ι) Cmd Cmd.Reply World) : Prop := ∃ e ∈ s.trace, settles e

/-- The lock does not expire while its holder is between acquiring it and
letting go of it, and nobody goes on without it. -/
def InOrder (_ : Option ι) (c : Cmd) (s : Scene (Option ι) Cmd Cmd.Reply World) : Prop :=
  match c with
  | .expired _ => ∀ e ∈ s.trace.find? acquires, ∃ e' ∈ s.trace, e'.tid = e.tid ∧ releases e'
  | .warnLockWaitExhausted _ => False
  | _ => True

/-- What holds while the user's calls run from the store `r₀`. -/
structure StartInv (s : Scene (Option ι) Cmd Cmd.Reply World) : Prop where
  snapshot : s.world.redis.snapshot u ≠ none
  userState : s.world.redis.userState u = none ∨ s.world.redis.userState u = some .searching
  untouched : ∀ a, (∀ e ∈ s.trace, commitsTo a e = false) →
    s.world.redis.attempt a = r₀.attempt a
  committed : ∀ a, (∃ e ∈ s.trace, commitsTo a e) →
    r₀.attempt a = none ∧ ∃ h, s.world.redis.attempt a = some h ∧ h.status = some .searching
  unsettled : ¬ Settled s → s.world.redis.userLastAttempt u = r₀.userLastAttempt u
  settled : Settled s →
    ∃ a, s.world.redis.userLastAttempt u = some a ∧ ∃ e ∈ s.trace, commitsTo a e
  unqueued : (∀ e ∈ s.trace, queuesJob e = false) →
    s.world.redis.matchJobQueue = r₀.matchJobQueue
  queued : (∃ e ∈ s.trace, queuesJob e) →
    ∃ a, s.world.redis.matchJobQueue = ⟨u, a⟩ :: r₀.matchJobQueue ∧ ∃ e ∈ s.trace, commitsTo a e
  byFirst : ∀ e ∈ s.trace, commits e ∨ queuesJob e → firstHolder s.trace = some e.tid
  once : s.AtMostOnce commits
  queuedOnce : s.AtMostOnce queuesJob
  second : s.trace.countP acquires ≤ 1 ∨ Settled s
  held : (∃ e ∈ s.trace, acquires e) → s.world.redis.userStartSearchLock u ≠ none ∨ Settled s
  released : (∃ e ∈ s.trace, releases e) → Settled s

variable {r₀ u} {out : Outside} {i : Option ι} {c : Cmd}
  {s : Scene (Option ι) Cmd Cmd.Reply World}

theorem Settled.after (h : Settled s) : Settled (s.after (exec out) i c) :=
  h.imp fun _ he => ⟨List.mem_cons_of_mem _ he.1, he.2⟩

theorem Settled.since {key : Cmd → Prop} {s' : Scene (Option ι) Cmd Cmd.Reply World}
    (h : Settled s) (hs : Scene.Since key i s s') : Settled s' :=
  h.imp fun _ he => ⟨hs.mem he.1, he.2⟩

/-- A search under way is the committed one. -/
theorem StartInv.coalesced (h : StartInv r₀ u s) (hidle : r₀.Idle u) {a : RequestId}
    (hlast : Settled s ∧ (∃ e ∈ s.trace, commitsTo a e) ∨ r₀.userLastAttempt u = some a) :
    (s.world.redis.attempt a).bind (fun hash => (parseAttemptRecord hash a).coalesced) =
        some (searchingWithRequestId a) ∧ (∃ e ∈ s.trace, commitsTo a e) ∨
      (s.world.redis.attempt a).bind (fun hash => (parseAttemptRecord hash a).coalesced) = none ∧
        ∀ e ∈ s.trace, commitsTo a e = false := by
  by_cases hcommit : ∃ e ∈ s.trace, commitsTo a e
  · obtain ⟨-, hash, hhash, hstatus⟩ := h.committed a hcommit
    left
    refine ⟨?_, hcommit⟩
    simp [hhash, AttemptRecord.coalesced, parseAttemptRecord, hstatus]
  · have hnone : ∀ e ∈ s.trace, commitsTo a e = false := by
      intro e he
      by_contra hne
      exact hcommit ⟨e, he, by simpa using hne⟩
    right
    refine ⟨?_, hnone⟩
    rcases hlast with ⟨-, hcommits⟩ | hlast
    · exact absurd hcommits hcommit
    · rw [h.untouched a hnone]
      cases hhash : r₀.attempt a with
      | none => rfl
      | some hash => exact hidle.coalesced hlast hhash

/-- Nobody can get the lock before the first holder has settled. -/
theorem StartInv.acquires_none (h : StartInv r₀ u s)
    (hlock : s.world.redis.userStartSearchLock u = none)
    (hset : ¬ Settled s) : ∀ e ∈ s.trace, acquires e = false := by
  intro e he
  by_contra hne
  rcases h.held ⟨e, he, by simpa using hne⟩ with hheld | hsettled
  · exact hheld hlock
  · exact hset hsettled

/-- The event is none of those the invariant counts. -/
structure Uncounted (e : Event (Option ι) Cmd Cmd.Reply) : Prop where
  acquires : acquires e = false
  commits : commits e = false
  settles : settles e = false
  queuesJob : queuesJob e = false

theorem uncounted_of_areas {r : c.Reply}
    (h : c.Avoids [.startLock, .attempt, .lastAttempt, .queue]) :
    Uncounted ⟨i, c, r⟩ := by
  have hlock : .startLock ∉ c.areas := fun ha => h _ ha (by decide)
  have hattempt : .attempt ∉ c.areas := fun ha => h _ ha (by decide)
  have hlast : .lastAttempt ∉ c.areas := fun ha => h _ ha (by decide)
  have hqueue : .queue ∉ c.areas := fun ha => h _ ha (by decide)
  constructor
  · cases c <;> first | rfl | exact absurd (by simp) hlock
  · cases c <;> first | rfl | exact absurd (by simp) hattempt
  · cases c <;> first | rfl | exact absurd (by simp) hlast
  · cases c <;> first | rfl | exact absurd (by simp) hqueue

theorem Uncounted.settled_iff (h : Uncounted ⟨i, c, (exec out c s.world).1⟩) :
    Settled (s.after (exec out) i c) ↔ Settled s := by
  simp only [Settled, Scene.after_trace, List.exists_mem_cons_iff, h.settles, Bool.false_eq_true,
    false_or]

theorem Uncounted.firstHolder_eq {e : Event (Option ι) Cmd Cmd.Reply} (h : Uncounted e)
    (trace : List (Event (Option ι) Cmd Cmd.Reply)) :
    firstHolder (e :: trace) = firstHolder trace := by
  simp [firstHolder, h.acquires]

/-- What a step changes that neither takes the lock nor is part of a commit. -/
theorem StartInv.after_uncounted (h : StartInv r₀ u s)
    (hevent : Uncounted ⟨i, c, (exec out c s.world).1⟩)
    (hrelease : releases ⟨i, c, (exec out c s.world).1⟩ → Settled s)
    (hkeep : c.Avoids [.snapshot, .attempt, .lastAttempt, .queue])
    (hstate : (exec out c s.world).2.redis.userState u = none ∨
      (exec out c s.world).2.redis.userState u = some .searching)
    (hlock : (exec out c s.world).2.redis.userStartSearchLock u =
      s.world.redis.userStartSearchLock u ∨
      Settled s ∨ ∀ e ∈ s.trace, acquires e = false) :
    StartInv r₀ u (s.after (exec out) i c) := by
  have hsnapshot : (exec out c s.world).2.redis.snapshot = s.world.redis.snapshot :=
    exec_part (a := .snapshot) fun ha => hkeep _ ha (by decide)
  have hattempt : (exec out c s.world).2.redis.attempt = s.world.redis.attempt :=
    exec_attempt fun ha => hkeep _ ha (by decide)
  have hlast : (exec out c s.world).2.redis.userLastAttempt = s.world.redis.userLastAttempt :=
    exec_userLastAttempt fun ha => hkeep _ ha (by decide)
  have hqueue : (exec out c s.world).2.redis.matchJobQueue = s.world.redis.matchJobQueue :=
    exec_part (a := .queue) fun ha => hkeep _ ha (by decide)
  have hto : ∀ a, commitsTo a ⟨i, c, (exec out c s.world).1⟩ = false := fun a =>
    commitsTo_of_commits hevent.commits
  have hsettled := hevent.settled_iff
  constructor
  · rw [Scene.after_world, hsnapshot]
    exact h.snapshot
  · exact hstate
  · intro a hnone
    rw [Scene.after_trace, List.forall_mem_cons] at hnone
    rw [Scene.after_world, hattempt]
    exact h.untouched a hnone.2
  · intro a hsome
    simp only [Scene.after_trace, List.exists_mem_cons_iff, hto, Bool.false_eq_true,
      false_or] at hsome
    rw [Scene.after_world, hattempt]
    exact h.committed a hsome
  · rw [hsettled, Scene.after_world, hlast]
    exact h.unsettled
  · rw [hsettled, Scene.after_world, hlast]
    simp only [Scene.after_trace, List.exists_mem_cons_iff, hto, Bool.false_eq_true, false_or]
    exact h.settled
  · intro hnone
    rw [Scene.after_world, hqueue]
    exact h.unqueued (List.forall_mem_cons.mp hnone).2
  · rw [Scene.after_world, hqueue]
    simp only [Scene.after_trace, List.exists_mem_cons_iff, hto, hevent.queuesJob,
      Bool.false_eq_true, false_or]
    exact h.queued
  · rw [Scene.after_trace, hevent.firstHolder_eq, List.forall_mem_cons]
    refine ⟨?_, h.byFirst⟩
    simp [hevent.commits, hevent.queuesJob]
  · exact h.once.after_of_false hevent.commits
  · exact h.queuedOnce.after_of_false hevent.queuesJob
  · rw [hsettled, Scene.after_trace, List.countP_cons, hevent.acquires]
    exact h.second
  · rw [hsettled]
    simp only [Scene.after_trace, List.exists_mem_cons_iff, hevent.acquires, Bool.false_eq_true,
      false_or]
    intro hacq
    rcases hlock with hlock | hset | hnone
    · rw [Scene.after_world, hlock]
      exact h.held hacq
    · exact .inr hset
    · obtain ⟨e, he, hacq⟩ := hacq
      rw [hnone e he] at hacq
      cases hacq
  · rw [hsettled]
    simp only [Scene.after_trace, List.exists_mem_cons_iff]
    rintro (hrel | hrel)
    · exact hrelease hrel
    · exact h.released hrel

/-- A caller gets the lock, or does not. -/
theorem StartInv.after_acquire (h : StartInv r₀ u s) (r : RequestId) :
    StartInv r₀ u (s.after (exec out) i (.setStartSearchLockNX u r)) := by
  by_cases hlock : s.world.redis.userStartSearchLock u = none
  · have hexec : exec out (.setStartSearchLockNX u r) s.world =
        (true, { s.world with redis := { s.world.redis with
          userStartSearchLock :=
            Function.update s.world.redis.userStartSearchLock u (some r) } }) := by
      simp only [exec, hlock, if_true]
    have hsettled : Settled (s.after (exec out) i (.setStartSearchLockNX u r)) ↔ Settled s := by
      simp [Settled, settles]
    have hto : ∀ a (b : Bool), commitsTo a
        (⟨i, .setStartSearchLockNX u r, b⟩ : Event (Option ι) Cmd Cmd.Reply) = false :=
      fun _ _ => rfl
    constructor
    · rw [Scene.after_world, hexec]
      exact h.snapshot
    · rw [Scene.after_world, hexec]
      exact h.userState
    · intro a hnone
      rw [Scene.after_world, hexec]
      exact h.untouched a (List.forall_mem_cons.mp hnone).2
    · intro a hsome
      rw [Scene.after_world, hexec]
      simp only [Scene.after_trace, List.exists_mem_cons_iff, hto, Bool.false_eq_true,
        false_or] at hsome
      exact h.committed a hsome
    · rw [hsettled, Scene.after_world, hexec]
      exact h.unsettled
    · rw [hsettled, Scene.after_world, hexec]
      simp only [Scene.after_trace, List.exists_mem_cons_iff, hto, Bool.false_eq_true, false_or]
      exact h.settled
    · intro hnone
      rw [Scene.after_world, hexec]
      exact h.unqueued (List.forall_mem_cons.mp hnone).2
    · rw [Scene.after_world, hexec]
      simp only [Scene.after_trace, List.exists_mem_cons_iff, hto, queuesJob,
        Bool.false_eq_true, false_or]
      exact h.queued
    · intro e he hevent
      rcases List.mem_cons.mp he with rfl | he
      · simp [commits, queuesJob] at hevent
      · exact firstHolder_cons (h.byFirst e he hevent)
    · exact h.once.after_of_false rfl
    · exact h.queuedOnce.after_of_false rfl
    · rw [hsettled, Scene.after_trace, List.countP_cons]
      by_cases hset : Settled s
      · exact .inr hset
      · have hzero : s.trace.countP acquires = 0 :=
          List.countP_eq_zero.mpr fun e he => by simp [h.acquires_none hlock hset e he]
        left
        rw [hzero]
        split_ifs <;> omega
    · intro _
      left
      simp [hexec]
    · rw [hsettled]
      simp only [Scene.after_trace, List.exists_mem_cons_iff, releases, Bool.false_eq_true,
        false_or]
      exact h.released
  · have hreply : (exec out (.setStartSearchLockNX u r) s.world).1 = false := by
      simp [exec, hlock]
    have hworld : (exec out (.setStartSearchLockNX u r) s.world).2 = s.world := by
      simp [exec, hlock]
    refine h.after_uncounted ⟨hreply, rfl, rfl, rfl⟩ (fun hrel => by cases hrel)
      (by simp [Cmd.Avoids]) ?_ ?_
    · rw [hworld]
      exact h.userState
    · rw [hworld]
      exact .inl rfl

/-- The first holder writes its attempt. -/
theorem StartInv.after_commit (h : StartInv r₀ u s) {a : RequestId} {fields : AttemptHash}
    (hstatus : fields.status = some .searching) (hfresh : r₀.attempt a = none)
    (hfirst : firstHolder s.trace = some i) (hnone : ∀ e ∈ s.trace, commits e = false) :
    StartInv r₀ u (s.after (exec out) i (.hsetAttempt a fields)) := by
  have hset : ¬ Settled s := by
    intro hset
    obtain ⟨b, -, e, he, hto⟩ := h.settled hset
    have hcommits := commits_of_commitsTo hto
    rw [hnone e he] at hcommits
    cases hcommits
  have hsettled : ¬ Settled (s.after (exec out) i (.hsetAttempt a fields)) := by
    simpa [Settled, settles] using hset
  have hto : ∀ b, ∀ e ∈ s.trace, commitsTo b e = false := fun b e he =>
    commitsTo_of_commits (hnone e he)
  constructor
  · exact h.snapshot
  · exact h.userState
  · intro b hb
    rw [Scene.after_trace, List.forall_mem_cons] at hb
    have hba : b ≠ a := fun heq => by simp [commitsTo, heq] at hb
    rw [Scene.after_world]
    simp only [exec, World.modify, Function.update_of_ne hba]
    exact h.untouched b hb.2
  · intro b hb
    rw [Scene.after_trace, List.exists_mem_cons_iff] at hb
    rcases hb with hb | ⟨e, he, hb⟩
    · obtain rfl : a = b := by simpa [commitsTo] using hb
      refine ⟨hfresh, _, by simp [exec, World.modify]; rfl, ?_⟩
      simp [AttemptHash.hset, hstatus]
    · rw [hto b e he] at hb
      cases hb
  · intro _
    exact h.unsettled hset
  · intro hsome
    exact absurd hsome hsettled
  · exact fun hjobs => h.unqueued (List.forall_mem_cons.mp hjobs).2
  · intro hjob
    simp only [Scene.after_trace, List.exists_mem_cons_iff, queuesJob, Bool.false_eq_true,
      false_or] at hjob
    obtain ⟨b, hqueue, e, he, hb⟩ := h.queued hjob
    exact ⟨b, hqueue, e, List.mem_cons_of_mem _ he, hb⟩
  · intro e he hevent
    rcases List.mem_cons.mp he with rfl | he
    · exact firstHolder_cons hfirst
    · exact firstHolder_cons (h.byFirst e he hevent)
  · exact Scene.AtMostOnce.after_of_none hnone
  · exact h.queuedOnce.after_of_false rfl
  · left
    rw [Scene.after_trace, List.countP_cons]
    exact (h.second.resolve_right hset)
  · intro hacq
    simp only [Scene.after_trace, List.exists_mem_cons_iff, acquires, Bool.false_eq_true,
      false_or] at hacq
    exact .inl ((h.held hacq).resolve_right hset)
  · intro hrel
    simp only [Scene.after_trace, List.exists_mem_cons_iff, releases, Bool.false_eq_true,
      false_or] at hrel
    exact absurd (h.released hrel) hset

/-- The committed attempt becomes the user's last one. -/
theorem StartInv.after_settle (h : StartInv r₀ u s) {a : RequestId}
    (ha : ∃ e ∈ s.trace, commitsTo a e) :
    StartInv r₀ u (s.after (exec out) i (.setUserLastAttempt u a)) := by
  have hsettled : Settled (s.after (exec out) i (.setUserLastAttempt u a)) :=
    ⟨_, List.mem_cons_self, rfl⟩
  have hto : ∀ b, (∃ e ∈ (s.after (exec out) i (.setUserLastAttempt u a)).trace, commitsTo b e) ↔
      ∃ e ∈ s.trace, commitsTo b e := by
    intro b
    simp [commitsTo]
  constructor
  · exact h.snapshot
  · exact h.userState
  · intro b hb
    exact h.untouched b (List.forall_mem_cons.mp hb).2
  · intro b hb
    exact h.committed b ((hto b).mp hb)
  · exact fun hne => absurd hsettled hne
  · intro _
    exact ⟨a, by simp [exec, World.modify], (hto a).mpr ha⟩
  · exact fun hjobs => h.unqueued (List.forall_mem_cons.mp hjobs).2
  · intro hjob
    simp only [Scene.after_trace, List.exists_mem_cons_iff, queuesJob, Bool.false_eq_true,
      false_or] at hjob
    obtain ⟨b, hqueue, hb⟩ := h.queued hjob
    exact ⟨b, hqueue, (hto b).mpr hb⟩
  · intro e he hevent
    rcases List.mem_cons.mp he with rfl | he
    · simp [commits, queuesJob] at hevent
    · exact firstHolder_cons (h.byFirst e he hevent)
  · exact h.once.after_of_false rfl
  · exact h.queuedOnce.after_of_false rfl
  · exact .inr hsettled
  · exact fun _ => .inr hsettled
  · exact fun _ => hsettled

/-- The first holder queues its job. -/
theorem StartInv.after_queueJob (h : StartInv r₀ u s) {a : RequestId}
    (ha : ∃ e ∈ s.trace, commitsTo a e) (hset : Settled s)
    (hfirst : firstHolder s.trace = some i) (hnone : ∀ e ∈ s.trace, queuesJob e = false) :
    StartInv r₀ u (s.after (exec out) i (.lpushJob ⟨u, a⟩)) := by
  have hto : ∀ b, (∃ e ∈ (s.after (exec out) i (.lpushJob ⟨u, a⟩)).trace, commitsTo b e) ↔
      ∃ e ∈ s.trace, commitsTo b e := by
    intro b
    simp [commitsTo]
  have hsettled : Settled (s.after (exec out) i (.lpushJob ⟨u, a⟩)) := hset.after
  constructor
  · exact h.snapshot
  · exact h.userState
  · intro b hb
    exact h.untouched b (List.forall_mem_cons.mp hb).2
  · intro b hb
    exact h.committed b ((hto b).mp hb)
  · exact fun hne => absurd hsettled hne
  · intro _
    obtain ⟨b, hlast, hb⟩ := h.settled hset
    exact ⟨b, hlast, (hto b).mpr hb⟩
  · intro hjobs
    have hhead := (List.forall_mem_cons.mp hjobs).1
    cases hhead
  · intro _
    refine ⟨a, ?_, (hto a).mpr ha⟩
    simp [exec, World.modify, h.unqueued hnone]
  · intro e he hevent
    rcases List.mem_cons.mp he with rfl | he
    · exact firstHolder_cons hfirst
    · exact firstHolder_cons (h.byFirst e he hevent)
  · exact h.once.after_of_false rfl
  · exact Scene.AtMostOnce.after_of_none hnone
  · exact .inr hsettled
  · exact fun _ => .inr hsettled
  · exact fun _ => hsettled

end Start

end Greetup.Matching
