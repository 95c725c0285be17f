import Greetup.Interleaving.Progress
import Greetup.Matching.StartSearch

/-!
The calls that start a search, one command after the other under the invariant
of `StartSearch`, and what any number of them amount to: one commit, one job,
one answer.
-/

namespace Greetup.Matching

open Greetup.Interleaving Prog

variable {ι : Type}

section Start

variable {r₀ : Redis} {u : UserId} {out : Outside} {i : Option ι} {c : Cmd}
  {s : Scene (Option ι) Cmd Cmd.Reply World}

/-! ### The calls -/

/-- The caller has written nothing yet. -/
def Unwritten (i : Option ι) (s : Scene (Option ι) Cmd Cmd.Reply World) : Prop :=
  ∀ e ∈ s.trace, e.tid = i → e.cmd.Avoids [.attempt, .queue]

/-- The command is one of those by which a caller commits. -/
def Cmd.Writes (c : Cmd) : Prop := ¬ c.Avoids [.attempt, .queue]

def startOutline (r₀ : Redis) (u : UserId) (out : Outside) : Outline (Option ι) (exec out) where
  key := Cmd.Writes
  inv := StartInv r₀ u
  allowed := InOrder

/-- A command that leaves the search of the user `u` alone, or marks `u` as searching. -/
def Cmd.Idles (u : UserId) (c : Cmd) : Prop :=
  (c.Avoids [.snapshot, .userState, .attempt, .lastAttempt, .startLock, .queue] ∧
    ∀ v, c ≠ .getStartSearchLock v) ∨ c = .setUserState u .searching

theorem quiet_start : (startOutline (ι := ι) r₀ u out).Quiet i (Cmd.Idles u) where
  not_key := by
    rintro c (⟨hc, -⟩ | rfl) hkey
    · exact hkey (hc.mono (by decide))
    · exact hkey (by simp [Cmd.Avoids])
  inv_after := by
    rintro c (⟨hc, hget⟩ | rfl) s hI -
    · have hstate : (exec out c s.world).2.redis.userState = s.world.redis.userState :=
        exec_userState fun ha => hc _ ha (by decide)
      have hlock : (exec out c s.world).2.redis.userStartSearchLock =
          s.world.redis.userStartSearchLock :=
        exec_userStartSearchLock fun ha => hc _ ha (by decide)
      refine StartInv.after_uncounted hI (uncounted_of_areas (hc.mono (by decide))) ?_
        (hc.mono (by decide)) ?_ ?_
      · intro hrel
        cases c <;> first | exact absurd rfl (hget _) | cases hrel
      · rw [hstate]
        exact hI.userState
      · rw [hlock]
        exact .inl rfl
    · refine StartInv.after_uncounted hI (uncounted_of_areas (by simp [Cmd.Avoids]))
        (fun hrel => by cases hrel) (by simp [Cmd.Avoids]) ?_ (.inl rfl)
      right
      simp [exec, World.modify]

variable {s' : Scene (Option ι) Cmd Cmd.Reply World}

theorem Unwritten.since (h : Unwritten i s)
    (hs : Scene.Since Cmd.Writes i s s') : Unwritten i s' := by
  intro e he htid
  by_contra hkey
  exact hkey (h e (hs.mem_of_key he htid hkey) htid)

theorem Unwritten.commits (h : Unwritten i s) {e : Event (Option ι) Cmd Cmd.Reply}
    (he : e ∈ s.trace) (htid : e.tid = i) : commits e = false := by
  have hareas := h e he htid
  obtain ⟨j, c, r⟩ := e
  cases c <;> first | rfl | exact absurd hareas (by simp [Cmd.Avoids])

theorem Unwritten.queuesJob (h : Unwritten i s) {e : Event (Option ι) Cmd Cmd.Reply}
    (he : e ∈ s.trace) (htid : e.tid = i) : queuesJob e = false := by
  have hareas := h e he htid
  obtain ⟨j, c, r⟩ := e
  cases c <;> first | rfl | exact absurd hareas (by simp [Cmd.Avoids])

theorem writes_of_queuesJob {e : Event (Option ι) Cmd Cmd.Reply} (h : queuesJob e) :
    e.cmd.Writes := by
  obtain ⟨j, c, r⟩ := e
  cases c with
  | lpushJob request => simp [Cmd.Writes, Cmd.Avoids]
  | _ => cases h

theorem attempt_mem_areas_of_commits {e : Event (Option ι) Cmd Cmd.Reply} (h : commits e) :
    .attempt ∈ e.cmd.areas := by
  obtain ⟨j, c, r⟩ := e
  cases c with
  | hsetAttempt a fields => exact List.mem_singleton_self _
  | _ => cases h

theorem writes_of_commits {e : Event (Option ι) Cmd Cmd.Reply} (h : commits e) :
    e.cmd.Writes :=
  fun havoids => havoids _ (attempt_mem_areas_of_commits h) (by decide)

theorem firstHolder_since {key : Cmd → Prop} (hs : Scene.Since key i s s') {j : Option ι}
    (h : firstHolder s.trace = some j) : firstHolder s'.trace = some j := by
  obtain ⟨l, hl, -⟩ := hs
  rw [hl]
  clear hl
  induction l with
  | nil => exact h
  | cons e l ih => exact firstHolder_cons ih

section Calls

variable {α : Type} {Q : α → Scene (Option ι) Cmd Cmd.Reply World → Prop}

/-- What a look for a search under way tells: a committed attempt, or that
nobody had settled when the look began. -/
theorem keeps_coalesce_bind (hidle : r₀.Idle u) {f : Option FindMatchResult → M α}
    (hsome : ∀ a s', Scene.Since Cmd.Writes i s s' → StartInv r₀ u s' →
      (∃ e ∈ s'.trace, commitsTo a e) →
      (startOutline r₀ u out).Keeps i (f (some (searchingWithRequestId a))) Q s')
    (hnone : ∀ s₁ s', Scene.Since Cmd.Writes i s s₁ → StartInv r₀ u s₁ →
      ¬ Settled s₁ → Scene.Since Cmd.Writes i s₁ s' → StartInv r₀ u s' →
      (startOutline r₀ u out).Keeps i (f none) Q s') :
    (startOutline r₀ u out).Keeps i (coalesceActiveSearchOrProposal u >>= f) Q s := by
  have hread : ∀ c : Cmd, c.areas = [] → (∀ v, c ≠ .getStartSearchLock v) → c.Idles u :=
    fun c hc hget => .inl ⟨.of_nil hc, hget⟩
  rw [coalesceActiveSearchOrProposal_bind]
  refine quiet_start.keeps_call (hread _ rfl (by simp)) fun s₁ hs₁ hI₁ hsince hI₁' => ?_
  rw [show (exec out (.getUserLastAttempt u) s₁.world).1 =
    s₁.world.redis.userLastAttempt u from rfl]
  cases hlast : s₁.world.redis.userLastAttempt u with
  | none =>
      refine hnone s₁ _ hs₁ hI₁ (fun hset => ?_) hsince hI₁'
      obtain ⟨a, ha, -⟩ := StartInv.settled hI₁ hset
      rw [hlast] at ha
      cases ha
  | some a =>
      refine quiet_start.keeps_call (hread _ rfl (by simp)) fun s₂ hs₂ hI₂ hsince' hI₂' => ?_
      have hknown : Settled s₂ ∧ (∃ e ∈ s₂.trace, commitsTo a e) ∨
          r₀.userLastAttempt u = some a := by
        by_cases hset : Settled s₁
        · obtain ⟨b, hb, e, he, hto⟩ := StartInv.settled hI₁ hset
          obtain rfl : a = b := Option.some.inj (hlast.symm.trans hb)
          exact .inl ⟨(hset.since hsince).since hs₂, e, hs₂.mem (hsince.mem he), hto⟩
        · exact .inr ((StartInv.unsettled hI₁ hset).symm.trans hlast)
      show (startOutline r₀ u out).Keeps i (f ((s₂.world.redis.attempt a).bind _)) Q _
      rcases StartInv.coalesced hI₂ hidle hknown with ⟨hres, e, he, hto⟩ | ⟨hres, hnocommit⟩
      · rw [hres]
        exact hsome a _ ((hs₁.trans hsince).trans (hs₂.trans hsince')) hI₂'
          ⟨e, hsince'.mem he, hto⟩
      · rw [hres]
        refine hnone s₁ _ hs₁ hI₁ (fun hset => ?_) ((hsince.trans hs₂).trans hsince') hI₂'
        obtain ⟨b, hb, e, he, hto⟩ := StartInv.settled hI₁ hset
        obtain rfl : a = b := Option.some.inj (hlast.symm.trans hb)
        rw [hnocommit e (hs₂.mem (hsince.mem he))] at hto
        cases hto

/-- Letting go of the lock once somebody has settled. -/
theorem keeps_releaseStartSearchLockIfHolder (r : RequestId) (hset : Settled s)
    {Q : Unit → Scene (Option ι) Cmd Cmd.Reply World → Prop}
    (hQ : ∀ s', Scene.Since Cmd.Writes i s s' → StartInv r₀ u s' → Q () s') :
    (startOutline r₀ u out).Keeps i (releaseStartSearchLockIfHolder u r) Q s := by
  intro s₁ hs₁ hI₁ _
  have hset₁ := hset.since hs₁
  refine ⟨StartInv.after_uncounted hI₁ ⟨rfl, rfl, rfl, rfl⟩ (fun _ => hset₁)
    (by simp [Cmd.Avoids]) (StartInv.userState hI₁) (.inr (.inl hset₁)), ?_⟩
  have hsince : Scene.Since Cmd.Writes i s₁
      (s₁.after (exec out) i (.getStartSearchLock u)) :=
    .of_not_key (exec out) s₁ i (by simp [Cmd.Writes, Cmd.Avoids])
  show (startOutline r₀ u out).Keeps i
    (if s₁.world.redis.userStartSearchLock u = some r then _ else _) Q _
  split_ifs
  · intro s₂ hs₂ hI₂ _
    have hset₂ := (hset₁.since hsince).since hs₂
    refine ⟨StartInv.after_uncounted hI₂ ⟨rfl, rfl, rfl, rfl⟩ (fun _ => hset₂)
      (by simp [Cmd.Avoids]) (StartInv.userState hI₂) (.inr (.inl hset₂)), ?_⟩
    have hsince' : Scene.Since Cmd.Writes i s₂
        (s₂.after (exec out) i (.delStartSearchLock u)) :=
      .of_not_key (exec out) s₂ i (by simp [Cmd.Writes, Cmd.Avoids])
    exact fun s₃ hs₃ hI₃ => hQ s₃ (((hs₁.trans hsince).trans (hs₂.trans hsince')).trans hs₃) hI₃
  · exact fun s₃ hs₃ hI₃ => hQ s₃ ((hs₁.trans hsince).trans hs₃) hI₃

/-! What a call has done when it returns. -/

/-- The caller got a committed attempt, and if it is its own, the job is queued. -/
structure Found (i : Option ι) (result : FindMatchResult)
    (s : Scene (Option ι) Cmd Cmd.Reply World) : Prop where
  searching : ∃ a, result = searchingWithRequestId a ∧ ∃ e ∈ s.trace, commitsTo a e
  queued : (∃ e ∈ s.trace, e.tid = i ∧ commits e) → ∃ e ∈ s.trace, queuesJob e

theorem Found.since {result : FindMatchResult} (h : Found i result s)
    (hs : Scene.Since Cmd.Writes i s s') : Found i result s' where
  searching := by
    obtain ⟨a, ha, e, he, hto⟩ := h.searching
    exact ⟨a, ha, e, hs.mem he, hto⟩
  queued := by
    rintro ⟨e, he, htid, hcommits⟩
    have hold := hs.mem_of_key he htid (writes_of_commits hcommits)
    obtain ⟨e', he', hjob⟩ := h.queued ⟨e, hold, htid, hcommits⟩
    exact ⟨e', hs.mem he', hjob⟩

theorem Unwritten.not_commits (h : Unwritten i s) :
    ¬ ∃ e ∈ s.trace, e.tid = i ∧ Matching.commits e := by
  rintro ⟨e, he, htid, hcommits⟩
  rw [h.commits he htid] at hcommits
  cases hcommits

theorem Unwritten.found (h : Unwritten i s) {a : RequestId}
    (ha : ∃ e ∈ s.trace, commitsTo a e) : Found i (searchingWithRequestId a) s where
  searching := ⟨a, rfl, ha⟩
  queued hcommits := absurd hcommits h.not_commits

variable [Host]

theorem uses_enqueue : (enqueue u).Uses (Cmd.Idles u) := by
  have hidle : ∀ c : Cmd, c.areas ⊆ [.pool] → (∀ v, c ≠ .getStartSearchLock v) → c.Idles u := by
    intro c hc hget
    refine .inl ⟨fun a ha hmem => ?_, hget⟩
    have hpool := List.mem_singleton.mp (hc ha)
    subst hpool
    revert hmem
    decide
  have hissue : ∀ c : Cmd, c.areas ⊆ [.pool] → (∀ v, c ≠ .getStartSearchLock v) →
      (issue c).Uses (Cmd.Idles u) := fun c hc hget => (uses_perform c).mpr (hidle c hc hget)
  refine Uses.bind (hissue _ (by simp) (by simp)) fun now => ?_
  refine Uses.bind (Uses.bind (hissue _ (by simp) (by simp)) fun raw => uses_done _) fun snap => ?_
  refine Uses.bind (hissue _ (by simp) (by simp)) fun _ => ?_
  refine Uses.bind ?_ fun _ => Uses.bind (hissue _ (by simp) (by simp)) fun _ =>
    (uses_perform _).mpr (.inr rfl)
  generalize (buildLocationPoolIndexMeta snap).buckets = keys
  induction keys with
  | nil => exact uses_done _
  | cons key keys ih => exact Uses.bind (hissue _ (by simp) (by simp)) fun _ => ih

/-- The first holder commits. -/
theorem keeps_commitSearchingEnqueue {r : RequestId} (hfresh : r₀.attempt r = none)
    (hfirst : firstHolder s.trace = some i) (hown : Unwritten i s) :
    (startOutline r₀ u out).Keeps i (commitSearchingEnqueue ⟨u, r⟩)
      (fun result s' => Settled s' ∧ Found i result s') s := by
  intro s₁ hs₁ hI₁ _
  have hfirst₁ := firstHolder_since hs₁ hfirst
  have hown₁ : Unwritten i s₁ := hown.since hs₁
  have hnone : ∀ e ∈ s₁.trace, commits e = false := by
    intro e he
    by_contra hne
    have htid := StartInv.byFirst hI₁ e he (.inl (by simpa using hne))
    exact hne (hown₁.commits he (Option.some.inj (htid.symm.trans hfirst₁)))
  refine ⟨StartInv.after_commit hI₁ rfl hfresh hfirst₁ hnone, ?_⟩
  -- the caller's own commands up to and including this one queue no job
  have hjobs : ∀ e ∈ (s₁.after (exec out) i (.hsetAttempt r
      { status := some .searching, userId := some u })).trace, e.tid = i → queuesJob e = false := by
    intro e he htid
    rcases List.mem_cons.mp he with rfl | he
    · rfl
    · exact hown₁.queuesJob he htid
  have hcommit : ∃ e ∈ (s₁.after (exec out) i (.hsetAttempt r
      { status := some .searching, userId := some u })).trace, commitsTo r e :=
    ⟨_, List.mem_cons_self, by simp [commitsTo]⟩
  have hfirst₁' := firstHolder_cons
    (e := ⟨i, _, (exec out (.hsetAttempt r
      { status := some .searching, userId := some u }) s₁.world).1⟩) hfirst₁
  refine quiet_start.keeps_call (.inl ⟨.of_nil rfl, by simp⟩) fun s₂ hs₂ _ hs₂' _ => ?_
  intro s₃ hs₃ hI₃ _
  have hs₁₃ := (hs₂.trans hs₂').trans hs₃
  have hcommit₃ : ∃ e ∈ s₃.trace, commitsTo r e :=
    hcommit.imp fun e he => ⟨hs₁₃.mem he.1, he.2⟩
  have hI₃' : StartInv r₀ u (s₃.after (exec out) i (.setUserLastAttempt u r)) :=
    hI₃.after_settle hcommit₃
  refine ⟨hI₃', ?_⟩
  have hs₃' : Scene.Since Cmd.Writes i s₃ (s₃.after (exec out) i (.setUserLastAttempt u r)) :=
    .of_not_key (exec out) s₃ i (by simp [Cmd.Writes, Cmd.Avoids])
  show (startOutline r₀ u out).Keeps i (enqueue u >>= fun _ =>
    .call (.lpushJob ⟨u, r⟩) fun _ => .done (searchingWithRequestId r)) _ _
  refine quiet_start.keeps_bind uses_enqueue hI₃' fun _ s₄ hs₄ hI₄ => ?_
  intro s₅ hs₅ hI₅ _
  have hs₃₅ := (hs₃'.trans hs₄).trans hs₅
  have hs₁₅ := hs₁₃.trans hs₃₅
  have hset₅ : Settled s₅ := ⟨_, (hs₄.trans hs₅).mem List.mem_cons_self, rfl⟩
  have hcommit₅ : ∃ e ∈ s₅.trace, commitsTo r e :=
    hcommit.imp fun e he => ⟨hs₁₅.mem he.1, he.2⟩
  have hfirst₅ : firstHolder s₅.trace = some i := firstHolder_since hs₁₅ hfirst₁'
  have hjobs₅ : ∀ e ∈ s₅.trace, queuesJob e = false := by
    intro e he
    by_contra hne
    have hjob : queuesJob e = true := by simpa using hne
    have htid := Option.some.inj ((StartInv.byFirst hI₅ e he (.inr hjob)).symm.trans hfirst₅)
    have he₁ := hs₁₅.mem_of_key he htid (writes_of_queuesJob hjob)
    exact hne (hjobs e he₁ htid)
  refine ⟨StartInv.after_queueJob hI₅ hcommit₅ hset₅ hfirst₅ hjobs₅, fun s₆ hs₆ _ => ?_⟩
  have hmem : ∀ e ∈ s₅.trace, e ∈ s₆.trace := fun e he => hs₆.mem (List.mem_cons_of_mem _ he)
  refine ⟨hset₅.imp fun e he => ⟨hmem e he.1, he.2⟩, ?_, ?_⟩
  · exact ⟨r, rfl, hcommit₅.imp fun e he => ⟨hmem e he.1, he.2⟩⟩
  · exact fun _ => ⟨_, hs₆.mem List.mem_cons_self, rfl⟩

/-- A caller that holds the lock looks again and commits if there is nothing. -/
theorem keeps_startWithLock (hidle : r₀.Idle u) {r : RequestId} (hfresh : r₀.attempt r = none)
    (hown : Unwritten i s) (hacq : ∃ e ∈ s.trace, acquires e ∧ e.tid = i) :
    (startOutline r₀ u out).Keeps i (startWithLock ⟨u, r⟩) (Found i) s := by
  -- whoever holds the lock before anybody has settled is the first to hold it
  have hholder : ∀ s', Scene.Since Cmd.Writes i s s' → StartInv r₀ u s' → ¬ Settled s' →
      firstHolder s'.trace = some i := by
    intro s' hs' hI' hset
    obtain ⟨e, he, hacquires, rfl⟩ := hacq
    exact firstHolder_of_countP (hI'.second.resolve_right hset) (hs'.mem he) hacquires
  refine keeps_coalesce_bind hidle (fun a s₁ hs₁ hI₁ ha => ?_) fun s₁ s₂ hs₁ hI₁ hset hs₂ hI₂ => ?_
  · have hset : Settled s₁ := by
      by_contra hset
      obtain ⟨e, he, hto⟩ := ha
      have hcommits := commits_of_commitsTo hto
      have htid := hI₁.byFirst e he (.inl hcommits)
      rw [hholder s₁ hs₁ hI₁ hset] at htid
      rw [(hown.since hs₁).commits he (Option.some.inj htid).symm] at hcommits
      cases hcommits
    refine Outline.Keeps.bind (keeps_releaseStartSearchLockIfHolder r hset fun s₂ hs₂ hI₂ => ?_) hI₁
    intro s₃ hs₃ _
    refine (((hown.since hs₁).since hs₂).since hs₃).found ?_
    exact ha.imp fun e he => ⟨hs₃.mem (hs₂.mem he.1), he.2⟩
  · have hfirst := firstHolder_since hs₂ (hholder s₁ hs₁ hI₁ hset)
    have hown₂ := (hown.since hs₁).since hs₂
    refine Outline.Keeps.bind ((keeps_commitSearchingEnqueue hfresh hfirst hown₂).imp
      fun result s₃ hI₃ h₃ => ?_) hI₂
    refine Outline.Keeps.bind (keeps_releaseStartSearchLockIfHolder r h₃.1 fun s₄ hs₄ _ => ?_) hI₃
    exact fun s₅ hs₅ _ => (h₃.2.since hs₄).since hs₅

theorem keeps_pollStartSearchLock (hidle : r₀.Idle u) {r : RequestId}
    (hfresh : r₀.attempt r = none) (polls : ℕ) (hown : Unwritten i s) :
    (startOutline r₀ u out).Keeps i (pollStartSearchLock ⟨u, r⟩ polls) (Found i) s := by
  have hfound : ∀ a s₁, Scene.Since Cmd.Writes i s s₁ → (∃ e ∈ s₁.trace, commitsTo a e) →
      (startOutline r₀ u out).Keeps i (.done (searchingWithRequestId a)) (Found i) s₁ := by
    intro a s₁ hs₁ ha s₂ hs₂ _
    refine ((hown.since hs₁).since hs₂).found ?_
    exact ha.imp fun e he => ⟨hs₂.mem he.1, he.2⟩
  induction polls generalizing s with
  | zero =>
      refine keeps_coalesce_bind hidle (fun a s₁ hs₁ _ ha => hfound a s₁ hs₁ ha)
        fun s₁ s₂ _ _ _ _ _ => ?_
      -- the wait is never exhausted
      exact fun s₃ _ _ hexhausted => hexhausted.elim
  | succ polls ih =>
      refine keeps_coalesce_bind hidle (fun a s₁ hs₁ _ ha => hfound a s₁ hs₁ ha)
        fun s₁ s₂ hs₁ _ _ hs₂ _ => ?_
      have hown₂ := (hown.since hs₁).since hs₂
      intro s₃ hs₃ hI₃ _
      refine ⟨StartInv.after_acquire hI₃ r, ?_⟩
      have hs₃' : Scene.Since Cmd.Writes i s₃ (s₃.after (exec out) i (.setStartSearchLockNX u r)) :=
        .of_not_key (exec out) s₃ i (by simp [Cmd.Writes, Cmd.Avoids])
      have hown₃ := (hown₂.since hs₃).since hs₃'
      show (startOutline r₀ u out).Keeps i
        (if (exec out (.setStartSearchLockNX u r) s₃.world).1 = true then _ else _) _ _
      split_ifs with hacq
      · exact keeps_startWithLock hidle hfresh hown₃ ⟨_, List.mem_cons_self, hacq, rfl⟩
      · refine ih hown₃ fun a s₄ hs₄ ha => ?_
        exact hfound a s₄ ((((hs₁.trans hs₂).trans hs₃).trans hs₃').trans hs₄) ha

/-- What a call for the request `r` answers. -/
structure Answered (r₀ : Redis) (r : RequestId) (i : Option ι) (result : FindMatchResult)
    (s : Scene (Option ι) Cmd Cmd.Reply World) : Prop where
  recorded : ∀ h, r₀.attempt r = some h → result = (parseAttemptRecord h r).toResult
  searching : r₀.attempt r = none →
    ∃ a, result = searchingWithRequestId a ∧ ∃ e ∈ s.trace, commitsTo a e
  queued : (∃ e ∈ s.trace, e.tid = i ∧ commits e) → ∃ e ∈ s.trace, queuesJob e

theorem keeps_startFindMatch (hidle : r₀.Idle u) (r : RequestId) (polls : ℕ)
    (hown : Unwritten i s) :
    (startOutline r₀ u out).Keeps i (startFindMatch polls ⟨u, r⟩) (Answered r₀ r i) s := by
  have hread : ∀ c : Cmd, c.areas = [] → (∀ v, c ≠ .getStartSearchLock v) → c.Idles u :=
    fun c hc hget => .inl ⟨.of_nil hc, hget⟩
  refine quiet_start.keeps_call (c := .hgetallAttempt r) (hread _ rfl (by simp))
    fun s₁ hs₁ hI₁ hs₁' hI₁' => ?_
  have hown₁ := (hown.since hs₁).since hs₁'
  rw [show (exec out (.hgetallAttempt r) s₁.world).1 = s₁.world.redis.attempt r from rfl]
  by_cases hcommit : ∃ e ∈ s₁.trace, commitsTo r e
  · obtain ⟨hfresh, h, hh, hstatus⟩ := StartInv.committed hI₁ r hcommit
    rw [hh]
    intro s₂ hs₂ _
    refine ⟨fun h' hh' => ?_, fun _ => ?_, fun hown' => absurd hown' (hown₁.since hs₂).not_commits⟩
    · rw [hfresh] at hh'
      cases hh'
    · refine ⟨r, ?_, hcommit.imp fun e he => ⟨hs₂.mem (hs₁'.mem he.1), he.2⟩⟩
      simp [AttemptRecord.toResult, parseAttemptRecord, hstatus, searchingWithRequestId]
  have hnocommit : ∀ e ∈ s₁.trace, commitsTo r e = false := by
    intro e he
    by_contra hne
    exact hcommit ⟨e, he, by simpa using hne⟩
  rw [StartInv.untouched hI₁ r hnocommit]
  cases hattempt : r₀.attempt r with
  | some h =>
      intro s₂ hs₂ _
      refine ⟨fun h' hh' => ?_, fun hfresh => ?_,
        fun hown' => absurd hown' (hown₁.since hs₂).not_commits⟩
      · rw [hattempt, Option.some.injEq] at hh'
        rw [hh']
      · rw [hattempt] at hfresh
        cases hfresh
  | none =>
      have hanswered : ∀ result s', Found i result s' → Answered r₀ r i result s' := by
        intro result s' h
        refine ⟨fun h' hh' => ?_, fun _ => h.searching, h.queued⟩
        rw [hattempt] at hh'
        cases hh'
      refine quiet_start.keeps_call (c := .getSnapshot u) (hread _ rfl (by simp))
        fun s₂ hs₂ hI₂ hs₂' hI₂' => ?_
      have hown₂ := (hown₁.since hs₂).since hs₂'
      obtain ⟨raw, hraw⟩ := Option.ne_none_iff_exists'.mp (StartInv.snapshot hI₂)
      rw [show (exec out (.getSnapshot u) s₂.world).1 = s₂.world.redis.snapshot u from rfl, hraw]
      refine quiet_start.keeps_call (c := .getUserState u) (hread _ rfl (by simp))
        fun s₃ hs₃ hI₃ hs₃' hI₃' => ?_
      have hown₃ := (hown₂.since hs₃).since hs₃'
      rw [show (exec out (.getUserState u) s₃.world).1 = s₃.world.redis.userState u from rfl]
      rcases StartInv.userState hI₃ with hstate | hstate <;> rw [hstate]
      all_goals
        refine keeps_coalesce_bind hidle (fun a s₄ hs₄ _ ha => ?_) fun s₄ s₅ hs₄ _ _ hs₅ _ => ?_
        · intro s₅ hs₅ _
          refine hanswered _ _ (((hown₃.since hs₄).since hs₅).found ?_)
          exact ha.imp fun e he => ⟨hs₅.mem he.1, he.2⟩
        · exact (keeps_pollStartSearchLock hidle hattempt polls
            ((hown₃.since hs₄).since hs₅)).imp fun _ _ _ => hanswered _ _

end Calls

end Start

/-! ### How long a call takes -/

theorem LocationPoolIndexMeta.length_buckets_le (idx : LocationPoolIndexMeta) :
    idx.buckets.length ≤ 3 := by
  obtain ⟨countryCode, citySlug, regionSlug⟩ := idx
  cases countryCode <;> cases citySlug <;> cases regionSlug <;>
    simp [LocationPoolIndexMeta.buckets]

theorem ends_forKeys {cmd : PoolKey → M Unit} (h : ∀ key, (cmd key).Ends 1)
    (keys : List PoolKey) : (forKeys cmd keys).Ends keys.length := by
  induction keys with
  | nil => exact ends_done _ _
  | cons key keys ih =>
      rw [List.length_cons, Nat.add_comm]
      exact Ends.bind (h key) fun _ => ih

theorem ends_coalesceActiveSearchOrProposal (u : UserId) :
    (coalesceActiveSearchOrProposal u).Ends 2 := by
  rw [← bind_done (coalesceActiveSearchOrProposal u), coalesceActiveSearchOrProposal_bind]
  intro lastId
  cases lastId with
  | none => exact ends_done _ _
  | some lastId => exact fun raw => ends_done _ _

theorem ends_releaseStartSearchLockIfHolder (u : UserId) (r : RequestId) :
    (releaseStartSearchLockIfHolder u r).Ends 2 :=
  Ends.bind (ends_perform _) fun _ => ends_ite (ends_perform _) (ends_done _ _)

theorem ends_putAttempt (a : RequestId) (u : UserId) (fields : AttemptHash) :
    (putAttempt a u fields).Ends 3 :=
  Ends.bind (ends_perform _) fun _ => Ends.bind (ends_perform _) fun _ => ends_perform _

theorem ends_finishNoMatch (request : FindMatchRequest) (reason : String) :
    (finishNoMatch request reason).Ends 3 :=
  Ends.bind (ends_putAttempt _ _ _) fun _ => ends_done 0 _

section

variable [Host]

theorem ends_enqueue (u : UserId) : (enqueue u).Ends 8 := by
  show (enqueue u).Ends (1 + (1 + (1 + (3 + (1 + 1)))))
  refine Ends.bind (ends_perform _) fun now => ?_
  refine Ends.bind (Ends.map (ends_perform _) _) fun snap => ?_
  refine Ends.bind (ends_perform _) fun _ => ?_
  refine Ends.bind ((ends_forKeys (fun key => ends_perform _) _).mono
    (LocationPoolIndexMeta.length_buckets_le _)) fun _ => ?_
  exact Ends.bind (ends_perform _) fun _ => ends_perform _

theorem ends_commitSearchingEnqueue (request : FindMatchRequest) :
    (commitSearchingEnqueue request).Ends 12 := by
  show (commitSearchingEnqueue request).Ends (3 + (8 + (1 + 0)))
  refine Ends.bind (ends_putAttempt _ _ _) fun _ => ?_
  refine Ends.bind (ends_enqueue _) fun _ => ?_
  exact Ends.bind (ends_perform _) fun _ => ends_done 0 _

theorem ends_startWithLock (request : FindMatchRequest) :
    (startWithLock request).Ends 16 := by
  show (startWithLock request).Ends (2 + (12 + (2 + 0)))
  have hrelease := ends_releaseStartSearchLockIfHolder request.userId request.requestId
  refine Ends.bind (ends_coalesceActiveSearchOrProposal _) fun again => ?_
  cases again with
  | some again => exact (Ends.bind hrelease fun _ => ends_done 0 _).mono (by omega)
  | none =>
      refine Ends.bind (ends_commitSearchingEnqueue request) fun _ => ?_
      exact Ends.bind hrelease fun _ => ends_done 0 _

theorem ends_pollStartSearchLock (request : FindMatchRequest) (polls : ℕ) :
    (pollStartSearchLock request polls).Ends (3 * polls + 16) := by
  induction polls with
  | zero =>
      refine (Ends.bind (ends_coalesceActiveSearchOrProposal _) fun final => ?_ :
        Ends (2 + 13) _).mono (by omega)
      cases final with
      | some final => exact ends_done _ _
      | none => exact fun _ => ends_commitSearchingEnqueue request
  | succ polls ih =>
      have hpoll : (pollStartSearchLock request (polls + 1)).Ends (2 + (1 + (3 * polls + 16))) := by
        refine Ends.bind (ends_coalesceActiveSearchOrProposal _) fun early => ?_
        cases early with
        | some early => exact ends_done _ _
        | none =>
            refine Ends.bind (ends_perform _) fun acquired => ?_
            exact ends_ite ((ends_startWithLock request).mono (by omega)) ih
      exact hpoll.mono (by omega)

/-- As many moves as a call that may poll for the lock so often ever needs. -/
def startSteps (polls : ℕ) : ℕ := 3 * polls + 23

theorem ends_getSnapshotWithHydration (u : UserId) : (getSnapshotWithHydration u).Ends 3 := by
  show (getSnapshotWithHydration u).Ends (1 + (1 + 1))
  have hget : (getByUserId u).Ends 1 := Ends.map (ends_perform _) _
  refine Ends.bind hget fun existing => ?_
  cases existing with
  | some existing => exact ends_done _ _
  | none => exact Ends.bind (ends_perform _) fun ok => ends_ite hget (ends_done _ _)

theorem ends_startFindMatch (polls : ℕ) (request : FindMatchRequest) :
    (startFindMatch polls request).Ends (startSteps polls) := by
  have hget : ∀ a, (getAttempt a).Ends 1 := fun a => Ends.map (ends_perform _) _
  have hno : ∀ n reason, (finishNoMatch request reason).Ends (n + 3) := fun n reason =>
    (ends_finishNoMatch request reason).mono (by omega)
  have hsteps : startSteps polls = 1 + (3 + (1 + (3 * polls + 15 + 3))) := by
    rw [startSteps]
    omega
  rw [hsteps]
  refine Ends.bind (hget _) fun existing => ?_
  cases existing with
  | some existing => exact ends_done _ _
  | none =>
      refine Ends.bind (ends_getSnapshotWithHydration _) fun snap => ?_
      cases snap with
      | none => exact (hno 0 _).mono (by omega)
      | some snap =>
          refine Ends.bind (ends_perform _) fun state => ?_
          rcases state with _ | _ | _ | _
          case some.inRoom => exact hno _ _
          case some.locked =>
            have hlocked : 3 * polls + 15 + 3 = 1 + (3 * polls + 14 + 3) := by omega
            rw [hlocked]
            refine Ends.bind (ends_perform _) fun lastId => ?_
            cases lastId with
            | none => exact hno _ _
            | some lastId =>
                have hlast : 3 * polls + 14 + 3 = 1 + (3 * polls + 13 + 3) := by omega
                rw [hlast]
                refine Ends.bind (hget _) fun locked => ?_
                cases locked with
                | none => exact hno _ _
                | some locked => exact ends_ite (ends_done _ _) (hno _ _)
          all_goals
            have hsearch : 3 * polls + 15 + 3 = 2 + (3 * polls + 16) := by omega
            rw [hsearch]
            refine Ends.bind (ends_coalesceActiveSearchOrProposal _) fun early => ?_
            cases early with
            | some early => exact ends_done _ _
            | none => exact ends_pollStartSearchLock request polls

end

/-! ### Any number of calls -/

/-- The environment: the user's start-search lock may expire so many times. -/
def lockExpiries (u : UserId) : ℕ → M (Option FindMatchResult)
  | 0 => pure none
  | expiries + 1 => do
    issue (.expired (.userStartSearchLock u))
    lockExpiries u expiries

/-- Any number of calls of one user, each with a request id of its own choice,
beside the clock that may let the lock expire. -/
def starting [Host] (u : UserId) (polls : ι → ℕ) (ids : ι → RequestId) (expiries : ℕ)
    (w : World) : Conf (Option ι) Cmd Cmd.Reply (Option FindMatchResult) World where
  threads
    | none => lockExpiries u expiries
    | some i => some <$> startFindMatch (polls i) ⟨u, ids i⟩
  scene := ⟨w, []⟩

section Run

variable {r₀ : Redis} {u : UserId} {out : Outside} {s : Scene (Option ι) Cmd Cmd.Reply World}

theorem StartInv.start {w : World} (h : w.redis.Idle u) :
    StartInv w.redis u (⟨w, []⟩ : Scene (Option ι) Cmd Cmd.Reply World) := by
  constructor
  · exact h.snapshot
  · exact .inl h.userState
  all_goals simp [Settled, Scene.AtMostOnce]

/-- The lock may expire as long as its holder is not at work. -/
theorem StartInv.after_expired (h : StartInv r₀ u s) {i : Option ι}
    (horder : InOrder i (.expired (.userStartSearchLock u)) s) :
    StartInv r₀ u (s.after (exec out) i (.expired (.userStartSearchLock u))) := by
  refine h.after_uncounted ⟨rfl, rfl, rfl, rfl⟩ (fun hrel => by cases hrel)
    (by simp [Cmd.Avoids, ExpiringKey.area]) h.userState (.inr ?_)
  cases hfind : s.trace.find? acquires with
  | none =>
      right
      intro e he
      simpa using List.find?_eq_none.mp hfind e he
  | some e =>
      left
      obtain ⟨e', he', -, hrel⟩ := horder e hfind
      exact h.released ⟨e', he', hrel⟩

theorem keeps_lockExpiries (expiries : ℕ) :
    (startOutline r₀ u out).Keeps (none : Option ι) (lockExpiries u expiries)
      (fun _ _ => True) s := by
  induction expiries generalizing s with
  | zero => exact fun _ _ _ => trivial
  | succ expiries ih =>
      intro s₁ _ hI₁ horder
      exact ⟨StartInv.after_expired hI₁ horder, ih⟩

theorem uses_lockExpiries (u : UserId) (expiries : ℕ) :
    (lockExpiries u expiries).Uses fun c => .attempt ∉ c.areas := by
  induction expiries with
  | zero => exact uses_done _
  | succ expiries ih => exact ⟨by simp [ExpiringKey.area], fun _ => ih⟩

/-- Two commits are the same one. -/
theorem StartInv.commitsTo_unique (h : StartInv r₀ u s) {a b : RequestId}
    (ha : ∃ e ∈ s.trace, commitsTo a e) (hb : ∃ e ∈ s.trace, commitsTo b e) : a = b := by
  obtain ⟨e, he, hae⟩ := ha
  obtain ⟨e', he', hbe⟩ := hb
  obtain rfl := h.once.eq he he' (commits_of_commitsTo hae) (commits_of_commitsTo hbe)
  obtain ⟨j, c, r⟩ := e
  cases c with
  | hsetAttempt d fields => exact (of_decide_eq_true hae).symm.trans (of_decide_eq_true hbe)
  | _ => cases hae

variable [Host] [DecidableEq ι]

/-- **Concurrent starts coalesce.** However the calls of one idle user are
interleaved, as long as the lock does not expire under its holder and no wait is
exhausted: once every call has had the moves it needs, one of the new request
ids has been committed, just once, with one job in the queue; every call with a
new request id has answered with the search of that one, and a call that repeats
a recorded request id has answered what is recorded for it. -/
theorem starts_coalesce {w : World} (hidle : w.redis.Idle u) (polls : ι → ℕ)
    (ids : ι → RequestId) (expiries : ℕ) (hfresh : ∃ i, w.redis.attempt (ids i) = none)
    (sched : List (Option ι))
    (horder : (starting u polls ids expiries w).Meets (exec out) InOrder sched)
    (hmoves : ∀ i, startSteps (polls i) ≤ sched.count (some i)) :
    let final := (starting u polls ids expiries w).runs (exec out) sched
    ∃ a, (∃ e ∈ final.scene.trace, commitsTo a e) ∧
      final.scene.trace.countP commits = 1 ∧ final.scene.trace.countP queuesJob = 1 ∧
      final.scene.world.redis.matchJobQueue = ⟨u, a⟩ :: w.redis.matchJobQueue ∧
      (∀ i, w.redis.attempt (ids i) = none →
        (final.threads (some i)).result? = some (some (searchingWithRequestId a))) ∧
      ∀ i h, w.redis.attempt (ids i) = some h →
        (final.threads (some i)).result? = some (some (parseAttemptRecord h (ids i)).toResult) := by
  intro final
  have hstart : StartInv w.redis u (starting u polls ids expiries w).scene := .start hidle
  have hkeeps : ∀ i, (startOutline w.redis u out).Keeps i
      ((starting u polls ids expiries w).threads i)
      (fun result s => ∀ j, i = some j →
        ∃ answer, result = some answer ∧ Answered w.redis (ids j) (some j) answer s)
      (starting u polls ids expiries w).scene := by
    intro i
    cases i with
    | none =>
        refine (keeps_lockExpiries expiries).imp fun result s _ _ j hj => ?_
        cases hj
    | some i =>
        refine Outline.Keeps.map ((keeps_startFindMatch hidle (ids i) (polls i) ?_).imp
          fun answer s _ h j hj => ?_)
        · intro e he
          cases he
        · obtain rfl := Option.some.inj hj
          exact ⟨answer, rfl, h⟩
  obtain ⟨hI, hend⟩ := Outline.keeps_runs (o := startOutline w.redis u out) hstart hkeeps horder
  have hdone : ∀ i, ∃ answer, final.threads (some i) = .done (some answer) ∧
      Answered w.redis (ids i) (some i) answer final.scene := by
    intro i
    have hends : ((starting u polls ids expiries w).threads (some i)).Ends _ :=
      Ends.map (ends_startFindMatch (polls i) ⟨u, ids i⟩) _
    obtain ⟨result, hresult⟩ := Conf.done_of_count (exec out) hends (hmoves i)
    have hkeep := hend (some i)
    rw [hresult] at hkeep
    obtain ⟨answer, rfl, hanswer⟩ := hkeep.of_done hI i rfl
    exact ⟨answer, hresult, hanswer⟩
  -- some call has a new request id, so something has been committed
  obtain ⟨i₀, hi₀⟩ := hfresh
  obtain ⟨_, _, hanswer₀⟩ := hdone i₀
  obtain ⟨a, -, ha⟩ := hanswer₀.searching hi₀
  -- and whoever has committed it has queued its job
  obtain ⟨e, he, hto⟩ := ha
  have hcommits := commits_of_commitsTo hto
  have hclock : final.Footprint (fun c => .attempt ∉ c.areas) none := by
    refine Conf.Footprint.runs (exec out) ⟨uses_lockExpiries u expiries, ?_⟩ sched
    intro e he
    cases he
  have hqueued : ∃ e ∈ final.scene.trace, queuesJob e := by
    cases htid : e.tid with
    | none => exact absurd (attempt_mem_areas_of_commits hcommits) (hclock.2 e he htid)
    | some j =>
        obtain ⟨_, _, hanswer⟩ := hdone j
        exact hanswer.queued ⟨e, he, htid, hcommits⟩
  refine ⟨a, ⟨e, he, hto⟩, ?_, ?_, ?_, fun i hi => ?_, fun i h hi => ?_⟩
  · have hpos : 0 < final.scene.trace.countP commits := List.countP_pos_iff.mpr ⟨e, he, hcommits⟩
    have hone : final.scene.trace.countP commits ≤ 1 := hI.once
    omega
  · have hpos : 0 < final.scene.trace.countP queuesJob := List.countP_pos_iff.mpr hqueued
    have hone : final.scene.trace.countP queuesJob ≤ 1 := hI.queuedOnce
    omega
  · obtain ⟨b, hqueue, hb⟩ := hI.queued hqueued
    rw [hI.commitsTo_unique ⟨e, he, hto⟩ hb]
    exact hqueue
  · obtain ⟨answer, hthread, hanswer⟩ := hdone i
    obtain ⟨b, rfl, hb⟩ := hanswer.searching hi
    rw [hthread, hI.commitsTo_unique ⟨e, he, hto⟩ hb]
    rfl
  · obtain ⟨answer, hthread, hanswer⟩ := hdone i
    rw [hthread, ← hanswer.recorded h hi]
    rfl

end Run

/-! ### Two calls at once, and a request id used twice -/

namespace Sample

/-- The state in which Ann has cancelled her first search. -/
def annCancelled : World := after [.startFindMatch 1 ⟨ann, annSearch⟩, .cancelMatch ann]

def twoIds (i : Fin 2) : RequestId := if i = 0 then annSearch else catSearch

/-- `InOrder`, computed. -/
def inOrder {n : ℕ} (s : Scene (Option (Fin n)) Cmd Cmd.Reply World) : Cmd → Bool
  | .expired _ => ∀ e ∈ s.trace.find? acquires, ∃ e' ∈ s.trace, e'.tid = e.tid ∧ releases e'
  | .warnLockWaitExhausted _ => false
  | _ => true

theorem inOrder_iff {n : ℕ} (i : Option (Fin n)) (c : Cmd)
    (s : Scene (Option (Fin n)) Cmd Cmd.Reply World) : inOrder s c = true ↔ InOrder i c s := by
  cases c <;> simp only [inOrder, InOrder, decide_eq_true_eq, Bool.false_eq_true]

instance {n : ℕ} (i : Option (Fin n)) (c : Cmd)
    (s : Scene (Option (Fin n)) Cmd Cmd.Reply World) : Decidable (InOrder i c s) :=
  decidable_of_iff _ (inOrder_iff i c s)

theorem start_idle : start.redis.Idle ann where
  snapshot := by decide
  userState := rfl
  last _ _ h := by cases h

/-- Two tabs of Ann take turns. -/
def turns : List (Option (Fin 2)) := (List.replicate 53 [some 0, some 1]).flatten

theorem starts_coalesce_turns :
    let final := (@starting _ host ann (fun _ : Fin 2 => 10)
      twoIds 0 start).runs (exec outside) turns
    ∃ a, (∃ e ∈ final.scene.trace, commitsTo a e) ∧
      final.scene.trace.countP commits = 1 ∧ final.scene.trace.countP queuesJob = 1 ∧
      final.scene.world.redis.matchJobQueue = ⟨ann, a⟩ :: start.redis.matchJobQueue ∧
      (∀ i, start.redis.attempt (twoIds i) = none →
        (final.threads (some i)).result? = some (some (searchingWithRequestId a))) ∧
      ∀ i h, start.redis.attempt (twoIds i) = some h →
        (final.threads (some i)).result? =
          some (some (parseAttemptRecord h (twoIds i)).toResult) :=
  @starts_coalesce _ ann outside host _ start start_idle (fun _ => 10) twoIds 0 ⟨0, rfl⟩ turns
    (by decide +kernel) (by decide +kernel)

theorem annCancelled_idle : annCancelled.redis.Idle ann where
  snapshot := by decide
  userState := by decide
  last a h ha hh := by
    have hlast : annCancelled.redis.userLastAttempt ann = some annSearch := by decide
    obtain rfl := Option.some.inj (hlast.symm.trans ha)
    have hstatus : (annCancelled.redis.attempt annSearch).map (·.status) =
        some (some .noMatch) := by decide
    rw [hh, Option.map_some, Option.some.injEq] at hstatus
    simp [parseAttemptRecord, hstatus]

/-- Ann asks again under the request id she has cancelled: nothing is committed
and the answer is not a search. -/
theorem reused_requestId :
    annCancelled.redis.Idle ann ∧
      (@starting _ host ann (fun _ : Fin 1 => 1) (fun _ => annSearch) 0 annCancelled).Meets
        (exec outside) InOrder (List.replicate 26 (some 0)) ∧
      (((@starting _ host ann (fun _ : Fin 1 => 1) (fun _ => annSearch) 0 annCancelled).runs
        (exec outside) (List.replicate 26 (some 0))).threads (some 0)).result? =
          some (some (.noMatch "cancelled_by_user")) ∧
      ((@starting _ host ann (fun _ : Fin 1 => 1) (fun _ => annSearch) 0 annCancelled).runs
        (exec outside) (List.replicate 26 (some 0))).scene.trace.countP commits = 0 :=
  ⟨annCancelled_idle, by decide +kernel, by decide +kernel, by decide +kernel⟩

end Sample

end Greetup.Matching
