import Greetup.Matching.Alone
import Greetup.Matching.Ranking

/-!
Which candidate a search is paired with when nothing interferes: the first, in
the order of the tries, that can be locked together with the requester and whose
last attempt is a search of its own. A candidate turned down on the way is left
as it was, except that one without a last attempt is taken out of the pool.
-/

namespace Greetup.Matching

open Greetup.Interleaving Prog Greetup.Data

variable {out : Outside} {w : World} {r r' : Redis} {request : FindMatchRequest}

namespace Redis

/-- The pair lock succeeds, and the candidate's last attempt is a search of its
own, made under another id than the request's. -/
def Proposable (r : Redis) (request : FindMatchRequest) (u : UserId) : Prop :=
  r.Lockable (Pair.of request.userId u) ∧ ∃ record, r.lastRecord u = some record ∧
    record.attemptId ≠ request.requestId ∧ record.userId = some u ∧ record.status = .searching

/-- The last attempt `a` of `u` is a proposal to `v`. -/
def ProposedTo (r : Redis) (u : UserId) (a : RequestId) (v : UserId) : Prop :=
  r.userLastAttempt u = some a ∧ ∃ h, r.attempt a = some h ∧ h.userId = some u ∧
    h.status = some .proposed ∧ h.peerUserId = some v

/-- The store after the candidate has been turned down. -/
def turnDown (r : Redis) (request : FindMatchRequest) (u : UserId) : Redis :=
  if r.Lockable (Pair.of request.userId u) ∧ r.userLastAttempt u = none then r.strip u else r

/-- The store after all of these candidates have been turned down. -/
def turnDownAll (r : Redis) (request : FindMatchRequest) (candidates : List ScoredMatchCandidate) :
    Redis :=
  candidates.foldl (fun r c => r.turnDown request c.userId) r

/-- A lock that is released again has changed nothing. -/
theorem release_lock {p : Pair} (h : r.Lockable p) (a : RequestId) :
    (r.lock p a).release p = r := by
  obtain ⟨-, hpair, hlow, hhigh, hslow, hshigh⟩ := h
  have hset : ∀ {γ δ : Type} [DecidableEq γ] (f : γ → δ) {x y : γ} {v v' : δ}, f x = v → f y = v →
      Function.update (Function.update (Function.update (Function.update f x v') y v') x v) y v =
        f := by
    intro γ δ _ f x y v v' hx hy
    funext z
    by_cases hzy : z = y
    · subst hzy
      rw [Function.update_self, hy]
    · by_cases hzx : z = x
      · subst hzx
        rw [Function.update_of_ne hzy, Function.update_self, hx]
      · simp only [Function.update_of_ne hzy, Function.update_of_ne hzx]
  have hlock : Function.update (Function.update r.pairLock p (some a)) p none = r.pairLock := by
    rw [Function.update_idem, ← hpair, Function.update_eq_self]
  simp only [lock, release, hset r.userLock hlow hhigh, hset r.userState hslow hshigh, hlock]

end Redis

/-! ### One candidate -/

theorem run_tryLockPair (a b : UserId) (requestId : RequestId) :
    (tryLockPair a b requestId).run (exec out) w =
      if w.redis.Lockable (Pair.of a b) then
        (true, { w with redis := w.redis.lock (Pair.of a b) requestId })
      else (false, w) := rfl

variable {fb : Bool} {c : ScoredMatchCandidate} {sorted : List ScoredMatchCandidate}

theorem run_pairWithLocked_none (hlast : w.redis.userLastAttempt c.userId = none) :
    (pairWithLocked request c fb).run (exec out) w =
      (none, { w with redis :=
        (w.redis.release (Pair.of request.userId c.userId)).strip c.userId }) := by
  simp only [pairWithLocked, run_bind, run_perform, exec, hlast, run_releasePair, stripFromPool_run,
    pure_eq, run_done]

theorem run_pairWithLocked_own (hlast : w.redis.userLastAttempt c.userId = some request.requestId) :
    (pairWithLocked request c fb).run (exec out) w =
      (none, { w with redis := w.redis.release (Pair.of request.userId c.userId) }) := by
  simp only [pairWithLocked, run_bind, run_perform, exec, hlast, if_true, run_releasePair, pure_eq,
    run_done]

theorem run_pairWithLocked_some {a : RequestId} (hlast : w.redis.userLastAttempt c.userId = some a)
    (ha : a ≠ request.requestId) :
    (pairWithLocked request c fb).run (exec out) w =
      if peerStillSearching c (w.redis.lastRecord c.userId) then
        (some (.proposed request.requestId c.userId c.matchScore fb),
          { w with redis := w.redis.propose request c a fb })
      else (none, { w with redis := w.redis.release (Pair.of request.userId c.userId) }) := by
  have hrecord : w.redis.lastRecord c.userId =
      (w.redis.attempt a).map (parseAttemptRecord · a) := by
    rw [Redis.lastRecord, hlast, Option.bind_some]
  simp only [pairWithLocked, run_bind, run_perform, exec, hlast, if_neg ha, run_getAttempt, hrecord]
  by_cases hsearching : peerStillSearching c ((w.redis.attempt a).map (parseAttemptRecord · a))
  · simp only [hsearching, if_true, run_bind, run_openProposal, pure_eq, run_done]
  · simp only [hsearching, if_false, run_bind, run_releasePair, pure_eq, run_done,
      Bool.false_eq_true]

theorem Redis.lastRecord_attemptId {u : UserId} {a : RequestId} {record : AttemptRecord}
    (hlast : r.userLastAttempt u = some a) (h : r.lastRecord u = some record) :
    record.attemptId = a := by
  rw [Redis.lastRecord, hlast, Option.bind_some, Option.map_eq_some_iff] at h
  obtain ⟨hash, -, rfl⟩ := h
  rfl

theorem Redis.proposable_iff {a : RequestId} (hlast : r.userLastAttempt c.userId = some a) :
    r.Proposable request c.userId ↔ r.Lockable (Pair.of request.userId c.userId) ∧
      a ≠ request.requestId ∧ peerStillSearching c (r.lastRecord c.userId) := by
  have hid := fun record => @Redis.lastRecord_attemptId r c.userId a record hlast
  unfold Redis.Proposable peerStillSearching
  rw [Option.any_eq_true]
  refine and_congr_right fun _ => ⟨?_, ?_⟩
  · rintro ⟨record, hrecord, hne, howner, hstatus⟩
    exact ⟨hid record hrecord ▸ hne, record, hrecord, decide_eq_true ⟨howner, hstatus⟩⟩
  · rintro ⟨hne, record, hrecord, hsearching⟩
    obtain ⟨howner, hstatus⟩ := of_decide_eq_true hsearching
    exact ⟨record, hrecord, (hid record hrecord).symm ▸ hne, howner, hstatus⟩

/-- The world while the pair is locked. -/
def World.locked (w : World) (request : FindMatchRequest) (u : UserId) : World :=
  { w with redis := w.redis.lock (Pair.of request.userId u) request.requestId }

theorem World.locked_lastRecord (w : World) (request : FindMatchRequest) (u v : UserId) :
    (w.locked request u).redis.lastRecord v = w.redis.lastRecord v := rfl

/-- A candidate that cannot be proposed to is turned down. -/
theorem run_try_turnDown (h : ¬ w.redis.Proposable request c.userId) :
    (tryPairWithSortedCandidates request fb (c :: sorted)).run (exec out) w =
      (tryPairWithSortedCandidates request fb sorted).run (exec out)
        { w with redis := w.redis.turnDown request c.userId } := by
  simp only [tryPairWithSortedCandidates, run_bind, run_tryLockPair, Redis.turnDown]
  by_cases hlock : w.redis.Lockable (Pair.of request.userId c.userId)
  · simp only [hlock, if_true, true_and, run_bind]
    have hrelease := Redis.release_lock hlock request.requestId
    cases hlast : w.redis.userLastAttempt c.userId with
    | none =>
        have hrun := @run_pairWithLocked_none out (w.locked request c.userId) request fb c hlast
        rw [World.locked] at hrun
        simp only [hrun, hrelease, if_true]
    | some a =>
        by_cases ha : a = request.requestId
        · subst ha
          have hrun := @run_pairWithLocked_own out (w.locked request c.userId) request fb c hlast
          rw [World.locked] at hrun
          simp only [hrun, hrelease, reduceCtorEq, if_false]
        · have hsearching : ¬ peerStillSearching c (w.redis.lastRecord c.userId) := fun hs =>
            h ((Redis.proposable_iff hlast).mpr ⟨hlock, ha, hs⟩)
          have hrun := @run_pairWithLocked_some out (w.locked request c.userId) request fb c a
            hlast ha
          rw [World.locked_lastRecord, if_neg hsearching, World.locked] at hrun
          simp only [hrun, hrelease, reduceCtorEq, if_false]
  · simp only [hlock, if_false, false_and, Bool.false_eq_true]

theorem run_try_proposable {a : RequestId} (h : w.redis.Proposable request c.userId)
    (hlast : w.redis.userLastAttempt c.userId = some a) :
    (tryPairWithSortedCandidates request fb (c :: sorted)).run (exec out) w =
      (some (.proposed request.requestId c.userId c.matchScore fb),
        { w with redis := (w.redis.lock (Pair.of request.userId c.userId)
            request.requestId).propose request c a fb }) := by
  obtain ⟨hlock, ha, hsearching⟩ := (Redis.proposable_iff hlast).mp h
  have hrun := @run_pairWithLocked_some out (w.locked request c.userId) request fb c a hlast ha
  rw [World.locked_lastRecord, if_pos hsearching, World.locked] at hrun
  simp only [tryPairWithSortedCandidates, run_bind, run_tryLockPair, hlock, if_true, hrun, pure_eq,
    run_done]

/-! ### The candidates before -/

namespace Redis

theorem turnDown_part {a : Area} (ha : a ≠ .pool) (u : UserId) :
    (r.turnDown request u).part a = r.part a := by
  unfold turnDown
  split_ifs
  · cases a <;> first | rfl | exact absurd rfl ha
  · rfl

theorem turnDownAll_part {a : Area} (ha : a ≠ .pool) (candidates : List ScoredMatchCandidate) :
    (r.turnDownAll request candidates).part a = r.part a := by
  induction candidates generalizing r with
  | nil => rfl
  | cons c candidates ih =>
      exact ih.trans (turnDown_part ha c.userId)

/-- The pool has no say in who can be proposed to. -/
theorem proposable_congr (h : ∀ a, a ≠ .pool → r'.part a = r.part a) (u : UserId) :
    r'.Proposable request u ↔ r.Proposable request u := by
  have hstate : r'.userState = r.userState := h .userState (by decide)
  have hlock : r'.userLock = r.userLock := congrArg Prod.fst (h .lock (by decide))
  have hpair : r'.pairLock = r.pairLock := congrArg Prod.snd (h .lock (by decide))
  have hattempt : r'.attempt = r.attempt := h .attempt (by decide)
  have hlast : r'.userLastAttempt = r.userLastAttempt := h .lastAttempt (by decide)
  simp only [Proposable, Lockable, lastRecord, hstate, hlock, hpair, hattempt, hlast]

theorem proposable_turnDown (u v : UserId) :
    (r.turnDown request u).Proposable request v ↔ r.Proposable request v :=
  proposable_congr (fun _ ha => turnDown_part ha u) v

theorem mem_turnDown {u v : UserId} {key : PoolKey}
    (h : v ≠ u ∨ r.userLastAttempt u ≠ none) :
    v ∈ (r.turnDown request u).pool key ↔ v ∈ r.pool key := by
  unfold turnDown
  split_ifs with hstale
  · rw [mem_strip, and_iff_left_iff_imp]
    rintro - - rfl
    exact h.elim (· rfl) (· hstale.2)
  · rfl

theorem mem_turnDownAll {candidates : List ScoredMatchCandidate} {v : UserId} {key : PoolKey}
    (h : r.userLastAttempt v ≠ none ∨ ∀ c ∈ candidates, c.userId ≠ v) :
    v ∈ (r.turnDownAll request candidates).pool key ↔ v ∈ r.pool key := by
  induction candidates generalizing r with
  | nil => rfl
  | cons c candidates ih =>
      have hlast : (r.turnDown request c.userId).userLastAttempt = r.userLastAttempt :=
        turnDown_part (show Area.lastAttempt ≠ .pool by decide) c.userId
      refine (ih ?_).trans (mem_turnDown ?_)
      · rw [hlast]
        exact h.imp_right fun hne d hd => hne d (List.mem_cons_of_mem _ hd)
      · by_cases hv : v = c.userId
        · subst hv
          exact .inr (h.resolve_right fun hne => hne c List.mem_cons_self rfl)
        · exact .inl hv

end Redis

/-- Candidates that cannot be proposed to are turned down one after the other. -/
theorem run_try_turnDownAll {pre : List ScoredMatchCandidate}
    (h : ∀ d ∈ pre, ¬ w.redis.Proposable request d.userId) :
    (tryPairWithSortedCandidates request fb (pre ++ sorted)).run (exec out) w =
      (tryPairWithSortedCandidates request fb sorted).run (exec out)
        { w with redis := w.redis.turnDownAll request pre } := by
  induction pre generalizing w with
  | nil => rfl
  | cons d pre ih =>
      rw [List.cons_append, run_try_turnDown (h d List.mem_cons_self), ih fun e he => ?_]
      · rfl
      · rw [Redis.proposable_turnDown]
        exact h e (List.mem_cons_of_mem _ he)

/-! ### What a candidate keeps -/

/-- State, locks, attempts and pending records of the user are the same, an
attempt record under the request's own id apart. -/
structure Redis.KeptFor (r r' : Redis) (request : FindMatchRequest) (u : UserId) : Prop where
  userState : r'.userState u = r.userState u
  userLock : r'.userLock u = r.userLock u
  pairLock : ∀ p, u ∈ p → r'.pairLock p = r.pairLock p
  lastAttempt : r'.userLastAttempt u = r.userLastAttempt u
  attempt : ∀ a hash, a ≠ request.requestId → hash.userId = some u →
    (r'.attempt a = some hash ↔ r.attempt a = some hash)
  pending : ∀ p, u ∈ p → r'.pairPending p = r.pairPending p ∧
    r'.pairConnectFinalize p = r.pairConnectFinalize p

/-- The candidate has been proposed to the requester, both of them locked. -/
structure Redis.ProposalOpened (r' : Redis) (request : FindMatchRequest)
    (c : ScoredMatchCandidate) (a : RequestId) (fb : Bool) : Prop where
  pending : r'.pendingRecord (Pair.of request.userId c.userId) =
    some (proposalRecord request c a fb)
  requester : r'.ProposedTo request.userId request.requestId c.userId
  candidate : r'.ProposedTo c.userId a request.userId
  locked : r'.userState request.userId = some .locked ∧ r'.userState c.userId = some .locked
  locks : r'.userLock request.userId = some request.requestId ∧
    r'.userLock c.userId = some request.requestId ∧
    r'.pairLock (Pair.of request.userId c.userId) = some request.requestId

namespace Redis

theorem keptFor_of_parts (h : ∀ a, a ≠ .pool → r'.part a = r.part a) (u : UserId) :
    r.KeptFor r' request u where
  userState := congrFun (h .userState (by decide)) u
  userLock := congrFun (congrArg Prod.fst (h .lock (by decide))) u
  pairLock p _ := congrFun (congrArg Prod.snd (h .lock (by decide))) p
  lastAttempt := congrFun (h .lastAttempt (by decide)) u
  attempt a hash _ _ := by rw [show r'.attempt = r.attempt from h .attempt (by decide)]
  pending p _ := ⟨congrFun (congrArg Prod.fst (h .pending (by decide))) p,
    congrFun (congrArg Prod.snd (h .pending (by decide))) p⟩

theorem KeptFor.trans {r'' : Redis} {u : UserId} (h : r.KeptFor r' request u)
    (h' : r'.KeptFor r'' request u) : r.KeptFor r'' request u where
  userState := h'.userState.trans h.userState
  userLock := h'.userLock.trans h.userLock
  pairLock p hp := (h'.pairLock p hp).trans (h.pairLock p hp)
  lastAttempt := h'.lastAttempt.trans h.lastAttempt
  attempt a hash ha howner := (h'.attempt a hash ha howner).trans (h.attempt a hash ha howner)
  pending p hp := ⟨(h'.pending p hp).1.trans (h.pending p hp).1,
    (h'.pending p hp).2.trans (h.pending p hp).2⟩

/-- A proposal leaves everybody else alone. -/
theorem keptFor_propose {c : ScoredMatchCandidate} {a : RequestId} {fb : Bool} {u : UserId}
    (hu : u ≠ request.userId) (huc : u ≠ c.userId)
    (howner : ∀ hash, r.attempt a = some hash → hash.userId = some c.userId) :
    r.KeptFor ((r.lock (Pair.of request.userId c.userId) request.requestId).propose request c a fb)
      request u := by
  have hpair : u ∉ Pair.of request.userId c.userId := by
    rw [Pair.mem_of, not_or]
    exact ⟨hu, huc⟩
  have hne : ∀ p : Pair, u ∈ p → p ≠ Pair.of request.userId c.userId := by
    rintro p hp rfl
    exact hpair hp
  obtain ⟨hlow, hhigh⟩ := not_or.mp (Pair.mem_iff.not.mp hpair)
  refine ⟨?_, ?_, fun p hp => ?_, ?_, fun b hash hb hhash => ?_, fun p hp => ⟨?_, rfl⟩⟩
  · simp [propose, put, pend, lock, hlow, hhigh]
  · simp [propose, put, pend, lock, hlow, hhigh]
  · simp [propose, put, pend, lock, hne p hp]
  · simp [propose, put, pend, lock, hu, huc]
  · by_cases hba : b = a
    · subst hba
      simp only [propose, put, Function.update_self, Option.some.injEq]
      constructor
      · rintro rfl
        exact absurd (Option.some.inj hhash).symm huc
      · intro hold
        exact absurd (Option.some.inj (hhash.symm.trans (howner hash hold))) huc
    · simp [propose, put, pend, lock, hb, hba]
  · simp [propose, put, pend, lock, proposalRecord_pair, hne p hp]

theorem propose_userState (r : Redis) (c : ScoredMatchCandidate) (a : RequestId) (fb : Bool) :
    (r.propose request c a fb).userState = r.userState := by
  simp only [propose, put, pend]

theorem propose_userLock (r : Redis) (c : ScoredMatchCandidate) (a : RequestId) (fb : Bool) :
    (r.propose request c a fb).userLock = r.userLock := by
  simp only [propose, put, pend]

theorem propose_pairLock (r : Redis) (c : ScoredMatchCandidate) (a : RequestId) (fb : Bool) :
    (r.propose request c a fb).pairLock = r.pairLock := by
  simp only [propose, put, pend]

theorem proposalOpened_propose {c : ScoredMatchCandidate} {a : RequestId} (fb : Bool)
    (hne : request.userId ≠ c.userId) (ha : a ≠ request.requestId) :
    ((r.lock (Pair.of request.userId c.userId) request.requestId).propose request c a
      fb).ProposalOpened request c a fb := by
  have hstate : ∀ u ∈ Pair.of request.userId c.userId,
      (r.lock (Pair.of request.userId c.userId) request.requestId).userState u = some .locked := by
    intro u hu
    by_cases hhigh : u = (Pair.of request.userId c.userId).high
    · simp [lock, hhigh]
    · simp [lock, (Pair.mem_iff.mp hu).resolve_right hhigh, Function.update_apply]
  have hlock : ∀ u ∈ Pair.of request.userId c.userId,
      (r.lock (Pair.of request.userId c.userId) request.requestId).userLock u =
        some request.requestId := by
    intro u hu
    by_cases hhigh : u = (Pair.of request.userId c.userId).high
    · simp [lock, hhigh]
    · simp [lock, (Pair.mem_iff.mp hu).resolve_right hhigh, Function.update_apply]
  have hreq : request.userId ∈ Pair.of request.userId c.userId := Pair.mem_of.mpr (.inl rfl)
  have hcand : c.userId ∈ Pair.of request.userId c.userId := Pair.mem_of.mpr (.inr rfl)
  refine ⟨?_, ?_, ?_, ?_, ?_⟩
  · simp [pendingRecord, propose, put, pend, proposalRecord_pair]
  · refine ⟨by simp [propose, put, hne], ?_⟩
    simp [propose, put, ha.symm, AttemptHash.hset]
  · refine ⟨by simp [propose, put], ?_⟩
    simp [propose, put, AttemptHash.hset]
  · rw [propose_userState]
    exact ⟨hstate request.userId hreq, hstate c.userId hcand⟩
  · rw [propose_userLock, propose_pairLock]
    exact ⟨hlock request.userId hreq, hlock c.userId hcand, Function.update_self ..⟩

end Redis

/-! ### The tries in order -/

theorem run_try_found {pre post : List ScoredMatchCandidate} {a : RequestId}
    (hpre : ∀ d ∈ pre, ¬ w.redis.Proposable request d.userId)
    (hc : w.redis.Proposable request c.userId) (hlast : w.redis.userLastAttempt c.userId = some a) :
    (tryPairWithSortedCandidates request fb (pre ++ c :: post)).run (exec out) w =
      (some (.proposed request.requestId c.userId c.matchScore fb),
        { w with redis := ((w.redis.turnDownAll request pre).lock
            (Pair.of request.userId c.userId) request.requestId).propose request c a fb }) := by
  have hkept : ∀ area, area ≠ .pool →
      (w.redis.turnDownAll request pre).part area = w.redis.part area :=
    fun _ harea => Redis.turnDownAll_part harea pre
  rw [run_try_turnDownAll hpre]
  refine run_try_proposable ((Redis.proposable_congr hkept _).mpr hc) ?_
  exact (congrFun (hkept .lastAttempt (by decide)) _).trans hlast

theorem run_try_none (h : ∀ c ∈ sorted, ¬ w.redis.Proposable request c.userId) :
    (tryPairWithSortedCandidates request fb sorted).run (exec out) w =
      (none, { w with redis := w.redis.turnDownAll request sorted }) := by
  have hrun := @run_try_turnDownAll out w request fb [] sorted h
  rwa [List.append_nil] at hrun

/-- Either nobody can be proposed to, or there is a first who can. -/
theorem exists_first_proposable (r : Redis) (request : FindMatchRequest)
    (candidates : List ScoredMatchCandidate) :
    (∀ c ∈ candidates, ¬ r.Proposable request c.userId) ∨
      ∃ pre c post, candidates = pre ++ c :: post ∧
        (∀ d ∈ pre, ¬ r.Proposable request d.userId) ∧ r.Proposable request c.userId := by
  induction candidates with
  | nil => exact .inl (by simp)
  | cons d candidates ih =>
      by_cases hd : r.Proposable request d.userId
      · exact .inr ⟨[], d, candidates, rfl, by simp, hd⟩
      · rcases ih with hnone | ⟨pre, c, post, rfl, hpre, hc⟩
        · exact .inl (List.forall_mem_cons.mpr ⟨hd, hnone⟩)
        · exact .inr ⟨d :: pre, c, post, rfl, List.forall_mem_cons.mpr ⟨hd, hpre⟩, hc⟩

theorem keptFor_found {pre post : List ScoredMatchCandidate} {d : ScoredMatchCandidate}
    (hpre : ∀ d ∈ pre, ¬ w.redis.Proposable request d.userId)
    (hc : w.redis.Proposable request c.userId)
    (hd : d.userId ≠ request.userId) (hdc : d.userId ≠ c.userId) :
    w.redis.KeptFor ((tryPairWithSortedCandidates request fb (pre ++ c :: post)).run
      (exec out) w).2.redis request d.userId := by
  obtain ⟨-, record, hrecord, -, howner, -⟩ := id hc
  obtain ⟨a, hlast, hash, hattempt, hparse⟩ : ∃ a, w.redis.userLastAttempt c.userId = some a ∧
      ∃ hash, w.redis.attempt a = some hash ∧ parseAttemptRecord hash a = record := by
    rw [Redis.lastRecord, Option.bind_eq_some_iff] at hrecord
    obtain ⟨a, hlast, hmap⟩ := hrecord
    exact ⟨a, hlast, Option.map_eq_some_iff.mp hmap⟩
  have hkept : ∀ area, area ≠ .pool →
      (w.redis.turnDownAll request pre).part area = w.redis.part area :=
    fun _ harea => Redis.turnDownAll_part harea pre
  have howned : ∀ hash', (w.redis.turnDownAll request pre).attempt a = some hash' →
      hash'.userId = some c.userId := by
    intro hash' hattempt'
    rw [show (w.redis.turnDownAll request pre).attempt = w.redis.attempt from
      hkept .attempt (by decide), hattempt] at hattempt'
    obtain rfl := Option.some.inj hattempt'
    rw [← howner, ← hparse]
    rfl
  have hturned : w.redis.KeptFor (w.redis.turnDownAll request pre) request d.userId :=
    Redis.keptFor_of_parts hkept d.userId
  rw [run_try_found hpre hc hlast]
  exact hturned.trans (Redis.keptFor_propose hd hdc howned)

theorem opened_found {pre post : List ScoredMatchCandidate}
    (hpre : ∀ d ∈ pre, ¬ w.redis.Proposable request d.userId)
    (hc : w.redis.Proposable request c.userId) :
    ∃ a, w.redis.userLastAttempt c.userId = some a ∧
      ((tryPairWithSortedCandidates request fb (pre ++ c :: post)).run
        (exec out) w).2.redis.ProposalOpened request c a fb := by
  obtain ⟨hlock, record, hrecord, hid, -, -⟩ := id hc
  obtain ⟨a, hlast, -⟩ := Option.bind_eq_some_iff.mp hrecord
  have hne : request.userId ≠ c.userId := by
    intro heq
    exact hlock.1 (by simp [heq, Pair.of])
  refine ⟨a, hlast, ?_⟩
  rw [run_try_found hpre hc hlast]
  exact Redis.proposalOpened_propose fb hne (Redis.lastRecord_attemptId hlast hrecord ▸ hid)

/-- Who leaves the pool has no last attempt. -/
theorem pool_tries {u : UserId} {key : PoolKey}
    (h : w.redis.userLastAttempt u ≠ none ∨ ∀ c ∈ sorted, c.userId ≠ u) :
    u ∈ ((tryPairWithSortedCandidates request fb sorted).run (exec out) w).2.redis.pool key ↔
      u ∈ w.redis.pool key := by
  rcases exists_first_proposable w.redis request sorted with hnone | ⟨pre, c, post, rfl, hpre, hc⟩
  · rw [run_try_none hnone]
    exact Redis.mem_turnDownAll h
  · obtain ⟨a, hlast, -⟩ := @opened_found out w request fb c pre post hpre hc
    rw [run_try_found hpre hc hlast]
    change u ∈ (w.redis.turnDownAll request pre).pool key ↔ u ∈ w.redis.pool key
    refine Redis.mem_turnDownAll (h.imp_right fun hne d hd => hne d ?_)
    exact List.mem_append_left _ hd

/-- **The first lockable candidate.** The candidates are tried in rank order; the
first that can be proposed to is, the ones that cannot be keep what they had, and
only candidates without a last attempt leave the pool. -/
theorem pairs_first_lockable (out : Outside) (w : World) (request : FindMatchRequest) (fb : Bool)
    (candidates : List ScoredMatchCandidate) (peerSets : DeprioritizedPeerSets)
    (hnodup : (candidates.map (·.userId)).Nodup) :
    let ranked := rankCandidatesForPairing candidates peerSets
    let after := (tryPairWithSortedCandidates request fb ranked).run (exec out) w
    Ranks peerSets candidates ranked ∧
      (∀ pre c post, ranked = pre ++ c :: post →
        (∀ d ∈ pre, ¬ w.redis.Proposable request d.userId) →
        w.redis.Proposable request c.userId →
        after.1 = some (.proposed request.requestId c.userId c.matchScore fb) ∧
          (∃ a, w.redis.userLastAttempt c.userId = some a ∧
            after.2.redis.ProposalOpened request c a fb) ∧
          ∀ d ∈ ranked, d.userId ≠ request.userId → d ≠ c →
            w.redis.KeptFor after.2.redis request d.userId) ∧
      ((∀ c ∈ ranked, ¬ w.redis.Proposable request c.userId) →
        after.1 = none ∧ ∀ u, w.redis.KeptFor after.2.redis request u) ∧
      ∀ u key, ¬ (u ∈ after.2.redis.pool key ↔ u ∈ w.redis.pool key) →
        w.redis.userLastAttempt u = none ∧ ∃ c ∈ candidates, c.userId = u := by
  intro ranked after
  have hranks := rankCandidatesForPairing_ranks candidates peerSets
  have hranked : (ranked.map (·.userId)).Nodup := (hranks.perm.map _).nodup_iff.mpr hnodup
  refine ⟨hranks, fun pre c post hsplit hpre hc => ?_, fun hnone => ?_, fun u key hpool => ?_⟩
  · obtain ⟨a, hlast, hopened⟩ := @opened_found out w request fb c pre post hpre hc
    have hafter : after = (tryPairWithSortedCandidates request fb (pre ++ c :: post)).run
        (exec out) w := by rw [← hsplit]
    refine ⟨?_, ⟨a, hlast, hafter ▸ hopened⟩, fun d hd hdreq hdc => ?_⟩
    · rw [hafter, run_try_found hpre hc hlast]
    · have hmem : c ∈ ranked := hsplit ▸ List.mem_append_right _ List.mem_cons_self
      rw [hafter]
      exact keptFor_found hpre hc hdreq fun huser =>
        hdc (List.inj_on_of_nodup_map hranked hd hmem huser)
  · have hafter : after = (none, { w with redis := w.redis.turnDownAll request ranked }) :=
      run_try_none hnone
    rw [hafter]
    exact ⟨rfl, Redis.keptFor_of_parts fun _ harea => Redis.turnDownAll_part harea ranked⟩
  · by_contra hstale
    refine hpool (pool_tries ?_)
    by_cases hlast : w.redis.userLastAttempt u = none
    · refine .inr fun c hc huser => hstale ⟨hlast, c, ?_, huser⟩
      exact hranks.perm.mem_iff.mp hc
    · exact .inl hlast

/-! ### Three searchers -/

namespace Sample

/-- Ann, Ben and Cat search, nobody has been paired yet. -/
def searchers : World :=
  after [.startFindMatch 1 ⟨ann, annSearch⟩, .startFindMatch 1 ⟨ben, benSearch⟩,
    .startFindMatch 1 ⟨cat, catSearch⟩]

def annRow : ScoredMatchCandidate := ⟨ann, 90, 1⟩
def benRow : ScoredMatchCandidate := ⟨ben, 80, 2⟩

def fresh : DeprioritizedPeerSets := ⟨∅, ∅⟩

/-- Ann has been cancelled, so Cat is paired with Ben. -/
theorem pairs_ben :
    let w := @Op.after host outside searchers (.cancelMatch ann)
    let ranked := rankCandidatesForPairing [benRow, annRow] fresh
    let after := (tryPairWithSortedCandidates ⟨cat, catSearch⟩ false ranked).run (exec outside) w
    after.1 = some (.proposed catSearch ben 80 false) ∧
      w.redis.KeptFor after.2.redis ⟨cat, catSearch⟩ ann := by
  intro w ranked after
  have hann : ¬ w.redis.Proposable ⟨cat, catSearch⟩ ann := fun h => absurd h.1 (by decide +kernel)
  have hben : w.redis.Proposable ⟨cat, catSearch⟩ ben :=
    ⟨by decide +kernel, _, rfl, by decide +kernel, by decide +kernel, by decide +kernel⟩
  obtain ⟨hfirst, -, hkept⟩ := (pairs_first_lockable outside w ⟨cat, catSearch⟩ false
    [benRow, annRow] fresh (by decide)).2.1 [annRow] benRow [] (by decide +kernel)
      (List.forall_mem_singleton.mpr hann) hben
  exact ⟨hfirst, hkept annRow (by decide +kernel) (by decide) (by decide)⟩

/-- A request of Cat's under the id of Ann's search: Ann can be locked and her
last attempt is a search of her own, but Ben is proposed to, and the attempt of
Ann's is no longer what it was. -/
theorem not_pairs_sharedId :
    let request : FindMatchRequest := ⟨cat, annSearch⟩
    let after := (tryPairWithSortedCandidates request false
      (rankCandidatesForPairing [annRow, benRow] fresh)).run (exec outside) searchers
    rankCandidatesForPairing [annRow, benRow] fresh = [annRow, benRow] ∧
      searchers.redis.Lockable (Pair.of cat ann) ∧
      (searchers.redis.lastRecord ann).any (fun a => a.userId = some ann ∧ a.status = .searching) ∧
      after.1 = some (.proposed annSearch ben 80 false) ∧
      after.2.redis.attempt annSearch ≠ searchers.redis.attempt annSearch := by
  decide +kernel

end Sample

end Greetup.Matching
