import Greetup.Matching.PoolIndex
import Greetup.Matching.Proposal

/-!
Handlers that nothing interferes with.

Run alone, a handler is a function of the store. For the short ones it is
written down below; the long ones first read their way through the store without
changing what a search is made of (`Agree`), and then make their writes.
-/

namespace Greetup.Matching

open Greetup.Interleaving Prog

/-! ### Stores that agree on a search -/

/-- The areas over which a user's search is spread. -/
def searchAreas : List Area := [.pool, .userState, .lock, .pending, .attempt, .lastAttempt]

/-- The two stores hold the same searches. -/
def Redis.Agree (r r' : Redis) : Prop := ∀ a ∈ searchAreas, r.part a = r'.part a

namespace Redis.Agree

variable {r r' r'' : Redis}

theorem refl (r : Redis) : r.Agree r := fun _ _ => rfl

theorem trans (h : r.Agree r') (h' : r'.Agree r'') : r.Agree r'' :=
  fun a ha => (h a ha).trans (h' a ha)

theorem pool (h : r.Agree r') : r.pool = r'.pool := congrArg Prod.fst (h .pool (by decide))

theorem userState (h : r.Agree r') : r.userState = r'.userState := h .userState (by decide)

theorem userLock (h : r.Agree r') : r.userLock = r'.userLock :=
  congrArg Prod.fst (h .lock (by decide))

theorem pairLock (h : r.Agree r') : r.pairLock = r'.pairLock :=
  congrArg Prod.snd (h .lock (by decide))

theorem pairPending (h : r.Agree r') : r.pairPending = r'.pairPending :=
  congrArg Prod.fst (h .pending (by decide))

theorem attempt (h : r.Agree r') : r.attempt = r'.attempt := h .attempt (by decide)

theorem userLastAttempt (h : r.Agree r') : r.userLastAttempt = r'.userLastAttempt :=
  h .lastAttempt (by decide)

end Redis.Agree

/-- The searches of `r'` are those that `f` makes of the searches of `r`. -/
def Redis.Becomes (r : Redis) (f : Redis → Redis) (r' : Redis) : Prop :=
  ∃ r₁ : Redis, r₁.Agree r ∧ r'.Agree (f r₁)

theorem Redis.Becomes.of_agree {r r₁ r' r'' : Redis} {f : Redis → Redis} (h : r₁.Agree r)
    (hf : r₁.Becomes f r') (h' : r''.Agree r') : r.Becomes f r'' := by
  obtain ⟨r₂, h₂, hr'⟩ := hf
  exact ⟨r₂, h₂.trans h, h'.trans hr'⟩

theorem Redis.Becomes.refl (r : Redis) (f : Redis → Redis) : r.Becomes f (f r) :=
  ⟨r, .refl r, .refl _⟩

/-- A program that stays out of the searches leaves them as they are. -/
theorem Within.agree {α : Type} {S : List Area} {p : M α} (hp : Within S p)
    (hS : ∀ a ∈ S, a ∉ searchAreas) (out : Outside) (w : World) :
    (p.run (exec out) w).2.redis.Agree w.redis := by
  refine Uses.run_keeps (I := fun w' : World => w'.redis.Agree w.redis)
    hp (fun c hc w' h a ha => ?_)
    (.refl _)
  rw [exec_part fun hmem => hS a (hc hmem) ha]
  exact h a ha

/-! ### Looking for a search under way -/

/-- What a caller makes of the user's last attempt. -/
def AttemptRecord.coalesced (last : AttemptRecord) : Option FindMatchResult :=
  if last.status = .searching then some (searchingWithRequestId last.attemptId)
  else if last.status = .proposed ∧ last.peerUserId.isSome then some last.toResult
  else none

theorem coalesceActiveSearchOrProposal_bind {α : Type} (u : UserId)
    (f : Option FindMatchResult → M α) :
    (coalesceActiveSearchOrProposal u >>= f) =
      .call (.getUserLastAttempt u) fun
        | none => f none
        | some lastId => .call (.hgetallAttempt lastId) fun raw =>
            f (raw.bind fun h => (parseAttemptRecord h lastId).coalesced) := by
  simp only [coalesceActiveSearchOrProposal, issue, perform_bind, call_bind]
  congr 1
  funext lastId
  cases lastId with
  | none => rfl
  | some lastId =>
      simp only [getAttempt, issue, perform_bind, call_bind]
      congr 1
      funext raw
      cases raw with
      | none => rfl
      | some h =>
          simp only [Option.map_some, pure_eq, done_bind, Option.bind_some,
            AttemptRecord.coalesced]
          split_ifs <;> rfl

/-! ### The writes of the services -/

namespace Redis

variable (r : Redis)

/-- The store after `putAttempt`. -/
def put (a : RequestId) (u : UserId) (fields : AttemptHash) : Redis :=
  { r with
    attempt := Function.update r.attempt a
      (some (((r.attempt a).getD {}).hset { fields with userId := some u }))
    userLastAttempt := Function.update r.userLastAttempt u (some a) }

theorem put_last (a : RequestId) (u : UserId) (fields : AttemptHash) :
    (r.put a u fields).userLastAttempt u = some a := Function.update_self ..

theorem put_attempt (a : RequestId) (u : UserId) {fields : AttemptHash} {st : AttemptStatus}
    (hstatus : fields.status = some st) :
    ∃ h, (r.put a u fields).attempt a = some h ∧ h.userId = some u ∧ h.status = some st ∧
      (∀ v, fields.peerUserId = some v → h.peerUserId = some v) := by
  refine ⟨_, Function.update_self .., rfl, ?_, fun v hv => ?_⟩
  · simp [AttemptHash.hset, hstatus]
  · simp [AttemptHash.hset, hv]

/-- The store after `markNoMatch`. -/
def noMatch (a : RequestId) (u : UserId) (reason : String) : Redis :=
  r.put a u { status := some .noMatch, reason := some reason }

/-- The store after `releasePair`. -/
def release (p : Pair) : Redis :=
  { r with
    pairLock := Function.update r.pairLock p none
    userLock := Function.update (Function.update r.userLock p.low none) p.high none
    userState := Function.update (Function.update r.userState p.low (some .searching)) p.high
      (some .searching) }

/-- The store after `deletePending`. -/
def drop (p : Pair) : Redis :=
  { r with
    pairPending := Function.update r.pairPending p none
    pairConnectFinalize := Function.update r.pairConnectFinalize p false }

/-- The store after `remove`. -/
def withdraw (u : UserId) : Redis :=
  { r.strip u with userState := Function.update r.userState u none }

/-- The store after `dissolveProposal`. -/
def dissolve (record : PairPendingRecord) (low high : String) : Redis :=
  (((r.drop (Pair.of record.userLow record.userHigh)).release
    (Pair.of record.userLow record.userHigh)).noMatch record.attemptLow record.userLow low).noMatch
      record.attemptHigh record.userHigh high

/-- The store after `writePending`. -/
def pend (record : PairPendingRecord) : Redis :=
  { r with
    pairPending := Function.update r.pairPending (Pair.of record.userLow record.userHigh)
      (some { record := some record }) }

/-- The store after `leaveRoom`, but for a matched attempt. -/
def leave (u : UserId) : Redis :=
  { r.strip u with
    userLock := Function.update r.userLock u none
    userState := Function.update r.userState u none }

/-- The store after `openProposal`. -/
def propose (request : FindMatchRequest) (candidate : ScoredMatchCandidate)
    (peerAttemptId : RequestId) (isFallbackMatch : Bool) : Redis :=
  ((r.pend (proposalRecord request candidate peerAttemptId isFallbackMatch)).put
    request.requestId request.userId
    { status := some .proposed
      peerUserId := some candidate.userId
      matchScore := some candidate.matchScore
      isFallbackMatch := some isFallbackMatch }).put peerAttemptId candidate.userId
    { status := some .proposed
      peerUserId := some request.userId
      matchScore := some candidate.matchScore
      isFallbackMatch := some isFallbackMatch }

/-- The last attempt of the user, as it is read back. -/
def lastRecord (u : UserId) : Option AttemptRecord :=
  (r.userLastAttempt u).bind fun a => (r.attempt a).map (parseAttemptRecord · a)

end Redis

theorem Redis.Agree.lastRecord {r r' : Redis} (h : r.Agree r') (u : UserId) :
    r.lastRecord u = r'.lastRecord u := by
  rw [Redis.lastRecord, Redis.lastRecord, h.userLastAttempt, h.attempt]

section Run

variable {out : Outside} {w : World}

theorem run_getAttempt (a : RequestId) :
    (getAttempt a).run (exec out) w = ((w.redis.attempt a).map (parseAttemptRecord · a), w) := rfl

theorem run_putAttempt (a : RequestId) (u : UserId) (fields : AttemptHash) :
    (putAttempt a u fields).run (exec out) w = ((), { w with redis := w.redis.put a u fields }) :=
  rfl

theorem run_markNoMatch (a : RequestId) (u : UserId) (reason : String) :
    (markNoMatch a u reason).run (exec out) w =
      ((), { w with redis := w.redis.noMatch a u reason }) := rfl

theorem run_releasePair (a b : UserId) :
    (releasePair a b).run (exec out) w =
      ((), { w with redis := w.redis.release (Pair.of a b) }) := by
  simp only [releasePair, run_bind, run_perform, exec, World.modify, Redis.release]

theorem run_remove (u : UserId) :
    (remove u).run (exec out) w = ((), { w with redis := w.redis.withdraw u }) := by
  rw [remove, run_bind, stripFromPool_run]
  rfl

theorem run_deletePending (a b : UserId) :
    (deletePending a b).run (exec out) w =
      ((), { w with redis := w.redis.drop (Pair.of a b) }) := rfl

theorem run_readPending (a b : UserId) :
    (readPending a b).run (exec out) w = (w.redis.pendingRecord (Pair.of a b), w) := rfl

theorem run_dissolveProposal (record : PairPendingRecord) (low high : String) :
    (dissolveProposal record low high).run (exec out) w =
      ((), { w with redis := w.redis.dissolve record low high }) := by
  simp only [dissolveProposal, run_bind, run_deletePending, run_releasePair]
  rw [run_markNoMatch, run_markNoMatch, Redis.dissolve]

theorem run_openProposal (request : FindMatchRequest) (candidate : ScoredMatchCandidate)
    (a : RequestId) (f : Bool) :
    (openProposal request candidate a f).run (exec out) w =
      (.proposed request.requestId candidate.userId candidate.matchScore f,
        { w with redis := w.redis.propose request candidate a f }) := by
  have hpend : ∀ record, (writePending record).run (exec out) w =
      ((), { w with redis := w.redis.pend record }) := fun _ => rfl
  simp only [openProposal, markProposed, run_bind, hpend, run_putAttempt, run_perform, exec,
    pure_eq, run_done]
  rw [Redis.propose]

theorem run_coalesceActiveSearchOrProposal (u : UserId) :
    (coalesceActiveSearchOrProposal u).run (exec out) w =
      ((w.redis.lastRecord u).bind (·.coalesced), w) := by
  rw [← bind_done (coalesceActiveSearchOrProposal u), coalesceActiveSearchOrProposal_bind, run_call,
    show exec out (.getUserLastAttempt u) w = (w.redis.userLastAttempt u, w) from rfl,
    Redis.lastRecord]
  cases w.redis.userLastAttempt u with
  | none => rfl
  | some lastId =>
      rw [run_call, show exec out (.hgetallAttempt lastId) w = (w.redis.attempt lastId, w) from rfl,
        run_done, Option.bind_some]
      cases w.redis.attempt lastId <;> rfl

theorem run_finishNoMatch (request : FindMatchRequest) (reason : String) :
    (finishNoMatch request reason).run (exec out) w =
      (.noMatch reason,
        { w with redis := w.redis.noMatch request.requestId request.userId reason }) := rfl

/-! ### Starting a search -/

section Start

variable [Host] {u : UserId} {a : RequestId}

/-- The store after `setSearching` and `enqueue`. -/
def Redis.search (r : Redis) (a : RequestId) (u : UserId) (now : ℕ) : Redis :=
  (r.put a u { status := some .searching }).file u now

/-- The search `a` of the user `u` has been committed, and nothing else about
the searches has changed. -/
def Redis.Searched (r r' : Redis) (a : RequestId) (u : UserId) : Prop :=
  ∃ now : ℕ, r.Becomes (·.search a u now) r'

theorem Redis.Searched.of_agree {r r₁ r' r'' : Redis} (h : r₁.Agree r) (hs : r₁.Searched r' a u)
    (h' : r''.Agree r') : r.Searched r'' a u := by
  obtain ⟨now, hs⟩ := hs
  exact ⟨now, hs.of_agree h h'⟩

theorem run_commitSearchingEnqueue :
    ((commitSearchingEnqueue ⟨u, a⟩).run (exec out) w).1 = searchingWithRequestId a ∧
      w.redis.Searched ((commitSearchingEnqueue ⟨u, a⟩).run (exec out) w).2.redis a u := by
  simp only [commitSearchingEnqueue, setSearching, run_bind, run_putAttempt, enqueue_run,
    run_perform, pure_eq, run_done, true_and]
  refine ⟨out.now w.asked, w.redis, .refl _, fun area harea => ?_⟩
  exact exec_part fun hmem => absurd harea (by rw [List.mem_singleton.mp hmem]; decide)

theorem run_startWithLock (hnone : (w.redis.lastRecord u).bind (·.coalesced) = none) :
    ((startWithLock ⟨u, a⟩).run (exec out) w).1 = searchingWithRequestId a ∧
      w.redis.Searched ((startWithLock ⟨u, a⟩).run (exec out) w).2.redis a u := by
  simp only [startWithLock, run_bind, run_coalesceActiveSearchOrProposal, hnone, pure_eq, run_done]
  obtain ⟨hresult, hsearched⟩ := @run_commitSearchingEnqueue out w _ u a
  refine ⟨hresult, hsearched.of_agree (.refl _) ?_⟩
  exact (within_releaseStartSearchLockIfHolder u a).agree (by decide) out _

theorem run_pollStartSearchLock (polls : ℕ)
    (hnone : (w.redis.lastRecord u).bind (·.coalesced) = none) :
    ((pollStartSearchLock ⟨u, a⟩ polls).run (exec out) w).1 = searchingWithRequestId a ∧
      w.redis.Searched ((pollStartSearchLock ⟨u, a⟩ polls).run (exec out) w).2.redis a u := by
  induction polls generalizing w with
  | zero =>
      simp only [pollStartSearchLock, run_bind, run_coalesceActiveSearchOrProposal, hnone]
      exact run_commitSearchingEnqueue
  | succ polls ih =>
      simp only [pollStartSearchLock, run_bind, run_coalesceActiveSearchOrProposal, hnone]
      have hlock : ((tryAcquireStartSearchLock u a).run (exec out) w).2.redis.Agree w.redis :=
        (within_issue (S := [.startLock]) (by simp)).agree (by decide) out w
      rw [← hlock.lastRecord] at hnone
      split_ifs with hacquired
      · obtain ⟨hresult, hsearched⟩ := @run_startWithLock out _ _ _ a hnone
        exact ⟨hresult, hsearched.of_agree hlock (.refl _)⟩
      · obtain ⟨hresult, hsearched⟩ := ih hnone
        exact ⟨hresult, hsearched.of_agree hlock (.refl _)⟩

/-- The snapshot that is found for the user, fetched if need be, and the world
after that. -/
def World.hydrate (out : Outside) (w : World) (u : UserId) : Option SnapshotUserProfile × World :=
  (getSnapshotWithHydration u).run (exec out) w

theorem World.hydrate_agree (out : Outside) (w : World) (u : UserId) :
    (w.hydrate out u).2.redis.Agree w.redis :=
  (within_getSnapshotWithHydration u).agree (by decide) out w

/-- An open proposal of the user, as the locked branch looks for it. -/
def AttemptRecord.isOpen (record : AttemptRecord) : Bool :=
  record.status = .proposed ∧ record.peerUserId.isSome

section Fresh

variable (polls : ℕ) (hfresh : w.redis.attempt a = none)

include hfresh

theorem run_startFindMatch_noSnapshot (hsnap : (w.hydrate out u).1 = none) :
    (startFindMatch polls ⟨u, a⟩).run (exec out) w =
      (finishNoMatch ⟨u, a⟩ "snapshot_not_found").run (exec out) (w.hydrate out u).2 := by
  rw [World.hydrate] at hsnap ⊢
  simp only [startFindMatch, run_bind, run_getAttempt, hfresh, Option.map_none, hsnap]

variable (hsnap : (w.hydrate out u).1 ≠ none)

include hsnap

theorem run_startFindMatch_inRoom (hstate : w.redis.userState u = some .inRoom) :
    (startFindMatch polls ⟨u, a⟩).run (exec out) w =
      (finishNoMatch ⟨u, a⟩ "user_unavailable").run (exec out) (w.hydrate out u).2 := by
  obtain ⟨snap, hsnap⟩ := Option.ne_none_iff_exists'.mp hsnap
  rw [← (w.hydrate_agree out u).userState] at hstate
  rw [World.hydrate] at hsnap hstate ⊢
  simp only [startFindMatch, run_bind, run_getAttempt, hfresh, Option.map_none, hsnap, run_perform]
  rw [exec, hstate]

theorem run_startFindMatch_locked (hstate : w.redis.userState u = some .locked) :
    (startFindMatch polls ⟨u, a⟩).run (exec out) w =
      match (w.redis.lastRecord u).filter (·.isOpen) with
      | some record => (record.toResult, (w.hydrate out u).2)
      | none => (finishNoMatch ⟨u, a⟩ "user_unavailable").run (exec out) (w.hydrate out u).2 := by
  obtain ⟨snap, hsnap⟩ := Option.ne_none_iff_exists'.mp hsnap
  rw [← (w.hydrate_agree out u).userState] at hstate
  rw [← (w.hydrate_agree out u).lastRecord]
  rw [World.hydrate] at hsnap hstate ⊢
  simp only [startFindMatch, run_bind, run_getAttempt, hfresh, Option.map_none, hsnap, run_perform]
  rw [exec, hstate]
  simp only [run_bind, run_perform, exec]
  generalize ((getSnapshotWithHydration u).run (exec out) w).2 = w₁
  rw [Redis.lastRecord]
  cases w₁.redis.userLastAttempt u with
  | none => rfl
  | some lastId =>
      simp only [run_bind, run_getAttempt, Option.bind_some]
      cases w₁.redis.attempt lastId with
      | none => rfl
      | some h =>
          simp only [Option.map_some, Option.filter_some, AttemptRecord.isOpen, decide_eq_true_eq]
          split_ifs <;> rfl

theorem run_startFindMatch_free (hlocked : w.redis.userState u ≠ some .locked)
    (hroom : w.redis.userState u ≠ some .inRoom) :
    (startFindMatch polls ⟨u, a⟩).run (exec out) w =
      match (w.redis.lastRecord u).bind (·.coalesced) with
      | some result => (result, (w.hydrate out u).2)
      | none => (pollStartSearchLock ⟨u, a⟩ polls).run (exec out) (w.hydrate out u).2 := by
  obtain ⟨snap, hsnap⟩ := Option.ne_none_iff_exists'.mp hsnap
  rw [← (w.hydrate_agree out u).userState] at hlocked hroom
  rw [← (w.hydrate_agree out u).lastRecord]
  rw [World.hydrate] at hsnap hlocked hroom ⊢
  simp only [startFindMatch, run_bind, run_getAttempt, hfresh, Option.map_none, hsnap, run_perform]
  rw [exec]
  generalize ((getSnapshotWithHydration u).run (exec out) w).2 = w₁ at hlocked hroom ⊢
  have hsearch : Prog.run (exec out) (coalesceActiveSearchOrProposal u >>= fun
      | some coalescedEarly => pure coalescedEarly
      | none => pollStartSearchLock ⟨u, a⟩ polls) w₁ =
      match (w₁.redis.lastRecord u).bind (·.coalesced) with
      | some result => (result, w₁)
      | none => (pollStartSearchLock ⟨u, a⟩ polls).run (exec out) w₁ := by
    rw [run_bind, run_coalesceActiveSearchOrProposal]
    cases (w₁.redis.lastRecord u).bind (·.coalesced) <;> rfl
  cases hstate : w₁.redis.userState u with
  | none => exact hsearch
  | some state =>
      cases state with
      | searching => exact hsearch
      | locked => exact absurd hstate hlocked
      | inRoom => exact absurd hstate hroom

end Fresh

end Start

/-! ### Answering a proposal -/

theorem run_teardownProposal (pending : PairPendingRecord) (skipBy : Option UserId)
    (low high : String) :
    w.redis.Becomes (·.dissolve pending low high)
      ((teardownProposal pending skipBy low high).run (exec out) w).2.redis := by
  have hskip : ((recordSkipBy pending skipBy).run (exec out) w).2.redis.Agree w.redis :=
    (within_recordSkipBy pending skipBy).agree (by decide) out w
  simp only [teardownProposal, run_bind, run_dissolveProposal]
  exact Redis.Becomes.of_agree hskip (.refl _ _) (.refl _)

theorem run_notifyCancelled_agree (pending : PairPendingRecord) (low high : String) :
    ((notifyCancelled pending low high).run (exec out) w).2.redis.Agree w.redis :=
  (within_notifyCancelled pending low high).agree (by decide) out w

theorem run_cancelProposal (u : UserId) (pending : PairPendingRecord) :
    ∃ low high, w.redis.Becomes (·.dissolve pending low high)
      ((cancelProposal u pending).run (exec out) w).2.redis := by
  refine ⟨if u = pending.userLow then "cancelled_by_user" else "proposal_peer_cancelled",
    if u = pending.userHigh then "cancelled_by_user" else "proposal_peer_cancelled", ?_⟩
  simp only [cancelProposal, run_bind]
  refine Redis.Becomes.of_agree (.refl _) ?_ (run_notifyCancelled_agree pending _ _)
  exact run_teardownProposal pending none _ _

/-! ### Cancelling and leaving -/

theorem run_cancelMatch_none {u : UserId} (hlast : w.redis.userLastAttempt u = none) :
    ((cancelMatch u).run (exec out) w).2.redis = w.redis.withdraw u := by
  simp only [cancelMatch, run_bind, run_perform, exec, run_remove, hlast]
  rfl

/-- The open proposal of the user's last attempt. -/
def Redis.openProposal (r : Redis) (u : UserId) : Option PairPendingRecord :=
  (r.lastRecord u).bind fun record =>
    record.proposedPeer.bind fun peer => r.pendingRecord (Pair.of u peer)

theorem run_cancelMatch_some {u : UserId} {a : RequestId}
    (hlast : w.redis.userLastAttempt u = some a) :
    (w.redis.openProposal u = none →
      ((cancelMatch u).run (exec out) w).2.redis =
        (w.redis.withdraw u).noMatch a u "cancelled_by_user") ∧
    ∀ pending, w.redis.openProposal u = some pending → ∃ low high,
      (w.redis.withdraw u).Becomes (·.dissolve pending low high)
        ((cancelMatch u).run (exec out) w).2.redis := by
  have hlastRecord : w.redis.lastRecord u = (w.redis.attempt a).map (parseAttemptRecord · a) := by
    rw [Redis.lastRecord, hlast, Option.bind_some]
  simp only [cancelMatch, run_bind, run_perform, exec, run_remove, hlast, run_getAttempt,
    Redis.openProposal, hlastRecord]
  rw [show (w.redis.withdraw u).attempt = w.redis.attempt from rfl]
  cases hattempt : (w.redis.attempt a).map (parseAttemptRecord · a) with
  | none => exact ⟨fun _ => rfl, by rintro _ ⟨⟩⟩
  | some record =>
      simp only [Option.bind_some]
      cases record.proposedPeer with
      | none => exact ⟨fun _ => rfl, by rintro _ ⟨⟩⟩
      | some peer =>
          simp only [run_bind, run_readPending, Option.bind_some]
          rw [show (w.redis.withdraw u).pendingRecord = w.redis.pendingRecord from rfl]
          cases w.redis.pendingRecord (Pair.of u peer) with
          | none => exact ⟨fun _ => rfl, by rintro _ ⟨⟩⟩
          | some pending =>
              refine ⟨by rintro ⟨⟩, fun pending' h => ?_⟩
              obtain rfl := Option.some.inj h
              have hcancel := @run_cancelProposal out { w with redis := w.redis.withdraw u } u
                pending
              exact hcancel

theorem markLeftRoom_eq (u : UserId) :
    markLeftRoom u =
      .call (.getUserLastAttempt u) fun
        | none => .done ()
        | some a => .call (.hgetallAttempt a) fun raw =>
            if (raw.map (parseAttemptRecord · a)).any (·.status = .matched) then
              markNoMatch a u "left_room"
            else .done () := by
  simp only [markLeftRoom, issue, perform_bind]
  congr 1

theorem run_markLeftRoom (u : UserId) :
    ((markLeftRoom u).run (exec out) w).2.redis =
      match (w.redis.lastRecord u).filter (·.status = .matched) with
      | none => w.redis
      | some record => w.redis.noMatch record.attemptId u "left_room" := by
  rw [markLeftRoom_eq, run_call,
    show exec out (.getUserLastAttempt u) w = (w.redis.userLastAttempt u, w) from rfl,
    Redis.lastRecord]
  cases w.redis.userLastAttempt u with
  | none => rfl
  | some a =>
      rw [run_call, show exec out (.hgetallAttempt a) w = (w.redis.attempt a, w) from rfl,
        Option.bind_some]
      cases w.redis.attempt a with
      | none => rfl
      | some h =>
          simp only [Option.map_some, Option.any_some, Option.filter_some, decide_eq_true_eq]
          split_ifs <;> rfl

theorem run_leaveRoom (u : UserId) :
    ((leaveRoom u).run (exec out) w).2.redis =
      match (w.redis.lastRecord u).filter (·.status = .matched) with
      | none => w.redis.leave u
      | some record => (w.redis.noMatch record.attemptId u "left_room").leave u := by
  have hleave : ((leaveRoom u).run (exec out) w).2.redis =
      ((markLeftRoom u).run (exec out) w).2.redis.leave u := by
    simp only [leaveRoom, run_bind, stripFromPool_run]
    rfl
  rw [hleave, run_markLeftRoom]
  cases (w.redis.lastRecord u).filter (·.status = .matched) <;> rfl

end Run

end Greetup.Matching
