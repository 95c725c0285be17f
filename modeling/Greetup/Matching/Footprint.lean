import Greetup.Matching.Orchestrator

/-!
What a command can change and what a handler can touch.

Every command belongs to at most a few areas of the store or of the world
outside. A part of the store is unchanged by a command from other areas, and
each building block of the orchestrator stays within a few areas.
-/

namespace Greetup.Matching

open Greetup.Interleaving Prog

inductive Area
  | snapshot
  | pool
  | userState
  | lock
  | pending
  | attempt
  | lastAttempt
  | startLock
  | queue
  | peerSets
  | room
  | cancelled
  | completed
  | notice
  | expiry
  deriving DecidableEq

def ExpiringKey.area : ExpiringKey → Area
  | .userLock _ => .lock
  | .pairLock _ => .lock
  | .pairPending _ => .pending
  | .attempt _ => .attempt
  | .userLastAttempt _ => .lastAttempt
  | .userStartSearchLock _ => .startLock

/-- The areas a command acts on. -/
@[simp] def Cmd.areas : Cmd → List Area
  | .zadd .. | .zrem .. | .setPoolUserLocationMeta .. | .delPoolUserLocationMeta _ => [.pool]
  | .setUserState .. | .delUserState _ => [.userState]
  | .lockPair .. => [.lock, .userState]
  | .delPairLock _ | .delUserLock _ => [.lock]
  | .hsetPending .. | .delPending _ | .recordProposalConnect .. => [.pending]
  | .hsetAttempt .. => [.attempt]
  | .setUserLastAttempt .. => [.lastAttempt]
  | .setStartSearchLockNX .. | .delStartSearchLock _ => [.startLock]
  | .lpushJob _ | .brpopJob => [.queue]
  | .sadd .. => [.peerSets]
  | .createRoom _ => [.room]
  | .requestEnsureProfileSnapshot _ => [.snapshot]
  | .notifyMatchProposalCancelled _ => [.cancelled]
  | .notifyMatchCompleted _ => [.completed]
  | .notifyMatchFailed _ | .notifyMatchProposed _ | .warnLockWaitExhausted _ => [.notice]
  | .expired key => [.expiry, key.area]
  | _ => []

/-! ### What a command leaves alone -/

/-- What the store keeps of an area. -/
@[reducible] def Area.Part : Area → Type
  | .snapshot => UserId → Option JsonRecord
  | .pool => (PoolKey → Data.SortedSet UserId) × (UserId → Option RawMeta)
  | .userState => UserId → Option MatchState
  | .lock => (UserId → Option RequestId) × (Pair → Option RequestId)
  | .pending => (Pair → Option PendingHash) × (Pair → Bool)
  | .attempt => RequestId → Option AttemptHash
  | .lastAttempt => UserId → Option RequestId
  | .startLock => UserId → Option RequestId
  | .queue => List FindMatchRequest
  | .peerSets => SetKey → Finset UserId
  | _ => Unit

@[reducible] def Redis.part (r : Redis) : (a : Area) → a.Part
  | .snapshot => r.snapshot
  | .pool => (r.pool, r.poolUserLocationMeta)
  | .userState => r.userState
  | .lock => (r.userLock, r.pairLock)
  | .pending => (r.pairPending, r.pairConnectFinalize)
  | .attempt => r.attempt
  | .lastAttempt => r.userLastAttempt
  | .startLock => r.userStartSearchLock
  | .queue => r.matchJobQueue
  | .peerSets => r.sets
  | .room | .cancelled | .completed | .notice | .expiry => ()

section Frame

variable {out : Outside} {w : World} {c : Cmd} {a : Area}

/-- A command changes nothing outside its areas. -/
theorem exec_part (h : a ∉ c.areas) : (exec out c w).2.redis.part a = w.redis.part a := by
  cases c with
  | expired key =>
      cases key <;> cases a <;> first | rfl | exact absurd (by simp [ExpiringKey.area]) h
  | lockPair p id =>
      simp only [exec]
      split_ifs <;> cases a <;> first | rfl | exact absurd (by simp) h
  | setStartSearchLockNX u id =>
      simp only [exec]
      split_ifs <;> cases a <;> first | rfl | exact absurd (List.mem_singleton_self _) h
  | recordProposalConnect p field =>
      simp only [exec, Redis.vote]
      split_ifs <;> cases a <;> first | rfl | exact absurd (List.mem_singleton_self _) h
  | _ => cases a <;> first | rfl | exact absurd (List.mem_singleton_self _) h

theorem exec_userState (h : .userState ∉ c.areas) :
    (exec out c w).2.redis.userState = w.redis.userState := exec_part h

theorem exec_pairPending (h : .pending ∉ c.areas) :
    (exec out c w).2.redis.pairPending = w.redis.pairPending := congrArg Prod.fst (exec_part h)

theorem exec_pairConnectFinalize (h : .pending ∉ c.areas) :
    (exec out c w).2.redis.pairConnectFinalize = w.redis.pairConnectFinalize :=
  congrArg Prod.snd (exec_part h)

theorem exec_attempt (h : .attempt ∉ c.areas) :
    (exec out c w).2.redis.attempt = w.redis.attempt := exec_part h

theorem exec_userLastAttempt (h : .lastAttempt ∉ c.areas) :
    (exec out c w).2.redis.userLastAttempt = w.redis.userLastAttempt := exec_part h

theorem exec_userStartSearchLock (h : .startLock ∉ c.areas) :
    (exec out c w).2.redis.userStartSearchLock = w.redis.userStartSearchLock := exec_part h

end Frame

/-! ### Where the building blocks stay -/

/-- Every command the program can issue stays within the areas `S`. -/
abbrev Within {α : Type} (S : List Area) (p : M α) : Prop := p.Uses fun c => c.areas ⊆ S

section Within

variable {α β : Type} {S T : List Area}

theorem Within.mono {p : M α} (hp : Within S p) (h : S ⊆ T) : Within T p :=
  Uses.mono hp fun _ hc => List.Subset.trans hc h

theorem Within.uses {N : Cmd → Prop} {p : M α} (hp : Within S p) (h : ∀ c, c.areas ⊆ S → N c) :
    p.Uses N :=
  Uses.mono hp h

/-- The command acts on none of the areas `S`. -/
def Cmd.Avoids (S : List Area) (c : Cmd) : Prop := ∀ a ∈ c.areas, a ∉ S

instance (S : List Area) (c : Cmd) : Decidable (c.Avoids S) :=
  inferInstanceAs (Decidable (∀ a ∈ c.areas, a ∉ S))

theorem Cmd.Avoids.mono {c : Cmd} (h : c.Avoids S) (hTS : T ⊆ S) : c.Avoids T :=
  fun a ha hmem => h a ha (hTS hmem)

theorem Cmd.Avoids.of_nil {c : Cmd} (h : c.areas = []) : c.Avoids S := by
  rw [Cmd.Avoids, h]
  exact fun _ ha => absurd ha List.not_mem_nil

theorem Within.avoids {p : M α} (hp : Within T p) (h : ∀ a ∈ T, a ∉ S) :
    p.Uses (Cmd.Avoids S) :=
  hp.uses fun _ hc a ha => h a (hc ha)

theorem within_done (a : α) : Within S (.done a : M α) := trivial

theorem within_issue {c : Cmd} (h : c.areas ⊆ S) : Within S (issue c) :=
  (uses_perform c).mpr h

theorem within_ite {p q : M α} {P : Prop} [Decidable P] (hp : Within S p) (hq : Within S q) :
    Within S (if P then p else q) := by
  split <;> assumption

theorem within_getAttempt (a : RequestId) : Within [] (getAttempt a) := by
  simp [getAttempt, Within]

theorem within_putAttempt (a : RequestId) (u : UserId) (fields : AttemptHash) :
    Within [.attempt, .lastAttempt] (putAttempt a u fields) := by
  simp [putAttempt, Within]

theorem within_releasePair (a b : UserId) : Within [.lock, .userState] (releasePair a b) := by
  simp [releasePair, Within]

theorem within_readPending (a b : UserId) : Within [] (readPending a b) := by
  simp [readPending, Within]

theorem within_coalesceActiveSearchOrProposal (u : UserId) :
    Within [] (coalesceActiveSearchOrProposal u) := by
  refine Uses.bind (within_issue (by simp)) fun lastId => ?_
  cases lastId with
  | none => exact within_done _
  | some lastId =>
      refine Uses.bind (within_getAttempt lastId) fun last => ?_
      cases last with
      | none => exact within_done _
      | some last => exact within_ite (within_done _) (within_ite (within_done _) (within_done _))

theorem within_recordSkip (a b : UserId) : Within [.peerSets] (recordSkip a b) := by
  simp [recordSkip, Within]

theorem within_getPeerSetsForRanking (u : UserId) : Within [] (getPeerSetsForRanking u) := by
  simp [getPeerSetsForRanking, Within]

theorem within_recordMatchedPair (a b : UserId) :
    Within [.peerSets] (recordMatchedPair a b) := by
  by_cases h : a = b <;> simp [recordMatchedPair, Within, h]

theorem within_isBlockedWithPeer (a b : UserId) : Within [] (isBlockedWithPeer a b) := by
  by_cases h : a = b <;> simp [isBlockedWithPeer, Within, h]

theorem within_blockReplies (u : UserId) (peers : List UserId) :
    Within [] (blockReplies u peers) := by
  induction peers with
  | nil => exact within_done _
  | cons peer peers ih =>
      refine within_ite ih ?_
      refine Uses.bind (within_issue (by simp)) fun outgoing => ?_
      refine Uses.bind (within_issue (by simp)) fun incoming => ?_
      exact Uses.bind ih fun results => within_done _

theorem within_filterBlockedPeers (u : UserId) (peers : List UserId) :
    Within [] (filterBlockedPeers u peers) :=
  within_ite (within_done _) (Uses.bind (within_blockReplies u peers) fun _ => within_done _)

theorem within_forKeys {cmd : PoolKey → M Unit} (h : ∀ key, Within S (cmd key))
    (keys : List PoolKey) : Within S (forKeys cmd keys) := by
  induction keys with
  | nil => exact within_done _
  | cons key keys ih => exact Uses.bind (h key) fun _ => ih

theorem within_stripFromPool (u : UserId) : Within [.pool] (stripFromPool u) := by
  refine Uses.bind (within_issue (by simp)) fun raw => ?_
  refine Uses.bind (within_issue (by simp)) fun _ => ?_
  refine Uses.bind (within_forKeys (fun key => within_issue (by simp)) _) fun _ => ?_
  exact within_issue (by simp)

theorem within_remove (u : UserId) : Within [.pool, .userState] (remove u) :=
  Uses.bind ((within_stripFromPool u).mono (by simp)) fun _ => within_issue (by simp)

theorem within_markPairInRoom (a b : UserId) :
    Within [.pool, .lock, .userState] (markPairInRoom a b) := by
  refine Uses.bind ((within_stripFromPool a).mono (by simp)) fun _ => ?_
  refine Uses.bind ((within_stripFromPool b).mono (by simp)) fun _ => ?_
  simp

theorem within_recordSkipBy (pending : PairPendingRecord) (skipBy : Option UserId) :
    Within [.peerSets] (recordSkipBy pending skipBy) :=
  within_ite (within_recordSkip _ _) (within_ite (within_recordSkip _ _) (within_done _))

theorem within_markLeftRoom (u : UserId) : Within [.attempt, .lastAttempt] (markLeftRoom u) := by
  refine Uses.bind (within_issue (by simp)) fun requestId => ?_
  cases requestId with
  | none => exact within_done _
  | some requestId =>
      refine Uses.bind ((within_getAttempt _).mono (by simp)) fun attempt => ?_
      exact within_ite (within_putAttempt _ _ _) (within_done _)

theorem within_leaveRoom (u : UserId) :
    Within [.attempt, .lastAttempt, .pool, .lock, .userState] (leaveRoom u) := by
  refine Uses.bind ((within_markLeftRoom u).mono (by simp)) fun _ => ?_
  refine Uses.bind ((within_stripFromPool u).mono (by simp)) fun _ => ?_
  simp

theorem within_notifyCancelled (pending : PairPendingRecord) (reasonLow reasonHigh : String) :
    Within [.cancelled] (notifyCancelled pending reasonLow reasonHigh) := by
  simp [notifyCancelled, Within]

theorem within_fetchSearchingStates (us : List UserId) : Within [] (fetchSearchingStates us) := by
  by_cases h : us = [] <;> simp [fetchSearchingStates, Within, h]

theorem within_filterCandidates (u : UserId) (ordered : List MatchCandidate) (n : ℕ) :
    Within [] (filterCandidates u ordered n) := by
  refine within_ite (within_done _) ?_
  refine Uses.bind (within_filterBlockedPeers u _) fun blocked => ?_
  exact Uses.bind (within_fetchSearchingStates _) fun searching => within_done _

section Candidates

variable [Host]

theorem within_peekCountryCodesByUserIds (us : List UserId) :
    Within [] (peekCountryCodesByUserIds us) := by
  by_cases h : us = [] <;> simp [peekCountryCodesByUserIds, Within, h]

theorem within_getByUserId (u : UserId) : Within [] (getByUserId u) := by
  simp [getByUserId, Within]

theorem within_enqueue (u : UserId) : Within [.pool, .userState] (enqueue u) := by
  refine Uses.bind (within_issue (by simp)) fun now => ?_
  refine Uses.bind ((within_getByUserId u).mono (by simp)) fun snap => ?_
  refine Uses.bind (within_issue (by simp)) fun _ => ?_
  refine Uses.bind (within_forKeys (fun key => within_issue (by simp)) _) fun _ => ?_
  simp

theorem within_getCandidates (u : UserId) (snap : SnapshotUserProfile) :
    Within [] (getCandidates u snap) := by
  have hglobal : Within [] (collectFromZset u .poolGlobal MatchConfig.poolScanLimit
      MatchConfig.candidateBatchSize) :=
    Uses.bind (within_issue (by simp)) fun _ => within_filterCandidates ..
  have hbucket : ∀ key, Within [] (do
      let primary ← issue (.zrevrange key MatchConfig.poolScanLimit)
      mergePrimaryThenGlobal u primary) := fun key =>
    Uses.bind (within_issue (by simp)) fun _ =>
      Uses.bind (within_issue (by simp)) fun _ => within_filterCandidates ..
  have hforeign : Within [] (collectGlobalForeignFirst u snap) := by
    refine Uses.bind (within_issue (by simp)) fun rows => ?_
    refine Uses.bind (within_filterBlockedPeers u _) fun blocked => ?_
    refine Uses.bind (within_peekCountryCodesByUserIds _) fun ccs => ?_
    exact Uses.bind (within_fetchSearchingStates _) fun searching => within_done _
  unfold getCandidates
  refine within_ite hglobal ?_
  split
  · exact hglobal
  · exact hglobal
  · exact hforeign
  · split
    · exact hbucket _
    · exact hglobal
  · split
    · exact hbucket _
    · exact hglobal
  · split
    · exact hbucket _
    · exact hglobal

theorem within_getSnapshotWithHydration (u : UserId) :
    Within [.snapshot] (getSnapshotWithHydration u) := by
  refine Uses.bind ((within_getByUserId u).mono (by simp)) fun existing => ?_
  cases existing with
  | some existing => exact within_done _
  | none =>
      refine Uses.bind (within_issue (by simp)) fun ok => ?_
      exact within_ite ((within_getByUserId u).mono (by simp)) (within_done _)

theorem within_scoreCandidate (snap : SnapshotUserProfile) (mode : CandidateScoringMode)
    (c : MatchCandidate) : Within [.snapshot] (scoreCandidate snap mode c) := by
  refine Uses.bind ((within_isBlockedWithPeer _ _).mono (by simp)) fun blocked => ?_
  refine within_ite (within_done _) ?_
  refine Uses.bind (within_getSnapshotWithHydration _) fun candidateSnapshot => ?_
  cases candidateSnapshot <;> exact within_done _

theorem within_scorePoolCandidates (snap : SnapshotUserProfile) (mode : CandidateScoringMode)
    (cs : List MatchCandidate) : Within [.snapshot] (scorePoolCandidates snap mode cs) := by
  induction cs with
  | nil => exact within_done _
  | cons c cs ih =>
      exact Uses.bind (within_scoreCandidate snap mode c) fun _ => Uses.bind ih
        fun _ => within_done _

/-! ### Starting a search -/

omit [Host] in
theorem within_finishNoMatch (request : FindMatchRequest) (reason : String) :
    Within [.attempt, .lastAttempt] (finishNoMatch request reason) :=
  Uses.bind (within_putAttempt _ _ _) fun _ => within_done _

theorem within_commitSearchingEnqueue (request : FindMatchRequest) :
    Within [.attempt, .lastAttempt, .pool, .userState, .queue]
      (commitSearchingEnqueue request) := by
  refine Uses.bind ((within_putAttempt _ _ _).mono (by simp)) fun _ => ?_
  refine Uses.bind ((within_enqueue _).mono (by simp)) fun _ => ?_
  exact Uses.bind (within_issue (by simp)) fun _ => within_done _

omit [Host] in
theorem within_releaseStartSearchLockIfHolder (u : UserId) (a : RequestId) :
    Within [.startLock] (releaseStartSearchLockIfHolder u a) :=
  Uses.bind (within_issue (by simp)) fun _ =>
    within_ite (within_issue (by simp)) (within_done _)

/-- The areas of `startFindMatch`. -/
def startAreas : List Area :=
  [.snapshot, .attempt, .lastAttempt, .pool, .userState, .queue, .startLock, .notice]

theorem within_startWithLock (request : FindMatchRequest) :
    Within startAreas (startWithLock request) := by
  have hrelease := within_releaseStartSearchLockIfHolder request.userId request.requestId
  refine Uses.bind ((within_coalesceActiveSearchOrProposal _).mono (by simp)) fun again => ?_
  cases again with
  | some again => exact Uses.bind (hrelease.mono (by decide)) fun _ => within_done _
  | none =>
      refine Uses.bind ((within_commitSearchingEnqueue _).mono (by decide)) fun _ => ?_
      exact Uses.bind (hrelease.mono (by decide)) fun _ => within_done _

theorem within_pollStartSearchLock (request : FindMatchRequest) (polls : ℕ) :
    Within startAreas (pollStartSearchLock request polls) := by
  induction polls with
  | zero =>
      refine Uses.bind ((within_coalesceActiveSearchOrProposal _).mono (by simp)) fun final => ?_
      cases final with
      | some final => exact within_done _
      | none =>
          refine Uses.bind (within_issue (by simp [startAreas])) fun _ => ?_
          exact (within_commitSearchingEnqueue _).mono (by decide)
  | succ polls ih =>
      refine Uses.bind ((within_coalesceActiveSearchOrProposal _).mono (by simp)) fun early => ?_
      cases early with
      | some early => exact within_done _
      | none =>
          refine Uses.bind (within_issue (by simp [startAreas])) fun acquired => ?_
          exact within_ite (within_startWithLock request) ih

theorem within_startFindMatch (polls : ℕ) (request : FindMatchRequest) :
    Within startAreas (startFindMatch polls request) := by
  have hno : ∀ reason, Within startAreas (finishNoMatch request reason) := fun reason =>
    (within_finishNoMatch request reason).mono (by decide)
  refine Uses.bind ((within_getAttempt _).mono (by simp)) fun existing => ?_
  cases existing with
  | some existing => exact within_done _
  | none =>
      refine Uses.bind ((within_getSnapshotWithHydration _).mono (by decide)) fun snap => ?_
      cases snap with
      | none => exact hno _
      | some snap =>
          refine Uses.bind (within_issue (by simp)) fun state => ?_
          rcases state with _ | _ | _ | _
          case some.inRoom => exact hno _
          case some.locked =>
            refine Uses.bind (within_issue (by simp)) fun lastId => ?_
            cases lastId with
            | none => exact hno _
            | some lastId =>
                refine Uses.bind ((within_getAttempt _).mono (by simp)) fun locked => ?_
                cases locked with
                | none => exact hno _
                | some locked => exact within_ite (within_done _) (hno _)
          all_goals
            refine Uses.bind ((within_coalesceActiveSearchOrProposal _).mono (by simp)) fun e => ?_
            cases e with
            | some early => exact within_done _
            | none => exact within_pollStartSearchLock request polls

/-! ### A worker's job -/

section Job

variable {N : Cmd → Prop} {request : FindMatchRequest}

omit [Host] in
theorem uses_tryPairWithSortedCandidates {isFallbackMatch : Bool}
    (hlock : ∀ p, N (.lockPair p request.requestId))
    (hpair : ∀ candidate, (pairWithLocked request candidate isFallbackMatch).Uses N)
    (sorted : List ScoredMatchCandidate) :
    (tryPairWithSortedCandidates request isFallbackMatch sorted).Uses N := by
  induction sorted with
  | nil => exact uses_done _
  | cons candidate sorted ih =>
      refine Uses.bind ((uses_perform _).mpr (hlock _)) fun locked => ?_
      cases locked with
      | false => exact ih
      | true =>
          refine Uses.bind (hpair candidate) fun result => ?_
          cases result with
          | some result => exact uses_done _
          | none => exact ih

/-- A job reads, locks pairs, pairs what it has locked, and ends its own
attempt. -/
theorem uses_processMatchRequest (hread : ∀ c : Cmd, c.areas ⊆ [.snapshot] → N c)
    (hlock : ∀ p, N (.lockPair p request.requestId))
    (hpair : ∀ candidate isFallbackMatch,
      (pairWithLocked request candidate isFallbackMatch).Uses N)
    (hmark : ∀ reason, (markNoMatch request.requestId request.userId reason).Uses N)
    (hremove : (remove request.userId).Uses N)
    (hnotify : ∀ payload, N (.notifyMatchFailed payload)) :
    (processMatchRequest request).Uses N := by
  have hwithin : ∀ {β : Type} {p : M β}, Within [] p → p.Uses N := fun hp =>
    hp.uses fun c hc => hread c (List.Subset.trans hc (List.nil_subset _))
  have hdrop : ∀ reason, (dropRequest request reason).Uses N := fun reason =>
    Uses.bind (hmark reason) fun _ => Uses.bind hremove fun _ => uses_done _
  have hgive : ∀ seen, (giveUp request seen).Uses N := fun seen =>
    Uses.bind (hmark _) fun _ => Uses.bind hremove fun _ =>
      Uses.bind ((uses_perform _).mpr (hnotify _)) fun _ => uses_done _
  have hscan : ∀ snap mode fallback, (scanPool request snap mode fallback).Uses N := by
    intro snap mode fallback
    refine Uses.bind (hwithin (within_getCandidates _ _)) fun candidates => ?_
    refine Uses.bind ((within_scorePoolCandidates _ _ _).uses hread) fun scored => ?_
    refine Uses.bind (hwithin (within_getPeerSetsForRanking _)) fun peerSets => ?_
    exact Uses.bind (uses_tryPairWithSortedCandidates hlock (fun c => hpair c fallback) _)
      fun matched => uses_done _
  have hpasses : ∀ snap mode passes seen, (retryPasses request snap mode passes seen).Uses N := by
    intro snap mode passes
    induction passes with
    | zero => exact fun seen => uses_done _
    | succ passes ih =>
        intro seen
        refine Uses.bind (hscan snap mode false) fun s => ?_
        split
        · exact uses_done _
        · exact ih _
  have hsearch : ∀ snap, (searchForPeer request snap).Uses N := by
    intro snap
    refine Uses.bind (hpasses snap _ _ _) fun r => ?_
    rcases r with ⟨_ | matched, seen⟩
    · dsimp only
      split_ifs
      · exact hgive seen
      · refine Uses.bind (Uses.bind (hscan snap _ _) fun s => uses_done _) fun fallback => ?_
        cases fallback with
        | none => exact hgive seen
        | some fallback => exact uses_done _
    · exact uses_done _
  refine Uses.bind (hwithin (within_getAttempt _)) fun existing => ?_
  cases existing with
  | none => exact uses_done _
  | some existing =>
      dsimp only
      split_ifs
      · exact uses_done _
      · refine Uses.bind ((within_getSnapshotWithHydration _).uses hread) fun snap => ?_
        cases snap with
        | none => exact hdrop _
        | some snap =>
            refine Uses.bind ((uses_perform _).mpr (hread _ (by simp))) fun state => ?_
            match state with
            | some .inRoom => exact hdrop _
            | some .locked => exact uses_done _
            | some .searching => exact hsearch snap
            | none => exact hsearch snap

theorem uses_runLoop {N : Cmd → Prop} (hpop : N .brpopJob)
    (hjob : ∀ job, (processMatchRequest job).Uses N) (rounds : ℕ) : (runLoop rounds).Uses N := by
  induction rounds with
  | zero => exact uses_done _
  | succ rounds ih =>
      refine Uses.bind ((uses_perform _).mpr hpop) fun job => ?_
      cases job with
      | none => exact ih
      | some job => exact Uses.bind (hjob job) fun _ => ih

end Job

end Candidates

end Within

end Greetup.Matching
