import Greetup.Matching.Pool
import Greetup.Matching.Scoring

/-!
The operations of the matching service: starting a search, pairing a searcher
with a candidate, answering a proposal, cancelling, leaving the room. A user's
search is spread over several keys (state, locks, pool, attempt, last attempt,
pending proposal), and every operation below goes through them one command at a
time.
-/

namespace Greetup.Matching

open Greetup.Interleaving Prog

variable [Host]

/-! ### Ranking -/

/-- `a` is tried no later than `b`. -/
def ScoredMatchCandidate.before (a b : ScoredMatchCandidate) : Bool :=
  if a.matchScore ≠ b.matchScore then b.matchScore ≤ a.matchScore
  else b.poolScore ≤ a.poolScore

def sortScoredCandidatesDescending (candidates : List ScoredMatchCandidate) :
    List ScoredMatchCandidate :=
  candidates.insertionSort fun a b => a.before b

/-- Fresh candidates first, then known peers, then skipped ones. -/
def partitionDeprioritizedCandidates (candidates : List ScoredMatchCandidate)
    (peerSets : DeprioritizedPeerSets) : List ScoredMatchCandidate :=
  let skipped := candidates.filter (·.userId ∈ peerSets.skipped)
  let others := candidates.filter (·.userId ∉ peerSets.skipped)
  others.filter (·.userId ∉ peerSets.known) ++ others.filter (·.userId ∈ peerSets.known) ++ skipped

def rankCandidatesForPairing (candidates : List ScoredMatchCandidate)
    (peerSets : DeprioritizedPeerSets) : List ScoredMatchCandidate :=
  partitionDeprioritizedCandidates (sortScoredCandidatesDescending candidates) peerSets

/-! ### Strategy -/

inductive CandidateScoringMode
  | eligibleOnly
  | allCompatible
  deriving DecidableEq

inductive MatchUserTier
  | standard
  | premium

structure MatchExecutionStrategy where
  retryBudget : ℕ
  primaryScoringMode : CandidateScoringMode
  fallbackScoringMode : CandidateScoringMode

def toBoolean : Json → Bool
  | .bool b => b
  | .str s => Host.toLowerCase s = "true"
  | .num q => 0 < q
  | _ => false

def toTier (snapshot : SnapshotUserProfile) : MatchUserTier :=
  if toBoolean (snapshot.attributes.get "isPremium") ||
      toBoolean (snapshot.attributes.get "premiumEnabled") then .premium
  else .standard

def resolveMatchExecutionStrategy (requesterSnapshot : SnapshotUserProfile) :
    MatchExecutionStrategy where
  retryBudget :=
    match toTier requesterSnapshot with
    | .standard => 0
    | .premium => 1
  primaryScoringMode := .eligibleOnly
  fallbackScoringMode := .allCompatible

/-! ### Starting a search -/

def getSnapshotWithHydration (userId : UserId) : M (Option SnapshotUserProfile) := do
  match ← getByUserId userId with
  | some existing => return some existing
  | none =>
    if ← issue (.requestEnsureProfileSnapshot userId) then getByUserId userId
    else return none

/-- Persist the searching attempt, the pool membership and the worker's job. -/
def commitSearchingEnqueue (request : FindMatchRequest) : M FindMatchResult := do
  setSearching request.requestId request.userId
  enqueue request.userId
  issue (.lpushJob request)
  return searchingWithRequestId request.requestId

def finishNoMatch (request : FindMatchRequest) (reason : String) : M FindMatchResult := do
  markNoMatch request.requestId request.userId reason
  return .noMatch reason

/-- What the holder of the start-search lock does before it lets go of it. -/
def startWithLock (request : FindMatchRequest) : M FindMatchResult := do
  match ← coalesceActiveSearchOrProposal request.userId with
  | some again =>
    releaseStartSearchLockIfHolder request.userId request.requestId
    return again
  | none =>
    let result ← commitSearchingEnqueue request
    releaseStartSearchLockIfHolder request.userId request.requestId
    return result

/-- The wait for the start-search lock, for at most the given number of polls. -/
def pollStartSearchLock (request : FindMatchRequest) : ℕ → M FindMatchResult
  | 0 => do
    match ← coalesceActiveSearchOrProposal request.userId with
    | some finalCoalesce => return finalCoalesce
    | none =>
      issue (.warnLockWaitExhausted request)
      commitSearchingEnqueue request
  | polls + 1 => do
    match ← coalesceActiveSearchOrProposal request.userId with
    | some coalesced => return coalesced
    | none =>
      if ← tryAcquireStartSearchLock request.userId request.requestId then startWithLock request
      else pollStartSearchLock request polls

/-- `polls` is the number of rounds for which the clock lets the caller wait. -/
def startFindMatch (polls : ℕ) (request : FindMatchRequest) : M FindMatchResult := do
  match ← getAttempt request.requestId with
  | some existingAttempt => return existingAttempt.toResult
  | none =>
    match ← getSnapshotWithHydration request.userId with
    | none => finishNoMatch request "snapshot_not_found"
    | some _ =>
      match ← issue (.getUserState request.userId) with
      | some .locked =>
        match ← issue (.getUserLastAttempt request.userId) with
        | none => finishNoMatch request "user_unavailable"
        | some lastId =>
          match ← getAttempt lastId with
          | none => finishNoMatch request "user_unavailable"
          | some lockedAttempt =>
            if lockedAttempt.status = .proposed ∧ lockedAttempt.peerUserId.isSome then
              return lockedAttempt.toResult
            else finishNoMatch request "user_unavailable"
      | some .inRoom => finishNoMatch request "user_unavailable"
      | _ =>
        match ← coalesceActiveSearchOrProposal request.userId with
        | some coalescedEarly => return coalescedEarly
        | none => pollStartSearchLock request polls

def getMatchResult (requestId : RequestId) : M FindMatchResult := do
  match ← getAttempt requestId with
  | none => return .noMatch "attempt_not_found"
  | some existingAttempt => return existingAttempt.toResult

/-! ### Pairing -/

/-- The verdict on a pair once both snapshots are there. -/
def scorePair (requesterSnapshot candidateSnapshot : SnapshotUserProfile)
    (mode : CandidateScoringMode) : Option ℤ :=
  if !areGuestPoolCompatible requesterSnapshot candidateSnapshot Host.guestMatchPool then none
  else if !MatchValidator.isBidirectionallyCompatible requesterSnapshot candidateSnapshot then none
  else if mode = .eligibleOnly ∧
      !passesActivityIntentStrictFilter requesterSnapshot candidateSnapshot then none
  else
    let matchScore := MatchScore.calculateBidirectionalScore requesterSnapshot candidateSnapshot
    if mode = .eligibleOnly ∧ !MatchScore.isScoreEligible matchScore then none
    else some matchScore

def scoreCandidate (requesterSnapshot : SnapshotUserProfile) (mode : CandidateScoringMode)
    (candidate : MatchCandidate) : M (Option ScoredMatchCandidate) := do
  if ← isBlockedWithPeer requesterSnapshot.userId candidate.userId then return none
  else
    match ← getSnapshotWithHydration candidate.userId with
    | none => return none
    | some candidateSnapshot =>
      return (scorePair requesterSnapshot candidateSnapshot mode).map fun matchScore =>
        { userId := candidate.userId, matchScore, poolScore := candidate.score }

def scorePoolCandidates (requesterSnapshot : SnapshotUserProfile) (mode : CandidateScoringMode) :
    List MatchCandidate → M (List ScoredMatchCandidate)
  | [] => pure []
  | candidate :: poolCandidates => do
    let row ← scoreCandidate requesterSnapshot mode candidate
    let rows ← scorePoolCandidates requesterSnapshot mode poolCandidates
    return row.toList ++ rows

def proposalRecord (request : FindMatchRequest) (candidate : ScoredMatchCandidate)
    (peerAttemptId : RequestId) (isFallbackMatch : Bool) : PairPendingRecord :=
  let userLow := if request.userId ≤ candidate.userId then request.userId else candidate.userId
  let userHigh := if request.userId ≤ candidate.userId then candidate.userId else request.userId
  { userLow
    userHigh
    attemptLow := if userLow = request.userId then request.requestId else peerAttemptId
    attemptHigh := if userHigh = request.userId then request.requestId else peerAttemptId
    matchScore := candidate.matchScore
    isFallbackMatch
    roomAttemptId := request.requestId }

/-- The writes that open a proposal, made while the pair is locked. -/
def openProposal (request : FindMatchRequest) (candidate : ScoredMatchCandidate)
    (peerAttemptId : RequestId) (isFallbackMatch : Bool) : M FindMatchResult := do
  writePending (proposalRecord request candidate peerAttemptId isFallbackMatch)
  markProposed request.requestId request.userId candidate.userId candidate.matchScore
    isFallbackMatch
  markProposed peerAttemptId candidate.userId request.userId candidate.matchScore isFallbackMatch
  issue (.notifyMatchProposed {
    userA := request.userId
    userB := candidate.userId
    attemptIdA := request.requestId
    attemptIdB := peerAttemptId
    matchScore := candidate.matchScore
    isFallbackMatch })
  return .proposed request.requestId candidate.userId candidate.matchScore isFallbackMatch

/-- Whether the peer's last attempt is an attempt of the peer that still searches. -/
def peerStillSearching (candidate : ScoredMatchCandidate) (peerAttempt : Option AttemptRecord) :
    Bool :=
  peerAttempt.any fun a => a.userId = some candidate.userId ∧ a.status = .searching

/-- Proposes to a candidate that has just been locked together with the
requester, or releases the pair. -/
def pairWithLocked (request : FindMatchRequest) (candidate : ScoredMatchCandidate)
    (isFallbackMatch : Bool) : M (Option FindMatchResult) := do
  match ← issue (.getUserLastAttempt candidate.userId) with
  | none =>
    releasePair request.userId candidate.userId
    stripFromPool candidate.userId
    return none
  | some peerAttemptId =>
    if peerAttemptId = request.requestId then
      releasePair request.userId candidate.userId
      return none
    else
      let peerAttempt ← getAttempt peerAttemptId
      if peerStillSearching candidate peerAttempt then
        let result ← openProposal request candidate peerAttemptId isFallbackMatch
        return some result
      else
        releasePair request.userId candidate.userId
        return none

/-- The first candidate, in rank order, that could be proposed to. -/
def tryPairWithSortedCandidates (request : FindMatchRequest) (isFallbackMatch : Bool) :
    List ScoredMatchCandidate → M (Option FindMatchResult)
  | [] => pure none
  | candidate :: sorted => do
    if ← tryLockPair request.userId candidate.userId request.requestId then
      match ← pairWithLocked request candidate isFallbackMatch with
      | some result => return some result
      | none => tryPairWithSortedCandidates request isFallbackMatch sorted
    else tryPairWithSortedCandidates request isFallbackMatch sorted

/-- One scan of the pool: how many candidates it had, how many of them were
eligible, and the proposal made. -/
structure ScanResult where
  candidateCount : ℕ
  scoredCount : ℕ
  matched : Option FindMatchResult

def scanPool (request : FindMatchRequest) (requesterSnapshot : SnapshotUserProfile)
    (mode : CandidateScoringMode) (isFallbackMatch : Bool) : M ScanResult := do
  let candidates ← getCandidates request.userId requesterSnapshot
  let scoredCandidates ← scorePoolCandidates requesterSnapshot mode candidates
  let deprioritizedPeerSets ← getPeerSetsForRanking request.userId
  let matched ← tryPairWithSortedCandidates request isFallbackMatch
    (rankCandidatesForPairing scoredCandidates deprioritizedPeerSets)
  return {
    candidateCount := candidates.length
    scoredCount := scoredCandidates.length
    matched }

/-- What the retry loop has seen so far. -/
structure Seen where
  foundEligibleCandidate : Bool := false
  poolHadOtherSearchers : Bool := false

def Seen.scan (seen : Seen) (s : ScanResult) : Seen where
  foundEligibleCandidate := seen.foundEligibleCandidate || s.scoredCount ≠ 0
  poolHadOtherSearchers := seen.poolHadOtherSearchers || s.candidateCount ≠ 0

/-- The given number of passes over the pool, unless one makes a proposal. -/
def retryPasses (request : FindMatchRequest) (requesterSnapshot : SnapshotUserProfile)
    (mode : CandidateScoringMode) : ℕ → Seen → M (Option FindMatchResult × Seen)
  | 0, seen => pure (none, seen)
  | passes + 1, seen => do
    let s ← scanPool request requesterSnapshot mode false
    match s.matched with
    | some matched => return (some matched, seen.scan s)
    | none => retryPasses request requesterSnapshot mode passes (seen.scan s)

def tryFallbackMatch (request : FindMatchRequest) (requesterSnapshot : SnapshotUserProfile)
    (strategy : MatchExecutionStrategy) : M (Option FindMatchResult) := do
  let s ← scanPool request requesterSnapshot strategy.fallbackScoringMode true
  return s.matched

/-- The job's last act when nobody could be proposed to. -/
def giveUp (request : FindMatchRequest) (seen : Seen) : M FindMatchResult := do
  let noMatchReason :=
    if seen.poolHadOtherSearchers then "no_compatible_candidate" else "pool_empty"
  markNoMatch request.requestId request.userId noMatchReason
  remove request.userId
  issue (.notifyMatchFailed {
    attemptId := request.requestId
    userId := request.userId
    reason := noMatchReason })
  return .noMatch noMatchReason

def dropRequest (request : FindMatchRequest) (reason : String) : M FindMatchResult := do
  markNoMatch request.requestId request.userId reason
  remove request.userId
  return .noMatch reason

/-- The body of a job whose requester is free to be paired. -/
def searchForPeer (request : FindMatchRequest) (requesterSnapshot : SnapshotUserProfile) :
    M FindMatchResult := do
  let strategy := resolveMatchExecutionStrategy requesterSnapshot
  let totalRetryPasses := MatchConfig.maxRetries + strategy.retryBudget
  let (matched, seen) ← retryPasses request requesterSnapshot strategy.primaryScoringMode
    (totalRetryPasses + 1) {}
  match matched with
  | some matched => return matched
  | none =>
    if seen.foundEligibleCandidate then giveUp request seen
    else
      match ← tryFallbackMatch request requesterSnapshot strategy with
      | some fallbackResult => return fallbackResult
      | none => giveUp request seen

def processMatchRequest (request : FindMatchRequest) : M FindMatchResult := do
  match ← getAttempt request.requestId with
  | none => return .noMatch "attempt_not_found"
  | some existingAttempt =>
    if existingAttempt.status ≠ .searching then return existingAttempt.toResult
    else
      match ← getSnapshotWithHydration request.userId with
      | none => dropRequest request "snapshot_not_found"
      | some requesterSnapshot =>
        match ← issue (.getUserState request.userId) with
        | some .inRoom => dropRequest request "user_unavailable"
        | some .locked => return existingAttempt.toResult
        | _ => searchForPeer request requesterSnapshot

/-! ### Proposals -/

def markPairInRoom (userA userB : UserId) : M Unit := do
  stripFromPool userA
  stripFromPool userB
  issue (.delUserLock userA)
  issue (.delUserLock userB)
  issue (.delPairLock (Pair.of userA userB))
  issue (.setUserState userA .inRoom)
  issue (.setUserState userB .inRoom)

/-- A matched last attempt is over when its user leaves the room. -/
def markLeftRoom (userId : UserId) : M Unit := do
  match ← issue (.getUserLastAttempt userId) with
  | none => return ()
  | some requestId =>
    let attempt ← getAttempt requestId
    if attempt.any (·.status = .matched) then markNoMatch requestId userId "left_room"
    else return ()

/-- Clears match state when the user leaves the room. -/
def leaveRoom (userId : UserId) : M Unit := do
  markLeftRoom userId
  stripFromPool userId
  issue (.delUserLock userId)
  issue (.delUserState userId)

/-- The writes by which a proposal ends without a room. -/
def dissolveProposal (pending : PairPendingRecord) (reasonForUserLow reasonForUserHigh : String) :
    M Unit := do
  deletePending pending.userLow pending.userHigh
  releasePair pending.userLow pending.userHigh
  markNoMatch pending.attemptLow pending.userLow reasonForUserLow
  markNoMatch pending.attemptHigh pending.userHigh reasonForUserHigh

/-- Both users are told that the proposal is off. -/
def notifyCancelled (pending : PairPendingRecord) (reasonLow reasonHigh : String) : M Unit := do
  issue (.notifyMatchProposalCancelled {
    userId := pending.userLow
    attemptId := pending.attemptLow
    reason := reasonLow })
  issue (.notifyMatchProposalCancelled {
    userId := pending.userHigh
    attemptId := pending.attemptHigh
    reason := reasonHigh })

def recordSkipBy (pending : PairPendingRecord) (skipByUserId : Option UserId) : M Unit :=
  if skipByUserId = some pending.userLow then recordSkip pending.userLow pending.userHigh
  else if skipByUserId = some pending.userHigh then recordSkip pending.userHigh pending.userLow
  else pure ()

def teardownProposal (pending : PairPendingRecord) (skipByUserId : Option UserId)
    (reasonForUserLow reasonForUserHigh : String) : M Unit := do
  recordSkipBy pending skipByUserId
  dissolveProposal pending reasonForUserLow reasonForUserHigh

inductive Decision
  | connect
  | skip
  deriving DecidableEq

def skipProposal (userId : UserId) (pending : PairPendingRecord) : M (Except String Unit) := do
  let reasonLow := if userId = pending.userLow then "you_skipped" else "peer_skipped"
  let reasonHigh := if userId = pending.userHigh then "you_skipped" else "peer_skipped"
  teardownProposal pending (some userId) reasonLow reasonHigh
  notifyCancelled pending reasonLow reasonHigh
  return .ok ()

/-- The proposal ends because no room could be created. -/
def abandonProposal (pending : PairPendingRecord) : M (Except String Unit) := do
  dissolveProposal pending "room_create_failed" "room_create_failed"
  notifyCancelled pending "room_create_failed" "room_create_failed"
  return .error "room_create_failed"

/-- The writes by which a proposal ends in a room. -/
def enterRoom (pending : PairPendingRecord) (roomId : RoomId) : M Unit := do
  markPairInRoom pending.userLow pending.userHigh
  markMatched pending.attemptLow pending.userLow pending.userHigh roomId pending.matchScore
  markMatched pending.attemptHigh pending.userHigh pending.userLow roomId pending.matchScore
  deletePending pending.userLow pending.userHigh
  recordMatchedPair pending.userLow pending.userHigh

def completeMatch (pending : PairPendingRecord) (roomId : RoomId) : M (Except String Unit) := do
  enterRoom pending roomId
  issue (.notifyMatchCompleted {
    attemptId := pending.roomAttemptId
    userA := pending.userLow
    userB := pending.userHigh
    roomId
    matchScore := pending.matchScore
    isFallbackMatch := pending.isFallbackMatch })
  return .ok ()

def PairPendingRecord.roomInput (pending : PairPendingRecord) : CreateRoomInput where
  attemptId := pending.roomAttemptId
  requesterId := pending.userLow
  peerUserId := pending.userHigh
  timeoutMs := MatchConfig.roomCreateTimeoutMs

/-- The part of the caller elected to create the room. -/
def finalizeProposal (pending : PairPendingRecord) : M (Except String Unit) := do
  match ← issue (.createRoom pending.roomInput) with
  | .failed _ => abandonProposal pending
  | .ok roomId => completeMatch pending roomId

def connectProposal (userId peerUserId : UserId) (pending : PairPendingRecord) :
    M (Except String Unit) := do
  let rc ← recordConnect userId peerUserId userId
  if rc = 0 ∨ rc = 1 then return .ok ()
  else finalizeProposal pending

def respondToMatchProposal (userId : UserId) (attemptId : RequestId) (decision : Decision) :
    M (Except String Unit) := do
  match ← getAttempt attemptId with
  | none => return .error "invalid_attempt"
  | some attempt =>
    if attempt.userId ≠ some userId then return .error "invalid_attempt"
    else
      match attempt.status, attempt.peerUserId with
      | .proposed, some peerUserId =>
        match ← readPending userId peerUserId with
        | none => return .error "proposal_expired"
        | some pending =>
          match decision with
          | .skip => skipProposal userId pending
          | .connect => connectProposal userId peerUserId pending
      | _, _ => return .error "not_in_proposal"

/-- The peer of a proposal that is still open on the attempt's side. -/
def AttemptRecord.proposedPeer (attempt : AttemptRecord) : Option UserId :=
  if attempt.status = .proposed then attempt.peerUserId else none

def cancelProposal (userId : UserId) (pending : PairPendingRecord) : M Unit := do
  let reasonLow :=
    if userId = pending.userLow then "cancelled_by_user" else "proposal_peer_cancelled"
  let reasonHigh :=
    if userId = pending.userHigh then "cancelled_by_user" else "proposal_peer_cancelled"
  teardownProposal pending none reasonLow reasonHigh
  notifyCancelled pending reasonLow reasonHigh

def cancelMatch (userId : UserId) : M Unit := do
  let requestId? ← issue (.getUserLastAttempt userId)
  remove userId
  match requestId? with
  | none => pure ()
  | some requestId =>
    let attempt ← getAttempt requestId
    match attempt.bind (·.proposedPeer) with
    | none => markNoMatch requestId userId "cancelled_by_user"
    | some peerUserId =>
      match ← readPending userId peerUserId with
      | some pending => cancelProposal userId pending
      | none => markNoMatch requestId userId "cancelled_by_user"

/-! ### Asking for the state of a match -/

inductive UserMatchState
  | searching (requestId : RequestId)
  | proposed (requestId : RequestId) (peerUserId : UserId) (matchScore : ℤ)
      (isFallbackMatch : Bool)
  | matched (requestId : RequestId) (roomId : RoomId)
  | idle
  deriving DecidableEq

/-- What an attempt says about its user while it is the last one. -/
def AttemptRecord.userMatchState (attempt : AttemptRecord) : UserMatchState :=
  match attempt.status, attempt.peerUserId, attempt.roomId with
  | .searching, _, _ => .searching attempt.attemptId
  | .proposed, some peerUserId, _ =>
    .proposed attempt.attemptId peerUserId (attempt.matchScore.getD 0) attempt.isFallbackMatch
  | .matched, _, some roomId => .matched attempt.attemptId roomId
  | _, _, _ => .idle

def getUserMatchState (userId : UserId) : M UserMatchState := do
  match ← issue (.getUserLastAttempt userId) with
  | none => return .idle
  | some requestId =>
    match ← getAttempt requestId with
    | none => return .idle
    | some attempt => return attempt.userMatchState

/-! ### Calls -/

/-- The worker's loop, for the given number of rounds. -/
def runLoop : ℕ → M Unit
  | 0 => pure ()
  | rounds + 1 => do
    match ← issue .brpopJob with
    | none => runLoop rounds
    | some job =>
      let _ ← processMatchRequest job
      runLoop rounds

/-- What the service runs against the store: its request handlers and the worker. -/
inductive Op
  | startFindMatch (polls : ℕ) (request : FindMatchRequest)
  | processMatchRequest (request : FindMatchRequest)
  | respondToMatchProposal (userId : UserId) (attemptId : RequestId) (decision : Decision)
  | cancelMatch (userId : UserId)
  | leaveRoom (userId : UserId)
  | runLoop (rounds : ℕ)
  deriving DecidableEq

inductive Outcome
  | search (result : FindMatchResult)
  | response (result : Except String Unit)
  | unit

def Op.prog : Op → M Outcome
  | .startFindMatch polls request => .search <$> Matching.startFindMatch polls request
  | .processMatchRequest request => .search <$> Matching.processMatchRequest request
  | .respondToMatchProposal userId attemptId decision =>
    .response <$> Matching.respondToMatchProposal userId attemptId decision
  | .cancelMatch userId => (fun _ => .unit) <$> Matching.cancelMatch userId
  | .leaveRoom userId => (fun _ => .unit) <$> Matching.leaveRoom userId
  | .runLoop rounds => (fun _ => .unit) <$> Matching.runLoop rounds

/-- The world after a call that nothing interferes with. -/
def Op.after (out : Outside) (w : World) (op : Op) : World := (op.prog.run (exec out) w).2

/-! ### A small instance

Three users and a world outside that answers as the service does in its mock
mode, for the examples that follow a general result. -/

namespace Sample

def ann : UserId := ⟨"ann", by decide⟩
def ben : UserId := ⟨"ben", by decide⟩
def cat : UserId := ⟨"cat", by decide⟩

def annSearch : RequestId := ⟨"ann-search", by decide⟩
def benSearch : RequestId := ⟨"ben-search", by decide⟩
def catSearch : RequestId := ⟨"cat-search", by decide⟩

def mockRoom : RoomId := ⟨"mock-room", by decide⟩

def outside : Outside where
  room _ := .ok mockRoom
  ensureSnapshot _ := (false, none)
  now n := n

abbrev host : Host := Host.exact .guestAndRegistered

/-- Nothing but an empty profile for everybody. -/
def start : World where
  redis := { Redis.empty with snapshot := fun _ => some [] }
  asked := 0

def after (ops : List Op) : World := ops.foldl (@Op.after host outside) start

/-- Ann and Ben search, and the worker proposes them to each other. -/
def proposal : World :=
  after [.startFindMatch 1 ⟨ann, annSearch⟩, .startFindMatch 1 ⟨ben, benSearch⟩, .runLoop 1]

def pair : Pair := Pair.of ann ben

def record : PairPendingRecord where
  userLow := ann
  userHigh := ben
  attemptLow := annSearch
  attemptHigh := benSearch
  matchScore := 29
  isFallbackMatch := true
  roomAttemptId := annSearch

end Sample

end Greetup.Matching
