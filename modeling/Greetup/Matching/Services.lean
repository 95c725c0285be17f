import Greetup.Matching.Redis

/-!
The services the orchestrator is built from: attempts, pair locks, pending
proposals, the start-search lock, the job queue and the peer sets. Each is a
short program of Redis commands.
-/

namespace Greetup.Matching

open Greetup.Interleaving Prog

/-- A handler of the matching service. -/
abbrev M := Prog Cmd Cmd.Reply

/-- Issue one command. -/
abbrev issue (c : Cmd) : M c.Reply := perform c

/-! ### Attempts -/

def getAttempt (attemptId : RequestId) : M (Option AttemptRecord) := do
  let raw ← issue (.hgetallAttempt attemptId)
  return raw.map (parseAttemptRecord · attemptId)

/-- What every writer of an attempt does: set the fields, renew the attempt's
time to live, make it the user's last attempt. -/
def putAttempt (attemptId : RequestId) (userId : UserId) (fields : AttemptHash) : M Unit := do
  issue (.hsetAttempt attemptId { fields with userId := some userId })
  issue (.expireAttempt attemptId)
  issue (.setUserLastAttempt userId attemptId)

def setSearching (attemptId : RequestId) (userId : UserId) : M Unit :=
  putAttempt attemptId userId { status := some .searching }

def markProposed (attemptId : RequestId) (userId peerUserId : UserId) (matchScore : ℤ)
    (isFallbackMatch : Bool) : M Unit :=
  putAttempt attemptId userId {
    status := some .proposed
    peerUserId := some peerUserId
    matchScore := some matchScore
    isFallbackMatch := some isFallbackMatch }

def markMatched (attemptId : RequestId) (userId peerUserId : UserId) (roomId : RoomId)
    (matchScore : ℤ) : M Unit :=
  putAttempt attemptId userId {
    status := some .matched
    peerUserId := some peerUserId
    matchScore := some matchScore
    roomId := some roomId }

def markNoMatch (attemptId : RequestId) (userId : UserId) (reason : String) : M Unit :=
  putAttempt attemptId userId { status := some .noMatch, reason := some reason }

/-! ### Pair locks -/

def tryLockPair (userA userB : UserId) (attemptId : RequestId) : M Bool :=
  issue (.lockPair (Pair.of userA userB) attemptId)

def releasePair (userA userB : UserId) : M Unit := do
  let pair := Pair.of userA userB
  issue (.delPairLock pair)
  issue (.delUserLock pair.low)
  issue (.delUserLock pair.high)
  issue (.setUserState pair.low .searching)
  issue (.setUserState pair.high .searching)

/-! ### Pending proposals -/

def writePending (record : PairPendingRecord) : M Unit := do
  let pair := Pair.of record.userLow record.userHigh
  issue (.hsetPending pair record)
  issue (.expirePending pair)

def readPending (userA userB : UserId) : M (Option PairPendingRecord) := do
  let raw ← issue (.hgetallPending (Pair.of userA userB))
  return raw.bind (·.record)

def deletePending (userA userB : UserId) : M Unit :=
  issue (.delPending (Pair.of userA userB))

/-- 0 while waiting for the peer, 1 when the peer is finalizing the room, 2 when
this caller should create it. -/
def recordConnect (userA userB connectingUserId : UserId) : M ℕ := do
  let pair := Pair.of userA userB
  issue (.recordProposalConnect pair (pair.side connectingUserId))

/-! ### Starting a search -/

/-- The result of a search or open proposal that is already under way. -/
def coalesceActiveSearchOrProposal (userId : UserId) : M (Option FindMatchResult) := do
  match ← issue (.getUserLastAttempt userId) with
  | none => return none
  | some lastId =>
    match ← getAttempt lastId with
    | none => return none
    | some last =>
      if last.status = .searching then return some (searchingWithRequestId lastId)
      else if last.status = .proposed ∧ last.peerUserId.isSome then return some last.toResult
      else return none

def tryAcquireStartSearchLock (userId : UserId) (requestId : RequestId) : M Bool :=
  issue (.setStartSearchLockNX userId requestId)

/-- Clears the lock only if this request still owns it. -/
def releaseStartSearchLockIfHolder (userId : UserId) (requestId : RequestId) : M Unit := do
  let holder ← issue (.getStartSearchLock userId)
  if holder = some requestId then issue (.delStartSearchLock userId)

/-! ### Peer sets -/

def recordSkip (skippedByUserId skippedPeerId : UserId) : M Unit := do
  issue (.sadd (.userSkipPeers skippedByUserId) skippedPeerId)
  issue (.expireSet (.userSkipPeers skippedByUserId))

/-- The peers that are tried later: those met before, and after them those skipped. -/
structure DeprioritizedPeerSets where
  known : Finset UserId
  skipped : Finset UserId

def getPeerSetsForRanking (userId : UserId) : M DeprioritizedPeerSets := do
  let skipped ← issue (.smembers (.userSkipPeers userId))
  let matchedMembers ← issue (.smembers (.userMatchedPeers userId))
  let connectionMembers ← issue (.smembers (.userConnectionPeers userId))
  return { known := (matchedMembers ∪ connectionMembers) \ skipped, skipped }

def recordMatchedPair (userA userB : UserId) : M Unit :=
  if userA = userB then pure ()
  else do
    issue (.sadd (.userMatchedPeers userA) userB)
    issue (.expireSet (.userMatchedPeers userA))
    issue (.sadd (.userMatchedPeers userB) userA)
    issue (.expireSet (.userMatchedPeers userB))

/-- True when either user has blocked the other. -/
def isBlockedWithPeer (a b : UserId) : M Bool :=
  if a = b then pure false
  else do
    let outgoing ← issue (.sismember (.blocksOutgoing a) b)
    let incoming ← issue (.sismember (.blocksIncoming a) b)
    return outgoing || incoming

/-- The replies of the pipeline: two for every peer but the requester. -/
def blockReplies (requesterId : UserId) : List UserId → M (List Bool)
  | [] => pure []
  | peerId :: peerIds =>
    if peerId = requesterId then blockReplies requesterId peerIds
    else do
      let outgoing ← issue (.sismember (.blocksOutgoing requesterId) peerId)
      let incoming ← issue (.sismember (.blocksIncoming requesterId) peerId)
      let results ← blockReplies requesterId peerIds
      return outgoing :: incoming :: results

/-- The peers whose replies, from `idx` on, say that they are blocked. -/
def blockedAt (requesterId : UserId) (results : List Bool) : ℕ → List UserId → Finset UserId
  | _, [] => ∅
  | idx, peerId :: peerIds =>
    if peerId = requesterId then blockedAt requesterId results idx peerIds
    else
      let outgoing := results[idx]? = some true
      let incoming := results[idx + 1]? = some true
      let blocked := blockedAt requesterId results (idx + 2) peerIds
      if outgoing ∨ incoming then insert peerId blocked else blocked

/-- The blocked ones among the given peers. -/
def filterBlockedPeers (requesterId : UserId) (peerIds : List UserId) : M (Finset UserId) :=
  if peerIds = [] then pure ∅
  else do
    let results ← blockReplies requesterId peerIds
    return blockedAt requesterId results 0 peerIds

end Greetup.Matching
