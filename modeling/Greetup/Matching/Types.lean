import Greetup.Matching.Host
import Mathlib.Data.String.Basic
import Mathlib.Order.Basic

/-!
The records of the matching service: requests and results, attempts, pending
proposals, webhook payloads, and the configuration constants that its
operations read.
-/

namespace Greetup.Matching

abbrev UserId := Text
abbrev RequestId := Text
abbrev RoomId := Text

structure FindMatchRequest where
  userId : UserId
  requestId : RequestId
  deriving DecidableEq

inductive FindMatchResult
  | matched (roomId : RoomId) (peerUserId : UserId) (matchScore : ℤ)
  | proposed (requestId : RequestId) (peerUserId : UserId) (matchScore : ℤ)
      (isFallbackMatch : Bool)
  | searching (retryAfterMs : ℕ) (requestId : RequestId)
  | noMatch (reason : String)
  deriving DecidableEq

/-- `user:profile:snapshot:{userId}`, parsed. -/
structure SnapshotUserProfile where
  userId : UserId
  filters : JsonRecord
  attributes : JsonRecord

/-- The values of `mm:state:{userId}` that the service writes or tests. -/
inductive MatchState
  | searching
  | locked
  | inRoom
  deriving DecidableEq, Repr

structure MatchCandidate where
  userId : UserId
  score : ℕ
  deriving DecidableEq

structure ScoredMatchCandidate where
  userId : UserId
  matchScore : ℤ
  poolScore : ℕ
  deriving DecidableEq

/-! ### Attempts -/

inductive AttemptStatus
  | searching
  | proposed
  | matched
  | noMatch
  deriving DecidableEq, Repr

structure AttemptRecord where
  attemptId : RequestId
  userId : Option UserId
  status : AttemptStatus
  roomId : Option RoomId
  peerUserId : Option UserId
  matchScore : Option ℤ
  isFallbackMatch : Bool
  reason : Option String
  deriving DecidableEq

/-- The fields of the hash `mm:attempt:{attemptId}` that are ever read back. The
attempt id is the key itself. -/
structure AttemptHash where
  userId : Option UserId := none
  status : Option AttemptStatus := none
  roomId : Option RoomId := none
  peerUserId : Option UserId := none
  matchScore : Option ℤ := none
  isFallbackMatch : Option Bool := none
  reason : Option String := none
  deriving DecidableEq

/-- `HSET`: the given fields replace the old ones, the others stay. -/
def AttemptHash.hset (old new : AttemptHash) : AttemptHash where
  userId := new.userId <|> old.userId
  status := new.status <|> old.status
  roomId := new.roomId <|> old.roomId
  peerUserId := new.peerUserId <|> old.peerUserId
  matchScore := new.matchScore <|> old.matchScore
  isFallbackMatch := new.isFallbackMatch <|> old.isFallbackMatch
  reason := new.reason <|> old.reason

def parseAttemptRecord (payload : AttemptHash) (attemptId : RequestId) : AttemptRecord where
  attemptId := attemptId
  userId := payload.userId
  status := payload.status.getD .searching
  roomId := payload.roomId
  peerUserId := payload.peerUserId
  matchScore := payload.matchScore
  isFallbackMatch := payload.isFallbackMatch.getD false
  reason := payload.reason

/-! ### Pairs and proposals -/

/-- Two user ids in the order in which every pair key is built. -/
@[ext] structure Pair where
  low : UserId
  high : UserId
  ordered : low ≤ high
  deriving DecidableEq

/-- `orderedUserIds`, `ordered` and the `sort()` of the key builders. -/
def Pair.of (a b : UserId) : Pair :=
  if h : a ≤ b then ⟨a, b, h⟩ else ⟨b, a, le_of_lt (lt_of_not_ge h)⟩

theorem Pair.of_low_high (p : Pair) : Pair.of p.low p.high = p := by
  simp only [Pair.of, p.ordered, dite_true]

instance : Membership UserId Pair := ⟨fun p u => u = p.low ∨ u = p.high⟩

theorem Pair.mem_iff {p : Pair} {u : UserId} : u ∈ p ↔ u = p.low ∨ u = p.high := Iff.rfl

instance (p : Pair) (u : UserId) : Decidable (u ∈ p) :=
  inferInstanceAs (Decidable (u = p.low ∨ u = p.high))

theorem Pair.mem_of {a b u : UserId} : u ∈ Pair.of a b ↔ u = a ∨ u = b := by
  by_cases h : a ≤ b
  · simp [Pair.of, h, Pair.mem_iff]
  · simp [Pair.of, h, Pair.mem_iff, or_comm]

structure PairPendingRecord where
  userLow : UserId
  userHigh : UserId
  attemptLow : RequestId
  attemptHigh : RequestId
  matchScore : ℤ
  isFallbackMatch : Bool
  roomAttemptId : RequestId
  deriving DecidableEq

inductive Side
  | connectLow
  | connectHigh
  deriving DecidableEq, Repr

/-- The hash `mm:pair:pending:{low}:{high}`: the seven record fields are only
ever written together, the two connect flags one at a time. -/
structure PendingHash where
  record : Option PairPendingRecord := none
  connectLow : Bool := false
  connectHigh : Bool := false
  deriving DecidableEq

def PendingHash.connect (h : PendingHash) : Side → PendingHash
  | .connectLow => { h with connectLow := true }
  | .connectHigh => { h with connectHigh := true }

def PendingHash.connected (h : PendingHash) : Side → Bool
  | .connectLow => h.connectLow
  | .connectHigh => h.connectHigh

/-- The flag of the pair's user `u`. -/
def Pair.side (p : Pair) (u : UserId) : Side := if u = p.low then .connectLow else .connectHigh

def Side.other : Side → Side
  | .connectLow => .connectHigh
  | .connectHigh => .connectLow

/-! ### Rooms and webhooks -/

structure CreateRoomInput where
  attemptId : RequestId
  requesterId : UserId
  peerUserId : UserId
  timeoutMs : ℕ
  deriving DecidableEq

inductive CreateRoomResult
  | ok (roomId : RoomId)
  | failed (reason : String)
  deriving DecidableEq

structure MatchCompletedPayload where
  attemptId : RequestId
  userA : UserId
  userB : UserId
  roomId : RoomId
  matchScore : ℤ
  isFallbackMatch : Bool
  deriving DecidableEq

structure MatchFailedPayload where
  attemptId : RequestId
  userId : UserId
  reason : String
  deriving DecidableEq

structure MatchProposedPayload where
  userA : UserId
  userB : UserId
  attemptIdA : RequestId
  attemptIdB : RequestId
  matchScore : ℤ
  isFallbackMatch : Bool
  deriving DecidableEq

structure MatchProposalCancelledPayload where
  userId : UserId
  attemptId : RequestId
  reason : String
  deriving DecidableEq

/-! ### Constants -/

namespace MatchConfig

def roomCreateTimeoutMs : ℕ := 7000
def maxRetries : ℕ := 3
def candidateBatchSize : ℕ := 25
/-- Most members read when scanning one pool key. -/
def poolScanLimit : ℕ := 100
/-- Wider global fetch for the foreign-first order. -/
def poolGlobalSortFetch : ℕ := 120

end MatchConfig

/-- `searchingWithRequestId`. -/
def searchingWithRequestId (requestId : RequestId) : FindMatchResult := .searching 1000 requestId

/-- `MatchAttemptRepository.toResult`. -/
def AttemptRecord.toResult (record : AttemptRecord) : FindMatchResult :=
  match record.status, record.roomId, record.peerUserId with
  | .matched, some roomId, some peerUserId =>
    .matched roomId peerUserId (record.matchScore.getD 0)
  | .proposed, _, some peerUserId =>
    .proposed record.attemptId peerUserId (record.matchScore.getD 0) record.isFallbackMatch
  | .noMatch, _, _ => .noMatch (record.reason.getD "no_match")
  | _, _, _ => .searching 1000 record.attemptId

end Greetup.Matching
