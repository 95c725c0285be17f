import Greetup.Data.SortedSet
import Greetup.Interleaving.Program
import Greetup.Matching.Snapshot
import Greetup.Matching.Location
import Mathlib.Data.Finset.Basic

/-!
The shared store of the matching service and the commands its code issues.

Every constructor of `Cmd` is one Redis command, one Lua script or one call to
the world outside, as it stands in the source; a pipeline is a sequence of
commands, since nothing keeps another client from getting in between. `exec`
says what a command does and what it answers. Room service, main API and clock
answer as an `Outside` pleases.

Expiry is a command too, `expired`, and only an environment thread issues it.
-/

namespace Greetup.Matching

open Greetup.Data Greetup.Interleaving

/-! ### Keys and values -/

/-- `mm:pool:…`, the sorted sets of searching users. -/
inductive PoolKey
  | poolGlobal
  | poolByCountry (countryCode : Text)
  | poolByCity (countryCode citySlug : Text)
  | poolByRegion (countryCode regionSlug : Text)
  deriving DecidableEq

/-- The sets of user ids kept per user. -/
inductive SetKey
  | userSkipPeers (userId : UserId)
  | userMatchedPeers (userId : UserId)
  | userConnectionPeers (userId : UserId)
  | blocksOutgoing (userId : UserId)
  | blocksIncoming (userId : UserId)
  deriving DecidableEq

/-- The text under `mm:pool:loc-meta:{userId}`: what `JSON.stringify` wrote, or
something `JSON.parse` rejects. -/
inductive RawMeta
  | stringified (idx : LocationPoolIndexMeta)
  | corrupt
  deriving DecidableEq

/-- The keys the service sets with a time to live. -/
inductive ExpiringKey
  | userLock (userId : UserId)
  | pairLock (pair : Pair)
  | pairPending (pair : Pair)
  | attempt (attemptId : RequestId)
  | userLastAttempt (userId : UserId)
  | userStartSearchLock (userId : UserId)
  deriving DecidableEq

/-- The contents of Redis, one field per key family. -/
structure Redis where
  snapshot : UserId → Option JsonRecord
  pool : PoolKey → SortedSet UserId
  poolUserLocationMeta : UserId → Option RawMeta
  userState : UserId → Option MatchState
  userLock : UserId → Option RequestId
  pairLock : Pair → Option RequestId
  pairPending : Pair → Option PendingHash
  pairConnectFinalize : Pair → Bool
  sets : SetKey → Finset UserId
  matchJobQueue : List FindMatchRequest
  attempt : RequestId → Option AttemptHash
  userLastAttempt : UserId → Option RequestId
  userStartSearchLock : UserId → Option RequestId

def Redis.empty : Redis where
  snapshot _ := none
  pool _ := .empty
  poolUserLocationMeta _ := none
  userState _ := none
  userLock _ := none
  pairLock _ := none
  pairPending _ := none
  pairConnectFinalize _ := false
  sets _ := ∅
  matchJobQueue := []
  attempt _ := none
  userLastAttempt _ := none
  userStartSearchLock _ := none

/-- The store, and how many questions the outside world has answered. -/
structure World where
  redis : Redis
  asked : ℕ

/-- The answers of the outside world, in the order in which it is asked. -/
structure Outside where
  room : ℕ → CreateRoomResult
  /-- What the main API answers to ensure-profile-snapshot, and the snapshot it
  writes, if any. -/
  ensureSnapshot : ℕ → Bool × Option JsonRecord
  now : ℕ → ℕ

/-! ### Commands -/

inductive Cmd
  -- profile snapshots
  | getSnapshot (userId : UserId)
  | mgetSnapshots (userIds : List UserId)
  -- the pool
  | zadd (key : PoolKey) (score : ℕ) (userId : UserId)
  | zrem (key : PoolKey) (userId : UserId)
  | zrevrange (key : PoolKey) (limit : ℕ)
  | getPoolUserLocationMeta (userId : UserId)
  | setPoolUserLocationMeta (userId : UserId) (idx : LocationPoolIndexMeta)
  | delPoolUserLocationMeta (userId : UserId)
  -- user states
  | getUserState (userId : UserId)
  | mgetUserStates (userIds : List UserId)
  | setUserState (userId : UserId) (state : MatchState)
  | delUserState (userId : UserId)
  -- pair locks
  | lockPair (pair : Pair) (attemptId : RequestId)
  | delPairLock (pair : Pair)
  | delUserLock (userId : UserId)
  -- pending proposals
  | hsetPending (pair : Pair) (record : PairPendingRecord)
  | expirePending (pair : Pair)
  | hgetallPending (pair : Pair)
  | delPending (pair : Pair)
  | recordProposalConnect (pair : Pair) (field : Side)
  -- attempts
  | hgetallAttempt (attemptId : RequestId)
  | hsetAttempt (attemptId : RequestId) (fields : AttemptHash)
  | expireAttempt (attemptId : RequestId)
  | getUserLastAttempt (userId : UserId)
  | setUserLastAttempt (userId : UserId) (attemptId : RequestId)
  -- starting a search
  | setStartSearchLockNX (userId : UserId) (requestId : RequestId)
  | getStartSearchLock (userId : UserId)
  | delStartSearchLock (userId : UserId)
  | lpushJob (request : FindMatchRequest)
  | brpopJob
  -- peer sets
  | sadd (key : SetKey) (userId : UserId)
  | expireSet (key : SetKey)
  | smembers (key : SetKey)
  | sismember (key : SetKey) (userId : UserId)
  -- the world outside
  | dateNow
  | createRoom (input : CreateRoomInput)
  | requestEnsureProfileSnapshot (userId : UserId)
  | notifyMatchFailed (payload : MatchFailedPayload)
  | notifyMatchProposed (payload : MatchProposedPayload)
  | notifyMatchProposalCancelled (payload : MatchProposalCancelledPayload)
  | notifyMatchCompleted (payload : MatchCompletedPayload)
  | warnLockWaitExhausted (request : FindMatchRequest)
  -- the environment
  | expired (key : ExpiringKey)

@[reducible] def Cmd.Reply : Cmd → Type
  | .getSnapshot _ => Option JsonRecord
  | .mgetSnapshots _ => List (Option JsonRecord)
  | .zrevrange _ _ => List MatchCandidate
  | .getPoolUserLocationMeta _ => Option RawMeta
  | .getUserState _ => Option MatchState
  | .mgetUserStates _ => List (Option MatchState)
  | .lockPair _ _ => Bool
  | .hgetallPending _ => Option PendingHash
  | .recordProposalConnect _ _ => ℕ
  | .hgetallAttempt _ => Option AttemptHash
  | .getUserLastAttempt _ => Option RequestId
  | .setStartSearchLockNX _ _ => Bool
  | .getStartSearchLock _ => Option RequestId
  | .brpopJob => Option FindMatchRequest
  | .smembers _ => Finset UserId
  | .sismember _ _ => Bool
  | .dateNow => ℕ
  | .createRoom _ => CreateRoomResult
  | .requestEnsureProfileSnapshot _ => Bool
  | _ => Unit

/-! ### What a command does -/

namespace Redis

variable (r : Redis)

/-- Whether the script `lockPair` finds both users free and searching. -/
def Lockable (pair : Pair) : Prop :=
  pair.low ≠ pair.high ∧ r.pairLock pair = none ∧ r.userLock pair.low = none ∧
    r.userLock pair.high = none ∧
    r.userState pair.low = some .searching ∧ r.userState pair.high = some .searching

instance (pair : Pair) : Decidable (r.Lockable pair) :=
  inferInstanceAs (Decidable (_ ∧ _ ∧ _ ∧ _ ∧ _ ∧ _))

/-- The writes of the script `lockPair`. -/
def lock (pair : Pair) (attemptId : RequestId) : Redis :=
  { r with
    userLock := Function.update (Function.update r.userLock pair.low (some attemptId))
      pair.high (some attemptId)
    pairLock := Function.update r.pairLock pair (some attemptId)
    userState := Function.update (Function.update r.userState pair.low (some .locked))
      pair.high (some .locked) }

/-- The pending hash after `HSET key field "1"`, which creates a missing key. -/
def connect (pair : Pair) (field : Side) : PendingHash :=
  ((r.pairPending pair).getD {}).connect field

/-- The key's time to live has run out. -/
def expire : ExpiringKey → Redis
  | .userLock u => { r with userLock := Function.update r.userLock u none }
  | .pairLock p => { r with pairLock := Function.update r.pairLock p none }
  | .pairPending p => { r with pairPending := Function.update r.pairPending p none }
  | .attempt a => { r with attempt := Function.update r.attempt a none }
  | .userLastAttempt u => { r with userLastAttempt := Function.update r.userLastAttempt u none }
  | .userStartSearchLock u =>
    { r with userStartSearchLock := Function.update r.userStartSearchLock u none }

end Redis

/-- The script `recordProposalConnect`: set this side's flag; once both are set,
the first caller gets the finalize key and the answer 2, later ones get 1. -/
def Redis.vote (r : Redis) (pair : Pair) (field : Side) : ℕ × Redis :=
  let hash := r.connect pair field
  let r := { r with pairPending := Function.update r.pairPending pair (some hash) }
  if hash.connectLow ∧ hash.connectHigh then
    if r.pairConnectFinalize pair then (1, r)
    else (2, { r with
      pairConnectFinalize := Function.update r.pairConnectFinalize pair true })
  else (0, r)

/-- A command that only changes the store; it has no answer worth reading. -/
def World.modify (w : World) (f : Redis → Redis) : Unit × World :=
  ((), { w with redis := f w.redis })

section Exec

variable (out : Outside)

/-- One atomic step: the answer to a command and the world after it. -/
def exec : (c : Cmd) → World → c.Reply × World
  | .getSnapshot u, w => (w.redis.snapshot u, w)
  | .mgetSnapshots us, w => (us.map w.redis.snapshot, w)
  | .zrevrange key limit, w =>
    (((w.redis.pool key).first limit).map fun e => ⟨e.2, e.1⟩, w)
  | .getPoolUserLocationMeta u, w => (w.redis.poolUserLocationMeta u, w)
  | .getUserState u, w => (w.redis.userState u, w)
  | .mgetUserStates us, w => (us.map w.redis.userState, w)
  | .lockPair p a, w =>
    if w.redis.Lockable p then (true, { w with redis := w.redis.lock p a }) else (false, w)
  | .hgetallPending p, w => (w.redis.pairPending p, w)
  | .recordProposalConnect p field, w =>
    ((w.redis.vote p field).1, { w with redis := (w.redis.vote p field).2 })
  | .hgetallAttempt a, w => (w.redis.attempt a, w)
  | .getUserLastAttempt u, w => (w.redis.userLastAttempt u, w)
  | .setStartSearchLockNX u a, w =>
    if w.redis.userStartSearchLock u = none then
      (true, { w with redis := { w.redis with
        userStartSearchLock := Function.update w.redis.userStartSearchLock u (some a) } })
    else (false, w)
  | .getStartSearchLock u, w => (w.redis.userStartSearchLock u, w)
  | .brpopJob, w =>
    (w.redis.matchJobQueue.getLast?,
      { w with redis := { w.redis with matchJobQueue := w.redis.matchJobQueue.dropLast } })
  | .smembers key, w => (w.redis.sets key, w)
  | .sismember key u, w => (decide (u ∈ w.redis.sets key), w)
  | .dateNow, w => (out.now w.asked, { w with asked := w.asked + 1 })
  | .createRoom _, w => (out.room w.asked, { w with asked := w.asked + 1 })
  | .requestEnsureProfileSnapshot u, w =>
    ((out.ensureSnapshot w.asked).1,
      { asked := w.asked + 1
        redis := { w.redis with
          snapshot :=
            match (out.ensureSnapshot w.asked).2 with
            | none => w.redis.snapshot
            | some raw => Function.update w.redis.snapshot u (some raw) } })
  | .zadd key score u, w => w.modify fun r =>
    { r with pool := Function.update r.pool key ((r.pool key).insert score u) }
  | .zrem key u, w => w.modify fun r =>
    { r with pool := Function.update r.pool key ((r.pool key).erase u) }
  | .setPoolUserLocationMeta u idx, w => w.modify fun r =>
    { r with poolUserLocationMeta :=
        Function.update r.poolUserLocationMeta u (some (.stringified idx)) }
  | .delPoolUserLocationMeta u, w => w.modify fun r =>
    { r with poolUserLocationMeta := Function.update r.poolUserLocationMeta u none }
  | .setUserState u state, w => w.modify fun r =>
    { r with userState := Function.update r.userState u (some state) }
  | .delUserState u, w => w.modify fun r =>
    { r with userState := Function.update r.userState u none }
  | .delPairLock p, w => w.modify fun r =>
    { r with pairLock := Function.update r.pairLock p none }
  | .delUserLock u, w => w.modify fun r =>
    { r with userLock := Function.update r.userLock u none }
  | .hsetPending p record, w => w.modify fun r =>
    { r with pairPending := Function.update r.pairPending p (some { record := some record }) }
  | .delPending p, w => w.modify fun r =>
    { r with
      pairPending := Function.update r.pairPending p none
      pairConnectFinalize := Function.update r.pairConnectFinalize p false }
  | .hsetAttempt a fields, w => w.modify fun r =>
    { r with attempt :=
        Function.update r.attempt a (some (((r.attempt a).getD {}).hset fields)) }
  | .setUserLastAttempt u a, w => w.modify fun r =>
    { r with userLastAttempt := Function.update r.userLastAttempt u (some a) }
  | .delStartSearchLock u, w => w.modify fun r =>
    { r with userStartSearchLock := Function.update r.userStartSearchLock u none }
  | .lpushJob request, w => w.modify fun r =>
    { r with matchJobQueue := request :: r.matchJobQueue }
  | .sadd key u, w => w.modify fun r =>
    { r with sets := Function.update r.sets key (insert u (r.sets key)) }
  | .expirePending _, w => ((), w)
  | .expireAttempt _, w => ((), w)
  | .expireSet _, w => ((), w)
  | .notifyMatchFailed _, w => ((), w)
  | .notifyMatchProposed _, w => ((), w)
  | .notifyMatchProposalCancelled _, w => ((), w)
  | .notifyMatchCompleted _, w => ((), w)
  | .warnLockWaitExhausted _, w => ((), w)
  | .expired key, w => w.modify fun r => r.expire key

end Exec

end Greetup.Matching
