import Greetup.Rooms.World

/-!
The services that start and end the session of a room.
-/

namespace Greetup.Rooms

open Interleaving

/-! ### Repositories -/

def findRoomById (roomId : RoomId) : M (Option RoomRow) := issue (.findRoom roomId {})

def loadParticipantPresence (roomId : RoomId) : M ParticipantPresence := do
  let activeCount ← issue (.countActiveParticipants roomId)
  let lastLeftAt ← issue (.maxLeftAt roomId)
  return { activeCount, lastLeftAt }

def listAllParticipantUserIds (roomId : RoomId) : M (List UserId) :=
  List.dedup <$> issue (.listParticipantUserIds roomId)

/-- `scheduled` → `live` for the row that was just read. -/
def setRoomLive (roomId : RoomId) (startedAt : ℤ) (existing : Option RoomRow) :
    M (Option RoomRow) :=
  match existing with
  | none => return none
  | some existing => do
      let now ← issue .now
      issue (.updateRoom roomId { status := some .scheduled } (.live startedAt
        (computeRoomExpiryFields
          ⟨⟨existing.scheduledStartAt, existing.scheduledEndAt, existing.advancedOptions⟩, .live⟩
          now)))

def markRoomLive (roomId : RoomId) (startedAt : ℤ) : M (Option RoomRow) := do
  let existing ← issue (.findRoom roomId { status := some .scheduled })
  setRoomLive roomId startedAt existing

/-! ### Ending -/

structure EndLiveRoomSessionOptions where
  preserveScheduledSlot : Option Bool := none
  notifyParticipants : Option Bool := none
  excludeUserIdFromNotify : Option UserId := none

structure EndLiveRoomSessionResult where
  ended : Bool
  alreadyClosed : Bool
  reason : RoomSessionEndReason
  deriving DecidableEq

def shouldPreserveScheduledSlot (room : RoomRow) (reason : RoomSessionEndReason)
    (options : EndLiveRoomSessionOptions) : Bool :=
  match options.preserveScheduledSlot with
  | some preserve => preserve
  | none =>
      if room.roomType ≠ .space || room.scheduledStartAt = none then false
      else reason ≠ .deleteSpaceAfterCall && reason ≠ .matchFinalized

def deleteSessionRoomRedis (roomId : RoomId) : M Unit := issue (.delSessionRoom roomId)

def clearUserActiveRtcRooms : List UserId → M Unit
  | [] => return ()
  | userId :: userIds => do
      issue (.clearUserActiveRtcRoom userId)
      clearUserActiveRtcRooms userIds

def notifyRtcServiceSfuRoomTeardown (roomId : RoomId) : M Unit :=
  issue (.send (.sfuRoomTeardown roomId))

def emitToUsers (event : SpaceRoomEvent) (roomId : RoomId) : List UserId → M Unit
  | [] => return ()
  | userId :: userIds => do
      issue (.send (.emitToUser userId event roomId))
      emitToUsers event roomId userIds

def notifySpaceParticipantsToLeave (roomId : RoomId) (hostUserId : UserId)
    (excludeUserId : Option UserId) : M Unit := do
  let userIds ← listAllParticipantUserIds roomId
  emitToUsers .hostEndedForEveryone roomId
    (userIds.filter fun userId => userId ≠ hostUserId && some userId ≠ excludeUserId)

/-- The other participants of a closed space are told to leave. -/
def notifyIfSpace (room : RoomRow) (reason : RoomSessionEndReason)
    (options : EndLiveRoomSessionOptions) : M Unit :=
  if options.notifyParticipants.getD (room.roomType = .space && reason ≠ .matchFinalized) &&
      room.roomType = .space then
    notifySpaceParticipantsToLeave room.id room.hostUserId options.excludeUserIdFromNotify
  else return ()

def afterTransition (room : RoomRow) (reason : RoomSessionEndReason)
    (options : EndLiveRoomSessionOptions) (transitioned : Bool) : M Unit :=
  if transitioned then do
    notifyRtcServiceSfuRoomTeardown room.id
    notifyIfSpace room reason options
  else return ()

/-- What is left to do once the transaction is over. -/
def afterTransaction (room : RoomRow) (participantUserIds : List UserId)
    (reason : RoomSessionEndReason) (options : EndLiveRoomSessionOptions) (transitioned : Bool) :
    M EndLiveRoomSessionResult := do
  deleteSessionRoomRedis room.id
  clearUserActiveRtcRooms participantUserIds
  afterTransition room reason options transitioned
  return { ended := transitioned, alreadyClosed := !transitioned, reason }

/-- Closes the live session of the row that was read. -/
def closeLiveRoomSession (room : RoomRow) (participantUserIds : List UserId)
    (reason : RoomSessionEndReason) (options : EndLiveRoomSessionOptions) :
    M EndLiveRoomSessionResult := do
  let now ← issue .now
  let transitioned ← issue (.endLiveRoomSessionTx
    { roomId := room.id, now, roomType := room.roomType, hostUserId := room.hostUserId
      preserveScheduledSlot := shouldPreserveScheduledSlot room reason options
      scheduledStartAt := room.scheduledStartAt, scheduledEndAt := room.scheduledEndAt
      advancedOptions := room.advancedOptions })
  afterTransaction room participantUserIds reason options transitioned

/-- A row that is closed, or not live, only loses its Redis keys. -/
def endSessionOf (room : RoomRow) (participantUserIds : List UserId)
    (reason : RoomSessionEndReason) (options : EndLiveRoomSessionOptions) (now : ℤ) :
    M EndLiveRoomSessionResult :=
  if isDbRoomSessionClosed room now || room.status ≠ .live then do
    deleteSessionRoomRedis room.id
    clearUserActiveRtcRooms participantUserIds
    return { ended := false, alreadyClosed := true, reason }
  else closeLiveRoomSession room participantUserIds reason options

/-- Idempotent: marks active participants left, closes the live session, clears
Redis and the call service. -/
def endLiveRoomSession (roomId : RoomId) (reason : RoomSessionEndReason)
    (options : EndLiveRoomSessionOptions) : M EndLiveRoomSessionResult := do
  match ← findRoomById roomId with
  | none => return { ended := false, alreadyClosed := true, reason }
  | some room =>
      let participantUserIds ← listAllParticipantUserIds roomId
      let now ← issue .now
      endSessionOf room participantUserIds reason options now

/-! ### Reconciling -/

structure ReconcileRoomSessionResult where
  closed : Bool
  alreadyWasClosed : Bool
  reason : Option RoomSessionEndReason
  deriving DecidableEq

/-- The row is not due, but it may have been closed already. -/
def reconcileNotDue (room : RoomRow) (now : ℤ) : M ReconcileRoomSessionResult :=
  if isDbRoomSessionClosed room now && room.status ≠ .live then do
    deleteSessionRoomRedis room.id
    return { closed := true, alreadyWasClosed := true, reason := some .expiresAtPast }
  else return { closed := false, alreadyWasClosed := false, reason := none }

def reconcileJoinGraceMissed (roomId : RoomId) (expired : Bool) : M ReconcileRoomSessionResult :=
  if expired then do
    deleteSessionRoomRedis roomId
    return { closed := true, alreadyWasClosed := false, reason := some .joinGraceMissed }
  else return { closed := false, alreadyWasClosed := true, reason := none }

def reconcileEnded (endReason : RoomSessionEndReason) (endResult : EndLiveRoomSessionResult) :
    ReconcileRoomSessionResult where
  closed := endResult.ended || endResult.alreadyClosed
  alreadyWasClosed := endResult.alreadyClosed && !endResult.ended
  reason := if endResult.ended || endResult.alreadyClosed then some endReason else none

/-- Acts on the end reason of a row. -/
def reconcileDue (room : RoomRow) (endReason : Option RoomSessionEndReason) (now : ℤ) :
    M ReconcileRoomSessionResult :=
  match endReason with
  | none => reconcileNotDue room now
  | some .joinGraceMissed => do
      let expired ← issue (.expireScheduledJoinGraceMissed room.id)
      reconcileJoinGraceMissed room.id expired
  | some endReason => do
      let endResult ← endLiveRoomSession room.id endReason
        { notifyParticipants := some (room.roomType = .space) }
      return reconcileEnded endReason endResult

/-- Join / RTC token / GET room: verify wall-clock rules and end stale live
sessions before access. -/
def reconcileRoomSessionOnAccess (roomId : RoomId) : M ReconcileRoomSessionResult := do
  match ← findRoomById roomId with
  | none => return { closed := false, alreadyWasClosed := true, reason := none }
  | some room =>
      if room.status = .ended || room.status = .cancelled then do
        deleteSessionRoomRedis roomId
        return { closed := true, alreadyWasClosed := true, reason := none }
      else do
        let presence ← loadParticipantPresence roomId
        let now ← issue .now
        reconcileDue room (evaluateRoomSessionEndReason room presence now) now

/-- The message and the reason of a closed session, if it is closed. -/
def assertRoomSessionOpenOnAccess (roomId : RoomId) :
    M (Except (String × Option RoomSessionEndReason) Unit) := do
  let result ← reconcileRoomSessionOnAccess roomId
  if result.closed then return .error (roomSessionClosedMessage result.reason, result.reason)
  else return .ok ()

/-! ### Sweeping -/

structure SweepDueRoomSessionsResult where
  candidates : ℕ
  ended : ℕ
  roomIds : List RoomId
  deriving DecidableEq

/-- Reconciles the candidates in their order; the rooms that were ended. -/
def reconcileCandidates : List RoomId → M (List RoomId)
  | [] => return []
  | roomId :: candidateIds => do
      let result ← reconcileRoomSessionOnAccess roomId
      let endedIds ← reconcileCandidates candidateIds
      return if result.closed && !result.alreadyWasClosed then roomId :: endedIds else endedIds

def sweepDueRoomSessions (maxRooms : ℕ) : M SweepDueRoomSessionsResult := do
  let candidateIds ← issue (.listRoomIdsDueForSessionSweep maxRooms)
  let endedIds ← reconcileCandidates candidateIds
  return { candidates := candidateIds.length, ended := endedIds.length, roomIds := endedIds }

end Greetup.Rooms
