import Greetup.Interleaving.Parallel
import Greetup.Rooms.Session

/-!
The services that let a user into a room: starting a scheduled space, joining,
and the token for the call.
-/

namespace Greetup.Rooms

open Interleaving

/-- An error the routes answer with. -/
structure AccessError where
  message : String
  code : String
  statusCode : ℕ
  deriving DecidableEq

/-! ### Starting -/

/-- Space is joinable: everybody in it but the host hears of it. -/
def emitSpaceOpenedForJoin (roomId : RoomId) (excludeUserId : UserId) : M Unit := do
  let userIds ← issue (.listActiveParticipantUserIds roomId)
  emitToUsers .openedForJoin roomId (userIds.filter (· ≠ excludeUserId))

def provisionSessionRoomRedis (room : RoomRow) (hostUserId : UserId) (title : String)
    (lobbyGateActive : Bool) : M Unit :=
  issue (.hsetSessionRoom room.id
    { sessionKind := some .space, roomId := some room.id, hostUserId := some hostUserId
      roomType := some room.roomType, title := some title
      lobbyGateActive := some lobbyGateActive })

/-- Follow-up when a row becomes `live` from `scheduled`; both callers notify
the invitees. -/
def runLiveSpaceAfterMarkLive (room : RoomRow) (hostUserId : UserId) (title : String)
    (lobbyGateActive : Bool) : M Unit := do
  provisionSessionRoomRedis room hostUserId title lobbyGateActive
  if lobbyGateActive then issue (.send (.spaceStarted room.id hostUserId title))
  else do
    emitSpaceOpenedForJoin room.id hostUserId
    issue (.send (.spaceStarted room.id hostUserId title))

/-- The options let a visit start the space once its time has come. -/
def startsLazily (room : RoomRow) (now : ℤ) : Bool :=
  let opts := mergeRoomAdvancedOptions room.advancedOptions
  opts.shouldHostStartMeeting ≠ some true && opts.shouldMeetingAutoStart = some true &&
    room.scheduledStartAt.any (· ≤ now)

def afterLazyStart (room : RoomRow) (row : Option RoomRow) : M Unit :=
  match row with
  | none => return ()
  | some row => runLiveSpaceAfterMarkLive row room.hostUserId room.title false

/-- Starts the row that was read, if it may be started by a visit. -/
def lazyStart (room : RoomRow) (now : ℤ) : M Unit :=
  if room.roomType = .space && room.status = .scheduled && !isDbRoomSessionClosed room now &&
      startsLazily room now then do
    let row ← markRoomLive room.id now
    afterLazyStart room row
  else return ()

/-- Lazy auto-start: on join and on a token request. -/
def maybeAutoStartScheduledSpaceFromDb (roomId : RoomId) : M Unit := do
  match ← findRoomById roomId with
  | none => return ()
  | some room =>
      let now ← issue .now
      lazyStart room now

structure StartRoomSessionError where
  message : String
  code : String
  deriving DecidableEq

def afterHostStart (existing : RoomRow) (hostUserId : UserId) (row : Option RoomRow) :
    M (Except StartRoomSessionError RoomRow) :=
  match row with
  | none => return .error ⟨"Room could not be started (already live or ended)", "INVALID_STATE"⟩
  | some row => do
      runLiveSpaceAfterMarkLive row hostUserId existing.title
        ((mergeRoomAdvancedOptions existing.advancedOptions).shouldHostStartMeeting ≠ some false)
      return .ok row

def hostStart (hostUserId : UserId) (existing : Option RoomRow) :
    M (Except StartRoomSessionError RoomRow) :=
  match existing with
  | none => return .error ⟨"Room not found", "ROOM_NOT_FOUND"⟩
  | some existing =>
      if existing.hostUserId ≠ hostUserId then
        return .error ⟨"Only the host can start this room", "NOT_HOST"⟩
      else if existing.status ≠ .scheduled then
        return .error ⟨"Room is not scheduled or already started", "INVALID_STATE"⟩
      else do
        let now ← issue .now
        let row ← markRoomLive existing.id now
        afterHostStart existing hostUserId row

/-- Host starts a previously scheduled room. -/
def startRoomSessionService (hostUserId : UserId) (roomId : RoomId) :
    M (Except StartRoomSessionError RoomRow) := do
  match ← assertRoomSessionOpenOnAccess roomId with
  | .error (message, _) => return .error ⟨message, "INVALID_STATE"⟩
  | .ok () =>
      let existing ← findRoomById roomId
      hostStart hostUserId existing

/-! ### Ending for everyone -/

structure HostEndResult where
  roomEnded : Bool
  alreadyEnded : Bool
  deriving DecidableEq

def hostEndLive (userId : UserId) (room : RoomRow) : M (Except AccessError HostEndResult) := do
  let result ← endLiveRoomSession room.id .hostEndForEveryone
    { preserveScheduledSlot := some (room.scheduledStartAt ≠ none)
      notifyParticipants := some true
      excludeUserIdFromNotify := some userId }
  issue (.clearUserActiveRtcRoom userId)
  return .ok { roomEnded := result.ended, alreadyEnded := result.alreadyClosed }

def hostEndSpace (userId : UserId) (room : RoomRow) (now : ℤ) :
    M (Except AccessError HostEndResult) :=
  if room.roomType ≠ .space then return .error ⟨"Room not found", "ROOM_NOT_FOUND", 404⟩
  else if room.hostUserId ≠ userId then
    return .error ⟨"Only the host can end this space for everyone", "NOT_HOST", 403⟩
  else if isDbRoomSessionClosed room now then do
    deleteSessionRoomRedis room.id
    issue (.clearUserActiveRtcRoom userId)
    return .ok { roomEnded := false, alreadyEnded := true }
  else if room.status ≠ .live then return .error ⟨"Room is not live", "INVALID_STATE", 400⟩
  else hostEndLive userId room

/-- Host-only: disconnects everyone. -/
def hostEndSpaceForEveryoneService (userId : UserId) (roomId : RoomId) :
    M (Except AccessError HostEndResult) := do
  match ← findRoomById roomId with
  | none => return .error ⟨"Room not found", "ROOM_NOT_FOUND", 404⟩
  | some room =>
      let now ← issue .now
      hostEndSpace userId room now

/-! ### Joining -/

/-- Guests may only enter direct rooms created by matchmaking. -/
def isGuestAllowedRoomAccess (room : RoomRow) : Bool :=
  room.roomType = .direct && room.sessionKind = .match_

def guestNotAllowed : AccessError :=
  ⟨"Sign up or log in to join spaces and connection calls.", "GUEST_NOT_ALLOWED", 403⟩

def assertGuestMayAccessRoom (userId : UserId) (room : RoomRow) : M (Except AccessError Unit) := do
  let isGuest ← issue (.isGuest userId)
  return if isGuest && !isGuestAllowedRoomAccess room then .error guestNotAllowed else .ok ()

structure JoinRoomServiceResult where
  roomId : RoomId
  /-- the caller may issue a token -/
  rtcEligible : Bool
  room : RoomRow
  deriving DecidableEq

def addRow (isHost : Bool) (roomId : RoomId) (userId : UserId) : M Unit :=
  if isHost then issue (.addOrReactivateHostRow roomId userId)
  else issue (.addOrReactivateParticipantRow roomId userId)

def notAllowed : AccessError := ⟨"You are not allowed to join this room", "NOT_ALLOWED", 403⟩

def restricted : AccessError := ⟨"You are not allowed to rejoin this space", "RESTRICTED", 403⟩

/-- The pair of a match, if the hash is that of a match. -/
def matchPair (session : Option SessionRoom) : Option (UserId × UserId) :=
  match session with
  | some { roomId := some _, sessionKind := some .match_, userA := some a, userB := some b, .. } =>
      some (a, b)
  | _ => none

def joinByInvite (roomId : RoomId) (userId : UserId) (invited : Bool) :
    M (Except AccessError Unit) :=
  if invited then .ok <$> addRow false roomId userId else return .error notAllowed

def joinPrivate (room : RoomRow) (userId : UserId) : M (Except AccessError Unit) := do
  let invited ← issue (.findFriendInvite room.id userId)
  joinByInvite room.id userId invited

def joinDirectByPair (room : RoomRow) (userId : UserId) (pair : Option (UserId × UserId)) :
    M (Except AccessError Unit) :=
  match pair.filter fun pair => pair.1 = userId || pair.2 = userId with
  | some pair => .ok <$> addRow (pair.1 = userId) room.id userId
  | none =>
      if room.visibility = .private_ then joinPrivate room userId else return .error notAllowed

def rejoinDirect (room : RoomRow) (userId : UserId) (anyRow : Option ParticipantRow) :
    M (Except AccessError Unit) :=
  match anyRow with
  | some row =>
      if row.leftAt = none then return .ok ()
      else .ok <$> addRow (row.role = .host) room.id userId
  | none => do
      let session ← issue (.hgetallSessionRoom room.id)
      joinDirectByPair room userId (matchPair session)

def ensureDirectRoomParticipation (room : RoomRow) (userId : UserId) :
    M (Except AccessError Unit) :=
  if room.hostUserId = userId then .ok <$> addRow true room.id userId
  else do
    let anyRow ← issue (.findRoomParticipant room.id userId)
    rejoinDirect room userId anyRow

def spaceFull (maxParticipants : ℕ) : AccessError :=
  ⟨s!"This space is full ({maxParticipants} seats including the host).", "ROOM_FULL", 400⟩

def joinSpaceWithSeat (room : RoomRow) (userId : UserId) (n : ℕ) : M (Except AccessError Unit) :=
  if n ≥ room.maxParticipants then return .error (spaceFull room.maxParticipants)
  else if room.visibility = .public_ then .ok <$> addRow false room.id userId
  else joinPrivate room userId

def joinSpaceUnrestricted (room : RoomRow) (userId : UserId) (priorRow : Option ParticipantRow) :
    M (Except AccessError Unit) :=
  if priorRow.isSome then .ok <$> addRow false room.id userId
  else do
    let n ← issue (.countActiveParticipants room.id)
    joinSpaceWithSeat room userId n

def joinSpaceIfAllowed (room : RoomRow) (userId : UserId) (isRestricted : Bool) :
    M (Except AccessError Unit) :=
  if isRestricted then return .error restricted
  else do
    let priorRow ← issue (.findRoomParticipant room.id userId)
    joinSpaceUnrestricted room userId priorRow

def ensureSpaceRoomParticipation (room : RoomRow) (userId : UserId) :
    M (Except AccessError Unit) :=
  if room.hostUserId = userId then .ok <$> addRow true room.id userId
  else do
    let isRestricted ← issue (.isRoomRestrictedUser room.id userId)
    joinSpaceIfAllowed room userId isRestricted

def refreshRow (roomId : RoomId) (row : Option RoomRow) : M Unit :=
  match row with
  | none => return ()
  | some row => do
      let now ← issue .now
      let _ ← issue (.updateRoom roomId { roomType := some .space, status := some .live } (.expiry
        (computeRoomExpiryFields
          ⟨⟨row.scheduledStartAt, row.scheduledEndAt, row.advancedOptions⟩, .live⟩ now)))
      return ()

def refreshLiveSpaceExpiryAfterParticipantJoin (roomId : RoomId) : M Unit := do
  let row ← issue (.findRoom roomId { roomType := some .space, status := some .live })
  refreshRow roomId row

def isActive (row : Option ParticipantRow) : Bool := row.any (·.leftAt = none)

/-- Who is in the room needs no seat. -/
def unlessActive (row : Option ParticipantRow) (seat : M (Except AccessError Unit)) :
    M (Except AccessError Unit) :=
  if isActive row then return .ok () else seat

def joined (room : RoomRow) (rtcEligible : Bool) (seat : Except AccessError Unit) :
    Except AccessError JoinRoomServiceResult :=
  seat.map fun _ => { roomId := room.id, rtcEligible, room }

/-- The lobby of a space that is not live. -/
def joinLobby (room : RoomRow) (userId : UserId) :
    M (Except AccessError JoinRoomServiceResult) := do
  let row ← issue (.findRoomParticipant room.id userId)
  joined room false <$> unlessActive row (ensureSpaceRoomParticipation room userId)

def joinLobbyIfAllowed (room : RoomRow) (userId : UserId) (isRestricted : Bool) :
    M (Except AccessError JoinRoomServiceResult) :=
  if isRestricted then return .error restricted else joinLobby room userId

def refreshIfSeated (roomId : RoomId) :
    Except AccessError Unit → M (Except AccessError Unit)
  | .error error => return .error error
  | .ok () => .ok <$> refreshLiveSpaceExpiryAfterParticipantJoin roomId

def ensureLiveParticipation (room : RoomRow) (userId : UserId) : M (Except AccessError Unit) :=
  if room.roomType = .direct then ensureDirectRoomParticipation room userId
  else do
    let seat ← ensureSpaceRoomParticipation room userId
    refreshIfSeated room.id seat

def joinLive (room : RoomRow) (userId : UserId) : M (Except AccessError JoinRoomServiceResult) := do
  let row ← issue (.findRoomParticipant room.id userId)
  joined room true <$> unlessActive row (ensureLiveParticipation room userId)

/-- Ensures the participant row, once the session is known to be open. -/
def enterRoom (room : RoomRow) (userId : UserId) : M (Except AccessError JoinRoomServiceResult) :=
  if room.roomType = .space && room.status ≠ .live then
    if room.hostUserId = userId then joinLobby room userId
    else do
      let isRestricted ← issue (.isRoomRestrictedUser room.id userId)
      joinLobbyIfAllowed room userId isRestricted
  else if room.status ≠ .live then return .error ⟨"Room is not live yet", "ROOM_NOT_LIVE", 400⟩
  else joinLive room userId

def roomNotFound : AccessError := ⟨"Room not found", "ROOM_NOT_FOUND", 404⟩

/-- A visit to a scheduled space may start it; the row is then read again. -/
def autoStartIfScheduled (roomId : RoomId) (room : RoomRow) : M (Option RoomRow) :=
  if room.roomType = .space && room.status = .scheduled then do
    maybeAutoStartScheduledSpaceFromDb roomId
    findRoomById roomId
  else return some room

def stillOpen (roomId : RoomId) (room : RoomRow) :
    Except (String × Option RoomSessionEndReason) Unit → M (Except AccessError RoomRow)
  | .error (message, _) => return .error ⟨message, "ROOM_EXPIRED", 410⟩
  | .ok () => do
      let again ← findRoomById roomId
      return .ok (again.getD room)

/-- A session that is due is closed; otherwise the row is read again. -/
def assertOpen (roomId : RoomId) (room : RoomRow) : M (Except AccessError RoomRow) := do
  let access ← assertRoomSessionOpenOnAccess roomId
  stillOpen roomId room access

def enterIfOpen (userId : UserId) :
    Except AccessError RoomRow → M (Except AccessError JoinRoomServiceResult)
  | .error error => return .error error
  | .ok room => enterRoom room userId

def joinStarted (userId : UserId) (roomId : RoomId) :
    Option RoomRow → M (Except AccessError JoinRoomServiceResult)
  | none => return .error roomNotFound
  | some room => assertOpen roomId room >>= enterIfOpen userId

def joinAllowed (userId : UserId) (roomId : RoomId) (room : RoomRow) :
    Except AccessError Unit → M (Except AccessError JoinRoomServiceResult)
  | .error error => return .error error
  | .ok () => autoStartIfScheduled roomId room >>= joinStarted userId roomId

def joinFound (userId : UserId) (roomId : RoomId) :
    Option RoomRow → M (Except AccessError JoinRoomServiceResult)
  | none => return .error roomNotFound
  | some room => assertGuestMayAccessRoom userId room >>= joinAllowed userId roomId room

/-- Ensures the `room_participants` row for the call. -/
def joinRoomService (userId : UserId) (roomId : RoomId) :
    M (Except AccessError JoinRoomServiceResult) :=
  findRoomById roomId >>= joinFound userId roomId

/-! ### Tokens -/

/-- The length of a match call with a guest in it. -/
def guestCallMaxDurationMs : ℤ := 10 * 60 * 1000

def computeGuestMatchRoomSessionExpiresAt (liveStartedAt : ℤ) : ℤ :=
  liveStartedAt + guestCallMaxDurationMs

def capRow (roomId : RoomId) (capExpiresAt : ℤ) (row : Option RoomRow) : M Unit :=
  match row with
  | none => return ()
  | some row =>
      if row.expiresAt.any (· ≤ capExpiresAt) then return ()
      else do
        let _ ← issue (.updateRoom roomId {} (.expiry ⟨some capExpiresAt, false⟩))
        return ()

/-- Tightens `expires_at` when the cap is sooner. -/
def applyExpiresAtCapIfSooner (roomId : RoomId) (capExpiresAt : ℤ) : M Unit := do
  let row ← findRoomById roomId
  capRow roomId capExpiresAt row

def capIfGuest (roomId : RoomId) (startedAt : ℤ) (guest : Bool) : M Unit :=
  if guest then
    applyExpiresAtCapIfSooner roomId (computeGuestMatchRoomSessionExpiresAt startedAt)
  else return ()

def capMatch (room : RoomRow) (startedAt : ℤ) : M Unit :=
  if room.roomType ≠ .direct || room.sessionKind ≠ .match_ || room.status ≠ .live then return ()
  else do
    let userIds ← issue (.listParticipantUserIds room.id)
    let guest ← issue (.anyUserIdIsGuest userIds)
    capIfGuest room.id startedAt guest

def capIfStarted (room : Option RoomRow) : M Unit :=
  match room with
  | none => return ()
  | some room => match room.startedAt with
      | none => return ()
      | some startedAt => capMatch room startedAt

/-- Caps a match room with a guest in it. -/
def syncGuestMatchRoomSessionCap (roomId : RoomId) : M Unit := do
  let room ← findRoomById roomId
  capIfStarted room

def restartIfEmpty (roomId : RoomId) (row : RoomRow) (n : ℕ) : M Unit :=
  if n > 0 then return ()
  else do
    let now ← issue .now
    let _ ← issue (.updateRoom roomId {} (.sessionClock now (computeLiveSessionExpiresAt
      ⟨⟨⟨row.scheduledStartAt, row.scheduledEndAt, row.advancedOptions⟩, .live⟩, row.roomType,
        some now⟩)))
    return ()

def restartRow (roomId : RoomId) (row : Option RoomRow) : M Unit :=
  match row with
  | none => return ()
  | some row => do
      let n ← issue (.countActiveParticipants roomId)
      restartIfEmpty roomId row n

def restartLiveSessionClockIfNoActiveParticipants (roomId : RoomId) : M Unit := do
  let row ← issue (.findRoom roomId { status := some .live })
  restartRow roomId row

/-- Still `scheduled`, with the start in the future. -/
def isScheduledSpaceBeforeStartTime (room : RoomRow) (now : ℤ) : Bool :=
  room.roomType = .space && room.status = .scheduled && room.scheduledStartAt.any (now < ·)

structure RtcTokenPayload where
  roomId : RoomId
  roomType : RoomType
  deriving DecidableEq

section Token

variable (turns : List ℕ) (userId : UserId) (roomId : RoomId)

/-- The token is signed first, and returned when everything else is done.
`turns` is the order in which what is started together advances. -/
def finalizeRtcTokenIssue (room : RoomRow) : M (Except AccessError RtcTokenPayload) := do
  issue (.send (.roomConversation roomId room.roomType room.hostUserId))
  issue (.send (.roomConversationParticipant roomId userId))
  Prog.sideBySide turns [
    issue (.send (.consumeGuestCallTrial userId roomId)),
    syncGuestMatchRoomSessionCap roomId,
    issue (.setUserActiveRtcRoom userId roomId)]
  return .ok { roomId := roomId, roomType := room.roomType }

def lobbyWaitingForHost : AccessError :=
  ⟨"The host has not opened the space yet.", "LOBBY_WAITING_FOR_HOST", 403⟩

def tokenThroughGate (room : RoomRow) (gate : Option Bool) :
    M (Except AccessError RtcTokenPayload) :=
  if gate = some true then return .error lobbyWaitingForHost
  else finalizeRtcTokenIssue turns userId roomId room

def tokenIfGateDown (room : RoomRow) (exists_ : Bool) : M (Except AccessError RtcTokenPayload) :=
  if exists_ then do
    let gate ← issue (.hgetLobbyGateActive roomId)
    tokenThroughGate turns userId roomId room gate
  else finalizeRtcTokenIssue turns userId roomId room

/-- The gate of a space whose host has to open it. -/
def tokenForParticipant (room : RoomRow) : M (Except AccessError RtcTokenPayload) :=
  if room.roomType = .space &&
      (mergeRoomAdvancedOptions room.advancedOptions).shouldHostStartMeeting = some true &&
      room.hostUserId ≠ userId then do
    let exists_ ← issue (.existsSessionRoom roomId)
    tokenIfGateDown turns userId roomId room exists_
  else finalizeRtcTokenIssue turns userId roomId room

def tokenIfParticipant (room : RoomRow) (row : Option ParticipantRow) :
    M (Except AccessError RtcTokenPayload) :=
  if room.hostUserId = userId || row.isSome then tokenForParticipant turns userId roomId room
  else return .error notAllowed

def tokenIfUnrestricted (room : RoomRow) (afterJoin isRestricted : Bool) :
    M (Except AccessError RtcTokenPayload) :=
  if isRestricted then return .error restricted
  else if afterJoin then tokenForParticipant turns userId roomId room
  else do
    let row ← issue (.findRoomParticipant roomId userId)
    tokenIfParticipant turns userId roomId room row

def tokenIfLive (room : RoomRow) (afterJoin : Bool) (now : ℤ) :
    M (Except AccessError RtcTokenPayload) :=
  if isScheduledSpaceBeforeStartTime room now then
    return .error ⟨"This space hasn’t opened yet. Try again after the scheduled start time.",
      "LOBBY_NOT_READY", 400⟩
  else if room.status ≠ .live then return .error ⟨"Room is not live yet", "ROOM_NOT_LIVE", 400⟩
  else do
    restartLiveSessionClockIfNoActiveParticipants roomId
    if room.roomType = .space && room.hostUserId ≠ userId then do
      let isRestricted ← issue (.isRoomRestrictedUser roomId userId)
      tokenIfUnrestricted turns userId roomId room afterJoin isRestricted
    else tokenIfUnrestricted turns userId roomId room afterJoin false

/-- The token, once the session is known to be open. -/
def grantRtcToken (afterJoin : Bool) (room : RoomRow) :
    M (Except AccessError RtcTokenPayload) := do
  let now ← issue .now
  tokenIfLive turns userId roomId room afterJoin now

structure IssueRtcTokenOptions where
  /-- the row, if the caller has loaded it -/
  room : Option RoomRow := none
  /-- skips what joining has already checked -/
  afterJoin : Bool := false

def tokenIfOpen : Except AccessError RoomRow → M (Except AccessError RtcTokenPayload)
  | .error error => return .error error
  | .ok room => grantRtcToken turns userId roomId false room

def tokenStarted (room : RoomRow) (again : Option RoomRow) :
    M (Except AccessError RtcTokenPayload) :=
  assertOpen roomId (again.getD room) >>= tokenIfOpen turns userId roomId

def tokenAllowed (room : RoomRow) :
    Except AccessError Unit → M (Except AccessError RtcTokenPayload)
  | .error error => return .error error
  | .ok () => autoStartIfScheduled roomId room >>= tokenStarted turns userId roomId room

def tokenFound (afterJoin : Bool) : Option RoomRow → M (Except AccessError RtcTokenPayload)
  | none => return .error roomNotFound
  | some room =>
      if afterJoin then grantRtcToken turns userId roomId true room
      else assertGuestMayAccessRoom userId room >>= tokenAllowed turns userId roomId room

def loadRoom (roomId : RoomId) : Option RoomRow → M (Option RoomRow)
  | some room => return some room
  | none => findRoomById roomId

/-- The token of the call service; the room must be live. -/
def issueRtcTokenService (options : IssueRtcTokenOptions) :
    M (Except AccessError RtcTokenPayload) :=
  loadRoom roomId options.room >>= tokenFound turns userId roomId options.afterJoin

end Token

end Greetup.Rooms
