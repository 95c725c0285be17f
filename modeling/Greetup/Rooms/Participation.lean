import Greetup.Calls.Service

/-!
The services that take users out of a room, and those that open one to more:
leaving a space or a direct room, being removed, the expansion of a direct room
to a space, and the host's opening of the lobby.
-/

namespace Greetup.Rooms

open Interleaving
open Matching (Text)

def isUserRoomParticipant (roomId : RoomId) (userId : UserId) : M Bool :=
  isActive <$> issue (.findRoomParticipant roomId userId)

/-- Now or before. -/
def wasUserRoomParticipant (roomId : RoomId) (userId : UserId) : M Bool :=
  Option.isSome <$> issue (.findRoomParticipant roomId userId)

/-! ### Leaving a space -/

def resolveDeleteSpaceAfterCall (opts : RoomAdvancedOptions) : Bool :=
  opts.deleteSpaceAfterCall.getD false

/-- What follows the transaction; whether the room was ended. -/
def afterLeave (userId : UserId) (roomId : RoomId) (result : LeaveResult) :
    M (Except AccessError Bool) := do
  issue (.clearUserActiveRtcRoom userId)
  if result.roomEnded then deleteSessionRoomRedis roomId
  if result.lastParticipantLeft then notifyRtcServiceSfuRoomTeardown roomId
  return .ok result.roomEnded

def leaveInactive (userId : UserId) (roomId : RoomId) (httpStrict : Bool) :
    M (Except AccessError Bool) := do
  issue (.clearUserActiveRtcRoom userId)
  if httpStrict then do
    let anyRow ← wasUserRoomParticipant roomId userId
    return if anyRow then .ok false
      else .error ⟨"You are not in this call", "NOT_ACTIVE_PARTICIPANT", 403⟩
  else return .ok false

def leaveLive (userId : UserId) (roomId : RoomId) (room : RoomRow) (httpStrict : Bool)
    (activeBefore : Bool) : M (Except AccessError Bool) :=
  if !activeBefore then leaveInactive userId roomId httpStrict
  else do
    let now ← issue .now
    let result ← issue (.leaveAndMaybeEndRoomTx roomId userId now
      (resolveDeleteSpaceAfterCall (mergeRoomAdvancedOptions room.advancedOptions)))
    afterLeave userId roomId result

def leaveLobby (userId : UserId) (roomId : RoomId) (activeLobby : Bool) :
    M (Except AccessError Bool) := do
  if activeLobby then issue (.markParticipantLeft roomId userId)
  issue (.clearUserActiveRtcRoom userId)
  return .ok false

def leaveSpace (userId : UserId) (roomId : RoomId) (room : RoomRow) (httpStrict : Bool)
    (now : ℤ) : M (Except AccessError Bool) :=
  if isDbRoomSessionClosed room now then do
    deleteSessionRoomRedis roomId
    issue (.clearUserActiveRtcRoom userId)
    return .ok false
  else if room.status = .scheduled then do
    let activeLobby ← isUserRoomParticipant roomId userId
    leaveLobby userId roomId activeLobby
  else if room.status ≠ .live then
    if httpStrict then return .error ⟨"Room is not live", "ROOM_NOT_LIVE", 400⟩
    else do
      issue (.clearUserActiveRtcRoom userId)
      return .ok false
  else do
    let activeBefore ← isUserRoomParticipant roomId userId
    leaveLive userId roomId room httpStrict activeBefore

def leaveFound (userId : UserId) (roomId : RoomId) (httpStrict : Bool) (room : Option RoomRow) :
    M (Except AccessError Bool) :=
  match room.filter (·.roomType = .space) with
  | none => return if httpStrict then .error roomNotFound else .ok false
  | some room => do
      let now ← issue .now
      leaveSpace userId roomId room httpStrict now

/-- Records that the caller has left the space. The last one out ends it, if its
options say so. -/
def leaveSpaceRtcSessionForUser (userId : UserId) (roomId : RoomId) (httpStrict : Bool) :
    M (Except AccessError Bool) := do
  let room ← findRoomById roomId
  leaveFound userId roomId httpStrict room

/-- Never fails. -/
def leaveSpaceRtcSessionInternal (userId : UserId) (roomId : RoomId) : M Unit :=
  (fun _ => ()) <$> leaveSpaceRtcSessionForUser userId roomId false

/-! ### Leaving a direct room -/

def isOtcCallRoom (session : Option SessionRoom) : Bool :=
  session.any (·.openToConnectOrigin = some true)

def isDirectMatch (room : Option RoomRow) : Bool :=
  room.any fun room => room.roomType = .direct && room.sessionKind = .match_

def otcCallEndedTo (roomId : RoomId) (leavingUserId : UserId) (peerUserId : Option UserId) :
    M Bool :=
  match peerUserId with
  | none => return false
  | some peerUserId => do
      issue (.send (.otcCallEnded peerUserId roomId leavingUserId))
      return true

def notifyOtcPeer (roomId : RoomId) (leavingUserId : UserId) (room : Option RoomRow) : M Bool :=
  if !isDirectMatch room then return false
  else do
    let participantIds ← listAllParticipantUserIds roomId
    otcCallEndedTo roomId leavingUserId (participantIds.find? (· ≠ leavingUserId))

def notifyIfOtc (roomId : RoomId) (leavingUserId : UserId) (session : Option SessionRoom) :
    M Bool :=
  if !isOtcCallRoom session then return false
  else do
    let room ← findRoomById roomId
    notifyOtcPeer roomId leavingUserId room

/-- Tells the remaining peer of an open-to-connect call to hang up; whether
there was one to tell. -/
def notifyOtcCallPeerEnded (roomId : RoomId) (leavingUserId : UserId) : M Bool := do
  let session ← issue (.hgetallSessionRoom roomId)
  notifyIfOtc roomId leavingUserId session

def partnerSkippedTo (roomId : RoomId) (peerUserId : Option UserId) : M Unit :=
  match peerUserId with
  | none => return ()
  | some peerUserId => issue (.send (.partnerSkipped peerUserId roomId))

def notifySkipped (roomId : RoomId) (skippingUserId : UserId) (room : Option RoomRow) : M Unit :=
  if !isDirectMatch room then return ()
  else do
    let participantIds ← listAllParticipantUserIds roomId
    partnerSkippedTo roomId (participantIds.find? (· ≠ skippingUserId))

/-- Tells the remaining peer of a match to search again. -/
def notifyMatchPeerSkipped (roomId : RoomId) (skippingUserId : UserId) : M Unit := do
  let room ← findRoomById roomId
  notifySkipped roomId skippingUserId room

def skippedUnless (roomId : RoomId) (leavingUserId : UserId) (otcNotified : Bool) : M Unit :=
  if otcNotified then return () else notifyMatchPeerSkipped roomId leavingUserId

def notifyDirectMatchPeer (roomId : RoomId) (leavingUserId : UserId) : M Unit := do
  let otcNotified ← notifyOtcCallPeerEnded roomId leavingUserId
  skippedUnless roomId leavingUserId otcNotified

def callEndedTo (roomId : RoomId) (leavingUserId : UserId) (peerUserId : Option UserId) : M Unit :=
  match peerUserId with
  | none => return ()
  | some peerUserId => do
      let conversationId ← Calls.resolveConnectionCallConversationId roomId
      issue (.send (.connectionCallEnded peerUserId roomId conversationId leavingUserId))

def notifyCallPeer (roomId : RoomId) (leavingUserId : UserId) (room : Option RoomRow) : M Unit :=
  if !room.any (·.sessionKind = .connectionCall) then return ()
  else do
    let activeParticipantIds ← issue (.listActiveParticipantUserIds roomId)
    callEndedTo roomId leavingUserId (activeParticipantIds.find? (· ≠ leavingUserId))

/-- Tells the remaining peer of a connection call that it has ended. -/
def notifyConnectionCallPeerEnded (roomId : RoomId) (leavingUserId : UserId) : M Unit := do
  let room ← findRoomById roomId
  notifyCallPeer roomId leavingUserId room

/-- Idempotent. -/
def finalizeDirectMatchRoomSession (roomId : RoomId) : M Unit := do
  let _ ← endLiveRoomSession roomId .matchFinalized
    { preserveScheduledSlot := some false, notifyParticipants := some false }
  return ()

/-- Idempotent. -/
def finalizeConnectionCallRoomSession (roomId : RoomId) : M Unit := do
  Calls.finalizeConnectionCallHistory roomId
  let _ ← endLiveRoomSession roomId .connectionCallEnded
    { preserveScheduledSlot := some false, notifyParticipants := some false }
  return ()

/-- The part that follows the match engine, whatever it answers. -/
def leaveRoomOf (userId : UserId) (roomId : RoomId) (room : RoomRow) : M Unit :=
  if room.roomType = .space then leaveSpaceRtcSessionInternal userId roomId
  else if room.sessionKind = .connectionCall then do
    notifyConnectionCallPeerEnded roomId userId
    issue (.markParticipantLeft roomId userId)
    finalizeConnectionCallRoomSession roomId
  else finalizeDirectMatchRoomSession roomId

def leaveRoomIfFound (userId : UserId) (roomId : RoomId) (room : Option RoomRow) : M Unit :=
  match room with
  | none => return ()
  | some room => leaveRoomOf userId roomId room

def leaveMatchEngineUnlessCall (userId : UserId) (room : Option RoomRow) : M Unit :=
  if room.any (·.sessionKind = .connectionCall) then return ()
  else issue (.send (.leaveMatchEngineRoom userId))

def notifyPeerIfMatch (userId : UserId) (roomId : RoomId) (room : Option RoomRow) : M Unit :=
  if isDirectMatch room then notifyDirectMatchPeer roomId userId else return ()

/-- Leaves the room with the id, whatever the row says it is. -/
def leaveRoom (userId : UserId) (roomId : RoomId) : M Unit := do
  let room ← findRoomById roomId
  notifyPeerIfMatch userId roomId room
  leaveMatchEngineUnlessCall userId room
  leaveRoomIfFound userId roomId room
  issue (.clearUserActiveRtcRoom userId)

def resolveExplicitLeaveRoomId (userId : UserId) (explicitRoomId : Option RoomId) :
    M (Option RoomId) :=
  match explicitRoomId with
  | some roomId => return some roomId
  | none => issue (.getUserActiveRtcRoom userId)

def leaveResolved (userId : UserId) (roomId : Option RoomId) : M Unit :=
  match roomId with
  | some roomId => leaveRoom userId roomId
  | none => do
      leaveMatchEngineUnlessCall userId none
      issue (.clearUserActiveRtcRoom userId)

/-- Leaves a direct room: tells the peer, the match engine, and ends the room. -/
def leaveDirectRoomService (userId : UserId) (explicitRoomId : Option RoomId) : M Unit := do
  let roomId ← resolveExplicitLeaveRoomId userId explicitRoomId
  leaveResolved userId roomId

/-! ### Being removed -/

structure RemoveOptions where
  restrict : Bool := false
  socketReason : SpaceParticipantRemovedReason := .hostRemoved
  strikeCount : Option ℕ := none

structure RemoveResult where
  removed : Bool
  restricted : Bool
  deriving DecidableEq

def notRemoved : RemoveResult := ⟨false, false⟩

def restrictIfAsked (roomId : RoomId) (targetUserId : UserId) (restrict : Bool) :
    M RemoveResult :=
  if restrict then do
    issue (.addRoomRestrictedUser roomId targetUserId)
    return ⟨true, true⟩
  else return ⟨true, false⟩

def removeActive (roomId : RoomId) (targetUserId : UserId) (options : RemoveOptions)
    (activeTarget : Bool) : M RemoveResult :=
  if !activeTarget then return notRemoved
  else do
    issue (.markParticipantLeft roomId targetUserId)
    issue (.clearUserActiveRtcRoom targetUserId)
    issue (.send (.kickPeer roomId targetUserId))
    issue (.cancelFriendInviteForRoomInvitee roomId targetUserId)
    issue (.send (.emitToUser targetUserId
      (.participantRemoved options.socketReason options.strikeCount) roomId))
    restrictIfAsked roomId targetUserId options.restrict

def removeOpen (roomId : RoomId) (targetUserId : UserId) (options : RemoveOptions)
    (room : RoomRow) (now : ℤ) : M RemoveResult :=
  if isDbRoomSessionClosed room now then do
    issue (.clearUserActiveRtcRoom targetUserId)
    return notRemoved
  else if room.status ≠ .live then return notRemoved
  else do
    let activeTarget ← isUserRoomParticipant roomId targetUserId
    removeActive roomId targetUserId options activeTarget

def removeFound (roomId : RoomId) (targetUserId : UserId) (options : RemoveOptions)
    (room : Option RoomRow) : M RemoveResult :=
  match room.filter (·.roomType = .space) with
  | none => return notRemoved
  | some room => do
      let now ← issue .now
      removeOpen roomId targetUserId options room now

/-- Removes a user from a live space. Who may do so is up to the callers. -/
def removeSpaceParticipantFromLive (roomId : RoomId) (targetUserId : UserId)
    (options : RemoveOptions) : M RemoveResult := do
  let room ← findRoomById roomId
  removeFound roomId targetUserId options room

def kickActive (roomId : RoomId) (targetUserId : UserId) (restrict activeTarget : Bool) :
    M (Except AccessError RemoveResult) :=
  if !activeTarget then
    return .error ⟨"Participant is not in this call", "TARGET_NOT_FOUND", 404⟩
  else .ok <$> removeSpaceParticipantFromLive roomId targetUserId { restrict }

def kickFound (hostUserId : UserId) (roomId : RoomId) (targetUserId : UserId) (restrict : Bool)
    (room : Option RoomRow) : M (Except AccessError RemoveResult) :=
  match room.filter (·.roomType = .space) with
  | none => return .error roomNotFound
  | some room =>
      if room.hostUserId ≠ hostUserId then
        return .error ⟨"Only the host can remove participants", "NOT_HOST", 403⟩
      else if targetUserId = hostUserId then
        return .error ⟨"You cannot remove yourself from the space", "CANNOT_REMOVE_SELF", 400⟩
      else if targetUserId = room.hostUserId then
        return .error ⟨"The host cannot be removed", "CANNOT_REMOVE_HOST", 400⟩
      else if room.status ≠ .live then
        return .error ⟨"Room is not live", "INVALID_STATE", 400⟩
      else do
        let activeTarget ← isUserRoomParticipant roomId targetUserId
        kickActive roomId targetUserId restrict activeTarget

/-- Host-only. -/
def kickSpaceParticipantService (hostUserId : UserId) (roomId : RoomId) (targetUserId : UserId)
    (restrict : Bool) : M (Except AccessError RemoveResult) := do
  let room ← findRoomById roomId
  kickFound hostUserId roomId targetUserId restrict room

/-! ### Invites into a room -/

structure RespondRoomInviteResult where
  roomId : RoomId
  expanded : Bool
  deriving DecidableEq

def patchIfExists (roomId : RoomId) (session : Option SessionRoom) : M Unit :=
  if session.isSome then
    issue (.hsetSessionRoom roomId { roomType := some .space, sessionKind := some .space })
  else return ()

def patchSessionRoomRedisSpaceExpand (roomId : RoomId) : M Unit := do
  let session ← issue (.hgetallSessionRoom roomId)
  patchIfExists roomId session

def afterExpand (roomId : RoomId) (expanded : Bool) :
    M (Except AccessError RespondRoomInviteResult) :=
  if expanded then do
    patchSessionRoomRedisSpaceExpand roomId
    issue (.send (.roomType roomId .space))
    let notifyIds ← issue (.listActiveParticipantUserIds roomId)
    emitToUsers .becameSpace roomId notifyIds
    return .ok ⟨roomId, true⟩
  else return .error ⟨"This call was already expanded", "ROOM_CHANGED", 409⟩

/-- The invitee comes in: a direct room becomes a space, a space is joined
later. -/
def acceptRoomInvite (invite : FriendInvite) (room : Option RoomRow) :
    M (Except AccessError RespondRoomInviteResult) :=
  match room.filter (·.status = .live) with
  | none => return .error ⟨"Room is no longer available", "ROOM_NOT_LIVE", 400⟩
  | some room =>
      if room.roomType = .space then do
        issue (.setFriendInviteStatus invite.id .accepted)
        return .ok ⟨invite.roomId, true⟩
      else do
        let expanded ← issue (.runExpandDirectAcceptTransaction
          { roomId := invite.roomId, inviteId := invite.id, inviteeUserId := invite.inviteeUserId
            currentMaxParticipants := room.maxParticipants })
        afterExpand invite.roomId expanded

def declineRoomInvite (invite : FriendInvite) : M (Except AccessError RespondRoomInviteResult) := do
  issue (.setFriendInviteStatus invite.id .declined)
  issue (.send (.roomInviteDeclined invite.inviterUserId invite.id invite.roomId
    invite.inviteeUserId))
  return .ok ⟨invite.roomId, false⟩

def respondToRoomInvite (inviteeUserId : UserId) (accept : Bool) (invite : Option FriendInvite) :
    M (Except AccessError RespondRoomInviteResult) :=
  match invite with
  | none => return .error ⟨"Invite not found", "INVITE_NOT_FOUND", 404⟩
  | some invite =>
      if invite.inviteeUserId ≠ inviteeUserId then
        return .error ⟨"This invite is not for you", "NOT_YOUR_INVITE", 403⟩
      else if invite.status ≠ .pending then
        return .error ⟨"This invite is no longer pending", "INVITE_NOT_PENDING", 400⟩
      else if !accept then declineRoomInvite invite
      else do
        let room ← findRoomById invite.roomId
        acceptRoomInvite invite room

def respondRoomInviteService (inviteeUserId : UserId) (inviteId : Text) (accept : Bool) :
    M (Except AccessError RespondRoomInviteResult) := do
  let invite ← issue (.findFriendInviteById inviteId)
  respondToRoomInvite inviteeUserId accept invite

/-! ### Opening the lobby -/

/-- Host opens the space to all participants; the session must be there. -/
def clearGateIfExists (roomId : RoomId) (session : Option SessionRoom) : M Bool :=
  if session.isSome then do
    issue (.hsetSessionRoom roomId { lobbyGateActive := some false })
    return true
  else return false

def clearSpaceLobbyGateInRedis (roomId : RoomId) : M Bool := do
  let session ← issue (.hgetallSessionRoom roomId)
  clearGateIfExists roomId session

def sessionNotReady : AccessError :=
  ⟨"Room session is not ready yet. Try again in a moment.", "SESSION_NOT_READY", 503⟩

def afterGate (userId : UserId) (roomId : RoomId) (opened : Bool) : M (Except AccessError Unit) :=
  if opened then do
    emitSpaceOpenedForJoin roomId userId
    return .ok ()
  else return .error sessionNotReady

def lobbyNotReady : AccessError :=
  ⟨"This space hasn’t opened yet. Try again after the scheduled start time.",
    "LOBBY_NOT_READY", 400⟩

def openMeetingNow (userId : UserId) (roomId : RoomId) (room : RoomRow) (now : ℤ) :
    M (Except AccessError Unit) :=
  if room.status ≠ .live then
    if isScheduledSpaceBeforeStartTime room now then return .error lobbyNotReady
    else return .error ⟨"Room is not live yet", "INVALID_STATE", 400⟩
  else do
    let opened ← clearSpaceLobbyGateInRedis roomId
    afterGate userId roomId opened

def openMeetingFound (userId : UserId) (roomId : RoomId) (room : Option RoomRow) :
    M (Except AccessError Unit) :=
  match room with
  | none => return .error roomNotFound
  | some room =>
      if room.roomType ≠ .space then return .error ⟨"Not a space room", "INVALID_STATE", 400⟩
      else if room.hostUserId ≠ userId then
        return .error ⟨"Only the host can open this space", "NOT_HOST", 403⟩
      else do
        let now ← issue .now
        openMeetingNow userId roomId room now

def openMeetingIfOpen (userId : UserId) (roomId : RoomId) :
    Except (String × Option RoomSessionEndReason) Unit → M (Except AccessError Unit)
  | .error (message, _) => return .error ⟨message, "INVALID_STATE", 410⟩
  | .ok () => do
      let room ← findRoomById roomId
      openMeetingFound userId roomId room

/-- Host-only: lets the others obtain their tokens. -/
def openSpaceMeetingService (userId : UserId) (roomId : RoomId) : M (Except AccessError Unit) := do
  let access ← assertRoomSessionOpenOnAccess roomId
  openMeetingIfOpen userId roomId access

end Greetup.Rooms
