import Greetup.Rooms.Access

/-!
The services of a call between two connections: the caller rings, the callee
accepts or declines, the caller hangs up, or nobody answers.
-/

namespace Greetup.Calls

open Interleaving
open Rooms (UserId RoomId M issue Conversation AccessError Outgoing)

/-! ### History -/

def setActiveConnectionCall (roomId : RoomId) (call : ActiveConnectionCallMeta) : M Unit :=
  issue (.call (.setActiveByRoom roomId call))

def clearActiveConnectionCall (roomId : RoomId) : M Unit :=
  issue (.call (.delActiveByRoom roomId))

/-- How long the call took, if that is a second at least. -/
def durationSec (acceptedAt now : ℤ) : Option ℤ :=
  let seconds := max 0 ((now - acceptedAt) / 1000)
  if seconds > 0 then some seconds else none

def finalizeLogged (roomId : RoomId) (call : ActiveConnectionCallMeta) (logged : Bool) : M Unit :=
  if logged then do
    let now ← issue .now
    issue (.send (.connectionCallHistory call.conversationId call.callerUserId call.mode .completed
      (durationSec call.acceptedAt now)))
    clearActiveConnectionCall roomId
  else return ()

/-- The history of an accepted call, once. -/
def finalizeConnectionCallHistory (roomId : RoomId) : M Unit := do
  match ← issue (.call (.getActiveByRoom roomId)) with
  | none => return ()
  | some call =>
      let logged ← issue (.call (.setHistoryLoggedNX roomId))
      finalizeLogged roomId call logged

def conversationOfPending (requestId : Option RequestId) : M (Option ConversationId) :=
  match requestId with
  | none => return none
  | some requestId => do
      let invite ← issue (.call (.hgetallInvite requestId))
      return invite.bind (·.conversationId)

def conversationOfActive (roomId : RoomId) (call : Option ActiveConnectionCallMeta) :
    M (Option ConversationId) :=
  match call.bind (·.conversationId) with
  | some conversationId => return some conversationId
  | none => do
      let requestId ← issue (.call (.getPendingByRoom roomId))
      conversationOfPending requestId

/-- The conversation of the call in a room, as far as the keys still tell. -/
def resolveConnectionCallConversationId (roomId : RoomId) : M (Option ConversationId) := do
  let call ← issue (.call (.getActiveByRoom roomId))
  conversationOfActive roomId call

/-! ### Invites -/

/-- An invite as it was read; it has an id and a room. -/
structure InviteRecord where
  requestId : RequestId
  roomId : RoomId
  conversationId : Option ConversationId
  callerUserId : Option UserId
  calleeUserId : Option UserId
  mode : ConnectionCallMode
  status : Option InviteStatus
  createdAt : Option ℤ
  deriving DecidableEq

def inviteRecord (raw : InviteHash) : Option InviteRecord :=
  match raw.requestId, raw.roomId with
  | some requestId, some roomId =>
      some
        { requestId, roomId, conversationId := raw.conversationId
          callerUserId := raw.callerUserId, calleeUserId := raw.calleeUserId
          mode := raw.mode.getD .audio, status := raw.status, createdAt := raw.createdAt }
  | _, _ => none

def readInvite (requestId : RequestId) : M (Option InviteRecord) :=
  (·.bind inviteRecord) <$> issue (.call (.hgetallInvite requestId))

def delPendingForCallee (calleeUserId : Option UserId) : M Unit :=
  match calleeUserId with
  | none => return ()
  | some userId => issue (.call (.delPendingForCallee userId))

def cleanupInvite (invite : InviteRecord) : M Unit := do
  issue (.call (.delInvite invite.requestId))
  delPendingForCallee invite.calleeUserId
  issue (.call (.delPendingByRoom invite.roomId))

def finalizeDeclinedRoom (roomId : RoomId) : M Unit := do
  clearActiveConnectionCall roomId
  let _ ← Rooms.endLiveRoomSession roomId .connectionCallEnded
    { preserveScheduledSlot := some false, notifyParticipants := some false }
  return ()

def recordFirst (invite : InviteRecord) (status : ConnectionCallHistoryStatus) (first : Bool) :
    M Unit :=
  if first then
    issue (.send (.connectionCallHistory invite.conversationId invite.callerUserId invite.mode
      status none))
  else return ()

/-- The history of a call that was not accepted, once for each invite. -/
def recordPendingCallOutcome (invite : InviteRecord) (status : ConnectionCallHistoryStatus) :
    M Unit :=
  if invite.conversationId = none then return ()
  else do
    let first ← issue (.call (.setHistoryLoggedForRequestNX invite.requestId status))
    recordFirst invite status first

/-- Nobody hears an event that is for nobody. -/
def emitTo (userId : Option UserId) (message : UserId → Outgoing) : M Unit :=
  match userId with
  | none => return ()
  | some userId => issue (.send (message userId))

def emitSettled (userId : Option UserId) (invite : InviteRecord) (requestId : RequestId)
    (status : InviteStatus) : M Unit :=
  emitTo userId fun userId =>
    .connectionCallSettled userId status requestId invite.roomId invite.calleeUserId

def hsetStatus (requestId : RequestId) (status : InviteStatus) : M Unit :=
  issue (.call (.hsetInvite requestId { status := some status }))

/-- What declining, cancelling, missing and expiring have in common. -/
def closeInvite (requestId : RequestId) (invite : InviteRecord) (status : InviteStatus)
    (outcome : ConnectionCallHistoryStatus) : M Unit := do
  hsetStatus requestId status
  recordPendingCallOutcome invite outcome
  cleanupInvite invite
  finalizeDeclinedRoom invite.roomId

/-- Both hear that the call was missed. -/
def emitMissed (requestId : RequestId) (invite : InviteRecord) : M Unit := do
  emitSettled invite.callerUserId invite requestId .missed
  emitSettled invite.calleeUserId invite requestId .missed

def missInvite (requestId : RequestId) (invite : InviteRecord) : M Unit := do
  closeInvite requestId invite .missed .missed
  emitMissed requestId invite

/-! ### Ringing -/

structure ConnectionCallInitiateResult where
  requestId : RequestId
  roomId : RoomId
  conversationId : Option ConversationId
  calleeUserId : UserId
  mode : ConnectionCallMode
  deriving DecidableEq

def resolveDmPeerUserId (conv : Conversation) (callerUserId : UserId) : Option UserId :=
  if conv.isRoomSpace then none
  else
    match conv.participants.filter (· ≠ callerUserId) with
    | [peerUserId] => some peerUserId
    | _ => none

def invitePending : AccessError := ⟨"They already have an incoming call", "INVITE_PENDING", 409⟩

/-- The fields of a new invite. -/
def newInvite (callerUserId calleeUserId : UserId) (conversationId : ConversationId)
    (mode : ConnectionCallMode) (requestId : RequestId) (roomId : RoomId) (createdAt : ℤ) :
    InviteHash where
  requestId := some requestId
  roomId := some roomId
  conversationId := some conversationId
  callerUserId := some callerUserId
  calleeUserId := some calleeUserId
  mode := some mode
  status := some .pending
  createdAt := some createdAt

def ringIfClaimed (callerUserId calleeUserId : UserId) (conversationId : ConversationId)
    (mode : ConnectionCallMode) (requestId : RequestId) (roomId : RoomId) (createdAt : ℤ)
    (pendingClaimed : Bool) : M (Except AccessError ConnectionCallInitiateResult) :=
  if pendingClaimed then do
    let invite := newInvite callerUserId calleeUserId conversationId mode requestId roomId createdAt
    issue (.call (.setPendingByRoom roomId requestId))
    issue (.call (.hsetInvite requestId invite))
    issue (.send (.connectionCallRing calleeUserId invite))
    return .ok { requestId, roomId, conversationId := some conversationId, calleeUserId, mode }
  else do
    finalizeDeclinedRoom roomId
    return .error invitePending

def provisionConnectionCallSessionRoomRedis (roomId : RoomId) (hostUserId : UserId)
    (conversationId : ConversationId) : M Unit :=
  issue (.hsetSessionRoom roomId
    { sessionKind := some .connectionCall, roomId := some roomId, hostUserId := some hostUserId
      roomType := some .direct, title := some "Call", conversationId := some conversationId
      lobbyGateActive := some false })

def ringNew (callerUserId calleeUserId : UserId) (conversationId : ConversationId)
    (mode : ConnectionCallMode) (category : Bool) :
    M (Except AccessError ConnectionCallInitiateResult) :=
  if !category then return .error ⟨"Call category not configured", "ROOM_NOT_FOUND", 503⟩
  else do
    let requestId ← issue .randomUUID
    let roomId ← issue .randomUUID
    let createdAt ← issue .now
    issue (.createConnectionCallRoom roomId callerUserId)
    provisionConnectionCallSessionRoomRedis roomId callerUserId conversationId
    let pendingClaimed ← issue (.call (.setPendingForCalleeNX calleeUserId requestId))
    ringIfClaimed callerUserId calleeUserId conversationId mode requestId roomId createdAt
      pendingClaimed

/-- The caller's own invite, still pending, rings once more. -/
def ringAgain (callerUserId calleeUserId : UserId) (existing : Option InviteRecord) :
    M (Except AccessError ConnectionCallInitiateResult) :=
  match existing with
  | none => return .error invitePending
  | some existing =>
      if existing.status = some .pending && existing.callerUserId = some callerUserId then do
        issue (.send (.connectionCallRing calleeUserId
          { requestId := some existing.requestId, roomId := some existing.roomId
            conversationId := existing.conversationId, callerUserId := some callerUserId
            calleeUserId := existing.calleeUserId, mode := some existing.mode
            status := existing.status, createdAt := existing.createdAt }))
        return .ok
          { requestId := existing.requestId, roomId := existing.roomId
            conversationId := existing.conversationId, calleeUserId, mode := existing.mode }
      else return .error invitePending

def ringUnlessPending (callerUserId calleeUserId : UserId) (conversationId : ConversationId)
    (mode : ConnectionCallMode) (existingPendingId : Option RequestId) :
    M (Except AccessError ConnectionCallInitiateResult) :=
  match existingPendingId with
  | some existingPendingId => do
      let existing ← readInvite existingPendingId
      ringAgain callerUserId calleeUserId existing
  | none => do
      let category ← issue .hasCallCategory
      ringNew callerUserId calleeUserId conversationId mode category

def ringUnlessBusy (callerUserId calleeUserId : UserId) (conversationId : ConversationId)
    (mode : ConnectionCallMode) (callerRoomId calleeRoomId : Option RoomId) :
    M (Except AccessError ConnectionCallInitiateResult) :=
  if callerRoomId ≠ none then return .error ⟨"You are already in a call", "CALLER_BUSY", 409⟩
  else if calleeRoomId ≠ none then
    return .error ⟨"They are already in a call", "CALLEE_BUSY", 409⟩
  else do
    let existingPendingId ← issue (.call (.getPendingForCallee calleeUserId))
    ringUnlessPending callerUserId calleeUserId conversationId mode existingPendingId

def ringIfOnline (callerUserId calleeUserId : UserId) (conversationId : ConversationId)
    (mode : ConnectionCallMode) (online : Bool) :
    M (Except AccessError ConnectionCallInitiateResult) :=
  if !online then return .error ⟨"They are offline right now", "CALLEE_OFFLINE", 400⟩
  else do
    let callerRoomId ← issue (.getUserActiveRtcRoomVerified callerUserId)
    let calleeRoomId ← issue (.getUserActiveRtcRoomVerified calleeUserId)
    ringUnlessBusy callerUserId calleeUserId conversationId mode callerRoomId calleeRoomId

def ringIfConnected (callerUserId calleeUserId : UserId) (conversationId : ConversationId)
    (mode : ConnectionCallMode) (connected : Bool) :
    M (Except AccessError ConnectionCallInitiateResult) :=
  if !connected then
    return .error ⟨"You can only call accepted connections", "NOT_CONNECTION", 403⟩
  else do
    let online ← issue (.isOnline calleeUserId)
    ringIfOnline callerUserId calleeUserId conversationId mode online

def ringPeer (callerUserId : UserId) (conversationId : ConversationId)
    (mode : ConnectionCallMode) (conv : Option Conversation) :
    M (Except AccessError ConnectionCallInitiateResult) :=
  match conv with
  | none => return .error ⟨"Conversation not found", "NOT_DIRECT_DM", 404⟩
  | some conv =>
      if !conv.participants.contains callerUserId then
        return .error ⟨"UNAUTHORIZED", "INITIATE_CONNECTION_CALL_FAILED", 500⟩
      else
        match resolveDmPeerUserId conv callerUserId with
        | none =>
            return .error ⟨"Calls are only available in direct messages", "NOT_DIRECT_DM", 400⟩
        | some calleeUserId => do
            let connected ← issue (.isAcceptedPeer callerUserId calleeUserId)
            ringIfConnected callerUserId calleeUserId conversationId mode connected

def initiateConnectionCallService (callerUserId : UserId) (conversationId : ConversationId)
    (mode : ConnectionCallMode) : M (Except AccessError ConnectionCallInitiateResult) := do
  let conv ← issue (.findConversation conversationId)
  ringPeer callerUserId conversationId mode conv

/-! ### Settling -/

structure ConnectionCallRespondResult where
  requestId : RequestId
  roomId : RoomId
  conversationId : Option ConversationId
  mode : ConnectionCallMode
  accepted : Bool
  deriving DecidableEq

def inviteNotFound : AccessError := ⟨"Call invite not found or expired", "INVITE_NOT_FOUND", 404⟩

def inviteNotForYou : AccessError := ⟨"This invite is not for you", "NOT_YOUR_INVITE", 403⟩

def inviteNotYours : AccessError := ⟨"This invite is not yours", "NOT_YOUR_INVITE", 403⟩

def inviteNotPending : AccessError :=
  ⟨"This invite is no longer pending", "INVITE_NOT_PENDING", 409⟩

/-- The checks of an invite that was read. -/
def checkInvite (invite : Option InviteRecord) (mine : InviteRecord → Bool)
    (notMine : AccessError) : Except AccessError InviteRecord :=
  match invite with
  | none => .error inviteNotFound
  | some invite =>
      if !mine invite then .error notMine
      else if invite.status ≠ some .pending then .error inviteNotPending
      else .ok invite

def respondResult (requestId : RequestId) (invite : InviteRecord) (accepted : Bool) :
    ConnectionCallRespondResult where
  requestId := requestId
  roomId := invite.roomId
  conversationId := invite.conversationId
  mode := invite.mode
  accepted := accepted

def declineInvite (requestId : RequestId) (invite : InviteRecord) :
    M (Except AccessError ConnectionCallRespondResult) := do
  closeInvite requestId invite .declined .declined
  emitSettled invite.callerUserId invite requestId .declined
  return .ok (respondResult requestId invite false)

def acceptInvite (calleeUserId : UserId) (requestId : RequestId) (invite : InviteRecord) :
    M (Except AccessError ConnectionCallRespondResult) := do
  issue (.addOrReactivateParticipantRow invite.roomId calleeUserId)
  hsetStatus requestId .accepted
  cleanupInvite invite
  let acceptedAt ← issue .now
  setActiveConnectionCall invite.roomId
    { conversationId := invite.conversationId, callerUserId := invite.callerUserId
      calleeUserId := invite.calleeUserId, mode := invite.mode, acceptedAt, requestId }
  emitTo invite.callerUserId fun userId =>
    .connectionCallAccepted userId requestId invite.roomId invite.conversationId calleeUserId
      invite.mode
  return .ok (respondResult requestId invite true)

def respondToInvite (calleeUserId : UserId) (requestId : RequestId) (accept : Bool) :
    Except AccessError InviteRecord → M (Except AccessError ConnectionCallRespondResult)
  | .error error => return .error error
  | .ok invite =>
      if accept then acceptInvite calleeUserId requestId invite else declineInvite requestId invite

def respondConnectionCallService (calleeUserId : UserId) (requestId : RequestId)
    (accept : Bool) : M (Except AccessError ConnectionCallRespondResult) := do
  let invite ← readInvite requestId
  respondToInvite calleeUserId requestId accept
    (checkInvite invite (·.calleeUserId = some calleeUserId) inviteNotForYou)

inductive ConnectionCallCancelReason
  | cancelled
  | noAnswer
  deriving DecidableEq

def cancelInvite (requestId : RequestId) (reason : ConnectionCallCancelReason) :
    Except AccessError InviteRecord → M (Except AccessError Unit)
  | .error error => return .error error
  | .ok invite =>
      match reason with
      | .noAnswer => do
          missInvite requestId invite
          return .ok ()
      | .cancelled => do
          closeInvite requestId invite .cancelled .cancelled
          emitSettled invite.calleeUserId invite requestId .cancelled
          return .ok ()

def cancelConnectionCallService (callerUserId : UserId) (requestId : RequestId)
    (reason : ConnectionCallCancelReason) : M (Except AccessError Unit) := do
  let invite ← readInvite requestId
  cancelInvite requestId reason
    (checkInvite invite (·.callerUserId = some callerUserId) inviteNotYours)

def markMissed (requestId : RequestId) :
    Except AccessError InviteRecord → M (Except AccessError Unit)
  | .error error => return .error error
  | .ok invite => do
      missInvite requestId invite
      return .ok ()

/-- Either party may report that nobody answered. -/
def markConnectionCallMissedService (userId : UserId) (requestId : RequestId) :
    M (Except AccessError Unit) := do
  let invite ← readInvite requestId
  markMissed requestId (checkInvite invite
    (fun invite => invite.callerUserId = some userId || invite.calleeUserId = some userId)
    inviteNotForYou)

def expireIfPending (requestId : RequestId) (invite : Option InviteRecord) : M Unit :=
  match invite with
  | none => return ()
  | some invite =>
      if invite.status ≠ some .pending then return () else missInvite requestId invite

/-- The ring timer. -/
def expireConnectionCallInvite (requestId : RequestId) : M Unit := do
  let invite ← readInvite requestId
  expireIfPending requestId invite

end Greetup.Calls
