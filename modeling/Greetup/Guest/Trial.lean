import Greetup.Rooms.Access
import Greetup.Interleaving.Expansion
import Greetup.Interleaving.Parallel

/-!
The one free call of a guest: the requests that let a guest into a room, with
the flags that are read when a request arrives and the trial that is consumed
when a token is issued.

What the services of the rooms do before they issue a token is brought down to
this level as it is; what they do then, all at once, is written out.
-/

namespace Greetup.Guest

open Interleaving (Prog)
open Matching (Text)
open Rooms (UserId RoomId AccessError RtcTokenPayload)

/-- The columns of a profile that belong to the trial, besides `is_guest`. -/
structure TrialColumns where
  guestTrialConsumedAt : Option ℤ := none
  guestDeviceHash : Option Text := none
  guestCreatedIpHash : Option Text := none

structure GuestProfileRow extends TrialColumns where
  isGuest : Bool

structure TrialFlags where
  isGuest : Bool
  guestTrialConsumed : Bool
  deriving DecidableEq

structure GuestWorld where
  /-- with the users whose profile has `is_guest` -/
  rooms : Rooms.World
  profiles : UserId → Option TrialColumns
  /-- the devices with a key in Redis that says they have had their call -/
  consumedDevices : List Text := []
  trialEvents : List (UserId × RoomId) := []
  /-- who has been told over the socket, and of which room -/
  emitted : List (UserId × RoomId) := []

namespace GuestWorld

variable (w : GuestWorld)

def isGuest (userId : UserId) : Bool := w.rooms.guests.contains userId

def profile (userId : UserId) : Option GuestProfileRow :=
  (w.profiles userId).map ({ · with isGuest := w.isGuest userId })

def updateProfile (userId : UserId) (f : TrialColumns → TrialColumns) : GuestWorld :=
  { w with profiles := Function.update w.profiles userId ((w.profiles userId).map f) }

end GuestWorld

inductive GuestCmd
  | rooms (c : Rooms.Cmd)
  | findTrialFlagsByUserId (userId : UserId)
  | findByUserId (userId : UserId)
  | markCallTrialConsumedIfUnset (userId : UserId) (consumedAt : ℤ)
  | setTrackingHashes (userId : UserId) (deviceHash ipHash : Option Text)
  | redisMarkDeviceCallTrialConsumed (deviceHash : Text)
  | logGuestTrialEvent (userId : UserId) (roomId : RoomId)
  | emitGuestTrialConsumed (userId : UserId) (roomId : RoomId)

@[reducible] def GuestCmd.Reply : GuestCmd → Type
  | .rooms c => c.Reply
  | .findTrialFlagsByUserId _ => Option TrialFlags
  | .findByUserId _ => Option GuestProfileRow
  | .markCallTrialConsumedIfUnset _ _ => Bool
  | _ => Unit

variable (planner : Rooms.Planner)

def execGuest : (c : GuestCmd) → GuestWorld → c.Reply × GuestWorld
  | .rooms c, w => ((Rooms.exec planner c w.rooms).1,
      { w with rooms := (Rooms.exec planner c w.rooms).2 })
  | .findTrialFlagsByUserId userId, w =>
      ((w.profile userId).map fun row => ⟨row.isGuest, row.guestTrialConsumedAt.isSome⟩, w)
  | .findByUserId userId, w => (w.profile userId, w)
  | .markCallTrialConsumedIfUnset userId consumedAt, w =>
      if (w.profile userId).any fun row => row.isGuest && row.guestTrialConsumedAt.isNone then
        (true, w.updateProfile userId ({ · with guestTrialConsumedAt := some consumedAt }))
      else (false, w)
  | .setTrackingHashes userId deviceHash ipHash, w =>
      ((), w.updateProfile userId fun row => { row with
        guestDeviceHash := deviceHash <|> row.guestDeviceHash
        guestCreatedIpHash := ipHash <|> row.guestCreatedIpHash })
  | .redisMarkDeviceCallTrialConsumed deviceHash, w =>
      ((), { w with consumedDevices := deviceHash :: w.consumedDevices })
  | .logGuestTrialEvent userId roomId, w =>
      ((), { w with trialEvents := (userId, roomId) :: w.trialEvents })
  | .emitGuestTrialConsumed userId roomId, w =>
      ((), { w with emitted := (userId, roomId) :: w.emitted })

abbrev GuestM := Prog GuestCmd GuestCmd.Reply

abbrev issueGuest (c : GuestCmd) : GuestM c.Reply := Prog.perform c

/-! ### Consuming the trial -/

structure ConsumeGuestCallTrialInput where
  roomId : RoomId
  deviceHash : Option Text := none
  ipHash : Option Text := none

structure ConsumeGuestCallTrialResult where
  applicable : Bool
  newlyConsumed : Bool
  callTrialConsumed : Bool
  deriving DecidableEq

def markDevice (deviceHash : Option Text) : GuestM Unit :=
  match deviceHash with
  | none => return ()
  | some deviceHash => issueGuest (.redisMarkDeviceCallTrialConsumed deviceHash)

def announceConsumed (userId : UserId) (roomId : RoomId) (newlyConsumed : Bool) : GuestM Unit :=
  if newlyConsumed then do
    issueGuest (.logGuestTrialEvent userId roomId)
    issueGuest (.emitGuestTrialConsumed userId roomId)
  else return ()

def trackHashes (userId : UserId) (deviceHash ipHash : Option Text) : GuestM Unit :=
  if deviceHash.isSome || ipHash.isSome then
    issueGuest (.setTrackingHashes userId deviceHash ipHash)
  else return ()

/-- What follows the attempt to consume the trial. -/
def recordConsumed (userId : UserId) (input : ConsumeGuestCallTrialInput)
    (profile : GuestProfileRow) (newlyConsumed : Bool) : GuestM ConsumeGuestCallTrialResult := do
  let deviceHash := input.deviceHash <|> profile.guestDeviceHash
  let ipHash := input.ipHash <|> profile.guestCreatedIpHash
  trackHashes userId deviceHash ipHash
  markDevice deviceHash
  announceConsumed userId input.roomId newlyConsumed
  return { applicable := true, newlyConsumed, callTrialConsumed := true }

/-- The trial of a guest for whom it was not consumed when the row was read. -/
def consumeUnset (userId : UserId) (input : ConsumeGuestCallTrialInput)
    (profile : GuestProfileRow) : GuestM ConsumeGuestCallTrialResult := do
  let consumedAt ← issueGuest (.rooms .now)
  let newlyConsumed ← issueGuest (.markCallTrialConsumedIfUnset userId consumedAt)
  recordConsumed userId input profile newlyConsumed

/-- Consumes the one-time trial when access is granted. -/
def consumeGuestCallTrial (userId : UserId) (input : ConsumeGuestCallTrialInput) :
    GuestM ConsumeGuestCallTrialResult := do
  match ← issueGuest (.findByUserId userId) with
  | none => return { applicable := false, newlyConsumed := false, callTrialConsumed := false }
  | some profile =>
      if !profile.isGuest then
        return { applicable := false, newlyConsumed := false, callTrialConsumed := false }
      else if profile.guestTrialConsumedAt.isSome then do
        markDevice (input.deviceHash <|> profile.guestDeviceHash)
        return { applicable := true, newlyConsumed := false, callTrialConsumed := true }
      else consumeUnset userId input profile

/-! ### Who may have a token -/

section Access

open Rooms (M RoomRow SessionRoom ParticipantRow issue)

variable (userId : UserId) (roomId : RoomId) (room : RoomRow)

def accessThroughGate (gate : Option Bool) : M (Except AccessError RoomRow) :=
  if gate = some true then return .error Rooms.lobbyWaitingForHost else return .ok room

def accessIfGateDown (exists_ : Bool) : M (Except AccessError RoomRow) :=
  if exists_ then do
    let gate ← issue (.hgetLobbyGateActive roomId)
    accessThroughGate room gate
  else return .ok room

def accessForParticipant : M (Except AccessError RoomRow) :=
  if room.roomType = .space &&
      (Rooms.mergeRoomAdvancedOptions room.advancedOptions).shouldHostStartMeeting = some true &&
      room.hostUserId ≠ userId then do
    let exists_ ← issue (.existsSessionRoom roomId)
    accessIfGateDown roomId room exists_
  else return .ok room

def accessIfParticipant (row : Option ParticipantRow) : M (Except AccessError RoomRow) :=
  if room.hostUserId = userId || row.isSome then accessForParticipant userId roomId room
  else return .error Rooms.notAllowed

def accessIfUnrestricted (afterJoin isRestricted : Bool) : M (Except AccessError RoomRow) :=
  if isRestricted then return .error Rooms.restricted
  else if afterJoin then accessForParticipant userId roomId room
  else do
    let row ← issue (.findRoomParticipant roomId userId)
    accessIfParticipant userId roomId room row

def accessIfLive (afterJoin : Bool) (now : ℤ) : M (Except AccessError RoomRow) :=
  if Rooms.isScheduledSpaceBeforeStartTime room now then
    return .error ⟨"This space hasn’t opened yet. Try again after the scheduled start time.",
      "LOBBY_NOT_READY", 400⟩
  else if room.status ≠ .live then return .error ⟨"Room is not live yet", "ROOM_NOT_LIVE", 400⟩
  else do
    Rooms.restartLiveSessionClockIfNoActiveParticipants roomId
    if room.roomType = .space && room.hostUserId ≠ userId then do
      let isRestricted ← issue (.isRoomRestrictedUser roomId userId)
      accessIfUnrestricted userId roomId room afterJoin isRestricted
    else accessIfUnrestricted userId roomId room afterJoin false

def grantAccess (afterJoin : Bool) : M (Except AccessError RoomRow) := do
  let now ← issue .now
  accessIfLive userId roomId room afterJoin now

def accessIfOpen : Except AccessError RoomRow → M (Except AccessError RoomRow)
  | .error error => return .error error
  | .ok room => grantAccess userId roomId room false

def accessStarted (again : Option RoomRow) : M (Except AccessError RoomRow) :=
  Rooms.assertOpen roomId (again.getD room) >>= accessIfOpen userId roomId

def accessAllowed : Except AccessError Unit → M (Except AccessError RoomRow)
  | .error error => return .error error
  | .ok () => Rooms.autoStartIfScheduled roomId room >>= accessStarted userId roomId room

def accessFound (afterJoin : Bool) : Option RoomRow → M (Except AccessError RoomRow)
  | none => return .error Rooms.roomNotFound
  | some room =>
      if afterJoin then grantAccess userId roomId room true
      else Rooms.assertGuestMayAccessRoom userId room >>= accessAllowed userId roomId room

/-- What `issueRtcTokenService` does before the token is issued, with the row it
is issued for. -/
def rtcTokenAccess (options : Rooms.IssueRtcTokenOptions) : M (Except AccessError RoomRow) :=
  Rooms.loadRoom roomId options.room >>= accessFound userId roomId options.afterJoin

/-! ### The services of the rooms again -/

section Eq

variable (turns : List ℕ)

/-- The token, if it may be issued. -/
def thenFinalize : Except AccessError RoomRow → M (Except AccessError RtcTokenPayload)
  | .error error => return .error error
  | .ok room => Rooms.finalizeRtcTokenIssue turns userId roomId room

theorem tokenIfGateDown_eq (exists_ : Bool) :
    Rooms.tokenIfGateDown turns userId roomId room exists_ =
      accessIfGateDown roomId room exists_ >>= thenFinalize userId roomId turns := by
  rw [Rooms.tokenIfGateDown, accessIfGateDown]
  split
  · rw [bind_assoc]
    refine bind_congr fun gate => ?_
    rw [Rooms.tokenThroughGate, accessThroughGate]
    split <;> rfl
  · rfl

theorem tokenForParticipant_eq : Rooms.tokenForParticipant turns userId roomId room =
    accessForParticipant userId roomId room >>= thenFinalize userId roomId turns := by
  rw [Rooms.tokenForParticipant, accessForParticipant]
  split
  · simp only [tokenIfGateDown_eq, bind_assoc]
  · rfl

theorem tokenIfUnrestricted_eq (afterJoin isRestricted : Bool) :
    Rooms.tokenIfUnrestricted turns userId roomId room afterJoin isRestricted =
      accessIfUnrestricted userId roomId room afterJoin isRestricted >>=
        thenFinalize userId roomId turns := by
  rw [Rooms.tokenIfUnrestricted, accessIfUnrestricted]
  split
  · rfl
  · split
    · exact tokenForParticipant_eq userId roomId room turns
    · rw [bind_assoc]
      refine bind_congr fun row => ?_
      rw [Rooms.tokenIfParticipant, accessIfParticipant]
      split
      · exact tokenForParticipant_eq userId roomId room turns
      · rfl

theorem grantRtcToken_eq (afterJoin : Bool) :
    Rooms.grantRtcToken turns userId roomId afterJoin room =
      grantAccess userId roomId room afterJoin >>= thenFinalize userId roomId turns := by
  rw [Rooms.grantRtcToken, grantAccess, bind_assoc]
  refine bind_congr fun now => ?_
  rw [Rooms.tokenIfLive, accessIfLive]
  split
  · rfl
  · split
    · rfl
    · rw [bind_assoc]
      refine bind_congr fun _ => ?_
      split
      · simp only [tokenIfUnrestricted_eq, bind_assoc]
      · exact tokenIfUnrestricted_eq userId roomId room turns afterJoin false

theorem tokenAllowed_eq (allowed : Except AccessError Unit) :
    Rooms.tokenAllowed turns userId roomId room allowed =
      accessAllowed userId roomId room allowed >>= thenFinalize userId roomId turns := by
  cases allowed with
  | error error => rfl
  | ok =>
      rw [Rooms.tokenAllowed, accessAllowed, bind_assoc]
      refine bind_congr fun again => ?_
      rw [Rooms.tokenStarted, accessStarted, bind_assoc]
      refine bind_congr fun opened => ?_
      cases opened with
      | error error => rfl
      | ok room => exact grantRtcToken_eq userId roomId room turns false

/-- The service is what it does before, and then the token. -/
theorem issueRtcTokenService_eq (options : Rooms.IssueRtcTokenOptions) :
    Rooms.issueRtcTokenService turns userId roomId options =
      rtcTokenAccess userId roomId options >>= thenFinalize userId roomId turns := by
  rw [Rooms.issueRtcTokenService, rtcTokenAccess, bind_assoc]
  refine bind_congr fun found => ?_
  cases found with
  | none => rfl
  | some room =>
      rw [Rooms.tokenFound, accessFound]
      split
      · exact grantRtcToken_eq userId roomId room turns true
      · rw [bind_assoc]
        exact bind_congr fun allowed => tokenAllowed_eq userId roomId room turns allowed

end Eq

end Access

/-! ### Requests -/

/-- A program of the rooms, as it is. -/
def lift {α : Type} (p : Rooms.M α) : GuestM α := p.expand fun c => issueGuest (.rooms c)

section Finalize

variable (turns : List ℕ) (userId : UserId) (roomId : RoomId)

/-- The token is signed, whatever becomes of the trial. `turns` is the order in
which what is started together advances. -/
def finalizeRtcTokenIssue (room : Rooms.RoomRow) : GuestM (Except AccessError RtcTokenPayload) := do
  issueGuest (.rooms (.send (.roomConversation roomId room.roomType room.hostUserId)))
  issueGuest (.rooms (.send (.roomConversationParticipant roomId userId)))
  Prog.sideBySide turns [
    (fun _ => ()) <$> consumeGuestCallTrial userId { roomId },
    lift (Rooms.syncGuestMatchRoomSessionCap roomId),
    issueGuest (.rooms (.setUserActiveRtcRoom userId roomId))]
  return .ok { roomId, roomType := room.roomType }

def finalizeIfGranted :
    Except AccessError Rooms.RoomRow → GuestM (Except AccessError RtcTokenPayload)
  | .error error => return .error error
  | .ok room => finalizeRtcTokenIssue turns userId roomId room

def issueRtcTokenService (options : Rooms.IssueRtcTokenOptions) :
    GuestM (Except AccessError RtcTokenPayload) :=
  lift (rtcTokenAccess userId roomId options) >>= finalizeIfGranted turns userId roomId

/-- `GET /:roomId/rtc-token` -/
def handleIssueRtcToken : GuestM (Except AccessError (Option RtcTokenPayload)) := do
  let data ← issueRtcTokenService turns userId roomId {}
  return data.map some

/-- The token of a live room; nobody gets one for a lobby. -/
def tokenAfterJoin : Except AccessError Rooms.JoinRoomServiceResult →
    GuestM (Except AccessError (Option RtcTokenPayload))
  | .error error => return .error error
  | .ok joinResult =>
      if joinResult.rtcEligible then do
        let rtc ← issueRtcTokenService turns userId roomId
          { room := some joinResult.room, afterJoin := true }
        return rtc.map some
      else return .ok none

/-- `POST /:roomId/join` -/
def handleJoinRoom : GuestM (Except AccessError (Option RtcTokenPayload)) := do
  let joinResult ← lift (Rooms.joinRoomService userId roomId)
  tokenAfterJoin turns userId roomId joinResult

end Finalize

def guestTrialExhausted : AccessError :=
  ⟨"You've already had your try. Sign up or log in to keep matching.", "GUEST_TRIAL_EXHAUSTED",
    403⟩

/-- `requireGuestCallTrialAvailable`, with the flags that were read when the
request was authenticated. -/
def requireGuestCallTrialAvailable {α : Type} (flags : TrialFlags)
    (next : GuestM (Except AccessError α)) : GuestM (Except AccessError α) :=
  if flags.isGuest && flags.guestTrialConsumed then return .error guestTrialExhausted else next

def resolveGuestAuthContext (userId : UserId) : GuestM TrialFlags := do
  let flags ← issueGuest (.findTrialFlagsByUserId userId)
  return flags.getD { isGuest := false, guestTrialConsumed := false }

structure GuestRequest where
  userId : UserId
  roomId : RoomId
  /-- to join, or else for a token only -/
  joins : Bool
  turns : List ℕ := []
  deriving DecidableEq

def GuestRequest.program (r : GuestRequest) :
    GuestM (Except AccessError (Option RtcTokenPayload)) := do
  let flags ← resolveGuestAuthContext r.userId
  requireGuestCallTrialAvailable flags
    (if r.joins then handleJoinRoom r.turns r.userId r.roomId
      else handleIssueRtcToken r.turns r.userId r.roomId)

end Greetup.Guest
