import Greetup.Calls.Store
import Greetup.Rooms.SweepWhere
import Greetup.Interleaving.Program

/-!
What the room services and the calls between connections act on: the tables,
the Redis keys, and what they ask of other modules; and the statements and
commands they issue.
-/

namespace Greetup.Rooms

open Matching (Text)
open Calls (RequestId ConversationId)

/-! ### Statements on a room row -/

/-- The conditions besides the id. -/
structure RoomWhere where
  roomType : Option RoomType := none
  status : Option RoomStatus := none

def RoomWhere.matches_ (cond : RoomWhere) (row : RoomRow) : Bool :=
  cond.roomType.all (row.roomType = ·) && cond.status.all (row.status = ·)

/-- The `SET` clauses. -/
inductive RoomChange
  | live (startedAt : ℤ) (fields : RoomExpiryFields)
  | scheduled (fields : RoomExpiryFields)
  | ended (now : ℤ)
  | sessionClock (startedAt : ℤ) (expiresAt : Option ℤ)
  | expiry (fields : RoomExpiryFields)
  | expired

def RoomChange.apply : RoomChange → RoomRow → RoomRow
  | .live startedAt fields, row =>
      { row with
        status := .live, startedAt := some startedAt, rtcRoomId := some row.id
        expiresAt := fields.expiresAt, isExpired := fields.isExpired }
  | .scheduled fields, row =>
      { row with
        status := .scheduled, endedAt := none, startedAt := none, rtcRoomId := none
        expiresAt := fields.expiresAt, isExpired := fields.isExpired }
  | .ended now, row =>
      { row with status := .ended, endedAt := some now, expiresAt := some now, isExpired := true }
  | .sessionClock startedAt expiresAt, row =>
      { row with startedAt := some startedAt, expiresAt, isExpired := false }
  | .expiry fields, row =>
      { row with expiresAt := fields.expiresAt, isExpired := fields.isExpired }
  | .expired, row => { row with isExpired := true }

@[simp] theorem RoomChange.apply_id (change : RoomChange) (row : RoomRow) :
    (change.apply row).id = row.id := by
  cases change <;> rfl

/-- No statement moves a booking. -/
@[simp] theorem RoomChange.apply_scheduledStartAt (change : RoomChange) (row : RoomRow) :
    (change.apply row).scheduledStartAt = row.scheduledStartAt := by
  cases change <;> rfl

@[simp] theorem RoomChange.apply_roomType (change : RoomChange) (row : RoomRow) :
    (change.apply row).roomType = row.roomType := by
  cases change <;> rfl

structure EndLiveRoomSessionParams where
  roomId : RoomId
  now : ℤ
  roomType : RoomType
  hostUserId : UserId
  preserveScheduledSlot : Bool
  scheduledStartAt : Option ℤ
  scheduledEndAt : Option ℤ
  advancedOptions : RoomAdvancedOptions

structure ExpandDirectAcceptParams where
  roomId : RoomId
  inviteId : Text
  inviteeUserId : UserId
  currentMaxParticipants : ℕ

/-- The seats of a direct room that has become a space, if it had fewer. -/
def expandedMax : ℕ := 8

structure LeaveResult where
  lastParticipantLeft : Bool
  roomEnded : Bool
  deriving DecidableEq

/-! ### The world -/

inductive InviteStatus
  | pending
  | accepted
  | declined
  | cancelled
  deriving DecidableEq

structure FriendInvite where
  id : Text
  roomId : RoomId
  inviterUserId : UserId
  inviteeUserId : UserId
  status : InviteStatus
  deriving DecidableEq

/-- The hash `room:{id}`. -/
structure SessionRoom where
  sessionKind : Option SessionKind := none
  roomId : Option RoomId := none
  hostUserId : Option UserId := none
  roomType : Option RoomType := none
  title : Option String := none
  lobbyGateActive : Option Bool := none
  userA : Option UserId := none
  userB : Option UserId := none
  conversationId : Option ConversationId := none
  openToConnectOrigin : Option Bool := none

/-- What a user has chosen, and whether a room hides it for now. -/
structure OpenToConnectStatus where
  openToConnect : Bool
  openToConnectPausedForRoom : Bool
  deriving DecidableEq

/-- A conversation as the call service reads it. -/
structure Conversation where
  isRoomSpace : Bool
  participants : List UserId

inductive SpaceParticipantRemovedReason
  | hostRemoved
  | nsfw
  deriving DecidableEq

inductive SpaceRoomEvent
  | hostEndedForEveryone
  | openedForJoin
  | participantRemoved (reason : SpaceParticipantRemovedReason) (strikeCount : Option ℕ)
  | becameSpace
  deriving DecidableEq

/-- What is asked of the call service, the sockets and other modules. -/
inductive Outgoing
  | sfuRoomTeardown (roomId : RoomId)
  | emitToUser (userId : UserId) (event : SpaceRoomEvent) (roomId : RoomId)
  | spaceStarted (roomId : RoomId) (hostUserId : UserId) (title : String)
  | roomConversation (roomId : RoomId) (roomType : RoomType) (hostUserId : UserId)
  | roomConversationParticipant (roomId : RoomId) (userId : UserId)
  | consumeGuestCallTrial (userId : UserId) (roomId : RoomId)
  | kickPeer (roomId : RoomId) (userId : UserId)
  | roomType (roomId : RoomId) (roomType : RoomType)
  | roomInviteDeclined (inviterUserId : UserId) (inviteId : Text) (roomId : RoomId)
      (inviteeUserId : UserId)
  | leaveMatchEngineRoom (userId : UserId)
  | otcCallEnded (userId : UserId) (roomId : RoomId) (endedByUserId : UserId)
  | partnerSkipped (userId : UserId) (roomId : RoomId)
  | connectionCallEnded (userId : UserId) (roomId : RoomId)
      (conversationId : Option ConversationId) (endedByUserId : UserId)
  | connectionCallRing (userId : UserId) (invite : Calls.InviteHash)
  | connectionCallAccepted (userId : UserId) (requestId : RequestId) (roomId : RoomId)
      (conversationId : Option ConversationId) (calleeUserId : UserId)
      (mode : Calls.ConnectionCallMode)
  | connectionCallSettled (userId : UserId) (status : Calls.InviteStatus) (requestId : RequestId)
      (roomId : RoomId) (calleeUserId : Option UserId)
  | connectionCallHistory (conversationId : Option ConversationId) (callerUserId : Option UserId)
      (mode : Calls.ConnectionCallMode) (status : Calls.ConnectionCallHistoryStatus)
      (durationSec : Option ℤ)
  deriving DecidableEq

/-- The texts that stand for uuids, unless others are given. -/
def uuidText (n : ℕ) : Text := ⟨"uuid " ++ toString n, by simp⟩

theorem uuidText_injective : Function.Injective uuidText := by
  intro m n h
  have htext : "uuid " ++ m.repr = "uuid " ++ n.repr := congrArg Subtype.val h
  have hrepr : m.repr = n.repr := (String.append_right_inj _).mp htext
  have hdigits : Nat.toDigits 10 m = Nat.toDigits 10 n := by
    rw [← Nat.toList_repr, hrepr, Nat.toList_repr]
  calc m = Nat.ofDigitChars 10 (Nat.toDigits 10 m) 0 :=
        (Nat.ofDigitChars_toDigits (by decide) le_rfl).symm
    _ = Nat.ofDigitChars 10 (Nat.toDigits 10 n) 0 := by rw [hdigits]
    _ = n := Nat.ofDigitChars_toDigits (by decide) le_rfl

structure World where
  rooms : RoomTable := .empty
  participants : ParticipantTable := .empty
  restrictedUsers : List (RoomId × UserId) := []
  friendInvites : List FriendInvite := []
  /-- the users whose profile has `is_guest` -/
  guests : List UserId := []
  /-- `room:{id}` -/
  sessionRooms : RoomId → Option SessionRoom := fun _ => none
  /-- `user:active_rtc_room:{userId}` -/
  activeRtcRoom : UserId → Option RoomId := fun _ => none
  /-- `rtc:room:{id}:peers` -/
  rtcPeers : RoomId → List UserId := fun _ => []
  openToConnect : UserId → Option OpenToConnectStatus := fun _ => none
  /-- the users in the index of those who are open to connect -/
  discoverable : UserId → Bool := fun _ => false
  /-- the users with a presence hash -/
  online : UserId → Bool := fun _ => false
  conversations : ConversationId → Option Conversation := fun _ => none
  /-- the category of the rooms of connection calls is set up -/
  callCategory : Bool := true
  /-- the accepted connections -/
  connections : List (UserId × UserId) := []
  calls : Calls.Store := {}
  /-- what `randomUUID` returns, call after call -/
  uuids : ℕ → Text := uuidText
  uuidsDrawn : ℕ := 0
  outgoing : List Outgoing := []
  clock : ℤ := 0
  /-- how many times the sweep has listed its candidates -/
  listings : ℕ := 0

namespace World

variable (w : World)

/-- The rooms that satisfy the condition of the sweep. -/
def candidates : List RoomId :=
  (w.rooms.rows.filter fun room =>
    (roomSessionSweepCandidatesWhere w.participants w.clock room).Holds).map (·.id)

theorem candidates_nodup : w.candidates.Nodup :=
  w.rooms.unique.sublist (List.filter_sublist.map _)

def setRooms (rooms : RoomTable) : World := { w with rooms }

def setParticipants (participants : ParticipantTable) : World := { w with participants }

def send (message : Outgoing) : World := { w with outgoing := w.outgoing ++ [message] }

def setSessionRoom (roomId : RoomId) (session : Option SessionRoom) : World :=
  { w with sessionRooms := Function.update w.sessionRooms roomId session }

def setActiveRtcRoom (userId : UserId) (roomId : Option RoomId) : World :=
  { w with activeRtcRoom := Function.update w.activeRtcRoom userId roomId }

def updateRoom (roomId : RoomId) (cond : RoomWhere) (change : RoomChange) : World :=
  w.setRooms (w.rooms.update (fun row => row.id = roomId && cond.matches_ row) change.apply
    change.apply_id)

/-- The participant rows of a room that satisfy `p` get `leftAt`. -/
def setLeftAt (roomId : RoomId) (p : ParticipantRow → Bool) (leftAt : Option ℤ) : World :=
  w.setParticipants (w.participants.update (fun row => row.roomId = roomId && p row)
    ({ · with leftAt }) fun _ => rfl)

def findRoom (roomId : RoomId) (cond : RoomWhere) : Option RoomRow :=
  (w.rooms.find roomId).filter cond.matches_

/-- One transaction: everybody leaves, and the row ends or, if its slot is
preserved, goes back to `scheduled` with the host in it. -/
def endLiveRoomSessionTx (params : EndLiveRoomSessionParams) : Bool × World :=
  let w₁ := w.setLeftAt params.roomId (·.leftAt = none) (some params.now)
  if params.roomType = .space && params.preserveScheduledSlot then
    let fields := computeRoomExpiryFields
      ⟨⟨params.scheduledStartAt, params.scheduledEndAt, params.advancedOptions⟩, .scheduled⟩
      params.now
    let cond := { roomType := some .space, status := some .live : RoomWhere }
    let w₂ := w₁.updateRoom params.roomId cond (.scheduled fields)
    if (w.findRoom params.roomId cond).isSome then
      (true, w₂.setLeftAt params.roomId (·.userId = params.hostUserId) none)
    else (false, w₂)
  else
    let cond := { status := some .live : RoomWhere }
    ((w.findRoom params.roomId cond).isSome,
      w₁.updateRoom params.roomId cond (.ended params.now))

/-- Only a row past the join grace is updated; the comparison is strict. -/
def pastJoinGraceWhere (room : RoomRow) : Bool :=
  (Sql.lt (Sql.plus room.scheduledStartAt (minutes scheduledJoinGraceAfterStartMinutes))
    (some w.clock)).Holds

def expireScheduledJoinGraceMissed (roomId : RoomId) : Bool × World :=
  let cond := { roomType := some .space, status := some .scheduled : RoomWhere }
  if (w.findRoom roomId cond).any w.pastJoinGraceWhere then
    (true, w.updateRoom roomId cond .expired)
  else (false, w)

/-- One transaction: the user leaves; the last one out ends the space, if that
is asked for. -/
def leaveAndMaybeEndRoomTx (roomId : RoomId) (userId : UserId) (now : ℤ)
    (deleteSpaceAfterCall : Bool) : LeaveResult × World :=
  let w₁ := w.setLeftAt roomId (fun row => row.userId = userId && row.leftAt = none) (some now)
  if (presenceOf w₁.participants roomId).activeCount > 0 then (⟨false, false⟩, w₁)
  else if deleteSpaceAfterCall then
    let cond := { roomType := some .space, status := some .live : RoomWhere }
    (⟨true, (w₁.findRoom roomId cond).isSome⟩, w₁.updateRoom roomId cond (.ended now))
  else (⟨true, false⟩, w₁)

def insertParticipant (row : ParticipantRow) (f : ParticipantRow → ParticipantRow)
    (hf : ∀ p, ((f p).roomId, (f p).userId) = (p.roomId, p.userId)) : World :=
  w.setParticipants (w.participants.insert row f hf)

def addOrReactivateHostRow (roomId : RoomId) (userId : UserId) : World :=
  w.insertParticipant ⟨roomId, userId, .host, none⟩
    (fun p => { p with leftAt := none, role := .host }) fun _ => rfl

def addOrReactivateParticipantRow (roomId : RoomId) (userId : UserId) : World :=
  w.insertParticipant ⟨roomId, userId, .participant, none⟩
    (fun p => { p with leftAt := none }) fun _ => rfl

def setFriendInviteStatus (p : FriendInvite → Bool) (status : InviteStatus) : World :=
  { w with
    friendInvites := w.friendInvites.map fun invite =>
      if p invite then { invite with status } else invite }

/-- `direct` → `space` -/
def expandRoom (roomId : RoomId) (maxParticipants : ℕ) : World :=
  w.setRooms (w.rooms.update (fun row => row.id = roomId && row.roomType = .direct)
    ({ · with roomType := .space, sessionKind := .space, maxParticipants }) fun _ => rfl)

/-- One transaction: the room becomes a space, the invite is accepted, and the
invitee is in. Without a direct room nothing is done. -/
def runExpandDirectAcceptTransaction (params : ExpandDirectAcceptParams) : Bool × World :=
  if (w.findRoom params.roomId { roomType := some .direct }).isSome then
    let w₁ := w.expandRoom params.roomId (max params.currentMaxParticipants expandedMax)
    let w₂ := w₁.setFriendInviteStatus (·.id = params.inviteId) .accepted
    (true, w₂.insertParticipant ⟨params.roomId, params.inviteeUserId, .participant, none⟩
      (fun p => { p with leftAt := none, role := .participant }) fun _ => rfl)
  else (false, w)

theorem roomKey_id (row : RoomRow) : (id row).id = row.id := rfl

theorem participantKey_id (p : ParticipantRow) :
    ((id p).roomId, (id p).userId) = (p.roomId, p.userId) := rfl

/-- A live room of the two, with the caller in it. -/
def createConnectionCallRoom (roomId : RoomId) (hostUserId : UserId) : World :=
  let room : RoomRow :=
    { id := roomId, hostUserId, title := "Call", visibility := .private_, maxParticipants := 2
      status := .live, startedAt := some w.clock, rtcRoomId := some roomId
      advancedOptions := mergeRoomAdvancedOptions {}
      roomType := .direct, sessionKind := .connectionCall }
  (w.setRooms (w.rooms.insert room id roomKey_id)).insertParticipant
    ⟨roomId, hostUserId, .host, none⟩ id participantKey_id

def setOpenToConnect (userId : UserId) (status : OpenToConnectStatus) (discoverable : Bool) :
    World :=
  { w with
    openToConnect := Function.update w.openToConnect userId (some status)
    discoverable := Function.update w.discoverable userId discoverable }

/-- Hides the user from discovery; the preference stays. -/
def pauseOpenToConnectForRoom (userId : UserId) : World :=
  match w.openToConnect userId with
  | none => w
  | some status =>
      if !status.openToConnect || status.openToConnectPausedForRoom then w
      else w.setOpenToConnect userId { status with openToConnectPausedForRoom := true } false

/-- Shows the user again, if that is what the user has chosen. -/
def restoreOpenToConnectAfterRoom (userId : UserId) : World :=
  match w.openToConnect userId with
  | none => w
  | some status =>
      if !status.openToConnectPausedForRoom then w
      else w.setOpenToConnect userId { status with openToConnectPausedForRoom := false }
        (status.openToConnect && !w.guests.contains userId && w.online userId)

def setUserActiveRtcRoom (userId : UserId) (roomId : RoomId) : World :=
  (w.setActiveRtcRoom userId (some roomId)).pauseOpenToConnectForRoom userId

def clearUserActiveRtcRoom (userId : UserId) : World :=
  (w.setActiveRtcRoom userId none).restoreOpenToConnectAfterRoom userId

/-- The room of the user's token, if the user is connected there; the key of a
room without peers is deleted. -/
def getUserActiveRtcRoomVerified (userId : UserId) : Option RoomId × World :=
  match w.activeRtcRoom userId with
  | none => (none, w)
  | some roomId =>
      if (w.rtcPeers roomId).contains userId then (some roomId, w)
      else if (w.rtcPeers roomId).isEmpty then (none, w.setActiveRtcRoom userId none)
      else (none, w)

end World

/-- How the database chooses among the rows of a query with a limit and no
order: the rows it returns to each listing. -/
structure Planner where
  pick : ℕ → World → ℕ → List RoomId
  nodup : ∀ n w limit, (pick n w limit).Nodup
  subset : ∀ n w limit, pick n w limit ⊆ w.candidates
  length : ∀ n w limit, (pick n w limit).length = min limit w.candidates.length

/-- The rows in the order of the table. -/
def Planner.inOrder : Planner where
  pick _ w limit := w.candidates.take limit
  nodup _ w _ := w.candidates_nodup.sublist (List.take_sublist _ _)
  subset _ _ _ := List.take_subset _ _
  length _ _ _ := List.length_take

/-! ### Commands -/

inductive Cmd
  | now
  -- the database
  | findRoom (roomId : RoomId) (cond : RoomWhere)
  | updateRoom (roomId : RoomId) (cond : RoomWhere) (change : RoomChange)
  | expireScheduledJoinGraceMissed (roomId : RoomId)
  | endLiveRoomSessionTx (params : EndLiveRoomSessionParams)
  | listRoomIdsDueForSessionSweep (limit : ℕ)
  | countActiveParticipants (roomId : RoomId)
  | maxLeftAt (roomId : RoomId)
  | listParticipantUserIds (roomId : RoomId)
  | listActiveParticipantUserIds (roomId : RoomId)
  | findRoomParticipant (roomId : RoomId) (userId : UserId)
  | addOrReactivateHostRow (roomId : RoomId) (userId : UserId)
  | addOrReactivateParticipantRow (roomId : RoomId) (userId : UserId)
  | markParticipantLeft (roomId : RoomId) (userId : UserId)
  | leaveAndMaybeEndRoomTx (roomId : RoomId) (userId : UserId) (now : ℤ)
      (deleteSpaceAfterCall : Bool)
  | isRoomRestrictedUser (roomId : RoomId) (userId : UserId)
  | addRoomRestrictedUser (roomId : RoomId) (userId : UserId)
  | findFriendInvite (roomId : RoomId) (userId : UserId)
  | findFriendInviteById (inviteId : Text)
  | setFriendInviteStatus (inviteId : Text) (status : InviteStatus)
  | cancelFriendInviteForRoomInvitee (roomId : RoomId) (userId : UserId)
  | runExpandDirectAcceptTransaction (params : ExpandDirectAcceptParams)
  | createConnectionCallRoom (roomId : RoomId) (hostUserId : UserId)
  | findConversation (conversationId : ConversationId)
  | hasCallCategory
  | isAcceptedPeer (userId peerUserId : UserId)
  | isGuest (userId : UserId)
  | anyUserIdIsGuest (userIds : List UserId)
  -- Redis
  | delSessionRoom (roomId : RoomId)
  | hsetSessionRoom (roomId : RoomId) (session : SessionRoom)
  | hgetallSessionRoom (roomId : RoomId)
  | existsSessionRoom (roomId : RoomId)
  | hgetLobbyGateActive (roomId : RoomId)
  | setUserActiveRtcRoom (userId : UserId) (roomId : RoomId)
  | clearUserActiveRtcRoom (userId : UserId)
  | getUserActiveRtcRoom (userId : UserId)
  | getUserActiveRtcRoomVerified (userId : UserId)
  | isOnline (userId : UserId)
  | call (c : Calls.Cmd)
  -- the rest of the system
  | randomUUID
  | send (message : Outgoing)
  -- what happens by itself
  | expiredSessionRoom (roomId : RoomId)
  | elapsed (ms : ℕ)

@[reducible] def Cmd.Reply : Cmd → Type
  | .now => ℤ
  | .findRoom _ _ => Option RoomRow
  | .updateRoom _ _ _ => Option RoomRow
  | .expireScheduledJoinGraceMissed _ => Bool
  | .endLiveRoomSessionTx _ => Bool
  | .listRoomIdsDueForSessionSweep _ => List RoomId
  | .countActiveParticipants _ => ℕ
  | .maxLeftAt _ => Option ℤ
  | .listParticipantUserIds _ => List UserId
  | .listActiveParticipantUserIds _ => List UserId
  | .findRoomParticipant _ _ => Option ParticipantRow
  | .leaveAndMaybeEndRoomTx .. => LeaveResult
  | .isRoomRestrictedUser _ _ => Bool
  | .findFriendInvite _ _ => Bool
  | .findFriendInviteById _ => Option FriendInvite
  | .runExpandDirectAcceptTransaction _ => Bool
  | .findConversation _ => Option Conversation
  | .hasCallCategory => Bool
  | .isAcceptedPeer _ _ => Bool
  | .isGuest _ => Bool
  | .anyUserIdIsGuest _ => Bool
  | .hgetallSessionRoom _ => Option SessionRoom
  | .existsSessionRoom _ => Bool
  | .hgetLobbyGateActive _ => Option Bool
  | .getUserActiveRtcRoom _ => Option RoomId
  | .getUserActiveRtcRoomVerified _ => Option RoomId
  | .isOnline _ => Bool
  | .call c => c.Reply
  | .randomUUID => Text
  | _ => Unit

/-- `HSET` of the fields that are given. -/
def SessionRoom.hset (old new : SessionRoom) : SessionRoom where
  sessionKind := new.sessionKind.or old.sessionKind
  roomId := new.roomId.or old.roomId
  hostUserId := new.hostUserId.or old.hostUserId
  roomType := new.roomType.or old.roomType
  title := new.title.or old.title
  lobbyGateActive := new.lobbyGateActive.or old.lobbyGateActive
  userA := new.userA.or old.userA
  userB := new.userB.or old.userB
  conversationId := new.conversationId.or old.conversationId
  openToConnectOrigin := new.openToConnectOrigin.or old.openToConnectOrigin

variable (planner : Planner)

def exec : (c : Cmd) → World → c.Reply × World
  | .now, w => (w.clock, w)
  | .findRoom roomId cond, w => (w.findRoom roomId cond, w)
  | .updateRoom roomId cond change, w =>
      ((w.findRoom roomId cond).map change.apply, w.updateRoom roomId cond change)
  | .expireScheduledJoinGraceMissed roomId, w => w.expireScheduledJoinGraceMissed roomId
  | .endLiveRoomSessionTx params, w => w.endLiveRoomSessionTx params
  | .listRoomIdsDueForSessionSweep limit, w =>
      (planner.pick w.listings w limit, { w with listings := w.listings + 1 })
  | .countActiveParticipants roomId, w => ((presenceOf w.participants roomId).activeCount, w)
  | .maxLeftAt roomId, w => ((presenceOf w.participants roomId).lastLeftAt, w)
  | .listParticipantUserIds roomId, w =>
      ((w.participants.rows.filter (·.roomId = roomId)).map (·.userId), w)
  | .listActiveParticipantUserIds roomId, w =>
      ((w.participants.rows.filter fun p => p.roomId = roomId && p.leftAt = none).map (·.userId), w)
  | .findRoomParticipant roomId userId, w => (w.participants.find (roomId, userId), w)
  | .addOrReactivateHostRow roomId userId, w => ((), w.addOrReactivateHostRow roomId userId)
  | .addOrReactivateParticipantRow roomId userId, w =>
      ((), w.addOrReactivateParticipantRow roomId userId)
  | .markParticipantLeft roomId userId, w =>
      ((), w.setLeftAt roomId (fun row => row.userId = userId && row.leftAt = none) (some w.clock))
  | .leaveAndMaybeEndRoomTx roomId userId now deleteSpaceAfterCall, w =>
      w.leaveAndMaybeEndRoomTx roomId userId now deleteSpaceAfterCall
  | .isRoomRestrictedUser roomId userId, w => (w.restrictedUsers.contains (roomId, userId), w)
  | .addRoomRestrictedUser roomId userId, w =>
      ((), { w with restrictedUsers := (roomId, userId) :: w.restrictedUsers })
  | .findFriendInvite roomId userId, w =>
      (w.friendInvites.any fun invite => invite.roomId = roomId && invite.inviteeUserId = userId &&
        (invite.status = .pending || invite.status = .accepted), w)
  | .findFriendInviteById inviteId, w => (w.friendInvites.find? (·.id = inviteId), w)
  | .setFriendInviteStatus inviteId status, w =>
      ((), w.setFriendInviteStatus (·.id = inviteId) status)
  | .cancelFriendInviteForRoomInvitee roomId userId, w =>
      ((), w.setFriendInviteStatus (fun invite => invite.roomId = roomId &&
        invite.inviteeUserId = userId && (invite.status = .pending || invite.status = .accepted))
        .cancelled)
  | .runExpandDirectAcceptTransaction params, w => w.runExpandDirectAcceptTransaction params
  | .createConnectionCallRoom roomId hostUserId, w =>
      ((), w.createConnectionCallRoom roomId hostUserId)
  | .findConversation conversationId, w => (w.conversations conversationId, w)
  | .hasCallCategory, w => (w.callCategory, w)
  | .isAcceptedPeer userId peerUserId, w =>
      (w.connections.contains (userId, peerUserId) ||
        w.connections.contains (peerUserId, userId), w)
  | .isGuest userId, w => (w.guests.contains userId, w)
  | .anyUserIdIsGuest userIds, w => (userIds.any w.guests.contains, w)
  | .delSessionRoom roomId, w => ((), w.setSessionRoom roomId none)
  | .hsetSessionRoom roomId session, w =>
      ((), w.setSessionRoom roomId (some (((w.sessionRooms roomId).getD {}).hset session)))
  | .hgetallSessionRoom roomId, w => (w.sessionRooms roomId, w)
  | .existsSessionRoom roomId, w => ((w.sessionRooms roomId).isSome, w)
  | .hgetLobbyGateActive roomId, w => ((w.sessionRooms roomId).bind (·.lobbyGateActive), w)
  | .setUserActiveRtcRoom userId roomId, w => ((), w.setUserActiveRtcRoom userId roomId)
  | .clearUserActiveRtcRoom userId, w => ((), w.clearUserActiveRtcRoom userId)
  | .getUserActiveRtcRoom userId, w => (w.activeRtcRoom userId, w)
  | .getUserActiveRtcRoomVerified userId, w => w.getUserActiveRtcRoomVerified userId
  | .isOnline userId, w => (w.online userId, w)
  | .call c, w => ((Calls.exec c w.calls).1, { w with calls := (Calls.exec c w.calls).2 })
  | .randomUUID, w => (w.uuids w.uuidsDrawn, { w with uuidsDrawn := w.uuidsDrawn + 1 })
  | .send message, w => ((), w.send message)
  | .expiredSessionRoom roomId, w => ((), w.setSessionRoom roomId none)
  | .elapsed ms, w => ((), { w with clock := w.clock + ms })

abbrev M := Interleaving.Prog Cmd Cmd.Reply

/-- The program that issues one command. -/
abbrev issue (c : Cmd) : M c.Reply := Interleaving.Prog.perform c

end Greetup.Rooms
