import Greetup.Interleaving.Together
import Greetup.Spaces.Types

/-!
The requests of hosts, and what else writes the same tables at the same time.

A transaction is one command. Other services change what is read here and is
not written, rooms and who is in them, and invitees answer.
-/

namespace Greetup.Spaces

open Interleaving
open Interleaving.Prog
open Matching (Text trim)
open Rooms (UserId RoomId RoomRow RoomStatus RoomType RoomVisibility RoomAdvancedOptions
  ParticipantRow ParticipantTable computeRoomExpiryFields mergeRoomAdvancedOptions)

/-! ### The world -/

structure UserNames where
  displayName : Option String
  name : String

/-- What is read here and written by others. -/
structure Elsewhere where
  categories : String → Option RoomCategory
  /-- requester and addressee of every accepted connection -/
  accepted : List (UserId × UserId)
  preferences : UserId → Option RoomInvitePreferences
  users : UserId → Option UserNames
  /-- the users with a presence hash -/
  online : UserId → Bool
  /-- the rooms that people are in a call in -/
  activeRtcRoom : UserId → Option RoomId

/-- The hash `room:{id}`. -/
structure SpaceSession where
  hostUserId : UserId
  roomType : RoomType
  title : String
  lobbyGateActive : Bool

structure World where
  elsewhere : Elsewhere
  rooms : SpaceTable
  participants : ParticipantTable
  friendInvites : FriendInviteTable
  notifications : NotificationTable
  sessions : RoomId → Option SpaceSession
  /-- what the database draws as the id of a room, row after row -/
  uuids : ℕ → Text
  uuidsDrawn : ℕ
  clock : ℤ

/-! ### Transactions -/

structure CreateRoomParams where
  categoryId : String
  hostUserId : UserId
  title : String
  description : Option String
  visibility : RoomVisibility
  maxParticipants : ℕ
  scheduledStartAt : Option ℤ
  scheduledEndAt : Option ℤ
  status : RoomStatus
  startedAt : Option ℤ
  inviteCode : Option String
  advancedOptions : RoomAdvancedOptions
  inviteeUserIds : List UserId
  roomType : RoomType

/-- `INSERT … ON CONFLICT DO NOTHING` -/
def insertPending (roomId : RoomId) (inviterUserId : UserId) (ids : List UserId)
    (invites : FriendInviteTable) : FriendInviteTable :=
  ids.foldl (fun invites inviteeUserId =>
    invites.insert ⟨roomId, inviterUserId, inviteeUserId, .pending⟩ id fun _ => rfl) invites

def CreateRoomParams.row (params : CreateRoomParams) (id : RoomId) (now : ℤ) : SpaceRow :=
  let fields := computeRoomExpiryFields
    ⟨⟨params.scheduledStartAt, params.scheduledEndAt, params.advancedOptions⟩, params.status⟩ now
  { id, hostUserId := params.hostUserId, title := params.title
    visibility := params.visibility, maxParticipants := params.maxParticipants
    scheduledStartAt := params.scheduledStartAt, scheduledEndAt := params.scheduledEndAt
    status := params.status, startedAt := params.startedAt, endedAt := none
    expiresAt := fields.expiresAt, isExpired := fields.isExpired
    rtcRoomId := if params.status = .live then some id else none
    advancedOptions := params.advancedOptions, roomType := params.roomType
    sessionKind := if params.roomType = .space then .space else .match_
    categoryId := params.categoryId, description := params.description
    inviteCode := params.inviteCode }

/-- Creates room, host row, and friend invites in one transaction. -/
def World.createRoomWithHostAndInvites (w : World) (params : CreateRoomParams) :
    SpaceRow × World :=
  let row := params.row (w.uuids w.uuidsDrawn) w.clock
  (row, { w with
    uuidsDrawn := w.uuidsDrawn + 1
    rooms := w.rooms.insert row id fun _ => rfl
    participants := w.participants.insert ⟨row.id, params.hostUserId, .host, none⟩ id fun _ => rfl
    friendInvites := insertPending row.id params.hostUserId params.inviteeUserIds w.friendInvites })

structure UpdateScheduledSpaceParams where
  roomId : RoomId
  hostUserId : UserId
  title : Option String
  categoryId : Option String
  description : Patch String
  visibility : Option RoomVisibility
  maxParticipants : Option ℕ
  scheduledStartAt : Option ℤ
  scheduledEndAt : Patch ℤ
  advancedOptionsPatch : Option RoomAdvancedOptionsPatch
  inviteCode : Patch String
  invitedUserIds : Option (List UserId)

inductive UpdateRefusal
  | notFound
  | invalidSchedule
  | invalidEnd
  | roomFull
  deriving DecidableEq

/-- The row with the fields that are given, and its expiry recomputed. -/
def UpdateScheduledSpaceParams.next (params : UpdateScheduledSpaceParams) (room : SpaceRow)
    (now : ℤ) : SpaceRow :=
  let startAt := params.scheduledStartAt.or room.scheduledStartAt
  let endAt := params.scheduledEndAt.getD room.scheduledEndAt
  let advancedOptions :=
    match params.advancedOptionsPatch with
    | some patch =>
        if patch = {} then room.advancedOptions
        else mergeRoomAdvancedOptions (patch.apply room.advancedOptions)
    | none => room.advancedOptions
  let fields := computeRoomExpiryFields ⟨⟨startAt, endAt, advancedOptions⟩, .scheduled⟩ now
  { room with
    title := (params.title.map trim).getD room.title
    categoryId := params.categoryId.getD room.categoryId
    description := params.description.getD room.description
    visibility := params.visibility.getD room.visibility
    maxParticipants := params.maxParticipants.getD room.maxParticipants
    inviteCode := params.inviteCode.getD room.inviteCode
    scheduledStartAt := startAt
    scheduledEndAt := endAt
    advancedOptions
    expiresAt := fields.expiresAt
    isExpired := fields.isExpired }

/-- Pending invites are synced to the list; accepted rows are kept. -/
def syncPending (roomId : RoomId) (inviterUserId : UserId) (ids : List UserId)
    (invites : FriendInviteTable) : FriendInviteTable :=
  insertPending roomId inviterUserId ids
    (invites.delete fun invite => invite.roomId = roomId && invite.status = .pending &&
      !ids.contains invite.inviteeUserId)

/-- Who is in the room. -/
def World.activeUserIds (w : World) (roomId : RoomId) : List UserId :=
  (w.participants.rows.filter fun row => row.roomId = roomId && row.leftAt.isNone).map (·.userId)

/-- Why the transaction ends without an update. -/
def World.refusal (w : World) (params : UpdateScheduledSpaceParams) (room : SpaceRow) :
    Option UpdateRefusal :=
  let next := params.next room w.clock
  if room.hostUserId ≠ params.hostUserId ∨ room.roomType ≠ .space ∨ room.status ≠ .scheduled then
    some .notFound
  else if params.maxParticipants.any (· < (w.activeUserIds params.roomId).length) then
    some .roomFull
  else if next.scheduledStartAt.all (· ≤ w.clock) then some .invalidSchedule
  else if next.scheduledStartAt.any fun startAt => next.scheduledEndAt.any (· ≤ startAt) then
    some .invalidEnd
  else none

/-- Host-only: update a scheduled space. -/
def World.updateScheduledSpaceByHost (w : World) (params : UpdateScheduledSpaceParams) :
    Except UpdateRefusal SpaceRow × World :=
  match w.rooms.find params.roomId with
  | none => (.error .notFound, w)
  | some room =>
      match w.refusal params room with
      | some refusal => (.error refusal, w)
      | none =>
          let next := params.next room w.clock
          (.ok next, { w with
            rooms := w.rooms.update (·.id = params.roomId) (params.next · w.clock) fun _ => rfl
            friendInvites :=
              match params.invitedUserIds with
              | some ids => syncPending params.roomId params.hostUserId ids w.friendInvites
              | none => w.friendInvites })

/-- Host cancels a scheduled space before it goes live. -/
def World.cancelScheduledSpaceByHost (w : World) (roomId : RoomId) (hostUserId : UserId) :
    Bool × World :=
  let cond (room : SpaceRow) : Bool := room.id = roomId && room.hostUserId = hostUserId &&
    room.roomType = .space && room.status = .scheduled
  (w.rooms.rows.any cond,
    { w with rooms := w.rooms.update cond (fun room =>
        { room with status := .cancelled }) fun _ => rfl })

/-! ### Commands -/

inductive Cmd
  | now
  | findActiveCategoryById (categoryId : String)
  | findAcceptedPeerIdColumns (userId : UserId)
  | getRoomInvitePreferencesForUsers (userIds : List UserId)
  | findRoomById (roomId : RoomId)
  | isUserRoomParticipant (roomId : RoomId) (userId : UserId)
  | existsPresence (userId : UserId)
  | peersCallStatusForUser (userId : UserId)
  | findFriendInviteByRoomAndInvitee (roomId : RoomId) (inviteeUserId : UserId)
  | findDisplayLabelForUser (userId : UserId)
  | listPendingInviteeUserIds (roomId : RoomId)
  | listActiveFriendInviteeUserIds (roomId : RoomId)
  | listActiveParticipantUserIds (roomId : RoomId)
  | createRoomWithHostAndInvites (params : CreateRoomParams)
  | updateScheduledSpaceByHost (params : UpdateScheduledSpaceParams)
  | cancelScheduledSpaceByHost (roomId : RoomId) (hostUserId : UserId)
  | upsertPendingFriendInvite (roomId : RoomId) (inviterUserId inviteeUserId : UserId)
  | emitRoomInvite (roomId : RoomId) (inviterUserId inviteeUserId : UserId)
      (inviterDisplayName roomTitle : String) (currentParticipantNames : List String)
  | provisionSessionRoomRedis (roomId : RoomId) (session : SpaceSession)
  | findActorSnapshotByUserId (actorUserId : UserId)
  | createNotification (input : CreateNotificationInput)
  | emitToUser (userId : UserId) (notification : Notification)
  | markRead (userId : UserId) (key : DedupeKey)
  | markAllRead (userId : UserId)
  | change (f : Elsewhere → Elsewhere)
  | changeRooms (f : SpaceTable → SpaceTable)
  | changeParticipants (f : ParticipantTable → ParticipantTable)
  | answerInvite (roomId : RoomId) (inviteeUserId : UserId) (status : FriendInviteStatus)
  | tick (ms : ℕ)

@[reducible] def Cmd.Reply : Cmd → Type
  | .now => ℤ
  | .findActiveCategoryById _ => Option RoomCategory
  | .findAcceptedPeerIdColumns _ => List (UserId × UserId)
  | .getRoomInvitePreferencesForUsers _ => UserId → Option RoomInvitePreferences
  | .findRoomById _ => Option SpaceRow
  | .isUserRoomParticipant _ _ | .existsPresence _ => Bool
  | .peersCallStatusForUser _ => Option RoomId
  | .findFriendInviteByRoomAndInvitee _ _ => Option FriendInvite
  | .findDisplayLabelForUser _ => String
  | .listPendingInviteeUserIds _ | .listActiveFriendInviteeUserIds _
  | .listActiveParticipantUserIds _ => List UserId
  | .createRoomWithHostAndInvites _ => SpaceRow
  | .updateScheduledSpaceByHost _ => Except UpdateRefusal SpaceRow
  | .cancelScheduledSpaceByHost _ _ => Bool
  | .findActorSnapshotByUserId _ => Option String
  | .createNotification _ => Option Notification
  | .markRead _ _ => Bool
  | .markAllRead _ => ℕ
  | _ => Unit

def Notification.isFor (userId : UserId) (notification : Notification) : Bool :=
  notification.recipientUserId = userId

def Notification.read (notification : Notification) : Notification :=
  { notification with isRead := true }

theorem Notification.dedupeKey_read (notification : Notification) :
    notification.read.dedupeKey = notification.dedupeKey := rfl

/-- The row, unless one has its key. -/
def World.createNotification (w : World) (input : CreateNotificationInput) :
    Option Notification × World :=
  match w.notifications.find input.dedupeKey with
  | some _ => (none, w)
  | none =>
      (some ⟨input, false⟩, { w with
        notifications := w.notifications.insert ⟨input, false⟩ id fun _ => rfl })

def World.markRead (w : World) (p : Notification → Bool) : World :=
  { w with notifications := w.notifications.update p Notification.read Notification.dedupeKey_read }

def World.displayLabel (w : World) (userId : UserId) : String :=
  match w.elsewhere.users userId with
  | some user =>
      let displayName := trim (user.displayName.getD "")
      let name := trim user.name
      if displayName ≠ "" then displayName else if name ≠ "" then name else "Member"
  | none => "Member"

/-- Invites of the room with one of the statuses. -/
def World.invitees (w : World) (roomId : RoomId) (statuses : List FriendInviteStatus) :
    List UserId :=
  (w.friendInvites.rows.filter fun invite =>
    invite.roomId = roomId && statuses.contains invite.status).map (·.inviteeUserId)

def exec : (c : Cmd) → World → c.Reply × World
  | .now, w => (w.clock, w)
  | .findActiveCategoryById categoryId, w => (w.elsewhere.categories categoryId, w)
  | .findAcceptedPeerIdColumns userId, w =>
      (w.elsewhere.accepted.filter fun row => row.1 = userId || row.2 = userId, w)
  | .getRoomInvitePreferencesForUsers userIds, w =>
      (fun userId => if userId ∈ userIds then w.elsewhere.preferences userId else none, w)
  | .findRoomById roomId, w => (w.rooms.find roomId, w)
  | .isUserRoomParticipant roomId userId, w => ((w.activeUserIds roomId).contains userId, w)
  | .existsPresence userId, w => (w.elsewhere.online userId, w)
  | .peersCallStatusForUser userId, w => (w.elsewhere.activeRtcRoom userId, w)
  | .findFriendInviteByRoomAndInvitee roomId inviteeUserId, w =>
      (w.friendInvites.find (roomId, inviteeUserId), w)
  | .findDisplayLabelForUser userId, w => (w.displayLabel userId, w)
  | .listPendingInviteeUserIds roomId, w => (w.invitees roomId [.pending], w)
  | .listActiveFriendInviteeUserIds roomId, w => (w.invitees roomId [.pending, .accepted], w)
  | .listActiveParticipantUserIds roomId, w => (w.activeUserIds roomId, w)
  | .createRoomWithHostAndInvites params, w => w.createRoomWithHostAndInvites params
  | .updateScheduledSpaceByHost params, w => w.updateScheduledSpaceByHost params
  | .cancelScheduledSpaceByHost roomId hostUserId, w =>
      w.cancelScheduledSpaceByHost roomId hostUserId
  | .upsertPendingFriendInvite roomId inviterUserId inviteeUserId, w =>
      ((), { w with
        friendInvites := w.friendInvites.insert ⟨roomId, inviterUserId, inviteeUserId, .pending⟩
          (fun invite => { invite with inviterUserId, status := .pending }) fun _ => rfl })
  | .emitRoomInvite _ _ _ _ _ _, w => ((), w)
  | .provisionSessionRoomRedis roomId session, w =>
      ((), { w with sessions := Function.update w.sessions roomId (some session) })
  | .findActorSnapshotByUserId actorUserId, w =>
      ((w.elsewhere.users actorUserId).map fun user => user.displayName.getD user.name, w)
  | .createNotification input, w => w.createNotification input
  | .emitToUser _ _, w => ((), w)
  | .markRead userId key, w =>
      (w.notifications.rows.any fun row => row.dedupeKey = key && row.isFor userId,
        w.markRead fun row => row.dedupeKey = key && row.isFor userId)
  | .markAllRead userId, w =>
      (w.notifications.rows.countP fun row => row.isFor userId && !row.isRead,
        w.markRead fun row => row.isFor userId && !row.isRead)
  | .change f, w => ((), { w with elsewhere := f w.elsewhere })
  | .changeRooms f, w => ((), { w with rooms := f w.rooms })
  | .changeParticipants f, w => ((), { w with participants := f w.participants })
  | .answerInvite roomId inviteeUserId status, w =>
      ((), { w with
        friendInvites := w.friendInvites.update
          (fun invite => invite.roomId = roomId && invite.inviteeUserId = inviteeUserId)
          (fun invite => { invite with status }) fun _ => rfl })
  | .tick ms, w => ((), { w with clock := w.clock + ms })

abbrev SpaceM (α : Type) : Type := Prog Cmd Cmd.Reply α

abbrev issue (c : Cmd) : SpaceM c.Reply := perform c

/-- What throws goes no further. -/
def andThen {ε α β : Type} (p : SpaceM (Except ε α)) (f : α → SpaceM (Except ε β)) :
    SpaceM (Except ε β) := do
  match ← p with
  | .error error => return .error error
  | .ok a => f a

end Greetup.Spaces
