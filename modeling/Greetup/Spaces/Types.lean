import Greetup.Data.Distinct
import Greetup.Rooms.Expiry
import Greetup.Sql.Table

/-!
Spaces that are created, planned and cancelled by their hosts, the friend
invites that come with them, and the notifications that tell of them.
-/

namespace Greetup.Spaces

open Data (distinctBy distinctBy_sublist exists_mem_distinctBy length_distinctBy_le
  nodup_map_distinctBy)
open Matching (Host Text trim)
open Rooms (UserId RoomId RoomRow RoomStatus RoomType RoomVisibility RoomAdvancedOptions
  ParticipantRow ParticipantTable)

/-! ### Rows -/

structure SpaceRow extends RoomRow where
  categoryId : String
  description : Option String
  inviteCode : Option String
  deriving DecidableEq

inductive FriendInviteStatus
  | pending
  | accepted
  | declined
  | cancelled
  deriving DecidableEq

structure FriendInvite where
  roomId : RoomId
  inviterUserId : UserId
  inviteeUserId : UserId
  status : FriendInviteStatus
  deriving DecidableEq

abbrev SpaceTable := Sql.Table fun row : SpaceRow => row.id

/-- `room_friend_invites`, with its unique index on room and invitee. -/
abbrev FriendInviteTable := Sql.Table fun invite : FriendInvite =>
  (invite.roomId, invite.inviteeUserId)

structure RoomCategory where
  slug : String

/-- `ROOM_CATEGORY_SLUGS_HIDDEN_FROM_PICKER` -/
def roomCategorySlugsHiddenFromPicker : List String :=
  ["match", "connection", "connection_call", "connection-call"]

def normalizeCategorySlug [Host] (slug : String) : String :=
  (Matching.normalize slug).map fun c => if c = '-' then '_' else c

def isRoomCategoryPickable [Host] (slug : String) : Bool :=
  !roomCategorySlugsHiddenFromPicker.contains (normalizeCategorySlug slug)

inductive RoomInvitePolicy
  | allConnections
  | selectedOnly
  deriving DecidableEq

structure RoomInvitePreferences where
  policy : RoomInvitePolicy
  allowlistedUserIds : List UserId

def RoomInvitePreferences.default : RoomInvitePreferences := ⟨.allConnections, []⟩

/-- Whether the host may add the invitee to a room's friend invites. -/
def canHostInviteUserToRoom (hostUserId : UserId) (inviteePrefs : RoomInvitePreferences) : Bool :=
  match inviteePrefs.policy with
  | .allConnections => true
  | .selectedOnly => inviteePrefs.allowlistedUserIds.contains hostUserId

/-! ### Notifications -/

inductive NotificationType
  | connectionRequestReceived
  | connectionRequestAccepted
  | spaceInviteReceived
  | spaceStarted
  deriving DecidableEq

/-- The parts of `dedupe_key`; none of the ids has a colon in it. -/
inductive DedupeKey
  | connectionRequestReceived (connectionId : Text) (recipientUserId : UserId) (salt : String)
  | connectionRequestAccepted (connectionId : Text) (recipientUserId : UserId)
  | spaceInviteReceived (roomId : RoomId) (recipientUserId : UserId)
  | spaceStarted (roomId : RoomId) (recipientUserId : UserId)
  deriving DecidableEq

structure CreateNotificationInput where
  recipientUserId : UserId
  actorUserId : UserId
  type : NotificationType
  entityId : Text
  title : String
  body : String
  deepLink : String
  dedupeKey : DedupeKey
  deriving DecidableEq

structure Notification extends CreateNotificationInput where
  isRead : Bool
  deriving DecidableEq

/-- `notifications`, with its unique index on the key. -/
abbrev NotificationTable := Sql.Table fun notification : Notification => notification.dedupeKey

/-! ### Requests -/

inductive ScheduleMode
  | instant
  | scheduled
  deriving DecidableEq

/-- `LAUNCH_MAX_SPACE_PARTICIPANTS` -/
def launchMaxSpaceParticipants : ℕ := 8

/-- What `createSpaceBodySchema` lets through. -/
structure CreateSpaceBody where
  roomType : Option RoomType
  categoryId : String
  title : String
  description : Option String
  visibility : RoomVisibility
  maxParticipants : ℕ
  scheduleMode : ScheduleMode
  scheduledStartAt : Option ℤ
  scheduledEndAt : Option ℤ
  advancedOptions : RoomAdvancedOptions
  invitedUserIds : List String
  two_le : 2 ≤ maxParticipants
  le_launch : maxParticipants ≤ launchMaxSpaceParticipants
  invited_le : invitedUserIds.length ≤ maxParticipants - 1
  starts : scheduleMode = .scheduled → scheduledStartAt.isSome = true
  ends_later : ∀ startAt ∈ scheduledStartAt, ∀ endAt ∈ scheduledEndAt, startAt < endAt

/-- A field that may be missing, and may be null. -/
abbrev Patch (α : Type) : Type := Option (Option α)

structure RoomAdvancedOptionsPatch where
  shouldHostStartMeeting : Option Bool := none
  shouldMeetingAutoStart : Option Bool := none
  spaceExpirationMinutes : Patch ℤ := none
  deleteSpaceAfterCall : Option Bool := none
  hostControlsActiveSpeaker : Option Bool := none
  deriving DecidableEq

/-- `{ ...opts, ...patch }` -/
def RoomAdvancedOptionsPatch.apply (patch : RoomAdvancedOptionsPatch)
    (opts : RoomAdvancedOptions) : RoomAdvancedOptions where
  shouldHostStartMeeting := patch.shouldHostStartMeeting.or opts.shouldHostStartMeeting
  shouldMeetingAutoStart := patch.shouldMeetingAutoStart.or opts.shouldMeetingAutoStart
  spaceExpirationMinutes := patch.spaceExpirationMinutes.getD opts.spaceExpirationMinutes
  deleteSpaceAfterCall := patch.deleteSpaceAfterCall.or opts.deleteSpaceAfterCall
  hostControlsActiveSpeaker := patch.hostControlsActiveSpeaker.or opts.hostControlsActiveSpeaker

/-- What `updateScheduledSpaceBodySchema` lets through. -/
structure UpdateScheduledSpaceBody where
  title : Option String := none
  scheduledStartAt : Option ℤ := none
  scheduledEndAt : Patch ℤ := none
  categoryId : Option String := none
  description : Patch String := none
  visibility : Option RoomVisibility := none
  maxParticipants : Option ℕ := none
  advancedOptions : Option RoomAdvancedOptionsPatch := none
  invitedUserIds : Option (List String) := none

inductive SpaceErrorCode
  | roomNotFound
  | roomNotLive
  | notParticipant
  | notConnection
  | inviteBlocked
  | inviteeOffline
  | inviteeBusy
  | alreadyInRoom
  | categoryNotFound
  | invalidSchedule
  | invalidEnd
  | roomFull
  | invalidInvitees
  | inviteeRestrictedRoomInvites
  | invitesExceedCapacity
  deriving DecidableEq

/-- `CreateSpaceError`, `UpdateScheduledSpaceError`, `DeleteScheduledSpaceError` and
`RoomInviteError`, with the status that the controller answers. -/
structure SpaceError where
  message : String
  code : SpaceErrorCode
  statusCode : ℕ
  deriving DecidableEq

/-- The status of a `CreateSpaceError` is up to the controller. -/
def createSpaceError (message : String) (code : SpaceErrorCode) : SpaceError :=
  ⟨message, code, if code = .categoryNotFound then 404 else 400⟩

def invitesExceedCapacityMessage (maxParticipants : ℕ) : String :=
  "You can invite at most " ++ toString (maxParticipants - 1) ++ " " ++
    (if maxParticipants - 1 = 1 then "person" else "people") ++ " for a " ++
    toString maxParticipants ++ "-seat space (you use one seat)."

/-! ### Invitees -/

/-- Trim, drop host and empty, dedupe order-preserving. -/
def normalizeInviteeIds (hostUserId : UserId) (invitedUserIds : List String) : List UserId :=
  distinctBy id ((invitedUserIds.filterMap fun raw => Text.of? (trim raw)).filter (· ≠ hostUserId))

theorem mem_normalizeInviteeIds {hostUserId userId : UserId} {invitedUserIds : List String} :
    userId ∈ normalizeInviteeIds hostUserId invitedUserIds ↔
      userId ≠ hostUserId ∧ ∃ raw ∈ invitedUserIds, Text.of? (trim raw) = some userId := by
  constructor
  · intro hmem
    have hkept := List.mem_filter.mp ((distinctBy_sublist _).subset hmem)
    exact ⟨of_decide_eq_true hkept.2, List.mem_filterMap.mp hkept.1⟩
  · rintro ⟨hne, hraw⟩
    have hkept : userId ∈ (invitedUserIds.filterMap fun raw => Text.of? (trim raw)).filter
        (· ≠ hostUserId) :=
      List.mem_filter.mpr ⟨List.mem_filterMap.mpr hraw, decide_eq_true hne⟩
    obtain ⟨b, hb, rfl⟩ : ∃ b ∈ normalizeInviteeIds hostUserId invitedUserIds, id b = id userId :=
      exists_mem_distinctBy hkept
    exact hb

theorem nodup_normalizeInviteeIds (hostUserId : UserId) (invitedUserIds : List String) :
    (normalizeInviteeIds hostUserId invitedUserIds).Nodup := by
  rw [← List.map_id (normalizeInviteeIds hostUserId invitedUserIds)]
  exact nodup_map_distinctBy _

theorem host_notMem_normalizeInviteeIds (hostUserId : UserId) (invitedUserIds : List String) :
    hostUserId ∉ normalizeInviteeIds hostUserId invitedUserIds :=
  fun hmem => (mem_normalizeInviteeIds.mp hmem).1 rfl

theorem length_normalizeInviteeIds_le (hostUserId : UserId) (invitedUserIds : List String) :
    (normalizeInviteeIds hostUserId invitedUserIds).length ≤ invitedUserIds.length :=
  calc (normalizeInviteeIds hostUserId invitedUserIds).length
      ≤ _ := length_distinctBy_le _
    _ ≤ (invitedUserIds.filterMap fun raw => Text.of? (trim raw)).length :=
        List.length_filter_le _ _
    _ ≤ invitedUserIds.length := List.length_filterMap_le _ _

/-- Recipients of a `space_started` notification, without the host. -/
def collectSpaceStartedRecipientUserIds (hostUserId : UserId) (inviteeUserIds participantUserIds :
    List UserId) : List UserId :=
  distinctBy id ((inviteeUserIds ++ participantUserIds).filter (· ≠ hostUserId))

theorem mem_collectSpaceStartedRecipientUserIds {hostUserId userId : UserId}
    {inviteeUserIds participantUserIds : List UserId}
    (h : userId ∈ collectSpaceStartedRecipientUserIds hostUserId inviteeUserIds
      participantUserIds) :
    userId ≠ hostUserId ∧ (userId ∈ inviteeUserIds ∨ userId ∈ participantUserIds) := by
  obtain ⟨hmem, hne⟩ := List.mem_filter.mp ((distinctBy_sublist _).subset h)
  exact ⟨of_decide_eq_true hne, List.mem_append.mp hmem⟩

end Greetup.Spaces
