import Greetup.Rooms.Types
import Greetup.Sql.Table
import Mathlib.Data.Int.Order.Basic

/-!
The rows of `rooms` and `room_participants`, and the options of a room. Dates
are milliseconds of the epoch, as `Date.getTime` has them.
-/

namespace Greetup.Rooms

def minutes (n : ℤ) : ℤ := n * 60000

inductive RoomVisibility
  | private_
  | public_
  deriving DecidableEq

inductive SessionKind
  | match_
  | connectionCall
  | space
  deriving DecidableEq

inductive ParticipantRole
  | host
  | participant
  deriving DecidableEq

/-! ### Options -/

/-- The stored JSON; a field may be missing. -/
structure RoomAdvancedOptions where
  shouldHostStartMeeting : Option Bool := none
  shouldMeetingAutoStart : Option Bool := none
  spaceExpirationMinutes : Option ℤ := none
  deleteSpaceAfterCall : Option Bool := none
  hostControlsActiveSpeaker : Option Bool := none
  deriving DecidableEq

def defaultRoomAdvancedOptions : RoomAdvancedOptions where
  shouldHostStartMeeting := some false
  shouldMeetingAutoStart := some true
  spaceExpirationMinutes := none
  deleteSpaceAfterCall := some false
  hostControlsActiveSpeaker := some false

/-- `shouldMeetingAutoStart` and `shouldHostStartMeeting` exclude each other. -/
def applyMeetingStartExclusivity (opts : RoomAdvancedOptions) : RoomAdvancedOptions :=
  let hostOn : Bool := opts.shouldHostStartMeeting ≠ some false
  let autoOn : Bool := opts.shouldMeetingAutoStart = some true
  let hostOn := if autoOn then false else hostOn
  let autoOn := if hostOn then false else autoOn
  { opts with shouldHostStartMeeting := some hostOn, shouldMeetingAutoStart := some autoOn }

/-- The stored fields over the defaults. -/
def mergeRoomAdvancedOptions (stored : RoomAdvancedOptions) : RoomAdvancedOptions :=
  applyMeetingStartExclusivity
    { shouldHostStartMeeting :=
        stored.shouldHostStartMeeting.or defaultRoomAdvancedOptions.shouldHostStartMeeting
      shouldMeetingAutoStart :=
        stored.shouldMeetingAutoStart.or defaultRoomAdvancedOptions.shouldMeetingAutoStart
      spaceExpirationMinutes :=
        stored.spaceExpirationMinutes.or defaultRoomAdvancedOptions.spaceExpirationMinutes
      deleteSpaceAfterCall :=
        stored.deleteSpaceAfterCall.or defaultRoomAdvancedOptions.deleteSpaceAfterCall
      hostControlsActiveSpeaker :=
        stored.hostControlsActiveSpeaker.or defaultRoomAdvancedOptions.hostControlsActiveSpeaker }

def resolveSpaceExpirationMinutes (opts : RoomAdvancedOptions) : Option ℤ :=
  opts.spaceExpirationMinutes

theorem applyMeetingStartExclusivity_not_both (opts : RoomAdvancedOptions)
    (hauto : (applyMeetingStartExclusivity opts).shouldMeetingAutoStart = some true) :
    (applyMeetingStartExclusivity opts).shouldHostStartMeeting = some false := by
  by_cases hon : opts.shouldMeetingAutoStart = some true
  · simp [applyMeetingStartExclusivity, hon]
  · simp [applyMeetingStartExclusivity, hon] at hauto

/-! ### Rows -/

structure RoomRow where
  id : RoomId
  hostUserId : UserId
  title : String
  visibility : RoomVisibility
  maxParticipants : ℕ
  scheduledStartAt : Option ℤ := none
  scheduledEndAt : Option ℤ := none
  status : RoomStatus
  startedAt : Option ℤ := none
  endedAt : Option ℤ := none
  expiresAt : Option ℤ := none
  isExpired : Bool := false
  rtcRoomId : Option RoomId := none
  advancedOptions : RoomAdvancedOptions := {}
  roomType : RoomType
  sessionKind : SessionKind
  deriving DecidableEq

structure ParticipantRow where
  roomId : RoomId
  userId : UserId
  role : ParticipantRole
  leftAt : Option ℤ
  deriving DecidableEq

abbrev RoomTable := Sql.Table RoomRow.id

/-- `room_participants`, with its unique index on room and user. -/
abbrev ParticipantTable := Sql.Table fun p : ParticipantRow => (p.roomId, p.userId)

end Greetup.Rooms
