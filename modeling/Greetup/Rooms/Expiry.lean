import Greetup.Rooms.Rows

/-!
The time rules of a room: the booking of a scheduled space, the cap of a live
session, and `expires_at`.
-/

namespace Greetup.Rooms

/-- Max continuous live duration of a direct call. -/
def directSessionMaxMs : ℤ := 2 * 60 * 60 * 1000

/-- Max continuous live duration of a space call. -/
def spaceSessionMaxMs : ℤ := 3 * 60 * 60 * 1000

def scheduledEmptyRoomGraceMs : ℤ := 2 * 60 * 60 * 1000

def directSessionMaxMinutes : ℤ := directSessionMaxMs / 60000
def spaceSessionMaxMinutes : ℤ := spaceSessionMaxMs / 60000
def scheduledEmptyRoomGraceMinutes : ℤ := scheduledEmptyRoomGraceMs / 60000

def scheduledJoinGraceAfterStartMinutes : ℤ := 120

structure ScheduledCalendarEndInput where
  scheduledStartAt : Option ℤ
  scheduledEndAt : Option ℤ
  advancedOptions : RoomAdvancedOptions

/-- Inputs without a live session cap. -/
structure RoomExpiryInputs extends ScheduledCalendarEndInput where
  status : RoomStatus

structure RoomLiveSessionInputs extends RoomExpiryInputs where
  roomType : RoomType
  startedAt : Option ℤ

structure RoomExpiryFields where
  expiresAt : Option ℤ
  isExpired : Bool

/-- Start + `spaceExpirationMinutes`, if that is a positive number. -/
def addExpirationMinutes (scheduledStartAt : Option ℤ) (opts : RoomAdvancedOptions) :
    Option ℤ :=
  match scheduledStartAt, resolveSpaceExpirationMinutes opts with
  | some start, some expMins => if expMins > 0 then some (start + minutes expMins) else none
  | _, _ => none

/-- Scheduled booking end: explicit `scheduled_end_at` or start +
`spaceExpirationMinutes`. -/
def computeCalendarEndForScheduledRoom (input : ScheduledCalendarEndInput) : Option ℤ :=
  match input.scheduledEndAt with
  | some scheduledEndAt => some scheduledEndAt
  | none =>
      addExpirationMinutes input.scheduledStartAt (mergeRoomAdvancedOptions input.advancedOptions)

/-- Per-session cap from when the room went live. -/
def computeSessionCapDeadline (liveStartedAt : ℤ) (roomType : RoomType) : ℤ :=
  liveStartedAt + if roomType = .direct then directSessionMaxMs else spaceSessionMaxMs

def isPastDeadline (deadline : Option ℤ) (now : ℤ) : Bool :=
  match deadline with
  | some deadline => deadline ≤ now
  | none => false

def isLiveSessionCapExceeded (liveStartedAt : ℤ) (roomType : RoomType) (now : ℤ) : Bool :=
  isPastDeadline (some (computeSessionCapDeadline liveStartedAt roomType)) now

/-- Listing deadline: `scheduledEndAt` and/or, while scheduled, start +
`spaceExpirationMinutes`. -/
def computeRoomExpiresAt (input : RoomExpiryInputs) : Option ℤ :=
  let opts := mergeRoomAdvancedOptions input.advancedOptions
  let started :=
    if input.status = .scheduled then addExpirationMinutes input.scheduledStartAt opts else none
  let deadlines := input.scheduledEndAt.toList ++ started.toList
  deadlines.min?

/-- Live `expires_at`: session cap; for scheduled spaces the calendar end if
that is sooner. -/
def computeLiveSessionExpiresAt (input : RoomLiveSessionInputs) : Option ℤ :=
  match input.startedAt with
  | none => computeRoomExpiresAt input.toRoomExpiryInputs
  | some startedAt =>
      if input.status ≠ .live then computeRoomExpiresAt input.toRoomExpiryInputs
      else
        let sessionCap := computeSessionCapDeadline startedAt input.roomType
        if input.roomType = .direct ∨ input.scheduledStartAt = none then some sessionCap
        else
          match computeCalendarEndForScheduledRoom input.toScheduledCalendarEndInput with
          | none => some sessionCap
          | some calendarEnd => some (min sessionCap calendarEnd)

def computeIsExpired (expiresAt : Option ℤ) (now : ℤ) : Bool :=
  match expiresAt with
  | some expiresAt => expiresAt < now
  | none => false

def computeRoomExpiryFields (input : RoomExpiryInputs) (now : ℤ) : RoomExpiryFields where
  expiresAt := computeRoomExpiresAt input
  isExpired := computeIsExpired (computeRoomExpiresAt input) now

/-- The row must not back a live `room:{id}` Redis session. -/
def isDbRoomSessionClosed (row : RoomRow) (now : ℤ) : Bool :=
  row.status = .ended || row.status = .cancelled || row.isExpired ||
    computeIsExpired row.expiresAt now

section

variable {deadline : Option ℤ} {now t : ℤ}

theorem computeIsExpired_iff :
    computeIsExpired deadline now ↔ ∃ d, deadline = some d ∧ d < now := by
  cases deadline with
  | none => simp [computeIsExpired]
  | some d => simp [computeIsExpired]

theorem isLiveSessionCapExceeded_iff {roomType : RoomType} :
    isLiveSessionCapExceeded t roomType now ↔ computeSessionCapDeadline t roomType ≤ now := by
  simp [isLiveSessionCapExceeded, isPastDeadline]

end

end Greetup.Rooms
