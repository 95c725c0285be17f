import Greetup.Rooms.Expiry

/-!
When a session has to end, as the service decides it from a room row.
-/

namespace Greetup.Rooms

inductive RoomSessionEndReason
  | hostEndForEveryone
  | expiresAtPast
  | joinGraceMissed
  | sessionCap
  | calendarEnd
  | emptyRoom2h
  | deleteSpaceAfterCall
  | matchFinalized
  | connectionCallEnded
  | reconciledOnAccess
  deriving DecidableEq

structure ParticipantPresence where
  activeCount : ℕ
  lastLeftAt : Option ℤ

def joinGraceDeadline (scheduledStartAt : ℤ) : ℤ :=
  scheduledStartAt + minutes scheduledJoinGraceAfterStartMinutes

/-- Scheduled, and nobody has started it in time. -/
def isJoinGraceMissed (room : RoomRow) (now : ℤ) : Bool :=
  room.status = .scheduled && room.roomType = .space &&
    room.scheduledStartAt.any fun scheduledStartAt => joinGraceDeadline scheduledStartAt ≤ now

/-- Marked as expired, or past `expires_at`. -/
def hasExpired (room : RoomRow) (now : ℤ) : Bool :=
  room.isExpired || computeIsExpired room.expiresAt now

def isSessionCapExceeded (room : RoomRow) (now : ℤ) : Bool :=
  room.startedAt.any (isLiveSessionCapExceeded · room.roomType now)

/-- The booking of a space is at its end. -/
def isCalendarEndPast (room : RoomRow) (now : ℤ) : Bool :=
  room.roomType = .space && room.scheduledStartAt.any fun scheduledStartAt =>
    isPastDeadline
      (computeCalendarEndForScheduledRoom
        ⟨some scheduledStartAt, room.scheduledEndAt, room.advancedOptions⟩) now

/-- Nobody is active, the booking has begun, and the last one left (or the
session began) too long ago. -/
def isEmptyTooLong (room : RoomRow) (presence : ParticipantPresence) (now : ℤ) : Bool :=
  presence.activeCount = 0 && !(room.scheduledStartAt.any (now < ·)) &&
    (presence.lastLeftAt.or room.startedAt).any (scheduledEmptyRoomGraceMs ≤ now - ·)

/-- The first matching end reason, or `none` if access may proceed without
teardown. -/
def evaluateRoomSessionEndReason (room : RoomRow) (presence : ParticipantPresence) (now : ℤ) :
    Option RoomSessionEndReason :=
  if isJoinGraceMissed room now then some .joinGraceMissed
  else if room.status ≠ .live then none
  else if hasExpired room now then some .expiresAtPast
  else if isSessionCapExceeded room now then some .sessionCap
  else if isCalendarEndPast room now then some .calendarEnd
  else if isEmptyTooLong room presence now then some .emptyRoom2h
  else none

def roomSessionClosedMessage (reason : Option RoomSessionEndReason) : String :=
  match reason with
  | some .emptyRoom2h =>
      "This space has ended — no one has been in the call for over 2 hours."
  | some .sessionCap => "This call has reached its time limit."
  | some .calendarEnd => "This scheduled meeting has ended."
  | some .joinGraceMissed => "This scheduled space is no longer available."
  | _ => "This room session is no longer available."

section

variable {room : RoomRow} {presence : ParticipantPresence} {now : ℤ}

theorem isJoinGraceMissed_iff : isJoinGraceMissed room now ↔
    room.status = .scheduled ∧ room.roomType = .space ∧
      ∃ s, room.scheduledStartAt = some s ∧ joinGraceDeadline s ≤ now := by
  simp [isJoinGraceMissed, Option.any_eq_true, and_assoc]

theorem hasExpired_iff : hasExpired room now ↔
    room.isExpired ∨ ∃ d, room.expiresAt = some d ∧ d < now := by
  rw [hasExpired, Bool.or_eq_true, computeIsExpired_iff]

theorem isSessionCapExceeded_iff : isSessionCapExceeded room now ↔
    ∃ s, room.startedAt = some s ∧ computeSessionCapDeadline s room.roomType ≤ now := by
  rw [isSessionCapExceeded, Option.any_eq_true]
  simp only [isLiveSessionCapExceeded_iff]

theorem isEmptyTooLong_iff : isEmptyTooLong room presence now ↔
    presence.activeCount = 0 ∧ (∀ s, room.scheduledStartAt = some s → s ≤ now) ∧
      ∃ t, presence.lastLeftAt.or room.startedAt = some t ∧
        t + scheduledEmptyRoomGraceMs ≤ now := by
  have hgrace : ∀ t, scheduledEmptyRoomGraceMs ≤ now - t ↔ t + scheduledEmptyRoomGraceMs ≤ now := by
    intro t
    omega
  have hbegun : room.scheduledStartAt.any (now < ·) = false ↔
      ∀ s, room.scheduledStartAt = some s → s ≤ now := by
    rw [Option.any_eq_false]
    simp
  simp only [isEmptyTooLong, Bool.and_eq_true, Bool.not_eq_true', decide_eq_true_eq, hbegun,
    Option.any_eq_true, hgrace, and_assoc]

/-- A room that is not live is due only if it is scheduled and was not started
in time. -/
theorem evaluate_of_not_live (h : room.status ≠ .live) :
    evaluateRoomSessionEndReason room presence now =
      if isJoinGraceMissed room now then some .joinGraceMissed else none := by
  rw [evaluateRoomSessionEndReason, if_pos h]

theorem not_isJoinGraceMissed_of_live (h : room.status = .live) :
    isJoinGraceMissed room now = false := by
  simp [isJoinGraceMissed, h]

/-- The rules for a live room, in their order. -/
theorem evaluate_of_live (h : room.status = .live) :
    evaluateRoomSessionEndReason room presence now =
      if hasExpired room now then some .expiresAtPast
      else if isSessionCapExceeded room now then some .sessionCap
      else if isCalendarEndPast room now then some .calendarEnd
      else if isEmptyTooLong room presence now then some .emptyRoom2h
      else none := by
  rw [evaluateRoomSessionEndReason, not_isJoinGraceMissed_of_live h, if_neg (by simp),
    if_neg (not_not.mpr h)]

/-- A live room is due as soon as one rule says so. -/
theorem evaluate_ne_none_of_live (h : room.status = .live) :
    evaluateRoomSessionEndReason room presence now ≠ none ↔
      hasExpired room now ∨ isSessionCapExceeded room now ∨ isCalendarEndPast room now ∨
        isEmptyTooLong room presence now := by
  rw [evaluate_of_live h]
  split_ifs <;> simp_all

end

end Greetup.Rooms
