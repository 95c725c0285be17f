import Greetup.Rooms.SessionEval
import Greetup.Sql.Truth

/-!
When a session has to end, as the sweep decides it in SQL, and how far that is
what the service decides.

The condition has no clause for the end of a booking, and it takes `expires_at`
to be past one instant earlier than the service does. Otherwise they agree.
-/

namespace Greetup.Rooms

open Sql (Truth)

/-! ### The participants of a room -/

def leftAts (participants : ParticipantTable) (roomId : RoomId) : List (Option ℤ) :=
  (participants.rows.filter (·.roomId = roomId)).map (·.leftAt)

/-- What `loadParticipantPresence` reads with its two queries. -/
def presenceOf (participants : ParticipantTable) (roomId : RoomId) : ParticipantPresence where
  activeCount := (leftAts participants roomId).countP (· = none)
  lastLeftAt := Sql.max (leftAts participants roomId)

/-! ### The condition -/

section

variable (participants : ParticipantTable) (now : ℤ) (rooms : RoomRow)

def joinGraceMissedWhere : Truth :=
  .all [Sql.eq rooms.roomType .space,
    Sql.eq rooms.status .scheduled,
    Sql.isNotNull rooms.scheduledStartAt,
    Sql.le (Sql.plus rooms.scheduledStartAt (minutes scheduledJoinGraceAfterStartMinutes)) now]

def sessionCapWhere : Truth :=
  .all [Sql.isNotNull rooms.startedAt,
    .or (.and (Sql.eq rooms.roomType .direct)
        (Sql.le (Sql.plus rooms.startedAt (minutes directSessionMaxMinutes)) now))
      (.and (Sql.eq rooms.roomType .space)
        (Sql.le (Sql.plus rooms.startedAt (minutes spaceSessionMaxMinutes)) now))]

def emptyRoomWhere : Truth :=
  .all [.ofBool (!(leftAts participants rooms.id).contains none),
    Sql.le (Sql.plus (Sql.coalesce (Sql.max (leftAts participants rooms.id)) rooms.startedAt)
      (minutes scheduledEmptyRoomGraceMinutes)) now,
    .any [Sql.isNull rooms.scheduledStartAt, Sql.le rooms.scheduledStartAt now]]

def roomSessionSweepCandidatesWhere : Truth :=
  .any [joinGraceMissedWhere now rooms,
    .all [Sql.eq rooms.status .live,
      .or (Sql.eq rooms.roomType .direct) (Sql.eq rooms.roomType .space),
      .any [Sql.eq rooms.isExpired true,
        .all [Sql.isNotNull rooms.expiresAt, Sql.le rooms.expiresAt now],
        sessionCapWhere now rooms,
        emptyRoomWhere participants now rooms]]]

end

/-! ### What it says -/

section

variable {participants : ParticipantTable} {now : ℤ} {room : RoomRow}

theorem joinGraceMissedWhere_holds :
    (joinGraceMissedWhere now room).Holds ↔ isJoinGraceMissed room now := by
  rw [joinGraceMissedWhere, isJoinGraceMissed_iff]
  simp only [Truth.holds_all_cons, Truth.holds_all_nil, and_true, Sql.holds_eq,
    Sql.holds_isNotNull, Sql.holds_le, Sql.plus_eq_some]
  constructor
  · rintro ⟨htype, hstatus, -, z, ⟨s, hs, rfl⟩, hle⟩
    exact ⟨hstatus, htype, s, hs, hle⟩
  · rintro ⟨hstatus, htype, s, hs, hle⟩
    exact ⟨htype, hstatus, hs ▸ Option.some_ne_none s, _, ⟨s, hs, rfl⟩, hle⟩

/-- The caps in minutes and in milliseconds are the same. -/
theorem computeSessionCapDeadline_eq (t : ℤ) (roomType : RoomType) :
    computeSessionCapDeadline t roomType =
      t + minutes (if roomType = .direct then directSessionMaxMinutes
        else spaceSessionMaxMinutes) := by
  rw [computeSessionCapDeadline]
  split <;> rfl

theorem sessionCapWhere_holds :
    (sessionCapWhere now room).Holds ↔ isSessionCapExceeded room now := by
  rw [sessionCapWhere, isSessionCapExceeded_iff]
  simp only [Truth.holds_all_cons, Truth.holds_all_nil, and_true, Truth.holds_or, Truth.holds_and,
    Sql.holds_eq, Sql.holds_isNotNull, Sql.holds_le, Sql.plus_eq_some, computeSessionCapDeadline_eq]
  constructor
  · rintro ⟨-, ⟨htype, z, ⟨s, hs, rfl⟩, hle⟩ | ⟨htype, z, ⟨s, hs, rfl⟩, hle⟩⟩
    · exact ⟨s, hs, by rw [htype]; exact hle⟩
    · exact ⟨s, hs, by rw [htype]; exact hle⟩
  · rintro ⟨s, hs, hle⟩
    refine ⟨hs ▸ Option.some_ne_none s, ?_⟩
    cases htype : room.roomType with
    | direct =>
        rw [htype] at hle
        exact .inl ⟨rfl, _, ⟨s, hs, rfl⟩, hle⟩
    | space =>
        rw [htype] at hle
        exact .inr ⟨rfl, _, ⟨s, hs, rfl⟩, hle⟩

theorem coalesce_eq_or (x y : Option ℤ) : Sql.coalesce x y = x.or y := by
  cases x <;> rfl

theorem emptyRoomWhere_holds :
    (emptyRoomWhere participants now room).Holds ↔
      isEmptyTooLong room (presenceOf participants room.id) now := by
  have hactive : (!(leftAts participants room.id).contains none) = true ↔
      (presenceOf participants room.id).activeCount = 0 := by
    rw [presenceOf, List.countP_eq_zero, Bool.not_eq_true', ← Bool.not_eq_true,
      List.contains_iff_mem]
    constructor
    · intro h x hx hnone
      exact h (of_decide_eq_true hnone ▸ hx)
    · intro h hmem
      exact h none hmem (decide_eq_true rfl)
  rw [emptyRoomWhere, isEmptyTooLong_iff]
  simp only [Truth.holds_all_cons, Truth.holds_all_nil, and_true, Truth.holds_ofBool, hactive,
    Truth.holds_any_cons, Truth.not_holds_any_nil, or_false, Sql.holds_isNull, Sql.holds_le,
    Sql.plus_eq_some, coalesce_eq_or]
  constructor
  · rintro ⟨hnone, ⟨z, ⟨t, ht, rfl⟩, hle⟩, hbegun⟩
    refine ⟨hnone, fun s hs => ?_, t, ht, hle⟩
    rcases hbegun with hnull | ⟨s', hs', hle'⟩
    · rw [hnull] at hs
      cases hs
    · rw [hs] at hs'
      cases hs'
      exact hle'
  · rintro ⟨hnone, hbegun, t, ht, hle⟩
    refine ⟨hnone, ⟨_, ⟨t, ht, rfl⟩, hle⟩, ?_⟩
    cases hs : room.scheduledStartAt with
    | none => exact .inl rfl
    | some s => exact .inr ⟨s, rfl, hbegun s hs⟩

theorem roomSessionSweepCandidatesWhere_holds :
    (roomSessionSweepCandidatesWhere participants now room).Holds ↔
      isJoinGraceMissed room now ∨ room.status = .live ∧
        (room.isExpired ∨ (∃ d, room.expiresAt = some d ∧ d ≤ now) ∨
          isSessionCapExceeded room now ∨
          isEmptyTooLong room (presenceOf participants room.id) now) := by
  have htype : room.roomType = .direct ∨ room.roomType = .space := by
    cases room.roomType with
    | direct => exact .inl rfl
    | space => exact .inr rfl
  have hexpires : (room.expiresAt ≠ none ∧ ∃ d, room.expiresAt = some d ∧ d ≤ now) ↔
      ∃ d, room.expiresAt = some d ∧ d ≤ now := by
    refine and_iff_right_of_imp ?_
    rintro ⟨d, hd, -⟩
    exact hd ▸ Option.some_ne_none d
  simp only [roomSessionSweepCandidatesWhere, Truth.holds_any_cons, Truth.not_holds_any_nil,
    or_false, Truth.holds_all_cons, Truth.holds_all_nil, and_true, Truth.holds_or, Sql.holds_eq,
    Sql.holds_isNotNull, Sql.holds_le, joinGraceMissedWhere_holds, sessionCapWhere_holds,
    emptyRoomWhere_holds, htype, true_and, hexpires]

/-! ### Where the two rules agree -/

/-- **The sweep and the service.** They select the same rooms, except a live
room that no rule they share closes: the sweep alone takes it at the very
instant `expires_at`, and the service alone at the end of its booking. -/
theorem sweepCandidate_iff_due_iff (participants : ParticipantTable) (now : ℤ) (room : RoomRow) :
    ((roomSessionSweepCandidatesWhere participants now room).Holds ↔
      evaluateRoomSessionEndReason room (presenceOf participants room.id) now ≠ none) ↔
    (room.status = .live → ¬ hasExpired room now → ¬ isSessionCapExceeded room now →
      ¬ isEmptyTooLong room (presenceOf participants room.id) now →
      (room.expiresAt = some now ↔ isCalendarEndPast room now)) := by
  rw [roomSessionSweepCandidatesWhere_holds]
  by_cases hlive : room.status = .live
  · have hpast : (room.isExpired ∨ ∃ d, room.expiresAt = some d ∧ d ≤ now) ↔
        hasExpired room now ∨ room.expiresAt = some now := by
      rw [hasExpired_iff]
      constructor
      · rintro (hflag | ⟨d, hd, hle⟩)
        · exact .inl (.inl hflag)
        · rcases lt_or_eq_of_le hle with hlt | rfl
          · exact .inl (.inr ⟨d, hd, hlt⟩)
          · exact .inr hd
      · rintro ((hflag | ⟨d, hd, hlt⟩) | hnow)
        · exact .inl hflag
        · exact .inr ⟨d, hd, hlt.le⟩
        · exact .inr ⟨now, hnow, le_rfl⟩
    rw [evaluate_ne_none_of_live hlive, not_isJoinGraceMissed_of_live hlive, ← or_assoc, hpast]
    simp only [hlive, true_and, Bool.false_eq_true, false_or, forall_const]
    tauto
  · rw [evaluate_of_not_live hlive]
    simp only [hlive, false_and, or_false, false_imp_iff, iff_true]
    split <;> simp_all

namespace Sample

/-- A space booked for an hour, half an hour later. -/
def overdue : RoomRow where
  id := ⟨"book-club", by decide⟩
  hostUserId := ⟨"host-ann", by decide⟩
  title := "Book club"
  visibility := .public_
  maxParticipants := 8
  scheduledStartAt := some 0
  status := .live
  startedAt := some 0
  advancedOptions := { spaceExpirationMinutes := some 60 }
  roomType := .space
  sessionKind := .space

def atTheTable : ParticipantTable where
  rows := [⟨overdue.id, overdue.hostUserId, .host, none⟩]
  unique := List.nodup_singleton _

/-- A visitor would end it; the sweep does not see it. -/
theorem not_sweepCandidate_iff_due :
    ¬ ((roomSessionSweepCandidatesWhere atTheTable (minutes 90) overdue).Holds ↔
      evaluateRoomSessionEndReason overdue (presenceOf atTheTable overdue.id) (minutes 90) ≠
        none) := by
  decide +kernel

end Sample

end

end Greetup.Rooms
