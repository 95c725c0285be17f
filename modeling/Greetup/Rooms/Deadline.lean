import Greetup.Rooms.Participation
import Greetup.Rooms.Sweep
import Mathlib

/-!
What a join does to the end of a live room.

Whoever is newly seated in a live space has its `expires_at` computed afresh,
from the booking alone. Neither what is stored there nor the cap of the session
is taken into account.
-/

namespace Greetup.Rooms

open Interleaving Prog

variable (planner : Planner)

/-! ### The effective deadline -/

/-- No deadline is later than every deadline. -/
def asDeadline : Option ℤ → WithTop ℤ
  | none => ⊤
  | some t => t

def calendarEnd (room : RoomRow) : Option ℤ :=
  computeCalendarEndForScheduledRoom
    ⟨room.scheduledStartAt, room.scheduledEndAt, room.advancedOptions⟩

/-- The deadlines that do not depend on `expires_at`. -/
def fixedDeadline (room : RoomRow) : WithTop ℤ :=
  min (asDeadline (room.startedAt.map (computeSessionCapDeadline · room.roomType)))
    (asDeadline (calendarEnd room))

/-- The earliest of `expires_at`, the cap of the session and the end of the
booking. -/
def effectiveDeadline (room : RoomRow) : WithTop ℤ :=
  min (asDeadline room.expiresAt) (fixedDeadline room)

/-- From `w` to `w'` the room has stayed live and has a later deadline. -/
def Postponed (w w' : World) (roomId : RoomId) : Prop :=
  ∃ room room', w.rooms.find roomId = some room ∧ room.status = .live ∧
    w'.rooms.find roomId = some room' ∧ room'.status = .live ∧
      effectiveDeadline room < effectiveDeadline room'

/-- The row once `expires_at` has been computed afresh. -/
def refreshed (room : RoomRow) (now : ℤ) : RoomRow :=
  (RoomChange.expiry (computeRoomExpiryFields
    ⟨⟨room.scheduledStartAt, room.scheduledEndAt, room.advancedOptions⟩, .live⟩ now)).apply room

section

variable {room : RoomRow} {now : ℤ}

theorem computeRoomExpiresAt_live (input : ScheduledCalendarEndInput) :
    computeRoomExpiresAt ⟨input, .live⟩ = input.scheduledEndAt := by
  cases h : input.scheduledEndAt with
  | none => simp [computeRoomExpiresAt, h]
  | some t => simp [computeRoomExpiresAt, h]

theorem fixedDeadline_refreshed : fixedDeadline (refreshed room now) = fixedDeadline room := rfl

theorem calendarEnd_le_scheduledEndAt :
    asDeadline (calendarEnd room) ≤ asDeadline room.scheduledEndAt := by
  cases h : room.scheduledEndAt with
  | none => exact le_top
  | some t => simp [calendarEnd, computeCalendarEndForScheduledRoom, h]

/-- What is computed afresh is never earlier than the other deadlines. -/
theorem effectiveDeadline_refreshed :
    effectiveDeadline (refreshed room now) = fixedDeadline room := by
  have hexpires : (refreshed room now).expiresAt = room.scheduledEndAt :=
    computeRoomExpiresAt_live _
  rw [effectiveDeadline, fixedDeadline_refreshed, hexpires]
  apply min_eq_right
  calc fixedDeadline room ≤ asDeadline (calendarEnd room) := min_le_right _ _
    _ ≤ asDeadline room.scheduledEndAt := calendarEnd_le_scheduledEndAt

theorem effectiveDeadline_lt_refreshed : effectiveDeadline room <
    effectiveDeadline (refreshed room now) ↔ asDeadline room.expiresAt < fixedDeadline room := by
  rw [effectiveDeadline_refreshed, effectiveDeadline]
  simp

end

/-! ### Who is seated -/

def World.Invited (w : World) (roomId : RoomId) (userId : UserId) : Prop :=
  ∃ invite ∈ w.friendInvites, invite.roomId = roomId ∧ invite.inviteeUserId = userId ∧
    (invite.status = .pending ∨ invite.status = .accepted)

/-- A space has a seat for the user. -/
def World.Seats (w : World) (userId : UserId) (room : RoomRow) : Prop :=
  room.hostUserId = userId ∨ (room.id, userId) ∉ w.restrictedUsers ∧
    ((w.participants.find (room.id, userId)).isSome ∨
      (presenceOf w.participants room.id).activeCount < room.maxParticipants ∧
        (room.visibility = .public_ ∨ w.Invited room.id userId))

section Seat

variable {w : World} {userId : UserId} {room : RoomRow}

theorem findFriendInvite_iff {roomId : RoomId} :
    (exec planner (.findFriendInvite roomId userId) w).1 = true ↔ w.Invited roomId userId := by
  simp [exec, World.Invited, List.any_eq_true, and_assoc]

/-- Asked for a seat, `p` writes no room row, and there is one exactly if `P`. -/
structure SeatedIff (w : World) (p : M (Except AccessError Unit)) (P : Prop) : Prop where
  rooms : (p.run (exec planner) w).2.rooms = w.rooms
  clock : (p.run (exec planner) w).2.clock = w.clock
  ok : (p.run (exec planner) w).1 = .ok () ↔ P

/-- A reading first. -/
theorem SeatedIff.read {planner : Planner} {c : Cmd} {f : c.Reply → M (Except AccessError Unit)}
    {P : Prop} (hread : (exec planner c w).2 = w)
    (h : SeatedIff planner w (f (exec planner c w).1) P) :
    SeatedIff planner w (issue c >>= f) P := by
  have hrun : (issue c >>= f).run (exec planner) w =
      (f (exec planner c w).1).run (exec planner) w := by
    rw [perform_bind, run_call, hread]
  exact ⟨hrun ▸ h.rooms, hrun ▸ h.clock, hrun ▸ h.ok⟩

theorem seatedIff_addRow (isHost : Bool) (roomId : RoomId) {P : Prop} (h : P) :
    SeatedIff planner w (.ok <$> addRow isHost roomId userId) P := by
  cases isHost with
  | true => exact ⟨rfl, rfl, iff_of_true rfl h⟩
  | false => exact ⟨rfl, rfl, iff_of_true rfl h⟩

theorem seatedIff_error (error : AccessError) {P : Prop} (h : ¬ P) :
    SeatedIff planner w (return .error error) P :=
  ⟨rfl, rfl, iff_of_false (by rintro ⟨⟩) h⟩

theorem seatedIff_joinPrivate (room : RoomRow) :
    SeatedIff planner w (joinPrivate room userId) (w.Invited room.id userId) := by
  have hanswer : _ ↔ w.Invited room.id userId := findFriendInvite_iff planner
  apply SeatedIff.read rfl
  cases h : (exec planner (.findFriendInvite room.id userId) w).1 with
  | true => exact seatedIff_addRow planner false room.id (hanswer.mp h)
  | false =>
      rw [h] at hanswer
      exact seatedIff_error planner notAllowed (by simpa using hanswer)

theorem seatedIff_joinSpaceWithSeat (room : RoomRow) (n : ℕ) :
    SeatedIff planner w (joinSpaceWithSeat room userId n)
      (n < room.maxParticipants ∧ (room.visibility = .public_ ∨ w.Invited room.id userId)) := by
  rw [joinSpaceWithSeat]
  split_ifs with hfull hpublic
  · exact seatedIff_error planner _ fun h => absurd h.1 (not_lt.mpr hfull)
  · exact seatedIff_addRow planner false room.id ⟨not_le.mp hfull, .inl hpublic⟩
  · rw [and_iff_right (not_le.mp hfull), or_iff_right hpublic]
    exact seatedIff_joinPrivate planner room

theorem seatedIff_joinSpaceUnrestricted (room : RoomRow) (priorRow : Option ParticipantRow) :
    SeatedIff planner w (joinSpaceUnrestricted room userId priorRow)
      (priorRow.isSome ∨ (presenceOf w.participants room.id).activeCount < room.maxParticipants ∧
        (room.visibility = .public_ ∨ w.Invited room.id userId)) := by
  rw [joinSpaceUnrestricted]
  split_ifs with hprior
  · exact seatedIff_addRow planner false room.id (.inl hprior)
  · rw [or_iff_right hprior]
    apply SeatedIff.read rfl
    exact seatedIff_joinSpaceWithSeat planner room _

theorem seatedIff_joinSpaceIfAllowed (room : RoomRow) (isRestricted : Bool) :
    SeatedIff planner w (joinSpaceIfAllowed room userId isRestricted)
      (isRestricted = false ∧ ((w.participants.find (room.id, userId)).isSome ∨
        (presenceOf w.participants room.id).activeCount < room.maxParticipants ∧
          (room.visibility = .public_ ∨ w.Invited room.id userId))) := by
  cases isRestricted with
  | true => exact seatedIff_error planner restricted (by simp)
  | false =>
      rw [and_iff_right rfl]
      apply SeatedIff.read rfl
      exact seatedIff_joinSpaceUnrestricted planner room _

/-- **Spec of the seat in a space.** -/
theorem seatedIff_ensureSpaceRoomParticipation (w : World) (userId : UserId) (room : RoomRow) :
    SeatedIff planner w (ensureSpaceRoomParticipation room userId) (w.Seats userId room) := by
  rw [ensureSpaceRoomParticipation, World.Seats]
  split_ifs with hhost
  · exact seatedIff_addRow planner true room.id (.inl hhost)
  · have hrestricted : (room.id, userId) ∉ w.restrictedUsers ↔
        w.restrictedUsers.contains (room.id, userId) = false := by simp
    rw [or_iff_right hhost, hrestricted]
    apply SeatedIff.read rfl
    exact seatedIff_joinSpaceIfAllowed planner room _

end Seat

/-! ### A join -/

/-- The user is let in and takes a seat in the space. -/
def World.NewlySeats (w : World) (userId : UserId) (room : RoomRow) : Prop :=
  userId ∉ w.guests ∧ w.endReason room = none ∧
    isActive (w.participants.find (room.id, userId)) = false ∧ w.Seats userId room

/-- The room is a live space, the user is newly seated in it, and `expires_at`
is earlier than its other deadlines. -/
def World.JoinPostpones (w : World) (userId : UserId) (roomId : RoomId) : Prop :=
  ∃ room, w.rooms.find roomId = some room ∧ room.status = .live ∧ room.roomType = .space ∧
    w.NewlySeats userId room ∧ asDeadline room.expiresAt < fixedDeadline room

section Join

variable {w w' : World} {userId : UserId} {roomId : RoomId} {room : RoomRow}

theorem not_postponed_of_find (h : w'.rooms.find roomId = w.rooms.find roomId) :
    ¬ Postponed w w' roomId := by
  rintro ⟨room, room', hroom, -, hroom', -, hlt⟩
  rw [h, hroom] at hroom'
  cases hroom'
  exact lt_irrefl _ hlt

theorem not_postponed_of_not_live {row : RoomRow} (h : w'.rooms.find roomId = some row)
    (hlive : row.status ≠ .live) : ¬ Postponed w w' roomId := by
  rintro ⟨room, room', -, -, hroom', hlive', -⟩
  rw [h] at hroom'
  cases hroom'
  exact hlive hlive'

/-- A reconciliation postpones nothing. -/
theorem not_postponed_reconciled (h : w.rooms.find room.id = some room)
    (hlive : room.status = .live) : ¬ Postponed w (w.reconciled room.id) room.id := by
  have hsame : w.reconciled room.id = w.acted room (w.endReason room) := by
    rw [World.reconciled, h]
  rw [hsame]
  cases hreason : w.endReason room with
  | none => exact not_postponed_of_find rfl
  | some reason =>
      obtain ⟨hmissed, -, -⟩ := reason_of_live hlive hreason
      rw [acted_of_ne hmissed, World.sessionEnded]
      split
      · exact not_postponed_of_find rfl
      · obtain ⟨-, hfind, -⟩ := endLiveRoomSessionTx_of_live reason
          { notifyParticipants := some (room.roomType = .space) } w.clock h hlive
        refine not_postponed_of_not_live hfind ?_
        rw [endChange_apply_status]
        split <;> simp

theorem run_reconcile_of_live (h : w.rooms.find room.id = some room)
    (hlive : room.status = .live) : (reconcileRoomSessionOnAccess room.id).run (exec planner) w =
      (reconcileDue room (w.endReason room) w.clock).run (exec planner) w := by
  rw [reconcileRoomSessionOnAccess, findRoomById, perform_bind, run_call]
  simp only [exec, findRoom_empty, h, hlive, loadParticipantPresence]
  rfl

/-- A visit to a live room that is not due finds it open, and reads its row. -/
theorem run_assertOpen_of_none {row : RoomRow} (h : w.rooms.find room.id = some room)
    (hlive : room.status = .live) (hreason : w.endReason room = none) :
    (assertOpen room.id row).run (exec planner) w = (.ok room, w) := by
  have hopen : reconcileDue room none w.clock =
      return { closed := false, alreadyWasClosed := false, reason := none } := by
    rw [reconcileDue, reconcileNotDue, if_neg]
    simp [hlive]
  rw [assertOpen, assertRoomSessionOpenOnAccess, run_bind, run_bind,
    run_reconcile_of_live planner h hlive, hreason, hopen]
  simp only [pure_eq, run_done, Bool.false_eq_true, if_false, stillOpen, findRoomById,
    perform_bind, run_call, exec, findRoom_empty, h, Option.getD_some]

/-- A visit to a live room that is due is turned away. -/
theorem run_assertOpen_of_some {reason : RoomSessionEndReason}
    (h : w.rooms.find room.id = some room) (hlive : room.status = .live)
    (hreason : w.endReason room = some reason) :
    ∃ error, (assertOpen room.id room).run (exec planner) w =
      (.error error, ((reconcileRoomSessionOnAccess room.id).run (exec planner) w).2) := by
  obtain ⟨hmissed, -, -⟩ := reason_of_live hlive hreason
  have hclosed : ((reconcileRoomSessionOnAccess room.id).run (exec planner) w).1.closed = true := by
    rw [run_reconcile_of_live planner h hlive, hreason, reconcileDue, run_bind]
    · exact endLiveRoomSession_closes planner w room.id reason _
    · exact hmissed
  rw [assertOpen, assertRoomSessionOpenOnAccess, run_bind, run_bind, if_pos hclosed]
  exact ⟨_, rfl⟩

theorem run_refresh (h : w.rooms.find room.id = some room) (hlive : room.status = .live)
    (hspace : room.roomType = .space) :
    ((refreshLiveSpaceExpiryAfterParticipantJoin room.id).run (exec planner) w).2.rooms.find
      room.id = some (refreshed room w.clock) := by
  have hcond : ({ roomType := some .space, status := some .live } : RoomWhere).matches_ room := by
    simp [RoomWhere.matches_, hspace, hlive]
  rw [refreshLiveSpaceExpiryAfterParticipantJoin, perform_bind, run_call]
  simp only [exec, findRoom_of_find h hcond]
  exact find_updateRoom_of_matches h hcond

/-- In a direct room only a participant row is written. -/
theorem run_ensureDirectRoomParticipation :
    ((ensureDirectRoomParticipation room userId).run (exec planner) w).2.rooms = w.rooms := by
  have hadd : ∀ isHost (w : World), ((Except.ok <$> addRow isHost room.id userId :
      M (Except AccessError Unit)).run (exec planner) w).2.rooms = w.rooms := by
    intro isHost w
    cases isHost with
    | true => rfl
    | false => rfl
  rw [ensureDirectRoomParticipation]
  split
  · exact hadd true w
  · rw [perform_bind, run_call]
    show ((rejoinDirect room userId (w.participants.find (room.id, userId))).run _ w).2.rooms = _
    cases w.participants.find (room.id, userId) with
    | some row =>
      rw [rejoinDirect]
      split
      · rfl
      · exact hadd _ w
    | none =>
      rw [rejoinDirect, perform_bind, run_call]
      show ((joinDirectByPair room userId (matchPair (w.sessionRooms room.id))).run _ w).2.rooms = _
      rw [joinDirectByPair]
      split
      · exact hadd _ w
      · split
        · exact (seatedIff_joinPrivate planner room).rooms
        · rfl

/-- **Spec of entering a live room.** The row is refreshed if the user is newly
seated in a space, and left alone otherwise. -/
theorem run_ensureLiveParticipation (userId : UserId)
    (h : w.rooms.find room.id = some room)
    (hlive : room.status = .live) :
    (room.roomType = .space ∧ w.Seats userId room →
      ((ensureLiveParticipation room userId).run (exec planner) w).2.rooms.find room.id =
        some (refreshed room w.clock)) ∧
    (¬ (room.roomType = .space ∧ w.Seats userId room) →
      ((ensureLiveParticipation room userId).run (exec planner) w).2.rooms.find room.id =
        w.rooms.find room.id) := by
  rw [ensureLiveParticipation]
  split
  · rename_i hdirect
    rw [run_ensureDirectRoomParticipation planner]
    exact ⟨fun hspace => absurd (hdirect.symm.trans hspace.1) (by decide), fun _ => rfl⟩
  · rename_i hdirect
    have hspace : room.roomType = .space := by
      cases htype : room.roomType with
      | direct => exact absurd htype hdirect
      | space => rfl
    obtain ⟨hrooms, hclock, hok⟩ := seatedIff_ensureSpaceRoomParticipation planner w userId room
    rw [run_bind]
    generalize (ensureSpaceRoomParticipation room userId).run (exec planner) w = seated at *
    obtain ⟨seat, w₁⟩ := seated
    dsimp only at hrooms hclock hok ⊢
    rw [← hrooms] at h
    cases seat with
    | error error =>
        have hnot : ¬ w.Seats userId room := fun hseats => by cases hok.mpr hseats
        refine ⟨fun hseated => absurd hseated.2 hnot, fun _ => ?_⟩
        simp only [refreshIfSeated, pure_eq, run_done, hrooms]
    | ok =>
        refine ⟨fun _ => ?_, fun hnot => absurd ⟨hspace, hok.mp rfl⟩ hnot⟩
        rw [refreshIfSeated, run_map, run_refresh planner h hlive hspace, hclock]

theorem run_joinLive_rooms (w : World) (userId : UserId) (room : RoomRow) :
    ((joinLive room userId).run (exec planner) w).2 =
      if isActive (w.participants.find (room.id, userId)) then w
      else ((ensureLiveParticipation room userId).run (exec planner) w).2 := by
  rw [joinLive, perform_bind, run_call, run_map]
  simp only [exec, unlessActive]
  by_cases hactive : isActive (w.participants.find (room.id, userId))
  · simp only [hactive, if_true, pure_eq, run_done]
  · simp only [hactive, Bool.false_eq_true, if_false]

/-- The row of a live room after a join. -/
theorem run_joinRoomService_of_live (h : w.rooms.find room.id = some room)
    (hlive : room.status = .live) :
    ((joinRoomService userId room.id).run (exec planner) w).2 =
      if w.guests.contains userId && !isGuestAllowedRoomAccess room then w
      else if w.endReason room = none then ((joinLive room userId).run (exec planner) w).2
      else ((reconcileRoomSessionOnAccess room.id).run (exec planner) w).2 := by
  have hstart : autoStartIfScheduled room.id room = return some room := by
    rw [autoStartIfScheduled, if_neg (by simp [hlive])]
  have henter : enterRoom room userId = joinLive room userId := by
    rw [enterRoom, if_neg (by simp [hlive]), if_neg (by simp [hlive])]
  rw [joinRoomService, findRoomById, perform_bind, run_call]
  simp only [exec, findRoom_empty, h, joinFound, assertGuestMayAccessRoom, perform_bind,
    call_bind, run_call, pure_eq, done_bind]
  by_cases hguest : (w.guests.contains userId && !isGuestAllowedRoomAccess room) = true
  · simp only [hguest, if_true, joinAllowed, pure_eq, run_done]
  simp only [hguest, Bool.false_eq_true, if_false, joinAllowed, hstart, pure_eq, done_bind,
    joinStarted, run_bind]
  cases hreason : w.endReason room with
  | none =>
      simp only [run_assertOpen_of_none planner h hlive hreason, enterIfOpen, henter, if_true]
  | some reason =>
      obtain ⟨error, hrun⟩ := run_assertOpen_of_some planner h hlive hreason
      simp only [hrun, enterIfOpen, pure_eq, run_done, reduceCtorEq, if_false]

theorem postponed_iff_of_find {row : RoomRow} (h : w.rooms.find roomId = some room)
    (hlive : room.status = .live) (h' : w'.rooms.find roomId = some row)
    (hlive' : row.status = .live) :
    Postponed w w' roomId ↔ effectiveDeadline room < effectiveDeadline row := by
  constructor
  · rintro ⟨room₁, row₁, hroom, -, hrow, -, hlt⟩
    cases h.symm.trans hroom
    cases h'.symm.trans hrow
    exact hlt
  · exact fun hlt => ⟨room, row, h, hlive, h', hlive', hlt⟩

end Join

/-- **Joins.** A join postpones the end of a live room exactly when it newly
seats the user in a live space whose `expires_at` is earlier than the cap of the
session and the end of the booking. -/
theorem postponed_joinRoomService_iff (w : World) (userId : UserId) (roomId : RoomId) :
    Postponed w ((joinRoomService userId roomId).run (exec planner) w).2 roomId ↔
      w.JoinPostpones userId roomId := by
  by_cases hfound : ∃ room, w.rooms.find roomId = some room ∧ room.status = .live
  swap
  · refine iff_of_false ?_ ?_
    · rintro ⟨room, -, hroom, hlive, -⟩
      exact hfound ⟨room, hroom, hlive⟩
    · rintro ⟨room, hroom, hlive, -⟩
      exact hfound ⟨room, hroom, hlive⟩
  obtain ⟨room, h, hlive⟩ := hfound
  obtain rfl := (Sql.Table.mem_of_find h).2
  have hiff : w.JoinPostpones userId room.id ↔ room.roomType = .space ∧
      w.NewlySeats userId room ∧ asDeadline room.expiresAt < fixedDeadline room := by
    simp [World.JoinPostpones, h, hlive]
  rw [hiff, run_joinRoomService_of_live planner h hlive]
  split_ifs with hguest hreason
  · refine iff_of_false (not_postponed_of_find rfl) ?_
    rintro ⟨hspace, ⟨hnot, -⟩, -⟩
    simp [hnot] at hguest
  · rw [run_joinLive_rooms]
    obtain ⟨hseated, hunseated⟩ := run_ensureLiveParticipation planner userId h hlive
    split_ifs with hactive
    · refine iff_of_false (not_postponed_of_find rfl) ?_
      rintro ⟨-, ⟨-, -, hinactive, -⟩, -⟩
      rw [hactive] at hinactive
      cases hinactive
    · by_cases hseats : room.roomType = .space ∧ w.Seats userId room
      · have hnew : w.NewlySeats userId room := by
          refine ⟨fun hmem => hguest ?_, hreason, by simpa using hactive, hseats.2⟩
          simp [hmem, isGuestAllowedRoomAccess, hseats.1]
        rw [postponed_iff_of_find h hlive (hseated hseats) hlive, effectiveDeadline_lt_refreshed]
        simp [hseats.1, hnew]
      · refine iff_of_false (not_postponed_of_find (hunseated hseats)) ?_
        rintro ⟨hspace, ⟨-, -, -, hseat⟩, -⟩
        exact hseats ⟨hspace, hseat⟩
  · refine iff_of_false ?_ ?_
    · have hkeeps := reconcileRoomSessionOnAccess_keeps planner w room.id
      rintro ⟨room₁, row, hroom, hlive₁, hrow, hlive', hlt⟩
      rw [hkeeps.rooms] at hrow
      exact not_postponed_reconciled h hlive ⟨room₁, row, hroom, hlive₁, hrow, hlive', hlt⟩
    · rintro ⟨-, ⟨-, hnone, -⟩, -⟩
      exact hreason hnone

namespace Sample

def ringer : UserId := ⟨"ringer-ann", by decide⟩
def visitor : UserId := ⟨"visitor-ben", by decide⟩
def friend : UserId := ⟨"friend-cal", by decide⟩
def latecomer : UserId := ⟨"latecomer-dan", by decide⟩

/-- A match with a guest in it. -/
def duet : RoomRow where
  id := ⟨"duet", by decide⟩
  hostUserId := ringer
  title := "Match"
  visibility := .private_
  maxParticipants := 2
  status := .live
  startedAt := some 0
  roomType := .direct
  sessionKind := .match_

def duetInvite (inviteId : Matching.Text) (userId : UserId) : FriendInvite where
  id := inviteId
  roomId := duet.id
  inviterUserId := ringer
  inviteeUserId := userId
  status := .pending

/-- Two friends are invited a minute after the start. -/
def duetWorld : World where
  rooms := { rows := [duet], unique := List.nodup_singleton _ }
  participants :=
    { rows := [⟨duet.id, ringer, .host, none⟩, ⟨duet.id, visitor, .participant, none⟩]
      unique := by decide }
  guests := [visitor]
  friendInvites :=
    [duetInvite ⟨"first", by decide⟩ friend, duetInvite ⟨"second", by decide⟩ latecomer]
  clock := minutes 1

/-- The guest's cap is set, and the first friend makes the match a space. -/
def expandedDuet : World :=
  let capped := ((syncGuestMatchRoomSessionCap duet.id).run (exec .inOrder) duetWorld).2
  ((respondRoomInviteService friend ⟨"first", by decide⟩ true).run (exec .inOrder) capped).2

def cappedDuet : RoomRow :=
  { duet with
    expiresAt := some (minutes 10), roomType := .space, sessionKind := .space
    maxParticipants := 8 }

/-- With the second friend the ten minutes of the guest become three hours. -/
theorem postponed_duet : Postponed expandedDuet
    ((joinRoomService latecomer duet.id).run (exec .inOrder) expandedDuet).2 duet.id := by
  have hlater : effectiveDeadline cappedDuet <
      effectiveDeadline (refreshed cappedDuet (minutes 1)) := by
    rw [effectiveDeadline_lt_refreshed]
    decide +kernel
  exact ⟨cappedDuet, refreshed cappedDuet (minutes 1), by decide +kernel, rfl, by decide +kernel,
    rfl, hlater⟩

end Sample

end Greetup.Rooms
