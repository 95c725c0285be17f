import Greetup.Rooms.Deadline

/-!
What a request for a token leaves behind when it is refused.

The clock of a session in which nobody is left starts again before it is known
whether the caller may enter; everything after it only reads.
-/

namespace Greetup.Rooms

open Interleaving Prog

variable (planner : Planner)

section Refused

variable {w : World} {userId : UserId} {roomId : RoomId} {room : RoomRow}

/-! ### The clock -/

/-- The row of a session whose clock starts again. -/
def restarted (room : RoomRow) (now : ℤ) : RoomRow :=
  (RoomChange.sessionClock now (computeLiveSessionExpiresAt
    ⟨⟨⟨room.scheduledStartAt, room.scheduledEndAt, room.advancedOptions⟩, .live⟩, room.roomType,
      some now⟩)).apply room

/-- Where nobody is in the room the clock starts again. -/
def World.restartedClock (w : World) (room : RoomRow) : World :=
  if (presenceOf w.participants room.id).activeCount > 0 then w
  else w.updateRoom room.id {} (.sessionClock w.clock (computeLiveSessionExpiresAt
    ⟨⟨⟨room.scheduledStartAt, room.scheduledEndAt, room.advancedOptions⟩, .live⟩, room.roomType,
      some w.clock⟩))

theorem run_restartIfEmpty (n : ℕ) :
    (restartIfEmpty room.id room n).run (exec planner) w =
      ((), if n > 0 then w
        else w.updateRoom room.id {} (.sessionClock w.clock (computeLiveSessionExpiresAt
          ⟨⟨⟨room.scheduledStartAt, room.scheduledEndAt, room.advancedOptions⟩, .live⟩,
            room.roomType, some w.clock⟩))) := by
  unfold restartIfEmpty
  split
  · rfl
  · rfl

theorem run_restartClock (h : w.rooms.find room.id = some room) (hlive : room.status = .live) :
    (restartLiveSessionClockIfNoActiveParticipants room.id).run (exec planner) w =
      ((), w.restartedClock room) := by
  have hcond : ({ status := some .live } : RoomWhere).matches_ room := by
    simp [RoomWhere.matches_, hlive]
  rw [restartLiveSessionClockIfNoActiveParticipants, perform_bind, run_call]
  simp only [exec, findRoom_of_find h hcond]
  exact run_restartIfEmpty planner _

theorem find_restartedClock (h : w.rooms.find room.id = some room) :
    (w.restartedClock room).rooms.find room.id =
      if (presenceOf w.participants room.id).activeCount > 0 then some room
      else some (restarted room w.clock) := by
  unfold World.restartedClock
  split
  · exact h
  · exact find_updateRoom_of_matches h rfl

theorem participants_restartedClock :
    (w.restartedClock room).participants = w.participants := by
  unfold World.restartedClock
  split <;> rfl

theorem activeRtcRoom_restartedClock :
    (w.restartedClock room).activeRtcRoom = w.activeRtcRoom := by
  unfold World.restartedClock
  split <;> rfl

/-! ### What comes after it -/

/-- A program that fails has only read. -/
def FailsClean {α : Type} (p : M (Except AccessError α)) : Prop :=
  ∀ w error, (p.run (exec planner) w).1 = .error error → (p.run (exec planner) w).2 = w

variable {α : Type} {p : M (Except AccessError α)}

theorem failsClean_error (error : AccessError) :
    FailsClean planner (return .error error : M (Except AccessError α)) := fun _ _ _ => rfl

/-- A command that only reads comes before it. -/
theorem FailsClean.read {c : Cmd} {f : c.Reply → M (Except AccessError α)}
    (hread : ∀ w, (exec planner c w).2 = w) (hf : ∀ reply, FailsClean planner (f reply)) :
    FailsClean planner (issue c >>= f) := by
  intro w error herror
  rw [perform_bind, run_call, hread] at herror ⊢
  exact hf _ w error herror

theorem failsClean_finalize (turns : List ℕ) (room : RoomRow) :
    FailsClean planner (finalizeRtcTokenIssue turns userId roomId room) := by
  intro w error herror
  simp only [finalizeRtcTokenIssue, run_bind, pure_eq, run_done] at herror
  cases herror

theorem failsClean_tokenForParticipant (turns : List ℕ) (room : RoomRow) :
    FailsClean planner (tokenForParticipant turns userId roomId room) := by
  unfold tokenForParticipant
  split
  · refine FailsClean.read planner (fun w => rfl) fun exists_ => ?_
    unfold tokenIfGateDown
    split
    · refine FailsClean.read planner (fun w => rfl) fun gate => ?_
      unfold tokenThroughGate
      split
      · exact failsClean_error planner _
      · exact failsClean_finalize planner turns room
    · exact failsClean_finalize planner turns room
  · exact failsClean_finalize planner turns room

theorem failsClean_tokenIfUnrestricted (turns : List ℕ) (room : RoomRow) (isRestricted : Bool) :
    FailsClean planner (tokenIfUnrestricted turns userId roomId room false isRestricted) := by
  unfold tokenIfUnrestricted
  split
  · exact failsClean_error planner _
  · refine FailsClean.read planner (fun w => rfl) fun row => ?_
    unfold tokenIfParticipant
    split
    · exact failsClean_tokenForParticipant planner turns room
    · exact failsClean_error planner _

/-- A live room passes the checks of its state, and the clock is started. -/
theorem run_grantRtcToken_of_error (turns : List ℕ) (h : w.rooms.find room.id = some room)
    (hlive : room.status = .live) {error : AccessError}
    (herror : ((grantRtcToken turns userId room.id false room).run (exec planner) w).1 =
      .error error) :
    ((grantRtcToken turns userId room.id false room).run (exec planner) w).2 =
      w.restartedClock room := by
  have hstarted : isScheduledSpaceBeforeStartTime room w.clock = false := by
    simp [isScheduledSpaceBeforeStartTime, hlive]
  have hgrant : (grantRtcToken turns userId room.id false room).run (exec planner) w =
      (if room.roomType = .space && room.hostUserId ≠ userId then do
          let isRestricted ← issue (.isRoomRestrictedUser room.id userId)
          tokenIfUnrestricted turns userId room.id room false isRestricted
        else tokenIfUnrestricted turns userId room.id room false false).run (exec planner)
          (w.restartedClock room) := by
    rw [grantRtcToken, perform_bind, run_call]
    simp only [exec, tokenIfLive, hstarted, hlive, Bool.false_eq_true, if_false, ne_eq,
      not_true_eq_false, run_bind, run_restartClock planner h hlive]
  rw [hgrant] at herror ⊢
  split at herror
  · next hguarded =>
    rw [if_pos hguarded]
    have hclean : FailsClean planner (do
        let isRestricted ← issue (.isRoomRestrictedUser room.id userId)
        tokenIfUnrestricted turns userId room.id room false isRestricted) :=
      FailsClean.read planner (fun w => rfl) fun isRestricted =>
        failsClean_tokenIfUnrestricted planner turns room isRestricted
    exact hclean _ _ herror
  · next hguarded =>
    rw [if_neg hguarded]
    exact failsClean_tokenIfUnrestricted planner turns room false _ _ herror

/-! ### The request -/

/-- A visit starts no room that is live. -/
theorem run_autoStart_of_live {row : RoomRow} (h : w.rooms.find room.id = some room)
    (hlive : room.status = .live) : ∃ again,
      (autoStartIfScheduled room.id row).run (exec planner) w = (again, w) := by
  unfold autoStartIfScheduled
  split
  · refine ⟨some room, ?_⟩
    rw [maybeAutoStartScheduledSpaceFromDb, findRoomById, perform_bind, call_bind, run_call]
    simp only [exec, findRoom_empty, h, perform_bind, call_bind, run_call]
    rw [lazyStart, if_neg (by simp [hlive])]
    simp only [pure_eq, done_bind, run_perform, exec, findRoom_empty, h]
  · exact ⟨some row, rfl⟩

/-- The guest gate turns the caller away. -/
def World.RefusesGuest (w : World) (userId : UserId) (room : RoomRow) : Prop :=
  userId ∈ w.guests ∧ isGuestAllowedRoomAccess room = false

instance : Decidable (w.RefusesGuest userId room) := inferInstanceAs (Decidable (_ ∧ _))

/-- Guests are turned away at once, everybody else after the clock. -/
theorem run_issueRtcToken_of_error (turns : List ℕ) (h : w.rooms.find room.id = some room)
    (hlive : room.status = .live) (hopen : w.endReason room = none) {given : Option RoomRow}
    {error : AccessError}
    (herror :
        ((issueRtcTokenService turns userId room.id { room := given }).run (exec planner) w).1 =
      .error error) :
    ((issueRtcTokenService turns userId room.id { room := given }).run (exec planner) w).2 =
      if w.RefusesGuest userId (given.getD room) then w else w.restartedClock room := by
  have hload : (loadRoom room.id given).run (exec planner) w = (some (given.getD room), w) := by
    cases given with
    | some row => rfl
    | none => simp only [loadRoom, findRoomById, run_perform, exec, findRoom_empty, h,
        Option.getD_none]
  have hgate : (w.guests.contains userId && !isGuestAllowedRoomAccess (given.getD room)) = true ↔
      w.RefusesGuest userId (given.getD room) := by
    simp [World.RefusesGuest]
  obtain ⟨again, hstart⟩ := @run_autoStart_of_live planner w room (given.getD room) h hlive
  rw [issueRtcTokenService, run_bind, hload] at herror ⊢
  simp only [tokenFound, Bool.false_eq_true, if_false, assertGuestMayAccessRoom, perform_bind,
    call_bind, run_call, exec, pure_eq, done_bind] at herror ⊢
  by_cases hrefuses : w.RefusesGuest userId (given.getD room)
  · rw [if_pos hrefuses]
    simp only [hgate.mpr hrefuses, if_true, tokenAllowed, pure_eq, run_done]
  · rw [if_neg hrefuses]
    simp only [hgate.not.mpr hrefuses, Bool.false_eq_true, if_false, tokenAllowed, run_bind, hstart,
      tokenStarted, run_assertOpen_of_none planner h hlive hopen, tokenIfOpen] at herror ⊢
    exact run_grantRtcToken_of_error planner turns h hlive herror

/-- The room's row, the rows of its participants and the active rooms are the
same. -/
structure SameSession (w w' : World) (roomId : RoomId) : Prop where
  row : w'.rooms.find roomId = w.rooms.find roomId
  participants : w'.participants = w.participants
  activeRtcRoom : w'.activeRtcRoom = w.activeRtcRoom

/-- A refused request leaves a live session that is not due as it was exactly
when the caller is a guest who is turned away first, somebody is in the room, or
the row says already what a restart would write. -/
theorem refused_token_same_iff (turns : List ℕ) (h : w.rooms.find roomId = some room)
    (hlive : room.status = .live) (hopen : w.endReason room = none) (options : IssueRtcTokenOptions)
    (hafter : options.afterJoin = false) {error : AccessError}
    (herror : ((issueRtcTokenService turns userId roomId options).run (exec planner) w).1 =
      .error error) :
    SameSession w
        ((issueRtcTokenService turns userId roomId options).run (exec planner) w).2 roomId ↔
      w.RefusesGuest userId (options.room.getD room) ∨
        (presenceOf w.participants roomId).activeCount > 0 ∨ restarted room w.clock = room := by
  obtain rfl := (Sql.Table.mem_of_find h).2
  obtain ⟨given, afterJoin⟩ := options
  cases hafter
  rw [run_issueRtcToken_of_error planner turns h hlive hopen herror]
  by_cases hguest : w.RefusesGuest userId (given.getD room)
  · rw [if_pos hguest]
    exact iff_of_true ⟨rfl, rfl, rfl⟩ (.inl hguest)
  · rw [if_neg hguest, or_iff_right hguest]
    have hrow := find_restartedClock h
    constructor
    · intro hsame
      rw [hsame.row, h] at hrow
      split at hrow
      · next hactive => exact .inl hactive
      · exact .inr (Option.some_inj.mp hrow).symm
    · intro hkept
      refine ⟨?_, participants_restartedClock, activeRtcRoom_restartedClock⟩
      rw [hrow, h]
      split
      · rfl
      · next hactive => rw [hkept.resolve_left hactive]

end Refused

namespace Sample

def greta : UserId := ⟨"greta", by decide⟩
def nils : UserId := ⟨"nils", by decide⟩

/-- A space that is open since the start of the clock. -/
def parlor : RoomRow where
  id := ⟨"parlor", by decide⟩
  hostUserId := greta
  title := "Parlor"
  visibility := .public_
  maxParticipants := 4
  status := .live
  startedAt := some 0
  roomType := .space
  sessionKind := .space

/-- A minute later. -/
def parlorWorld (leftAt : Option ℤ) : World where
  rooms := { rows := [parlor], unique := List.nodup_singleton _ }
  participants := { rows := [⟨parlor.id, greta, .host, leftAt⟩], unique := List.nodup_singleton _ }
  clock := minutes 1

/-- Greta has left, and a stranger who is refused makes the session start again. -/
theorem not_same_stranger :
    (parlorWorld (some 0)).endReason parlor = none ∧
      ((issueRtcTokenService [] nils parlor.id {}).run (exec .inOrder) (parlorWorld (some 0))).1 =
        .error notAllowed ∧
      ¬ SameSession (parlorWorld (some 0)) ((issueRtcTokenService [] nils parlor.id {}).run
        (exec .inOrder) (parlorWorld (some 0))).2 parlor.id := by
  refine ⟨by decide +kernel, by decide +kernel, fun hsame => ?_⟩
  have hstarted := congrArg (·.map (·.startedAt)) hsame.row
  revert hstarted
  decide +kernel

/-- While she is there, it goes on. -/
theorem same_stranger :
    SameSession (parlorWorld none) ((issueRtcTokenService [] nils parlor.id {}).run (exec .inOrder)
      (parlorWorld none)).2 parlor.id := by
  have hrefused : ((issueRtcTokenService [] nils parlor.id {}).run (exec .inOrder)
      (parlorWorld none)).1 = .error notAllowed := by decide +kernel
  exact (refused_token_same_iff .inOrder [] rfl rfl (by decide +kernel) {} rfl
    hrefused).mpr (.inr (.inl (by decide +kernel)))

end Sample

end Greetup.Rooms
