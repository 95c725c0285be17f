import Greetup.Interleaving.Sequence
import Greetup.Rooms.Starting

/-!
When a scheduled space is started although its join grace is over.

Only the host's start checks the grace first. A visit tries to start the space
before it reconciles, and what it checks is `expires_at`, which a booking
without an end does not have.
-/

namespace Greetup.Rooms

open Interleaving Prog

variable (planner : Planner)

/-! ### Calls one after the other -/

inductive Call
  | join (userId : UserId) (roomId : RoomId)
  | token (userId : UserId) (roomId : RoomId) (options : IssueRtcTokenOptions)
      (turns : List ℕ := [])
  | start (hostUserId : UserId) (roomId : RoomId)
  | hostEnd (userId : UserId) (roomId : RoomId)
  | sweep (maxRooms : ℕ)

def Call.program : Call → M Unit
  | .join userId roomId => (fun _ => ()) <$> joinRoomService userId roomId
  | .token userId roomId options turns =>
      (fun _ => ()) <$> issueRtcTokenService turns userId roomId options
  | .start hostUserId roomId => (fun _ => ()) <$> startRoomSessionService hostUserId roomId
  | .hostEnd userId roomId => (fun _ => ()) <$> hostEndSpaceForEveryoneService userId roomId
  | .sweep maxRooms => (fun _ => ()) <$> sweepDueRoomSessions maxRooms

/-- A call, and the instant at which it is made. -/
structure TimedCall where
  time : ℤ
  call : Call

def World.at (w : World) (time : ℤ) : World := { w with clock := time }

/-- The world once the call has returned. -/
def serve (w : World) (c : TimedCall) : World := (c.call.program.run (exec planner) (w.at c.time)).2

/-- No command of any call of the run starts a space late. -/
def NoLateStart (w : World) (calls : List TimedCall) : Prop :=
  EveryStep (serve planner)
    (fun w c => c.call.program.Steps (exec planner) OnTime (w.at c.time)) w calls

/-! ### A visit -/

/-- A visit starts the space although its join grace is over: the row has not
expired, and its options let a visit start it. -/
def AutoStartsLate (room : RoomRow) (now : ℤ) : Prop :=
  isJoinGraceMissed room now ∧ ¬ hasExpired room now ∧
    (mergeRoomAdvancedOptions room.advancedOptions).shouldMeetingAutoStart = some true

instance (room : RoomRow) (now : ℤ) : Decidable (AutoStartsLate room now) :=
  inferInstanceAs (Decidable (_ ∧ _ ∧ _))

/-- The visitor is let through to the start of the row, which starts late. -/
def World.VisitStartsLate (w : World) (userId : UserId) (roomId : RoomId) (given : RoomRow) :
    Prop :=
  userId ∉ w.guests ∧ given.roomType = .space ∧ given.status = .scheduled ∧
    ∃ room, w.rooms.find roomId = some room ∧ AutoStartsLate room w.clock

section Visit

variable {w : World} {roomId : RoomId} {room : RoomRow} {now : ℤ}

theorem lazyStart_guard_of_missed (h : isJoinGraceMissed room now) :
    (room.roomType = .space && room.status = .scheduled && !isDbRoomSessionClosed room now &&
      startsLazily room now) = true ↔ AutoStartsLate room now := by
  obtain ⟨hscheduled, hspace, s, hs, hgrace⟩ := isJoinGraceMissed_iff.mp h
  have hbegun : s ≤ now := by
    rw [joinGraceDeadline, minutes, scheduledJoinGraceAfterStartMinutes] at hgrace
    omega
  have hclosed : isDbRoomSessionClosed room now = hasExpired room now := by
    simp [isDbRoomSessionClosed, hasExpired, hscheduled]
  have hexclusive : (mergeRoomAdvancedOptions room.advancedOptions).shouldMeetingAutoStart =
      some true → (mergeRoomAdvancedOptions room.advancedOptions).shouldHostStartMeeting =
        some false := applyMeetingStartExclusivity_not_both _
  simp only [AutoStartsLate, h, hclosed, startsLazily, hspace, hscheduled, hs, hbegun, decide_true,
    Bool.true_and, Option.any_some, Bool.and_true, Bool.and_eq_true, Bool.not_eq_true',
    Bool.not_eq_true, decide_eq_true_eq, true_and]
  constructor
  · rintro ⟨hopen, -, hauto⟩
    exact ⟨hopen, hauto⟩
  · rintro ⟨hopen, hauto⟩
    refine ⟨hopen, ?_, hauto⟩
    rw [hexclusive hauto]
    exact by decide

theorem runLiveSpaceAfterMarkLive_quiet (hostUserId : UserId) (title : String)
    (lobbyGateActive : Bool) :
    (runLiveSpaceAfterMarkLive room hostUserId title lobbyGateActive).Uses Cmd.Quiet := by
  apply Uses.bind (p := provisionSessionRoomRedis room hostUserId title lobbyGateActive)
  · exact ⟨trivial, fun _ => trivial⟩
  intro _
  split
  · exact ⟨trivial, fun _ => trivial⟩
  · apply Uses.bind (p := emitSpaceOpenedForJoin room.id hostUserId)
    · exact ⟨trivial, fun _ => emitToUsers_quiet _ _ _⟩
    · exact fun _ => ⟨trivial, fun _ => trivial⟩

theorem steps_lazyStart (h : w.rooms.find room.id = some room) :
    (lazyStart room w.clock).Steps (exec planner) OnTime w ↔
      ¬ AutoStartsLate room w.clock := by
  have hafter : ∀ row, (afterLazyStart room row).Uses Cmd.StartsNothing := by
    intro row
    cases row with
    | none => trivial
    | some row => exact startsNothing_of_quiet (runLiveSpaceAfterMarkLive_quiet _ _ _)
  rw [lazyStart]
  split
  · rename_i hguard
    have hscheduled : room.status = .scheduled := by
      simp only [Bool.and_eq_true, decide_eq_true_eq] at hguard
      exact hguard.1.1.2
    rw [steps_markRoomLive planner _ hafter h hscheduled]
    refine not_congr ⟨fun hmissed => (lazyStart_guard_of_missed hmissed).mp hguard, ?_⟩
    exact fun hlate => hlate.1
  · rename_i hguard
    refine iff_of_true trivial fun hlate => hguard ?_
    exact (lazyStart_guard_of_missed hlate.1).mpr hlate

/-- **Spec of the automatic start.** -/
theorem steps_autoStartIfScheduled {α : Type} {f : Option RoomRow → M α}
    (hf : ∀ row, (f row).Uses Cmd.StartsNothing) :
    (autoStartIfScheduled roomId room >>= f).Steps (exec planner) OnTime w ↔
      ¬ (room.roomType = .space ∧ room.status = .scheduled ∧
        ∃ row, w.rooms.find roomId = some row ∧ AutoStartsLate row w.clock) := by
  have hrest : ∀ row w', (f row).Steps (exec planner) OnTime w' :=
    fun row w' => steps_of_startsNothing planner (hf row) w'
  rw [steps_bind, and_iff_left (hrest _ _), autoStartIfScheduled]
  split
  · rename_i hguard
    have hagain : (findRoomById roomId).Uses Cmd.StartsNothing := ⟨trivial, fun _ => trivial⟩
    have hfind : ∀ w', (findRoomById roomId).Steps (exec planner) OnTime w' :=
      fun w' => steps_of_startsNothing planner hagain w'
    simp only [Bool.and_eq_true, decide_eq_true_eq] at hguard
    rw [steps_bind, and_iff_left (hfind _), maybeAutoStartScheduledSpaceFromDb, findRoomById,
      perform_bind, steps_call]
    simp only [exec, findRoom_empty, OnTime.refl, hguard, true_and]
    cases hroom : w.rooms.find roomId with
    | none => exact iff_of_true trivial (by rintro ⟨row, hrow, -⟩; cases hrow)
    | some row =>
        obtain rfl := (Sql.Table.mem_of_find hroom).2
        simp only [perform_bind, steps_call, exec, OnTime.refl, true_and,
          Option.some.injEq, exists_eq_left', steps_lazyStart planner hroom]
  · rename_i hguard
    refine iff_of_true trivial ?_
    rintro ⟨hspace, hscheduled, -⟩
    exact hguard (by simp [hspace, hscheduled])

/-- **Spec of a visit**, which joining and asking for a token begin with. -/
theorem steps_visit {α : Type} {userId : UserId} {g : Except AccessError Unit → M α}
    {f : Option RoomRow → M α} (herror : ∀ error, (g (.error error)).Uses Cmd.StartsNothing)
    (hok : g (.ok ()) = (autoStartIfScheduled roomId room >>= f))
    (hf : ∀ row, (f row).Uses Cmd.StartsNothing) :
    (assertGuestMayAccessRoom userId room >>= g).Steps (exec planner)
        OnTime w ↔ ¬ w.VisitStartsLate userId roomId room := by
  have hask : (assertGuestMayAccessRoom userId room).Uses Cmd.StartsNothing :=
    ⟨trivial, fun _ => trivial⟩
  have hrun : (assertGuestMayAccessRoom userId room).run (exec planner) w =
      (if w.guests.contains userId && !isGuestAllowedRoomAccess room then .error guestNotAllowed
        else .ok (), w) := rfl
  rw [steps_bind, and_iff_right (steps_of_startsNothing planner hask w), hrun,
    World.VisitStartsLate]
  split
  · rename_i hguest
    refine iff_of_true (steps_of_startsNothing planner (herror _) w) ?_
    rintro ⟨hnot, -⟩
    simp [hnot] at hguest
  · rename_i hguest
    rw [hok, steps_autoStartIfScheduled planner hf]
    refine not_congr ⟨fun hlate => ⟨fun hmem => hguest ?_, hlate⟩, fun hlate => hlate.2⟩
    simp [hmem, isGuestAllowedRoomAccess, hlate.1]

end Visit

/-! ### The start of the host -/

section HostStart

variable {w : World} {room : RoomRow}

theorem pastJoinGraceWhere_iff : w.pastJoinGraceWhere room ↔
    ∃ s, room.scheduledStartAt = some s ∧ joinGraceDeadline s < w.clock := by
  rw [World.pastJoinGraceWhere, decide_eq_true_iff, Sql.holds_lt]
  constructor
  · rintro ⟨d, hd, hlt⟩
    obtain ⟨s, hs, rfl⟩ := Sql.plus_eq_some.mp hd
    exact ⟨s, hs, hlt⟩
  · rintro ⟨s, hs, hlt⟩
    exact ⟨_, Sql.plus_eq_some.mpr ⟨s, hs, rfl⟩, hlt⟩

/-- Whoever finds the session open has written no row. -/
theorem reconcileDue_keeps_of_open {reason : Option RoomSessionEndReason} {now : ℤ}
    (hopen : ((reconcileDue room reason now).run (exec planner) w).1.closed = false) :
    w.Keeps ((reconcileDue room reason now).run (exec planner) w).2 := by
  cases reason with
  | none =>
      apply keeps_of_quiet planner
      rw [reconcileDue, reconcileNotDue]
      split
      · exact ⟨trivial, fun _ => trivial⟩
      · trivial
  | some reason =>
      cases reason with
      | joinGraceMissed =>
          simp only [reconcileDue, perform_bind, run_call, exec] at hopen ⊢
          rw [World.expireScheduledJoinGraceMissed] at hopen ⊢
          split at hopen
          · cases hopen
          · rename_i hpast
            rw [if_neg hpast]
            exact .refl w
      | _ =>
          rw [reconcileDue, run_bind] at hopen
          · have hclosed := endLiveRoomSession_closes planner w room.id
            simp only [pure_eq, run_done, hclosed] at hopen
            cases hopen
          · intro hreason
            cases hreason

theorem keeps_of_open {roomId : RoomId}
    (hopen : ((reconcileRoomSessionOnAccess roomId).run (exec planner) w).1.closed = false) :
    w.Keeps ((reconcileRoomSessionOnAccess roomId).run (exec planner) w).2 := by
  rw [reconcileRoomSessionOnAccess, findRoomById, perform_bind, run_call] at hopen ⊢
  simp only [exec, findRoom_empty] at hopen ⊢
  cases h : w.rooms.find roomId with
  | none => exact .refl w
  | some room =>
      rw [h] at hopen
      dsimp only at hopen ⊢
      split at hopen
      · cases hopen
      · rename_i hstatus
        rw [if_neg hstatus]
        exact reconcileDue_keeps_of_open planner hopen

/-- A row that has missed its start is found closed once the grace is over for
the database too, whose comparison is strict. -/
theorem closed_of_isJoinGraceMissed (h : w.rooms.find room.id = some room)
    (hmissed : isJoinGraceMissed room w.clock) :
    ((reconcileRoomSessionOnAccess room.id).run (exec planner) w).1.closed =
      w.pastJoinGraceWhere room := by
  obtain ⟨hscheduled, hspace, -⟩ := isJoinGraceMissed_iff.mp hmissed
  have hreason : evaluateRoomSessionEndReason room (presenceOf w.participants room.id) w.clock =
      some .joinGraceMissed := by
    rw [evaluateRoomSessionEndReason, if_pos hmissed]
  have hrun : (reconcileRoomSessionOnAccess room.id).run (exec planner) w =
      (reconcileDue room (some .joinGraceMissed) w.clock).run (exec planner) w := by
    rw [reconcileRoomSessionOnAccess, findRoomById, perform_bind, run_call, ← hreason]
    simp only [exec, findRoom_empty, h, hscheduled]
    rfl
  have hcond : ({ roomType := some .space, status := some .scheduled } : RoomWhere).matches_
      room := by
    simp [RoomWhere.matches_, hspace, hscheduled]
  rw [hrun]
  simp only [reconcileDue, perform_bind, run_call, exec, World.expireScheduledJoinGraceMissed,
    findRoom_of_find h hcond, Option.any_some]
  cases w.pastJoinGraceWhere room with
  | true => rfl
  | false => rfl

/-- **Spec of the host's step**, once the session was found open. -/
theorem steps_hostStart {hostUserId : UserId} {roomId : RoomId} :
    (hostStart hostUserId (w.rooms.find roomId)).Steps (exec planner)
        OnTime w ↔
      ¬ ∃ room, w.rooms.find roomId = some room ∧ room.hostUserId = hostUserId ∧
        isJoinGraceMissed room w.clock := by
  cases h : w.rooms.find roomId with
  | none => exact iff_of_true trivial (by rintro ⟨room, hroom, -⟩; cases hroom)
  | some room =>
      obtain rfl := (Sql.Table.mem_of_find h).2
      have hafter : ∀ row, (afterHostStart room hostUserId row).Uses Cmd.StartsNothing := by
        intro row
        cases row with
        | none => trivial
        | some row =>
            apply (startsNothing_of_quiet (runLiveSpaceAfterMarkLive_quiet _ _ _)).bind
            intro _
            trivial
      rw [hostStart]
      split_ifs with hhost hstatus
      · refine iff_of_true trivial ?_
        rintro ⟨room', hroom', hhost', -⟩
        cases hroom'
        exact hhost hhost'
      · refine iff_of_true trivial ?_
        rintro ⟨room', hroom', -, hmissed⟩
        cases hroom'
        exact hstatus (isJoinGraceMissed_iff.mp hmissed).1
      · rw [perform_bind, steps_call]
        simp only [exec, OnTime.refl, true_and, Option.some.injEq, exists_eq_left',
          steps_markRoomLive planner _ hafter h (not_not.mp hstatus), not_not.mp hhost]

/-- The host starts the space at the very instant at which its join grace is
over. -/
def World.HostStartsLate (w : World) (hostUserId : UserId) (roomId : RoomId) : Prop :=
  ∃ room, w.rooms.find roomId = some room ∧ room.hostUserId = hostUserId ∧
    room.status = .scheduled ∧ room.roomType = .space ∧
    room.scheduledStartAt.map joinGraceDeadline = some w.clock

/-- A row that has missed its start by no more than an instant. -/
theorem isJoinGraceMissed_and_not_past_iff :
    isJoinGraceMissed room w.clock ∧ w.pastJoinGraceWhere room = false ↔
      room.status = .scheduled ∧ room.roomType = .space ∧
        room.scheduledStartAt.map joinGraceDeadline = some w.clock := by
  rw [isJoinGraceMissed_iff, ← Bool.not_eq_true, pastJoinGraceWhere_iff]
  constructor
  · rintro ⟨⟨hscheduled, hspace, s, hs, hgrace⟩, hpast⟩
    refine ⟨hscheduled, hspace, ?_⟩
    rw [hs, Option.map_some, Option.some.injEq]
    have hnot : ¬ joinGraceDeadline s < w.clock := fun hlt => hpast ⟨s, hs, hlt⟩
    omega
  · rintro ⟨hscheduled, hspace, hstart⟩
    obtain ⟨s, hs, hgrace⟩ := Option.map_eq_some_iff.mp hstart
    refine ⟨⟨hscheduled, hspace, s, hs, hgrace.le⟩, ?_⟩
    rintro ⟨s', hs', hlt⟩
    cases hs.symm.trans hs'
    omega

/-- **Spec of the host's start.** -/
theorem steps_startRoomSessionService (hostUserId : UserId) (roomId : RoomId) :
    (startRoomSessionService hostUserId roomId).Steps (exec planner)
        OnTime w ↔ ¬ w.HostStartsLate hostUserId roomId := by
  have hassert :=
    steps_of_startsNothing planner (assertRoomSessionOpenOnAccess_startsNothing roomId) w
  rw [startRoomSessionService, steps_bind, and_iff_right hassert, assertRoomSessionOpenOnAccess]
  simp only [run_bind]
  cases hopen : ((reconcileRoomSessionOnAccess roomId).run (exec planner) w).1.closed with
  | true =>
      refine iff_of_true trivial ?_
      rintro ⟨room, h, -, hmissed⟩
      obtain rfl := (Sql.Table.mem_of_find h).2
      obtain ⟨hmissed, hpast⟩ := isJoinGraceMissed_and_not_past_iff.mpr hmissed
      rw [closed_of_isJoinGraceMissed planner h hmissed, hpast] at hopen
      cases hopen
  | false =>
      have hkeeps := keeps_of_open planner hopen
      simp only [Bool.false_eq_true, if_false, pure_eq, run_done, findRoomById, perform_bind,
        steps_call, exec, findRoom_empty, OnTime.refl, true_and]
      rw [steps_hostStart planner, hkeeps.rooms, hkeeps.clock]
      apply not_congr
      constructor
      · rintro ⟨room, h, hhost, hmissed⟩
        obtain rfl := (Sql.Table.mem_of_find h).2
        rw [closed_of_isJoinGraceMissed planner h hmissed] at hopen
        exact ⟨room, h, hhost, isJoinGraceMissed_and_not_past_iff.mp ⟨hmissed, hopen⟩⟩
      · rintro ⟨room, h, hhost, hmissed⟩
        exact ⟨room, h, hhost, (isJoinGraceMissed_and_not_past_iff.mpr hmissed).1⟩

end HostStart

/-! ### Calls and runs -/

/-- The call starts a space although its join grace is over. -/
def Call.StartsLate (w : World) : Call → Prop
  | .join userId roomId =>
      ∃ room, w.rooms.find roomId = some room ∧ w.VisitStartsLate userId roomId room
  | .token userId roomId options _ =>
      options.afterJoin = false ∧
        ∃ room, options.room.or (w.rooms.find roomId) = some room ∧
          w.VisitStartsLate userId roomId room
  | .start hostUserId roomId => w.HostStartsLate hostUserId roomId
  | .hostEnd _ _ | .sweep _ => False

section Runs

variable {w : World}

theorem steps_joinRoomService (userId : UserId) (roomId : RoomId) :
    (joinRoomService userId roomId).Steps (exec planner) OnTime w ↔
      ¬ ∃ room, w.rooms.find roomId = some room ∧ w.VisitStartsLate userId roomId room := by
  rw [joinRoomService, findRoomById, perform_bind, steps_call]
  simp only [exec, findRoom_empty, OnTime.refl, true_and]
  cases h : w.rooms.find roomId with
  | none => exact iff_of_true trivial (by rintro ⟨room, hroom, -⟩; cases hroom)
  | some room =>
      have herror : ∀ error, (joinAllowed userId roomId room (.error error)).Uses
          Cmd.StartsNothing := fun _ => trivial
      rw [joinFound, steps_visit planner herror rfl (joinStarted_startsNothing userId roomId)]
      simp

theorem steps_tokenFound (turns : List ℕ) (userId : UserId) (roomId : RoomId) (afterJoin : Bool)
    (found : Option RoomRow) :
    (tokenFound turns userId roomId afterJoin found).Steps (exec planner) OnTime w ↔
      ¬ (afterJoin = false ∧ ∃ room, found = some room ∧ w.VisitStartsLate userId roomId room) := by
  cases found with
  | none => exact iff_of_true trivial (by rintro ⟨-, room, hroom, -⟩; cases hroom)
  | some room =>
      rw [tokenFound]
      cases afterJoin with
      | true =>
          exact iff_of_true
            (steps_of_startsNothing planner
              (grantRtcToken_startsNothing userId roomId room turns true) w)
            (by simp)
      | false =>
          have herror : ∀ error, (tokenAllowed turns userId roomId room (.error error)).Uses
              Cmd.StartsNothing := fun _ => trivial
          rw [if_neg (by simp), steps_visit planner herror rfl
            (tokenStarted_startsNothing userId roomId room turns)]
          simp

theorem steps_issueRtcTokenService (turns : List ℕ) (userId : UserId) (roomId : RoomId)
    (options : IssueRtcTokenOptions) :
    (issueRtcTokenService turns userId roomId options).Steps (exec planner) OnTime w ↔
      ¬ (options.afterJoin = false ∧ ∃ room, options.room.or (w.rooms.find roomId) = some room ∧
        w.VisitStartsLate userId roomId room) := by
  rw [issueRtcTokenService]
  cases hgiven : options.room with
  | some room =>
      rw [loadRoom, pure_eq, done_bind, steps_tokenFound planner, Option.some_or]
  | none =>
      rw [loadRoom, findRoomById, perform_bind, steps_call]
      simp only [exec, findRoom_empty, OnTime.refl, true_and, Option.none_or,
        steps_tokenFound planner]

theorem steps_ignore {α : Type} (p : M α) :
    ((fun _ => ()) <$> p).Steps (exec planner) OnTime w ↔
      p.Steps (exec planner) OnTime w :=
  (steps_bind p _ w).trans (and_iff_left trivial)

/-- **Spec of a call.** -/
theorem steps_program (c : Call) :
    c.program.Steps (exec planner) OnTime w ↔ ¬ c.StartsLate w := by
  cases c with
  | join userId roomId =>
      rw [Call.program, steps_ignore]
      exact steps_joinRoomService planner userId roomId
  | token userId roomId options turns =>
      rw [Call.program, steps_ignore]
      exact steps_issueRtcTokenService planner turns userId roomId options
  | start hostUserId roomId =>
      rw [Call.program, steps_ignore]
      exact steps_startRoomSessionService planner hostUserId roomId
  | hostEnd userId roomId =>
      rw [Call.program, steps_ignore]
      have hend := hostEndSpaceForEveryoneService_startsNothing userId roomId
      exact iff_of_true (steps_of_startsNothing planner hend w) id
  | sweep maxRooms =>
      rw [Call.program, steps_ignore]
      have hsweep := sweepDueRoomSessions_startsNothing maxRooms
      exact iff_of_true (steps_of_startsNothing planner hsweep w) id

end Runs

/-- **Late starts.** A run has none exactly when no call of it is a visit that
is let through to a row that has missed its start, has not expired and may be
started by a visit, or the host's start at the very end of the grace. -/
theorem noLateStart_iff (w : World) (calls : List TimedCall) :
    NoLateStart planner w calls ↔
      EveryStep (serve planner) (fun w c => ¬ c.call.StartsLate (w.at c.time)) w calls :=
  everyStep_congr fun w c => steps_program (w := w.at c.time) planner c.call

namespace Sample

def keeper : UserId := ⟨"keeper-eve", by decide⟩

/-- Booked for time zero, without an end. -/
def readingRoom : RoomRow where
  id := ⟨"reading-room", by decide⟩
  hostUserId := keeper
  title := "Quiet reading"
  visibility := .public_
  maxParticipants := 8
  scheduledStartAt := some 0
  status := .scheduled
  roomType := .space
  sessionKind := .space

def library : World where
  rooms := { rows := [readingRoom], unique := List.nodup_singleton _ }

/-- The host comes in, which starts the space; the sweep ends the session at its
cap, and five minutes later the host looks in again. -/
def longEvening : List TimedCall :=
  [⟨0, .join keeper readingRoom.id⟩, ⟨minutes 180, .sweep 10⟩,
    ⟨minutes 185, .join keeper readingRoom.id⟩]

/-- The library when the host looks in again. -/
def afterCap : World :=
  ((longEvening.take 2).foldl (serve .inOrder) library).at (minutes 185)

/-- The space is live again more than an hour after its join grace. -/
theorem not_noLateStart_longEvening :
    ¬ NoLateStart .inOrder library longEvening ∧ joinGraceDeadline 0 < minutes 185 ∧
      ((longEvening.foldl (serve .inOrder) library).rooms.find readingRoom.id).map (·.status) =
        some .live := by
  refine ⟨fun h => ?_, by decide +kernel, by decide +kernel⟩
  have hlast := h (longEvening.take 2) ⟨minutes 185, .join keeper readingRoom.id⟩ List.prefix_rfl
  have hfind : afterCap.rooms.find readingRoom.id = some readingRoom := by decide +kernel
  have hguests : keeper ∉ afterCap.guests := by decide +kernel
  have hauto : AutoStartsLate readingRoom afterCap.clock := by decide +kernel
  exact (steps_program .inOrder _).mp hlast
    ⟨readingRoom, hfind, hguests, rfl, rfl, readingRoom, hfind, hauto⟩

end Sample

end Greetup.Rooms
