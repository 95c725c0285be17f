import Greetup.Rooms.Access
import Greetup.Rooms.Closing

/-!
Which commands of the room services make a row `live`: only the one that
`markRoomLive` issues. It starts a space late exactly when the row it has just
read has missed its start.
-/

namespace Greetup.Rooms

open Interleaving Prog

variable (planner : Planner)

/-! ### Commands that start nothing -/

/-- From `w` to `w'` no scheduled space whose join grace is over goes live. -/
def OnTime (w w' : World) : Prop :=
  ∀ roomId room room', w.rooms.find roomId = some room → w'.rooms.find roomId = some room' →
    isJoinGraceMissed room w.clock → room'.status ≠ .live

/-- Every command but the one that makes a row `live`. -/
def Cmd.StartsNothing : Cmd → Prop
  | .updateRoom _ _ (.live ..) => False
  | _ => True

theorem Cmd.Quiet.startsNothing {c : Cmd} (hc : c.Quiet) : c.StartsNothing := by
  cases c with
  | updateRoom => exact hc.elim
  | _ => trivial

/-- From `w` to `w'` no row has become `live`. -/
def NoneStarted (w w' : World) : Prop :=
  ∀ roomId room room', w.rooms.find roomId = some room → w'.rooms.find roomId = some room' →
    room'.status = .live → room.status = .live

section Frame

variable {w w' w'' : World}

theorem NoneStarted.onTime (h : NoneStarted w w') : OnTime w w' := by
  intro roomId room room' hroom hroom' hmissed hlive
  have hscheduled := (isJoinGraceMissed_iff.mp hmissed).1
  rw [h roomId room room' hroom hroom' hlive] at hscheduled
  cases hscheduled

theorem noneStarted_of_rooms (h : w'.rooms = w.rooms) : NoneStarted w w' := by
  intro roomId room room' hroom hroom' hlive
  rw [h, hroom] at hroom'
  cases hroom'
  exact hlive

theorem OnTime.refl (w : World) : OnTime w w := (noneStarted_of_rooms rfl).onTime

theorem noneStarted_updateRoom (roomId : RoomId) (cond : RoomWhere) {change : RoomChange}
    (h : ∀ room : RoomRow, (change.apply room).status = .live → room.status = .live) :
    NoneStarted w (w.updateRoom roomId cond change) := by
  intro roomId' room room' hroom hroom' hlive
  rw [find_updateRoom, hroom, Option.map_some] at hroom'
  have hroom' := Option.some.inj hroom'
  subst hroom'
  split at hlive
  · exact h room hlive
  · exact hlive

theorem noneStarted_endLiveRoomSessionTx (params : EndLiveRoomSessionParams) :
    NoneStarted w (w.endLiveRoomSessionTx params).2 := by
  rw [World.endLiveRoomSessionTx]
  split
  · dsimp only
    split
    · exact noneStarted_updateRoom (w := w) _ _ (by rintro room ⟨⟩)
    · exact noneStarted_updateRoom (w := w) _ _ (by rintro room ⟨⟩)
  · exact noneStarted_updateRoom (w := w) _ _ (by rintro room ⟨⟩)

theorem noneStarted_expireScheduledJoinGraceMissed (roomId : RoomId) :
    NoneStarted w (w.expireScheduledJoinGraceMissed roomId).2 := by
  rw [World.expireScheduledJoinGraceMissed]
  split
  · exact noneStarted_updateRoom _ _ fun _ h => h
  · exact noneStarted_of_rooms rfl

theorem noneStarted_leaveAndMaybeEndRoomTx (roomId : RoomId) (userId : UserId) (now : ℤ)
    (deleteSpaceAfterCall : Bool) :
    NoneStarted w (w.leaveAndMaybeEndRoomTx roomId userId now deleteSpaceAfterCall).2 := by
  rw [World.leaveAndMaybeEndRoomTx]
  dsimp only
  split_ifs
  · exact noneStarted_of_rooms rfl
  · exact noneStarted_updateRoom (w := w) _ _ (by rintro room ⟨⟩)
  · exact noneStarted_of_rooms rfl

theorem noneStarted_expandRoom (roomId : RoomId) (maxParticipants : ℕ) :
    NoneStarted w (w.expandRoom roomId maxParticipants) := by
  intro roomId' room room' hroom hroom' hlive
  rw [find_expandRoom, hroom, Option.map_some] at hroom'
  have hroom' := Option.some.inj hroom'
  subst hroom'
  split at hlive
  · exact hlive
  · exact hlive

theorem noneStarted_runExpandDirectAcceptTransaction (params : ExpandDirectAcceptParams) :
    NoneStarted w (w.runExpandDirectAcceptTransaction params).2 := by
  rw [World.runExpandDirectAcceptTransaction]
  split
  · exact noneStarted_expandRoom (w := w) _ _
  · exact noneStarted_of_rooms rfl

theorem noneStarted_createConnectionCallRoom (roomId : RoomId) (hostUserId : UserId) :
    NoneStarted w (w.createConnectionCallRoom roomId hostUserId) := by
  intro roomId' room room' hroom hroom' hlive
  rw [find_createConnectionCallRoom w _ _ hroom] at hroom'
  cases hroom'
  exact hlive

theorem Cmd.StartsNothing.noneStarted {c : Cmd} (hc : c.StartsNothing) (w : World) :
    NoneStarted w (exec planner c w).2 := by
  cases c with
  | updateRoom roomId cond change =>
      cases change with
      | live => exact hc.elim
      | scheduled | ended => exact noneStarted_updateRoom _ _ (by rintro room ⟨⟩)
      | _ => exact noneStarted_updateRoom _ _ fun _ h => h
  | expireScheduledJoinGraceMissed => exact noneStarted_expireScheduledJoinGraceMissed _
  | endLiveRoomSessionTx params => exact noneStarted_endLiveRoomSessionTx params
  | leaveAndMaybeEndRoomTx => exact noneStarted_leaveAndMaybeEndRoomTx _ _ _ _
  | runExpandDirectAcceptTransaction params =>
      exact noneStarted_runExpandDirectAcceptTransaction params
  | createConnectionCallRoom => exact noneStarted_createConnectionCallRoom _ _
  | setUserActiveRtcRoom userId roomId =>
      have hquiet : (Cmd.setUserActiveRtcRoom userId roomId).Quiet := trivial
      exact noneStarted_of_rooms (hquiet.keeps planner w).rooms
  | clearUserActiveRtcRoom userId =>
      have hquiet : (Cmd.clearUserActiveRtcRoom userId).Quiet := trivial
      exact noneStarted_of_rooms (hquiet.keeps planner w).rooms
  | getUserActiveRtcRoomVerified userId =>
      exact noneStarted_of_rooms (keeps_getUserActiveRtcRoomVerified w userId).rooms
  | _ => exact noneStarted_of_rooms rfl

/-- A program that starts nothing has no late start. -/
theorem steps_of_startsNothing {α : Type} {p : M α} (hp : p.Uses Cmd.StartsNothing) (w : World) :
    p.Steps (exec planner) OnTime w :=
  hp.steps (fun _ hc w => (hc.noneStarted planner w).onTime) w

end Frame

/-! ### What does not start a room -/

section StartsNothing

variable (userId : UserId) (roomId : RoomId) (room : RoomRow)

theorem startsNothing_of_quiet {α : Type} {p : M α} (hp : p.Uses Cmd.Quiet) :
    p.Uses Cmd.StartsNothing := hp.mono fun _ hc => hc.startsNothing

/-- A command, and then whatever starts nothing. -/
theorem issue_startsNothing {α : Type} {c : Cmd} {f : c.Reply → M α} (hc : c.StartsNothing)
    (hf : ∀ r, (f r).Uses Cmd.StartsNothing) : (issue c >>= f).Uses Cmd.StartsNothing :=
  ⟨hc, hf⟩

theorem deleteSessionRoomRedis_startsNothing :
    (deleteSessionRoomRedis roomId).Uses Cmd.StartsNothing := ⟨trivial, fun _ => trivial⟩

theorem endLiveRoomSession_startsNothing (reason : RoomSessionEndReason)
    (options : EndLiveRoomSessionOptions) :
    (endLiveRoomSession roomId reason options).Uses Cmd.StartsNothing := by
  refine issue_startsNothing trivial fun found => ?_
  cases found with
  | none => trivial
  | some room =>
      refine issue_startsNothing trivial fun userIds => issue_startsNothing trivial fun now => ?_
      show (endSessionOf room userIds.dedup reason options now).Uses Cmd.StartsNothing
      rw [endSessionOf]
      split
      · apply (deleteSessionRoomRedis_startsNothing room.id).bind
        intro _
        apply (startsNothing_of_quiet (clearUserActiveRtcRooms_quiet _)).bind
        intro _
        trivial
      · refine issue_startsNothing trivial fun _ => issue_startsNothing trivial fun _ => ?_
        exact startsNothing_of_quiet (afterTransaction_quiet _ _ _ _ _)

theorem reconcileDue_startsNothing (reason : Option RoomSessionEndReason) (now : ℤ) :
    (reconcileDue room reason now).Uses Cmd.StartsNothing := by
  cases reason with
  | none =>
      rw [reconcileDue, reconcileNotDue]
      split
      · exact ⟨trivial, fun _ => trivial⟩
      · trivial
  | some reason =>
      cases reason with
      | joinGraceMissed =>
          refine ⟨trivial, fun expired => ?_⟩
          cases expired with
          | true => exact ⟨trivial, fun _ => trivial⟩
          | false => trivial
      | _ => exact (endLiveRoomSession_startsNothing _ _ _).bind fun _ => trivial

theorem reconcileRoomSessionOnAccess_startsNothing :
    (reconcileRoomSessionOnAccess roomId).Uses Cmd.StartsNothing := by
  refine issue_startsNothing trivial fun found => ?_
  cases found with
  | none => trivial
  | some room =>
      dsimp only
      split
      · exact issue_startsNothing trivial fun _ => trivial
      · refine issue_startsNothing trivial fun _ => issue_startsNothing trivial fun _ =>
          issue_startsNothing trivial fun now => ?_
        exact reconcileDue_startsNothing room _ now

theorem assertRoomSessionOpenOnAccess_startsNothing :
    (assertRoomSessionOpenOnAccess roomId).Uses Cmd.StartsNothing := by
  refine (reconcileRoomSessionOnAccess_startsNothing roomId).bind fun result => ?_
  split
  · trivial
  · trivial

theorem reconcileCandidates_startsNothing (candidateIds : List RoomId) :
    (reconcileCandidates candidateIds).Uses Cmd.StartsNothing := by
  induction candidateIds with
  | nil => trivial
  | cons roomId candidateIds ih =>
      apply (reconcileRoomSessionOnAccess_startsNothing roomId).bind
      intro result
      apply ih.bind
      intro endedIds
      trivial

theorem sweepDueRoomSessions_startsNothing (maxRooms : ℕ) :
    (sweepDueRoomSessions maxRooms).Uses Cmd.StartsNothing := by
  refine issue_startsNothing trivial fun candidateIds => ?_
  apply (reconcileCandidates_startsNothing candidateIds).bind
  intro endedIds
  trivial

theorem hostEndSpaceForEveryoneService_startsNothing :
    (hostEndSpaceForEveryoneService userId roomId).Uses Cmd.StartsNothing := by
  refine ⟨trivial, fun found => ?_⟩
  cases found with
  | none => trivial
  | some room =>
      refine ⟨trivial, fun now => ?_⟩
      show (hostEndSpace userId room now).Uses Cmd.StartsNothing
      rw [hostEndSpace]
      split_ifs
      · trivial
      · trivial
      · apply (deleteSessionRoomRedis_startsNothing room.id).bind
        intro _
        exact issue_startsNothing trivial fun _ => trivial
      · trivial
      · apply (endLiveRoomSession_startsNothing _ _ _).bind
        intro result
        exact issue_startsNothing trivial fun _ => trivial

theorem addRow_startsNothing (isHost : Bool) :
    (addRow isHost roomId userId).Uses Cmd.StartsNothing := by
  cases isHost with
  | true => exact ⟨trivial, fun _ => trivial⟩
  | false => exact ⟨trivial, fun _ => trivial⟩

theorem joinPrivate_startsNothing : (joinPrivate room userId).Uses Cmd.StartsNothing := by
  refine ⟨trivial, fun invited => ?_⟩
  cases invited with
  | true => exact (addRow_startsNothing _ _ false).map _
  | false => trivial

theorem ensureSpaceRoomParticipation_startsNothing :
    (ensureSpaceRoomParticipation room userId).Uses Cmd.StartsNothing := by
  rw [ensureSpaceRoomParticipation]
  split
  · exact (addRow_startsNothing _ _ true).map _
  · refine ⟨trivial, fun isRestricted => ?_⟩
    show (joinSpaceIfAllowed room userId isRestricted).Uses Cmd.StartsNothing
    rw [joinSpaceIfAllowed]
    split
    · trivial
    · refine ⟨trivial, fun priorRow => ?_⟩
      show (joinSpaceUnrestricted room userId priorRow).Uses Cmd.StartsNothing
      rw [joinSpaceUnrestricted]
      split
      · exact (addRow_startsNothing _ _ false).map _
      · refine ⟨trivial, fun n => ?_⟩
        show (joinSpaceWithSeat room userId n).Uses Cmd.StartsNothing
        rw [joinSpaceWithSeat]
        split_ifs
        · trivial
        · exact (addRow_startsNothing _ _ false).map _
        · exact joinPrivate_startsNothing userId room

theorem ensureDirectRoomParticipation_startsNothing :
    (ensureDirectRoomParticipation room userId).Uses Cmd.StartsNothing := by
  rw [ensureDirectRoomParticipation]
  split
  · exact (addRow_startsNothing _ _ true).map _
  · refine ⟨trivial, fun anyRow => ?_⟩
    show (rejoinDirect room userId anyRow).Uses Cmd.StartsNothing
    cases anyRow with
    | some row =>
        rw [rejoinDirect]
        split
        · trivial
        · exact (addRow_startsNothing _ _ _).map _
    | none =>
        refine ⟨trivial, fun session => ?_⟩
        show (joinDirectByPair room userId (matchPair session)).Uses Cmd.StartsNothing
        rw [joinDirectByPair]
        split
        · exact (addRow_startsNothing _ _ _).map _
        · split
          · exact joinPrivate_startsNothing userId room
          · trivial

theorem refreshLiveSpaceExpiryAfterParticipantJoin_startsNothing :
    (refreshLiveSpaceExpiryAfterParticipantJoin roomId).Uses Cmd.StartsNothing := by
  refine ⟨trivial, fun row => ?_⟩
  cases row with
  | none => trivial
  | some row =>
      exact issue_startsNothing trivial fun _ => issue_startsNothing trivial fun _ => trivial

theorem unlessActive_startsNothing (row : Option ParticipantRow)
    {seat : M (Except AccessError Unit)} (h : seat.Uses Cmd.StartsNothing) :
    (unlessActive row seat).Uses Cmd.StartsNothing := by
  rw [unlessActive]
  split
  · trivial
  · exact h

theorem joinLobby_startsNothing : (joinLobby room userId).Uses Cmd.StartsNothing := by
  refine ⟨trivial, fun row => Uses.map ?_ _⟩
  exact unlessActive_startsNothing row (ensureSpaceRoomParticipation_startsNothing userId room)

theorem joinLive_startsNothing : (joinLive room userId).Uses Cmd.StartsNothing := by
  refine ⟨trivial, fun row => Uses.map (unlessActive_startsNothing row ?_) _⟩
  rw [ensureLiveParticipation]
  split
  · exact ensureDirectRoomParticipation_startsNothing userId room
  · refine (ensureSpaceRoomParticipation_startsNothing userId room).bind fun seat => ?_
    cases seat with
    | error => trivial
    | ok => exact (refreshLiveSpaceExpiryAfterParticipantJoin_startsNothing _).map _

theorem enterRoom_startsNothing : (enterRoom room userId).Uses Cmd.StartsNothing := by
  rw [enterRoom]
  split_ifs
  · exact joinLobby_startsNothing userId room
  · refine ⟨trivial, fun isRestricted => ?_⟩
    cases isRestricted with
    | true => trivial
    | false => exact joinLobby_startsNothing userId room
  · trivial
  · exact joinLive_startsNothing userId room

theorem assertOpen_startsNothing : (assertOpen roomId room).Uses Cmd.StartsNothing := by
  refine (assertRoomSessionOpenOnAccess_startsNothing roomId).bind fun access => ?_
  cases access with
  | error => trivial
  | ok => exact ⟨trivial, fun _ => trivial⟩

theorem joinStarted_startsNothing (again : Option RoomRow) :
    (joinStarted userId roomId again).Uses Cmd.StartsNothing := by
  cases again with
  | none => trivial
  | some room =>
      refine (assertOpen_startsNothing roomId room).bind fun result => ?_
      cases result with
      | error => trivial
      | ok room => exact enterRoom_startsNothing userId room

theorem capRow_startsNothing (capExpiresAt : ℤ) (row : Option RoomRow) :
    (capRow roomId capExpiresAt row).Uses Cmd.StartsNothing := by
  cases row with
  | none => trivial
  | some row =>
      rw [capRow]
      split
      · trivial
      · exact issue_startsNothing trivial fun _ => trivial

theorem capMatch_startsNothing (startedAt : ℤ) :
    (capMatch room startedAt).Uses Cmd.StartsNothing := by
  rw [capMatch]
  split
  · trivial
  · refine issue_startsNothing trivial fun _ => issue_startsNothing trivial fun guest => ?_
    cases guest with
    | true => exact issue_startsNothing trivial fun row => capRow_startsNothing room.id _ row
    | false => trivial

theorem syncGuestMatchRoomSessionCap_startsNothing :
    (syncGuestMatchRoomSessionCap roomId).Uses Cmd.StartsNothing := by
  refine issue_startsNothing trivial fun found => ?_
  cases found with
  | none => trivial
  | some room =>
      show (capIfStarted (some room)).Uses Cmd.StartsNothing
      cases hstarted : room.startedAt with
      | none =>
          simp only [capIfStarted, hstarted]
          trivial
      | some startedAt =>
          simp only [capIfStarted, hstarted]
          exact capMatch_startsNothing room startedAt

theorem restartLiveSessionClockIfNoActiveParticipants_startsNothing :
    (restartLiveSessionClockIfNoActiveParticipants roomId).Uses Cmd.StartsNothing := by
  refine issue_startsNothing trivial fun row => ?_
  cases row with
  | none => trivial
  | some row =>
      refine issue_startsNothing trivial fun n => ?_
      show (restartIfEmpty roomId row n).Uses Cmd.StartsNothing
      rw [restartIfEmpty]
      split
      · trivial
      · exact issue_startsNothing trivial fun _ => issue_startsNothing trivial fun _ => trivial

theorem finalizeRtcTokenIssue_startsNothing (turns : List ℕ) :
    (finalizeRtcTokenIssue turns userId roomId room).Uses Cmd.StartsNothing := by
  refine issue_startsNothing trivial fun _ => issue_startsNothing trivial fun _ => ?_
  refine (uses_sideBySide ?_ turns).bind fun _ => trivial
  simp only [List.forall_mem_cons]
  refine ⟨⟨trivial, fun _ => trivial⟩, syncGuestMatchRoomSessionCap_startsNothing roomId,
    ⟨trivial, fun _ => trivial⟩, by simp⟩

theorem tokenForParticipant_startsNothing (turns : List ℕ) :
    (tokenForParticipant turns userId roomId room).Uses Cmd.StartsNothing := by
  have hfinalize := finalizeRtcTokenIssue_startsNothing userId roomId room turns
  rw [tokenForParticipant]
  split
  · refine issue_startsNothing trivial fun exists_ => ?_
    cases exists_ with
    | false => exact hfinalize
    | true =>
        refine issue_startsNothing trivial fun gate => ?_
        show (tokenThroughGate turns userId roomId room gate).Uses Cmd.StartsNothing
        rw [tokenThroughGate]
        split
        · trivial
        · exact hfinalize
  · exact hfinalize

theorem tokenIfUnrestricted_startsNothing (turns : List ℕ) (afterJoin isRestricted : Bool) :
    (tokenIfUnrestricted turns userId roomId room afterJoin isRestricted).Uses
      Cmd.StartsNothing := by
  rw [tokenIfUnrestricted]
  split_ifs
  · trivial
  · exact tokenForParticipant_startsNothing userId roomId room turns
  · refine issue_startsNothing trivial fun row => ?_
    show (tokenIfParticipant turns userId roomId room row).Uses Cmd.StartsNothing
    rw [tokenIfParticipant]
    split
    · exact tokenForParticipant_startsNothing userId roomId room turns
    · trivial

theorem grantRtcToken_startsNothing (turns : List ℕ) (afterJoin : Bool) :
    (grantRtcToken turns userId roomId afterJoin room).Uses Cmd.StartsNothing := by
  refine issue_startsNothing trivial fun now => ?_
  show (tokenIfLive turns userId roomId room afterJoin now).Uses Cmd.StartsNothing
  rw [tokenIfLive]
  split_ifs
  · trivial
  · trivial
  · apply (restartLiveSessionClockIfNoActiveParticipants_startsNothing roomId).bind
    intro _
    exact issue_startsNothing trivial fun isRestricted =>
      tokenIfUnrestricted_startsNothing userId roomId room turns afterJoin isRestricted
  · apply (restartLiveSessionClockIfNoActiveParticipants_startsNothing roomId).bind
    intro _
    exact tokenIfUnrestricted_startsNothing userId roomId room turns afterJoin false

theorem tokenStarted_startsNothing (turns : List ℕ) (again : Option RoomRow) :
    (tokenStarted turns userId roomId room again).Uses Cmd.StartsNothing := by
  refine (assertOpen_startsNothing roomId _).bind fun result => ?_
  cases result with
  | error => trivial
  | ok room => exact grantRtcToken_startsNothing userId roomId room turns false

end StartsNothing

/-! ### Starting late -/

section Start

variable {w : World} {roomId : RoomId} {room : RoomRow}

/-- The statement that makes a row `live` is on time unless the row has missed
its start. -/
theorem onTime_updateRoom_live {startedAt : ℤ} {fields : RoomExpiryFields}
    (h : w.rooms.find room.id = some room) (hscheduled : room.status = .scheduled) :
    OnTime w (w.updateRoom room.id { status := some .scheduled } (.live startedAt fields)) ↔
      ¬ isJoinGraceMissed room w.clock := by
  constructor
  · intro hontime hmissed
    have hcond : ({ status := some .scheduled } : RoomWhere).matches_ room := by
      simp [RoomWhere.matches_, hscheduled]
    exact hontime room.id room _ h (find_updateRoom_of_matches h hcond) hmissed rfl
  · intro hnot roomId before after hbefore hafter hmissed hlive
    rw [find_updateRoom, hbefore, Option.map_some] at hafter
    have hafter := Option.some.inj hafter
    subst hafter
    split at hlive
    · rename_i hmatch
      have hid : before.id = room.id := of_decide_eq_true (Bool.and_eq_true_iff.mp hmatch).1
      obtain rfl := (Sql.Table.mem_of_find hbefore).2
      rw [hid, h] at hbefore
      cases hbefore
      exact hnot hmissed
    · rw [(isJoinGraceMissed_iff.mp hmissed).1] at hlive
      cases hlive

/-- **Spec of `markRoomLive`.** It starts a room late exactly when the row has
missed its start. -/
theorem steps_markRoomLive {α : Type} (startedAt : ℤ) {f : Option RoomRow → M α}
    (hf : ∀ row, (f row).Uses Cmd.StartsNothing) (h : w.rooms.find room.id = some room)
    (hscheduled : room.status = .scheduled) :
    (markRoomLive room.id startedAt >>= f).Steps (exec planner) OnTime w ↔
      ¬ isJoinGraceMissed room w.clock := by
  have hcond : ({ status := some .scheduled } : RoomWhere).matches_ room := by
    simp [RoomWhere.matches_, hscheduled]
  have hrest : ∀ row w', (f row).Steps (exec planner) OnTime w' :=
    fun row w' => steps_of_startsNothing planner (hf row) w'
  rw [steps_bind, and_iff_left (hrest _ _), markRoomLive]
  simp only [perform_bind, steps_call, exec, findRoom_of_find h hcond, setRoomLive, steps_perform,
    OnTime.refl, true_and, onTime_updateRoom_live h hscheduled]

end Start

end Greetup.Rooms
