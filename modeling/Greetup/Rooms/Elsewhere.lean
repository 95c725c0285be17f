import Greetup.Rooms.Closing
import Greetup.Rooms.Participation

/-!
What ending or leaving a room does to users who are in another one.

Every way out of a room deletes the key that names the room of a user's token,
without a look at the room it names. The users whose keys a call deletes are
known from the state it starts in.
-/

namespace Greetup.Rooms

open Interleaving Prog

variable (planner : Planner)

/-! ### The users' part of the world -/

/-- The keys of all users, and their state of being open to connect. -/
structure World.SameUsers (w w' : World) : Prop where
  activeRtcRoom : w'.activeRtcRoom = w.activeRtcRoom
  openToConnect : w'.openToConnect = w.openToConnect
  discoverable : w'.discoverable = w.discoverable
  guests : w'.guests = w.guests
  online : w'.online = w.online

theorem World.SameUsers.refl (w : World) : w.SameUsers w := ⟨rfl, rfl, rfl, rfl, rfl⟩

theorem World.SameUsers.trans {w w' w'' : World} (h : w.SameUsers w') (h' : w'.SameUsers w'') :
    w.SameUsers w'' :=
  ⟨h'.activeRtcRoom.trans h.activeRtcRoom, h'.openToConnect.trans h.openToConnect,
    h'.discoverable.trans h.discoverable, h'.guests.trans h.guests, h'.online.trans h.online⟩

/-- The key and the state of one user. -/
structure World.SameUser (w w' : World) (userId : UserId) : Prop where
  activeRtcRoom : w'.activeRtcRoom userId = w.activeRtcRoom userId
  openToConnect : w'.openToConnect userId = w.openToConnect userId
  discoverable : w'.discoverable userId = w.discoverable userId

theorem World.SameUsers.user {w w' : World} (h : w.SameUsers w') (userId : UserId) :
    w.SameUser w' userId :=
  ⟨by rw [h.activeRtcRoom], by rw [h.openToConnect], by rw [h.discoverable]⟩

/-- The commands that leave the users alone. -/
def Cmd.SparesUsers : Cmd → Prop
  | .setUserActiveRtcRoom .. | .clearUserActiveRtcRoom _ => False
  | .getUserActiveRtcRoomVerified _ => False
  | _ => True

theorem sameUsers_endLiveRoomSessionTx (w : World) (params : EndLiveRoomSessionParams) :
    w.SameUsers (w.endLiveRoomSessionTx params).2 := by
  rw [World.endLiveRoomSessionTx]
  split
  · dsimp only
    split <;> exact ⟨rfl, rfl, rfl, rfl, rfl⟩
  · exact ⟨rfl, rfl, rfl, rfl, rfl⟩

theorem sameUsers_leaveAndMaybeEndRoomTx (w : World) (roomId : RoomId) (userId : UserId) (now : ℤ)
    (deleteSpaceAfterCall : Bool) :
    w.SameUsers (w.leaveAndMaybeEndRoomTx roomId userId now deleteSpaceAfterCall).2 := by
  rw [World.leaveAndMaybeEndRoomTx]
  dsimp only
  split_ifs <;> exact ⟨rfl, rfl, rfl, rfl, rfl⟩

theorem Cmd.SparesUsers.sameUsers {c : Cmd} (hc : c.SparesUsers) (w : World) :
    w.SameUsers (exec planner c w).2 := by
  cases c with
  | setUserActiveRtcRoom | clearUserActiveRtcRoom | getUserActiveRtcRoomVerified => exact hc.elim
  | endLiveRoomSessionTx params => exact sameUsers_endLiveRoomSessionTx w params
  | leaveAndMaybeEndRoomTx => exact sameUsers_leaveAndMaybeEndRoomTx w _ _ _ _
  | expireScheduledJoinGraceMissed roomId =>
      simp only [exec, World.expireScheduledJoinGraceMissed]
      split <;> exact ⟨rfl, rfl, rfl, rfl, rfl⟩
  | runExpandDirectAcceptTransaction params =>
      simp only [exec, World.runExpandDirectAcceptTransaction]
      split <;> exact ⟨rfl, rfl, rfl, rfl, rfl⟩
  | _ => exact ⟨rfl, rfl, rfl, rfl, rfl⟩

/-! ### Clearing -/

def World.clearUsers (w : World) (userIds : List UserId) : World :=
  userIds.foldl World.clearUserActiveRtcRoom w

section Clear

variable {w w' : World} {userId : UserId}

@[simp] theorem clearUsers_nil : w.clearUsers [] = w := rfl

@[simp] theorem clearUsers_cons (userIds : List UserId) :
    w.clearUsers (userId :: userIds) = (w.clearUserActiveRtcRoom userId).clearUsers userIds := rfl

theorem clearUsers_append (userIds userIds' : List UserId) :
    w.clearUsers (userIds ++ userIds') = (w.clearUsers userIds).clearUsers userIds' :=
  List.foldl_append

theorem World.SameUsers.restore (h : w.SameUsers w') (userId : UserId) :
    (w.restoreOpenToConnectAfterRoom userId).SameUsers
      (w'.restoreOpenToConnectAfterRoom userId) := by
  rw [World.restoreOpenToConnectAfterRoom, World.restoreOpenToConnectAfterRoom, h.openToConnect]
  cases w.openToConnect userId with
  | none => exact h
  | some status =>
      dsimp only
      split
      · exact h
      · refine ⟨h.activeRtcRoom, ?_, ?_, h.guests, h.online⟩
        · show Function.update w'.openToConnect userId _ = Function.update w.openToConnect userId _
          rw [h.openToConnect]
        · show Function.update w'.discoverable userId _ = Function.update w.discoverable userId _
          rw [h.discoverable, h.guests, h.online]

theorem World.SameUsers.clear (h : w.SameUsers w') (userId : UserId) :
    (w.clearUserActiveRtcRoom userId).SameUsers (w'.clearUserActiveRtcRoom userId) := by
  have hkey : (w.setActiveRtcRoom userId none).SameUsers (w'.setActiveRtcRoom userId none) := by
    refine ⟨?_, h.openToConnect, h.discoverable, h.guests, h.online⟩
    show Function.update w'.activeRtcRoom userId none = Function.update w.activeRtcRoom userId none
    rw [h.activeRtcRoom]
  exact hkey.restore userId

theorem World.SameUsers.clearUsers (h : w.SameUsers w') (userIds : List UserId) :
    (w.clearUsers userIds).SameUsers (w'.clearUsers userIds) := by
  induction userIds generalizing w w' with
  | nil => exact h
  | cons userId userIds ih => exact ih (h.clear userId)

theorem restore_activeRtcRoom (w : World) (userId : UserId) :
    (w.restoreOpenToConnectAfterRoom userId).activeRtcRoom = w.activeRtcRoom := by
  rw [World.restoreOpenToConnectAfterRoom]
  split
  · rfl
  · split <;> rfl

theorem clear_activeRtcRoom (w : World) (userId : UserId) :
    (w.clearUserActiveRtcRoom userId).activeRtcRoom =
      Function.update w.activeRtcRoom userId none :=
  restore_activeRtcRoom _ userId

theorem sameUser_clear_of_ne {userId' : UserId} (h : userId' ≠ userId) :
    w.SameUser (w.clearUserActiveRtcRoom userId) userId' := by
  refine ⟨?_, ?_, ?_⟩
  · rw [clear_activeRtcRoom, Function.update_of_ne h]
  · rw [World.clearUserActiveRtcRoom, World.restoreOpenToConnectAfterRoom]
    split
    · rfl
    · split
      · rfl
      · exact Function.update_of_ne h _ _
  · rw [World.clearUserActiveRtcRoom, World.restoreOpenToConnectAfterRoom]
    split
    · rfl
    · split
      · rfl
      · exact Function.update_of_ne h _ _

/-- A cleared user has no key. -/
theorem clearUsers_activeRtcRoom (w : World) (userIds : List UserId) (userId : UserId) :
    (w.clearUsers userIds).activeRtcRoom userId =
      if userId ∈ userIds then none else w.activeRtcRoom userId := by
  induction userIds generalizing w with
  | nil => simp
  | cons userId' userIds ih =>
      rw [clearUsers_cons, ih, clear_activeRtcRoom]
      by_cases hmem : userId ∈ userIds
      · rw [if_pos hmem, if_pos (List.mem_cons_of_mem _ hmem)]
      · by_cases heq : userId = userId'
        · subst heq
          simp
        · rw [if_neg hmem, if_neg (by simp [heq, hmem]), Function.update_of_ne heq]

theorem sameUser_clearUsers {userIds : List UserId} (h : userId ∉ userIds) :
    w.SameUser (w.clearUsers userIds) userId := by
  induction userIds generalizing w with
  | nil => exact ⟨rfl, rfl, rfl⟩
  | cons userId' userIds ih =>
      rw [List.mem_cons, not_or] at h
      have hone := sameUser_clear_of_ne (w := w) h.1
      have hrest := ih (w := w.clearUserActiveRtcRoom userId') h.2
      exact ⟨hrest.1.trans hone.1, hrest.2.trans hone.2, hrest.3.trans hone.3⟩

end Clear

/-! ### What a program clears -/

/-- On the users, the run of `p` from `w` has the effect of clearing the list. -/
def Clears {α : Type} (p : M α) (w : World) (userIds : List UserId) : Prop :=
  (w.clearUsers userIds).SameUsers (p.run (exec planner) w).2

section Clears

variable {planner} {α β : Type} {p : M α} {f : α → M β} {w : World} {userIds userIds' : List UserId}

theorem Clears.bind (hp : Clears planner p w userIds)
    (hf : Clears planner (f (p.run (exec planner) w).1) (p.run (exec planner) w).2 userIds') :
    Clears planner (p >>= f) w (userIds ++ userIds') := by
  rw [Clears, run_bind, clearUsers_append]
  exact (hp.clearUsers userIds').trans hf

theorem clears_of_uses (hp : p.Uses Cmd.SparesUsers) : Clears planner p w [] :=
  hp.run_keeps (fun _ hc w' hw' => hw'.trans (hc.sameUsers planner w')) (.refl w)

/-- Commands that leave the users alone first. -/
theorem Clears.after (hp : p.Uses Cmd.SparesUsers)
    (hf : Clears planner (f (p.run (exec planner) w).1) (p.run (exec planner) w).2 userIds) :
    Clears planner (p >>= f) w userIds :=
  (clears_of_uses hp).bind hf

/-- Commands that leave the users alone last. -/
theorem Clears.before (hp : Clears planner p w userIds) (hf : ∀ a, (f a).Uses Cmd.SparesUsers) :
    Clears planner (p >>= f) w userIds := by
  have hall := hp.bind (clears_of_uses (w := (p.run (exec planner) w).2) (hf _))
  rwa [List.append_nil] at hall

theorem clears_clear (userId : UserId) :
    Clears planner (issue (.clearUserActiveRtcRoom userId)) w [userId] :=
  .refl _

theorem clears_clearUserActiveRtcRooms (userIds : List UserId) :
    Clears planner (clearUserActiveRtcRooms userIds) w userIds := by
  induction userIds generalizing w with
  | nil => exact .refl w
  | cons userId userIds ih => exact (clears_clear userId).bind ih

end Clears

/-! ### The ways out of a room -/

/-- A call that ends or leaves a room. -/
inductive Exit
  | endLive (roomId : RoomId) (reason : RoomSessionEndReason) (options : EndLiveRoomSessionOptions)
  | leaveSpace (userId : UserId) (roomId : RoomId) (httpStrict : Bool)
  | leaveDirect (userId : UserId) (explicitRoomId : Option RoomId)
  | remove (roomId : RoomId) (targetUserId : UserId) (options : RemoveOptions)

namespace Exit

def program : Exit → M Unit
  | .endLive roomId reason options => (fun _ => ()) <$> endLiveRoomSession roomId reason options
  | .leaveSpace userId roomId httpStrict =>
      (fun _ => ()) <$> leaveSpaceRtcSessionForUser userId roomId httpStrict
  | .leaveDirect userId explicitRoomId => leaveDirectRoomService userId explicitRoomId
  | .remove roomId targetUserId options =>
      (fun _ => ()) <$> removeSpaceParticipantFromLive roomId targetUserId options

/-- The room the call is about. -/
def roomId (w : World) : Exit → Option RoomId
  | .endLive roomId _ _ | .leaveSpace _ roomId _ | .remove roomId _ _ => some roomId
  | .leaveDirect userId explicitRoomId => explicitRoomId.or (w.activeRtcRoom userId)

end Exit

/-- Everybody who has ever been in the room. -/
def World.participantUserIds (w : World) (roomId : RoomId) : List UserId :=
  ((w.participants.rows.filter (·.roomId = roomId)).map (·.userId)).dedup

namespace World

variable (w : World)

def clearedByEnd (roomId : RoomId) : List UserId :=
  if (w.rooms.find roomId).isSome then w.participantUserIds roomId else []

def clearedByLeaveSpace (userId : UserId) (roomId : RoomId) : List UserId :=
  if (w.rooms.find roomId).any (·.roomType = .space) then [userId] else []

/-- Everybody who has been in a direct room, and whoever leaves it. -/
def clearedByLeaveRoom (userId : UserId) (roomId : RoomId) : List UserId :=
  (if (w.rooms.find roomId).any (·.roomType = .space) then [userId] else w.clearedByEnd roomId) ++
    [userId]

/-- The target, unless the space is live and the target is not in it. -/
def clearedByRemove (roomId : RoomId) (targetUserId : UserId) : List UserId :=
  match w.rooms.find roomId with
  | none => []
  | some room =>
      if room.roomType = .space && (isDbRoomSessionClosed room w.clock ||
          room.status = .live && isActive (w.participants.find (roomId, targetUserId))) then
        [targetUserId]
      else []

end World

/-- The users whose keys the call deletes. -/
def Exit.cleared (w : World) : Exit → List UserId
  | .endLive roomId _ _ => w.clearedByEnd roomId
  | .leaveSpace userId roomId _ => w.clearedByLeaveSpace userId roomId
  | .leaveDirect userId explicitRoomId =>
      match explicitRoomId.or (w.activeRtcRoom userId) with
      | none => [userId]
      | some roomId => w.clearedByLeaveRoom userId roomId
  | .remove roomId targetUserId _ => w.clearedByRemove roomId targetUserId

section Exits

variable {w : World} {userId : UserId} {roomId : RoomId} {room : RoomRow}

theorem afterTransition_sparesUsers (reason : RoomSessionEndReason)
    (options : EndLiveRoomSessionOptions) (transitioned : Bool) :
    (afterTransition room reason options transitioned).Uses Cmd.SparesUsers := by
  have hemit : ∀ (event : SpaceRoomEvent) (userIds : List UserId),
      (emitToUsers event room.id userIds).Uses Cmd.SparesUsers := by
    intro event userIds
    induction userIds with
    | nil => trivial
    | cons userId userIds ih => exact ⟨trivial, fun _ => ih⟩
  cases transitioned with
  | false => trivial
  | true =>
      refine ⟨trivial, fun _ => ?_⟩
      show (notifyIfSpace room reason options).Uses Cmd.SparesUsers
      rw [notifyIfSpace]
      split
      · exact ⟨trivial, fun _ => hemit _ _⟩
      · trivial

theorem clears_endSessionOf (userIds : List UserId) (reason : RoomSessionEndReason)
    (options : EndLiveRoomSessionOptions) (now : ℤ) :
    Clears planner (endSessionOf room userIds reason options now) w userIds := by
  have hdel : (deleteSessionRoomRedis room.id).Uses Cmd.SparesUsers := ⟨trivial, fun _ => trivial⟩
  rw [endSessionOf]
  split
  · apply Clears.after hdel
    exact (clears_clearUserActiveRtcRooms userIds).before fun _ => trivial
  · have hnow : (issue .now).Uses Cmd.SparesUsers := ⟨trivial, fun _ => trivial⟩
    apply Clears.after hnow
    have htx : ∀ params, (issue (.endLiveRoomSessionTx params)).Uses Cmd.SparesUsers :=
      fun _ => ⟨trivial, fun _ => trivial⟩
    apply Clears.after (htx _)
    apply Clears.after hdel
    apply (clears_clearUserActiveRtcRooms userIds).before
    intro _
    exact (afterTransition_sparesUsers reason options _).bind fun _ => trivial

theorem clears_endLiveRoomSession (w : World) (roomId : RoomId) (reason : RoomSessionEndReason)
    (options : EndLiveRoomSessionOptions) :
    Clears planner (endLiveRoomSession roomId reason options) w (w.clearedByEnd roomId) := by
  have hfind : (findRoomById roomId).Uses Cmd.SparesUsers := ⟨trivial, fun _ => trivial⟩
  have hrun : (findRoomById roomId).run (exec planner) w = (w.rooms.find roomId, w) := by
    rw [findRoomById, run_perform]
    simp only [exec, findRoom_empty]
  rw [endLiveRoomSession]
  apply Clears.after hfind
  rw [hrun, World.clearedByEnd]
  cases w.rooms.find roomId with
  | none => exact .refl w
  | some room =>
      have hlist : (listAllParticipantUserIds roomId).Uses Cmd.SparesUsers :=
        ⟨trivial, fun _ => trivial⟩
      have hnow : (issue .now).Uses Cmd.SparesUsers := ⟨trivial, fun _ => trivial⟩
      apply Clears.after hlist
      apply Clears.after hnow
      exact clears_endSessionOf planner _ reason options _

theorem clears_ignore {α : Type} {p : M α} {userIds : List UserId}
    (h : Clears planner p w userIds) : Clears planner ((fun _ => ()) <$> p) w userIds := by
  rw [Clears, run_map]
  exact h

/-! ### Leaving a space -/

theorem isUserRoomParticipant_sparesUsers :
    (isUserRoomParticipant roomId userId).Uses Cmd.SparesUsers := ⟨trivial, fun _ => trivial⟩

/-- Readings that decide nothing about the key, which is deleted in the end. -/
theorem clears_afterLeave (result : LeaveResult) :
    Clears planner (afterLeave userId roomId result) w [userId] := by
  rw [afterLeave]
  apply (clears_clear userId).before
  intro _
  split_ifs
  · exact ⟨trivial, fun _ => ⟨trivial, fun _ => trivial⟩⟩
  · exact ⟨trivial, fun _ => trivial⟩
  · exact ⟨trivial, fun _ => trivial⟩
  · trivial

theorem clears_leaveInactive (httpStrict : Bool) :
    Clears planner (leaveInactive userId roomId httpStrict) w [userId] := by
  rw [leaveInactive]
  apply (clears_clear userId).before
  intro _
  split
  · exact ⟨trivial, fun _ => trivial⟩
  · trivial

theorem clears_leaveLive (httpStrict activeBefore : Bool) :
    Clears planner (leaveLive userId roomId room httpStrict activeBefore) w [userId] := by
  rw [leaveLive]
  split
  · exact clears_leaveInactive planner httpStrict
  · have hnow : (issue .now).Uses Cmd.SparesUsers := ⟨trivial, fun _ => trivial⟩
    have htx : ∀ now delete, (issue (.leaveAndMaybeEndRoomTx roomId userId now delete)).Uses
        Cmd.SparesUsers := fun _ _ => ⟨trivial, fun _ => trivial⟩
    apply Clears.after hnow
    apply Clears.after (htx _ _)
    exact clears_afterLeave planner _

theorem clears_leaveLobby (activeLobby : Bool) :
    Clears planner (leaveLobby userId roomId activeLobby) w [userId] := by
  have hclear : ∀ w', Clears planner (issue (.clearUserActiveRtcRoom userId) >>= fun _ =>
      (return .ok false : M (Except AccessError Bool))) w' [userId] :=
    fun w' => (clears_clear userId).before fun _ => trivial
  have hleft : (issue (.markParticipantLeft roomId userId)).Uses Cmd.SparesUsers :=
    ⟨trivial, fun _ => trivial⟩
  rw [leaveLobby]
  split
  · exact Clears.after hleft (hclear _)
  · exact hclear w

/-- Whoever leaves a space loses the key, whatever state the space is in. -/
theorem clears_leaveSpace (httpStrict : Bool) (now : ℤ) :
    Clears planner (leaveSpace userId roomId room httpStrict now) w [userId] := by
  rw [leaveSpace]
  split_ifs with hclosed hscheduled hlive
  · have hdel : (deleteSessionRoomRedis roomId).Uses Cmd.SparesUsers := ⟨trivial, fun _ => trivial⟩
    apply Clears.after hdel
    exact (clears_clear userId).before fun _ => trivial
  · apply Clears.after isUserRoomParticipant_sparesUsers
    exact clears_leaveLobby planner _
  · -- a row that is open and not scheduled is live
    exfalso
    apply hclosed
    cases hstatus : room.status with
    | scheduled => exact absurd hstatus hscheduled
    | live => exact absurd hstatus hlive
    | ended | cancelled => simp [isDbRoomSessionClosed, hstatus]
  · exact (clears_clear userId).before fun _ => trivial
  · apply Clears.after isUserRoomParticipant_sparesUsers
    exact clears_leaveLive planner httpStrict _

theorem run_findRoomById (w : World) (roomId : RoomId) :
    (findRoomById roomId).run (exec planner) w = (w.rooms.find roomId, w) := by
  rw [findRoomById, run_perform]
  simp only [exec, findRoom_empty]

theorem findRoomById_sparesUsers : (findRoomById roomId).Uses Cmd.SparesUsers :=
  ⟨trivial, fun _ => trivial⟩

theorem clears_leaveSpaceRtcSessionForUser (w : World) (userId : UserId) (roomId : RoomId)
    (httpStrict : Bool) : Clears planner (leaveSpaceRtcSessionForUser userId roomId httpStrict) w
      (w.clearedByLeaveSpace userId roomId) := by
  rw [leaveSpaceRtcSessionForUser]
  apply Clears.after findRoomById_sparesUsers
  rw [run_findRoomById, World.clearedByLeaveSpace]
  cases h : w.rooms.find roomId with
  | none =>
      refine clears_of_uses ?_
      rw [leaveFound, Option.filter_none]
      trivial
  | some room =>
      rw [leaveFound, Option.filter_some, Option.any_some]
      by_cases hspace : room.roomType = .space
      · have hnow : (issue .now).Uses Cmd.SparesUsers := ⟨trivial, fun _ => trivial⟩
        simp only [hspace, decide_true, if_true]
        apply Clears.after hnow
        exact clears_leaveSpace planner httpStrict _
      · simp only [hspace, decide_false, Bool.false_eq_true, if_false]
        exact .refl w

/-! ### Leaving a direct room -/

/-- The commands with which a peer is told: readings, messages, and the keys of
the calls. -/
def Cmd.Announces : Cmd → Prop
  | .now | .findRoom .. | .listParticipantUserIds _ | .listActiveParticipantUserIds _ => True
  | .hgetallSessionRoom _ | .call _ | .send _ => True
  | _ => False

theorem Cmd.Announces.quiet {c : Cmd} (hc : c.Announces) : c.Quiet := by
  cases c with
  | updateRoom | expireScheduledJoinGraceMissed | endLiveRoomSessionTx => exact hc.elim
  | listRoomIdsDueForSessionSweep => exact hc.elim
  | addOrReactivateHostRow | addOrReactivateParticipantRow => exact hc.elim
  | markParticipantLeft | leaveAndMaybeEndRoomTx => exact hc.elim
  | runExpandDirectAcceptTransaction | createConnectionCallRoom | elapsed => exact hc.elim
  | _ => trivial

theorem Cmd.Announces.sparesUsers {c : Cmd} (hc : c.Announces) : c.SparesUsers := by
  cases c with
  | setUserActiveRtcRoom | clearUserActiveRtcRoom | getUserActiveRtcRoomVerified => exact hc.elim
  | _ => trivial

theorem notifyOtcCallPeerEnded_announces :
    (notifyOtcCallPeerEnded roomId userId).Uses Cmd.Announces := by
  refine ⟨trivial, fun session => ?_⟩
  show (notifyIfOtc roomId userId session).Uses Cmd.Announces
  rw [notifyIfOtc]
  split
  · trivial
  · refine ⟨trivial, fun room => ?_⟩
    show (notifyOtcPeer roomId userId room).Uses Cmd.Announces
    rw [notifyOtcPeer]
    split
    · trivial
    · refine Uses.bind ⟨trivial, fun _ => trivial⟩ fun participantIds => ?_
      cases participantIds.find? (· ≠ userId) with
      | none => trivial
      | some peerUserId => exact ⟨trivial, fun _ => trivial⟩

theorem notifyMatchPeerSkipped_announces :
    (notifyMatchPeerSkipped roomId userId).Uses Cmd.Announces := by
  refine ⟨trivial, fun room => ?_⟩
  show (notifySkipped roomId userId room).Uses Cmd.Announces
  rw [notifySkipped]
  split
  · trivial
  · refine Uses.bind ⟨trivial, fun _ => trivial⟩ fun participantIds => ?_
    cases participantIds.find? (· ≠ userId) with
    | none => trivial
    | some peerUserId => exact ⟨trivial, fun _ => trivial⟩

theorem notifyPeerIfMatch_announces (room : Option RoomRow) :
    (notifyPeerIfMatch userId roomId room).Uses Cmd.Announces := by
  rw [notifyPeerIfMatch]
  split
  · apply notifyOtcCallPeerEnded_announces.bind
    intro otcNotified
    rw [skippedUnless]
    split
    · trivial
    · exact notifyMatchPeerSkipped_announces
  · trivial

theorem leaveMatchEngineUnlessCall_announces (room : Option RoomRow) :
    (leaveMatchEngineUnlessCall userId room).Uses Cmd.Announces := by
  rw [leaveMatchEngineUnlessCall]
  split
  · trivial
  · exact ⟨trivial, fun _ => trivial⟩

theorem resolveConnectionCallConversationId_announces :
    (Calls.resolveConnectionCallConversationId roomId).Uses Cmd.Announces := by
  refine ⟨trivial, fun call => ?_⟩
  show (Calls.conversationOfActive roomId call).Uses Cmd.Announces
  rw [Calls.conversationOfActive]
  split
  · trivial
  · refine ⟨trivial, fun requestId => ?_⟩
    cases requestId with
    | none => trivial
    | some requestId => exact ⟨trivial, fun _ => trivial⟩

theorem notifyConnectionCallPeerEnded_announces :
    (notifyConnectionCallPeerEnded roomId userId).Uses Cmd.Announces := by
  refine ⟨trivial, fun room => ?_⟩
  show (notifyCallPeer roomId userId room).Uses Cmd.Announces
  rw [notifyCallPeer]
  split
  · trivial
  · refine ⟨trivial, fun activeParticipantIds => ?_⟩
    show (callEndedTo roomId userId (activeParticipantIds.find? (· ≠ userId))).Uses Cmd.Announces
    cases activeParticipantIds.find? (· ≠ userId) with
    | none => trivial
    | some peerUserId =>
      apply resolveConnectionCallConversationId_announces.bind
      intro conversationId
      exact ⟨trivial, fun _ => trivial⟩

theorem finalizeConnectionCallHistory_announces :
    (Calls.finalizeConnectionCallHistory roomId).Uses Cmd.Announces := by
  refine ⟨trivial, fun call => ?_⟩
  cases call with
  | none => trivial
  | some call =>
      refine ⟨trivial, fun logged => ?_⟩
      show (Calls.finalizeLogged roomId call logged).Uses Cmd.Announces
      rw [Calls.finalizeLogged]
      split
      · exact ⟨trivial, fun _ => ⟨trivial, fun _ => ⟨trivial, fun _ => trivial⟩⟩⟩
      · trivial

/-- Telling a peer moves no row. -/
theorem keeps_of_announces {α : Type} {p : M α} (hp : p.Uses Cmd.Announces) (w : World) :
    w.Keeps (p.run (exec planner) w).2 :=
  keeps_of_quiet planner (hp.mono fun _ => Cmd.Announces.quiet) w

theorem sparesUsers_of_announces {α : Type} {p : M α} (hp : p.Uses Cmd.Announces) :
    p.Uses Cmd.SparesUsers := hp.mono fun _ => Cmd.Announces.sparesUsers

theorem World.Keeps.clearedByEnd {w' : World} (h : w.Keeps w') (roomId : RoomId) :
    w'.clearedByEnd roomId = w.clearedByEnd roomId := by
  rw [World.clearedByEnd, World.clearedByEnd, World.participantUserIds, World.participantUserIds,
    h.rooms, h.participants]

theorem clearedByEnd_setLeftAt (w : World) (roomId roomId' : RoomId) (p : ParticipantRow → Bool)
    (leftAt : Option ℤ) :
    (w.setLeftAt roomId p leftAt).clearedByEnd roomId' = w.clearedByEnd roomId' := by
  have hids : ∀ rows : List ParticipantRow,
      ((rows.map fun row =>
          if row.roomId = roomId && p row then { row with leftAt } else row).filter
        (·.roomId = roomId')).map (·.userId) =
      (rows.filter (·.roomId = roomId')).map (·.userId) := by
    intro rows
    induction rows with
    | nil => rfl
    | cons row rows ih =>
        have hroom : (if row.roomId = roomId && p row then { row with leftAt } else row).roomId =
            row.roomId := by
          split <;> rfl
        have huser : (if row.roomId = roomId && p row then { row with leftAt } else row).userId =
            row.userId := by
          split <;> rfl
        rw [List.map_cons, List.filter_cons, List.filter_cons, hroom]
        split
        · rw [List.map_cons, List.map_cons, ih, huser]
        · exact ih
  show (if _ then List.dedup _ else []) = (if _ then List.dedup _ else [])
  rw [show (w.setLeftAt roomId p leftAt).rooms = w.rooms from rfl]
  congr 2
  exact hids w.participants.rows

theorem clears_leaveRoomOf (w : World) (userId : UserId)
    (h : w.rooms.find room.id = some room) : Clears planner (leaveRoomOf userId room.id room) w
      (if room.roomType = .space then [userId] else w.clearedByEnd room.id) := by
  rw [leaveRoomOf]
  split_ifs with hspace hcall
  · have hleave := clears_leaveSpaceRtcSessionForUser planner w userId room.id false
    rw [World.clearedByLeaveSpace, h, Option.any_some, if_pos (by simp [hspace])] at hleave
    exact clears_ignore planner hleave
  · have hmark : (issue (.markParticipantLeft room.id userId)).Uses Cmd.SparesUsers :=
      ⟨trivial, fun _ => trivial⟩
    apply Clears.after (sparesUsers_of_announces notifyConnectionCallPeerEnded_announces)
    have hpeer : (notifyConnectionCallPeerEnded room.id userId).Uses Cmd.Announces :=
      notifyConnectionCallPeerEnded_announces
    have hkeeps : w.Keeps _ := keeps_of_announces planner hpeer w
    rw [← hkeeps.clearedByEnd]
    generalize ((notifyConnectionCallPeerEnded room.id userId).run (exec planner) w).2 = w₁
    apply Clears.after hmark
    rw [← clearedByEnd_setLeftAt w₁ room.id room.id
      (fun row => row.userId = userId && row.leftAt = none) (some w₁.clock)]
    show Clears planner _ (w₁.setLeftAt _ _ _) _
    generalize w₁.setLeftAt _ _ _ = w₂
    apply Clears.after (sparesUsers_of_announces finalizeConnectionCallHistory_announces)
    have hcall : (Calls.finalizeConnectionCallHistory room.id).Uses Cmd.Announces :=
      finalizeConnectionCallHistory_announces
    have hhistory : w₂.Keeps _ := keeps_of_announces planner hcall w₂
    rw [← hhistory.clearedByEnd]
    exact (clears_endLiveRoomSession planner _ room.id _ _).before fun _ => trivial
  · exact (clears_endLiveRoomSession planner w room.id _ _).before fun _ => trivial

theorem clears_leaveRoom (w : World) (userId : UserId) (roomId : RoomId) :
    Clears planner (leaveRoom userId roomId) w (w.clearedByLeaveRoom userId roomId) := by
  rw [leaveRoom]
  apply Clears.after findRoomById_sparesUsers
  rw [run_findRoomById]
  apply Clears.after (sparesUsers_of_announces (notifyPeerIfMatch_announces _))
  have hpeer : (notifyPeerIfMatch userId roomId (w.rooms.find roomId)).Uses Cmd.Announces :=
    notifyPeerIfMatch_announces _
  have hengine : (leaveMatchEngineUnlessCall userId (w.rooms.find roomId)).Uses Cmd.Announces :=
    leaveMatchEngineUnlessCall_announces _
  have hnotify : w.Keeps _ := keeps_of_announces planner hpeer w
  apply Clears.after (sparesUsers_of_announces (leaveMatchEngineUnlessCall_announces _))
  have hkeeps : w.Keeps _ := hnotify.trans (keeps_of_announces planner hengine _)
  generalize (Prog.run (exec planner) _ _).2 = w₁ at hkeeps ⊢
  rw [World.clearedByLeaveRoom]
  refine Clears.bind ?_ (clears_clear userId)
  cases h : w.rooms.find roomId with
  | none =>
      rw [World.clearedByEnd, h]
      exact .refl w₁
  | some room =>
      obtain rfl := (Sql.Table.mem_of_find h).2
      have h₁ : w₁.rooms.find room.id = some room := by rw [hkeeps.rooms, h]
      have hleave := clears_leaveRoomOf planner w₁ userId h₁
      rw [hkeeps.clearedByEnd] at hleave
      show Clears planner (leaveRoomOf userId room.id room) w₁ _
      simpa only [Option.any_some, decide_eq_true_eq] using hleave

theorem clears_leaveDirectRoomService (w : World) (userId : UserId)
    (explicitRoomId : Option RoomId) :
    Clears planner (leaveDirectRoomService userId explicitRoomId) w
      (Exit.cleared w (.leaveDirect userId explicitRoomId)) := by
  have hresolve : (resolveExplicitLeaveRoomId userId explicitRoomId).run (exec planner) w =
      (explicitRoomId.or (w.activeRtcRoom userId), w) := by
    cases explicitRoomId with
    | none => rfl
    | some roomId => rfl
  have hspares : (resolveExplicitLeaveRoomId userId explicitRoomId).Uses Cmd.SparesUsers := by
    cases explicitRoomId with
    | none => exact ⟨trivial, fun _ => trivial⟩
    | some roomId => trivial
  rw [leaveDirectRoomService]
  apply Clears.after hspares
  rw [hresolve, Exit.cleared]
  cases explicitRoomId.or (w.activeRtcRoom userId) with
  | none =>
      apply Clears.after (sparesUsers_of_announces (leaveMatchEngineUnlessCall_announces none))
      exact clears_clear userId
  | some roomId => exact clears_leaveRoom planner w userId roomId

/-! ### Being removed -/

theorem clears_removeActive (options : RemoveOptions) (activeTarget : Bool) :
    Clears planner (removeActive roomId userId options activeTarget) w
      (if activeTarget then [userId] else []) := by
  cases activeTarget with
  | false => exact .refl w
  | true =>
      have hmark : (issue (.markParticipantLeft roomId userId)).Uses Cmd.SparesUsers :=
        ⟨trivial, fun _ => trivial⟩
      have hrestrict : ∀ restrict,
          (restrictIfAsked roomId userId restrict).Uses Cmd.SparesUsers := by
        intro restrict
        cases restrict with
        | true => exact ⟨trivial, fun _ => trivial⟩
        | false => trivial
      apply Clears.after hmark
      apply (clears_clear userId).before
      intro _
      exact ⟨trivial, fun _ => ⟨trivial, fun _ => ⟨trivial, fun _ => hrestrict _⟩⟩⟩

theorem clears_removeSpaceParticipantFromLive (w : World) (roomId : RoomId) (userId : UserId)
    (options : RemoveOptions) :
    Clears planner (removeSpaceParticipantFromLive roomId userId options)
      w (w.clearedByRemove roomId userId) := by
  rw [removeSpaceParticipantFromLive]
  apply Clears.after findRoomById_sparesUsers
  rw [run_findRoomById, World.clearedByRemove]
  cases h : w.rooms.find roomId with
  | none => exact .refl w
  | some room =>
      rw [removeFound, Option.filter_some]
      by_cases hspace : room.roomType = .space
      swap
      · simp only [hspace, decide_false, Bool.false_and, Bool.false_eq_true, if_false]
        exact .refl w
      simp only [hspace, decide_true, Bool.true_and, if_true]
      have hnow : (issue .now).Uses Cmd.SparesUsers := ⟨trivial, fun _ => trivial⟩
      apply Clears.after hnow
      show Clears planner (removeOpen roomId userId options room w.clock) w _
      rw [removeOpen]
      by_cases hclosed : isDbRoomSessionClosed room w.clock
      · rw [if_pos hclosed, if_pos (by simp [hclosed])]
        exact (clears_clear userId).before fun _ => trivial
      by_cases hlive : room.status = .live
      · rw [if_neg hclosed, if_neg (not_not.mpr hlive)]
        simp only [hclosed, hlive, decide_true, Bool.false_or, Bool.true_and]
        apply Clears.after isUserRoomParticipant_sparesUsers
        exact clears_removeActive planner options _
      · rw [if_neg hclosed, if_pos hlive, if_neg (by simp [hclosed, hlive])]
        exact .refl w

/-- **Spec of the ways out.** -/
theorem clears_program (w : World) (e : Exit) : Clears planner e.program w (e.cleared w) := by
  cases e with
  | endLive roomId reason options =>
      exact clears_ignore planner (clears_endLiveRoomSession planner w roomId reason options)
  | leaveSpace userId roomId httpStrict =>
      exact clears_ignore planner
        (clears_leaveSpaceRtcSessionForUser planner w userId roomId httpStrict)
  | leaveDirect userId explicitRoomId =>
      exact clears_leaveDirectRoomService planner w userId explicitRoomId
  | remove roomId targetUserId options =>
      exact clears_ignore planner
        (clears_removeSpaceParticipantFromLive planner w roomId targetUserId options)

end Exits

/-! ### Users in another room -/

/-- From `w` to `w'` nobody was disturbed whose key names a room other than the
given one. -/
def Undisturbed (w w' : World) (roomId : Option RoomId) : Prop :=
  ∀ userId roomId', w.activeRtcRoom userId = some roomId' → roomId ≠ some roomId' →
    w.SameUser w' userId

/-- **Users elsewhere.** A call disturbs nobody in another room exactly when
every user whose key it deletes has none, or one that names the room of the
call. -/
theorem undisturbed_iff (w : World) (e : Exit) :
    Undisturbed w (e.program.run (exec planner) w).2 (e.roomId w) ↔
      ∀ userId ∈ e.cleared w, ∀ roomId', w.activeRtcRoom userId = some roomId' →
        e.roomId w = some roomId' := by
  have hclears : (w.clearUsers (e.cleared w)).SameUsers _ := clears_program planner w e
  constructor
  · intro h userId hmem roomId' hkey
    by_contra hne
    have hsame := (h userId roomId' hkey hne).activeRtcRoom
    rw [hclears.activeRtcRoom, clearUsers_activeRtcRoom, if_pos hmem, hkey] at hsame
    cases hsame
  · intro h userId roomId' hkey hne
    have hmem : userId ∉ e.cleared w := fun hmem => hne (h userId hmem roomId' hkey)
    have hbefore := sameUser_clearUsers (w := w) hmem
    have hafter := hclears.user userId
    exact ⟨hafter.1.trans hbefore.1, hafter.2.trans hbefore.2, hafter.3.trans hbefore.3⟩

namespace Sample

def rover : UserId := ⟨"rover-ida", by decide⟩
def curator : UserId := ⟨"curator-max", by decide⟩

def liveSpace (roomId : RoomId) : RoomRow where
  id := roomId
  hostUserId := curator
  title := "Open house"
  visibility := .public_
  maxParticipants := 8
  status := .live
  startedAt := some 0
  roomType := .space
  sessionKind := .space

def gallery : RoomId := ⟨"gallery", by decide⟩
def workshop : RoomId := ⟨"workshop", by decide⟩

/-- Two live spaces, and a user who is open to connect. -/
def openHouse : World where
  rooms := { rows := [liveSpace gallery, liveSpace workshop], unique := by decide }
  openToConnect := Function.update (fun _ => none) rover (some ⟨true, false⟩)
  discoverable := fun userId => userId = rover
  online := fun userId => userId = rover

/-- A visit: joining, and the token. -/
def visit (userId : UserId) (roomId : RoomId) (w : World) : World :=
  let joined := ((joinRoomService userId roomId).run (exec .inOrder) w).2
  ((issueRtcTokenService [] userId roomId {}).run (exec .inOrder) joined).2

/-- The user has looked at the gallery, left it, and is in the workshop. -/
def movedOn : World :=
  visit rover workshop
    ((leaveSpaceRtcSessionForUser rover gallery true).run (exec .inOrder)
      (visit rover gallery openHouse)).2

def galleryCloses : Exit := .endLive gallery .hostEndForEveryone {}

/-- When the gallery closes, the user in the workshop loses the key and is shown
as free again. -/
theorem not_undisturbed_movedOn :
    ¬ Undisturbed movedOn (galleryCloses.program.run (exec .inOrder) movedOn).2
        (galleryCloses.roomId movedOn) ∧
      movedOn.discoverable rover = false ∧
      (galleryCloses.program.run (exec .inOrder) movedOn).2.discoverable rover = true := by
  refine ⟨fun h => ?_, by decide +kernel, by decide +kernel⟩
  have hkey : movedOn.activeRtcRoom rover = some workshop := by decide +kernel
  have hafter : (galleryCloses.program.run (exec .inOrder) movedOn).2.activeRtcRoom rover =
      none := by decide +kernel
  have hsame := (h rover workshop hkey (by decide)).activeRtcRoom
  rw [hafter, hkey] at hsame
  cases hsame

end Sample

end Greetup.Rooms
