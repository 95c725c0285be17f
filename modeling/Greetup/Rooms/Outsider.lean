import Greetup.Rooms.Deadline
import Greetup.Rooms.Elsewhere
import Greetup.Rooms.RowSteps

/-!
What a user who has nothing to do with a room can do to it by leaving it.

The room of the request is left whoever makes it. The branches for a space look
at the participant row of the caller; those for a direct room never do.
-/

namespace Greetup.Rooms

open Interleaving Prog

variable (planner : Planner)

/-- Neither the host of the room nor ever in it. -/
structure World.Outsider (w : World) (userId : UserId) (roomId : RoomId) : Prop where
  notHost : ∀ room, w.rooms.find roomId = some room → room.hostUserId ≠ userId
  noRow : w.participants.find (roomId, userId) = none

/-! ### Untouched rooms -/

/-- Whose event a message is. -/
def Outgoing.recipient : Outgoing → Option UserId
  | .emitToUser userId _ _ | .roomInviteDeclined userId _ _ _ | .otcCallEnded userId _ _ => userId
  | .partnerSkipped userId _ | .connectionCallEnded userId _ _ _ => userId
  | .connectionCallRing userId _ | .connectionCallAccepted userId _ _ _ _ _ => userId
  | .connectionCallSettled userId _ _ _ _ => userId
  | _ => none

def Outgoing.isHistory : Outgoing → Bool
  | .connectionCallHistory .. => true
  | _ => false

/-- From `w` to `w'` no history was written, and nobody who has been in the room
was sent anything. -/
def Hushed (w w' : World) (roomId : RoomId) : Prop :=
  ∃ messages, w'.outgoing = w.outgoing ++ messages ∧ ∀ message ∈ messages,
    message.isHistory = false ∧
      ∀ userId ∈ w.participantUserIds roomId, message.recipient ≠ some userId

/-- From `w` to `w'` nothing of the room has changed, and none of its people has
heard anything. -/
structure Untouched (w w' : World) (roomId : RoomId) : Prop where
  room : w'.rooms.find roomId = w.rooms.find roomId
  participants : w'.participants.rows.filter (·.roomId = roomId) =
    w.participants.rows.filter (·.roomId = roomId)
  session : w'.sessionRooms roomId = w.sessionRooms roomId
  activeCall : w'.calls.activeByRoom roomId = w.calls.activeByRoom roomId
  historyLogged : w'.calls.historyLogged roomId = w.calls.historyLogged roomId
  keys : ∀ userId ∈ w.participantUserIds roomId, w'.activeRtcRoom userId = w.activeRtcRoom userId
  hushed : Hushed w w' roomId

/-- The session of a direct room that is open would be ended. -/
def isOpenLive (room : RoomRow) (now : ℤ) : Bool :=
  room.status = .live && !isDbRoomSessionClosed room now

/-- The call in the room has no history that is still to be written. -/
def World.HistoryDone (w : World) (roomId : RoomId) : Prop :=
  w.calls.activeByRoom roomId = none ∨ w.calls.historyLogged roomId = true

/-- Nothing in the room is within the reach of somebody who leaves it. -/
def World.OutOfReach (w : World) (roomId : RoomId) : Prop :=
  ∀ room, w.rooms.find roomId = some room →
    if room.roomType = .space then
      isDbRoomSessionClosed room w.clock = true → w.sessionRooms roomId = none
    else
      isOpenLive room w.clock = false ∧ w.sessionRooms roomId = none ∧
        (∀ userId ∈ w.participantUserIds roomId, w.activeRtcRoom userId = none) ∧
        (room.sessionKind = .match_ → w.participantUserIds roomId = []) ∧
        (room.sessionKind = .connectionCall →
          w.activeUserIds roomId = [] ∧ w.HistoryDone roomId)

/-! ### Messages -/

def World.announce (w : World) (messages : List Outgoing) : World :=
  { w with outgoing := w.outgoing ++ messages }

/-- What the peer of a match is told. -/
def World.matchMessages (w : World) (userId : UserId) (roomId : RoomId) : List Outgoing :=
  if isDirectMatch (w.rooms.find roomId) then
    match (w.participantUserIds roomId).find? (· ≠ userId) with
    | none => []
    | some peerUserId =>
        if isOtcCallRoom (w.sessionRooms roomId) then [.otcCallEnded peerUserId roomId userId]
        else [.partnerSkipped peerUserId roomId]
  else []

/-- What the peer of a connection call is told. -/
def World.callMessages (w : World) (userId : UserId) (roomId : RoomId)
    (conversationId : Option Calls.ConversationId) : List Outgoing :=
  match (w.activeUserIds roomId).find? (· ≠ userId) with
  | none => []
  | some peerUserId => [.connectionCallEnded peerUserId roomId conversationId userId]

/-- What is sent before the room is looked at. -/
def World.leaveMessages (w : World) (userId : UserId) (room : RoomRow) : List Outgoing :=
  w.matchMessages userId room.id ++
    if room.sessionKind = .connectionCall then [] else [.leaveMatchEngineRoom userId]

section Messages

variable {w : World} {userId : UserId} {roomId : RoomId} {room : RoomRow}

@[simp] theorem announce_rooms (w : World) (messages : List Outgoing) :
    (w.announce messages).rooms = w.rooms := rfl

@[simp] theorem announce_clock (w : World) (messages : List Outgoing) :
    (w.announce messages).clock = w.clock := rfl

theorem World.Outsider.announce (h : w.Outsider userId roomId) (messages : List Outgoing) :
    (w.announce messages).Outsider userId roomId := ⟨h.notHost, h.noRow⟩

theorem announce_nil (w : World) : w.announce [] = w := by
  rw [World.announce, List.append_nil]

theorem mem_participantUserIds :
    userId ∈ w.participantUserIds roomId ↔ (w.participants.find (roomId, userId)).isSome := by
  rw [World.participantUserIds, List.mem_dedup, List.mem_map, Option.isSome_iff_exists]
  constructor
  · rintro ⟨row, hrow, rfl⟩
    obtain ⟨hmem, hroom⟩ := List.mem_filter.mp hrow
    refine ⟨row, Sql.Table.find_eq_some.mpr ⟨hmem, ?_⟩⟩
    rw [of_decide_eq_true hroom]
  · rintro ⟨row, hfind⟩
    obtain ⟨hmem, hkey⟩ := Sql.Table.mem_of_find hfind
    obtain ⟨hroom, huser⟩ := Prod.mk.inj hkey
    exact ⟨row, List.mem_filter.mpr ⟨hmem, decide_eq_true hroom⟩, huser⟩

theorem mem_activeUserIds (h : userId ∈ w.activeUserIds roomId) :
    userId ∈ w.participantUserIds roomId := by
  rw [World.activeUserIds, List.mem_map] at h
  obtain ⟨row, hrow, rfl⟩ := h
  obtain ⟨hmem, hcond⟩ := List.mem_filter.mp hrow
  rw [World.participantUserIds, List.mem_dedup, List.mem_map]
  exact ⟨row, List.mem_filter.mpr ⟨hmem, (Bool.and_eq_true_iff.mp hcond).1⟩, rfl⟩

/-- A list of others has a first one unless it is empty. -/
theorem find_other {userIds : List UserId} (h : userId ∉ userIds) :
    userIds.find? (· ≠ userId) = userIds.head? := by
  cases userIds with
  | nil => rfl
  | cons userId' userIds =>
      have hne : userId' ≠ userId := fun heq => h (heq ▸ List.mem_cons_self)
      rw [List.find?_cons_of_pos (by simpa using hne), List.head?_cons]

theorem run_listAllParticipantUserIds (w : World) (roomId : RoomId) :
    (listAllParticipantUserIds roomId).run (exec planner) w = (w.participantUserIds roomId, w) :=
  rfl

theorem run_notifyMatchPeerSkipped (userId : UserId)
    (hmatch : isDirectMatch (w.rooms.find roomId) = true) :
    ((notifyMatchPeerSkipped roomId userId).run (exec planner) w).2 =
      w.announce (match (w.participantUserIds roomId).find? (· ≠ userId) with
        | none => []
        | some peerUserId => [.partnerSkipped peerUserId roomId]) := by
  rw [notifyMatchPeerSkipped, run_bind, run_findRoomById, notifySkipped, if_neg (by simp [hmatch]),
    run_bind, run_listAllParticipantUserIds]
  cases (w.participantUserIds roomId).find? (· ≠ userId) with
  | none => exact (announce_nil w).symm
  | some peerUserId => rfl

theorem run_notifyOtcCallPeerEnded (userId : UserId)
    (hmatch : isDirectMatch (w.rooms.find roomId) = true) :
    (notifyOtcCallPeerEnded roomId userId).run (exec planner) w =
      if isOtcCallRoom (w.sessionRooms roomId) then
        match (w.participantUserIds roomId).find? (· ≠ userId) with
        | none => (false, w)
        | some peerUserId => (true, w.announce [.otcCallEnded peerUserId roomId userId])
      else (false, w) := by
  show (notifyIfOtc roomId userId (w.sessionRooms roomId)).run (exec planner) w = _
  rw [notifyIfOtc]
  by_cases horigin : isOtcCallRoom (w.sessionRooms roomId)
  · rw [if_neg (by simp [horigin]), if_pos horigin, run_bind, run_findRoomById, notifyOtcPeer,
      if_neg (by simp [hmatch]), run_bind, run_listAllParticipantUserIds]
    cases (w.participantUserIds roomId).find? (· ≠ userId) with
    | none => rfl
    | some peerUserId => rfl
  · rw [if_pos (by simp [horigin]), if_neg horigin]
    rfl

theorem run_notifyPeerIfMatch (w : World) (userId : UserId) (roomId : RoomId) :
    ((notifyPeerIfMatch userId roomId (w.rooms.find roomId)).run (exec planner) w).2 =
      w.announce (w.matchMessages userId roomId) := by
  by_cases hmatch : isDirectMatch (w.rooms.find roomId)
  swap
  · rw [notifyPeerIfMatch, World.matchMessages, if_neg hmatch, if_neg hmatch]
    exact (announce_nil w).symm
  have hskip := run_notifyMatchPeerSkipped planner userId hmatch
  rw [notifyPeerIfMatch, World.matchMessages, if_pos hmatch, if_pos hmatch, notifyDirectMatchPeer,
    run_bind, run_notifyOtcCallPeerEnded planner userId hmatch]
  cases hpeer : (w.participantUserIds roomId).find? (· ≠ userId) with
  | none =>
      rw [hpeer] at hskip
      split
      · exact hskip
      · exact hskip
  | some peerUserId =>
      rw [hpeer] at hskip
      dsimp only
      split
      · rfl
      · exact hskip

theorem run_leaveMatchEngineUnlessCall (w : World) (userId : UserId) (room : Option RoomRow) :
    ((leaveMatchEngineUnlessCall userId room).run (exec planner) w).2 =
      w.announce (if room.any (·.sessionKind = .connectionCall) then []
        else [.leaveMatchEngineRoom userId]) := by
  rw [leaveMatchEngineUnlessCall]
  split
  · exact (announce_nil w).symm
  · rfl

theorem hushed_announce {messages : List Outgoing} : Hushed w (w.announce messages) roomId ↔
    ∀ message ∈ messages, message.isHistory = false ∧
      ∀ userId ∈ w.participantUserIds roomId, message.recipient ≠ some userId := by
  constructor
  · rintro ⟨messages', heq, hall⟩
    rw [World.announce, List.append_cancel_left_eq] at heq
    exact heq ▸ hall
  · exact fun hall => ⟨messages, rfl, hall⟩

/-- The peer of a match hears of it as soon as there is one. -/
theorem hushed_match_iff (hrow : userId ∉ w.participantUserIds roomId)
    (hmatch : isDirectMatch (w.rooms.find roomId) = true) :
    Hushed w (w.announce (w.matchMessages userId roomId ++ [.leaveMatchEngineRoom userId])) roomId ↔
      w.participantUserIds roomId = [] := by
  rw [hushed_announce, World.matchMessages, if_pos hmatch, find_other hrow]
  cases hids : w.participantUserIds roomId with
  | nil => simp [Outgoing.isHistory]
  | cons peerUserId userIds =>
      refine iff_of_false ?_ (List.cons_ne_nil _ _)
      rw [List.head?_cons]
      intro hall
      dsimp only at hall
      split at hall
      · exact (hall _ List.mem_cons_self).2 peerUserId List.mem_cons_self rfl
      · exact (hall _ List.mem_cons_self).2 peerUserId List.mem_cons_self rfl

theorem run_resolveConnectionCallConversationId (w : World) (roomId : RoomId) :
    ((Calls.resolveConnectionCallConversationId roomId).run (exec planner) w).2 = w := by
  show ((Calls.conversationOfActive roomId (w.calls.activeByRoom roomId)).run
    (exec planner) w).2 = w
  cases h : (w.calls.activeByRoom roomId).bind (·.conversationId) with
  | some conversationId =>
      rw [Calls.conversationOfActive, h]
      rfl
  | none =>
      rw [Calls.conversationOfActive, h]
      show ((Calls.conversationOfPending (w.calls.pendingByRoom roomId)).run (exec planner) w).2 = w
      cases w.calls.pendingByRoom roomId with
      | none => rfl
      | some requestId => rfl

theorem run_notifyConnectionCallPeerEnded (userId : UserId) (h : w.rooms.find roomId = some room)
    (hcall : room.sessionKind = .connectionCall) : ∃ conversationId,
    ((notifyConnectionCallPeerEnded roomId userId).run (exec planner) w).2 =
      w.announce (w.callMessages userId roomId conversationId) := by
  have hrun : (notifyConnectionCallPeerEnded roomId userId).run (exec planner) w =
      (callEndedTo roomId userId ((w.activeUserIds roomId).find? (· ≠ userId))).run
        (exec planner) w := by
    rw [notifyConnectionCallPeerEnded, run_bind, run_findRoomById, h, notifyCallPeer,
      if_neg (by simp [hcall])]
    rfl
  simp only [World.callMessages]
  rw [hrun]
  cases (w.activeUserIds roomId).find? (· ≠ userId) with
  | none => exact ⟨none, (announce_nil w).symm⟩
  | some peerUserId =>
      refine ⟨((Calls.resolveConnectionCallConversationId roomId).run (exec planner) w).1, ?_⟩
      rw [callEndedTo, run_bind, run_resolveConnectionCallConversationId]
      rfl

/-- A history that is done is not written again. -/
theorem run_finalizeConnectionCallHistory (h : w.HistoryDone roomId) :
    ((Calls.finalizeConnectionCallHistory roomId).run (exec planner) w).2 = w := by
  rw [Calls.finalizeConnectionCallHistory, perform_bind, run_call]
  simp only [exec, Calls.exec]
  cases hactive : w.calls.activeByRoom roomId with
  | none => rfl
  | some call =>
      have hlogged : w.calls.historyLogged roomId = true := by
        rcases h with hnone | hlogged
        · rw [hactive] at hnone
          cases hnone
        · exact hlogged
      have hsame : Function.update w.calls.historyLogged roomId true = w.calls.historyLogged := by
        rw [← hlogged, Function.update_eq_self]
      simp only [perform_bind, run_call, exec, Calls.exec, hsame, hlogged, Bool.not_true]
      rfl

/-- A history that is not done is marked as written. -/
theorem historyLogged_finalizeConnectionCallHistory (h : ¬ w.HistoryDone roomId) :
    ((Calls.finalizeConnectionCallHistory roomId).run (exec planner) w).2.calls.historyLogged
      roomId = true := by
  rw [World.HistoryDone, not_or] at h
  obtain ⟨call, hcall⟩ := Option.ne_none_iff_exists'.mp h.1
  rw [Calls.finalizeConnectionCallHistory, perform_bind, run_call]
  simp only [exec, Calls.exec, hcall, perform_bind, run_call, Calls.finalizeLogged, h.2,
    Bool.not_false, if_true, Calls.clearActiveConnectionCall, run_perform]
  show Function.update w.calls.historyLogged roomId true roomId = true
  rw [Function.update_self]

end Messages

/-! ### The end of a session that is closed -/

/-- All but the users' part. -/
structure World.SameRest (w w' : World) : Prop where
  rooms : w'.rooms = w.rooms
  participants : w'.participants = w.participants
  sessionRooms : w'.sessionRooms = w.sessionRooms
  calls : w'.calls = w.calls
  outgoing : w'.outgoing = w.outgoing

theorem sameRest_clear (w : World) (userId : UserId) :
    w.SameRest (w.clearUserActiveRtcRoom userId) := by
  rw [World.clearUserActiveRtcRoom, World.restoreOpenToConnectAfterRoom]
  split
  · exact ⟨rfl, rfl, rfl, rfl, rfl⟩
  · split
    · exact ⟨rfl, rfl, rfl, rfl, rfl⟩
    · exact ⟨rfl, rfl, rfl, rfl, rfl⟩

theorem sameRest_clearUsers (w : World) (userIds : List UserId) :
    w.SameRest (w.clearUsers userIds) := by
  induction userIds generalizing w with
  | nil => exact ⟨rfl, rfl, rfl, rfl, rfl⟩
  | cons userId userIds ih =>
      have hone := sameRest_clear w userId
      have hrest := ih (w.clearUserActiveRtcRoom userId)
      exact ⟨hrest.1.trans hone.1, hrest.2.trans hone.2, hrest.3.trans hone.3,
        hrest.4.trans hone.4, hrest.5.trans hone.5⟩

theorem run_clearUserActiveRtcRooms (w : World) (userIds : List UserId) :
    ((clearUserActiveRtcRooms userIds).run (exec planner) w).2 = w.clearUsers userIds := by
  induction userIds generalizing w with
  | nil => rfl
  | cons userId userIds ih => exact ih _

section Ended

variable {w : World} {userId : UserId} {roomId : RoomId} {room : RoomRow}

/-- A session that is not open only loses its keys. -/
theorem run_endLiveRoomSession_of_closed (reason : RoomSessionEndReason)
    (options : EndLiveRoomSessionOptions) (h : w.rooms.find room.id = some room)
    (hclosed : isOpenLive room w.clock = false) :
    ((endLiveRoomSession room.id reason options).run (exec planner) w).2 =
      (w.setSessionRoom room.id none).clearUsers (w.participantUserIds room.id) := by
  have hcond : (isDbRoomSessionClosed room w.clock || room.status ≠ .live) = true := by
    rw [isOpenLive, Bool.and_eq_false_iff] at hclosed
    rcases hclosed with hlive | hclosed
    · simp [of_decide_eq_false hlive]
    · have hdb : isDbRoomSessionClosed room w.clock = true := by simpa using hclosed
      rw [hdb, Bool.true_or]
  rw [endLiveRoomSession, run_bind, run_findRoomById, h]
  show ((endSessionOf room (w.participantUserIds room.id) reason options w.clock).run
    (exec planner) w).2 = _
  rw [endSessionOf, if_pos hcond]
  simp only [run_bind, run_done, pure_eq, run_clearUserActiveRtcRooms]
  rfl

/-- **Spec of leaving a direct room that is closed**, once the peers know. -/
theorem untouched_closed_iff {w₁ : World} (hrooms : w₁.rooms = w.rooms)
    (hparticipants : w₁.participants = w.participants)
    (hrow : userId ∉ w.participantUserIds roomId) :
    Untouched w (((w₁.setSessionRoom roomId none).clearUsers
        (w.participantUserIds roomId)).clearUserActiveRtcRoom userId) roomId ↔
      w.sessionRooms roomId = none ∧
        (∀ userId ∈ w.participantUserIds roomId, w.activeRtcRoom userId = none) ∧
        (w₁.calls.activeByRoom roomId = w.calls.activeByRoom roomId ∧
          w₁.calls.historyLogged roomId = w.calls.historyLogged roomId) ∧
        Hushed w w₁ roomId := by
  have hlast := sameRest_clear ((w₁.setSessionRoom roomId none).clearUsers
    (w.participantUserIds roomId)) userId
  have hfirst := sameRest_clearUsers (w₁.setSessionRoom roomId none) (w.participantUserIds roomId)
  have hcleared : ∀ userId' ∈ w.participantUserIds roomId,
      (((w₁.setSessionRoom roomId none).clearUsers
        (w.participantUserIds roomId)).clearUserActiveRtcRoom userId).activeRtcRoom userId' =
        none := by
    intro userId' hmem
    have hne : userId' ≠ userId := fun heq => hrow (heq ▸ hmem)
    rw [clear_activeRtcRoom, Function.update_of_ne hne, clearUsers_activeRtcRoom, if_pos hmem]
  constructor
  · intro h
    have hsession := h.session
    have hactive := h.activeCall
    have hlogged := h.historyLogged
    obtain ⟨messages, houtgoing, hall⟩ := h.hushed
    rw [hlast.sessionRooms, hfirst.sessionRooms] at hsession
    rw [hlast.calls, hfirst.calls] at hactive hlogged
    rw [hlast.outgoing, hfirst.outgoing] at houtgoing
    refine ⟨?_, fun userId' hmem => ?_, ⟨hactive, hlogged⟩, messages, houtgoing, hall⟩
    · rw [← hsession]
      show Function.update w₁.sessionRooms roomId none roomId = none
      rw [Function.update_self]
    · rw [← h.keys userId' hmem, hcleared userId' hmem]
  · rintro ⟨hsession, hnone, ⟨hactive, hlogged⟩, messages, houtgoing, hall⟩
    refine ⟨?_, ?_, ?_, ?_, ?_, fun userId' hmem => ?_, messages, ?_, hall⟩
    · rw [hlast.rooms, hfirst.rooms]
      exact congrArg (·.find roomId) hrooms
    · rw [hlast.participants, hfirst.participants]
      exact congrArg (fun t => t.rows.filter (·.roomId = roomId)) hparticipants
    · rw [hlast.sessionRooms, hfirst.sessionRooms, hsession]
      show Function.update w₁.sessionRooms roomId none roomId = none
      rw [Function.update_self]
    · rw [hlast.calls, hfirst.calls]
      exact hactive
    · rw [hlast.calls, hfirst.calls]
      exact hlogged
    · rw [hcleared userId' hmem, hnone userId' hmem]
    · rw [hlast.outgoing, hfirst.outgoing]
      exact houtgoing

/-! ### Leaving it -/

theorem notMem_of_outsider (h : w.Outsider userId roomId) :
    userId ∉ w.participantUserIds roomId := by
  rw [mem_participantUserIds, h.noRow]
  exact Bool.false_ne_true

theorem notMem_active_of_outsider (h : w.Outsider userId roomId) :
    userId ∉ w.activeUserIds roomId :=
  fun hmem => notMem_of_outsider h (mem_activeUserIds hmem)

/-- There is no row to mark. -/
theorem run_markParticipantLeft_of_outsider (h : w.Outsider userId roomId) :
    (issue (.markParticipantLeft roomId userId)).run (exec planner) w = ((), w) := by
  have hsame : w.setLeftAt roomId (fun row => row.userId = userId && row.leftAt = none)
      (some w.clock) = w := by
    rw [World.setLeftAt, Sql.Table.update_eq_self]
    · rfl
    · intro row hrow
      have hne : ¬ (row.roomId = roomId ∧ row.userId = userId) := by
        rintro ⟨rfl, rfl⟩
        have hfind := Sql.Table.find_eq_some.mpr ⟨hrow, rfl⟩
        rw [h.noRow] at hfind
        cases hfind
      simp only [Bool.and_eq_false_iff, decide_eq_false_iff_not]
      tauto
  rw [run_perform]
  simp only [exec, hsame]

/-- Somebody without a row leaves a space without a trace, unless it is closed. -/
theorem run_leaveSpaceRtcSessionInternal_of_outsider (h : w.Outsider userId room.id)
    (hfind : w.rooms.find room.id = some room) (hspace : room.roomType = .space) :
    ((leaveSpaceRtcSessionInternal userId room.id).run (exec planner) w).2 =
      if isDbRoomSessionClosed room w.clock then
        (w.setSessionRoom room.id none).clearUserActiveRtcRoom userId
      else w.clearUserActiveRtcRoom userId := by
  have hactive : (isUserRoomParticipant room.id userId).run (exec planner) w = (false, w) := by
    show (isActive (w.participants.find (room.id, userId)), w) = _
    rw [h.noRow]
    rfl
  rw [leaveSpaceRtcSessionInternal, run_map, leaveSpaceRtcSessionForUser, run_bind,
    run_findRoomById, hfind]
  show ((leaveFound userId room.id false (some room)).run (exec planner) w).2 = _
  rw [leaveFound, Option.filter_some, if_pos (by simp [hspace])]
  show ((leaveSpace userId room.id room false w.clock).run (exec planner) w).2 = _
  rw [leaveSpace]
  simp only [Bool.false_eq_true, if_false]
  split_ifs with hclosed hscheduled hlive
  · rfl
  · rw [run_bind, hactive]
    rfl
  · rfl
  · rw [run_bind, hactive]
    rfl

/-! ### A direct room -/

/-- What remains to be done once the peer of a match and the match engine have
been told. -/
theorem run_leaveRoom (userId : UserId) (hfind : w.rooms.find room.id = some room) :
    ((leaveRoom userId room.id).run (exec planner) w).2 =
      ((leaveRoomOf userId room.id room).run (exec planner)
        (w.announce (w.leaveMessages userId room))).2.clearUserActiveRtcRoom userId := by
  have hannounce : ∀ messages messages', (w.announce messages).announce messages' =
      w.announce (messages ++ messages') := by
    intro messages messages'
    simp only [World.announce, List.append_assoc]
  have hpeer := run_notifyPeerIfMatch planner w userId room.id
  rw [hfind] at hpeer
  simp only [leaveRoom, run_bind, run_findRoomById, run_leaveMatchEngineUnlessCall, hfind, hpeer,
    hannounce, Option.any_some, decide_eq_true_eq]
  rfl

/-- A session that is open is ended, whoever leaves it. -/
theorem status_endLiveRoomSession_of_open (reason : RoomSessionEndReason)
    (options : EndLiveRoomSessionOptions) (hfind : w.rooms.find room.id = some room)
    (hlive : isOpenLive room w.clock = true) (hslot : keepsSlot room reason options = false) :
    ∃ row, ((endLiveRoomSession room.id reason options).run (exec planner) w).2.rooms.find
      room.id = some row ∧ row.status = .ended := by
  rw [isOpenLive, Bool.and_eq_true, decide_eq_true_eq, Bool.not_eq_true'] at hlive
  have hkeeps : (w.sessionEnded room reason options).Keeps
      ((endLiveRoomSession room.id reason options).run (exec planner) w).2 :=
    endLiveRoomSession_keeps planner hfind
  have hended := (endLiveRoomSessionTx_of_live reason options w.clock hfind hlive.1).2.1
  rw [World.sessionEnded, if_neg (by simp [hlive.1, hlive.2])] at hkeeps
  refine ⟨(endChange room reason options w.clock).apply room, ?_, ?_⟩
  · rw [hkeeps.rooms, hended]
  · rw [endChange_apply_status, if_neg (by simp [hslot])]

/-- An end of the row is not left unnoticed. -/
theorem not_untouched_of_ended {w' : World} {row : RoomRow}
    (hfind : w.rooms.find roomId = some room)
    (hlive : isOpenLive room w.clock = true) (hrow : w'.rooms.find roomId = some row)
    (hended : row.status = .ended) : ¬ Untouched w w' roomId := by
  intro h
  have hsame := h.room
  rw [hfind, hrow] at hsame
  cases hsame
  rw [isOpenLive, Bool.and_eq_true, decide_eq_true_eq, hended] at hlive
  exact absurd hlive.1 (by decide)

/-- Clearing the key of an outsider is not noticed. -/
theorem Untouched.of_clear {w' : World} (hrow : userId ∉ w.participantUserIds roomId) :
    Untouched w (w'.clearUserActiveRtcRoom userId) roomId ↔ Untouched w w' roomId := by
  have hsame := sameRest_clear w' userId
  have hkeys : ∀ userId' ∈ w.participantUserIds roomId,
      (w'.clearUserActiveRtcRoom userId).activeRtcRoom userId' = w'.activeRtcRoom userId' := by
    intro userId' hmem
    have hne : userId' ≠ userId := fun heq => hrow (heq ▸ hmem)
    exact (sameUser_clear_of_ne hne).activeRtcRoom
  constructor
  · intro h
    obtain ⟨messages, houtgoing, hall⟩ := h.hushed
    refine ⟨?_, ?_, ?_, ?_, ?_, fun userId' hmem => ?_, messages, ?_, hall⟩
    · rw [← h.room, hsame.rooms]
    · rw [← h.participants, hsame.participants]
    · rw [← h.session, hsame.sessionRooms]
    · rw [← h.activeCall, hsame.calls]
    · rw [← h.historyLogged, hsame.calls]
    · rw [← h.keys userId' hmem, hkeys userId' hmem]
    · rw [← houtgoing, hsame.outgoing]
  · intro h
    obtain ⟨messages, houtgoing, hall⟩ := h.hushed
    refine ⟨?_, ?_, ?_, ?_, ?_, fun userId' hmem => ?_, messages, ?_, hall⟩
    · rw [hsame.rooms, h.room]
    · rw [hsame.participants, h.participants]
    · rw [hsame.sessionRooms, h.session]
    · rw [hsame.calls, h.activeCall]
    · rw [hsame.calls, h.historyLogged]
    · rw [hkeys userId' hmem, h.keys userId' hmem]
    · rw [hsame.outgoing, houtgoing]

theorem hushed_leaveMessages_iff (hrow : userId ∉ w.participantUserIds room.id)
    (hfind : w.rooms.find room.id = some room) :
    Hushed w (w.announce (w.leaveMessages userId room)) room.id ↔
      (isDirectMatch (some room) = true → w.participantUserIds room.id = []) := by
  by_cases hmatch : isDirectMatch (some room) = true
  · have hkind : room.sessionKind ≠ .connectionCall := by
      intro hcall
      simp [isDirectMatch, hcall] at hmatch
    rw [World.leaveMessages, if_neg hkind, hushed_match_iff hrow (hfind ▸ hmatch)]
    exact ⟨fun h _ => h, fun h => h hmatch⟩
  · refine iff_of_true ?_ fun h => absurd h hmatch
    have hmessages : w.matchMessages userId room.id = [] := by
      rw [World.matchMessages, hfind, if_neg hmatch]
    rw [hushed_announce, World.leaveMessages, hmessages, List.nil_append]
    intro message hmem
    split at hmem
    · cases hmem
    · cases List.mem_singleton.mp hmem
      exact ⟨rfl, fun _ _ => Option.some_ne_none _ ∘ Eq.symm⟩

theorem untouched_space_iff (h : w.Outsider userId room.id)
    (hfind : w.rooms.find room.id = some room) (hspace : room.roomType = .space) :
    Untouched w ((leaveRoom userId room.id).run (exec planner) w).2 room.id ↔
      (isDbRoomSessionClosed room w.clock = true → w.sessionRooms room.id = none) := by
  have hrow := notMem_of_outsider h
  obtain ⟨messages, houtgoing, hall⟩ := (hushed_leaveMessages_iff hrow hfind).mpr
    (by simp [isDirectMatch, hspace])
  rw [run_leaveRoom planner userId hfind, Untouched.of_clear hrow, leaveRoomOf, if_pos hspace]
  rw [run_leaveSpaceRtcSessionInternal_of_outsider planner (h.announce _) hfind hspace,
    announce_clock]
  by_cases hclosed : isDbRoomSessionClosed room w.clock = true
  · rw [if_pos hclosed, Untouched.of_clear hrow]
    constructor
    · intro hsame _
      rw [← hsame.session]
      exact Function.update_self room.id none w.sessionRooms
    · intro hnone
      refine ⟨rfl, rfl, ?_, rfl, rfl, fun _ _ => rfl, messages, houtgoing, hall⟩
      rw [hnone hclosed]
      exact Function.update_self room.id none w.sessionRooms
  · rw [if_neg hclosed, Untouched.of_clear hrow]
    refine iff_of_true ?_ fun hclosed' => absurd hclosed' hclosed
    exact ⟨rfl, rfl, rfl, rfl, rfl, fun _ _ => rfl, messages, houtgoing, hall⟩

theorem keeps_announce (w : World) (messages : List Outgoing) : w.Keeps (w.announce messages) :=
  ⟨rfl, rfl, rfl, rfl, List.prefix_append _ _⟩

/-- **Spec of ending a direct room** once the peers have been told. -/
theorem untouched_end_iff {w₁ : World} (hkeeps : w.Keeps w₁)
    (hrow : userId ∉ w.participantUserIds room.id) (hfind : w.rooms.find room.id = some room)
    (hspace : room.roomType ≠ .space) (reason : RoomSessionEndReason)
    (options : EndLiveRoomSessionOptions) :
    Untouched w (((endLiveRoomSession room.id reason options).run
        (exec planner) w₁).2.clearUserActiveRtcRoom userId) room.id ↔
      isOpenLive room w.clock = false ∧ w.sessionRooms room.id = none ∧
        (∀ userId ∈ w.participantUserIds room.id, w.activeRtcRoom userId = none) ∧
        (w₁.calls.activeByRoom room.id = w.calls.activeByRoom room.id ∧
          w₁.calls.historyLogged room.id = w.calls.historyLogged room.id) ∧
        Hushed w w₁ room.id := by
  have hfind₁ : w₁.rooms.find room.id = some room := by rw [hkeeps.rooms, hfind]
  have hids : w₁.participantUserIds room.id = w.participantUserIds room.id := by
    rw [World.participantUserIds, World.participantUserIds, hkeeps.participants]
  cases hlive : isOpenLive room w.clock with
  | true =>
      refine iff_of_false ?_ fun hclosed => Bool.false_ne_true hclosed.1.symm
      obtain ⟨row, hrow', hended⟩ := status_endLiveRoomSession_of_open planner reason options hfind₁
        (by rw [hkeeps.clock, hlive]) (by simp [keepsSlot, hspace])
      rw [Untouched.of_clear hrow]
      exact not_untouched_of_ended hfind hlive hrow' hended
  | false =>
      rw [run_endLiveRoomSession_of_closed planner _ _ hfind₁ (by rw [hkeeps.clock, hlive]), hids,
        untouched_closed_iff hkeeps.rooms hkeeps.participants hrow]
      simp only [true_and]

/-- A match, or a direct room of another kind. -/
theorem untouched_match_iff (h : w.Outsider userId room.id)
    (hfind : w.rooms.find room.id = some room) (hspace : room.roomType ≠ .space)
    (hcall : room.sessionKind ≠ .connectionCall) :
    Untouched w ((leaveRoom userId room.id).run (exec planner) w).2 room.id ↔
      isOpenLive room w.clock = false ∧ w.sessionRooms room.id = none ∧
        (∀ userId ∈ w.participantUserIds room.id, w.activeRtcRoom userId = none) ∧
        (isDirectMatch (some room) = true → w.participantUserIds room.id = []) := by
  have hrow := notMem_of_outsider h
  have hfinalize : ∀ w', ((finalizeDirectMatchRoomSession room.id).run (exec planner) w').2 =
      ((endLiveRoomSession room.id .matchFinalized
        { preserveScheduledSlot := some false, notifyParticipants := some false }).run
        (exec planner) w').2 := by
    intro w'
    rw [finalizeDirectMatchRoomSession, run_bind]
    rfl
  rw [run_leaveRoom planner userId hfind, leaveRoomOf, if_neg hspace, if_neg hcall, hfinalize,
    untouched_end_iff planner (keeps_announce w _) hrow hfind hspace,
    hushed_leaveMessages_iff hrow hfind]
  simp only [World.announce, and_self, true_and]

/-- The peer of a call hears of it as soon as one is in it. -/
theorem hushed_call_iff (h : w.Outsider userId roomId)
    (conversationId : Option Calls.ConversationId) :
    Hushed w (w.announce (w.callMessages userId roomId conversationId)) roomId ↔
      w.activeUserIds roomId = [] := by
  rw [hushed_announce, World.callMessages, find_other (notMem_active_of_outsider h)]
  cases hids : w.activeUserIds roomId with
  | nil => simp
  | cons peerUserId userIds =>
      refine iff_of_false ?_ (List.cons_ne_nil _ _)
      intro hall
      have hmem : peerUserId ∈ w.activeUserIds roomId := hids ▸ List.mem_cons_self
      exact (hall _ List.mem_cons_self).2 peerUserId (mem_activeUserIds hmem) rfl

theorem untouched_call_iff (h : w.Outsider userId room.id)
    (hfind : w.rooms.find room.id = some room) (hspace : room.roomType ≠ .space)
    (hcall : room.sessionKind = .connectionCall) :
    Untouched w ((leaveRoom userId room.id).run (exec planner) w).2 room.id ↔
      isOpenLive room w.clock = false ∧ w.sessionRooms room.id = none ∧
        (∀ userId ∈ w.participantUserIds room.id, w.activeRtcRoom userId = none) ∧
        w.activeUserIds room.id = [] ∧ w.HistoryDone room.id := by
  have hrow := notMem_of_outsider h
  have hnone : w.leaveMessages userId room = [] := by
    rw [World.leaveMessages, World.matchMessages, hfind, if_neg (by simp [isDirectMatch, hcall]),
      if_pos hcall, List.nil_append]
  obtain ⟨conversationId, hnotify⟩ :=
    run_notifyConnectionCallPeerEnded planner userId hfind hcall
  have hhushed := hushed_call_iff h conversationId
  generalize w.callMessages userId room.id conversationId = messages at hnotify hhushed
  let w₁ := ((Calls.finalizeConnectionCallHistory room.id).run (exec planner)
    (w.announce messages)).2
  have hkeeps : w.Keeps w₁ := (keeps_announce w messages).trans
    (keeps_of_announces planner finalizeConnectionCallHistory_announces _)
  have hrun : ((leaveRoomOf userId room.id room).run (exec planner) w).2 =
      ((endLiveRoomSession room.id .connectionCallEnded
        { preserveScheduledSlot := some false, notifyParticipants := some false }).run
        (exec planner) w₁).2 := by
    rw [leaveRoomOf, if_neg hspace, if_pos hcall, run_bind, hnotify, run_bind,
      run_markParticipantLeft_of_outsider planner (h.announce messages)]
    rw [finalizeConnectionCallRoomSession, run_bind, run_bind]
    rfl
  rw [run_leaveRoom planner userId hfind, hnone, announce_nil, hrun,
    untouched_end_iff planner hkeeps hrow hfind hspace]
  by_cases hdone : w.HistoryDone room.id
  · have hsame : w₁ = w.announce messages := run_finalizeConnectionCallHistory planner hdone
    rw [hsame, hhushed]
    simp only [World.announce, and_self, true_and, hdone, and_true]
  · have hlogged : w₁.calls.historyLogged room.id = true :=
      historyLogged_finalizeConnectionCallHistory planner hdone
    refine iff_of_false ?_ fun h' => hdone h'.2.2.2.2
    rintro ⟨-, -, -, ⟨-, hsame⟩, -⟩
    rw [hlogged] at hsame
    exact hdone (.inr hsame.symm)

end Ended

theorem untouched_of_find_none {w : World} {userId : UserId} {roomId : RoomId}
    (h : w.Outsider userId roomId) (hfind : w.rooms.find roomId = none) :
    Untouched w ((leaveRoom userId roomId).run (exec planner) w).2 roomId := by
  have hrun : ((leaveRoom userId roomId).run (exec planner) w).2 =
      (w.announce [.leaveMatchEngineRoom userId]).clearUserActiveRtcRoom userId := by
    simp only [leaveRoom, run_bind, run_findRoomById, hfind]
    rfl
  rw [hrun, Untouched.of_clear (notMem_of_outsider h)]
  refine ⟨rfl, rfl, rfl, rfl, rfl, fun _ _ => rfl, hushed_announce.mpr fun message hmem => ?_⟩
  cases List.mem_singleton.mp hmem
  exact ⟨rfl, fun _ _ => Option.some_ne_none _ ∘ Eq.symm⟩

/-- **Outsiders.** Somebody who has nothing to do with a room leaves it as it is
exactly when nothing in it is within reach. -/
theorem untouched_iff_outOfReach {w : World} {userId : UserId} {roomId : RoomId}
    (h : w.Outsider userId roomId) :
    Untouched w ((leaveDirectRoomService userId (some roomId)).run (exec planner) w).2 roomId ↔
      w.OutOfReach roomId := by
  show Untouched w ((leaveRoom userId roomId).run (exec planner) w).2 roomId ↔ _
  rw [World.OutOfReach]
  cases hfind : w.rooms.find roomId with
  | none =>
      refine iff_of_true (untouched_of_find_none planner h hfind) fun room hroom => ?_
      cases hroom
  | some room =>
      obtain rfl := (Sql.Table.mem_of_find hfind).2
      simp only [Option.some.injEq, forall_eq']
      by_cases hspace : room.roomType = .space
      · rw [if_pos hspace, untouched_space_iff planner h hfind hspace]
      have hdirect : room.roomType = .direct := by
        cases htype : room.roomType with
        | direct => rfl
        | space => exact absurd htype hspace
      rw [if_neg hspace]
      by_cases hcall : room.sessionKind = .connectionCall
      · rw [untouched_call_iff planner h hfind hspace hcall]
        simp [hcall]
      · rw [untouched_match_iff planner h hfind hspace hcall]
        simp [hcall, isDirectMatch, hdirect]

namespace Sample

def stranger : UserId := ⟨"stranger-eve", by decide⟩
def caller : UserId := ⟨"caller-fay", by decide⟩
def callee : UserId := ⟨"callee-gus", by decide⟩
def phoneCall : RoomId := ⟨"phone-call", by decide⟩

/-- A connection call that is over. -/
def hungUp : World where
  rooms :=
    { rows :=
        [{ id := phoneCall, hostUserId := caller, title := "Call", visibility := .private_
           maxParticipants := 2, status := .ended, roomType := .direct
           sessionKind := .connectionCall }]
      unique := List.nodup_singleton _ }
  participants :=
    { rows := [⟨phoneCall, caller, .host, some 1⟩, ⟨phoneCall, callee, .participant, some 1⟩]
      unique := by decide }
  clock := minutes 1

theorem outsider_hungUp : hungUp.Outsider stranger phoneCall where
  notHost room hroom := by
    have hfind : hungUp.rooms.find phoneCall = some _ := rfl
    cases hfind.symm.trans hroom
    decide
  noRow := by decide

theorem untouched_hungUp : Untouched hungUp
    ((leaveDirectRoomService stranger (some phoneCall)).run (exec .inOrder) hungUp).2
    phoneCall := by
  refine (untouched_iff_outOfReach .inOrder outsider_hungUp).mpr fun room hroom => ?_
  have hfind : hungUp.rooms.find phoneCall = some _ := rfl
  cases hfind.symm.trans hroom
  refine ⟨by decide, rfl, fun _ _ => rfl, fun hmatch => ?_, fun _ => ⟨by decide, .inl rfl⟩⟩
  cases hmatch

theorem outsider_duetWorld : duetWorld.Outsider stranger duet.id where
  notHost room hroom := by
    have hfind : duetWorld.rooms.find duet.id = some duet := rfl
    cases hfind.symm.trans hroom
    decide
  noRow := by decide

/-- Whoever knows the id of a match can end it. -/
theorem not_untouched_duetWorld : duetWorld.Outsider stranger duet.id ∧
    ¬ Untouched duetWorld
      ((leaveDirectRoomService stranger (some duet.id)).run (exec .inOrder) duetWorld).2
      duet.id := by
  refine ⟨outsider_duetWorld, fun h => ?_⟩
  have hended : (((leaveDirectRoomService stranger (some duet.id)).run (exec .inOrder)
      duetWorld).2.rooms.find duet.id).map (·.status) = some .ended := by decide +kernel
  have hlive : (duetWorld.rooms.find duet.id).map (·.status) = some .live := by decide
  rw [h.room, hlive] at hended
  cases hended

end Sample

end Greetup.Rooms
