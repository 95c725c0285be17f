import Greetup.Rooms.Session

/-!
What a reconciliation does to the database, and when it really closes a room
that is due.

The end reasons are found with one test and acted upon with another. A row that
has expired is due, but it also counts as closed already: it only loses its
Redis keys, and stays `live` with everybody in it.
-/

namespace Greetup.Rooms

open Interleaving Prog

variable (planner : Planner)

/-! ### Commands that write no row -/

/-- The database is the same, and nothing that was asked for is taken back. -/
structure World.Keeps (w w' : World) : Prop where
  rooms : w'.rooms = w.rooms
  participants : w'.participants = w.participants
  clock : w'.clock = w.clock
  listings : w'.listings = w.listings
  outgoing : w.outgoing <+: w'.outgoing

theorem World.Keeps.refl (w : World) : w.Keeps w := ⟨rfl, rfl, rfl, rfl, List.prefix_rfl⟩

theorem World.Keeps.trans {w w' w'' : World} (h : w.Keeps w') (h' : w'.Keeps w'') : w.Keeps w'' :=
  ⟨h'.rooms.trans h.rooms, h'.participants.trans h.participants, h'.clock.trans h.clock,
    h'.listings.trans h.listings, h.outgoing.trans h'.outgoing⟩

/-- The commands that write no row and choose none. -/
def Cmd.Quiet : Cmd → Prop
  | .updateRoom .. | .expireScheduledJoinGraceMissed _ | .endLiveRoomSessionTx _ => False
  | .listRoomIdsDueForSessionSweep _ => False
  | .addOrReactivateHostRow .. | .addOrReactivateParticipantRow .. => False
  | .markParticipantLeft .. | .leaveAndMaybeEndRoomTx .. => False
  | .runExpandDirectAcceptTransaction _ | .createConnectionCallRoom .. => False
  | .elapsed _ => False
  | _ => True

theorem keeps_pauseOpenToConnectForRoom (w : World) (userId : UserId) :
    w.Keeps (w.pauseOpenToConnectForRoom userId) := by
  rw [World.pauseOpenToConnectForRoom]
  split
  · exact .refl w
  · split
    · exact .refl w
    · exact ⟨rfl, rfl, rfl, rfl, List.prefix_rfl⟩

theorem keeps_restoreOpenToConnectAfterRoom (w : World) (userId : UserId) :
    w.Keeps (w.restoreOpenToConnectAfterRoom userId) := by
  rw [World.restoreOpenToConnectAfterRoom]
  split
  · exact .refl w
  · split
    · exact .refl w
    · exact ⟨rfl, rfl, rfl, rfl, List.prefix_rfl⟩

theorem keeps_setActiveRtcRoom (w : World) (userId : UserId) (roomId : Option RoomId) :
    w.Keeps (w.setActiveRtcRoom userId roomId) :=
  ⟨rfl, rfl, rfl, rfl, List.prefix_rfl⟩

theorem keeps_getUserActiveRtcRoomVerified (w : World) (userId : UserId) :
    w.Keeps (w.getUserActiveRtcRoomVerified userId).2 := by
  rw [World.getUserActiveRtcRoomVerified]
  split
  · exact .refl w
  · split_ifs
    · exact .refl w
    · exact keeps_setActiveRtcRoom w userId none
    · exact .refl w

theorem Cmd.Quiet.keeps {c : Cmd} (hc : c.Quiet) (w : World) : w.Keeps (exec planner c w).2 := by
  cases c with
  | updateRoom | expireScheduledJoinGraceMissed | endLiveRoomSessionTx => exact hc.elim
  | listRoomIdsDueForSessionSweep => exact hc.elim
  | addOrReactivateHostRow | addOrReactivateParticipantRow => exact hc.elim
  | markParticipantLeft | leaveAndMaybeEndRoomTx => exact hc.elim
  | runExpandDirectAcceptTransaction | createConnectionCallRoom | elapsed => exact hc.elim
  | setUserActiveRtcRoom userId roomId =>
      exact (keeps_setActiveRtcRoom w userId _).trans (keeps_pauseOpenToConnectForRoom _ userId)
  | clearUserActiveRtcRoom userId =>
      exact (keeps_setActiveRtcRoom w userId _).trans (keeps_restoreOpenToConnectAfterRoom _ userId)
  | getUserActiveRtcRoomVerified userId => exact keeps_getUserActiveRtcRoomVerified w userId
  | send message => exact ⟨rfl, rfl, rfl, rfl, List.prefix_append _ _⟩
  | _ => exact ⟨rfl, rfl, rfl, rfl, List.prefix_rfl⟩

theorem keeps_of_quiet {α : Type} {p : M α} (hp : p.Uses Cmd.Quiet) (w : World) :
    w.Keeps (p.run (exec planner) w).2 :=
  hp.run_keeps (fun _ hc w' hw' => hw'.trans (hc.keeps planner w')) (.refl w)

theorem clearUserActiveRtcRooms_quiet (userIds : List UserId) :
    (clearUserActiveRtcRooms userIds).Uses Cmd.Quiet := by
  induction userIds with
  | nil => trivial
  | cons userId userIds ih => exact ⟨trivial, fun _ => ih⟩

theorem emitToUsers_quiet (event : SpaceRoomEvent) (roomId : RoomId) (userIds : List UserId) :
    (emitToUsers event roomId userIds).Uses Cmd.Quiet := by
  induction userIds with
  | nil => trivial
  | cons userId userIds ih => exact ⟨trivial, fun _ => ih⟩

theorem notifySpaceParticipantsToLeave_quiet (roomId : RoomId) (hostUserId : UserId)
    (excludeUserId : Option UserId) :
    (notifySpaceParticipantsToLeave roomId hostUserId excludeUserId).Uses Cmd.Quiet :=
  ⟨trivial, fun _ => emitToUsers_quiet _ _ _⟩

theorem notifyIfSpace_quiet (room : RoomRow) (reason : RoomSessionEndReason)
    (options : EndLiveRoomSessionOptions) : (notifyIfSpace room reason options).Uses Cmd.Quiet := by
  rw [notifyIfSpace]
  split
  · exact notifySpaceParticipantsToLeave_quiet _ _ _
  · trivial

theorem afterTransition_quiet (room : RoomRow) (reason : RoomSessionEndReason)
    (options : EndLiveRoomSessionOptions) (transitioned : Bool) :
    (afterTransition room reason options transitioned).Uses Cmd.Quiet := by
  cases transitioned with
  | false => trivial
  | true => exact ⟨trivial, fun _ => notifyIfSpace_quiet room reason options⟩

theorem afterTransaction_quiet (room : RoomRow) (userIds : List UserId)
    (reason : RoomSessionEndReason) (options : EndLiveRoomSessionOptions) (transitioned : Bool) :
    (afterTransaction room userIds reason options transitioned).Uses Cmd.Quiet := by
  refine ⟨trivial, fun _ => (clearUserActiveRtcRooms_quiet userIds).bind fun _ => ?_⟩
  exact (afterTransition_quiet room reason options transitioned).bind fun _ => trivial

/-- A transition is followed by a request for the teardown. -/
theorem afterTransaction_teardown (room : RoomRow) (userIds : List UserId)
    (reason : RoomSessionEndReason) (options : EndLiveRoomSessionOptions) (w : World) :
    ∃ w', w.Keeps w' ∧ (w'.send (.sfuRoomTeardown room.id)).Keeps
      ((afterTransaction room userIds reason options true).run (exec planner) w).2 := by
  have hquiet : (deleteSessionRoomRedis room.id >>= fun _ =>
      clearUserActiveRtcRooms userIds).Uses Cmd.Quiet :=
    ⟨trivial, fun _ => clearUserActiveRtcRooms_quiet userIds⟩
  refine ⟨_, keeps_of_quiet planner hquiet w, ?_⟩
  rw [afterTransaction]
  simp only [run_bind, run_done, pure_eq]
  exact keeps_of_quiet planner (notifyIfSpace_quiet room reason options) _

/-! ### Spec of ending and reconciling -/

def endParams (room : RoomRow) (reason : RoomSessionEndReason)
    (options : EndLiveRoomSessionOptions) (now : ℤ) : EndLiveRoomSessionParams where
  roomId := room.id
  now := now
  roomType := room.roomType
  hostUserId := room.hostUserId
  preserveScheduledSlot := shouldPreserveScheduledSlot room reason options
  scheduledStartAt := room.scheduledStartAt
  scheduledEndAt := room.scheduledEndAt
  advancedOptions := room.advancedOptions

/-- The database once the session of a room has been ended. -/
def World.sessionEnded (w : World) (room : RoomRow) (reason : RoomSessionEndReason)
    (options : EndLiveRoomSessionOptions) : World :=
  if isDbRoomSessionClosed room w.clock || room.status ≠ .live then w
  else (w.endLiveRoomSessionTx (endParams room reason options w.clock)).2

/-- The database once the end reason of a row has been acted upon. -/
def World.acted (w : World) (room : RoomRow) : Option RoomSessionEndReason → World
  | none => w
  | some .joinGraceMissed => (w.expireScheduledJoinGraceMissed room.id).2
  | some reason => w.sessionEnded room reason
      { notifyParticipants := some (room.roomType = .space) }

def World.endReason (w : World) (room : RoomRow) : Option RoomSessionEndReason :=
  evaluateRoomSessionEndReason room (presenceOf w.participants room.id) w.clock

/-- The database once the room has been reconciled. -/
def World.reconciled (w : World) (roomId : RoomId) : World :=
  match w.rooms.find roomId with
  | none => w
  | some room => w.acted room (w.endReason room)

section

variable {w : World} {roomId : RoomId} {room : RoomRow} {reason : RoomSessionEndReason}
  {options : EndLiveRoomSessionOptions}

theorem findRoom_of_find (h : w.rooms.find roomId = some room) {cond : RoomWhere}
    (hcond : cond.matches_ room) : w.findRoom roomId cond = some room := by
  rw [World.findRoom, h, Option.filter_some, if_pos hcond]

theorem findRoom_empty : w.findRoom roomId {} = w.rooms.find roomId := by
  rw [World.findRoom]
  cases h : w.rooms.find roomId with
  | none => rfl
  | some room => rfl

/-- Ending a live session: the transaction, and then only quiet commands. -/
theorem closeLiveRoomSession_keeps (userIds : List UserId) :
    (w.endLiveRoomSessionTx (endParams room reason options w.clock)).2.Keeps
      ((closeLiveRoomSession room userIds reason options).run (exec planner) w).2 :=
  keeps_of_quiet planner (afterTransaction_quiet room userIds reason options _) _

theorem closeLiveRoomSession_teardown (userIds : List UserId)
    (h : (w.endLiveRoomSessionTx (endParams room reason options w.clock)).1 = true) :
    ∃ w', (w.endLiveRoomSessionTx (endParams room reason options w.clock)).2.Keeps w' ∧
      (w'.send (.sfuRoomTeardown room.id)).Keeps
        ((closeLiveRoomSession room userIds reason options).run (exec planner) w).2 := by
  have hrun : (closeLiveRoomSession room userIds reason options).run (exec planner) w =
      (afterTransaction room userIds reason options true).run (exec planner)
        (w.endLiveRoomSessionTx (endParams room reason options w.clock)).2 := by
    rw [← h]
    rfl
  rw [hrun]
  exact afterTransaction_teardown planner room userIds reason options _

theorem endSessionOf_keeps (userIds : List UserId) :
    (w.sessionEnded room reason options).Keeps
      ((endSessionOf room userIds reason options w.clock).run (exec planner) w).2 := by
  rw [World.sessionEnded, endSessionOf]
  split
  · refine keeps_of_quiet planner ?_ _
    exact ⟨trivial, fun _ => (clearUserActiveRtcRooms_quiet userIds).bind fun _ => trivial⟩
  · exact closeLiveRoomSession_keeps planner userIds

theorem endLiveRoomSession_keeps (h : w.rooms.find roomId = some room) :
    (w.sessionEnded room reason options).Keeps
      ((endLiveRoomSession roomId reason options).run (exec planner) w).2 := by
  rw [endLiveRoomSession, findRoomById, perform_bind, run_call]
  simp only [exec, findRoom_empty, h]
  exact endSessionOf_keeps planner _

theorem reconcileDue_keeps (h : w.rooms.find room.id = some room)
    (reason : Option RoomSessionEndReason) :
    (w.acted room reason).Keeps ((reconcileDue room reason w.clock).run (exec planner) w).2 := by
  cases reason with
  | none =>
      show w.Keeps ((reconcileNotDue room w.clock).run (exec planner) w).2
      refine keeps_of_quiet planner ?_ w
      rw [reconcileNotDue]
      split
      · exact ⟨trivial, fun _ => trivial⟩
      · trivial
  | some reason =>
      cases reason with
      | joinGraceMissed =>
          show (w.expireScheduledJoinGraceMissed room.id).2.Keeps
            ((reconcileJoinGraceMissed room.id
              (w.expireScheduledJoinGraceMissed room.id).1).run (exec planner) _).2
          refine keeps_of_quiet planner ?_ _
          rw [reconcileJoinGraceMissed]
          split
          · exact ⟨trivial, fun _ => trivial⟩
          · trivial
      | _ =>
          rw [reconcileDue, run_bind]
          · exact endLiveRoomSession_keeps planner h
          · intro hreason
            cases hreason

theorem endSessionOf_closes (w : World) (userIds : List UserId) (reason : RoomSessionEndReason)
    (options : EndLiveRoomSessionOptions) (now : ℤ) : (reconcileEnded reason
      ((endSessionOf room userIds reason options now).run (exec planner) w).1).closed = true := by
  rw [endSessionOf]
  split
  · simp only [run_bind, run_done, pure_eq]
    rfl
  · simp only [closeLiveRoomSession, afterTransaction, run_bind, run_done, pure_eq, reconcileEnded]
    exact Bool.or_not_self _

/-- Ending a session always answers that it is closed. -/
theorem endLiveRoomSession_closes (w : World) (roomId : RoomId) (reason : RoomSessionEndReason)
    (options : EndLiveRoomSessionOptions) : (reconcileEnded reason
      ((endLiveRoomSession roomId reason options).run (exec planner) w).1).closed = true := by
  rw [endLiveRoomSession, findRoomById, perform_bind, run_call]
  simp only [exec, findRoom_empty]
  cases w.rooms.find roomId with
  | none => rfl
  | some room =>
      simp only [run_bind]
      exact endSessionOf_closes planner _ _ _ _ _

/-- A room that has ended or was cancelled is not due. -/
theorem endReason_of_closed (h : (room.status = .ended || room.status = .cancelled) = true) :
    w.endReason room = none := by
  have hstatus : room.status ≠ .live ∧ room.status ≠ .scheduled := by
    constructor <;> rintro heq <;> simp [heq] at h
  rw [World.endReason, evaluate_of_not_live hstatus.1, isJoinGraceMissed]
  simp [hstatus.2]

/-- **Spec of a reconciliation.** On the database it has the effect of
`reconciled`. -/
theorem reconcileRoomSessionOnAccess_keeps (w : World) (roomId : RoomId) :
    (w.reconciled roomId).Keeps
      ((reconcileRoomSessionOnAccess roomId).run (exec planner) w).2 := by
  rw [reconcileRoomSessionOnAccess, findRoomById, perform_bind, run_call, World.reconciled]
  simp only [exec, findRoom_empty]
  cases h : w.rooms.find roomId with
  | none => exact .refl w
  | some room =>
      obtain rfl : room.id = roomId := (Sql.Table.mem_of_find h).2
      dsimp only
      split
      · rename_i hclosed
        have hreason : w.endReason room = none := endReason_of_closed hclosed
        have hquiet : (deleteSessionRoomRedis room.id).Uses Cmd.Quiet := ⟨trivial, fun _ => trivial⟩
        rw [hreason]
        exact keeps_of_quiet planner hquiet w
      · exact reconcileDue_keeps planner h _

end

/-! ### The transaction -/

section Transaction

variable {w : World} {room : RoomRow} {reason : RoomSessionEndReason}
  {options : EndLiveRoomSessionOptions} {now : ℤ}

/-- The slot of the booking is kept. -/
def keepsSlot (room : RoomRow) (reason : RoomSessionEndReason)
    (options : EndLiveRoomSessionOptions) : Bool :=
  room.roomType = .space && shouldPreserveScheduledSlot room reason options

/-- What the transaction does to the row. -/
def endChange (room : RoomRow) (reason : RoomSessionEndReason)
    (options : EndLiveRoomSessionOptions) (now : ℤ) : RoomChange :=
  if keepsSlot room reason options then
    .scheduled (computeRoomExpiryFields
      ⟨⟨room.scheduledStartAt, room.scheduledEndAt, room.advancedOptions⟩, .scheduled⟩ now)
  else .ended now

theorem endChange_apply_status : ((endChange room reason options now).apply room).status =
    if keepsSlot room reason options then .scheduled else .ended := by
  rw [endChange]
  split <;> rfl

theorem endChange_apply_hostUserId :
    ((endChange room reason options now).apply room).hostUserId = room.hostUserId := by
  rw [endChange]
  split <;> rfl

theorem find_updateRoom (w : World) (r r' : RoomId) (cond : RoomWhere) (change : RoomChange) :
    (w.updateRoom r cond change).rooms.find r' = (w.rooms.find r').map fun row =>
      if row.id = r && cond.matches_ row then change.apply row else row := by
  rw [World.updateRoom, World.setRooms, Sql.Table.find_update]

theorem find_expandRoom (w : World) (r r' : RoomId) (maxParticipants : ℕ) :
    (w.expandRoom r maxParticipants).rooms.find r' = (w.rooms.find r').map fun row =>
      if row.id = r && row.roomType = .direct then
        { row with roomType := .space, sessionKind := .space, maxParticipants }
      else row := by
  rw [World.expandRoom, World.setRooms, Sql.Table.find_update]

theorem find_createConnectionCallRoom (w : World) (r : RoomId) (hostUserId : UserId)
    {r' : RoomId} {row : RoomRow} (h : w.rooms.find r' = some row) :
    (w.createConnectionCallRoom r hostUserId).rooms.find r' = some row := by
  rw [World.createConnectionCallRoom, World.insertParticipant, World.setParticipants,
    World.setRooms, Sql.Table.find_insert, h]
  split
  · rfl
  · rfl

theorem find_updateRoom_of_matches {cond : RoomWhere} {change : RoomChange}
    (h : w.rooms.find room.id = some room) (hcond : cond.matches_ room) :
    (w.updateRoom room.id cond change).rooms.find room.id = some (change.apply room) := by
  rw [find_updateRoom, h, Option.map_some, if_pos]
  simp [hcond]

/-- Everybody who is still in the room is let go, the rest is as it was. -/
theorem mem_setLeftAt {roomId : RoomId} {p : ParticipantRow → Bool} {leftAt : Option ℤ}
    {row : ParticipantRow} (h : row ∈ (w.setLeftAt roomId p leftAt).participants.rows) :
    ∃ row' ∈ w.participants.rows,
      (if row'.roomId = roomId && p row' then { row' with leftAt } else row') = row := by
  rw [World.setLeftAt, World.setParticipants, Sql.Table.mem_update] at h
  exact h

theorem leftAt_of_mem {roomId : RoomId} {row : ParticipantRow}
    (h : row ∈ (w.setLeftAt roomId (·.leftAt = none) (some now)).participants.rows)
    (hroom : row.roomId = roomId) : row.leftAt ≠ none := by
  obtain ⟨row', -, heq⟩ := mem_setLeftAt h
  split at heq
  · subst heq
    exact Option.some_ne_none now
  · rename_i hne
    subst heq
    simpa [hroom] using hne

/-- **Spec of the transaction** for a live row: a transition, the change of the
row, and nobody left but the host of a slot that is kept. -/
theorem endLiveRoomSessionTx_of_live (reason : RoomSessionEndReason)
    (options : EndLiveRoomSessionOptions) (now : ℤ) (h : w.rooms.find room.id = some room)
    (hlive : room.status = .live) :
    (w.endLiveRoomSessionTx (endParams room reason options now)).1 = true ∧
      (w.endLiveRoomSessionTx (endParams room reason options now)).2.rooms.find room.id =
        some ((endChange room reason options now).apply room) ∧
      ∀ row ∈ (w.endLiveRoomSessionTx (endParams room reason options now)).2.participants.rows,
        row.roomId = room.id → row.leftAt = none →
          keepsSlot room reason options ∧ row.userId = room.hostUserId := by
  have hkeeps : (decide ((endParams room reason options now).roomType = .space) &&
      (endParams room reason options now).preserveScheduledSlot) = keepsSlot room reason options :=
    rfl
  rw [World.endLiveRoomSessionTx, endChange, hkeeps]
  cases hslot : keepsSlot room reason options with
  | true =>
      have hspace : room.roomType = .space :=
        of_decide_eq_true (Bool.and_eq_true_iff.mp hslot).1
      have hcond : ({ roomType := some .space, status := some .live } :
          RoomWhere).matches_ room := by
        simp [RoomWhere.matches_, hspace, hlive]
      have hfound : (w.findRoom (endParams room reason options now).roomId
          { roomType := some .space, status := some .live }).isSome = true := by
        rw [show (endParams room reason options now).roomId = room.id from rfl,
          findRoom_of_find h hcond]
        rfl
      rw [if_pos rfl, if_pos rfl, if_pos hfound]
      refine ⟨rfl, find_updateRoom_of_matches h hcond, fun row hrow hroom hactive => ?_⟩
      obtain ⟨row', hrow', heq⟩ := mem_setLeftAt hrow
      split at heq
      · rename_i hhost
        subst heq
        exact ⟨rfl, of_decide_eq_true (Bool.and_eq_true_iff.mp hhost).2⟩
      · subst heq
        exact absurd hactive (leftAt_of_mem hrow' hroom)
  | false =>
      have hcond : ({ status := some .live } : RoomWhere).matches_ room := by
        simp [RoomWhere.matches_, hlive]
      have hfound : (w.findRoom (endParams room reason options now).roomId
          { status := some .live }).isSome = true := by
        rw [show (endParams room reason options now).roomId = room.id from rfl,
          findRoom_of_find h hcond]
        rfl
      rw [if_neg (by simp), if_neg (by simp)]
      refine ⟨hfound, find_updateRoom_of_matches h hcond, fun row hrow hroom hactive => ?_⟩
      exact absurd hactive (leftAt_of_mem hrow hroom)

end Transaction

/-! ### Really closed -/

/-- From `w` to `w'` the room was closed: it is not live, nobody is in it but
the host of a slot that was kept, and its teardown was requested. -/
structure ReallyClosed (w w' : World) (roomId : RoomId) : Prop where
  notLive : ∃ room, w'.rooms.find roomId = some room ∧ room.status ≠ .live
  empty : ∀ row ∈ w'.participants.rows, row.roomId = roomId → row.leftAt = none →
    ∃ room, w'.rooms.find roomId = some room ∧ room.status = .scheduled ∧
      row.userId = room.hostUserId
  tornDown : ∃ messages, w'.outgoing = w.outgoing ++ messages ∧ .sfuRoomTeardown roomId ∈ messages

section

variable {w w₁ w₂ w' : World} {room : RoomRow} {reason : RoomSessionEndReason}
  {options : EndLiveRoomSessionOptions}

theorem isDbRoomSessionClosed_of_live {now : ℤ} (h : room.status = .live) :
    isDbRoomSessionClosed room now = hasExpired room now := by
  simp [isDbRoomSessionClosed, hasExpired, h]

/-- Only a live room is due for another reason than a missed start. -/
theorem live_of_evaluate {presence : ParticipantPresence} {now : ℤ}
    (h : evaluateRoomSessionEndReason room presence now = some reason)
    (hne : reason ≠ .joinGraceMissed) : room.status = .live := by
  by_contra hlive
  rw [evaluate_of_not_live hlive] at h
  split at h
  · cases h
    exact hne rfl
  · cases h

theorem acted_of_ne (hne : reason ≠ .joinGraceMissed) : w.acted room (some reason) =
    w.sessionEnded room reason { notifyParticipants := some (room.roomType = .space) } := by
  cases reason with
  | joinGraceMissed => exact absurd rfl hne
  | _ => rfl

theorem tornDown_of_keeps (hbefore : w.outgoing <+: w₁.outgoing) (hmiddle : w₁.Keeps w₂)
    (hafter : (w₂.send (.sfuRoomTeardown room.id)).Keeps w') :
    ∃ messages, w'.outgoing = w.outgoing ++ messages ∧ .sfuRoomTeardown room.id ∈ messages := by
  obtain ⟨before, hbefore⟩ := hbefore.trans hmiddle.outgoing
  obtain ⟨after, hafter⟩ := hafter.outgoing
  refine ⟨before ++ [.sfuRoomTeardown room.id] ++ after, ?_, by simp⟩
  rw [← hafter, World.send]
  simp only [← hbefore, List.append_assoc]

/-- The transaction sends nothing. -/
theorem endLiveRoomSessionTx_outgoing (w : World) (params : EndLiveRoomSessionParams) :
    (w.endLiveRoomSessionTx params).2.outgoing = w.outgoing := by
  rw [World.endLiveRoomSessionTx]
  split
  · dsimp only
    split <;> rfl
  · rfl

/-- A live session that has not expired is really closed. -/
theorem reallyClosed_closeLiveRoomSession (h : w.rooms.find room.id = some room)
    (hlive : room.status = .live) (userIds : List UserId) :
    ReallyClosed w ((closeLiveRoomSession room userIds reason options).run (exec planner) w).2
      room.id := by
  obtain ⟨htransitioned, hfind, hleft⟩ :=
    endLiveRoomSessionTx_of_live reason options w.clock h hlive
  have hkeeps : (w.endLiveRoomSessionTx (endParams room reason options w.clock)).2.Keeps
      ((closeLiveRoomSession room userIds reason options).run (exec planner) w).2 :=
    closeLiveRoomSession_keeps planner userIds
  obtain ⟨w₂, hmiddle, hafter⟩ := closeLiveRoomSession_teardown planner userIds htransitioned
  rw [← hkeeps.rooms] at hfind
  rw [← hkeeps.participants] at hleft
  refine ⟨⟨_, hfind, ?_⟩, fun row hrow hroom hactive => ⟨_, hfind, ?_⟩, ?_⟩
  · rw [endChange_apply_status]
    split <;> simp
  · obtain ⟨hslot, hhost⟩ := hleft row hrow hroom hactive
    rw [endChange_apply_status, if_pos hslot, endChange_apply_hostUserId]
    exact ⟨rfl, hhost⟩
  · refine tornDown_of_keeps ?_ hmiddle hafter
    exact ⟨[], by rw [endLiveRoomSessionTx_outgoing, List.append_nil]⟩

/-- A due room is handed to `endSessionOf`. -/
theorem run_reconcileRoomSessionOnAccess (h : w.rooms.find room.id = some room)
    (hreason : evaluateRoomSessionEndReason room (presenceOf w.participants room.id) w.clock =
      some reason) (hne : reason ≠ .joinGraceMissed) :
    ∃ userIds, ((reconcileRoomSessionOnAccess room.id).run (exec planner) w).2 =
      ((endSessionOf room userIds reason
        { notifyParticipants := some (room.roomType = .space) }
          w.clock).run (exec planner) w).2 := by
  have hlive := live_of_evaluate hreason hne
  have hrun : ((reconcileRoomSessionOnAccess room.id).run (exec planner) w).2 =
      ((reconcileDue room (some reason) w.clock).run (exec planner) w).2 := by
    rw [reconcileRoomSessionOnAccess, findRoomById, perform_bind, run_call]
    simp only [exec, findRoom_empty, h, hlive, loadParticipantPresence]
    rw [← hreason]
    rfl
  refine ⟨((w.participants.rows.filter (·.roomId = room.id)).map (·.userId)).dedup, ?_⟩
  rw [hrun, reconcileDue, run_bind]
  · rw [endLiveRoomSession, findRoomById, perform_bind, run_call]
    simp only [exec, findRoom_empty, h]
    rfl
  · exact hne

end

/-- **Due rooms.** A room that is due for another reason than a missed start is
really closed exactly when it has not expired. -/
theorem reallyClosed_iff_not_hasExpired {w : World} {room : RoomRow}
    {reason : RoomSessionEndReason} (h : w.rooms.find room.id = some room)
    (hreason : evaluateRoomSessionEndReason room (presenceOf w.participants room.id) w.clock =
      some reason) (hne : reason ≠ .joinGraceMissed) :
    ReallyClosed w ((reconcileRoomSessionOnAccess room.id).run (exec planner) w).2 room.id ↔
      ¬ hasExpired room w.clock := by
  have hlive := live_of_evaluate hreason hne
  obtain ⟨userIds, hrun⟩ := run_reconcileRoomSessionOnAccess planner h hreason hne
  rw [hrun, endSessionOf, isDbRoomSessionClosed_of_live hlive]
  simp only [hlive, ne_eq, not_true_eq_false, decide_false, Bool.or_false]
  split
  · rename_i hexpired
    refine iff_of_false ?_ (not_not.mpr hexpired)
    intro hclosed
    have hquiet : (deleteSessionRoomRedis room.id >>= fun _ => clearUserActiveRtcRooms userIds >>=
        fun _ => (.done ⟨false, true, reason⟩ : M EndLiveRoomSessionResult)).Uses Cmd.Quiet :=
      ⟨trivial, fun _ => (clearUserActiveRtcRooms_quiet userIds).bind fun _ => trivial⟩
    -- only quiet commands are issued, so the row is still live
    obtain ⟨room', hfind, hnot⟩ := hclosed.notLive
    have hsame : (Prog.run (exec planner) _ w).2.rooms = w.rooms :=
      (keeps_of_quiet planner hquiet w).rooms
    rw [← hsame] at h
    cases h.symm.trans hfind
    exact hnot hlive
  · rename_i hexpired
    exact iff_of_true (reallyClosed_closeLiveRoomSession planner h hlive userIds) hexpired

namespace Sample

/-- The book club half an hour after its end. -/
def bookClub (room : RoomRow) : World where
  rooms := { rows := [room], unique := List.nodup_singleton _ }
  participants := atTheTable
  clock := minutes 90

theorem reallyClosed_bookClub :
    ReallyClosed (bookClub overdue)
      ((reconcileRoomSessionOnAccess overdue.id).run (exec .inOrder) (bookClub overdue)).2
      overdue.id := by
  have hreason : evaluateRoomSessionEndReason overdue
      (presenceOf (bookClub overdue).participants overdue.id) (bookClub overdue).clock =
      some .calendarEnd := by decide +kernel
  exact (reallyClosed_iff_not_hasExpired .inOrder rfl hreason (by decide)).mpr (by decide +kernel)

def expired : RoomRow := { overdue with isExpired := true }

/-- Once the row is marked as expired, the room is due and nobody is let go. -/
theorem not_reallyClosed_bookClub :
    (bookClub expired).rooms.find expired.id = some expired ∧
      evaluateRoomSessionEndReason expired (presenceOf (bookClub expired).participants expired.id)
        (bookClub expired).clock = some .expiresAtPast ∧
      ¬ ReallyClosed (bookClub expired)
        ((reconcileRoomSessionOnAccess expired.id).run (exec .inOrder) (bookClub expired)).2
        expired.id := by
  refine ⟨rfl, by decide +kernel, fun h => ?_⟩
  have hlive : ((reconcileRoomSessionOnAccess expired.id).run (exec .inOrder)
      (bookClub expired)).2.rooms.find expired.id = some expired := by
    decide +kernel
  obtain ⟨room, hfind, hnot⟩ := h.notLive
  cases hlive.symm.trans hfind
  exact hnot rfl

end Sample

end Greetup.Rooms
