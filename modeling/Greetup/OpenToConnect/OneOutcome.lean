import Greetup.OpenToConnect.Requests
import Greetup.Calls.Slot
import Greetup.Interleaving.Accounts

/-!
What becomes of one request, whoever decides on it at the same time.

Every decision is written on the condition that the request is still pending, so
that one of them wins. The room of an acceptance is set up before that, and
nothing takes it down again when the acceptance does not win.
-/

namespace Greetup.OpenToConnect

open Interleaving
open Interleaving.Prog
open Rooms (UserId RoomId RoomStatus ParticipantRow)

variable (planner : Rooms.Planner)

/-! ### What concerns a request -/

/-- Nothing of this changes a room but for its expiry, the hash of a room, or who
is in it, and no id is drawn. -/
def roomsPlain : Rooms.Cmd → Bool
  | .updateRoom _ _ (.expiry _) => true
  | .updateRoom _ _ _ | .expireScheduledJoinGraceMissed _ | .endLiveRoomSessionTx _
  | .addOrReactivateHostRow _ _ | .addOrReactivateParticipantRow _ _ | .markParticipantLeft _ _
  | .leaveAndMaybeEndRoomTx _ _ _ _ | .runExpandDirectAcceptTransaction _
  | .createConnectionCallRoom _ _ | .delSessionRoom _ | .hsetSessionRoom _ _
  | .expiredSessionRoom _ | .randomUUID => false
  | _ => true

/-- Nor does any of this change a request. -/
def OtcCmd.plain : OtcCmd → Bool
  | .rooms c => roomsPlain c
  | .respond _ _ _ | .createPending _ _ _ _ | .createMatchPairRoom _ _ _
  | .hsetMatchRoom _ _ _ _ => false
  | _ => true

namespace OtcWorld

variable (w : OtcWorld) (roomId : RoomId)

def roomStatus : Option RoomStatus := (w.rooms.rooms.find roomId).map (·.status)

def participantRow (userId : UserId) : Option ParticipantRow :=
  w.rooms.participants.find (roomId, userId)

/-- A live room that was set up for the request. -/
def LiveFor (requestId : ConnectRequestId) : Prop :=
  w.roomStatus roomId = some .live ∧ w.attemptId roomId = some requestId

/-- There is as much of the room as there was before. -/
structure AsBefore (w₀ w : OtcWorld) (roomId : RoomId) : Prop where
  room : w.roomStatus roomId = w₀.roomStatus roomId
  participants : w.participantRow roomId = w₀.participantRow roomId
  hash : w.rooms.sessionRooms roomId = w₀.rooms.sessionRooms roomId

/-- What a request and its room consist of is the same. -/
structure Like (w v : OtcWorld) : Prop where
  requests : v.requests = w.requests
  roomStatus : v.roomStatus = w.roomStatus
  participants : v.rooms.participants = w.rooms.participants
  sessionRooms : v.rooms.sessionRooms = w.rooms.sessionRooms
  attemptId : v.attemptId = w.attemptId
  uuids : v.rooms.uuids = w.rooms.uuids
  uuidsDrawn : v.rooms.uuidsDrawn = w.rooms.uuidsDrawn

end OtcWorld

/-! ### The calls -/

/-- What happens while a request is open. -/
inductive RequestTask
  | respond (targetUserId : UserId) (accept : Bool)
  | cancel (requesterUserId : UserId)
  | elsewhere (c : OtcCmd) (h : c.plain = true)

def RequestTask.program (requestId : ConnectRequestId) :
    RequestTask → OtcM (Option (Except RequestError (Option RoomId)))
  | .respond targetUserId accept =>
      some <$> respondConnectRequestService targetUserId requestId accept
  | .cancel requesterUserId => some <$> cancelConnectRequestService requesterUserId requestId
  | .elsewhere c _ => (fun _ => none) <$> issueOtc c

/-- What a call makes of the request if it wins. -/
def RequestTask.outcome : RequestTask → Option RequestOutcome
  | .respond _ true => some .accepted
  | .respond _ false => some .rejected
  | .cancel _ => some .cancelled
  | .elsewhere _ _ => none

abbrev RequestConf (ι : Type) : Type :=
  Conf ι OtcCmd OtcCmd.Reply (Option (Except RequestError (Option RoomId))) OtcWorld

abbrev OtcScene (ι : Type) : Type := Scene ι OtcCmd OtcCmd.Reply OtcWorld

abbrev OtcTold : Type := Told OtcCmd OtcCmd.Reply

def decisions {ι : Type} (requestId : ConnectRequestId) (tasks : ι → RequestTask)
    (w₀ : OtcWorld) : RequestConf ι where
  threads i := (tasks i).program requestId
  scene := ⟨w₀, []⟩

/-- A pending request without a room, and ids that nobody has drawn. -/
structure Awaits (w₀ : OtcWorld) (request : ConnectRequest) : Prop where
  stored : w₀.requests.find request.id = some request
  pending : request.status = .pending
  noRoom : ∀ roomId, w₀.attemptId roomId ≠ some request.id
  injective : Function.Injective w₀.rooms.uuids
  unused : ∀ n, w₀.rooms.uuidsDrawn ≤ n → w₀.roomStatus (w₀.rooms.uuids n) = none

/-- When an acceptance is written, the request is still pending. -/
def StillPending (requestId : ConnectRequestId) {ι : Type} (_ : ι) (c : OtcCmd)
    (s : OtcScene ι) : Prop :=
  ∀ roomId, c = .respond requestId .accepted roomId →
    (s.world.requests.find requestId).any (·.status = .pending) = true

def OtcCmd.accepts (requestId : ConnectRequestId) : OtcCmd → Bool
  | .respond id .accepted _ => id = requestId
  | _ => false

instance {ι : Type} (requestId : ConnectRequestId) (i : ι) (c : OtcCmd) (s : OtcScene ι) :
    Decidable (StillPending requestId i c s) :=
  decidable_of_iff (c.accepts requestId = true →
    (s.world.requests.find requestId).any (·.status = .pending) = true) (by
      constructor
      · rintro h roomId rfl
        exact h (decide_eq_true rfl)
      · intro h haccepts
        cases c with
        | respond id outcome roomId =>
            cases outcome with
            | accepted => exact h roomId (by rw [of_decide_eq_true haccepts])
            | _ => cases haccepts
        | _ => cases haccepts)

/-- One outcome, and a room only for an acceptance. -/
structure OneOutcome {ι : Type} (request : ConnectRequest) (tasks : ι → RequestTask)
    (w₀ : OtcWorld) (conf : RequestConf ι) : Prop where
  /-- one call at most does not throw -/
  once : ∀ i j r r', conf.threads i = .done (some (.ok r)) →
    conf.threads j = .done (some (.ok r')) → i = j
  /-- what it has decided is what is stored -/
  stored : ∀ i r, conf.threads i = .done (some (.ok r)) → ∃ outcome now,
    (tasks i).outcome = some outcome ∧
      conf.scene.world.requests.find request.id = some (request.answered outcome r now)
  /-- without one the request is pending, or has expired -/
  unanswered : (∀ i r, conf.threads i ≠ .done (some (.ok r))) →
    conf.scene.world.requests.find request.id = some request ∨ ∃ now,
      conf.scene.world.requests.find request.id = some (request.answered .expired none now)
  /-- who is told that the request is decided is told so because it is -/
  decided : ∀ i error, conf.threads i = .done (some (.error error)) →
    error = .noLongerPending ∨ error = .requestExpired →
      ∃ row, conf.scene.world.requests.find request.id = some row ∧ row.status ≠ .pending
  /-- a room only for an acceptance, and no other than the one that is stored -/
  room : ∀ roomId, conf.scene.world.LiveFor roomId request.id →
    ∃ row, conf.scene.world.requests.find request.id = some row ∧ row.status = .accepted ∧
      row.roomId = some roomId
  live : ∀ row, conf.scene.world.requests.find request.id = some row → row.status = .accepted →
    ∃ roomId, row.roomId = some roomId ∧ conf.scene.world.LiveFor roomId request.id
  /-- of any other room nothing is left -/
  behind : ∀ roomId, (∀ row, conf.scene.world.requests.find request.id = some row →
    row.roomId ≠ some roomId) → w₀.AsBefore conf.scene.world roomId

/-! ### What a command changes -/

section Effects

variable {planner} {w : OtcWorld} {c : OtcCmd} {roomId roomId' : RoomId}

/-- An expiry leaves the status of every room as it is. -/
theorem roomStatus_updateRoom_expiry (w : OtcWorld) (cond : Rooms.RoomWhere)
    (fields : Rooms.RoomExpiryFields) :
    { w with rooms := w.rooms.updateRoom roomId cond (.expiry fields) }.roomStatus =
      w.roomStatus := by
  funext roomId'
  rw [OtcWorld.roomStatus, OtcWorld.roomStatus, Rooms.World.updateRoom, Rooms.World.setRooms,
    Sql.Table.find_update, Option.map_map]
  congr 1
  funext room
  show Rooms.RoomRow.status (if _ then _ else room) = room.status
  split <;> rfl

theorem like_setUserActiveRtcRoom (userId : UserId) :
    w.Like { w with rooms := w.rooms.setUserActiveRtcRoom userId roomId } := by
  rw [Rooms.World.setUserActiveRtcRoom, Rooms.World.pauseOpenToConnectForRoom]
  split
  · exact ⟨rfl, rfl, rfl, rfl, rfl, rfl, rfl⟩
  · split <;> exact ⟨rfl, rfl, rfl, rfl, rfl, rfl, rfl⟩

theorem like_clearUserActiveRtcRoom (userId : UserId) :
    w.Like { w with rooms := w.rooms.clearUserActiveRtcRoom userId } := by
  rw [Rooms.World.clearUserActiveRtcRoom, Rooms.World.restoreOpenToConnectAfterRoom]
  split
  · exact ⟨rfl, rfl, rfl, rfl, rfl, rfl, rfl⟩
  · split <;> exact ⟨rfl, rfl, rfl, rfl, rfl, rfl, rfl⟩

theorem like_getUserActiveRtcRoomVerified (userId : UserId) :
    w.Like { w with rooms := (w.rooms.getUserActiveRtcRoomVerified userId).2 } := by
  rw [Rooms.World.getUserActiveRtcRoomVerified]
  split
  · exact ⟨rfl, rfl, rfl, rfl, rfl, rfl, rfl⟩
  · split
    · exact ⟨rfl, rfl, rfl, rfl, rfl, rfl, rfl⟩
    · split <;> exact ⟨rfl, rfl, rfl, rfl, rfl, rfl, rfl⟩

theorem like_of_roomsPlain {c : Rooms.Cmd} (hc : roomsPlain c = true) :
    w.Like { w with rooms := (Rooms.exec planner c w.rooms).2 } := by
  cases c with
  | updateRoom roomId cond change =>
      cases change with
      | expiry fields =>
          exact ⟨rfl, roomStatus_updateRoom_expiry w cond fields, rfl, rfl, rfl, rfl, rfl⟩
      | _ => cases hc
  | setUserActiveRtcRoom userId roomId => exact like_setUserActiveRtcRoom userId
  | clearUserActiveRtcRoom userId => exact like_clearUserActiveRtcRoom userId
  | getUserActiveRtcRoomVerified userId => exact like_getUserActiveRtcRoomVerified userId
  | expireScheduledJoinGraceMissed | endLiveRoomSessionTx | addOrReactivateHostRow
  | addOrReactivateParticipantRow | markParticipantLeft | leaveAndMaybeEndRoomTx
  | runExpandDirectAcceptTransaction | createConnectionCallRoom | delSessionRoom
  | hsetSessionRoom | expiredSessionRoom | randomUUID => cases hc
  | _ => exact ⟨rfl, rfl, rfl, rfl, rfl, rfl, rfl⟩

theorem like_of_plain (planner : Rooms.Planner) (w : OtcWorld) (hc : c.plain = true) :
    w.Like (execOtc planner c w).2 := by
  cases c with
  | rooms c => exact like_of_roomsPlain hc
  | respond | createPending | createMatchPairRoom | hsetMatchRoom => cases hc
  | _ => exact ⟨rfl, rfl, rfl, rfl, rfl, rfl, rfl⟩

/-- A room under an id that no room has is live. -/
theorem roomStatus_createMatchPairRoom (hostUserId peerUserId : UserId) :
    (execOtc planner (.createMatchPairRoom roomId hostUserId peerUserId) w).2.roomStatus roomId' =
      if roomId = roomId' then some ((w.roomStatus roomId').getD .live)
      else w.roomStatus roomId' := by
  show Option.map _ ((w.rooms.rooms.insert _ id _).find roomId') = _
  rw [Sql.Table.find_insert, OtcWorld.roomStatus]
  show Option.map _ (if roomId = roomId' then _ else _) = _
  split
  · cases w.rooms.rooms.find roomId' <;> rfl
  · rfl

theorem participantRow_createMatchPairRoom (hostUserId peerUserId : UserId)
    (h : roomId ≠ roomId') :
    (execOtc planner (.createMatchPairRoom roomId hostUserId peerUserId) w).2.participantRow
      roomId' = w.participantRow roomId' := by
  funext userId
  show (Sql.Table.insert (Sql.Table.insert w.rooms.participants _ id _) _ id _).find _ = _
  rw [Sql.Table.find_insert, Sql.Table.find_insert, if_neg, if_neg, OtcWorld.participantRow]
  · exact fun heq => h (congrArg Prod.fst heq)
  · exact fun heq => h (congrArg Prod.fst heq)

theorem find_respond_after (planner : Rooms.Planner) (w : OtcWorld)
    (requestId : ConnectRequestId) (outcome : RequestOutcome) (roomId : Option RoomId) :
    (execOtc planner (.respond requestId outcome roomId) w).2.requests.find requestId =
      (w.requests.find requestId).map
        (RequestTable.answer requestId outcome roomId w.rooms.clock) :=
  RequestTable.find_respond requestId

theorem reply_respond (planner : Rooms.Planner) (w : OtcWorld)
    (requestId : ConnectRequestId) (outcome : RequestOutcome) (roomId : Option RoomId) :
    (execOtc planner (.respond requestId outcome roomId) w).1 =
      (w.requests.find requestId).any (·.status = .pending) := rfl

end Effects

/-! ### The order of a call -/

section Order

/-- What a caller has done that is not plain, newest first. -/
def acts (h : List OtcTold) : List OtcTold := h.filter fun e => !e.1.plain

/-- What a call does, newest first: it decides at once, or it sets up a room,
with its hash, and then decides. -/
inductive Path (requestId : ConnectRequestId) (task : RequestTask) : List OtcTold → Prop
  | start : Path requestId task []
  | drawn (roomId : RoomId) : Path requestId task [⟨.rooms .randomUUID, roomId⟩]
  | made (roomId : RoomId) (hostUserId peerUserId : UserId) : Path requestId task
      [⟨.createMatchPairRoom roomId hostUserId peerUserId, ()⟩, ⟨.rooms .randomUUID, roomId⟩]
  | hashed (roomId : RoomId) (hostUserId peerUserId userA userB : UserId) : Path requestId task
      [⟨.hsetMatchRoom roomId requestId userA userB, ()⟩,
        ⟨.createMatchPairRoom roomId hostUserId peerUserId, ()⟩, ⟨.rooms .randomUUID, roomId⟩]
  | accepted (roomId : RoomId) (hostUserId peerUserId userA userB : UserId) (updated : Bool)
      (h : task.outcome = some .accepted) : Path requestId task
      [⟨.respond requestId .accepted (some roomId), updated⟩,
        ⟨.hsetMatchRoom roomId requestId userA userB, ()⟩,
        ⟨.createMatchPairRoom roomId hostUserId peerUserId, ()⟩, ⟨.rooms .randomUUID, roomId⟩]
  | answered (outcome : RequestOutcome) (updated : Bool) (hne : outcome ≠ .accepted)
      (h : task.outcome = some outcome ∨ outcome = .expired) :
      Path requestId task [⟨.respond requestId outcome none, updated⟩]

/-- What is not plain is done in its turn. -/
def InTurn (requestId : ConnectRequestId) (task : RequestTask) (h : List OtcTold)
    (c : OtcCmd) : Prop :=
  c.plain = true ∨ ∀ reply, Path requestId task (⟨c, reply⟩ :: acts h)

/-- The caller has drawn the id. -/
def DrewRoom (h : List OtcTold) (roomId : RoomId) : Prop :=
  (⟨.rooms .randomUUID, roomId⟩ : OtcTold) ∈ h

/-- The caller has written a decision, and it was taken or not. -/
def Wrote (h : List OtcTold) (requestId : ConnectRequestId) (outcome : RequestOutcome)
    (roomId : Option RoomId) (updated : Bool) : Prop :=
  (⟨.respond requestId outcome roomId, updated⟩ : OtcTold) ∈ h

/-- The caller has seen that the request is decided, or has seen to it. -/
def SawDecided (requestId : ConnectRequestId) (h : List OtcTold) : Prop :=
  (∃ row, (⟨.findById requestId, some row⟩ : OtcTold) ∈ h ∧ row.status ≠ .pending) ∨
    ∃ outcome roomId updated, Wrote h requestId outcome roomId updated

/-- How a call ends. -/
def Ended (requestId : ConnectRequestId) (task : RequestTask) (h : List OtcTold) :
    Option (Except RequestError (Option RoomId)) → Prop
  | none => acts h = []
  | some (.ok roomId) => ∃ outcome, task.outcome = some outcome ∧
      Wrote h requestId outcome roomId true
  | some (.error error) =>
      (∀ outcome roomId, Wrote h requestId outcome roomId true → outcome = .expired) ∧
      (∀ roomId, DrewRoom h roomId → Wrote h requestId .accepted (some roomId) false) ∧
      (error = .noLongerPending ∨ error = .requestExpired → SawDecided requestId h)

variable {planner} {requestId : ConnectRequestId} {task : RequestTask} {h h' : List OtcTold}
  {e : OtcTold} {c : OtcCmd} {α : Type}

theorem mem_acts : e ∈ acts h ↔ e ∈ h ∧ e.1.plain = false := by
  rw [acts, List.mem_filter, Bool.not_eq_true']

theorem acts_cons_of_plain (hplain : e.1.plain = true) : acts (e :: h) = acts h :=
  List.filter_cons_of_neg (by simp [hplain])

theorem acts_cons (hplain : e.1.plain = false) : acts (e :: h) = e :: acts h :=
  List.filter_cons_of_pos (by simp [hplain])

theorem drewRoom_iff {roomId : RoomId} :
    DrewRoom h roomId ↔ (⟨.rooms .randomUUID, roomId⟩ : OtcTold) ∈ acts h := by
  rw [mem_acts]
  exact (and_iff_left rfl).symm

theorem wrote_iff {outcome : RequestOutcome} {roomId : Option RoomId} {updated : Bool} :
    Wrote h requestId outcome roomId updated ↔
      (⟨.respond requestId outcome roomId, updated⟩ : OtcTold) ∈ acts h := by
  rw [mem_acts]
  exact (and_iff_left rfl).symm

/-- Only reading leaves what was done as it is. -/
theorem licensed_plain {p : OtcM α} (hp : p.Uses fun c => c.plain = true) :
    p.Licensed (execOtc planner) (InTurn requestId task)
      (fun h' _ => acts h' = acts h ∧ h ⊆ h') h := by
  have huses : p.Licensed (execOtc planner) (InTurn requestId task) (fun _ _ => True) h :=
    hp.licensed fun _ _ hc => .inl hc
  refine (huses.uses hp).mono ?_
  rintro h' a ⟨⟨l, rfl, hl⟩, -⟩
  refine ⟨?_, List.subset_append_right l h⟩
  rw [acts, List.filter_append, List.filter_eq_nil_iff.mpr, List.nil_append, acts]
  intro e he
  simp [hl e he]

/-! ### The calls, one by one -/

theorem ended_of_nothing (task : RequestTask) {error : RequestError} (hacts : acts h = [])
    (hsaw : error = .noLongerPending ∨ error = .requestExpired → SawDecided requestId h) :
    Ended requestId task h (some (.error error)) := by
  refine ⟨fun outcome roomId hwrote => ?_, fun roomId hdrew => ?_, hsaw⟩
  · rw [wrote_iff, hacts] at hwrote
    cases hwrote
  · rw [drewRoom_iff, hacts] at hdrew
    cases hdrew

theorem ended_of_notFound (task : RequestTask) (hacts : acts h = []) :
    Ended requestId task h (some (.error .requestNotFound)) := by
  refine ended_of_nothing task hacts ?_
  rintro (heq | heq) <;> cases heq

theorem ended_of_inCall (task : RequestTask) {error : RequestError} {label : String}
    (hacts : acts h = [])
    (herror : error = .inCall label) : Ended requestId task h (some (.error error)) := by
  refine ended_of_nothing task hacts ?_
  rw [herror]
  rintro (heq | heq) <;> cases heq

/-- A decision without a room is the only thing the call does. -/
theorem ended_of_answered (task : RequestTask) {outcome : RequestOutcome} {error : RequestError}
    {updated : Bool}
    (hacts : acts h = [⟨.respond requestId outcome none, updated⟩])
    (hupdated : updated = true → outcome = .expired) :
    Ended requestId task h (some (.error error)) := by
  refine ⟨fun outcome' roomId hwrote => ?_, fun roomId hdrew => ?_, fun _ => .inr
    ⟨outcome, none, updated, ?_⟩⟩
  · rw [wrote_iff, hacts, List.mem_singleton] at hwrote
    cases hwrote
    exact hupdated rfl
  · rw [drewRoom_iff, hacts, List.mem_singleton] at hdrew
    cases hdrew
  · rw [wrote_iff, hacts]
    exact List.mem_singleton_self _

theorem ended_of_wrote {outcome : RequestOutcome} {roomId : Option RoomId}
    (h : task.outcome = some outcome) (hwrote : Wrote h' requestId outcome roomId true) :
    Ended requestId task h' (some (.ok roomId)) := ⟨outcome, h, hwrote⟩

theorem licensed_issue (c : OtcCmd) (hc : c.plain = true) :
    (issueOtc c).Licensed (execOtc planner) (InTurn requestId task)
      (fun h' reply => acts h' = acts h ∧ (⟨c, reply⟩ : OtcTold) ∈ h') h :=
  ⟨.inl hc, fun _ => ⟨acts_cons_of_plain hc, List.mem_cons_self⟩⟩

/-- Nothing is done, and an error is that of a call the user is in. -/
theorem licensed_assertUserNotBusy (userId : UserId) (label : String) :
    (assertUserNotBusy userId label).Licensed (execOtc planner) (InTurn requestId task)
      (fun h' busy => acts h' = acts h ∧ ∀ error, busy = .error error → error = .inCall label)
      h := by
  refine (licensed_issue (.getUserMatchState userId) rfl).bind ?_
  rintro h matchState ⟨hmatch, -⟩
  refine (licensed_issue (.rooms (.getUserActiveRtcRoom userId)) rfl).bind ?_
  rintro h activeRoomId ⟨hactive, -⟩
  rw [← hmatch, ← hactive]
  cases matchState <;> cases activeRoomId <;>
    first
      | exact ⟨rfl, fun error heq => (Except.error.inj heq).symm⟩
      | exact ⟨rfl, fun error heq => by cases heq⟩

theorem uses_syncGuestMatchRoomSessionCap (roomId : RoomId) :
    (Rooms.syncGuestMatchRoomSessionCap roomId).Uses fun c => roomsPlain c = true := by
  have hcap (roomId : RoomId) (capExpiresAt : ℤ) :
      (Rooms.applyExpiresAtCapIfSooner roomId capExpiresAt).Uses fun c => roomsPlain c = true := by
    refine ⟨rfl, fun row => ?_⟩
    cases row with
    | none => trivial
    | some row =>
        show (Rooms.capRow roomId capExpiresAt (some row)).Uses _
        rw [Rooms.capRow]
        split
        · trivial
        · exact ⟨rfl, fun _ => trivial⟩
  refine ⟨rfl, fun room => ?_⟩
  cases room with
  | none => trivial
  | some room =>
      show (Rooms.capIfStarted (some room)).Uses _
      rw [Rooms.capIfStarted]
      cases room.startedAt with
      | none => trivial
      | some startedAt =>
          show (Rooms.capMatch room startedAt).Uses _
          rw [Rooms.capMatch]
          split
          · trivial
          · refine ⟨rfl, fun userIds => ⟨rfl, fun guest => ?_⟩⟩
            show (Rooms.capIfGuest room.id startedAt guest).Uses _
            rw [Rooms.capIfGuest]
            split
            · exact hcap _ _
            · trivial

theorem uses_lift {p : Rooms.M α} (hp : p.Uses fun c => roomsPlain c = true) :
    (lift p).Uses fun c => c.plain = true :=
  hp.expand fun _ hc => ⟨hc, fun _ => trivial⟩

/-- How a service ends. -/
abbrev Ends (requestId : ConnectRequestId) (task : RequestTask) (h : List OtcTold)
    (result : Except RequestError (Option RoomId)) : Prop :=
  Ended requestId task h (some result)

variable {row : ConnectRequest}

/-- A decision without a room, and what is told of it. -/
theorem licensed_respond {outcome : RequestOutcome} (hacts : acts h = [])
    (hne : outcome ≠ .accepted) (houtcome : task.outcome = some outcome)
    (userId : UserId) (event : RequestEvent) :
    (do if ← issueOtc (.respond requestId outcome none) then
          issueOtc (.emit userId event)
          return .ok none
        else return .error .noLongerPending : OtcM (Except RequestError (Option RoomId))).Licensed
      (execOtc planner) (InTurn requestId task) (Ends requestId task) h := by
  refine ⟨.inr fun updated => hacts ▸ .answered outcome updated hne (.inl houtcome), fun w => ?_⟩
  generalize (execOtc planner (.respond requestId outcome none) w).1 = updated
  cases updated with
  | false =>
      refine ended_of_answered task ((acts_cons rfl).trans (by rw [hacts])) fun hfalse => ?_
      cases hfalse
  | true =>
      refine ⟨.inl rfl, fun w => ended_of_wrote houtcome ?_⟩
      exact List.mem_cons_of_mem _ List.mem_cons_self

theorem licensed_rejectRequest (hacts : acts h = []) (houtcome : task.outcome = some .rejected) :
    (rejectRequest row requestId).Licensed (execOtc planner) (InTurn requestId task)
      (Ends requestId task) h :=
  licensed_respond hacts (by decide) houtcome _ _

theorem licensed_cancelPending (hacts : acts h = []) (houtcome : task.outcome = some .cancelled) :
    (cancelPending row requestId).Licensed (execOtc planner) (InTurn requestId task)
      (Ends requestId task) h :=
  licensed_respond hacts (by decide) houtcome _ _

/-- The room of the id that was drawn is set up, with its hash, or nothing is. -/
def Provisioned (requestId : ConnectRequestId) (h : List OtcTold) :
    Except RequestError RoomId → Prop
  | .error error => acts h = [] ∧ error = .matchCategoryNotConfigured
  | .ok roomId => ∃ hostUserId peerUserId userA userB, acts h =
      [⟨.hsetMatchRoom roomId requestId userA userB, ()⟩,
        ⟨.createMatchPairRoom roomId hostUserId peerUserId, ()⟩, ⟨.rooms .randomUUID, roomId⟩]

theorem licensed_provision (hacts : acts h = []) (requesterUserId targetUserId : UserId) :
    (provisionOpenToConnectRoom requesterUserId targetUserId requestId).Licensed
      (execOtc planner) (InTurn requestId task) (Provisioned requestId) h := by
  refine (licensed_issue .hasMatchCategory rfl).bind ?_
  rintro h configured ⟨hread, -⟩
  replace hacts := hread.trans hacts
  cases configured with
  | false => exact ⟨hacts, rfl⟩
  | true =>
      refine ⟨.inr fun roomId => hacts ▸ .drawn roomId, fun w => ?_⟩
      generalize (execOtc planner (.rooms .randomUUID) w).1 = roomId
      have hdrawn : acts (⟨.rooms .randomUUID, roomId⟩ :: h) = [⟨.rooms .randomUUID, roomId⟩] :=
        (acts_cons rfl).trans (by rw [hacts])
      refine ⟨.inr fun _ => hdrawn ▸ .made roomId _ _, fun w => ?_⟩
      refine (licensed_plain (uses_lift (uses_syncGuestMatchRoomSessionCap roomId))).bind ?_
      rintro h' - ⟨hsync, -⟩
      have hmade := hsync.trans ((acts_cons rfl).trans (congrArg _ hdrawn))
      refine ⟨.inr fun _ => hmade ▸ .hashed roomId _ _ _ _, fun w => ⟨.inl rfl, fun w => ?_⟩⟩
      exact ⟨_, _, _, _, (acts_cons_of_plain rfl).trans ((acts_cons rfl).trans (congrArg _ hmade))⟩

theorem licensed_acceptIn {roomId : RoomId} (hprovisioned : Provisioned requestId h (.ok roomId))
    (houtcome : task.outcome = some .accepted) :
    (acceptIn row requestId roomId).Licensed (execOtc planner) (InTurn requestId task)
      (Ends requestId task) h := by
  obtain ⟨hostUserId, peerUserId, userA, userB, hacts⟩ := hprovisioned
  refine ⟨.inr fun updated => hacts ▸ .accepted roomId _ _ _ _ updated houtcome, fun w => ?_⟩
  generalize (execOtc planner (.respond requestId .accepted (some roomId)) w).1 = updated
  cases updated with
  | true =>
      refine ⟨.inl rfl, fun w => ⟨.inl rfl, fun w => ended_of_wrote houtcome ?_⟩⟩
      exact List.mem_cons_of_mem _ (List.mem_cons_of_mem _ List.mem_cons_self)
  | false =>
      have hlost : acts (⟨.respond requestId .accepted (some roomId), false⟩ :: h) = _ :=
        (acts_cons rfl).trans (congrArg _ hacts)
      refine ⟨fun outcome roomId' hwrote => ?_, fun roomId' hdrew => ?_, fun _ => .inr
        ⟨.accepted, some roomId, false, List.mem_cons_self⟩⟩
      · rw [wrote_iff, hlost] at hwrote
        simp at hwrote
      · rw [drewRoom_iff, hlost] at hdrew
        simp at hdrew
        subst hdrew
        exact List.mem_cons_self

theorem licensed_acceptRequest (hacts : acts h = []) (houtcome : task.outcome = some .accepted) :
    (acceptRequest row requestId).Licensed (execOtc planner) (InTurn requestId task)
      (Ends requestId task) h := by
  refine (licensed_provision hacts _ _).bind fun h' provisioned hprovisioned => ?_
  cases provisioned with
  | error error =>
      refine ended_of_nothing task hprovisioned.1 ?_
      rw [hprovisioned.2]
      rintro (heq | heq) <;> cases heq
  | ok roomId => exact licensed_acceptIn hprovisioned houtcome

theorem licensed_decideRequest {accept : Bool} (hacts : acts h = []) (userId : UserId) :
    (decideRequest row requestId accept).Licensed (execOtc planner)
      (InTurn requestId (.respond userId accept)) (Ends requestId (.respond userId accept)) h := by
  refine (licensed_assertUserNotBusy row.targetUserId "You").bind ?_
  rintro h you ⟨hread, hyou⟩
  replace hacts := hread.trans hacts
  cases you with
  | error error => exact ended_of_inCall (.respond userId accept) hacts (hyou error rfl)
  | ok you =>
      refine (licensed_assertUserNotBusy row.requesterUserId "They").bind ?_
      rintro h they ⟨hread, hthey⟩
      replace hacts := hread.trans hacts
      cases they with
      | error error => exact ended_of_inCall (.respond userId accept) hacts (hthey error rfl)
      | ok they =>
          cases accept with
          | true => exact licensed_acceptRequest hacts rfl
          | false => exact licensed_rejectRequest hacts rfl

theorem licensed_respondUnlessExpired {accept : Bool} (hacts : acts h = []) (userId : UserId) :
    (respondUnlessExpired row requestId accept).Licensed (execOtc planner)
      (InTurn requestId (.respond userId accept)) (Ends requestId (.respond userId accept)) h := by
  refine (licensed_issue (.rooms .now) rfl).bind ?_
  rintro h now ⟨hread, -⟩
  replace hacts := hread.trans hacts
  split
  · -- the request is past its time
    refine ⟨.inr fun updated => hacts ▸ .answered .expired updated (by decide) (.inr rfl),
      fun w => ?_⟩
    exact ended_of_answered (.respond userId accept)
      ((acts_cons rfl).trans (congrArg _ hacts)) fun _ => rfl
  · exact licensed_decideRequest hacts userId

theorem licensed_respondConnectRequestService (hacts : acts h = []) (userId : UserId)
    (accept : Bool) :
    (respondConnectRequestService userId requestId accept).Licensed (execOtc planner)
      (InTurn requestId (.respond userId accept)) (Ends requestId (.respond userId accept)) h := by
  refine (licensed_issue (.findById requestId) rfl).bind ?_
  rintro h found ⟨hread, hfound⟩
  replace hacts := hread.trans hacts
  cases found with
  | none => exact ended_of_notFound (.respond userId accept) hacts
  | some row =>
      dsimp only
      split
      · exact ended_of_notFound (.respond userId accept) hacts
      · split
        next hstatus =>
          exact ended_of_nothing (.respond userId accept) hacts fun _ =>
            .inl ⟨row, hfound, hstatus⟩
        next => exact licensed_respondUnlessExpired hacts userId

theorem licensed_cancelConnectRequestService (hacts : acts h = []) (userId : UserId) :
    (cancelConnectRequestService userId requestId).Licensed (execOtc planner)
      (InTurn requestId (.cancel userId)) (Ends requestId (.cancel userId)) h := by
  refine (licensed_issue (.findById requestId) rfl).bind ?_
  rintro h found ⟨hread, hfound⟩
  replace hacts := hread.trans hacts
  cases found with
  | none => exact ended_of_notFound (.cancel userId) hacts
  | some row =>
      dsimp only
      split
      · exact ended_of_notFound (.cancel userId) hacts
      · split
        next hstatus =>
          exact ended_of_nothing (.cancel userId) hacts fun _ => .inl ⟨row, hfound, hstatus⟩
        next => exact licensed_cancelPending hacts rfl

theorem licensed_requestTask (task : RequestTask) :
    (task.program requestId).Licensed (execOtc planner) (InTurn requestId task)
      (Ended requestId task) [] := by
  cases task with
  | respond targetUserId accept =>
      exact Licensed.map (f := some)
        (licensed_respondConnectRequestService (h := []) rfl targetUserId accept)
  | cancel requesterUserId =>
      exact Licensed.map (f := some)
        (licensed_cancelConnectRequestService (h := []) rfl requesterUserId)
  | elsewhere c hc => exact ⟨.inl hc, fun _ => acts_cons_of_plain hc⟩

/-- What a call does in its turn, and what it has done by then. -/
theorem InTurn.cases (hturn : InTurn requestId task h c) (reply : c.Reply) :
    c.plain = true ∨ c = .rooms .randomUUID ∧ acts h = [] ∨
    (∃ roomId hostUserId peerUserId, c = .createMatchPairRoom roomId hostUserId peerUserId ∧
      acts h = [⟨.rooms .randomUUID, roomId⟩]) ∨
    (∃ roomId hostUserId peerUserId userA userB, c = .hsetMatchRoom roomId requestId userA userB ∧
      acts h = [⟨.createMatchPairRoom roomId hostUserId peerUserId, ()⟩,
        ⟨.rooms .randomUUID, roomId⟩]) ∨
    ∃ outcome roomId, c = .respond requestId outcome roomId ∧
      ∀ outcome' roomId' updated, ¬ Wrote h requestId outcome' roomId' updated := by
  rcases hturn with hplain | hpath
  · exact .inl hplain
  · have hpath := hpath reply
    generalize hacts : acts h = l at hpath
    cases hpath with
    | drawn roomId => exact .inr (.inl ⟨rfl, rfl⟩)
    | made roomId hostUserId peerUserId =>
        exact .inr (.inr (.inl ⟨roomId, hostUserId, peerUserId, rfl, rfl⟩))
    | hashed roomId hostUserId peerUserId userA userB =>
        exact .inr (.inr (.inr (.inl
          ⟨roomId, hostUserId, peerUserId, userA, userB, rfl, rfl⟩)))
    | accepted roomId hostUserId peerUserId userA userB updated houtcome =>
        refine .inr (.inr (.inr (.inr ⟨.accepted, some roomId, rfl, ?_⟩)))
        intro outcome' roomId' updated' hwrote
        rw [wrote_iff, hacts] at hwrote
        simp at hwrote
    | answered outcome updated hne houtcome =>
        refine .inr (.inr (.inr (.inr ⟨outcome, none, rfl, ?_⟩)))
        intro outcome' roomId' updated' hwrote
        rw [wrote_iff, hacts] at hwrote
        cases hwrote

end Order

/-! ### Every call -/

section Runs

variable {ι : Type} [DecidableEq ι] {planner} {request : ConnectRequest} {tasks : ι → RequestTask}
  {w₀ : OtcWorld} {s : OtcScene ι} {i j : ι} {c : OtcCmd} {roomId : RoomId}

theorem source_execOtc (planner : Rooms.Planner) : Source (execOtc planner)
    (.rooms .randomUUID) (fun w => w.rooms.uuids) fun w => w.rooms.uuidsDrawn where
  ids_exec c w := by
    cases c with
    | rooms c => exact Calls.uuids_exec planner c w.rooms
    | createPending requesterUserId targetUserId message expiresAt =>
        show (w.createPending _ _ _ _).2.rooms.uuids = _
        rw [OtcWorld.createPending]
        split <;> rfl
    | _ => rfl
  reply _ := rfl
  drawn_draw _ := rfl
  drawn_exec c w hdraw := by
    cases c with
    | rooms c =>
        refine Calls.uuidsDrawn_exec planner ?_ w.rooms
        rintro rfl
        exact hdraw rfl
    | createPending requesterUserId targetUserId message expiresAt =>
        show (w.createPending _ _ _ _).2.rooms.uuidsDrawn = _
        rw [OtcWorld.createPending]
        split <;> rfl
    | _ => rfl

/-- A room has been set up by one of the calls. -/
def MadeRoom (s : OtcScene ι) (roomId : RoomId) : Prop :=
  ∃ i hostUserId peerUserId,
    (⟨.createMatchPairRoom roomId hostUserId peerUserId, ()⟩ : OtcTold) ∈ s.told i

/-- The hash of a room has been written by one of the calls. -/
def HashedRoom (requestId : ConnectRequestId) (s : OtcScene ι) (roomId : RoomId) : Prop :=
  ∃ i userA userB, (⟨.hsetMatchRoom roomId requestId userA userB, ()⟩ : OtcTold) ∈ s.told i

/-- Nobody has written a decision, or one has been taken. -/
def Decision (request : ConnectRequest) (s : OtcScene ι) : Prop :=
  (s.world.requests.find request.id = some request ∧
    ∀ i outcome roomId updated, ¬ Wrote (s.told i) request.id outcome roomId updated) ∨
  ∃ i outcome roomId now, Wrote (s.told i) request.id outcome roomId true ∧
    s.world.requests.find request.id = some (request.answered outcome roomId now) ∧
    ∀ j outcome' roomId', Wrote (s.told j) request.id outcome' roomId' true → j = i

structure Deciding (request : ConnectRequest) (tasks : ι → RequestTask) (w₀ : OtcWorld)
    (s : OtcScene ι) : Prop where
  draws : s.DrawnOnce (.rooms .randomUUID) (fun w => w.rooms.uuids)
    (fun w => w.rooms.uuidsDrawn) w₀
  path : ∀ i, Path request.id (tasks i) (acts (s.told i))
  made : ∀ roomId, MadeRoom s roomId → s.world.roomStatus roomId = some .live
  unmade : ∀ roomId, ¬ MadeRoom s roomId → s.world.roomStatus roomId = w₀.roomStatus roomId ∧
    s.world.participantRow roomId = w₀.participantRow roomId
  hashed : ∀ roomId, HashedRoom request.id s roomId →
    s.world.attemptId roomId = some request.id
  unhashed : ∀ roomId, ¬ HashedRoom request.id s roomId →
    s.world.attemptId roomId = w₀.attemptId roomId ∧
    s.world.rooms.sessionRooms roomId = w₀.rooms.sessionRooms roomId
  decision : Decision request s
  seen : ∀ i row, (⟨.findById request.id, some row⟩ : OtcTold) ∈ s.told i →
    row.status ≠ .pending → s.world.requests.find request.id ≠ some request

/-! What is told of one command is not told of another. -/

theorem mem_told_after_of_ne {e : OtcTold} (he : e.1 ≠ c) :
    e ∈ (s.after (execOtc planner) i c).told j ↔ e ∈ s.told j := by
  rw [Scene.mem_told_after]
  refine or_iff_right ?_
  rintro ⟨-, rfl⟩
  exact he rfl

theorem madeRoom_after_of_ne
    (hc : ∀ hostUserId peerUserId, c ≠ .createMatchPairRoom roomId hostUserId peerUserId) :
    MadeRoom (s.after (execOtc planner) i c) roomId ↔ MadeRoom s roomId :=
  exists_congr fun _ => exists_congr fun _ => exists_congr fun _ =>
    mem_told_after_of_ne (Ne.symm (hc _ _))

theorem hashedRoom_after_of_ne {requestId : ConnectRequestId}
    (hc : ∀ userA userB, c ≠ .hsetMatchRoom roomId requestId userA userB) :
    HashedRoom requestId (s.after (execOtc planner) i c) roomId ↔
      HashedRoom requestId s roomId :=
  exists_congr fun _ => exists_congr fun _ => exists_congr fun _ =>
    mem_told_after_of_ne (Ne.symm (hc _ _))

theorem wrote_after_of_ne {requestId : ConnectRequestId} {outcome : RequestOutcome}
    {roomId : Option RoomId} {updated : Bool} (hc : c ≠ .respond requestId outcome roomId) :
    Wrote ((s.after (execOtc planner) i c).told j) requestId outcome roomId updated ↔
      Wrote (s.told j) requestId outcome roomId updated :=
  mem_told_after_of_ne (Ne.symm hc)

/-! What a call in its turn leaves as it is. -/

section Turn

variable {requestId : ConnectRequestId} {task : RequestTask}
  (hturn : InTurn requestId task (s.told i) c)

include hturn

theorem rooms_after (hc : ∀ roomId hostUserId peerUserId,
    c ≠ .createMatchPairRoom roomId hostUserId peerUserId) :
    (execOtc planner c s.world).2.roomStatus = s.world.roomStatus ∧
      (execOtc planner c s.world).2.rooms.participants = s.world.rooms.participants := by
  rcases hturn.cases (execOtc planner c s.world).1 with
    hplain | ⟨rfl, -⟩ | ⟨roomId, host, peer, rfl, -⟩ | ⟨roomId, host, peer, userA, userB, rfl, -⟩ |
    ⟨outcome, roomId, rfl, -⟩
  · have hlike := like_of_plain planner s.world hplain
    exact ⟨hlike.roomStatus, hlike.participants⟩
  · exact ⟨rfl, rfl⟩
  · exact absurd rfl (hc _ _ _)
  · exact ⟨rfl, rfl⟩
  · exact ⟨rfl, rfl⟩

theorem hashes_after (hc : ∀ roomId userA userB,
    c ≠ .hsetMatchRoom roomId requestId userA userB) :
    (execOtc planner c s.world).2.attemptId = s.world.attemptId ∧
      (execOtc planner c s.world).2.rooms.sessionRooms = s.world.rooms.sessionRooms := by
  rcases hturn.cases (execOtc planner c s.world).1 with
    hplain | ⟨rfl, -⟩ | ⟨roomId, host, peer, rfl, -⟩ | ⟨roomId, host, peer, userA, userB, rfl, -⟩ |
    ⟨outcome, roomId, rfl, -⟩
  · have hlike := like_of_plain planner s.world hplain
    exact ⟨hlike.attemptId, hlike.sessionRooms⟩
  · exact ⟨rfl, rfl⟩
  · exact ⟨rfl, rfl⟩
  · exact absurd rfl (hc _ _ _)
  · exact ⟨rfl, rfl⟩

theorem requests_after (hc : ∀ outcome roomId, c ≠ .respond requestId outcome roomId) :
    (execOtc planner c s.world).2.requests = s.world.requests := by
  rcases hturn.cases (execOtc planner c s.world).1 with
    hplain | ⟨rfl, -⟩ | ⟨roomId, host, peer, rfl, -⟩ | ⟨roomId, host, peer, userA, userB, rfl, -⟩ |
    ⟨outcome, roomId, rfl, -⟩
  · exact (like_of_plain planner s.world hplain).requests
  · rfl
  · rfl
  · rfl
  · exact absurd rfl (hc _ _)

end Turn

/-! The invariant is kept. -/

namespace Deciding

variable (h : Deciding request tasks w₀ s) (hawaits : Awaits w₀ request)
  (hturn : InTurn request.id (tasks i) (s.told i) c)

include h hturn

theorem path_after (j : ι) :
    Path request.id (tasks j) (acts ((s.after (execOtc planner) i c).told j)) := by
  by_cases hij : i = j
  · subst hij
    rw [Scene.told_after_self]
    cases hplain : c.plain with
    | true =>
        rw [acts_cons_of_plain hplain]
        exact h.path i
    | false =>
        rw [acts_cons hplain]
        rcases hturn with htrue | hpath
        · rw [hplain] at htrue
          cases htrue
        · exact hpath _
  · rw [Scene.told_after_of_ne _ hij]
    exact h.path j

omit hturn in
/-- Whose room has been set up, or has its hash, has drawn its id. -/
theorem drew_of_act {j : ι} {e : OtcTold} (hmem : e ∈ s.told j)
    (hact : (∃ hostUserId peerUserId,
        e = ⟨.createMatchPairRoom roomId hostUserId peerUserId, ()⟩) ∨
      ∃ userA userB, e = ⟨.hsetMatchRoom roomId request.id userA userB, ()⟩) :
    DrewRoom (s.told j) roomId := by
  have hplain : e.1.plain = false := by
    rcases hact with ⟨hostUserId, peerUserId, rfl⟩ | ⟨userA, userB, rfl⟩ <;> rfl
  have hmem := mem_acts.mpr ⟨hmem, hplain⟩
  rw [drewRoom_iff]
  have hpath := h.path j
  generalize acts (s.told j) = l at hmem hpath
  rcases hact with ⟨hostUserId, peerUserId, rfl⟩ | ⟨userA, userB, rfl⟩ <;>
    cases hpath <;> simp at hmem ⊢
  all_goals exact hmem.1

omit hturn in
/-- A room that is about to be set up is there for the first time. -/
theorem not_madeRoom (hacts : acts (s.told i) = [⟨.rooms .randomUUID, roomId⟩]) :
    ¬ MadeRoom s roomId := by
  rintro ⟨j, hostUserId, peerUserId, hmade⟩
  have hdrew : (⟨.rooms .randomUUID, roomId⟩ : OtcTold) ∈ s.told i := by
    rw [← DrewRoom, drewRoom_iff, hacts]
    exact List.mem_singleton_self _
  obtain rfl := h.draws.once i j roomId hdrew (h.drew_of_act hmade (.inl ⟨_, _, rfl⟩))
  have hmem : (⟨.createMatchPairRoom roomId hostUserId peerUserId, ()⟩ : OtcTold) ∈
      acts (s.told i) := mem_acts.mpr ⟨hmade, rfl⟩
  rw [hacts, List.mem_singleton] at hmem
  cases hmem

theorem made_after (hawaits : Awaits w₀ request) (roomId : RoomId)
    (hmade : MadeRoom (s.after (execOtc planner) i c) roomId) :
    (execOtc planner c s.world).2.roomStatus roomId = some .live := by
  by_cases hc : ∀ roomId hostUserId peerUserId,
      c ≠ .createMatchPairRoom roomId hostUserId peerUserId
  · rw [(rooms_after hturn hc).1]
    exact h.made roomId ((madeRoom_after_of_ne (hc roomId)).mp hmade)
  · push Not at hc
    obtain ⟨roomId', host, peer, rfl⟩ := hc
    rw [roomStatus_createMatchPairRoom]
    split
    next heq =>
      subst heq
      rcases hturn.cases () with hplain | ⟨hdraw, -⟩ | ⟨_, _, _, heq, hacts⟩ |
        ⟨_, _, _, _, _, heq, -⟩ | ⟨_, _, heq, -⟩
      · cases hplain
      · cases hdraw
      · cases heq
        -- the id was drawn in the run, so that no room had it when the run began
        obtain ⟨n, hle, -, hid⟩ := h.draws.drawn_of_mem i roomId' (by
          rw [← DrewRoom, drewRoom_iff, hacts]
          exact List.mem_singleton_self _)
        rw [(h.unmade roomId' (h.not_madeRoom hacts)).1, ← hid, hawaits.unused n hle]
        rfl
      · cases heq
      · cases heq
    next hne =>
      refine h.made roomId ((madeRoom_after_of_ne fun hostUserId peerUserId heq => ?_).mp hmade)
      cases heq
      exact hne rfl

theorem unmade_after (roomId : RoomId)
    (hmade : ¬ MadeRoom (s.after (execOtc planner) i c) roomId) :
    (execOtc planner c s.world).2.roomStatus roomId = w₀.roomStatus roomId ∧
      (execOtc planner c s.world).2.participantRow roomId = w₀.participantRow roomId := by
  by_cases hc : ∀ roomId hostUserId peerUserId,
      c ≠ .createMatchPairRoom roomId hostUserId peerUserId
  · rw [madeRoom_after_of_ne (hc roomId)] at hmade
    obtain ⟨hstatus, hparticipants⟩ := rooms_after hturn hc
    have hrow : (execOtc planner c s.world).2.participantRow roomId =
        s.world.participantRow roomId := by
      funext userId
      rw [OtcWorld.participantRow, OtcWorld.participantRow, hparticipants]
    rw [hstatus, hrow]
    exact h.unmade roomId hmade
  · push Not at hc
    obtain ⟨roomId', host, peer, rfl⟩ := hc
    have hne : roomId' ≠ roomId := by
      rintro rfl
      exact hmade ⟨i, host, peer, (Scene.mem_told_after _).mpr (.inl ⟨rfl, rfl⟩)⟩
    rw [roomStatus_createMatchPairRoom, if_neg hne, participantRow_createMatchPairRoom _ _ hne]
    refine h.unmade roomId fun hbefore => hmade ?_
    obtain ⟨j, hostUserId, peerUserId, hmem⟩ := hbefore
    exact ⟨j, hostUserId, peerUserId, Scene.told_subset_after _ hmem⟩

theorem hashed_after (roomId : RoomId)
    (hhashed : HashedRoom request.id (s.after (execOtc planner) i c) roomId) :
    (execOtc planner c s.world).2.attemptId roomId = some request.id := by
  by_cases hc : ∀ roomId userA userB, c ≠ .hsetMatchRoom roomId request.id userA userB
  · rw [(hashes_after hturn hc).1]
    exact h.hashed roomId ((hashedRoom_after_of_ne (hc roomId)).mp hhashed)
  · push Not at hc
    obtain ⟨roomId', userA, userB, rfl⟩ := hc
    show Function.update s.world.attemptId roomId' (some request.id) roomId = _
    by_cases heq : roomId = roomId'
    · rw [heq, Function.update_self]
    · rw [Function.update_of_ne heq]
      refine h.hashed roomId ((hashedRoom_after_of_ne fun userA userB hcmd => ?_).mp hhashed)
      cases hcmd
      exact heq rfl

theorem unhashed_after (roomId : RoomId)
    (hhashed : ¬ HashedRoom request.id (s.after (execOtc planner) i c) roomId) :
    (execOtc planner c s.world).2.attemptId roomId = w₀.attemptId roomId ∧
      (execOtc planner c s.world).2.rooms.sessionRooms roomId =
        w₀.rooms.sessionRooms roomId := by
  by_cases hc : ∀ roomId userA userB, c ≠ .hsetMatchRoom roomId request.id userA userB
  · rw [hashedRoom_after_of_ne (hc roomId)] at hhashed
    obtain ⟨hattempt, hsession⟩ := hashes_after hturn hc
    rw [hattempt, hsession]
    exact h.unhashed roomId hhashed
  · push Not at hc
    obtain ⟨roomId', userA, userB, rfl⟩ := hc
    have hne : roomId ≠ roomId' := by
      rintro rfl
      exact hhashed ⟨i, userA, userB, (Scene.mem_told_after _).mpr (.inl ⟨rfl, rfl⟩)⟩
    show Function.update s.world.attemptId roomId' (some request.id) roomId = _ ∧
      Function.update s.world.rooms.sessionRooms roomId' _ roomId = _
    rw [Function.update_of_ne hne, Function.update_of_ne hne]
    refine h.unhashed roomId fun hbefore => hhashed ?_
    obtain ⟨j, userA', userB', hmem⟩ := hbefore
    exact ⟨j, userA', userB', Scene.told_subset_after _ hmem⟩

theorem decision_after (hawaits : Awaits w₀ request) :
    Decision request (s.after (execOtc planner) i c) := by
  by_cases hc : ∀ outcome roomId, c ≠ .respond request.id outcome roomId
  · have hrequests : (execOtc planner c s.world).2.requests = s.world.requests :=
      requests_after hturn hc
    rcases h.decision with ⟨hfind, hnone⟩ | ⟨j, outcome, roomId, now, hwrote, hfind, honly⟩
    · refine .inl ⟨?_, fun j outcome roomId updated => ?_⟩
      · rw [Scene.after_world, hrequests]
        exact hfind
      · rw [wrote_after_of_ne (hc outcome roomId)]
        exact hnone j outcome roomId updated
    · refine .inr ⟨j, outcome, roomId, now, ?_, ?_, fun k outcome' roomId' => ?_⟩
      · exact (wrote_after_of_ne (hc outcome roomId)).mpr hwrote
      · rw [Scene.after_world, hrequests]
        exact hfind
      · rw [wrote_after_of_ne (hc outcome' roomId')]
        exact honly k outcome' roomId'
  · push Not at hc
    obtain ⟨outcome, roomId, rfl⟩ := hc
    have hfind_after := find_respond_after planner s.world request.id outcome roomId
    rcases h.decision with ⟨hfind, hnone⟩ | ⟨j, outcome', roomId', now, hwrote, hfind, honly⟩
    · -- the request is pending: the decision is taken
      rw [hfind, Option.map_some, RequestTable.answer,
        if_pos ⟨rfl, hawaits.pending⟩] at hfind_after
      refine .inr ⟨i, outcome, roomId, s.world.rooms.clock, ?_, hfind_after,
        fun j outcome' roomId' hwrote => ?_⟩
      · refine (Scene.mem_told_after _).mpr (.inl ⟨rfl, ?_⟩)
        rw [reply_respond, hfind, Option.any_some, decide_eq_true hawaits.pending]
      · rcases (Scene.mem_told_after _).mp hwrote with ⟨rfl, -⟩ | hwrote
        · rfl
        · exact absurd hwrote (hnone j outcome' roomId' true)
    · -- it has been decided: nothing changes
      have hstatus : (request.answered outcome' roomId' now).status ≠ .pending :=
        outcome'.status_ne_pending
      rw [hfind, Option.map_some, RequestTable.answer, if_neg fun hrow => hstatus hrow.2]
        at hfind_after
      refine .inr ⟨j, outcome', roomId', now, Scene.told_subset_after _ hwrote, hfind_after,
        fun k outcome'' roomId'' hwrote' => ?_⟩
      rcases (Scene.mem_told_after _).mp hwrote' with ⟨rfl, heq⟩ | hwrote'
      · rw [reply_respond, hfind, Option.any_some, decide_eq_false hstatus] at heq
        cases heq
      · exact honly k outcome'' roomId'' hwrote'

theorem seen_after (hawaits : Awaits w₀ request) (j : ι) (row : ConnectRequest)
    (hseen : (⟨.findById request.id, some row⟩ : OtcTold) ∈
      (s.after (execOtc planner) i c).told j) (hstatus : row.status ≠ .pending) :
    (execOtc planner c s.world).2.requests.find request.id ≠ some request := by
  intro hfind
  by_cases hc : ∀ outcome roomId, c ≠ .respond request.id outcome roomId
  · rw [requests_after hturn hc] at hfind
    rcases (Scene.mem_told_after _).mp hseen with ⟨-, heq⟩ | hseen
    · obtain ⟨rfl, hreply⟩ := Sigma.mk.inj heq
      have hrow : some row = s.world.requests.find request.id := eq_of_heq hreply
      rw [hfind] at hrow
      cases hrow
      exact hstatus hawaits.pending
    · exact h.seen j row hseen hstatus hfind
  · push Not at hc
    obtain ⟨outcome, roomId, rfl⟩ := hc
    -- what a decision leaves is not pending
    rw [find_respond_after] at hfind
    obtain ⟨row', -, hanswer⟩ := Option.map_eq_some_iff.mp hfind
    have hpending := hawaits.pending
    rw [← hanswer, RequestTable.answer] at hpending
    split at hpending
    next => exact outcome.status_ne_pending hpending
    next hrow =>
      rw [RequestTable.answer, if_neg hrow] at hanswer
      exact hrow ⟨congrArg ConnectRequest.id hanswer, hpending⟩

theorem after (hawaits : Awaits w₀ request) :
    Deciding request tasks w₀ (s.after (execOtc planner) i c) where
  draws := h.draws.after (source_execOtc planner) hawaits.injective
  path := h.path_after hturn
  made := h.made_after hturn hawaits
  unmade := h.unmade_after hturn
  hashed := h.hashed_after hturn
  unhashed := h.unhashed_after hturn
  decision := h.decision_after hturn hawaits
  seen := h.seen_after hturn hawaits

end Deciding

theorem Awaits.deciding (hawaits : Awaits w₀ request) (tasks : ι → RequestTask) :
    Deciding request tasks w₀ ⟨w₀, []⟩ where
  draws := .start
  path _ := .start
  made roomId hmade := by
    obtain ⟨i, hostUserId, peerUserId, hmem⟩ := hmade
    cases hmem
  unmade _ _ := ⟨rfl, rfl⟩
  hashed roomId hhashed := by
    obtain ⟨i, userA, userB, hmem⟩ := hhashed
    cases hmem
  unhashed _ _ := ⟨rfl, rfl⟩
  decision := by
    refine .inl ⟨hawaits.stored, fun i outcome roomId updated hwrote => ?_⟩
    cases hwrote
  seen i row hmem := by cases hmem

/-! ### When nothing is in progress -/

section Path

variable {requestId : ConnectRequestId} {task : RequestTask} {h : List OtcTold}
  (hpath : Path requestId task (acts h))

include hpath

/-- A call decides once. -/
theorem wrote_unique {outcome outcome' : RequestOutcome} {roomId roomId' : Option RoomId}
    {updated updated' : Bool} (hwrote : Wrote h requestId outcome roomId updated)
    (hwrote' : Wrote h requestId outcome' roomId' updated') :
    outcome' = outcome ∧ roomId' = roomId ∧ updated' = updated := by
  rw [wrote_iff] at hwrote hwrote'
  generalize acts h = l at hpath hwrote hwrote'
  cases hpath <;> simp at hwrote hwrote'
  all_goals
    obtain ⟨⟨rfl, rfl⟩, rfl⟩ := hwrote
    obtain ⟨⟨rfl, rfl⟩, rfl⟩ := hwrote'
    exact ⟨rfl, rfl, rfl⟩

/-- A call that has drawn an id decides on the room with that id, and any other
decides without a room. -/
theorem wrote_room {outcome : RequestOutcome} {roomId : Option RoomId} {updated : Bool}
    (hwrote : Wrote h requestId outcome roomId updated) :
    (∃ roomId', outcome = .accepted ∧ roomId = some roomId' ∧
      (∀ roomId'', DrewRoom h roomId'' ↔ roomId'' = roomId') ∧
      (∃ hostUserId peerUserId,
        (⟨.createMatchPairRoom roomId' hostUserId peerUserId, ()⟩ : OtcTold) ∈ h) ∧
      ∃ userA userB, (⟨.hsetMatchRoom roomId' requestId userA userB, ()⟩ : OtcTold) ∈ h) ∨
    outcome ≠ .accepted ∧ roomId = none ∧ ∀ roomId', ¬ DrewRoom h roomId' := by
  have hacts (e : OtcTold) (hmem : e ∈ acts h) : e ∈ h := (mem_acts.mp hmem).1
  simp only [drewRoom_iff]
  rw [wrote_iff] at hwrote
  generalize acts h = l at hpath hwrote hacts
  cases hpath <;> simp at hwrote
  case accepted hostUserId peerUserId userA userB updated houtcome =>
    obtain ⟨⟨rfl, rfl⟩, rfl⟩ := hwrote
    refine .inl ⟨_, rfl, rfl, fun roomId'' => ?_, ⟨hostUserId, peerUserId, hacts _ ?_⟩,
      userA, userB, hacts _ ?_⟩ <;> simp
  case answered hne _ =>
    obtain ⟨⟨rfl, rfl⟩, rfl⟩ := hwrote
    exact .inr ⟨hne, rfl, by simp⟩

end Path

variable {conf : RequestConf ι}

/-- No acceptance has lost. -/
def NoneLost (requestId : ConnectRequestId) (s : OtcScene ι) : Prop :=
  ∀ i roomId, ¬ Wrote (s.told i) requestId .accepted roomId false

omit [DecidableEq ι] in
/-- Whether the request is still pending shows in the reply. -/
theorem stillPending_iff {requestId : ConnectRequestId} : StillPending requestId i c s ↔
    ∀ roomId, (⟨c, (execOtc planner c s.world).1⟩ : OtcTold) ≠
      ⟨.respond requestId .accepted roomId, false⟩ := by
  constructor
  · intro hpending roomId heq
    obtain ⟨rfl, hreply⟩ := Sigma.mk.inj heq
    have hfalse := eq_of_heq hreply
    rw [reply_respond, hpending roomId rfl] at hfalse
    cases hfalse
  · rintro hne roomId rfl
    rw [← reply_respond planner s.world requestId .accepted roomId]
    cases hreply : (execOtc planner (.respond requestId .accepted roomId) s.world).1 with
    | true => rfl
    | false => exact absurd (by rw [hreply]) (hne roomId)

/-- Every move meets the condition exactly if no acceptance has lost. -/
theorem meets_stillPending_iff (planner : Rooms.Planner) (tasks : ι → RequestTask)
    (w₀ : OtcWorld) (requestId : ConnectRequestId) (sched : List ι) :
    (decisions requestId tasks w₀).Meets (execOtc planner) (StillPending requestId) sched ↔
      NoneLost requestId ((decisions requestId tasks w₀).runs (execOtc planner) sched).scene := by
  have htrace := Conf.forall_mem_runs_iff (execOtc planner) (P := StillPending requestId)
    (G := fun e => ∀ roomId, (⟨e.cmd, e.reply⟩ : OtcTold) ≠
      ⟨.respond requestId .accepted roomId, false⟩)
    (fun _ _ _ => stillPending_iff) (decisions requestId tasks w₀) sched
  constructor
  · intro hm i roomId hwrote
    refine htrace.mpr ⟨?_, hm⟩ ⟨i, .respond requestId .accepted roomId, false⟩
      (Scene.mem_told.mp hwrote) roomId rfl
    intro e he
    cases he
  · intro hnone
    refine (htrace.mp ?_).2
    rintro ⟨i, cmd, reply⟩ he roomId heq
    cases heq
    exact hnone i roomId (Scene.mem_told.mpr he)

section Rest

variable (hd : Deciding request tasks w₀ conf.scene)
  (hlic : conf.Licensed (execOtc planner) (fun i => InTurn request.id (tasks i))
    fun i => Ended request.id (tasks i))

include hd

/-- Whatever decision was taken is stored. -/
theorem find_of_wrote {outcome : RequestOutcome} {roomId : Option RoomId}
    (hwrote : Wrote (conf.scene.told i) request.id outcome roomId true) :
    (∃ now, conf.scene.world.requests.find request.id =
      some (request.answered outcome roomId now)) ∧
      ∀ j outcome' roomId', Wrote (conf.scene.told j) request.id outcome' roomId' true →
        j = i := by
  rcases hd.decision with ⟨-, hnone⟩ | ⟨j, outcome', roomId', now, hwrote', hfind, honly⟩
  · exact absurd hwrote (hnone i outcome roomId true)
  · obtain rfl := honly i outcome roomId hwrote
    obtain ⟨rfl, rfl, -⟩ := wrote_unique (hd.path i) hwrote hwrote'
    exact ⟨⟨now, hfind⟩, honly⟩

include hlic

/-- Whoever has drawn an id has lost an acceptance, or its room is stored. -/
theorem find_of_drew (hrest : conf.AtRest) (hnone : NoneLost request.id conf.scene)
    (hdrew : DrewRoom (conf.scene.told i) roomId) : ∃ now,
      conf.scene.world.requests.find request.id =
        some (request.answered .accepted (some roomId) now) := by
  rcases hlic.told_of_atRest hrest i with hnil | ⟨result, hended⟩
  · rw [hnil] at hdrew
    cases hdrew
  · rcases result with _ | error | decided
    · rw [drewRoom_iff, show acts _ = [] from hended] at hdrew
      cases hdrew
    · exact absurd (hended.2.1 roomId hdrew) (hnone i roomId)
    · obtain ⟨outcome, -, hwrote⟩ := hended
      rcases wrote_room (hd.path i) hwrote with ⟨roomId', rfl, rfl, honly, -⟩ | ⟨-, -, hnodraw⟩
      · rw [(honly roomId).mp hdrew]
        exact (find_of_wrote hd hwrote).1
      · exact absurd hdrew (hnodraw roomId)

omit hlic in
/-- Whoever is told that the request is decided is told so because it is. -/
theorem find_of_sawDecided
    (hsaw : SawDecided request.id (conf.scene.told i)) :
    ∃ row, conf.scene.world.requests.find request.id = some row ∧ row.status ≠ .pending := by
  rcases hd.decision with ⟨hfind, hnone⟩ | ⟨j, outcome, roomId, now, -, hfind, -⟩
  · rcases hsaw with ⟨row, hmem, hstatus⟩ | ⟨outcome, roomId, updated, hwrote⟩
    · exact absurd hfind (hd.seen i row hmem hstatus)
    · exact absurd hwrote (hnone i outcome roomId updated)
  · exact ⟨_, hfind, outcome.status_ne_pending⟩

omit hlic in
/-- A room with the id of the request has been set up by one of the calls. -/
theorem exists_drew_of_liveFor (hawaits : Awaits w₀ request)
    (hlive : conf.scene.world.LiveFor roomId request.id) :
    ∃ i, DrewRoom (conf.scene.told i) roomId := by
  by_contra hnone
  push Not at hnone
  have hhashed : ¬ HashedRoom request.id conf.scene roomId := by
    rintro ⟨i, userA, userB, hmem⟩
    exact hnone i (hd.drew_of_act hmem (.inr ⟨_, _, rfl⟩))
  exact hawaits.noRoom roomId ((hd.unhashed roomId hhashed).1.symm.trans hlive.2)

omit hlic in
/-- The room of an acceptance that was written is live, and has its hash. -/
theorem liveFor_of_wrote {updated : Bool}
    (hwrote : Wrote (conf.scene.told i) request.id .accepted (some roomId) updated) :
    conf.scene.world.LiveFor roomId request.id := by
  rcases wrote_room (hd.path i) hwrote with
    ⟨roomId', -, heq, -, ⟨hostUserId, peerUserId, hmade⟩, userA, userB, hhashed⟩ | ⟨hne, -⟩
  · cases heq
    exact ⟨hd.made roomId ⟨i, hostUserId, peerUserId, hmade⟩,
      hd.hashed roomId ⟨i, userA, userB, hhashed⟩⟩
  · exact absurd rfl hne

/-- If no acceptance has lost, one call has decided and nothing else is left. -/
theorem oneOutcome_of_noneLost (hawaits : Awaits w₀ request) (hrest : conf.AtRest)
    (hnone : NoneLost request.id conf.scene) : OneOutcome request tasks w₀ conf where
  once i j r r' hi hj := by
    obtain ⟨outcome, -, hwrote⟩ := hlic.result hi
    obtain ⟨outcome', -, hwrote'⟩ := hlic.result hj
    exact (find_of_wrote hd hwrote').2 i _ _ hwrote
  stored i r hi := by
    obtain ⟨outcome, houtcome, hwrote⟩ := hlic.result hi
    obtain ⟨now, hfind⟩ := (find_of_wrote hd hwrote).1
    exact ⟨outcome, now, houtcome, hfind⟩
  unanswered hwon := by
    rcases hd.decision with ⟨hfind, -⟩ | ⟨i, outcome, roomId, now, hwrote, hfind, -⟩
    · exact .inl hfind
    · -- who has written the decision has thrown
      rcases hrest i with ⟨result, hi⟩ | hidle
      · have hended := hlic.result hi
        rcases result with _ | error | decided
        · rw [wrote_iff, show acts _ = [] from hended] at hwrote
          cases hwrote
        · obtain rfl := hended.1 outcome roomId hwrote
          rcases wrote_room (hd.path i) hwrote with ⟨_, heq, -⟩ | ⟨-, rfl, -⟩
          · cases heq
          · exact .inr ⟨now, hfind⟩
        · exact absurd hi (hwon i decided)
      · exact absurd rfl (hidle _ (Scene.mem_told.mp hwrote))
  decided i error hi herror := find_of_sawDecided hd ((hlic.result hi).2.2 herror)
  room roomId hlive := by
    obtain ⟨i, hdrew⟩ := exists_drew_of_liveFor hd hawaits hlive
    obtain ⟨now, hfind⟩ := find_of_drew hd hlic hrest hnone hdrew
    exact ⟨_, hfind, rfl, rfl⟩
  live row hfind hstatus := by
    rcases hd.decision with ⟨hfind', -⟩ | ⟨i, outcome, roomId, now, hwrote, hfind', -⟩
    · rw [hfind'] at hfind
      cases hfind
      rw [hawaits.pending] at hstatus
      cases hstatus
    · rw [hfind'] at hfind
      cases hfind
      rcases wrote_room (hd.path i) hwrote with ⟨roomId', rfl, rfl, -⟩ | ⟨hne, -⟩
      · exact ⟨roomId', rfl, liveFor_of_wrote hd hwrote⟩
      · cases outcome with
        | accepted => exact absurd rfl hne
        | _ => cases hstatus
  behind roomId hother := by
    have hnodraw (i : ι) : ¬ DrewRoom (conf.scene.told i) roomId := by
      intro hdrew
      obtain ⟨now, hfind⟩ := find_of_drew hd hlic hrest hnone hdrew
      exact hother _ hfind rfl
    have hmade : ¬ MadeRoom conf.scene roomId := by
      rintro ⟨i, hostUserId, peerUserId, hmem⟩
      exact hnodraw i (hd.drew_of_act hmem (.inl ⟨_, _, rfl⟩))
    have hhashed : ¬ HashedRoom request.id conf.scene roomId := by
      rintro ⟨i, userA, userB, hmem⟩
      exact hnodraw i (hd.drew_of_act hmem (.inr ⟨_, _, rfl⟩))
    obtain ⟨hroom, hparticipants⟩ := hd.unmade roomId hmade
    exact ⟨hroom, hparticipants, (hd.unhashed roomId hhashed).2⟩

omit hlic in
/-- An acceptance that has lost has left a room behind. -/
theorem noneLost_of_oneOutcome (hone : OneOutcome request tasks w₀ conf) :
    NoneLost request.id conf.scene := by
  intro i room hlost
  rcases wrote_room (hd.path i) hlost with ⟨roomId, -, rfl, hdrew, -⟩ | ⟨hne, -⟩
  · obtain ⟨row, hfind, hstatus, hroom⟩ := hone.room roomId (liveFor_of_wrote hd hlost)
    rcases hd.decision with ⟨-, hnone⟩ | ⟨j, outcome, room', now, hwrote, hfind', -⟩
    · exact hnone i _ _ _ hlost
    · rw [hfind'] at hfind
      cases hfind
      cases hroom
      -- the room that is stored has been drawn by the call that has won
      rcases wrote_room (hd.path j) hwrote with ⟨_, -, heq, hdrew', -⟩ | ⟨-, heq, -⟩
      · cases heq
        obtain rfl := hd.draws.once i j roomId ((hdrew roomId).mpr rfl) ((hdrew' roomId).mpr rfl)
        obtain ⟨-, -, hupdated⟩ := wrote_unique (hd.path i) hlost hwrote
        cases hupdated
      · cases heq
  · exact hne rfl

end Rest

/-- **A request has one outcome and at most one room**, whoever decides on it at
the same time, exactly if every acceptance that is written finds the request
still pending. -/
theorem oneOutcome_iff (planner : Rooms.Planner) (request : ConnectRequest)
    (tasks : ι → RequestTask) (w₀ : OtcWorld) (hawaits : Awaits w₀ request) (sched : List ι)
    (hrest : ((decisions request.id tasks w₀).runs (execOtc planner) sched).AtRest) :
    OneOutcome request tasks w₀ ((decisions request.id tasks w₀).runs (execOtc planner) sched) ↔
      (decisions request.id tasks w₀).Meets (execOtc planner) (StillPending request.id)
        sched := by
  have hlic : (decisions request.id tasks w₀).Licensed (execOtc planner)
      (fun i => InTurn request.id (tasks i)) fun i => Ended request.id (tasks i) :=
    fun i => licensed_requestTask (tasks i)
  have hd : Deciding request tasks w₀
      ((decisions request.id tasks w₀).runs (execOtc planner) sched).scene :=
    hlic.runs_inv (fun s i c hd hturn _ => Deciding.after hd hturn hawaits)
      (hawaits.deciding tasks)
      (Conf.meets_of_forall (execOtc planner) (P := fun _ _ _ => True) (fun _ _ _ => trivial) _ _)
  rw [meets_stillPending_iff]
  exact ⟨noneLost_of_oneOutcome hd,
    oneOutcome_of_noneLost hd (hlic.runs sched) hawaits hrest⟩

end Runs

namespace Sample

def maud : UserId := ⟨"maud", by decide⟩
def joel : UserId := ⟨"joel", by decide⟩

/-- `maud` has asked `joel`. -/
def waiting : ConnectRequest where
  id := 0
  requesterUserId := maud
  targetUserId := joel
  createdAt := 0
  expiresAt := connectRequestTtlMs

def asking : OtcWorld where
  requests :=
    { rows := [waiting], nextId := 1
      unique := by simp
      drawn := by simp [waiting]
      noSelf := by simp [waiting, maud, joel]
      pendingPair := by simp }

theorem awaits_asking : Awaits asking waiting where
  stored := rfl
  pending := rfl
  noRoom _ := by rintro ⟨⟩
  injective := Rooms.uuidText_injective
  unused _ _ := rfl

/-- `joel` accepts in two tabs. -/
def twoTabs (_ : Bool) : RequestTask := .respond joel true

/-- The second accepts while the first has set up its room, and not decided. -/
def overlapping : List Bool :=
  List.replicate 14 true ++ List.replicate 17 false ++ List.replicate 3 true

/-- The acceptance that loses leaves a second live room with the id of the request. -/
theorem not_oneOutcome_overlapping :
    ¬ ∀ (planner : Rooms.Planner) (request : ConnectRequest) (tasks : Bool → RequestTask)
      (w₀ : OtcWorld), Awaits w₀ request → ∀ sched,
      ((decisions request.id tasks w₀).runs (execOtc planner) sched).AtRest →
      OneOutcome request tasks w₀
        ((decisions request.id tasks w₀).runs (execOtc planner) sched) := by
  intro h
  have hone := h .inOrder waiting twoTabs asking awaits_asking overlapping
    fun i => by cases i <;> exact .inl ⟨_, rfl⟩
  obtain ⟨row, hfind, -, hroom⟩ := hone.room (Rooms.uuidText 0)
    ⟨by decide +kernel, by decide +kernel⟩
  obtain ⟨row', hfind', -, hroom'⟩ := hone.room (Rooms.uuidText 1)
    ⟨by decide +kernel, by decide +kernel⟩
  rw [hfind] at hfind'
  cases hfind'
  rw [hroom] at hroom'
  exact absurd (Rooms.uuidText_injective (Option.some.inj hroom')) (by decide)

/-- `joel` accepts while `maud` withdraws. -/
def withdrawn : Bool → RequestTask
  | true => .respond joel true
  | false => .cancel maud

/-- The withdrawal comes too late. -/
theorem oneOutcome_withdrawn : OneOutcome waiting withdrawn asking
    ((decisions waiting.id withdrawn asking).runs (execOtc .inOrder)
      (List.replicate 17 true ++ List.replicate 3 false)) :=
  (oneOutcome_iff .inOrder waiting withdrawn asking awaits_asking _
    fun i => by cases i <;> exact .inl ⟨_, rfl⟩).mpr (by decide +kernel)

end Sample

end Greetup.OpenToConnect
