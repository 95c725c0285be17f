import Greetup.Rooms.Licence
import Greetup.Rooms.RowSteps

/-!
The calls of the room services, run in any order and at the same time.
-/

namespace Greetup.Rooms

open Interleaving Prog

variable (planner : Planner)

/-- `turns` is the order of what the issue of a token starts together. -/
inductive RoomCall
  | start (hostUserId : UserId) (roomId : RoomId)
  | join (userId : UserId) (roomId : RoomId)
  | handleJoin (userId : UserId) (roomId : RoomId) (turns : List ℕ := [])
  | token (userId : UserId) (roomId : RoomId) (turns : List ℕ := [])
  | syncCap (roomId : RoomId)
  | reconcile (roomId : RoomId)
  | endLive (roomId : RoomId) (reason : RoomSessionEndReason) (options : EndLiveRoomSessionOptions)
  | leaveSpace (userId : UserId) (roomId : RoomId) (httpStrict : Bool)
  | leaveDirect (userId : UserId) (explicitRoomId : Option RoomId)
  | kick (hostUserId : UserId) (roomId : RoomId) (targetUserId : UserId) (restrict : Bool)
  | remove (roomId : RoomId) (targetUserId : UserId) (options : RemoveOptions)
  | respondInvite (inviteeUserId : UserId) (inviteId : Matching.Text) (accept : Bool)
  | openMeeting (userId : UserId) (roomId : RoomId)
  /-- the hash reaches its TTL -/
  | sessionRoomExpires (roomId : RoomId)
  | elapse (ms : ℕ)

inductive RoomOutcome
  /-- with the answer for the token, if one was asked for -/
  | joined (result : Except AccessError JoinRoomServiceResult)
      (rtc : Option (Except AccessError RtcTokenPayload))
  | token (result : Except AccessError RtcTokenPayload)
  | kicked (result : Except AccessError RemoveResult)
  | other

/-- What a call answers a request for a token with. -/
def RoomOutcome.rtc : RoomOutcome → Option (Except AccessError RtcTokenPayload)
  | joined _ rtc => rtc
  | token result => some result
  | _ => none

/-- The call returns a token. -/
def RoomOutcome.hasToken (outcome : RoomOutcome) : Bool := outcome.rtc.any (·.isOk)

def tokenIfEligible (turns : List ℕ) (userId : UserId) (roomId : RoomId)
    (joined : JoinRoomServiceResult) : M RoomOutcome :=
  if joined.rtcEligible then do
    let rtc ← issueRtcTokenService turns userId roomId
      { room := some joined.room, afterJoin := true }
    return .joined (.ok joined) (some rtc)
  else return .joined (.ok joined) none

def tokenIfJoined (turns : List ℕ) (userId : UserId) (roomId : RoomId) :
    Except AccessError JoinRoomServiceResult → M RoomOutcome
  | .error error => return .joined (.error error) none
  | .ok joined => tokenIfEligible turns userId roomId joined

namespace RoomCall

/-- Joining by HTTP returns the token with the answer. -/
def program : RoomCall → M RoomOutcome
  | start hostUserId roomId => (fun _ => .other) <$> startRoomSessionService hostUserId roomId
  | join userId roomId => (.joined · none) <$> joinRoomService userId roomId
  | handleJoin userId roomId turns =>
      joinRoomService userId roomId >>= tokenIfJoined turns userId roomId
  | token userId roomId turns => .token <$> issueRtcTokenService turns userId roomId {}
  | syncCap roomId => (fun _ => .other) <$> syncGuestMatchRoomSessionCap roomId
  | reconcile roomId => (fun _ => .other) <$> reconcileRoomSessionOnAccess roomId
  | endLive roomId reason options => (fun _ => .other) <$> endLiveRoomSession roomId reason options
  | leaveSpace userId roomId httpStrict =>
      (fun _ => .other) <$> leaveSpaceRtcSessionForUser userId roomId httpStrict
  | leaveDirect userId explicitRoomId =>
      (fun _ => .other) <$> leaveDirectRoomService userId explicitRoomId
  | kick hostUserId roomId targetUserId restrict =>
      .kicked <$> kickSpaceParticipantService hostUserId roomId targetUserId restrict
  | remove roomId targetUserId options =>
      (fun _ => .other) <$> removeSpaceParticipantFromLive roomId targetUserId options
  | respondInvite inviteeUserId inviteId accept =>
      (fun _ => .other) <$> respondRoomInviteService inviteeUserId inviteId accept
  | openMeeting userId roomId => (fun _ => .other) <$> openSpaceMeetingService userId roomId
  | sessionRoomExpires roomId => (fun _ => .other) <$> issue (.expiredSessionRoom roomId)
  | elapse ms => (fun _ => .other) <$> issue (.elapsed ms)

/-- To whom the call may give a token, and for which room. -/
def bearer : RoomCall → Option (UserId × RoomId)
  | handleJoin userId roomId _ | token userId roomId _ => some (userId, roomId)
  | _ => none

/-- What a call has been told when it returns. -/
def Reports : RoomCall → History → RoomOutcome → Prop
  | join userId roomId, h, .joined result _ => Joins roomId userId h result
  | handleJoin userId roomId _, h, outcome =>
      (∀ result rtc, outcome = .joined result rtc → Joins roomId userId h result) ∧
        ∀ token ∈ outcome.rtc, Grants roomId userId h token
  | token userId roomId _, h, outcome => ∀ token ∈ outcome.rtc, Grants roomId userId h token
  | kick _ roomId targetUserId _, h, .kicked (.ok result) => result.restricted = true →
      (⟨.addRoomRestrictedUser roomId targetUserId, ()⟩ : Told Cmd Cmd.Reply) ∈ h
  | _, _, _ => True

end RoomCall

section Walk

variable {planner} {h : History} {roomId : RoomId} {userId : UserId} {room : RoomRow}

/-! ### Starting and opening -/

theorem startRoomSessionService_obeys :
    Obeys planner (startRoomSessionService userId roomId) (fun _ _ => True) h := by
  rw [startRoomSessionService, assertRoomSessionOpenOnAccess]
  refine Licensed.bind (Licensed.bind obeys_reconcileRoomSessionOnAccess
    (T := fun _ _ => True) ?_) ?_
  · intro h' result _
    split
    · trivial
    · trivial
  · intro h' access _
    cases access with
    | error error => trivial
    | ok _ =>
        have hfree : (findRoomById roomId >>= hostStart userId).Uses Cmd.Free := by
          refine ⟨trivial, fun existing => ?_⟩
          cases existing with
          | none => trivial
          | some existing =>
              show (if _ then _ else if _ then _ else _ : M _).Uses _
              split_ifs
              · trivial
              · trivial
              · refine ⟨trivial, fun now => ?_⟩
                apply (markRoomLive_free now).bind
                intro row
                cases row with
                | none => trivial
                | some row => exact (runLiveSpaceAfterMarkLive_free _ _).bind fun _ => trivial
        exact (obeys_free hfree).mono fun _ _ _ => trivial

theorem openSpaceMeetingService_obeys :
    Obeys planner (openSpaceMeetingService userId roomId) (fun _ _ => True) h := by
  have hgate : (clearSpaceLobbyGateInRedis roomId >>= afterGate userId roomId).Uses Cmd.Free := by
    refine Uses.bind ⟨trivial, fun session => ?_⟩ fun opened => ?_
    · cases session with
      | none => trivial
      | some session => exact ⟨trivial, fun _ => trivial⟩
    · cases opened with
      | false => trivial
      | true =>
          refine Uses.bind ⟨trivial, fun userIds => emitToUsers_free _ _⟩ fun _ => trivial
  rw [openSpaceMeetingService, assertRoomSessionOpenOnAccess]
  refine Licensed.bind (Licensed.bind obeys_reconcileRoomSessionOnAccess
    (T := fun _ _ => True) ?_) ?_
  · intro h' result _
    split
    · trivial
    · trivial
  · intro h' access _
    cases access with
    | error error => trivial
    | ok _ =>
        have hfree : (findRoomById roomId >>= openMeetingFound userId roomId).Uses Cmd.Free := by
          refine ⟨trivial, fun found => ?_⟩
          cases found with
          | none => trivial
          | some room =>
              show (if _ then _ else if _ then _ else _ : M _).Uses _
              split_ifs
              · trivial
              · trivial
              · refine ⟨trivial, fun now => ?_⟩
                show (openMeetingNow userId roomId room now).Uses Cmd.Free
                rw [openMeetingNow]
                split_ifs
                · trivial
                · trivial
                · exact hgate
        exact (obeys_free hfree).mono fun _ _ _ => trivial

/-! ### Leaving -/

theorem leaveSpaceRtcSessionForUser_free (httpStrict : Bool) :
    (leaveSpaceRtcSessionForUser userId roomId httpStrict).Uses Cmd.Free := by
  have hinactive : (leaveInactive userId roomId httpStrict).Uses Cmd.Free := by
    refine ⟨trivial, fun _ => ?_⟩
    cases httpStrict with
    | false => trivial
    | true => exact ⟨trivial, fun _ => trivial⟩
  have hafter : ∀ result, (afterLeave userId roomId result).Uses Cmd.Free := by
    intro result
    refine ⟨trivial, fun _ => ?_⟩
    cases result.roomEnded with
    | false =>
        cases result.lastParticipantLeft with
        | false => trivial
        | true => exact ⟨trivial, fun _ => trivial⟩
    | true =>
        refine ⟨trivial, fun _ => ?_⟩
        cases result.lastParticipantLeft with
        | false => trivial
        | true => exact ⟨trivial, fun _ => trivial⟩
  refine ⟨trivial, fun found => ?_⟩
  show (leaveFound userId roomId httpStrict found).Uses Cmd.Free
  rw [leaveFound]
  cases found.filter (·.roomType = .space) with
  | none => trivial
  | some room =>
      refine ⟨trivial, fun now => ?_⟩
      show (leaveSpace userId roomId room httpStrict now).Uses Cmd.Free
      rw [leaveSpace]
      split_ifs
      · exact ⟨trivial, fun _ => ⟨trivial, fun _ => trivial⟩⟩
      · refine ⟨trivial, fun row => ?_⟩
        show (leaveLobby userId roomId (isActive row)).Uses Cmd.Free
        cases isActive row with
        | false => exact ⟨trivial, fun _ => trivial⟩
        | true => exact ⟨trivial, fun _ => ⟨trivial, fun _ => trivial⟩⟩
      · trivial
      · exact ⟨trivial, fun _ => trivial⟩
      · refine ⟨trivial, fun row => ?_⟩
        show (leaveLive userId roomId room httpStrict (isActive row)).Uses Cmd.Free
        cases isActive row with
        | false => exact hinactive
        | true => exact ⟨trivial, fun now => ⟨trivial, fun result => hafter result⟩⟩

theorem leaveRoomOf_obeys : Obeys planner (leaveRoomOf userId roomId room)
    (fun _ _ => True) h := by
  rw [leaveRoomOf]
  split_ifs
  · exact (obeys_free ((leaveSpaceRtcSessionForUser_free false).map _)).mono fun _ _ _ => trivial
  · apply Licensed.bind (obeys_free (free_of_announces notifyConnectionCallPeerEnded_announces))
    intro h₁ _ _
    apply obeys_issue
    · trivial
    intro _
    apply Licensed.bind (obeys_free (free_of_announces finalizeConnectionCallHistory_announces))
    intro h₂ _ _
    apply Licensed.bind (obeys_endLiveRoomSession _ _)
    intro h₃ _ _
    trivial
  · apply Licensed.bind (obeys_endLiveRoomSession _ _)
    intro h₁ _ _
    trivial

theorem leaveDirectRoomService_obeys (explicitRoomId : Option RoomId) :
    Obeys planner (leaveDirectRoomService userId explicitRoomId) (fun _ _ => True) h := by
  have hleave : ∀ h' roomId', Obeys planner (leaveRoom userId roomId')
      (fun _ _ => True) h' := by
    intro h' roomId'
    rw [leaveRoom]
    apply obeys_findRoomById
    intro found _
    apply Licensed.bind (obeys_free (free_of_announces (notifyPeerIfMatch_announces found)))
    intro h₁ _ _
    apply Licensed.bind (obeys_free (free_of_announces
      (leaveMatchEngineUnlessCall_announces found)))
    intro h₂ _ _
    refine Licensed.bind (Q := fun _ _ => True) ?_ fun _ _ _ => ⟨trivial, fun _ => trivial⟩
    cases found with
    | none => trivial
    | some room => exact leaveRoomOf_obeys
  cases explicitRoomId with
  | some roomId' => exact hleave h roomId'
  | none =>
      apply obeys_issue
      · trivial
      intro key
      cases key with
      | some roomId' => exact hleave _ roomId'
      | none => exact ⟨trivial, fun _ => ⟨trivial, fun _ => trivial⟩⟩

/-! ### Being removed, and the rest -/

/-- Whoever is reported as restricted has been restricted. -/
def Restricts (roomId : RoomId) (targetUserId : UserId) (h : History) (result : RemoveResult) :
    Prop :=
  result.restricted = true →
    (⟨.addRoomRestrictedUser roomId targetUserId, ()⟩ : Told Cmd Cmd.Reply) ∈ h

theorem restricts_notRemoved : Restricts roomId userId h notRemoved := by
  intro hrestricted
  cases hrestricted

theorem removeActive_obeys (options : RemoveOptions) (activeTarget : Bool) :
    Obeys planner (removeActive roomId userId options activeTarget)
      (Restricts roomId userId) h := by
  cases activeTarget with
  | false => exact restricts_notRemoved
  | true =>
      refine ⟨trivial, fun _ => ⟨trivial, fun _ => ⟨trivial, fun _ => ⟨trivial, fun _ =>
        ⟨trivial, fun _ => ?_⟩⟩⟩⟩⟩
      show Obeys planner (restrictIfAsked roomId userId options.restrict) _ _
      cases options.restrict with
      | false =>
          intro hrestricted
          cases hrestricted
      | true => exact ⟨trivial, fun _ _ => List.mem_cons_self⟩

theorem removeSpaceParticipantFromLive_obeys (options : RemoveOptions) :
    Obeys planner (removeSpaceParticipantFromLive roomId userId options)
      (Restricts roomId userId) h := by
  rw [removeSpaceParticipantFromLive]
  apply obeys_findRoomById
  intro found _
  rw [removeFound]
  cases found.filter (·.roomType = .space) with
  | none => exact restricts_notRemoved
  | some room =>
      apply obeys_issue
      · trivial
      intro now
      rw [removeOpen]
      split_ifs
      · exact ⟨trivial, fun _ => restricts_notRemoved⟩
      · exact restricts_notRemoved
      · exact ⟨trivial, fun _ => removeActive_obeys options _⟩

theorem kickSpaceParticipantService_obeys (targetUserId : UserId) (restrict : Bool) :
    Obeys planner (kickSpaceParticipantService userId roomId targetUserId restrict)
      (fun h' result => ∀ removed, result = .ok removed → Restricts roomId targetUserId h' removed)
      h := by
  have herror : ∀ h' (error : AccessError) removed, Except.error error = Except.ok removed →
      Restricts roomId targetUserId h' removed := by
    intro h' error removed hok
    cases hok
  rw [kickSpaceParticipantService]
  apply obeys_findRoomById
  intro found _
  rw [kickFound]
  cases found.filter (·.roomType = .space) with
  | none => exact herror _ _
  | some room =>
      show Obeys planner
        (if _ then _ else if _ then _ else if _ then _ else if _ then _ else _) _ _
      split_ifs
      · exact herror _ _
      · exact herror _ _
      · exact herror _ _
      · exact herror _ _
      · refine ⟨trivial, fun w => ?_⟩
        show Obeys planner (kickActive roomId targetUserId restrict (isActive _)) _ _
        rw [kickActive]
        split
        · exact herror _ _
        · apply Licensed.map
          refine (removeSpaceParticipantFromLive_obeys _).mono fun h' removed hrestricts => ?_
          rintro removed' ⟨⟩
          exact hrestricts

/-- Only a room that was seen live is expanded. -/
theorem respondRoomInviteService_obeys (inviteId : Matching.Text) (accept : Bool) :
    Obeys planner (respondRoomInviteService userId inviteId accept) (fun _ _ => True) h := by
  rw [respondRoomInviteService]
  apply obeys_issue
  · trivial
  intro invite
  cases invite with
  | none => trivial
  | some invite =>
      show Obeys planner (if _ then _ else if _ then _ else if _ then _ else _) _ _
      split_ifs
      · trivial
      · trivial
      · exact ⟨trivial, fun _ => ⟨trivial, fun _ => trivial⟩⟩
      apply obeys_findRoomById
      intro found hid
      rw [acceptRoomInvite]
      cases found with
      | none => trivial
      | some room =>
          by_cases hlive : room.status = .live
          swap
          · rw [Option.filter_some, if_neg (by simp [hlive])]
            trivial
          rw [Option.filter_some, if_pos (by simp [hlive])]
          show Obeys planner (if _ then _ else _) _ _
          split_ifs
          · exact ⟨trivial, fun _ => trivial⟩
          · refine ⟨seenOpen_cons (showsOpen_find ?_), fun w => ?_⟩
            · intro row hrow hended
              cases hrow
              rw [hlive] at hended
              cases hended
            have hfree : ∀ expanded, (afterExpand invite.roomId expanded).Uses Cmd.Free := by
              intro expanded
              cases expanded with
              | false => trivial
              | true =>
                  refine Uses.bind ⟨trivial, fun session => ?_⟩ fun _ => ?_
                  · cases session with
                    | none => trivial
                    | some session => exact ⟨trivial, fun _ => trivial⟩
                  · exact ⟨trivial, fun _ => ⟨trivial, fun _ =>
                      (emitToUsers_free _ _).bind fun _ => trivial⟩⟩
            exact (obeys_free (hfree _)).mono fun _ _ _ => trivial

/-- Joining by HTTP passes on the row that the join has read. -/
theorem tokenIfJoined_obeys (turns : List ℕ)
    {result : Except AccessError JoinRoomServiceResult} (hjoins : Joins roomId userId h result) :
    Obeys planner (tokenIfJoined turns userId roomId result)
      (RoomCall.Reports (.handleJoin userId roomId turns)) h := by
  cases result with
  | error error =>
      refine ⟨?_, by simp [RoomOutcome.rtc]⟩
      rintro _ _ ⟨⟩
      exact joins_error
  | ok joined =>
      obtain ⟨hrow, hid, hadmitted⟩ := hjoins joined rfl
      have hjoined : ∀ h' rtc, h ⊆ h' → ∀ result rtc', RoomOutcome.joined (.ok joined) rtc =
          .joined result rtc' → Joins roomId userId h' result := by
        rintro h' rtc hsub _ _ ⟨⟩ joined' hok
        cases hok
        exact ⟨hrow.mono hsub, hid, hadmitted.mono hsub⟩
      rw [tokenIfJoined, tokenIfEligible]
      split
      · have htoken : Obeys planner (issueRtcTokenService turns userId roomId
            { room := some joined.room, afterJoin := true }) (Grants roomId userId) h := by
          apply obeys_issueRtcTokenService
          intro room hroom
          cases hroom
          exact ⟨hrow, hid⟩
        refine htoken.grows.bind fun h' rtc hgrants => ⟨hjoined h' _ hgrants.1, ?_⟩
        rintro token ⟨⟩
        exact hgrants.2
      · exact ⟨hjoined h none (List.Subset.refl h), by simp [RoomOutcome.rtc]⟩

end Walk

theorem RoomCall.obeys (call : RoomCall) :
    Obeys planner call.program call.Reports [] := by
  cases call with
  | start hostUserId roomId => exact startRoomSessionService_obeys.map
  | join userId roomId =>
      apply Licensed.map
      exact obeys_joinRoomService.mono fun _ _ hjoins => hjoins
  | handleJoin userId roomId turns =>
      exact Licensed.bind obeys_joinRoomService fun _ _ hjoins => tokenIfJoined_obeys turns hjoins
  | token userId roomId turns =>
      apply Licensed.map
      have htoken : Obeys planner (issueRtcTokenService turns userId roomId {})
          (Grants roomId userId) [] := by
        apply obeys_issueRtcTokenService
        intro room hroom
        cases hroom
      refine htoken.mono fun h result hgrants => ?_
      rintro token ⟨⟩
      exact hgrants
  | syncCap roomId => exact obeys_syncGuestMatchRoomSessionCap.map
  | reconcile roomId =>
      exact (obeys_reconcileRoomSessionOnAccess.mono fun _ _ _ => trivial).map
  | endLive roomId reason options =>
      exact ((obeys_endLiveRoomSession reason options).mono fun _ _ _ => trivial).map
  | leaveSpace userId roomId httpStrict =>
      exact ((obeys_free (leaveSpaceRtcSessionForUser_free httpStrict)).mono
        fun _ _ _ => trivial).map
  | leaveDirect userId explicitRoomId => exact (leaveDirectRoomService_obeys explicitRoomId).map
  | kick hostUserId roomId targetUserId restrict =>
      apply Licensed.map
      refine (kickSpaceParticipantService_obeys targetUserId restrict).mono fun h result hall => ?_
      cases result with
      | error error => trivial
      | ok removed => exact hall removed rfl
  | remove roomId targetUserId options =>
      exact ((removeSpaceParticipantFromLive_obeys options).mono fun _ _ _ => trivial).map
  | respondInvite inviteeUserId inviteId accept =>
      exact (respondRoomInviteService_obeys inviteId accept).map
  | openMeeting userId roomId => exact openSpaceMeetingService_obeys.map
  | sessionRoomExpires roomId => exact ⟨trivial, fun _ => trivial⟩
  | elapse ms => exact ⟨trivial, fun _ => trivial⟩

/-- A token that is returned was granted. -/
theorem RoomCall.grants_of_hasToken {call : RoomCall} {h : History} {userId : UserId}
    {roomId : RoomId} {outcome : RoomOutcome} (hbearer : call.bearer = some (userId, roomId))
    (hreports : call.Reports h outcome) (htoken : outcome.hasToken = true) :
    MayEnter h roomId userId ∧ ∀ e ∈ h.head?, e.1.FollowsUp := by
  obtain ⟨result, hrtc, hok⟩ := Option.any_eq_true _ _ |>.mp htoken
  cases result with
  | error error => cases hok
  | ok payload =>
      cases call with
      | handleJoin _ _ turns =>
          cases hbearer
          exact hreports.2 _ hrtc payload rfl
      | token _ _ turns =>
          cases hbearer
          exact hreports _ hrtc payload rfl
      | _ => cases hbearer

/-! ### Runs -/

section Runs

variable {ι : Type}

/-- The calls at their beginning. -/
def begun (calls : ι → RoomCall) (w : World) : Conf ι Cmd Cmd.Reply RoomOutcome World :=
  ⟨fun i => (calls i).program, ⟨w, []⟩⟩

variable [DecidableEq ι]

theorem begun_licensed (calls : ι → RoomCall) (w : World) :
    (begun calls w).Licensed (exec planner) (fun _ => Licence planner)
      fun i => (calls i).Reports :=
  fun i => (calls i).obeys planner

/-! ### A space -/

/-- The columns of a space that no call changes. -/
structure SameSpace (space room : RoomRow) : Prop where
  roomType : room.roomType = .space
  hostUserId : room.hostUserId = space.hostUserId
  maxParticipants : room.maxParticipants = space.maxParticipants
  advancedOptions : room.advancedOptions = space.advancedOptions

/-- The space is there, and nobody has been told otherwise. -/
structure Knows (space : RoomRow) (s : Scene ι Cmd Cmd.Reply World) : Prop where
  row : ∃ room, s.world.rooms.find space.id = some room ∧ SameSpace space room
  seen : ∀ i room, SeenRow (s.told i) room → room.id = space.id → SameSpace space room

variable {planner} {space room room' : RoomRow} {w : World} {c : Cmd}
  {s : Scene ι Cmd Cmd.Reply World}

omit [DecidableEq ι] in
theorem SameSpace.step (h : SameSpace space room) (hstep : RowStep w room c room') :
    SameSpace space room' := by
  cases hstep with
  | same => exact h
  | updated =>
      rename_i change _
      cases change <;> exact ⟨h.roomType, h.hostUserId, h.maxParticipants, h.advancedOptions⟩
  | joinGraceMissed | rescheduled | ended | lastLeft =>
      exact ⟨h.roomType, h.hostUserId, h.maxParticipants, h.advancedOptions⟩
  | expanded _ hdirect =>
      rw [h.roomType] at hdirect
      cases hdirect

theorem Knows.step (h : Knows space s) (i : ι) (c : Cmd) :
    Knows space (s.after (exec planner) i c) := by
  obtain ⟨room, hfind, hsame⟩ := h.row
  have hid : room.id = space.id := (Sql.Table.mem_of_find hfind).2
  obtain ⟨room', hfind', hstep⟩ := exists_rowStep planner (show _ = some room by rw [hid, hfind]) c
  rw [hid] at hfind'
  refine ⟨⟨room', hfind', hsame.step hstep⟩, fun j read hread hreadId => ?_⟩
  by_cases hij : i = j
  swap
  · rw [SeenRow, Scene.told_after_of_ne _ hij] at hread
    exact h.seen j read hread hreadId
  subst hij
  rw [SeenRow, Scene.told_after_self] at hread
  rcases List.mem_cons.mp hread with heq | hold
  · obtain ⟨rfl, hreply⟩ := Sigma.mk.inj heq
    have hfound : s.world.findRoom read.id {} = some read := (eq_of_heq hreply).symm
    rw [findRoom_empty, hreadId, hfind] at hfound
    cases hfound
    exact hsame
  · exact h.seen i read hold hreadId

theorem knows_begun (calls : ι → RoomCall) (hfind : w.rooms.find space.id = some space)
    (hspace : space.roomType = .space) : Knows space (begun calls w).scene := by
  refine ⟨⟨space, hfind, hspace, rfl, rfl, rfl⟩, ?_⟩
  intro i room hseen
  cases hseen

end Runs

end Greetup.Rooms
