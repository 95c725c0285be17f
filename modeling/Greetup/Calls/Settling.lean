import Greetup.Calls.Service
import Greetup.Interleaving.Licence

/-!
The calls that make something of an invite, and what they have been told before
they do.

Answering, hanging up, reporting that nobody answered and the ring timer all
begin alike: the invite is read, and if it is no longer pending nothing else
happens. What they write they write afterwards, and no write looks again.
-/

namespace Greetup.Calls

open Interleaving Prog
open Rooms (UserId RoomId M AccessError)

/-- A call about one invite. -/
inductive Settling
  | respond (calleeUserId : UserId) (requestId : RequestId) (accept : Bool)
  | cancel (callerUserId : UserId) (requestId : RequestId) (reason : ConnectionCallCancelReason)
  | markMissed (userId : UserId) (requestId : RequestId)
  | expire (requestId : RequestId)

inductive SettlingResult
  | responded (result : Except AccessError ConnectionCallRespondResult)
  | closed (result : Except AccessError Unit)
  | expired

namespace Settling

def requestId : Settling → RequestId
  | respond _ requestId _ | cancel _ requestId _ | markMissed _ requestId | expire requestId =>
      requestId

/-- What becomes of the invite. -/
def status : Settling → InviteStatus
  | respond _ _ true => .accepted
  | respond _ _ false => .declined
  | cancel _ _ .cancelled => .cancelled
  | cancel _ _ .noAnswer | markMissed _ _ | expire _ => .missed

def program : Settling → M SettlingResult
  | respond calleeUserId requestId accept =>
      .responded <$> respondConnectionCallService calleeUserId requestId accept
  | cancel callerUserId requestId reason =>
      .closed <$> cancelConnectionCallService callerUserId requestId reason
  | markMissed userId requestId => .closed <$> markConnectionCallMissedService userId requestId
  | expire requestId => (fun _ => .expired) <$> expireConnectionCallInvite requestId

end Settling

def SettlingResult.isOk : SettlingResult → Bool
  | .responded (.ok _) | .closed (.ok _) => true
  | _ => false

/-! ### Licences -/

abbrev History := List (Told Rooms.Cmd Rooms.Cmd.Reply)

/-- The invite was read when it was pending. -/
def SeenPending (h : History) (requestId : RequestId) (invite : InviteRecord) : Prop :=
  ∃ hash : InviteHash,
    (⟨.call (.hgetallInvite requestId), some hash⟩ : Told Rooms.Cmd Rooms.Cmd.Reply) ∈ h ∧
      inviteRecord hash = some invite ∧ invite.status = some .pending

/-- The call has written what became of the invite. -/
def HasWritten (h : History) (call : Settling) : Prop :=
  (⟨.call (.hsetInvite call.requestId { status := some call.status }), ()⟩ :
    Told Rooms.Cmd Rooms.Cmd.Reply) ∈ h

/-- The call has not yet deleted an invite. -/
def NoneDeleted (h : History) : Prop := ∀ e ∈ h, ∀ requestId, e.1 ≠ .call (.delInvite requestId)

/-- Everything but the reading is done by a call that was told that the invite
was pending, and the cleanup by one that has written its status. -/
def Settling.Licence (call : Settling) (h : History) : Rooms.Cmd → Prop
  | .call (.hgetallInvite requestId) => requestId = call.requestId
  | .call (.hsetInvite requestId fields) =>
      requestId = call.requestId ∧ fields = { status := some call.status } ∧ NoneDeleted h ∧
        ∃ invite, SeenPending h call.requestId invite
  | .call (.delInvite requestId) =>
      HasWritten h call ∧ ∃ invite, SeenPending h call.requestId invite ∧
        invite.requestId = requestId
  | .call (.delPendingForCallee userId) =>
      HasWritten h call ∧ ∃ invite, SeenPending h call.requestId invite ∧
        invite.calleeUserId = some userId
  | .call (.setPendingForCalleeNX ..) | .call (.expiredPendingForCallee _) | .randomUUID => False
  | _ => ∃ invite, SeenPending h call.requestId invite

/-- What is left to do once the status is written. -/
def Concludes (invite : InviteRecord) : Rooms.Cmd → Prop
  | .call (.delInvite requestId) => invite.requestId = requestId
  | .call (.delPendingForCallee userId) => invite.calleeUserId = some userId
  | .call (.hgetallInvite _) | .call (.hsetInvite ..) => False
  | .call (.setPendingForCalleeNX ..) | .call (.expiredPendingForCallee _) | .randomUUID => False
  | _ => True

section Concludes

variable {h h' : History} {call : Settling} {requestId : RequestId} {invite : InviteRecord}

theorem SeenPending.mono (hs : SeenPending h requestId invite) (hsub : h ⊆ h') :
    SeenPending h' requestId invite := by
  obtain ⟨hash, hmem, hrecord⟩ := hs
  exact ⟨hash, hsub hmem, hrecord⟩

theorem Concludes.licence {c : Rooms.Cmd} (hc : Concludes invite c) (hwritten : HasWritten h call)
    (hseen : SeenPending h call.requestId invite) : call.Licence h c := by
  cases c with
  | call c =>
      cases c with
      | delInvite => exact ⟨hwritten, invite, hseen, hc⟩
      | delPendingForCallee => exact ⟨hwritten, invite, hseen, hc⟩
      | hgetallInvite | hsetInvite => exact hc.elim
      | setPendingForCalleeNX | expiredPendingForCallee => exact hc.elim
      | _ => exact ⟨invite, hseen⟩
  | randomUUID => exact hc.elim
  | _ => exact ⟨invite, hseen⟩

end Concludes

/-! ### Ending the room -/

/-- The commands that end a session. -/
def EndsSession : Rooms.Cmd → Prop
  | .now | .findRoom .. | .listParticipantUserIds _ | .endLiveRoomSessionTx _ => True
  | .delSessionRoom _ | .clearUserActiveRtcRoom _ | .send _ => True
  | _ => False

section EndsSession

variable {roomId : RoomId} {room : Rooms.RoomRow}

theorem clearUserActiveRtcRooms_uses (userIds : List UserId) :
    (Rooms.clearUserActiveRtcRooms userIds).Uses EndsSession := by
  induction userIds with
  | nil => trivial
  | cons userId userIds ih => exact ⟨trivial, fun _ => ih⟩

theorem emitToUsers_uses (event : Rooms.SpaceRoomEvent) (userIds : List UserId) :
    (Rooms.emitToUsers event roomId userIds).Uses EndsSession := by
  induction userIds with
  | nil => trivial
  | cons userId userIds ih => exact ⟨trivial, fun _ => ih⟩

theorem afterTransaction_uses (userIds : List UserId) (reason : Rooms.RoomSessionEndReason)
    (options : Rooms.EndLiveRoomSessionOptions) (transitioned : Bool) :
    (Rooms.afterTransaction room userIds reason options transitioned).Uses EndsSession := by
  refine ⟨trivial, fun _ => ?_⟩
  apply (clearUserActiveRtcRooms_uses userIds).bind
  intro _
  refine Uses.bind ?_ fun _ => trivial
  cases transitioned with
  | false => trivial
  | true =>
      refine ⟨trivial, fun _ => ?_⟩
      show (Rooms.notifyIfSpace room reason options).Uses EndsSession
      rw [Rooms.notifyIfSpace]
      split
      · exact ⟨trivial, fun _ => emitToUsers_uses _ _⟩
      · trivial

theorem endLiveRoomSession_uses (reason : Rooms.RoomSessionEndReason)
    (options : Rooms.EndLiveRoomSessionOptions) :
    (Rooms.endLiveRoomSession roomId reason options).Uses EndsSession := by
  refine ⟨trivial, fun found => ?_⟩
  cases found with
  | none => trivial
  | some room =>
      refine ⟨trivial, fun userIds => ⟨trivial, fun now => ?_⟩⟩
      show (Rooms.endSessionOf room userIds.dedup reason options now).Uses EndsSession
      rw [Rooms.endSessionOf]
      split
      · refine ⟨trivial, fun _ => ?_⟩
        exact (clearUserActiveRtcRooms_uses userIds.dedup).bind fun _ => trivial
      · exact ⟨trivial, fun _ => ⟨trivial, fun _ => afterTransaction_uses _ _ _ _⟩⟩

theorem EndsSession.concludes {c : Rooms.Cmd} (hc : EndsSession c) (invite : InviteRecord) :
    Concludes invite c := by
  cases c with
  | call | randomUUID => exact hc.elim
  | _ => trivial

/-- The commands that end the room of a call nobody took. -/
def EndsRoom (c : Rooms.Cmd) : Prop := EndsSession c ∨ ∃ roomId, c = .call (.delActiveByRoom roomId)

theorem finalizeDeclinedRoom_uses : (finalizeDeclinedRoom roomId).Uses EndsRoom := by
  have hends : ∀ options, (Rooms.endLiveRoomSession roomId .connectionCallEnded options).Uses
      EndsRoom :=
    fun options => (endLiveRoomSession_uses _ options).mono fun _ hc => .inl hc
  exact ⟨.inr ⟨roomId, rfl⟩, fun _ => (hends _).bind fun _ => trivial⟩

theorem finalizeDeclinedRoom_concludes (invite : InviteRecord) :
    (finalizeDeclinedRoom roomId).Uses (Concludes invite) := by
  refine finalizeDeclinedRoom_uses.mono ?_
  rintro c (hc | ⟨roomId, rfl⟩)
  · exact hc.concludes invite
  · trivial

end EndsSession

/-! ### Settling -/

section Settle

variable {requestId : RequestId} {invite : InviteRecord}

theorem cleanupInvite_concludes : (cleanupInvite invite).Uses (Concludes invite) := by
  have hslot : (delPendingForCallee invite.calleeUserId).Uses (Concludes invite) := by
    cases hcallee : invite.calleeUserId with
    | none => trivial
    | some userId => exact ⟨hcallee, fun _ => trivial⟩
  exact ⟨rfl, fun _ => hslot.bind fun _ => ⟨trivial, fun _ => trivial⟩⟩

theorem recordPendingCallOutcome_concludes (outcome : ConnectionCallHistoryStatus) :
    (recordPendingCallOutcome invite outcome).Uses (Concludes invite) := by
  rw [recordPendingCallOutcome]
  split
  · trivial
  · refine ⟨trivial, fun first => ?_⟩
    show (recordFirst invite outcome first).Uses (Concludes invite)
    cases first with
    | false => trivial
    | true => exact ⟨trivial, fun _ => trivial⟩

theorem emitTo_concludes (userId : Option UserId) (message : UserId → Rooms.Outgoing) :
    (emitTo userId message).Uses (Concludes invite) := by
  cases userId with
  | none => trivial
  | some userId => exact ⟨trivial, fun _ => trivial⟩

variable {planner : Rooms.Planner} {call : Settling} {h : History}

/-- What is told to the calls that report success. -/
def Settling.Reports (call : Settling) (h : History) (result : SettlingResult) : Prop :=
  result.isOk = true → ∃ invite, SeenPending h call.requestId invite

/-- The program has its licences. -/
abbrev Settling.Obeys (planner : Rooms.Planner) (call : Settling) {α : Type} (p : M α)
    (Q : History → α → Prop) (h : History) : Prop :=
  p.Licensed (Rooms.exec planner) call.Licence Q h

theorem obeys_concludes {α : Type} {p : M α} (hp : p.Uses (Concludes invite))
    (hwritten : HasWritten h call) (hseen : SeenPending h call.requestId invite) :
    call.Obeys planner p (fun h' _ => SeenPending h' call.requestId invite) h := by
  refine (hp.licensed_of_subset ?_ (List.Subset.refl h)).mono fun h' _ hsub => ?_
  · intro h' hsub c hc
    exact hc.licence (hsub hwritten) (hseen.mono hsub)
  · exact hseen.mono hsub

/-- Writing the status, and whatever follows. -/
theorem obeys_hsetStatus (call : Settling) {α : Type} {p : M α} (hp : p.Uses (Concludes invite))
    (hnone : NoneDeleted h) (hseen : SeenPending h call.requestId invite) :
    call.Obeys planner (hsetStatus call.requestId call.status >>= fun _ => p)
      (fun h' _ => SeenPending h' call.requestId invite) h := by
  refine ⟨⟨rfl, rfl, hnone, invite, hseen⟩, fun w => ?_⟩
  exact obeys_concludes hp List.mem_cons_self (hseen.mono (List.subset_cons_self _ _))

theorem closeInvite_obeys (call : Settling) (outcome : ConnectionCallHistoryStatus)
    {α : Type} {p : M α}
    (hp : p.Uses (Concludes invite)) (hnone : NoneDeleted h)
    (hseen : SeenPending h call.requestId invite) :
    call.Obeys planner (closeInvite call.requestId invite call.status outcome >>= fun _ => p)
      (fun h' _ => SeenPending h' call.requestId invite) h := by
  refine obeys_hsetStatus call (p := (recordPendingCallOutcome invite outcome >>= fun _ =>
    cleanupInvite invite >>= fun _ => finalizeDeclinedRoom invite.roomId) >>= fun _ => p) ?_
    hnone hseen
  refine Uses.bind ?_ fun _ => hp
  refine (recordPendingCallOutcome_concludes outcome).bind fun _ => ?_
  exact cleanupInvite_concludes.bind fun _ => finalizeDeclinedRoom_concludes invite

theorem emitMissed_concludes : (emitMissed requestId invite).Uses (Concludes invite) :=
  (emitTo_concludes _ _).bind fun _ => emitTo_concludes _ _

/-- The checks pass on an invite that is pending. -/
theorem checkInvite_eq_ok {found : Option InviteRecord} {mine : InviteRecord → Bool}
    {notMine : AccessError} (h : checkInvite found mine notMine = .ok invite) :
    found = some invite ∧ mine invite = true ∧ invite.status = some .pending := by
  cases found with
  | none => cases h
  | some found =>
      rw [checkInvite] at h
      split at h
      · cases h
      · rename_i hmine
        split at h
        · cases h
        · rename_i hpending
          cases h
          exact ⟨rfl, by simpa using hmine, not_not.mp hpending⟩

/-- What follows the reading of the invite. -/
theorem obeys_readInvite (call : Settling) {α : Type}
    {f : Option InviteRecord → M α} {Q : History → α → Prop}
    (hf : ∀ (found : Option InviteRecord) (h : History), NoneDeleted h →
      (∀ invite ∈ found, invite.status = some .pending →
        SeenPending h call.requestId invite) → call.Obeys planner (f found) Q h) :
    call.Obeys planner (readInvite call.requestId >>= f) Q [] := by
  refine ⟨rfl, fun w => hf _ _ ?_ ?_⟩
  · intro e he requestId heq
    cases List.mem_singleton.mp he
    cases heq
  · intro invite hfound hpending
    obtain ⟨hash, hhash, hrecord⟩ := Option.bind_eq_some_iff.mp hfound
    refine ⟨hash, ?_, hrecord, hpending⟩
    rw [← hhash]
    exact List.mem_cons_self

/-- The services read, check, and go on with an invite that is pending. -/
theorem obeys_checked (call : Settling) {α : Type}
    {mine : InviteRecord → Bool} {notMine : AccessError}
    {f : Except AccessError InviteRecord → M α} {g : α → SettlingResult}
    (herror : ∀ error, ∃ a, f (.error error) = pure a ∧ (g a).isOk = false)
    (hok : ∀ (invite : InviteRecord) (h : History), NoneDeleted h →
      SeenPending h call.requestId invite →
        call.Obeys planner (f (.ok invite)) (fun h' _ => SeenPending h' call.requestId invite) h) :
    call.Obeys planner (g <$> (readInvite call.requestId >>= fun found =>
      f (checkInvite found mine notMine))) call.Reports [] := by
  refine Licensed.map (obeys_readInvite call fun found h hnone hseen => ?_)
  cases hcheck : checkInvite found mine notMine with
  | error error =>
      obtain ⟨a, ha, hnot⟩ := herror error
      rw [ha]
      intro hisOk
      rw [hnot] at hisOk
      cases hisOk
  | ok invite =>
      obtain ⟨rfl, -, hpending⟩ := checkInvite_eq_ok hcheck
      exact (hok invite h hnone (hseen invite rfl hpending)).mono fun h' _ hseen' _ =>
        ⟨invite, hseen'⟩

end Settle

section Programs

variable (planner : Rooms.Planner) {h : History} {invite : InviteRecord}

theorem acceptInvite_obeys (calleeUserId : UserId) (requestId : RequestId)
    (hnone : NoneDeleted h) (hseen : SeenPending h requestId invite) :
    (Settling.respond calleeUserId requestId true).Obeys planner
      (acceptInvite calleeUserId requestId invite)
      (fun h' _ => SeenPending h' requestId invite) h := by
  refine ⟨⟨invite, hseen⟩, fun w => ?_⟩
  refine obeys_hsetStatus (.respond calleeUserId requestId true) ?_ ?_
    (hseen.mono (List.subset_cons_self _ _))
  · refine cleanupInvite_concludes.bind fun _ => ⟨trivial, fun _ => ⟨trivial, fun _ => ?_⟩⟩
    exact (emitTo_concludes _ _).bind fun _ => trivial
  · intro e he requestId heq
    rcases List.mem_cons.mp he with rfl | he
    · cases heq
    · exact hnone e he requestId heq

theorem missInvite_obeys (call : Settling) (hmissed : call.status = .missed) (hnone : NoneDeleted h)
    (hseen : SeenPending h call.requestId invite) :
    call.Obeys planner (missInvite call.requestId invite)
      (fun h' _ => SeenPending h' call.requestId invite) h := by
  rw [missInvite, ← hmissed]
  exact closeInvite_obeys call .missed emitMissed_concludes hnone hseen

/-- **Every settling call** has its licences. -/
theorem Settling.obeys (call : Settling) :
    call.Obeys planner call.program call.Reports [] := by
  cases call with
  | respond calleeUserId requestId accept =>
      refine obeys_checked (.respond calleeUserId requestId accept)
        (fun error => ⟨_, rfl, rfl⟩) ?_
      intro invite h hnone hseen
      cases accept with
      | true => exact acceptInvite_obeys planner calleeUserId requestId hnone hseen
      | false =>
          refine closeInvite_obeys (.respond calleeUserId requestId false) .declined ?_
            hnone hseen
          exact (emitTo_concludes _ _).bind fun _ => trivial
  | cancel callerUserId requestId reason =>
      refine obeys_checked (.cancel callerUserId requestId reason)
        (fun error => ⟨_, rfl, rfl⟩) ?_
      intro invite h hnone hseen
      cases reason with
      | cancelled =>
          refine closeInvite_obeys (.cancel callerUserId requestId .cancelled) .cancelled ?_
            hnone hseen
          exact (emitTo_concludes _ _).bind fun _ => trivial
      | noAnswer =>
          exact (missInvite_obeys planner (.cancel callerUserId requestId .noAnswer) rfl
            hnone hseen).bind fun _ _ hseen' => hseen'
  | markMissed userId requestId =>
      refine obeys_checked (.markMissed userId requestId)
        (fun error => ⟨_, rfl, rfl⟩) ?_
      intro invite h hnone hseen
      exact (missInvite_obeys planner (.markMissed userId requestId) rfl
        hnone hseen).bind fun _ _ hseen' => hseen'
  | expire requestId =>
      refine Licensed.map (obeys_readInvite (.expire requestId) fun found h hnone hseen => ?_)
      have hnotOk : (call : Settling) → (h' : History) → call.Reports h' .expired := by
        intro call h' hisOk
        cases hisOk
      cases found with
      | none => exact hnotOk _ _
      | some invite =>
          show Settling.Obeys planner _ (if _ then _ else _) _ _
          split
          · exact hnotOk _ _
          · rename_i hpending
            exact (missInvite_obeys planner (.expire requestId) rfl hnone
              (hseen invite rfl (not_not.mp hpending))).mono fun _ _ _ => hnotOk _ _

end Programs

end Greetup.Calls
