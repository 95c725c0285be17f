import Greetup.Interleaving.Licence
import Greetup.Rooms.Elsewhere
import Greetup.Rooms.Starting

/-!
What the room services have been told before they write.

Joining reads the row, whether the user is restricted, and how many are in the
room, one statement after the other, and only then adds the row of the user; a
token follows readings of its own. None of these writes repeats a condition that
was read. What can be said of them is that their caller was once told it might.
-/

namespace Greetup.Rooms

open Interleaving Prog

variable (planner : Planner)

/-! ### Licences -/

/-- What a call has been told, newest first. -/
abbrev History := List (Told Cmd Cmd.Reply)

def World.HasEnded (w : World) (roomId : RoomId) : Prop :=
  ∃ room, w.rooms.find roomId = some room ∧ room.status = .ended

/-- The reply is one that shows that the room had not ended. -/
def ShowsOpen (roomId : RoomId) (e : Told Cmd Cmd.Reply) : Prop :=
  ∀ w, (exec planner e.1 w).1 = e.2 → ¬ w.HasEnded roomId

def SeenOpen (h : History) (roomId : RoomId) : Prop := ∃ e ∈ h, ShowsOpen planner roomId e

/-- The row has been read. -/
def SeenRow (h : History) (room : RoomRow) : Prop :=
  (⟨.findRoom room.id {}, some room⟩ : Told Cmd Cmd.Reply) ∈ h

def SeenUnrestricted (h : History) (roomId : RoomId) (userId : UserId) : Prop :=
  (⟨.isRoomRestrictedUser roomId userId, false⟩ : Told Cmd Cmd.Reply) ∈ h

/-- When last looked for, the participant row was there. -/
def Returning (h : History) (roomId : RoomId) (userId : UserId) : Prop :=
  ∃ row : ParticipantRow, Newest (.findRoomParticipant roomId userId) (some row) h

/-- When last counted, not all seats were taken. -/
def SeenSeat (h : History) (room : RoomRow) : Prop :=
  ∃ n < room.maxParticipants, Newest (.countActiveParticipants room.id) n h

/-- When last looked for, a restriction was not there. -/
def LastUnrestricted (h : History) (roomId : RoomId) (userId : UserId) : Prop :=
  Newest (.isRoomRestrictedUser roomId userId) false h

/-- The reply lets a user through the gate: there is no hash, or no gate in it. -/
inductive LetsThrough (roomId : RoomId) : Told Cmd Cmd.Reply → Prop
  | noHash : LetsThrough roomId ⟨.existsSessionRoom roomId, false⟩
  | noGate (gate : Option Bool) (hgate : gate ≠ some true) :
      LetsThrough roomId ⟨.hgetLobbyGateActive roomId, gate⟩

def SeenGateDown (h : History) (roomId : RoomId) : Prop := ∃ e ∈ h, LetsThrough roomId e

/-- The host has to open the space. -/
def isHostGated (room : RoomRow) : Bool :=
  (mergeRoomAdvancedOptions room.advancedOptions).shouldHostStartMeeting = some true

/-- What lets a user take a seat. -/
def MaySit (h : History) (roomId : RoomId) (userId : UserId) : Prop :=
  ∃ room, SeenRow h room ∧ room.id = roomId ∧
    (room.roomType = .direct ∨ room.hostUserId = userId ∨
      SeenUnrestricted h roomId userId ∧ (Returning h roomId userId ∨ SeenSeat h room))

/-- What lets a user have a token. -/
def MayEnter (h : History) (roomId : RoomId) (userId : UserId) : Prop :=
  ∃ room, SeenRow h room ∧ room.id = roomId ∧
    (room.roomType = .direct ∨ room.hostUserId = userId ∨
      LastUnrestricted h roomId userId ∧ (isHostGated room = false ∨ SeenGateDown h roomId))

def RoomChange.isEnd : RoomChange → Bool
  | .ended _ => true
  | _ => false

/-- The statement spares the rows that have ended. -/
def RoomWhere.SparesEnded (cond : RoomWhere) : Prop :=
  ∃ status, cond.status = some status ∧ status ≠ .ended

/-- What its caller has been told when a command is issued. -/
def Licence (h : History) : Cmd → Prop
  | .updateRoom roomId cond change =>
      change.isEnd = false ∧ (cond.SparesEnded ∨ SeenOpen planner h roomId)
  | .endLiveRoomSessionTx params =>
      ∃ room, SeenRow h room ∧ params.roomId = room.id ∧ params.hostUserId = room.hostUserId
  | .addOrReactivateHostRow roomId userId => SeenOpen planner h roomId ∧ MaySit h roomId userId
  | .addOrReactivateParticipantRow roomId userId =>
      SeenOpen planner h roomId ∧ MaySit h roomId userId
  | .runExpandDirectAcceptTransaction params => SeenOpen planner h params.roomId
  | .createConnectionCallRoom .. => False
  | _ => True

/-- The commands that need no licence. -/
def Cmd.Free : Cmd → Prop
  | .updateRoom _ cond change => change.isEnd = false ∧ cond.SparesEnded
  | .endLiveRoomSessionTx _ => False
  | .addOrReactivateHostRow .. | .addOrReactivateParticipantRow .. => False
  | .runExpandDirectAcceptTransaction _ | .createConnectionCallRoom .. => False
  | _ => True

theorem Cmd.Free.licence {c : Cmd} (hc : c.Free) (h : History) : Licence planner h c := by
  cases c with
  | updateRoom => exact ⟨hc.1, .inl hc.2⟩
  | endLiveRoomSessionTx => exact hc.elim
  | addOrReactivateHostRow | addOrReactivateParticipantRow => exact hc.elim
  | runExpandDirectAcceptTransaction | createConnectionCallRoom => exact hc.elim
  | _ => trivial

/-- The program has its licences, and `Q` holds of what it has been told and of
its result. -/
abbrev Obeys {α : Type} (p : M α) (Q : History → α → Prop) (h : History) : Prop :=
  p.Licensed (exec planner) (Licence planner) Q h

/-! ### What replies show -/

section Shows

variable {planner} {h h' : History} {roomId : RoomId} {userId : UserId}

theorem showsOpen_find {room : Option RoomRow} (hroom : ∀ row ∈ room, row.status ≠ .ended) :
    ShowsOpen planner roomId ⟨.findRoom roomId {}, room⟩ := by
  rintro w hreply ⟨row, hfind, hended⟩
  have hfound : w.findRoom roomId {} = room := hreply
  rw [findRoom_empty, hfind] at hfound
  exact hroom row hfound.symm hended

theorem showsOpen_findLive {row : RoomRow} :
    ShowsOpen planner roomId ⟨.findRoom roomId { status := some .live }, some row⟩ := by
  rintro w hreply ⟨row', hfind, hended⟩
  have hlive : w.findRoom roomId { status := some .live } = some row := hreply
  rw [World.findRoom, hfind, Option.filter_some, if_neg] at hlive
  · cases hlive
  · simp [RoomWhere.matches_, hended]

theorem SeenOpen.mono (hs : SeenOpen planner h roomId) (hsub : h ⊆ h') :
    SeenOpen planner h' roomId := by
  obtain ⟨e, he, hshows⟩ := hs
  exact ⟨e, hsub he, hshows⟩

theorem seenOpen_cons {e : Told Cmd Cmd.Reply} (he : ShowsOpen planner roomId e) :
    SeenOpen planner (e :: h) roomId := ⟨e, List.mem_cons_self, he⟩

end Shows

/-! ### Programs that need no licence -/

section Free

variable {roomId : RoomId} {userId : UserId} {room : RoomRow}

theorem Cmd.Announces.free {c : Cmd} (hc : c.Announces) : c.Free := by
  cases c with
  | updateRoom | endLiveRoomSessionTx => exact hc.elim
  | addOrReactivateHostRow | addOrReactivateParticipantRow => exact hc.elim
  | runExpandDirectAcceptTransaction | createConnectionCallRoom => exact hc.elim
  | _ => trivial

theorem free_of_announces {α : Type} {p : M α} (hp : p.Uses Cmd.Announces) : p.Uses Cmd.Free :=
  hp.mono fun _ => Cmd.Announces.free

theorem clearUserActiveRtcRooms_free (userIds : List UserId) :
    (clearUserActiveRtcRooms userIds).Uses Cmd.Free := by
  induction userIds with
  | nil => trivial
  | cons userId userIds ih => exact ⟨trivial, fun _ => ih⟩

theorem emitToUsers_free (event : SpaceRoomEvent) (userIds : List UserId) :
    (emitToUsers event roomId userIds).Uses Cmd.Free := by
  induction userIds with
  | nil => trivial
  | cons userId userIds ih => exact ⟨trivial, fun _ => ih⟩

theorem afterTransaction_free (userIds : List UserId) (reason : RoomSessionEndReason)
    (options : EndLiveRoomSessionOptions) (transitioned : Bool) :
    (afterTransaction room userIds reason options transitioned).Uses Cmd.Free := by
  refine ⟨trivial, fun _ => ?_⟩
  apply (clearUserActiveRtcRooms_free userIds).bind
  intro _
  refine Uses.bind ?_ fun _ => trivial
  cases transitioned with
  | false => trivial
  | true =>
      refine ⟨trivial, fun _ => ?_⟩
      show (notifyIfSpace room reason options).Uses Cmd.Free
      rw [notifyIfSpace]
      split
      · exact ⟨trivial, fun _ => emitToUsers_free _ _⟩
      · trivial

theorem markRoomLive_free (startedAt : ℤ) : (markRoomLive roomId startedAt).Uses Cmd.Free := by
  refine ⟨trivial, fun existing => ?_⟩
  cases existing with
  | none => trivial
  | some existing =>
      exact ⟨trivial, fun _ => ⟨⟨rfl, .scheduled, rfl, by decide⟩, fun _ => trivial⟩⟩

theorem runLiveSpaceAfterMarkLive_free (title : String) (lobbyGateActive : Bool) :
    (runLiveSpaceAfterMarkLive room userId title lobbyGateActive).Uses Cmd.Free := by
  refine ⟨trivial, fun _ => ?_⟩
  cases lobbyGateActive with
  | true => exact ⟨trivial, fun _ => trivial⟩
  | false =>
      refine ⟨trivial, fun _ => ?_⟩
      apply (emitToUsers_free _ _).bind
      intro _
      exact ⟨trivial, fun _ => trivial⟩

theorem maybeAutoStartScheduledSpaceFromDb_free :
    (maybeAutoStartScheduledSpaceFromDb roomId).Uses Cmd.Free := by
  refine ⟨trivial, fun room => ?_⟩
  cases room with
  | none => trivial
  | some room =>
      refine ⟨trivial, fun now => ?_⟩
      show (lazyStart room now).Uses Cmd.Free
      rw [lazyStart]
      split
      · refine (markRoomLive_free now).bind fun row => ?_
        cases row with
        | none => trivial
        | some row => exact runLiveSpaceAfterMarkLive_free _ _
      · trivial

theorem refreshLiveSpaceExpiryAfterParticipantJoin_free :
    (refreshLiveSpaceExpiryAfterParticipantJoin roomId).Uses Cmd.Free := by
  refine ⟨trivial, fun row => ?_⟩
  cases row with
  | none => trivial
  | some row => exact ⟨trivial, fun _ => ⟨⟨rfl, .live, rfl, by decide⟩, fun _ => trivial⟩⟩

end Free

/-! ### Reading a row -/

section Walk

variable {planner} {h : History} {roomId : RoomId} {userId : UserId} {room : RoomRow}

theorem obeys_issue {α : Type} {c : Cmd} {f : c.Reply → M α} {Q : History → α → Prop}
    (hc : Licence planner h c) (hf : ∀ r, Obeys planner (f r) Q (⟨c, r⟩ :: h)) :
    Obeys planner (issue c >>= f) Q h := ⟨hc, fun _ => hf _⟩

/-- A row that is found has the id that was asked for. -/
theorem obeys_findRoomById {α : Type} {f : Option RoomRow → M α} {Q : History → α → Prop}
    (hf : ∀ row : Option RoomRow, (∀ room ∈ row, room.id = roomId) →
      Obeys planner (f row) Q (⟨.findRoom roomId {}, row⟩ :: h)) :
    Obeys planner (findRoomById roomId >>= f) Q h := by
  refine ⟨trivial, fun w => hf _ ?_⟩
  intro room hroom
  have hfound : w.findRoom roomId {} = some room := hroom
  rw [findRoom_empty] at hfound
  exact (Sql.Table.mem_of_find hfound).2

theorem SeenRow.mono {h' : History} (hrow : SeenRow h room) (hsub : h ⊆ h') : SeenRow h' room :=
  hsub hrow

theorem obeys_free {α : Type} {p : M α} (hp : p.Uses Cmd.Free) :
    Obeys planner p (fun h' _ => h ⊆ h') h :=
  (hp.licensed fun h _ hc => hc.licence planner h).grows.mono fun _ _ hsub => hsub.1

/-- Who the host is, the transaction is told by the row. -/
theorem obeys_endLiveRoomSession (reason : RoomSessionEndReason)
    (options : EndLiveRoomSessionOptions) :
    Obeys planner (endLiveRoomSession roomId reason options) (fun h' _ => h ⊆ h') h := by
  refine (Licensed.grows (Q := fun _ _ => True) ?_).mono fun _ _ hsub => hsub.1
  rw [endLiveRoomSession]
  apply obeys_findRoomById
  intro found hid
  cases found with
  | none => trivial
  | some room =>
      obtain rfl := hid room rfl
      refine ⟨trivial, fun w => ⟨trivial, fun w' => ?_⟩⟩
      show Obeys planner (endSessionOf room _ reason options _) _ _
      rw [endSessionOf]
      split
      · have hfree : ∀ userIds, (deleteSessionRoomRedis room.id >>= fun _ =>
            clearUserActiveRtcRooms userIds >>= fun _ =>
            (return ⟨false, true, reason⟩ : M EndLiveRoomSessionResult)).Uses Cmd.Free :=
          fun userIds => ⟨trivial, fun _ => (clearUserActiveRtcRooms_free userIds).bind
            fun _ => trivial⟩
        exact (obeys_free (hfree _)).mono fun _ _ _ => trivial
      · rw [closeLiveRoomSession]
        apply obeys_issue
        · trivial
        intro now
        apply obeys_issue
        · refine ⟨room, ?_, rfl, rfl⟩
          exact List.mem_cons_of_mem _ (List.mem_cons_of_mem _
            (List.mem_cons_of_mem _ List.mem_cons_self))
        intro transitioned
        exact (obeys_free (afterTransaction_free _ _ _ _)).mono fun _ _ _ => trivial

theorem obeys_reconcileDue (reason : Option RoomSessionEndReason) (now : ℤ) :
    Obeys planner (reconcileDue room reason now) (fun h' _ => h ⊆ h') h := by
  cases reason with
  | none =>
      apply obeys_free
      show (reconcileNotDue room now).Uses Cmd.Free
      rw [reconcileNotDue]
      split
      · exact ⟨trivial, fun _ => trivial⟩
      · trivial
  | some reason =>
      cases reason with
      | joinGraceMissed =>
          apply obeys_free
          refine ⟨trivial, fun expired => ?_⟩
          show (reconcileJoinGraceMissed room.id expired).Uses Cmd.Free
          rw [reconcileJoinGraceMissed]
          split
          · exact ⟨trivial, fun _ => trivial⟩
          · trivial
      | _ => exact (obeys_endLiveRoomSession _ _).bind fun _ _ hsub => hsub

/-- A session that is not found closed was seen open. -/
theorem obeys_reconcileRoomSessionOnAccess :
    Obeys planner (reconcileRoomSessionOnAccess roomId)
      (fun h' result => h ⊆ h' ∧ (result.closed = false → SeenOpen planner h' roomId)) h := by
  rw [reconcileRoomSessionOnAccess]
  apply obeys_findRoomById
  intro row hid
  cases row with
  | none =>
      refine ⟨List.subset_cons_self _ _, fun _ => seenOpen_cons (showsOpen_find ?_)⟩
      intro row hrow
      cases hrow
  | some room =>
      show Obeys planner (if _ then _ else _) _ _
      split
      · refine ⟨trivial, fun w => ⟨fun e he => ?_, fun hclosed => by cases hclosed⟩⟩
        exact List.mem_cons_of_mem _ (List.mem_cons_of_mem _ he)
      · rename_i hstatus
        have hshows : ShowsOpen planner roomId ⟨.findRoom roomId {}, some room⟩ := by
          apply showsOpen_find
          intro row hrow hended
          cases hrow
          simp [hended] at hstatus
        refine ⟨trivial, fun w => ⟨trivial, fun w' => ⟨trivial, fun w'' => ?_⟩⟩⟩
        refine (obeys_reconcileDue _ _).mono fun h' result hsub => ⟨fun e he => ?_, fun _ => ?_⟩
        · exact hsub (List.mem_cons_of_mem _ (List.mem_cons_of_mem _ (List.mem_cons_of_mem _
            (List.mem_cons_of_mem _ he))))
        · refine ⟨_, hsub ?_, hshows⟩
          exact List.mem_cons_of_mem _ (List.mem_cons_of_mem _
            (List.mem_cons_of_mem _ List.mem_cons_self))

theorem obeys_assertOpen (hrow : SeenRow h room) (hid : room.id = roomId) :
    Obeys planner (assertOpen roomId room) (fun h' result => ∀ room, result = .ok room →
      SeenRow h' room ∧ room.id = roomId ∧ SeenOpen planner h' roomId) h := by
  rw [assertOpen, assertRoomSessionOpenOnAccess]
  refine Licensed.bind (Licensed.bind obeys_reconcileRoomSessionOnAccess
    (T := fun h' access => h ⊆ h' ∧ (access = .ok () → SeenOpen planner h' roomId)) ?_) ?_
  · rintro h' result ⟨hsub, hopen⟩
    cases hclosed : result.closed with
    | true =>
        rw [if_pos rfl]
        refine ⟨hsub, ?_⟩
        intro hok
        cases hok
    | false =>
        rw [if_neg Bool.false_ne_true]
        exact ⟨hsub, fun _ => hopen hclosed⟩
  · rintro h' access ⟨hsub, hopen⟩
    cases access with
    | error error =>
        intro room hok
        cases hok
    | ok _ =>
        apply obeys_findRoomById
        intro again hagain room' hok
        have hseen : SeenOpen planner (⟨.findRoom roomId {}, again⟩ :: h') roomId :=
          (hopen rfl).mono (List.subset_cons_self _ _)
        cases hok
        cases again with
        | none => exact ⟨List.mem_cons_of_mem _ (hsub hrow), hid, hseen⟩
        | some again =>
            obtain rfl := hagain again rfl
            exact ⟨List.mem_cons_self, rfl, hseen⟩

theorem obeys_autoStartIfScheduled (hrow : SeenRow h room) (hid : room.id = roomId) :
    Obeys planner (autoStartIfScheduled roomId room)
      (fun h' result => ∀ room, result = some room →
      SeenRow h' room ∧ room.id = roomId) h := by
  rw [autoStartIfScheduled]
  split
  · refine Licensed.bind (obeys_free maybeAutoStartScheduledSpaceFromDb_free) fun h' _ hsub => ?_
    refine ⟨trivial, fun w room' hfound => ?_⟩
    have hfind : w.findRoom roomId {} = some room' := hfound
    have hkey := hfind
    rw [findRoom_empty] at hkey
    obtain rfl := (Sql.Table.mem_of_find hkey).2
    refine ⟨?_, rfl⟩
    rw [SeenRow, ← hfound]
    exact List.mem_cons_self
  · intro room' hok
    cases hok
    exact ⟨hrow, hid⟩

/-! ### Joining -/

/-- Whoever is let in is the host or in a direct room, or was once told to be
unrestricted or already in. -/
def Admitted (h : History) (room : RoomRow) (userId : UserId) : Prop :=
  room.roomType = .direct ∨ room.hostUserId = userId ∨ SeenUnrestricted h room.id userId ∨
    ∃ row : Option ParticipantRow, isActive row = true ∧
      (⟨.findRoomParticipant room.id userId, row⟩ : Told Cmd Cmd.Reply) ∈ h

/-- A seat is given to somebody who may be admitted. -/
def Seats (room : RoomRow) (userId : UserId) (h h' : History) (seat : Except AccessError Unit) :
    Prop :=
  h ⊆ h' ∧ (seat = .ok () → Admitted h' room userId)

theorem seats_error {error : AccessError} : Seats room userId h h (.error error) := by
  refine ⟨List.Subset.refl h, ?_⟩
  intro hok
  cases hok

theorem seats_issue {c : Cmd} {f : c.Reply → M (Except AccessError Unit)}
    (hc : Licence planner h c)
    (hf : ∀ r, Obeys planner (f r) (Seats room userId (⟨c, r⟩ :: h)) (⟨c, r⟩ :: h)) :
    Obeys planner (issue c >>= f) (Seats room userId h) h := by
  refine obeys_issue hc fun r => (hf r).mono ?_
  rintro h' seat ⟨hsub, hadmitted⟩
  exact ⟨fun _ he => hsub (List.mem_cons_of_mem _ he), hadmitted⟩

theorem Admitted.mono {h' : History} (ha : Admitted h room userId) (hsub : h ⊆ h') :
    Admitted h' room userId := by
  rcases ha with hdirect | hhost | hunrestricted | ⟨row, hactive, hmem⟩
  · exact .inl hdirect
  · exact .inr (.inl hhost)
  · exact .inr (.inr (.inl (hsub hunrestricted)))
  · exact .inr (.inr (.inr ⟨row, hactive, hsub hmem⟩))

theorem obeys_addRow (isHost : Bool) (hrow : SeenRow h room) (hopen : SeenOpen planner h room.id)
    (hsit : room.roomType = .direct ∨ room.hostUserId = userId ∨
      SeenUnrestricted h room.id userId ∧ (Returning h room.id userId ∨ SeenSeat h room)) :
    Obeys planner (Except.ok <$> addRow isHost room.id userId) (Seats room userId h) h := by
  have hadmitted : Admitted h room userId := by
    rcases hsit with hdirect | hhost | ⟨hunrestricted, -⟩
    · exact .inl hdirect
    · exact .inr (.inl hhost)
    · exact .inr (.inr (.inl hunrestricted))
  have hmay : MaySit h room.id userId := ⟨room, hrow, rfl, hsit⟩
  cases isHost with
  | true =>
      refine ⟨⟨hopen, hmay⟩, fun _ => ⟨List.subset_cons_self _ _, fun _ => ?_⟩⟩
      exact hadmitted.mono (List.subset_cons_self _ _)
  | false =>
      refine ⟨⟨hopen, hmay⟩, fun _ => ⟨List.subset_cons_self _ _, fun _ => ?_⟩⟩
      exact hadmitted.mono (List.subset_cons_self _ _)

theorem SeenSeat.cons {e : Told Cmd Cmd.Reply} (hs : SeenSeat h room)
    (he : e.1 ≠ .countActiveParticipants room.id) : SeenSeat (e :: h) room := by
  obtain ⟨n, hn, hnewest⟩ := hs
  exact ⟨n, hn, hnewest.cons he⟩

/-- By invitation, with a seat that was seen or into a direct room. -/
theorem obeys_joinPrivate (hrow : SeenRow h room) (hopen : SeenOpen planner h room.id)
    (hsit : room.roomType = .direct ∨ SeenUnrestricted h room.id userId ∧ SeenSeat h room) :
    Obeys planner (joinPrivate room userId) (Seats room userId h) h := by
  rw [joinPrivate]
  apply seats_issue
  · trivial
  intro invited
  rw [joinByInvite]
  split
  · apply obeys_addRow _ (List.mem_cons_of_mem _ hrow) (hopen.mono (List.subset_cons_self _ _))
    rcases hsit with hdirect | ⟨hunrestricted, hseat⟩
    · exact .inl hdirect
    · refine .inr (.inr ⟨List.mem_cons_of_mem _ hunrestricted, .inr (hseat.cons ?_)⟩)
      intro heq
      cases heq
  · exact seats_error

/-- With a seat that was seen, or where a row was found. -/
theorem obeys_joinSpaceUnrestricted (hrow : SeenRow h room) (hopen : SeenOpen planner h room.id)
    (hunrestricted : SeenUnrestricted h room.id userId) {priorRow : Option ParticipantRow}
    (hprior : Newest (.findRoomParticipant room.id userId) priorRow h) :
    Obeys planner (joinSpaceUnrestricted room userId priorRow) (Seats room userId h) h := by
  rw [joinSpaceUnrestricted]
  cases priorRow with
  | some row => exact obeys_addRow _ hrow hopen (.inr (.inr ⟨hunrestricted, .inl ⟨row, hprior⟩⟩))
  | none =>
      apply seats_issue
      · trivial
      intro n
      have hrow' := List.mem_cons_of_mem
        (⟨.countActiveParticipants room.id, n⟩ : Told Cmd Cmd.Reply) hrow
      have hunrestricted' := List.mem_cons_of_mem
        (⟨.countActiveParticipants room.id, n⟩ : Told Cmd Cmd.Reply) hunrestricted
      have hopen' := hopen.mono (List.subset_cons_self
        (⟨.countActiveParticipants room.id, n⟩ : Told Cmd Cmd.Reply) h)
      rw [joinSpaceWithSeat]
      split
      · exact seats_error
      rename_i hn
      have hseat : SeenSeat (⟨.countActiveParticipants room.id, n⟩ :: h) room :=
        ⟨n, Nat.lt_of_not_le hn, newest_cons⟩
      split
      · exact obeys_addRow _ hrow' hopen' (.inr (.inr ⟨hunrestricted', .inr hseat⟩))
      · exact obeys_joinPrivate hrow' hopen' (.inr ⟨hunrestricted', hseat⟩)

theorem obeys_ensureSpaceRoomParticipation (hrow : SeenRow h room)
    (hopen : SeenOpen planner h room.id) :
    Obeys planner (ensureSpaceRoomParticipation room userId) (Seats room userId h) h := by
  rw [ensureSpaceRoomParticipation]
  split
  · rename_i hhost
    exact obeys_addRow _ hrow hopen (.inr (.inl hhost))
  apply seats_issue
  · trivial
  intro isRestricted
  cases isRestricted with
  | true => exact seats_error
  | false =>
      apply seats_issue
      · trivial
      intro priorRow
      apply obeys_joinSpaceUnrestricted
      · exact List.mem_cons_of_mem _ (List.mem_cons_of_mem _ hrow)
      · exact (hopen.mono (List.subset_cons_self _ _)).mono (List.subset_cons_self _ _)
      · exact List.mem_cons_of_mem _ List.mem_cons_self
      · exact newest_cons

/-- The rows of a direct room need no seat. -/
theorem obeys_ensureDirectRoomParticipation (hrow : SeenRow h room)
    (hopen : SeenOpen planner h room.id) (hdirect : room.roomType = .direct) :
    Obeys planner (ensureDirectRoomParticipation room userId) (Seats room userId h) h := by
  rw [ensureDirectRoomParticipation]
  split
  · exact obeys_addRow _ hrow hopen (.inl hdirect)
  apply seats_issue
  · trivial
  intro anyRow
  have hrow' := List.mem_cons_of_mem
    (⟨.findRoomParticipant room.id userId, anyRow⟩ : Told Cmd Cmd.Reply) hrow
  have hopen' := hopen.mono (List.subset_cons_self
    (⟨.findRoomParticipant room.id userId, anyRow⟩ : Told Cmd Cmd.Reply) h)
  cases anyRow with
  | some row =>
      show Obeys planner (if row.leftAt = none then _ else _) _ _
      split
      · exact ⟨List.Subset.refl _, fun _ => .inl hdirect⟩
      · exact obeys_addRow _ hrow' hopen' (.inl hdirect)
  | none =>
      apply seats_issue
      · trivial
      intro session
      have hrow'' := List.mem_cons_of_mem
        (⟨.hgetallSessionRoom room.id, session⟩ : Told Cmd Cmd.Reply) hrow'
      have hopen'' := hopen'.mono (List.subset_cons_self
        (⟨.hgetallSessionRoom room.id, session⟩ : Told Cmd Cmd.Reply) _)
      rw [joinDirectByPair]
      split
      · exact obeys_addRow _ hrow'' hopen'' (.inl hdirect)
      · split
        · exact obeys_joinPrivate hrow'' hopen'' (.inl hdirect)
        · exact seats_error

theorem obeys_ensureLiveParticipation (hrow : SeenRow h room)
    (hopen : SeenOpen planner h room.id) :
    Obeys planner (ensureLiveParticipation room userId) (Seats room userId h) h := by
  rw [ensureLiveParticipation]
  split
  · rename_i hdirect
    exact obeys_ensureDirectRoomParticipation hrow hopen hdirect
  · apply Licensed.bind (obeys_ensureSpaceRoomParticipation hrow hopen)
    rintro h' seat ⟨hsub, hadmitted⟩
    cases seat with
    | error error =>
        refine ⟨hsub, ?_⟩
        intro hok
        cases hok
    | ok _ =>
        apply (Licensed.mono (obeys_free refreshLiveSpaceExpiryAfterParticipantJoin_free)
          fun h'' _ (hsub' : h' ⊆ h'') => ?_).map
        exact ⟨fun _ he => hsub' (hsub he), fun _ => (hadmitted rfl).mono hsub'⟩

/-- What a join that succeeds has been told. -/
def Joins (roomId : RoomId) (userId : UserId) (h' : History)
    (result : Except AccessError JoinRoomServiceResult) : Prop :=
  ∀ joined, result = .ok joined →
    SeenRow h' joined.room ∧ joined.room.id = roomId ∧ Admitted h' joined.room userId

theorem joins_error {error : AccessError} : Joins roomId userId h (.error error) := by
  intro joined hok
  cases hok

/-- Who is in the room already needs no seat. -/
theorem obeys_unlessActive (rtcEligible : Bool) {seat : M (Except AccessError Unit)}
    {h₀ : History} (hrow : SeenRow h₀ room)
    (hseat : ∀ row, Obeys planner seat
      (Seats room userId (⟨.findRoomParticipant room.id userId, row⟩ :: h₀))
      (⟨.findRoomParticipant room.id userId, row⟩ :: h₀)) :
    Obeys planner (issue (.findRoomParticipant room.id userId) >>= fun row =>
      joined room rtcEligible <$> unlessActive row seat) (Joins room.id userId) h₀ := by
  apply obeys_issue
  · trivial
  intro row
  have hrow' : SeenRow (⟨.findRoomParticipant room.id userId, row⟩ :: h₀) room :=
    List.mem_cons_of_mem _ hrow
  apply Licensed.map
  rw [unlessActive]
  split
  · rename_i hactive
    intro result hok
    cases hok
    exact ⟨hrow', rfl, .inr (.inr (.inr ⟨row, hactive, List.mem_cons_self⟩))⟩
  · refine (hseat row).mono ?_
    rintro h' seat ⟨hsub, hadmitted⟩ result hok
    cases seat with
    | error error => cases hok
    | ok _ =>
        cases hok
        exact ⟨hrow'.mono hsub, rfl, hadmitted rfl⟩

theorem obeys_joinLobby (hrow : SeenRow h room) (hopen : SeenOpen planner h room.id) :
    Obeys planner (joinLobby room userId) (Joins room.id userId) h := by
  rw [joinLobby]
  apply obeys_unlessActive false hrow
  intro row
  exact obeys_ensureSpaceRoomParticipation (List.mem_cons_of_mem _ hrow)
    (hopen.mono (List.subset_cons_self _ _))

theorem obeys_joinLive (hrow : SeenRow h room) (hopen : SeenOpen planner h room.id) :
    Obeys planner (joinLive room userId) (Joins room.id userId) h := by
  rw [joinLive]
  apply obeys_unlessActive true hrow
  intro row
  exact obeys_ensureLiveParticipation (List.mem_cons_of_mem _ hrow)
    (hopen.mono (List.subset_cons_self _ _))

theorem obeys_enterRoom (hrow : SeenRow h room) (hopen : SeenOpen planner h room.id) :
    Obeys planner (enterRoom room userId) (Joins room.id userId) h := by
  rw [enterRoom]
  split_ifs with hlobby hhost hlive
  · exact obeys_joinLobby hrow hopen
  · apply obeys_issue
    · trivial
    intro isRestricted
    cases isRestricted with
    | true => exact joins_error
    | false =>
        exact obeys_joinLobby (List.mem_cons_of_mem _ hrow)
          (hopen.mono (List.subset_cons_self _ _))
  · exact joins_error
  · exact obeys_joinLive hrow hopen

theorem obeys_assertGuestMayAccessRoom :
    Obeys planner (assertGuestMayAccessRoom userId room) (fun h' _ => h ⊆ h') h :=
  obeys_free ⟨trivial, fun _ => trivial⟩

/-- **Joining.** -/
theorem obeys_joinRoomService :
    Obeys planner (joinRoomService userId roomId) (Joins roomId userId) h := by
  rw [joinRoomService]
  apply obeys_findRoomById
  intro found hid
  cases found with
  | none => exact joins_error
  | some room =>
      obtain rfl := hid room rfl
      apply Licensed.bind obeys_assertGuestMayAccessRoom
      intro h₁ allowed hsub₁
      cases allowed with
      | error error => exact joins_error
      | ok _ =>
          have hrow₁ : SeenRow h₁ room := hsub₁ List.mem_cons_self
          apply Licensed.bind (obeys_autoStartIfScheduled hrow₁ rfl)
          intro h₂ started hstarted
          cases started with
          | none => exact joins_error
          | some started =>
              obtain ⟨hrow₂, hid₂⟩ := hstarted started rfl
              apply Licensed.bind (obeys_assertOpen hrow₂ hid₂)
              intro h₃ entered hentered
              cases entered with
              | error error => exact joins_error
              | ok room' =>
                  obtain ⟨hrow₃, hid₃, hopen⟩ := hentered room' rfl
                  rw [← hid₃] at hopen ⊢
                  exact obeys_enterRoom hrow₃ hopen

/-! ### Tokens -/

theorem obeys_capRow {capExpiresAt : ℤ} {row : Option RoomRow}
    (hopen : SeenOpen planner h roomId) :
    Obeys planner (capRow roomId capExpiresAt row) (fun _ _ => True) h := by
  cases row with
  | none => trivial
  | some row =>
      rw [capRow]
      split
      · trivial
      · exact ⟨⟨rfl, .inr hopen⟩, fun _ => trivial⟩

/-- A cap is only set on a room that was seen live. -/
theorem obeys_syncGuestMatchRoomSessionCap :
    Obeys planner (syncGuestMatchRoomSessionCap roomId) (fun _ _ => True) h := by
  rw [syncGuestMatchRoomSessionCap]
  apply obeys_findRoomById
  intro found hid
  cases found with
  | none => trivial
  | some room =>
      obtain rfl := hid room rfl
      rw [capIfStarted]
      cases room.startedAt with
      | none => trivial
      | some startedAt =>
          show Obeys planner (capMatch room startedAt) _ _
          rw [capMatch]
          split
          · trivial
          rename_i hlive
          have hshows : ShowsOpen planner room.id ⟨.findRoom room.id {}, some room⟩ := by
            apply showsOpen_find
            intro row hrow hended
            cases hrow
            simp [hended] at hlive
          apply obeys_issue
          · trivial
          intro userIds
          apply obeys_issue
          · trivial
          intro guest
          rw [capIfGuest]
          split
          · apply obeys_findRoomById
            intro row _
            apply obeys_capRow
            refine ⟨_, ?_, hshows⟩
            exact List.mem_cons_of_mem _ (List.mem_cons_of_mem _
              (List.mem_cons_of_mem _ List.mem_cons_self))
          · trivial

theorem obeys_restartLiveSessionClockIfNoActiveParticipants :
    Obeys planner (restartLiveSessionClockIfNoActiveParticipants roomId)
      (fun h' _ => h ⊆ h') h := by
  refine (Licensed.grows (Q := fun _ _ => True) ?_).mono fun _ _ hsub => hsub.1
  rw [restartLiveSessionClockIfNoActiveParticipants]
  apply obeys_issue
  · trivial
  intro row
  cases row with
  | none => trivial
  | some row =>
      apply obeys_issue
      · trivial
      intro n
      rw [restartIfEmpty]
      split
      · trivial
      · apply obeys_issue
        · trivial
        intro now
        have hshows : ShowsOpen planner roomId ⟨.findRoom roomId { status := some .live },
            some row⟩ :=
          showsOpen_findLive
        refine ⟨⟨rfl, .inr ⟨_, ?_, hshows⟩⟩, fun _ => trivial⟩
        exact List.mem_cons_of_mem _ (List.mem_cons_of_mem _ List.mem_cons_self)

/-- What is done once a token may be issued: no seat is taken, no session
starts, and neither the restriction nor the gate is looked for again. -/
def Cmd.FollowsUp : Cmd → Prop
  | .findRoom .. | .listParticipantUserIds _ | .anyUserIdIsGuest _ | .send _ => True
  | .updateRoom _ _ (.expiry _) | .setUserActiveRtcRoom .. => True
  | _ => False

/-- Such a command keeps its licence. -/
theorem Cmd.FollowsUp.licence_mono {c : Cmd} (hc : c.FollowsUp) {h' : History} (hsub : h ⊆ h')
    (hlicence : Licence planner h c) : Licence planner h' c := by
  cases c with
  | updateRoom roomId cond change => exact ⟨hlicence.1, hlicence.2.imp_right (·.mono hsub)⟩
  | findRoom | listParticipantUserIds | anyUserIdIsGuest | send | setUserActiveRtcRoom => trivial
  | _ => exact hc.elim

theorem Cmd.FollowsUp.ne_isRoomRestrictedUser {c : Cmd} (hc : c.FollowsUp) :
    c ≠ .isRoomRestrictedUser roomId userId := by
  rintro rfl
  exact hc

theorem syncGuestMatchRoomSessionCap_followsUp :
    (syncGuestMatchRoomSessionCap roomId).Uses Cmd.FollowsUp := by
  have hcap : ∀ room : RoomRow, ∀ startedAt, (capMatch room startedAt).Uses Cmd.FollowsUp := by
    intro room startedAt
    rw [capMatch]
    split
    · trivial
    · refine ⟨trivial, fun _ => ⟨trivial, fun guest => ?_⟩⟩
      show (capIfGuest room.id startedAt guest).Uses _
      rw [capIfGuest]
      split
      · refine ⟨trivial, fun row => ?_⟩
        cases row with
        | none => trivial
        | some row =>
            show (if _ then _ else _ : M Unit).Uses _
            split
            · trivial
            · exact ⟨trivial, fun _ => trivial⟩
      · trivial
  refine ⟨trivial, fun room => ?_⟩
  cases room with
  | none => trivial
  | some room =>
      show (capIfStarted (some room)).Uses _
      rw [capIfStarted]
      split
      · trivial
      · exact hcap room _

/-- What lets a user pass to the token. -/
def Passes (h : History) (room : RoomRow) (userId : UserId) : Prop :=
  room.roomType = .direct ∨ room.hostUserId = userId ∨
    LastUnrestricted h room.id userId ∧ (isHostGated room = false ∨ SeenGateDown h room.id)

theorem Passes.append {l : History} (hpass : Passes h room userId)
    (hl : ∀ e ∈ l, e.1.FollowsUp) : Passes (l ++ h) room userId := by
  rcases hpass with hdirect | hhost | ⟨hunrestricted, hgate⟩
  · exact .inl hdirect
  · exact .inr (.inl hhost)
  · refine .inr (.inr ⟨?_, hgate.imp_right ?_⟩)
    · exact Newest.append hunrestricted fun e he => (hl e he).ne_isRoomRestrictedUser
    · rintro ⟨e, he, hlets⟩
      exact ⟨e, List.mem_append_right l he, hlets⟩

/-- A token that is returned: its user may have it, and the last command was one
of those that follow. -/
def Grants (roomId : RoomId) (userId : UserId) (h : History)
    (result : Except AccessError RtcTokenPayload) : Prop :=
  ∀ payload, result = .ok payload →
    MayEnter h roomId userId ∧ ∀ e ∈ h.head?, e.1.FollowsUp

theorem grants_error {error : AccessError} : Grants roomId userId h (.error error) := by
  intro payload hok
  cases hok

theorem finalizeRtcTokenIssue_followsUp (turns : List ℕ) :
    (finalizeRtcTokenIssue turns userId roomId room).Uses Cmd.FollowsUp := by
  refine ⟨trivial, fun _ => ⟨trivial, fun _ => ?_⟩⟩
  refine (uses_sideBySide ?_ turns).bind fun _ => trivial
  simp only [List.forall_mem_cons]
  exact ⟨⟨trivial, fun _ => trivial⟩, syncGuestMatchRoomSessionCap_followsUp,
    ⟨trivial, fun _ => trivial⟩, by simp⟩

/-- The side effects, in any order. -/
theorem obeys_sideEffects (turns : List ℕ) :
    Obeys planner (sideBySide turns [issue (.send (.consumeGuestCallTrial userId room.id)),
      syncGuestMatchRoomSessionCap room.id, issue (.setUserActiveRtcRoom userId room.id)])
      (fun _ _ => True) h := by
  have hside : AllLicensed (exec planner) (Licence planner) Cmd.FollowsUp
      [fun _ => True, fun _ => True, fun _ => True]
      [issue (.send (.consumeGuestCallTrial userId room.id)), syncGuestMatchRoomSessionCap room.id,
        issue (.setUserActiveRtcRoom userId room.id)] h := by
    refine .cons ⟨⟨trivial, fun _ => trivial⟩, trivial, fun _ => trivial⟩ (.cons ?_
      (.cons ⟨⟨trivial, fun _ => trivial⟩, trivial, fun _ => trivial⟩ .nil))
    exact ⟨syncGuestMatchRoomSessionCap_followsUp, obeys_syncGuestMatchRoomSessionCap⟩
  have hlicensed := hside.sideBySide (fun _ _ _ hc hsub => hc.licence_mono hsub) (by simp) turns
  exact hlicensed.mono fun _ _ _ => trivial

theorem obeys_finalizeRtcTokenIssue (turns : List ℕ) (hrow : SeenRow h room)
    (hpass : Passes h room userId) :
    Obeys planner (finalizeRtcTokenIssue turns userId room.id room) (Grants room.id userId) h := by
  have hfollows : (finalizeRtcTokenIssue turns userId room.id room).Uses Cmd.FollowsUp :=
    finalizeRtcTokenIssue_followsUp turns
  rw [finalizeRtcTokenIssue] at hfollows ⊢
  apply obeys_issue
  · trivial
  intro reply
  have hrest : Obeys planner (issue (.send (.roomConversationParticipant room.id userId)) >>=
      fun _ => sideBySide turns [issue (.send (.consumeGuestCallTrial userId room.id)),
        syncGuestMatchRoomSessionCap room.id, issue (.setUserActiveRtcRoom userId room.id)] >>=
      fun _ => (return .ok ⟨room.id, room.roomType⟩ : M (Except AccessError RtcTokenPayload)))
      (fun _ _ => True) (⟨.send (.roomConversation room.id room.roomType room.hostUserId), reply⟩
        :: h) :=
    obeys_issue trivial fun _ => (obeys_sideEffects turns).bind fun _ _ _ => trivial
  refine (hrest.uses (hfollows.2 reply)).mono ?_
  rintro h' _ ⟨⟨l, rfl, hl⟩, -⟩ payload -
  refine ⟨⟨room, List.mem_append_right l (List.mem_cons_of_mem _ hrow), rfl, ?_⟩, ?_⟩
  · refine (hpass.append (l := [_]) ?_).append hl
    exact List.forall_mem_singleton.mpr trivial
  · intro e he
    cases l with
    | nil =>
        cases he
        trivial
    | cons e' l =>
        cases he
        exact hl e List.mem_cons_self

theorem obeys_tokenForParticipant (turns : List ℕ) (hrow : SeenRow h room)
    (hseen : room.roomType = .direct ∨ room.hostUserId = userId ∨
      LastUnrestricted h room.id userId) :
    Obeys planner (tokenForParticipant turns userId room.id room) (Grants room.id userId) h := by
  -- where the gate has to be passed, it is looked for in one reply or in two
  have hthrough : ∀ l : History, (∀ e ∈ l, e.1 ≠ .isRoomRestrictedUser room.id userId) →
      SeenGateDown (l ++ h) room.id → Obeys planner
        (finalizeRtcTokenIssue turns userId room.id room) (Grants room.id userId) (l ++ h) := by
    intro l hl hdown
    apply obeys_finalizeRtcTokenIssue turns (List.mem_append_right l hrow)
    rcases hseen with hdirect | hhost | hunrestricted
    · exact .inl hdirect
    · exact .inr (.inl hhost)
    · exact .inr (.inr ⟨Newest.append hunrestricted hl, .inr hdown⟩)
  rw [tokenForParticipant]
  split
  · apply obeys_issue
    · trivial
    intro exists_
    cases exists_ with
    | false =>
        exact hthrough [_] (by simp) ⟨_, List.mem_cons_self, .noHash⟩
    | true =>
        apply obeys_issue
        · trivial
        intro gate
        rw [tokenThroughGate]
        split
        · exact grants_error
        · rename_i hdown
          exact hthrough [_, _] (by simp) ⟨_, List.mem_cons_self, .noGate gate hdown⟩
  · rename_i hgate
    apply obeys_finalizeRtcTokenIssue turns hrow
    rcases hseen with hdirect | hhost | hunrestricted
    · exact .inl hdirect
    · exact .inr (.inl hhost)
    · cases htype : room.roomType with
      | direct => exact .inl htype
      | space =>
          by_cases hhost : room.hostUserId = userId
          · exact .inr (.inl hhost)
          · refine .inr (.inr ⟨hunrestricted, .inl ?_⟩)
            simpa [htype, hhost, isHostGated] using hgate

theorem obeys_tokenIfUnrestricted (turns : List ℕ) (afterJoin isRestricted : Bool)
    (hrow : SeenRow h room)
    (hseen : isRestricted = false → room.roomType = .direct ∨ room.hostUserId = userId ∨
      LastUnrestricted h room.id userId) :
    Obeys planner (tokenIfUnrestricted turns userId room.id room afterJoin isRestricted)
      (Grants room.id userId) h := by
  rw [tokenIfUnrestricted]
  split_ifs with hrestricted hjoin
  · exact grants_error
  · exact obeys_tokenForParticipant turns hrow (hseen (by simpa using hrestricted))
  · apply obeys_issue
    · trivial
    intro row
    rw [tokenIfParticipant]
    split
    · apply obeys_tokenForParticipant turns (List.mem_cons_of_mem _ hrow)
      rcases hseen (by simpa using hrestricted) with hdirect | hhost | hunrestricted
      · exact .inl hdirect
      · exact .inr (.inl hhost)
      · exact .inr (.inr (Newest.cons hunrestricted (by simp)))
    · exact grants_error

theorem obeys_grantRtcToken (turns : List ℕ) (afterJoin : Bool) (hrow : SeenRow h room) :
    Obeys planner (grantRtcToken turns userId room.id afterJoin room)
      (Grants room.id userId) h := by
  rw [grantRtcToken]
  apply obeys_issue
  · trivial
  intro now
  rw [tokenIfLive]
  split_ifs with hlobby hlive hspace
  · exact grants_error
  · exact grants_error
  · apply Licensed.bind obeys_restartLiveSessionClockIfNoActiveParticipants
    intro h' _ hsub
    apply obeys_issue
    · trivial
    intro isRestricted
    apply obeys_tokenIfUnrestricted
    · exact List.mem_cons_of_mem _ (hsub (List.mem_cons_of_mem _ hrow))
    · rintro rfl
      exact .inr (.inr newest_cons)
  · apply Licensed.bind obeys_restartLiveSessionClockIfNoActiveParticipants
    intro h' _ hsub
    apply obeys_tokenIfUnrestricted
    · exact hsub (List.mem_cons_of_mem _ hrow)
    · intro _
      cases htype : room.roomType with
      | direct => exact .inl rfl
      | space =>
          refine .inr (.inl ?_)
          by_contra hhost
          exact hspace (by simp [htype, hhost])

/-- **Tokens.** The row a caller may pass on is one that was read. -/
theorem obeys_issueRtcTokenService (turns : List ℕ) (options : IssueRtcTokenOptions)
    (hroom : ∀ room ∈ options.room, SeenRow h room ∧ room.id = roomId) :
    Obeys planner (issueRtcTokenService turns userId roomId options) (Grants roomId userId) h := by
  have hfound : ∀ h' (found : Option RoomRow),
      (∀ room ∈ found, SeenRow h' room ∧ room.id = roomId) →
      Obeys planner (tokenFound turns userId roomId options.afterJoin found)
        (Grants roomId userId) h' := by
    intro h' found hseen
    cases found with
    | none => exact grants_error
    | some room =>
        obtain ⟨hrow, rfl⟩ := hseen room rfl
        rw [tokenFound]
        split
        · exact obeys_grantRtcToken turns true hrow
        · apply Licensed.bind obeys_assertGuestMayAccessRoom
          intro h₁ allowed hsub₁
          cases allowed with
          | error error => exact grants_error
          | ok _ =>
              have hrow₁ : SeenRow h₁ room := hsub₁ hrow
              apply Licensed.bind ((obeys_autoStartIfScheduled hrow₁ rfl).grows)
              rintro h₂ again ⟨hsub₂, hagain⟩
              have hrow₂ : SeenRow h₂ (again.getD room) ∧ (again.getD room).id = room.id := by
                cases again with
                | none => exact ⟨hsub₂ hrow₁, rfl⟩
                | some again => exact hagain again rfl
              apply Licensed.bind (obeys_assertOpen hrow₂.1 hrow₂.2)
              intro h₃ entered hentered
              cases entered with
              | error error => exact grants_error
              | ok room' =>
                  obtain ⟨hrow₃, hid₃, -⟩ := hentered room' rfl
                  rw [← hid₃]
                  exact obeys_grantRtcToken turns false hrow₃
  rw [issueRtcTokenService]
  cases hoptions : options.room with
  | some room => exact hfound h (some room) (hoptions ▸ hroom)
  | none =>
      apply obeys_findRoomById
      intro found hid
      apply hfound
      intro room hmem
      cases hmem
      obtain rfl := hid room rfl
      exact ⟨List.mem_cons_self, rfl⟩

end Walk

end Greetup.Rooms
