import Greetup.Spaces.Notified

/-!
Who may invite whom.

There are three ways to an invite: with a new space, with a change of a
scheduled one, and to a room that is live. Each asks for the accepted
connections of who invites and for what the invitee allows before anything is
written.
-/

namespace Greetup.Spaces

open Interleaving
open Interleaving.Prog
open Matching (Host Text)
open Rooms (UserId RoomId)

variable {ι : Type}

/-! ### The statement -/

/-- Who asked for their connections was told of one with the other. -/
def Connected (h : List SpaceTold) (inviterUserId inviteeUserId : UserId) : Prop :=
  ∃ rows, (⟨.findAcceptedPeerIdColumns inviterUserId, rows⟩ : SpaceTold) ∈ h ∧
    ((inviterUserId, inviteeUserId) ∈ rows ∨ (inviteeUserId, inviterUserId) ∈ rows)

/-- Who invites was told that the two are connected, and that the invitee allows
invites from them. -/
structure Welcomed (h : List SpaceTold) (inviterUserId inviteeUserId : UserId) : Prop where
  connected : Connected h inviterUserId inviteeUserId
  allowed : ∃ ids prefs, (⟨.getRoomInvitePreferencesForUsers ids, prefs⟩ : SpaceTold) ∈ h ∧
    inviteeUserId ∈ ids ∧
    canHostInviteUserToRoom inviterUserId (preferencesOf prefs inviteeUserId) = true

/-- The host has named the user among the invitees to the room, with a new space
or a change of a scheduled one. Whether the row of the invite is this one's or
was there already, the statement does not say. -/
def HasInvited (h : List SpaceTold) (hostUserId : UserId) (roomId : RoomId)
    (inviteeUserId : UserId) : Prop :=
  (∃ params row, (⟨.createRoomWithHostAndInvites params, row⟩ : SpaceTold) ∈ h ∧
    row.id = roomId ∧ params.hostUserId = hostUserId ∧ inviteeUserId ∈ params.inviteeUserIds) ∨
  ∃ params row ids, (⟨.updateScheduledSpaceByHost params, .ok row⟩ : SpaceTold) ∈ h ∧
    params.roomId = roomId ∧ params.hostUserId = hostUserId ∧
    params.invitedUserIds = some ids ∧ inviteeUserId ∈ ids

structure InvitedByRight [DecidableEq ι] [Host] (tasks : ι → Task) (w₀ : World)
    (sched : List ι) : Prop where
  invites : ∀ invite ∈ ((begun tasks w₀).runs exec sched).scene.world.friendInvites.rows,
    (∃ old ∈ w₀.friendInvites.rows, old.roomId = invite.roomId ∧
      old.inviteeUserId = invite.inviteeUserId ∧ old.inviterUserId = invite.inviterUserId) ∨
    invite.inviteeUserId ≠ invite.inviterUserId ∧
      ∃ i, Welcomed (((begun tasks w₀).runs exec sched).scene.told i) invite.inviterUserId
        invite.inviteeUserId
  /-- Who is told of an invite to a space is named among the invitees. -/
  told : ∀ i, ∀ e ∈ ((begun tasks w₀).runs exec sched).scene.told i, ∀ input,
    e.1 = .createNotification input → input.type = .spaceInviteReceived →
      HasInvited (((begun tasks w₀).runs exec sched).scene.told i) input.actorUserId
        input.entityId input.recipientUserId
  /-- Who is told that a space has started is tied to it, and is not the host. -/
  started : ∀ i, ∀ e ∈ ((begun tasks w₀).runs exec sched).scene.told i, ∀ input,
    e.1 = .createNotification input → input.type = .spaceStarted →
      input.recipientUserId ≠ input.actorUserId ∧ ∃ ids, input.recipientUserId ∈ ids ∧
        ((⟨.listActiveFriendInviteeUserIds input.entityId, ids⟩ : SpaceTold) ∈
            ((begun tasks w₀).runs exec sched).scene.told i ∨
          (⟨.listActiveParticipantUserIds input.entityId, ids⟩ : SpaceTold) ∈
            ((begun tasks w₀).runs exec sched).scene.told i)

/-! ### Licences -/

/-- Each of the invitees may be invited. -/
def MayInvite (h : List SpaceTold) (inviterUserId : UserId) (inviteeIds : List UserId) : Prop :=
  ∀ id ∈ inviteeIds, id ≠ inviterUserId ∧ Welcomed h inviterUserId id

/-- Of those who are told that a space has started. -/
def Tied (h : List SpaceTold) (roomId : RoomId) (userId : UserId) : Prop :=
  ∃ ids, userId ∈ ids ∧ ((⟨.listActiveFriendInviteeUserIds roomId, ids⟩ : SpaceTold) ∈ h ∨
    (⟨.listActiveParticipantUserIds roomId, ids⟩ : SpaceTold) ∈ h)

def Licence (h : List SpaceTold) : Cmd → Prop
  | .createRoomWithHostAndInvites params => MayInvite h params.hostUserId params.inviteeUserIds
  | .updateScheduledSpaceByHost params =>
      ∀ ids, params.invitedUserIds = some ids → MayInvite h params.hostUserId ids
  | .upsertPendingFriendInvite _ inviterUserId inviteeUserId =>
      inviteeUserId ≠ inviterUserId ∧ Welcomed h inviterUserId inviteeUserId
  | .createNotification input =>
      (input.type = .spaceInviteReceived →
        HasInvited h input.actorUserId input.entityId input.recipientUserId) ∧
      (input.type = .spaceStarted → input.recipientUserId ≠ input.actorUserId ∧
        Tied h input.entityId input.recipientUserId)
  | _ => True

section Mono

variable {h h' : List SpaceTold} (hsub : h ⊆ h')

include hsub

theorem Welcomed.mono {inviterUserId inviteeUserId : UserId}
    (hw : Welcomed h inviterUserId inviteeUserId) : Welcomed h' inviterUserId inviteeUserId := by
  obtain ⟨⟨rows, hrows, hmem⟩, ids, prefs, hprefs, hid, hcan⟩ := hw
  exact ⟨⟨rows, hsub hrows, hmem⟩, ids, prefs, hsub hprefs, hid, hcan⟩

theorem HasInvited.mono {hostUserId inviteeUserId : UserId} {roomId : RoomId}
    (hi : HasInvited h hostUserId roomId inviteeUserId) :
    HasInvited h' hostUserId roomId inviteeUserId := by
  rcases hi with ⟨params, row, hmem, hrest⟩ | ⟨params, row, ids, hmem, hrest⟩
  · exact .inl ⟨params, row, hsub hmem, hrest⟩
  · exact .inr ⟨params, row, ids, hsub hmem, hrest⟩

theorem Tied.mono {roomId : RoomId} {userId : UserId} (ht : Tied h roomId userId) :
    Tied h' roomId userId := by
  obtain ⟨ids, hid, hmem⟩ := ht
  exact ⟨ids, hid, hmem.imp (fun h => hsub h) fun h => hsub h⟩

theorem MayInvite.mono {inviterUserId : UserId} {inviteeIds : List UserId}
    (hm : MayInvite h inviterUserId inviteeIds) : MayInvite h' inviterUserId inviteeIds :=
  fun id hid => ⟨(hm id hid).1, (hm id hid).2.mono hsub⟩

theorem Licence.mono {c : Cmd} (hc : Licence h c) : Licence h' c := by
  cases c with
  | createRoomWithHostAndInvites => exact MayInvite.mono hsub hc
  | updateScheduledSpaceByHost => exact fun ids hids => (hc ids hids).mono hsub
  | upsertPendingFriendInvite => exact ⟨hc.1, hc.2.mono hsub⟩
  | createNotification =>
      exact ⟨fun htype => (hc.1 htype).mono hsub, fun htype =>
        ⟨(hc.2 htype).1, (hc.2 htype).2.mono hsub⟩⟩
  | _ => trivial

end Mono

/-- Neither invites nor tells. -/
def Cmd.Free : Cmd → Prop
  | .createRoomWithHostAndInvites _ | .updateScheduledSpaceByHost _
  | .upsertPendingFriendInvite _ _ _ | .createNotification _ => False
  | _ => True

theorem Cmd.Plain.free {c : Cmd} (hc : c.Plain) : c.Free := by
  cases c with
  | createRoomWithHostAndInvites | updateScheduledSpaceByHost | upsertPendingFriendInvite
  | createNotification => exact hc.elim
  | _ => trivial

theorem Cmd.Free.licence {h : List SpaceTold} {c : Cmd} (hc : c.Free) : Licence h c := by
  cases c with
  | createRoomWithHostAndInvites | updateScheduledSpaceByHost | upsertPendingFriendInvite
  | createNotification => exact hc.elim
  | _ => trivial

section Programs

variable {ε α β : Type} {h h₀ : List SpaceTold}

/-- A program that neither invites nor tells. -/
theorem licensed_of_free {p : SpaceM α} (hp : p.Uses Cmd.Free) :
    p.Licensed exec Licence (fun h' _ => h ⊆ h') h :=
  hp.licensed_of_subset (fun _ _ _ hc => hc.licence) (List.Subset.refl h)

theorem licensed_of_plain {p : SpaceM α} (hp : p.Uses Cmd.Plain) :
    p.Licensed exec Licence (fun h' _ => h ⊆ h') h :=
  licensed_of_free (hp.mono fun _ hc => hc.free)

/-- What throws, and what goes on. -/
theorem licensed_andThen {p : SpaceM (Except ε α)} {f : α → SpaceM (Except ε β)}
    {Q : List SpaceTold → α → Prop}
    (hp : p.Licensed exec Licence (fun h' r => ∀ a, r = .ok a → Q h' a) h)
    (hf : ∀ h' a, h ⊆ h' → Q h' a → (f a).Licensed exec Licence (fun _ _ => True) h') :
    (andThen p f).Licensed exec Licence (fun _ _ => True) h := by
  refine hp.grows.bind fun h' result hresult => ?_
  cases result with
  | error error => trivial
  | ok a => exact hf h' a hresult.1 (hresult.2 a rfl)

/-! ### Telling -/

theorem licensed_dispatchNotification {input : CreateNotificationInput}
    (hlic : Licence h (.createNotification input)) :
    (dispatchNotification input).Licensed exec Licence (fun _ _ => True) h := by
  refine ⟨hlic, fun w => ?_⟩
  cases hcreated : (w.createNotification input).1 with
  | none =>
      simp only [exec, hcreated]
      trivial
  | some created =>
      simp only [exec, hcreated]
      exact ⟨trivial, fun _ => trivial⟩

theorem licensed_notifySpaceInviteReceived {recipientUserId actorUserId : UserId} {roomId : RoomId}
    {roomTitle : String} (hinvited : HasInvited h actorUserId roomId recipientUserId) :
    (notifySpaceInviteReceived recipientUserId actorUserId roomId roomTitle).Licensed exec Licence
      (fun _ _ => True) h := by
  refine ⟨trivial, fun w => licensed_dispatchNotification ⟨fun _ => ?_, fun htype => ?_⟩⟩
  · exact hinvited.mono (List.subset_cons_self _ _)
  · cases htype

theorem licensed_notifySpaceStarted {recipientUserId actorUserId : UserId} {roomId : RoomId}
    {roomTitle : String} (hne : recipientUserId ≠ actorUserId)
    (htied : Tied h roomId recipientUserId) :
    (notifySpaceStarted recipientUserId actorUserId roomId roomTitle).Licensed exec Licence
      (fun _ _ => True) h := by
  refine ⟨trivial, fun w => licensed_dispatchNotification ⟨fun htype => ?_, fun _ => ?_⟩⟩
  · cases htype
  · exact ⟨hne, htied.mono (List.subset_cons_self _ _)⟩

theorem licensed_together {ps : List (SpaceM α)}
    (hps : ∀ p ∈ ps, p.Licensed exec Licence (fun _ _ => True) h) (turns : List ℕ) :
    (together turns ps).Licensed exec Licence (fun _ _ => True) h := by
  have heach : EachLicensed exec Licence (fun _ => True)
      (List.replicate ps.length fun _ _ => True) ps h := by
    induction ps with
    | nil => exact .nil
    | cons p ps ih =>
        obtain ⟨hp, hps⟩ := List.forall_mem_cons.mp hps
        exact .cons ⟨uses_true p, hp⟩ (ih hps)
  refine (heach.together (fun _ _ _ _ hsub hc => hc.mono hsub) (fun q hq => ?_) turns).mono
    fun _ _ _ => trivial
  rw [List.eq_of_mem_replicate hq]
  exact fun _ _ _ _ _ => trivial

theorem licensed_notifySpaceStartedToAssociatedUsers (roomId : RoomId) (hostUserId : UserId)
    (roomTitle : String) (turns : List ℕ) :
    (notifySpaceStartedToAssociatedUsers roomId hostUserId roomTitle turns).Licensed exec Licence
      (fun _ _ => True) h := by
  have hlists : EachLicensed exec Licence (fun _ => True)
      [fun h ids => (⟨.listActiveFriendInviteeUserIds roomId, ids⟩ : SpaceTold) ∈ h,
        fun h ids => (⟨.listActiveParticipantUserIds roomId, ids⟩ : SpaceTold) ∈ h]
      [issue (.listActiveFriendInviteeUserIds roomId),
        issue (.listActiveParticipantUserIds roomId)] h :=
    .cons ⟨uses_true _, trivial, fun _ => List.mem_cons_self⟩
      (.cons ⟨uses_true _, trivial, fun _ => List.mem_cons_self⟩ .nil)
  refine (hlists.together (fun _ _ _ _ hsub hc => hc.mono hsub) (fun q hq h h' ids hsub hmem => ?_)
    turns).bind fun h' lists hall => ?_
  · rw [List.mem_cons, List.mem_singleton] at hq
    rcases hq with rfl | rfl <;> exact hsub hmem
  · rcases hall with _ | @⟨_, inviteeUserIds, _, _, hinvitees, hall⟩
    rcases hall with _ | @⟨_, participantUserIds, _, _, hparticipants, hall⟩
    cases hall
    refine (licensed_together (fun p hp => ?_) turns).bind fun _ _ _ => trivial
    obtain ⟨recipientUserId, hmem, rfl⟩ := List.mem_map.mp hp
    obtain ⟨hne, htied⟩ := mem_collectSpaceStartedRecipientUserIds hmem
    refine licensed_notifySpaceStarted hne ?_
    rcases htied with hin | hin
    · exact ⟨inviteeUserIds, hin, .inl hinvitees⟩
    · exact ⟨participantUserIds, hin, .inr hparticipants⟩

theorem licensed_notifyInvitees {hostUserId : UserId} {roomId : RoomId} {roomTitle : String}
    {beforePending inviteeIds : List UserId}
    (hinvited : ∀ id ∈ inviteeIds, HasInvited h hostUserId roomId id) :
    (notifyInvitees hostUserId roomId roomTitle beforePending inviteeIds).Licensed exec Licence
      (fun _ _ => True) h := by
  induction inviteeIds generalizing h with
  | nil => trivial
  | cons inviteeUserId rest ih =>
      obtain ⟨hfirst, hrest⟩ := List.forall_mem_cons.mp hinvited
      rw [notifyInvitees]
      split
      · exact ih hrest
      · refine (licensed_notifySpaceInviteReceived hfirst).grows.bind fun h' _ hgrown => ?_
        exact ih fun id hid => (hrest id hid).mono hgrown.1

/-! ### Asking -/

theorem Connected.mono {h' : List SpaceTold} {inviterUserId inviteeUserId : UserId}
    (hc : Connected h inviterUserId inviteeUserId) (hsub : h ⊆ h') :
    Connected h' inviterUserId inviteeUserId := by
  obtain ⟨rows, hrows, hmem⟩ := hc
  exact ⟨rows, hsub hrows, hmem⟩

/-- Who is among the peers is at the other end of a row. -/
theorem connected_of_mem_peers {userId peerUserId : UserId} {w : World}
    (hmem : peerUserId ∈ (exec (.findAcceptedPeerIdColumns userId) w).1.map
      fun row => if row.1 = userId then row.2 else row.1) :
    Connected (⟨.findAcceptedPeerIdColumns userId,
      (exec (.findAcceptedPeerIdColumns userId) w).1⟩ :: h) userId peerUserId := by
  refine ⟨_, List.mem_cons_self, ?_⟩
  obtain ⟨⟨a, b⟩, hrow, heq⟩ := List.mem_map.mp hmem
  have hside : a = userId ∨ b = userId := by
    have hkeep := (List.mem_filter.mp hrow).2
    simpa using hkeep
  by_cases ha : a = userId
  · subst ha
    rw [if_pos rfl] at heq
    subst heq
    exact .inl hrow
  · rw [if_neg ha] at heq
    subst heq
    rw [hside.resolve_left ha] at hrow
    exact .inr hrow

theorem licensed_resolveValidatedInviteeIds (hostUserId : UserId) (invitedUserIds : List String) :
    (resolveValidatedInviteeIds hostUserId invitedUserIds).Licensed exec Licence
      (fun h' r => ∀ ids, r = .ok ids → ∀ id ∈ ids, id ≠ hostUserId ∧ Connected h' hostUserId id)
      h := by
  rw [resolveValidatedInviteeIds]
  split
  · intro ids hids
    cases hids
    exact fun id hid => absurd hid List.not_mem_nil
  · refine ⟨trivial, fun w => ?_⟩
    show Prog.Licensed exec _ _ (if _ = true then _ else _) _
    split
    · rename_i hall
      intro ids hids id hid
      cases hids
      refine ⟨?_, connected_of_mem_peers ?_⟩
      · rintro rfl
        exact host_notMem_normalizeInviteeIds _ _ hid
      · exact List.contains_iff_mem.mp (List.all_eq_true.mp hall id hid)
    · intro ids hids
      cases hids

theorem licensed_assertInviteesAllowRoomInvitesFromHost {hostUserId : UserId}
    {inviteeIds : List UserId}
    (hconnected : ∀ id ∈ inviteeIds, id ≠ hostUserId ∧ Connected h hostUserId id) :
    (assertInviteesAllowRoomInvitesFromHost hostUserId inviteeIds).Licensed exec Licence
      (fun h' r => ∀ u, r = .ok u → MayInvite h' hostUserId inviteeIds) h := by
  rw [assertInviteesAllowRoomInvitesFromHost]
  split
  · rename_i hnil
    subst hnil
    exact fun _ _ id hid => absurd hid List.not_mem_nil
  · refine ⟨trivial, fun w => ?_⟩
    show Prog.Licensed exec _ _ (if _ = true then _ else _) _
    split
    · rename_i hall
      intro _ _ id hid
      obtain ⟨hne, hc⟩ := hconnected id hid
      refine ⟨hne, hc.mono (List.subset_cons_self _ _), inviteeIds, _, List.mem_cons_self, hid, ?_⟩
      exact List.all_eq_true.mp hall id hid
    · intro _ hok
      cases hok

theorem licensed_wrapInviteErrors {p : SpaceM (Except SpaceError α)}
    {Q : List SpaceTold → α → Prop}
    (hp : p.Licensed exec Licence (fun h' r => ∀ a, r = .ok a → Q h' a) h) :
    (wrapInviteErrors p).Licensed exec Licence (fun h' r => ∀ a, r = .ok a → Q h' a) h := by
  refine Licensed.map (hp.mono fun h' r hr a ha => ?_)
  cases r with
  | error error => cases ha
  | ok b =>
      cases ha
      exact hr a rfl

/-- As `licensed_andThen`, with what the whole ends in. -/
theorem licensed_andThen_ok {p : SpaceM (Except ε α)} {f : α → SpaceM (Except ε β)}
    {Q : List SpaceTold → α → Prop} {T : List SpaceTold → β → Prop}
    (hp : p.Licensed exec Licence (fun h' r => ∀ a, r = .ok a → Q h' a) h)
    (hf : ∀ h' a, Q h' a → (f a).Licensed exec Licence (fun h'' r => ∀ b, r = .ok b → T h'' b) h') :
    (andThen p f).Licensed exec Licence (fun h' r => ∀ b, r = .ok b → T h' b) h := by
  refine hp.bind fun h' result hresult => ?_
  cases result with
  | error error =>
      intro b hb
      cases hb
  | ok a => exact hf h' a (hresult a rfl)

theorem licensed_validateInvitees (hostUserId : UserId) (nextMaxParticipants : ℕ)
    (invitedUserIds : Option (List String)) :
    (validateInvitees hostUserId nextMaxParticipants invitedUserIds).Licensed exec Licence
      (fun h' r => ∀ inviteeIds, r = .ok inviteeIds →
        ∀ ids, inviteeIds = some ids → MayInvite h' hostUserId ids) h := by
  cases invitedUserIds with
  | none =>
      intro inviteeIds hok ids hids
      cases hok
      cases hids
  | some invitedUserIds =>
      rw [validateInvitees]
      split
      · intro inviteeIds hok
        cases hok
      · refine licensed_andThen_ok (licensed_wrapInviteErrors
          (licensed_resolveValidatedInviteeIds hostUserId invitedUserIds)) fun h' ids hids => ?_
        refine licensed_andThen_ok (licensed_wrapInviteErrors
          (licensed_assertInviteesAllowRoomInvitesFromHost hids)) fun h'' _ hmay => ?_
        intro inviteeIds hok ids' hids'
        cases hok
        cases hids'
        exact hmay

/-! ### The services -/

theorem licensed_tellInvitees {hostUserId : UserId} {row : SpaceRow} {roomTitle : String}
    {inviteeIds : List UserId} {turns : List ℕ}
    (hinvited : ∀ id ∈ inviteeIds, HasInvited h hostUserId row.id id) :
    (tellInvitees hostUserId row roomTitle inviteeIds turns).Licensed exec Licence
      (fun _ _ => True) h := by
  rw [tellInvitees]
  split
  · trivial
  · split
    · exact licensed_notifySpaceStartedToAssociatedUsers _ _ _ _
    · refine (licensed_together (fun p hp => ?_) turns).bind fun _ _ _ => trivial
      obtain ⟨inviteeUserId, hmem, rfl⟩ := List.mem_map.mp hp
      exact licensed_notifySpaceInviteReceived (hinvited inviteeUserId hmem)

theorem licensed_writeSpace {hostUserId : UserId} {body : CreateSpaceBody} {code : String}
    {turns : List ℕ} {now : ℤ} {inviteeIds : List UserId}
    (hmay : MayInvite h hostUserId inviteeIds) :
    (writeSpace hostUserId body code turns now inviteeIds).Licensed exec Licence
      (fun _ _ => True) h := by
  refine ⟨hmay, fun w => ?_⟩
  refine (licensed_of_plain (uses_provisionIfLive _ _)).bind fun h' _ hsub => ?_
  refine (licensed_tellInvitees fun id hid => ?_).bind fun _ _ _ => trivial
  exact .inl ⟨_, _, hsub List.mem_cons_self, rfl, rfl, hid⟩

theorem licensed_createSpaceService [Host] (hostUserId : UserId) (body : CreateSpaceBody)
    (code : String) (turns : List ℕ) :
    (createSpaceService hostUserId body code turns).Licensed exec Licence (fun _ _ => True) h := by
  refine ⟨trivial, fun w => ?_⟩
  cases (exec (.findActiveCategoryById body.categoryId) w).1 with
  | none => trivial
  | some category =>
      show Prog.Licensed exec _ _ (if _ = true then _ else _) _
      split
      · trivial
      · refine ⟨trivial, fun w' => ?_⟩
        show Prog.Licensed exec _ _ (if _ ∧ _ then _ else _) _
        split
        · trivial
        · refine licensed_andThen (licensed_resolveValidatedInviteeIds _ _)
            fun h' inviteeIds _ hids => ?_
          split
          · trivial
          · exact licensed_andThen (licensed_assertInviteesAllowRoomInvitesFromHost hids)
              fun h'' _ _ hmay => Licensed.map (licensed_writeSpace hmay)

theorem licensed_writeScheduledSpace {hostUserId : UserId} {room : SpaceRow}
    {body : UpdateScheduledSpaceBody} {code : String} {inviteeIds : Option (List UserId)}
    (hmay : ∀ ids, inviteeIds = some ids → MayInvite h hostUserId ids) :
    (writeScheduledSpace hostUserId room body code inviteeIds).Licensed exec Licence
      (fun _ _ => True) h := by
  refine ⟨trivial, fun w => ⟨fun ids hids => ?_, fun w' => ?_⟩⟩
  · exact (hmay ids hids).mono (List.subset_cons_self _ _)
  · cases hupdate : (exec (.updateScheduledSpaceByHost
        (body.params hostUserId room code inviteeIds)) w').1 with
    | error refusal => trivial
    | ok row =>
        refine (licensed_notifyInvitees fun id hid => ?_).bind fun _ _ _ => trivial
        cases inviteeIds with
        | none => exact absurd hid List.not_mem_nil
        | some ids => exact .inr ⟨_, row, ids, List.mem_cons_self, rfl, rfl, rfl, hid⟩

theorem licensed_updateScheduledSpaceService [Host] (hostUserId : UserId) (roomId : RoomId)
    (body : UpdateScheduledSpaceBody) (code : String) :
    (updateScheduledSpaceService hostUserId roomId body code).Licensed exec Licence
      (fun _ _ => True) h := by
  refine ⟨trivial, fun w => ?_⟩
  cases (exec (.findRoomById roomId) w).1 with
  | none => trivial
  | some room =>
      show Prog.Licensed exec _ _ (if _ ∨ _ ∨ _ then _ else _) _
      split
      · trivial
      · refine licensed_andThen (Q := fun _ _ => True)
          ((licensed_of_plain (uses_validateCategory _)).mono fun _ _ _ _ _ => trivial)
          fun h' _ _ _ => ?_
        exact licensed_andThen (licensed_validateInvitees _ _ _) fun h'' inviteeIds _ hmay =>
          licensed_writeScheduledSpace hmay

theorem licensed_assertConnected (inviterUserId inviteeUserId : UserId) :
    (assertConnected inviterUserId inviteeUserId).Licensed exec Licence
      (fun h' r => ∀ u, r = .ok u → Welcomed h' inviterUserId inviteeUserId) h := by
  refine ⟨trivial, fun w => ?_⟩
  show Prog.Licensed exec _ _ (if _ = true then _ else _) _
  split
  · rename_i hpeers
    refine ⟨trivial, fun w' => ?_⟩
    show Prog.Licensed exec _ _ (if _ = true then _ else _) _
    split
    · rename_i hcan
      intro _ _
      have hconnected := connected_of_mem_peers (h := h) (List.contains_iff_mem.mp hpeers)
      exact ⟨hconnected.mono (List.subset_cons_self _ _), [inviteeUserId], _, List.mem_cons_self,
        List.mem_singleton_self _, hcan⟩
    · intro _ hok
      cases hok
  · intro _ hok
    cases hok

theorem licensed_sendRoomInvite {inviterUserId inviteeUserId : UserId} {room : SpaceRow}
    (hne : inviteeUserId ≠ inviterUserId) (hw : Welcomed h inviterUserId inviteeUserId) :
    (sendRoomInvite inviterUserId room inviteeUserId).Licensed exec Licence
      (fun _ _ => True) h := by
  have hemit (h' : List SpaceTold) : ((.ok : Unit → Except SpaceError Unit) <$>
      emitInviteSocket room.id inviterUserId inviteeUserId room.title).Licensed exec Licence
        (fun _ _ => True) h' :=
    Licensed.map ((licensed_of_plain (uses_emitInviteSocket _ _ _ _)).mono fun _ _ _ => trivial)
  refine ⟨trivial, fun w => ?_⟩
  show Prog.Licensed exec _ _ (if _ = true then _ else _) _
  split
  · trivial
  · refine ⟨trivial, fun w' => ?_⟩
    show Prog.Licensed exec _ _ (if _ = true then _ else _) _
    split
    · exact hemit _
    · refine ⟨⟨hne, hw.mono ?_⟩, fun _ => hemit _⟩
      exact fun e he => List.mem_cons_of_mem _ (List.mem_cons_of_mem _ he)

theorem licensed_createRoomInviteService (inviterUserId : UserId) (roomId : RoomId)
    (inviteeUserId : UserId) :
    (createRoomInviteService inviterUserId roomId inviteeUserId).Licensed exec Licence
      (fun _ _ => True) h := by
  rw [createRoomInviteService]
  split
  · trivial
  · rename_i hne
    refine ⟨trivial, fun w => ?_⟩
    cases (exec (.findRoomById roomId) w).1 with
    | none => trivial
    | some room =>
        show Prog.Licensed exec _ _ (if room.status ≠ .live then _ else _) _
        split
        · trivial
        · refine ⟨trivial, fun w' => ?_⟩
          show Prog.Licensed exec _ _ (if _ = true then _ else _) _
          split
          · refine licensed_andThen (licensed_assertConnected _ _) fun h' _ _ hw => ?_
            refine licensed_andThen (Q := fun h'' _ => Welcomed h'' inviterUserId inviteeUserId)
              ((licensed_of_plain (uses_assertReachable _ _)).mono
                fun _ _ hsub _ _ => hw.mono hsub) fun h'' _ _ hw' => ?_
            exact licensed_sendRoomInvite hne hw'
          · trivial

theorem licensed_deleteScheduledSpaceService (hostUserId : UserId) (roomId : RoomId) :
    (deleteScheduledSpaceService hostUserId roomId).Licensed exec Licence (fun _ _ => True) h := by
  refine ⟨trivial, fun w => ?_⟩
  show Prog.Licensed exec _ _ (if _ = true then _ else _) _
  split <;> trivial

/-- A notification that is not about a space. -/
theorem licensed_notifyConnection {actorUserId : UserId} {nameFallback : String}
    {build : String → CreateNotificationInput} {type : NotificationType}
    (hbuild : ∀ name, (build name).type = type)
    (hother : type ≠ .spaceInviteReceived ∧ type ≠ .spaceStarted) :
    (dispatchNotificationWithActor actorUserId nameFallback build).Licensed exec Licence
      (fun _ _ => True) h := by
  refine ⟨trivial, fun w => licensed_dispatchNotification ⟨fun htype => ?_, fun htype => ?_⟩⟩
  · exact absurd ((hbuild _).symm.trans htype) hother.1
  · exact absurd ((hbuild _).symm.trans htype) hother.2

theorem licensed_program [Host] (task : Task) :
    task.program.Licensed exec Licence (fun _ _ => True) h := by
  cases task with
  | createSpace => exact Licensed.map (licensed_createSpaceService _ _ _ _)
  | updateScheduledSpace => exact Licensed.map (licensed_updateScheduledSpaceService _ _ _ _)
  | deleteScheduledSpace => exact Licensed.map (licensed_deleteScheduledSpaceService _ _)
  | createRoomInvite => exact Licensed.map (licensed_createRoomInviteService _ _ _)
  | spaceStarted => exact Licensed.map (licensed_notifySpaceStartedToAssociatedUsers _ _ _ _)
  | connectionRequestReceived | connectionRequestAccepted =>
      exact Licensed.map (licensed_notifyConnection (fun _ => rfl) ⟨by decide, by decide⟩)
  | _ => exact ⟨trivial, fun _ => trivial⟩

end Programs

/-! ### Rows -/

/-- The command may write an invite of one to the other. -/
def Cmd.invites (inviterUserId inviteeUserId : UserId) : Cmd → Prop
  | .createRoomWithHostAndInvites params =>
      params.hostUserId = inviterUserId ∧ inviteeUserId ∈ params.inviteeUserIds
  | .updateScheduledSpaceByHost params => params.hostUserId = inviterUserId ∧
      ∃ ids, params.invitedUserIds = some ids ∧ inviteeUserId ∈ ids
  | .upsertPendingFriendInvite _ inviter invitee =>
      inviter = inviterUserId ∧ invitee = inviteeUserId
  | _ => False

theorem Licence.of_invites {h : List SpaceTold} {c : Cmd} {inviterUserId inviteeUserId : UserId}
    (hlic : Licence h c) (hinvites : c.invites inviterUserId inviteeUserId) :
    inviteeUserId ≠ inviterUserId ∧ Welcomed h inviterUserId inviteeUserId := by
  cases c with
  | createRoomWithHostAndInvites params =>
      obtain ⟨rfl, hmem⟩ := hinvites
      exact hlic _ hmem
  | updateScheduledSpaceByHost params =>
      obtain ⟨rfl, ids, hids, hmem⟩ := hinvites
      exact hlic ids hids _ hmem
  | upsertPendingFriendInvite =>
      obtain ⟨rfl, rfl⟩ := hinvites
      exact hlic
  | _ => exact hinvites.elim

theorem mem_insertPending {roomId : RoomId} {inviterUserId : UserId} {ids : List UserId}
    {invites : FriendInviteTable} {invite : FriendInvite}
    (h : invite ∈ (insertPending roomId inviterUserId ids invites).rows) :
    invite ∈ invites.rows ∨ invite.inviterUserId = inviterUserId ∧ invite.inviteeUserId ∈ ids := by
  induction ids generalizing invites with
  | nil => exact .inl h
  | cons inviteeUserId ids ih =>
      rcases ih h with hmem | ⟨hinviter, hin⟩
      · rcases Sql.Table.mem_insert hmem with rfl | hold | ⟨row, hold, -, rfl⟩
        · exact .inr ⟨rfl, List.mem_cons_self⟩
        · exact .inl hold
        · exact .inl hold
      · exact .inr ⟨hinviter, List.mem_cons_of_mem _ hin⟩

/-- The row is one of those, but for its status. -/
def IsOld (invites : FriendInviteTable) (invite : FriendInvite) : Prop :=
  ∃ old ∈ invites.rows, old.roomId = invite.roomId ∧
    old.inviteeUserId = invite.inviteeUserId ∧ old.inviterUserId = invite.inviterUserId

theorem IsOld.of_mem {invites : FriendInviteTable} {invite : FriendInvite}
    (h : invite ∈ invites.rows) : IsOld invites invite := ⟨invite, h, rfl, rfl, rfl⟩

/-- Where the rows of a step come from. -/
theorem mem_friendInvites_exec {c : Cmd} {w : World} {invite : FriendInvite}
    (h : invite ∈ (exec c w).2.friendInvites.rows) :
    IsOld w.friendInvites invite ∨ c.invites invite.inviterUserId invite.inviteeUserId := by
  cases c with
  | createRoomWithHostAndInvites params =>
      rcases mem_insertPending h with hmem | ⟨hinviter, hin⟩
      · exact .inl (.of_mem hmem)
      · exact .inr ⟨hinviter.symm, hin⟩
  | updateScheduledSpaceByHost params =>
      replace h : invite ∈ (w.updateScheduledSpaceByHost params).2.friendInvites.rows := h
      rw [World.updateScheduledSpaceByHost] at h
      split at h
      · exact .inl (.of_mem h)
      · split at h
        · exact .inl (.of_mem h)
        · cases hids : params.invitedUserIds with
          | none =>
              rw [hids] at h
              exact .inl (.of_mem h)
          | some ids =>
              rw [hids] at h
              rcases mem_insertPending h with hmem | ⟨hinviter, hin⟩
              · exact .inl (.of_mem (Sql.Table.mem_of_mem_delete hmem))
              · exact .inr ⟨hinviter.symm, ids, hids, hin⟩
  | upsertPendingFriendInvite =>
      rcases Sql.Table.mem_insert h with rfl | hold | ⟨row, hold, hkey, rfl⟩
      · exact .inr ⟨rfl, rfl⟩
      · exact .inl (.of_mem hold)
      · exact .inr ⟨rfl, (congrArg Prod.snd hkey).symm⟩
  | answerInvite =>
      obtain ⟨old, hold, rfl⟩ := List.mem_map.mp h
      refine .inl ⟨old, hold, ?_⟩
      split <;> exact ⟨rfl, rfl, rfl⟩
  | createNotification input =>
      replace h : invite ∈ (w.createNotification input).2.friendInvites.rows := h
      rw [World.createNotification] at h
      split at h <;> exact .inl (.of_mem h)
  | _ => exact .inl (.of_mem h)

/-! ### In a run with others -/

variable [DecidableEq ι]

/-- The row was there at the beginning, or its inviter had the right to it. -/
def Righted (w₀ : World) (s : SpaceScene ι) (invite : FriendInvite) : Prop :=
  IsOld w₀.friendInvites invite ∨ invite.inviteeUserId ≠ invite.inviterUserId ∧
    ∃ i, Welcomed (s.told i) invite.inviterUserId invite.inviteeUserId

structure Kept (w₀ : World) (s : SpaceScene ι) : Prop where
  lawful : s.Lawful fun _ => Licence
  righted : ∀ invite ∈ s.world.friendInvites.rows, Righted w₀ s invite

theorem Kept.after {w₀ : World} {s : SpaceScene ι} {i : ι} {c : Cmd} (h : Kept w₀ s)
    (hlic : Licence (s.told i) c) : Kept w₀ (s.after exec i c) where
  lawful := .after (fun _ _ _ _ hsub hc => Licence.mono hsub hc) h.lawful hlic
  righted invite hmem := by
    rw [Scene.after_world] at hmem
    rcases mem_friendInvites_exec hmem with ⟨row, hrow, hroom, hinvitee, hinviter⟩ | hinvites
    · have hrighted := h.righted row hrow
      rw [Righted, IsOld, hroom, hinvitee, hinviter] at hrighted
      refine hrighted.imp_right ?_
      rintro ⟨hne, j, hw⟩
      exact ⟨hne, j, hw.mono (Scene.told_subset_after exec)⟩
    · obtain ⟨hne, hw⟩ := hlic.of_invites hinvites
      exact .inr ⟨hne, i, hw.mono (Scene.told_subset_after exec)⟩

/-- **Nobody invites a stranger.** However requests to create and to change
spaces and to invite to rooms run into each other, every invite that a run has
written is of somebody else with whom its inviter was told to be connected, and
who, as the inviter was told, allows it. Of an invite to a space hear those whom
the request names, and that it has started those who are tied to it. -/
theorem invitedByRight [Host] (tasks : ι → Task) (w₀ : World) (sched : List ι) :
    InvitedByRight tasks w₀ sched := by
  have hlic : (begun tasks w₀).Licensed exec (fun _ => Licence) (fun _ _ _ => True) :=
    fun i => licensed_program (tasks i)
  have hstart : Kept w₀ (begun tasks w₀).scene := by
    refine ⟨fun _ e he => ?_, fun invite hmem => .inl (.of_mem hmem)⟩
    cases he
  have hkept : Kept w₀ ((begun tasks w₀).runs exec sched).scene :=
    hlic.runs_inv (fun s i c hs hc _ => hs.after hc) hstart
      (Conf.meets_of_forall exec (P := fun _ _ _ => True) (fun _ _ _ => trivial) _ sched)
  refine ⟨hkept.righted, fun i e he input hinput htype => ?_, fun i e he input hinput htype => ?_⟩
  · have hlawful := hkept.lawful i e he
    rw [hinput] at hlawful
    exact hlawful.1 htype
  · have hlawful := hkept.lawful i e he
    rw [hinput] at hlawful
    exact hlawful.2 htype

end Greetup.Spaces
