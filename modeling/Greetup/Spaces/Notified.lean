import Greetup.Interleaving.Debts
import Greetup.Spaces.Service

/-!
Nobody is told twice.

The unique index on the key of a notification decides who writes the row, and
who has written it announces it. However many requests want to tell somebody of
the same thing at the same time, one event goes out, and when all of them have
returned it has gone out for every row.
-/

namespace Greetup.Spaces

open Interleaving
open Interleaving.Prog
open Matching (Host Text)
open Rooms (UserId RoomId)

abbrev SpaceTold : Type := Told Cmd Cmd.Reply

abbrev SpaceScene (ι : Type) : Type := Scene ι Cmd Cmd.Reply World

variable {ι : Type} {key : DedupeKey}

/-! ### The statement -/

def Cmd.emits (key : DedupeKey) : Cmd → Bool
  | .emitToUser _ notification => notification.dedupeKey = key
  | _ => false

/-- How many events have gone out for the key. -/
def emitted (key : DedupeKey) (s : SpaceScene ι) : ℕ := s.count fun e => e.1.emits key

/-- The rows of a run that began with `w₀` have been announced once, and nothing
else has. -/
structure NotifiedOnce [DecidableEq ι] [Host] (tasks : ι → Task) (w₀ : World) (sched : List ι) :
    Prop where
  once : ∀ key, emitted key ((begun tasks w₀).runs exec sched).scene ≤ 1
  new : ∀ key, emitted key ((begun tasks w₀).runs exec sched).scene ≠ 0 →
    w₀.notifications.find key = none ∧
      ∃ row, ((begun tasks w₀).runs exec sched).scene.world.notifications.find key = some row
  every : ((begun tasks w₀).runs exec sched).AtRest → ∀ key,
    w₀.notifications.find key = none →
    (((begun tasks w₀).runs exec sched).scene.world.notifications.find key).isSome = true →
      emitted key ((begun tasks w₀).runs exec sched).scene = 1

/-! ### Rows that are written -/

/-- The command was told that it wrote the row with the key. -/
def creates (key : DedupeKey) : SpaceTold → Bool
  | ⟨.createNotification _, some notification⟩ => notification.dedupeKey = key
  | _ => false

/-- Neither writes a notification nor announces one. -/
def Cmd.Silent : Cmd → Prop
  | .createNotification _ | .emitToUser _ _ => False
  | _ => True

/-- Writes nothing that is invited by or told. -/
def Cmd.Plain : Cmd → Prop
  | .createRoomWithHostAndInvites _ | .updateScheduledSpaceByHost _
  | .upsertPendingFriendInvite _ _ _ | .createNotification _ | .emitToUser _ _ => False
  | _ => True

theorem Cmd.Plain.silent {c : Cmd} (hc : c.Plain) : c.Silent := by
  cases c with
  | createNotification | emitToUser => exact hc.elim
  | _ => trivial

theorem Cmd.Silent.owes_none {c : Cmd} (hc : c.Silent) :
    c.emits key = false ∧ ∀ r, creates key ⟨c, r⟩ = false := by
  cases c with
  | createNotification | emitToUser => exact hc.elim
  | _ => exact ⟨rfl, fun _ => rfl⟩

theorem find_markRead {w : World} {p : Notification → Bool} :
    ((w.markRead p).notifications.find key).isSome = (w.notifications.find key).isSome := by
  rw [World.markRead, Sql.Table.find_update, Option.isSome_map]

/-- The row with the key appears when the reply says so, and never goes. -/
theorem find_exec (key : DedupeKey) (c : Cmd) (w : World) :
    ((exec c w).2.notifications.find key).isSome =
        ((w.notifications.find key).isSome || creates key ⟨c, (exec c w).1⟩) ∧
      (creates key ⟨c, (exec c w).1⟩ = true → w.notifications.find key = none) := by
  cases c with
  | createNotification input =>
      show ((w.createNotification input).2.notifications.find key).isSome = (_ || creates key
        ⟨.createNotification input, (w.createNotification input).1⟩) ∧ (creates key
          ⟨.createNotification input, (w.createNotification input).1⟩ = true → _)
      cases hfind : w.notifications.find input.dedupeKey with
      | some row =>
          have hsame : w.createNotification input = (none, w) := by
            rw [World.createNotification, hfind]
          rw [hsame]
          exact ⟨(Bool.or_false _).symm, fun h => by cases h⟩
      | none =>
          have hnew : w.createNotification input = (some ⟨input, false⟩, { w with
              notifications := w.notifications.insert ⟨input, false⟩ id fun _ => rfl }) := by
            rw [World.createNotification, hfind]
          rw [hnew]
          dsimp only [creates]
          rw [Sql.Table.find_insert]
          by_cases hkey : input.dedupeKey = key
          · subst hkey
            rw [if_pos rfl, hfind]
            exact ⟨by simp, fun _ => rfl⟩
          · rw [if_neg hkey, decide_eq_false hkey, Bool.or_false]
            exact ⟨rfl, fun h => by cases h⟩
  | markRead | markAllRead =>
      exact ⟨find_markRead.trans (Bool.or_false _).symm, fun h => by cases h⟩
  | updateScheduledSpaceByHost params =>
      refine ⟨?_, fun h => by cases h⟩
      show ((w.updateScheduledSpaceByHost params).2.notifications.find key).isSome = (_ || false)
      rw [Bool.or_false, World.updateScheduledSpaceByHost]
      split
      · rfl
      · split <;> rfl
  | _ => exact ⟨(Bool.or_false _).symm, fun h => by cases h⟩

/-- How often the row with the key has been written: once, if it is there and
was not before. -/
structure Written (w₀ : World) (s : SpaceScene ι) : Prop where
  found : ∀ key, s.world.notifications.find key = none → w₀.notifications.find key = none
  count : ∀ key, s.count (creates key) =
    if w₀.notifications.find key = none ∧ (s.world.notifications.find key).isSome = true
      then 1 else 0

theorem Written.start (w₀ : World) : Written w₀ (⟨w₀, []⟩ : SpaceScene ι) where
  found _ h := h
  count key := by
    rw [if_neg]
    · rfl
    · rintro ⟨hnone, hsome⟩
      rw [hnone] at hsome
      cases hsome

theorem Written.after {w₀ : World} {s : SpaceScene ι} (h : Written w₀ s) (i : ι) (c : Cmd) :
    Written w₀ (s.after exec i c) where
  found key hnone := by
    refine h.found key ?_
    rw [Scene.after_world] at hnone
    have hfind := (find_exec key c s.world).1
    rw [hnone, Option.isSome_none, eq_comm, Bool.or_eq_false_iff] at hfind
    exact Option.isSome_eq_false_iff.mp hfind.1 |> Option.isNone_iff_eq_none.mp
  count key := by
    obtain ⟨hfind, hnew⟩ := find_exec key c s.world
    rw [Scene.count_after, h.count key, Scene.after_world, hfind]
    cases hcreates : creates key ⟨c, (exec c s.world).1⟩ with
    | false => rw [Bool.or_false, if_neg Bool.false_ne_true, Nat.add_zero]
    | true =>
        have hnone := hnew hcreates
        rw [hnone, h.found key hnone]
        rfl

/-! ### Who writes a row announces it -/

section Owes

variable {ε α β : Type}

theorem owes_issue {c : Cmd} (hc : c.Silent) :
    (issue c).Owes exec (creates key) (Cmd.emits key) 0 :=
  .call_of_none hc.owes_none.1 hc.owes_none.2 fun _ => rfl

theorem owes_andThen {p : SpaceM (Except ε α)} {f : α → SpaceM (Except ε β)}
    (hp : p.Owes exec (creates key) (Cmd.emits key) 0)
    (hf : ∀ a, (f a).Owes exec (creates key) (Cmd.emits key) 0) :
    (andThen p f).Owes exec (creates key) (Cmd.emits key) 0 := by
  refine hp.bind fun result => ?_
  cases result with
  | error error => rfl
  | ok a => exact hf a

theorem owes_dispatchNotification (input : CreateNotificationInput) :
    (dispatchNotification input).Owes exec (creates key) (Cmd.emits key) 0 := by
  refine ⟨Nat.zero_le 0, fun w => ?_⟩
  cases hfind : w.notifications.find input.dedupeKey with
  | some row =>
      have hsame : (w.createNotification input).1 = none := by
        rw [World.createNotification, hfind]
      simp only [exec, hsame]
      rfl
  | none =>
      have hnew : (w.createNotification input).1 = some ⟨input, false⟩ := by
        rw [World.createNotification, hfind]
      simp only [exec, hnew]
      refine ⟨?_, fun w' => ?_⟩
      · show (decide (input.dedupeKey = key)).toNat ≤
          0 - 0 + (decide (input.dedupeKey = key)).toNat
        rw [Nat.zero_add]
      · show 0 - 0 + (decide (input.dedupeKey = key)).toNat -
          (decide (input.dedupeKey = key)).toNat + 0 = 0
        rw [Nat.zero_add, Nat.sub_self]

theorem owes_dispatchNotificationWithActor (actorUserId : UserId) (nameFallback : String)
    (build : String → CreateNotificationInput) :
    (dispatchNotificationWithActor actorUserId nameFallback build).Owes exec (creates key)
      (Cmd.emits key) 0 :=
  .call_of_none rfl (fun _ => rfl) fun _ => owes_dispatchNotification _

theorem owes_notifySpaceStartedToAssociatedUsers (roomId : RoomId) (hostUserId : UserId)
    (roomTitle : String) (turns : List ℕ) :
    (notifySpaceStartedToAssociatedUsers roomId hostUserId roomTitle turns).Owes exec (creates key)
      (Cmd.emits key) 0 := by
  refine Owes.bind (owes_together_of_forall (fun p hp => ?_) turns) fun lists => ?_
  · rw [List.mem_cons, List.mem_singleton] at hp
    rcases hp with rfl | rfl <;> exact owes_issue trivial
  · rcases lists with _ | ⟨inviteeUserIds, _ | ⟨participantUserIds, _ | ⟨ids, lists⟩⟩⟩
    · rfl
    · rfl
    · refine Owes.bind (owes_together_of_forall (fun p hp => ?_) turns) fun _ => rfl
      obtain ⟨recipientUserId, -, rfl⟩ := List.mem_map.mp hp
      exact owes_dispatchNotificationWithActor _ _ _
    · rfl

theorem owes_notifyInvitees (hostUserId : UserId) (roomId : RoomId) (roomTitle : String)
    (beforePending inviteeIds : List UserId) :
    (notifyInvitees hostUserId roomId roomTitle beforePending inviteeIds).Owes exec (creates key)
      (Cmd.emits key) 0 := by
  induction inviteeIds with
  | nil => rfl
  | cons inviteeUserId rest ih =>
      rw [notifyInvitees]
      split
      · exact ih
      · exact (owes_dispatchNotificationWithActor _ _ _).bind fun _ => ih

/-! ### What is silent -/

theorem Cmd.Silent.uses_owes {p : SpaceM α} (hp : p.Uses Cmd.Silent) :
    p.Owes exec (creates key) (Cmd.emits key) 0 :=
  (hp.mono fun _ hc => hc.owes_none).owes_zero

theorem Cmd.Plain.uses_owes {p : SpaceM α} (hp : p.Uses Cmd.Plain) :
    p.Owes exec (creates key) (Cmd.emits key) 0 :=
  Cmd.Silent.uses_owes (hp.mono fun _ hc => hc.silent)

theorem uses_andThen {P : Cmd → Prop} {p : SpaceM (Except ε α)} {f : α → SpaceM (Except ε β)}
    (hp : p.Uses P) (hf : ∀ a, (f a).Uses P) : (andThen p f).Uses P := by
  refine hp.bind fun result => ?_
  cases result with
  | error error => trivial
  | ok a => exact hf a

theorem uses_resolveValidatedInviteeIds (hostUserId : UserId) (invitedUserIds : List String) :
    (resolveValidatedInviteeIds hostUserId invitedUserIds).Uses Cmd.Plain := by
  rw [resolveValidatedInviteeIds]
  split
  · trivial
  · refine ⟨trivial, fun rows => ?_⟩
    show Prog.Uses _ (if _ = true then _ else _)
    split <;> trivial

theorem uses_assertInviteesAllowRoomInvitesFromHost (hostUserId : UserId)
    (inviteeIds : List UserId) :
    (assertInviteesAllowRoomInvitesFromHost hostUserId inviteeIds).Uses Cmd.Plain := by
  rw [assertInviteesAllowRoomInvitesFromHost]
  split
  · trivial
  · refine ⟨trivial, fun prefs => ?_⟩
    show Prog.Uses _ (if _ = true then _ else _)
    split <;> trivial

theorem uses_validateCategory [Host] (categoryId : Option String) :
    (validateCategory categoryId).Uses Cmd.Plain := by
  cases categoryId with
  | none => trivial
  | some categoryId =>
      refine ⟨trivial, fun category => ?_⟩
      cases category with
      | none => trivial
      | some category =>
          show Prog.Uses _ (if _ = true then _ else _)
          split <;> trivial

theorem uses_validateInvitees (hostUserId : UserId) (nextMaxParticipants : ℕ)
    (invitedUserIds : Option (List String)) :
    (validateInvitees hostUserId nextMaxParticipants invitedUserIds).Uses Cmd.Plain := by
  cases invitedUserIds with
  | none => trivial
  | some invitedUserIds =>
      rw [validateInvitees]
      split
      · trivial
      · exact uses_andThen ((uses_resolveValidatedInviteeIds _ _).map _) fun inviteeIds =>
          uses_andThen ((uses_assertInviteesAllowRoomInvitesFromHost _ _).map _) fun _ => trivial

theorem uses_findDisplayLabels (userIds : List UserId) :
    (findDisplayLabels userIds).Uses Cmd.Plain := by
  induction userIds with
  | nil => trivial
  | cons userId rest ih => exact ⟨trivial, fun _ => ih.bind fun _ => trivial⟩

theorem uses_emitInviteSocket (roomId : RoomId) (inviterUserId inviteeUserId : UserId)
    (roomTitle : String) :
    (emitInviteSocket roomId inviterUserId inviteeUserId roomTitle).Uses Cmd.Plain :=
  ⟨trivial, fun _ => ⟨trivial, fun _ => (uses_findDisplayLabels _).bind fun _ =>
    ⟨trivial, fun _ => trivial⟩⟩⟩

theorem uses_assertConnected (inviterUserId inviteeUserId : UserId) :
    (assertConnected inviterUserId inviteeUserId).Uses Cmd.Plain := by
  refine ⟨trivial, fun rows => ?_⟩
  show Prog.Uses _ (if _ = true then _ else _)
  split
  · refine ⟨trivial, fun prefs => ?_⟩
    show Prog.Uses _ (if _ = true then _ else _)
    split <;> trivial
  · trivial

theorem uses_assertReachable (roomId : RoomId) (inviteeUserId : UserId) :
    (assertReachable roomId inviteeUserId).Uses Cmd.Plain := by
  refine ⟨trivial, fun online => ?_⟩
  cases online with
  | false => trivial
  | true =>
      refine ⟨trivial, fun liveRoomId => ?_⟩
      show Prog.Uses _ (if _ = true then _ else _)
      split <;> trivial

theorem uses_sendRoomInvite (inviterUserId : UserId) (room : SpaceRow) (inviteeUserId : UserId) :
    (sendRoomInvite inviterUserId room inviteeUserId).Uses Cmd.Silent := by
  refine ⟨trivial, fun seated => ?_⟩
  cases seated with
  | true => trivial
  | false =>
      refine ⟨trivial, fun existing => ?_⟩
      show Prog.Uses _ (if _ = true then _ else _)
      split
      · exact ((uses_emitInviteSocket _ _ _ _).mono fun _ hc => hc.silent).map _
      · exact ⟨trivial, fun _ => ((uses_emitInviteSocket _ _ _ _).mono fun _ hc => hc.silent).map _⟩

theorem uses_createRoomInviteService (inviterUserId : UserId) (roomId : RoomId)
    (inviteeUserId : UserId) :
    (createRoomInviteService inviterUserId roomId inviteeUserId).Uses Cmd.Silent := by
  rw [createRoomInviteService]
  split
  · trivial
  · refine ⟨trivial, fun room => ?_⟩
    cases room with
    | none => trivial
    | some room =>
        show Prog.Uses _ (if room.status ≠ .live then _ else _)
        split
        · trivial
        · refine ⟨trivial, fun seated => ?_⟩
          cases seated with
          | false => trivial
          | true =>
              refine uses_andThen ((uses_assertConnected _ _).mono fun _ hc => hc.silent)
                fun _ => ?_
              exact uses_andThen ((uses_assertReachable _ _).mono fun _ hc => hc.silent)
                fun _ => uses_sendRoomInvite _ _ _

/-! ### The services -/

theorem uses_provisionIfLive (row : SpaceRow) (session : SpaceSession) :
    (provisionIfLive row session).Uses Cmd.Plain := by
  rw [provisionIfLive]
  split
  · exact ⟨trivial, fun _ => trivial⟩
  · trivial

theorem owes_tellInvitees (hostUserId : UserId) (row : SpaceRow) (roomTitle : String)
    (inviteeIds : List UserId) (turns : List ℕ) :
    (tellInvitees hostUserId row roomTitle inviteeIds turns).Owes exec (creates key)
      (Cmd.emits key) 0 := by
  rw [tellInvitees]
  split
  · rfl
  · split
    · exact owes_notifySpaceStartedToAssociatedUsers _ _ _ _
    · refine Owes.bind (owes_together_of_forall (fun p hp => ?_) turns) fun _ => rfl
      obtain ⟨inviteeUserId, -, rfl⟩ := List.mem_map.mp hp
      exact owes_dispatchNotificationWithActor _ _ _

theorem owes_writeSpace (hostUserId : UserId) (body : CreateSpaceBody) (code : String)
    (turns : List ℕ) (now : ℤ) (inviteeIds : List UserId) :
    (writeSpace hostUserId body code turns now inviteeIds).Owes exec (creates key)
      (Cmd.emits key) 0 :=
  .call_of_none rfl (fun _ => rfl) fun _ =>
    (Cmd.Plain.uses_owes (uses_provisionIfLive _ _)).bind fun _ =>
      (owes_tellInvitees _ _ _ _ _).bind fun _ => rfl

theorem owes_createSpaceService [Host] (hostUserId : UserId) (body : CreateSpaceBody)
    (code : String) (turns : List ℕ) :
    (createSpaceService hostUserId body code turns).Owes exec (creates key) (Cmd.emits key) 0 := by
  refine .call_of_none rfl (fun _ => rfl) fun w => ?_
  cases (exec (.findActiveCategoryById body.categoryId) w).1 with
  | none => rfl
  | some category =>
      show Prog.Owes exec _ _ (if _ = true then _ else _) 0
      split
      · rfl
      · refine .call_of_none rfl (fun _ => rfl) fun w' => ?_
        show Prog.Owes exec _ _ (if _ ∧ _ then _ else _) 0
        split
        · rfl
        · refine owes_andThen (Cmd.Plain.uses_owes (uses_resolveValidatedInviteeIds _ _))
            fun inviteeIds => ?_
          split
          · rfl
          · exact owes_andThen
              (Cmd.Plain.uses_owes (uses_assertInviteesAllowRoomInvitesFromHost _ _))
              fun _ => (owes_writeSpace _ _ _ _ _ _).map _

theorem owes_writeScheduledSpace (hostUserId : UserId) (room : SpaceRow)
    (body : UpdateScheduledSpaceBody) (code : String) (inviteeIds : Option (List UserId)) :
    (writeScheduledSpace hostUserId room body code inviteeIds).Owes exec (creates key)
      (Cmd.emits key) 0 := by
  refine .call_of_none rfl (fun _ => rfl) fun w => .call_of_none rfl (fun _ => rfl) fun w' => ?_
  cases (exec (.updateScheduledSpaceByHost (body.params hostUserId room code inviteeIds)) w').1 with
  | error refusal => rfl
  | ok row => exact (owes_notifyInvitees _ _ _ _ _).bind fun _ => rfl

theorem owes_updateScheduledSpaceService [Host] (hostUserId : UserId) (roomId : RoomId)
    (body : UpdateScheduledSpaceBody) (code : String) :
    (updateScheduledSpaceService hostUserId roomId body code).Owes exec (creates key)
      (Cmd.emits key) 0 := by
  refine .call_of_none rfl (fun _ => rfl) fun w => ?_
  cases (exec (.findRoomById roomId) w).1 with
  | none => rfl
  | some room =>
      show Prog.Owes exec _ _ (if _ ∨ _ ∨ _ then _ else _) 0
      split
      · rfl
      · exact owes_andThen (Cmd.Plain.uses_owes (uses_validateCategory _)) fun _ =>
          owes_andThen (Cmd.Plain.uses_owes (uses_validateInvitees _ _ _)) fun _ =>
            owes_writeScheduledSpace _ _ _ _ _

theorem owes_deleteScheduledSpaceService (hostUserId : UserId) (roomId : RoomId) :
    (deleteScheduledSpaceService hostUserId roomId).Owes exec (creates key) (Cmd.emits key) 0 := by
  refine .call_of_none rfl (fun _ => rfl) fun w => ?_
  show Prog.Owes exec _ _ (if _ = true then _ else _) 0
  split <;> rfl

theorem owes_finish {p : SpaceM α} (hp : p.Owes exec (creates key) (Cmd.emits key) 0) :
    (finish p).Owes exec (creates key) (Cmd.emits key) 0 :=
  hp.map _

theorem owes_program [Host] (task : Task) :
    task.program.Owes exec (creates key) (Cmd.emits key) 0 := by
  cases task with
  | createSpace => exact (owes_createSpaceService _ _ _ _).map _
  | updateScheduledSpace => exact (owes_updateScheduledSpaceService _ _ _ _).map _
  | deleteScheduledSpace => exact (owes_deleteScheduledSpaceService _ _).map _
  | createRoomInvite => exact (Cmd.Silent.uses_owes (uses_createRoomInviteService _ _ _)).map _
  | spaceStarted => exact owes_finish (owes_notifySpaceStartedToAssociatedUsers _ _ _ _)
  | connectionRequestReceived | connectionRequestAccepted =>
      exact owes_finish (owes_dispatchNotificationWithActor _ _ _)
  | _ => exact owes_finish (owes_issue trivial)

end Owes

/-! ### In a run with others -/

variable [DecidableEq ι] [Host]

theorem written_runs (tasks : ι → Task) (w₀ : World) (sched : List ι) :
    Written w₀ ((begun tasks w₀).runs exec sched).scene := by
  refine Conf.runs_induction exec (I := fun conf => Written w₀ conf.scene)
    (P := fun _ _ _ => True) (fun conf i h _ => ?_) (Written.start w₀)
    (Conf.meets_of_forall exec (fun _ _ _ => trivial) _ sched)
  cases hi : conf.threads i with
  | done a => rwa [Conf.step_of_done exec hi]
  | call c k =>
      rw [Conf.step_of_call exec hi]
      exact h.after i c

/-- **Nobody is told twice.** However the requests of hosts, of those who invite
and of the services that start a space run into each other, at most one event
goes out for a notification, none for one that was there at the beginning, and
when nothing is in progress every new row has had its event. -/
theorem notifiedOnce (tasks : ι → Task) (w₀ : World) (sched : List ι) :
    NotifiedOnce tasks w₀ sched := by
  have howing (key : DedupeKey) :
      ((begun tasks w₀).runs exec sched).Owing exec (creates key) (Cmd.emits key) := by
    refine Conf.Owing.runs (fun i => ?_) sched
    exact ⟨0, owes_program (tasks i), rfl⟩
  have hwritten := written_runs tasks w₀ sched
  have hle (key : DedupeKey) := (howing key).count_le
  refine ⟨fun key => ?_, fun key hne => ?_, fun hrest key hnone hsome => ?_⟩
  · have hcount := hwritten.count key
    refine Nat.le_trans (hle key) ?_
    rw [hcount]
    split <;> decide
  · have hcount := hwritten.count key
    split at hcount
    · rename_i hnew
      exact ⟨hnew.1, Option.isSome_iff_exists.mp hnew.2⟩
    · have hzero := hle key
      rw [hcount] at hzero
      exact absurd (Nat.le_zero.mp hzero) hne
  · have hpaid := (howing key).count_eq_of_atRest hrest
    rw [hwritten.count key, if_pos ⟨hnone, hsome⟩] at hpaid
    exact hpaid

end Greetup.Spaces
