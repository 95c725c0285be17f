import Greetup.Calls.Settling

/-!
Whether an invite is settled once.

The five calls check the status of the invite and write it with two commands.
What is between the two belongs to everybody: a second call that reads the
invite there is told that it is still pending, too.
-/

namespace Greetup.Calls

open Interleaving Prog
open Rooms (UserId RoomId World)

variable (planner : Rooms.Planner) {ι : Type} [DecidableEq ι]

abbrev CallScene (ι : Type) := Scene ι Rooms.Cmd Rooms.Cmd.Reply World

abbrev CallEvent (ι : Type) := Event ι Rooms.Cmd Rooms.Cmd.Reply

/-! ### The hash of an invite -/

/-- Every hash has the id of its key, if it has one. -/
def Store.Keyed (s : Store) : Prop :=
  ∀ requestId hash, s.invite requestId = some hash → ∀ id ∈ hash.requestId, id = requestId

/-- The invite, if it is pending. -/
def Store.pendingInvite (s : Store) (requestId : RequestId) : Option InviteRecord :=
  ((s.invite requestId).bind inviteRecord).filter (·.status = some .pending)

/-- The fields that are written keep the hash with its key. -/
def KeepsKey : Rooms.Cmd → Prop
  | .call (.hsetInvite requestId fields) => ∀ id ∈ fields.requestId, id = requestId
  | _ => True

section Hash

variable {planner} {w : World} {c : Rooms.Cmd} {requestId : RequestId} {hash : InviteHash}
  {invite : InviteRecord}

/-- The rooms are not all that differs, but the calls and the ids are the same. -/
structure SameCalls (w w' : World) : Prop where
  calls : w'.calls = w.calls
  uuids : w'.uuids = w.uuids
  uuidsDrawn : w'.uuidsDrawn = w.uuidsDrawn

/-- The room services leave the calls and the ids alone. -/
theorem sameCalls_exec (hc : ∀ d, c ≠ .call d) (hdraw : c ≠ .randomUUID) :
    SameCalls w (Rooms.exec planner c w).2 := by
  cases c with
  | call d => exact absurd rfl (hc d)
  | randomUUID => exact absurd rfl hdraw
  | endLiveRoomSessionTx params =>
      simp only [Rooms.exec, World.endLiveRoomSessionTx]
      split_ifs <;> exact ⟨rfl, rfl, rfl⟩
  | leaveAndMaybeEndRoomTx =>
      simp only [Rooms.exec, World.leaveAndMaybeEndRoomTx]
      split_ifs <;> exact ⟨rfl, rfl, rfl⟩
  | expireScheduledJoinGraceMissed =>
      simp only [Rooms.exec, World.expireScheduledJoinGraceMissed]
      split_ifs <;> exact ⟨rfl, rfl, rfl⟩
  | runExpandDirectAcceptTransaction =>
      simp only [Rooms.exec, World.runExpandDirectAcceptTransaction]
      split_ifs <;> exact ⟨rfl, rfl, rfl⟩
  | setUserActiveRtcRoom userId roomId =>
      simp only [Rooms.exec, World.setUserActiveRtcRoom, World.pauseOpenToConnectForRoom]
      split
      · exact ⟨rfl, rfl, rfl⟩
      · split <;> exact ⟨rfl, rfl, rfl⟩
  | clearUserActiveRtcRoom userId =>
      simp only [Rooms.exec, World.clearUserActiveRtcRoom, World.restoreOpenToConnectAfterRoom]
      split
      · exact ⟨rfl, rfl, rfl⟩
      · split <;> exact ⟨rfl, rfl, rfl⟩
  | getUserActiveRtcRoomVerified userId =>
      simp only [Rooms.exec, World.getUserActiveRtcRoomVerified]
      split
      · exact ⟨rfl, rfl, rfl⟩
      · split_ifs <;> exact ⟨rfl, rfl, rfl⟩
  | _ => exact ⟨rfl, rfl, rfl⟩

theorem calls_exec (hc : ∀ d, c ≠ .call d) : (Rooms.exec planner c w).2.calls = w.calls := by
  by_cases hdraw : c = .randomUUID
  · rw [hdraw]
    rfl
  · exact (sameCalls_exec hc hdraw).calls

/-- What a command makes of the invites. -/
inductive InviteStep (w : World) : Rooms.Cmd → (RequestId → Option InviteHash) → Prop
  | same (c : Rooms.Cmd) : InviteStep w c w.calls.invite
  | hset (requestId : RequestId) (fields : InviteHash) :
      InviteStep w (.call (.hsetInvite requestId fields)) (Function.update w.calls.invite requestId
        (some (((w.calls.invite requestId).getD {}).hset fields)))
  | del (requestId : RequestId) :
      InviteStep w (.call (.delInvite requestId))
        (Function.update w.calls.invite requestId none)

theorem inviteStep (planner : Rooms.Planner) (w : World) (c : Rooms.Cmd) :
    InviteStep w c (Rooms.exec planner c w).2.calls.invite := by
  by_cases hc : ∀ d, c ≠ .call d
  · rw [calls_exec hc]
    exact .same c
  · push Not at hc
    obtain ⟨d, rfl⟩ := hc
    cases d with
    | hsetInvite requestId fields => exact .hset requestId fields
    | delInvite requestId => exact .del requestId
    | setPendingForCalleeNX userId requestId =>
        simp only [Rooms.exec, exec]
        split <;> exact .same _
    | setHistoryLoggedForRequestNX requestId status =>
        simp only [Rooms.exec, exec]
        split <;> exact .same _
    | _ => exact .same _

theorem Store.Keyed.exec (h : w.calls.Keyed) (hc : KeepsKey c) :
    (Rooms.exec planner c w).2.calls.Keyed := by
  intro requestId hash hfind id hid
  have hstep := inviteStep planner w c
  generalize (Rooms.exec planner c w).2.calls.invite = invite at hstep hfind
  cases hstep with
  | same => exact h requestId hash hfind id hid
  | hset key fields =>
      by_cases hkey : requestId = key
      · subst hkey
        rw [Function.update_self] at hfind
        cases hfind
        rcases Option.or_eq_some_iff.mp hid with hnew | ⟨-, hold⟩
        · exact hc id hnew
        · cases hbefore : w.calls.invite requestId with
          | none =>
              rw [hbefore] at hold
              cases hold
          | some before =>
              rw [hbefore] at hold
              exact h requestId before hbefore id hold
      · rw [Function.update_of_ne hkey] at hfind
        exact h requestId hash hfind id hid
  | del key =>
      by_cases hkey : requestId = key
      · subst hkey
        rw [Function.update_self] at hfind
        cases hfind
      · rw [Function.update_of_ne hkey] at hfind
        exact h requestId hash hfind id hid

/-- A hash that is not there comes only with `HSET`. -/
theorem invite_exec_of_none (h : w.calls.invite requestId = none)
    (hc : ∀ fields, c ≠ .call (.hsetInvite requestId fields)) :
    (Rooms.exec planner c w).2.calls.invite requestId = none := by
  have hstep := inviteStep planner w c
  generalize (Rooms.exec planner c w).2.calls.invite = invite at hstep ⊢
  cases hstep with
  | same => exact h
  | hset key fields =>
      have hkey : requestId ≠ key := by
        rintro rfl
        exact hc fields rfl
      rw [Function.update_of_ne hkey, h]
  | del key =>
      by_cases hkey : requestId = key
      · rw [hkey, Function.update_self]
      · rw [Function.update_of_ne hkey, h]

/-- A record has the fields of its hash. -/
theorem inviteRecord_fields (h : inviteRecord hash = some invite) :
    hash.requestId = some invite.requestId ∧ hash.calleeUserId = invite.calleeUserId ∧
      hash.status = invite.status := by
  cases hid : hash.requestId with
  | none => simp [inviteRecord, hid] at h
  | some id =>
      cases hroom : hash.roomId with
      | none => simp [inviteRecord, hid, hroom] at h
      | some roomId =>
          simp only [inviteRecord, hid, hroom, Option.some.injEq] at h
          rw [← h]
          exact ⟨rfl, rfl, rfl⟩

theorem requestId_of_pendingInvite (hkeyed : w.calls.Keyed)
    (h : w.calls.pendingInvite requestId = some invite) : invite.requestId = requestId := by
  obtain ⟨hrecord, -⟩ := Option.filter_eq_some_iff.mp h
  obtain ⟨hash, hfind, hrecord⟩ := Option.bind_eq_some_iff.mp hrecord
  exact hkeyed requestId hash hfind _ (inviteRecord_fields hrecord).1

end Hash

/-- Who is newly told that an invite is pending has just read it. -/
theorem seenPending_after {s : CallScene ι} {i j : ι} {c : Rooms.Cmd} {requestId : RequestId}
    {invite : InviteRecord}
    (h : SeenPending ((s.after (Rooms.exec planner) i c).told j) requestId invite) :
    SeenPending (s.told j) requestId invite ∨
      i = j ∧ c = .call (.hgetallInvite requestId) ∧
        s.world.calls.pendingInvite requestId = some invite := by
  obtain ⟨hash, hmem, hrecord, hpending⟩ := h
  rcases (Scene.mem_told_after _).mp hmem with ⟨hij, heq⟩ | hmem
  · obtain ⟨rfl, hreply⟩ := Sigma.mk.inj heq
    have hfind : s.world.calls.invite requestId = some hash := (eq_of_heq hreply).symm
    refine .inr ⟨hij, rfl, ?_⟩
    rw [Store.pendingInvite, hfind, Option.bind_some, hrecord, Option.filter_some,
      if_pos (decide_eq_true hpending)]
  · exact .inl ⟨hash, hmem, hrecord, hpending⟩

theorem SeenPending.after {s : CallScene ι} {j : ι} {requestId : RequestId}
    {invite : InviteRecord} (h : SeenPending (s.told j) requestId invite) (i : ι) (c : Rooms.Cmd) :
    SeenPending ((s.after (Rooms.exec planner) i c).told j) requestId invite :=
  h.mono (Scene.told_subset_after _)

/-! ### Settling once -/

def settling (calls : ι → Settling) (w : World) : Conf ι Rooms.Cmd Rooms.Cmd.Reply
    SettlingResult World :=
  ⟨fun i => (calls i).program, ⟨w, []⟩⟩

theorem settling_licensed (calls : ι → Settling) (w : World) :
    (settling calls w).Licensed (Rooms.exec planner) (fun i => (calls i).Licence)
      (fun i => (calls i).Reports) :=
  fun i => (calls i).obeys planner

/-- What ends the room, goes into the history, or tells a peer that there was
no call. -/
def endsCall : Rooms.Cmd → Bool
  | .endLiveRoomSessionTx _ | .delSessionRoom _ | .call (.delActiveByRoom _) => true
  | .send (.connectionCallHistory ..) | .send (.connectionCallSettled ..) => true
  | _ => false

/-- The five outcomes exclude one another. -/
structure SettledOnce (calls : ι → Settling) (requestId : RequestId)
    (conf : Conf ι Rooms.Cmd Rooms.Cmd.Reply SettlingResult World) : Prop where
  /-- the statuses that are written are written by one call -/
  once : ∀ e ∈ conf.scene.trace, ∀ e' ∈ conf.scene.trace, ∀ fields fields',
    e.cmd = .call (.hsetInvite requestId fields) →
      e'.cmd = .call (.hsetInvite requestId fields') → e.tid = e'.tid
  /-- once somebody has accepted, no other call about the invite ends anything -/
  accepted : ∀ i userId result, calls i = .respond userId requestId true →
    conf.threads i = .done (.responded (.ok result)) → ∀ e ∈ conf.scene.trace,
      e.tid ≠ i → (calls e.tid).requestId = requestId → endsCall e.cmd = false
  /-- an invite that was deleted stays deleted -/
  gone : ∀ e ∈ conf.scene.trace, e.cmd = .call (.delInvite requestId) →
    conf.scene.world.calls.invite requestId = none

/-- A call reads that the invite is pending, and another has read so before. -/
def ReadsToo (requestId : RequestId) (i : ι) (c : Rooms.Cmd) (s : CallScene ι) : Prop :=
  c = .call (.hgetallInvite requestId) ∧ (s.world.calls.pendingInvite requestId).isSome ∧
    ∃ j ≠ i, ∃ invite, SeenPending (s.told j) requestId invite

/-- One call at most was told that the invite was pending. -/
structure OneTold (calls : ι → Settling) (requestId : RequestId) (s : CallScene ι) : Prop where
  keyed : s.world.calls.Keyed
  /-- an invite that was read has the id it was read by -/
  honest : ∀ i requestId invite, SeenPending (s.told i) requestId invite →
    invite.requestId = requestId
  one : ∀ i j invite invite', SeenPending (s.told i) requestId invite →
    SeenPending (s.told j) requestId invite' → i = j
  /-- whoever does more than read was told -/
  acts : ∀ e ∈ s.trace, (calls e.tid).requestId = requestId →
    e.cmd ≠ .call (.hgetallInvite requestId) → ∃ invite, SeenPending (s.told e.tid) requestId invite
  /-- the commands on the hash are those of calls about the invite -/
  own : ∀ e ∈ s.trace, (e.cmd = .call (.delInvite requestId) ∨
    ∃ fields, e.cmd = .call (.hsetInvite requestId fields)) → (calls e.tid).requestId = requestId
  gone : ∀ e ∈ s.trace, e.cmd = .call (.delInvite requestId) →
    s.world.calls.invite requestId = none

section Step

variable {planner} {calls : ι → Settling} {requestId : RequestId} {s : CallScene ι} {i : ι}
  {c : Rooms.Cmd}

theorem Settling.Licence.keepsKey {call : Settling} {h : History} (hc : call.Licence h c) :
    KeepsKey c := by
  cases c with
  | call c =>
      cases c with
      | hsetInvite key fields =>
          obtain ⟨-, rfl, -⟩ := hc
          intro id hid
          cases hid
      | _ => trivial
  | _ => trivial

/-- What is done besides reading is done by a call that was told. -/
theorem Settling.Licence.seen {call : Settling} {h : History} (hc : call.Licence h c)
    (hread : c ≠ .call (.hgetallInvite call.requestId)) :
    ∃ invite, SeenPending h call.requestId invite := by
  cases c with
  | call c =>
      cases c with
      | hgetallInvite key =>
          cases hc
          exact absurd rfl hread
      | hsetInvite => exact hc.2.2.2
      | delInvite | delPendingForCallee =>
          obtain ⟨-, invite, hseen, -⟩ := hc
          exact ⟨invite, hseen⟩
      | setPendingForCalleeNX | expiredPendingForCallee => exact hc.elim
      | _ => exact hc
  | randomUUID => exact hc.elim
  | _ => exact hc

/-- **One step.** -/
theorem OneTold.step (h : OneTold calls requestId s) (hlicence : (calls i).Licence (s.told i) c)
    (hnot : ¬ ReadsToo requestId i c s) :
    OneTold calls requestId (s.after (Rooms.exec planner) i c) := by
  have hown : c = .call (.delInvite requestId) ∨
      (∃ fields, c = .call (.hsetInvite requestId fields)) → (calls i).requestId = requestId := by
    rintro (rfl | ⟨fields, rfl⟩)
    · obtain ⟨-, invite, hseen, hid⟩ := hlicence
      rw [← hid, h.honest i _ invite hseen]
    · exact hlicence.1.symm
  have hacts : (calls i).requestId = requestId → c ≠ .call (.hgetallInvite requestId) →
      ∃ invite, SeenPending (s.told i) requestId invite := by
    rintro rfl hread
    exact hlicence.seen hread
  refine ⟨h.keyed.exec hlicence.keepsKey, ?_, ?_, ?_, ?_, ?_⟩
  · intro j key invite hseen
    rcases seenPending_after planner hseen with hseen | ⟨-, -, hpending⟩
    · exact h.honest j key invite hseen
    · exact requestId_of_pendingInvite h.keyed hpending
  · intro j k invite invite' hj hk
    rcases seenPending_after planner hj with hj | ⟨rfl, hc, hpending⟩
    · rcases seenPending_after planner hk with hk | ⟨rfl, hc, hpending⟩
      · exact h.one j k invite invite' hj hk
      · by_contra hne
        exact hnot ⟨hc, by rw [hpending]; rfl, j, hne, invite, hj⟩
    · rcases seenPending_after planner hk with hk | ⟨rfl, -, -⟩
      · by_contra hne
        exact hnot ⟨hc, by rw [hpending]; rfl, k, Ne.symm hne, invite', hk⟩
      · rfl
  · intro e he hid hread
    rcases List.mem_cons.mp he with rfl | he
    · obtain ⟨invite, hseen⟩ := hacts hid hread
      exact ⟨invite, hseen.after planner i c⟩
    · obtain ⟨invite, hseen⟩ := h.acts e he hid hread
      exact ⟨invite, hseen.after planner i c⟩
  · intro e he hcmd
    rcases List.mem_cons.mp he with rfl | he
    · exact hown hcmd
    · exact h.own e he hcmd
  · intro e he hdel
    rcases List.mem_cons.mp he with rfl | hbefore
    · obtain rfl : c = .call (.delInvite requestId) := hdel
      exact Function.update_self ..
    · apply invite_exec_of_none (h.gone e hbefore hdel)
      rintro fields rfl
      -- whoever writes was told, and so was whoever has deleted: it is one call
      obtain ⟨invite, hi⟩ := hacts (hown (.inr ⟨fields, rfl⟩)) (by rintro ⟨⟩)
      obtain ⟨invite', hj⟩ := h.acts e hbefore (h.own e hbefore (.inl hdel))
        (by rw [hdel]; rintro ⟨⟩)
      obtain rfl := h.one i e.tid _ _ hi hj
      obtain ⟨-, -, hnone, -⟩ := hlicence
      exact hnone ⟨e.cmd, e.reply⟩ (Scene.mem_told.mpr hbefore) requestId hdel

end Step

/-- **An invite is settled once** in every run in which no two calls are told
that it is pending. -/
theorem settledOnce_of_not_readsToo (calls : ι → Settling) {w : World} (hkeyed : w.calls.Keyed)
    (requestId : RequestId) {sched : List ι}
    (hmeets : (settling calls w).Meets (Rooms.exec planner)
      (fun i c s => ¬ ReadsToo requestId i c s) sched) :
    SettledOnce calls requestId ((settling calls w).runs (Rooms.exec planner) sched) := by
  have hlicensed := settling_licensed planner calls w
  have hstart : OneTold calls requestId (settling calls w).scene := by
    refine ⟨hkeyed, ?_, ?_, ?_, ?_, ?_⟩
    · rintro i key invite ⟨hash, hmem, -⟩
      cases hmem
    · rintro i j invite invite' ⟨hash, hmem, -⟩
      cases hmem
    · intro e he
      cases he
    · intro e he
      cases he
    · intro e he
      cases he
  have htold : OneTold calls requestId ((settling calls w).runs (Rooms.exec planner) sched).scene :=
    hlicensed.runs_inv (fun s i c h hlicence hnot => h.step hlicence hnot) hstart hmeets
  refine ⟨?_, ?_, htold.gone⟩
  · intro e he e' he' fields fields' hcmd hcmd'
    obtain ⟨invite, hseen⟩ := htold.acts e he (htold.own e he (.inr ⟨fields, hcmd⟩))
      (by rw [hcmd]; rintro ⟨⟩)
    obtain ⟨invite', hseen'⟩ := htold.acts e' he' (htold.own e' he' (.inr ⟨fields', hcmd'⟩))
      (by rw [hcmd']; rintro ⟨⟩)
    exact htold.one _ _ _ _ hseen hseen'
  · intro i userId result hcall hdone e he hne hid
    obtain ⟨invite, hseen⟩ := (hlicensed.runs sched).result hdone rfl
    rw [hcall] at hseen
    have hread : e.cmd = .call (.hgetallInvite requestId) := by
      by_contra hread
      obtain ⟨invite', hseen'⟩ := htold.acts e he hid hread
      exact hne (htold.one _ _ _ _ hseen' hseen)
    rw [hread]
    rfl

namespace Sample

def ada : UserId := ⟨"ada", by decide⟩
def bert : UserId := ⟨"bert", by decide⟩
def firstRing : RequestId := ⟨"first-ring", by decide⟩
def dialogue : ConversationId := ⟨"dialogue", by decide⟩

/-- The room of the call; the caller is in it. -/
def booth : Rooms.RoomRow where
  id := ⟨"booth", by decide⟩
  hostUserId := ada
  title := "Call"
  visibility := .private_
  maxParticipants := 2
  status := .live
  startedAt := some 0
  rtcRoomId := some ⟨"booth", by decide⟩
  advancedOptions := {}
  roomType := .direct
  sessionKind := .connectionCall

def ringingStore : Store where
  invite := Function.update (fun _ => none) firstRing
    (some (newInvite ada bert dialogue .video firstRing booth.id 0))
  pendingForCallee := Function.update (fun _ => none) bert (some firstRing)
  pendingByRoom := Function.update (fun _ => none) booth.id (some firstRing)

/-- Ada's call rings at Bert's. -/
def ringing : World where
  rooms := { rows := [booth], unique := List.nodup_singleton _ }
  participants := { rows := [⟨booth.id, ada, .host, none⟩], unique := by decide }
  calls := ringingStore

theorem ringing_keyed : ringing.calls.Keyed := by
  intro requestId hash hfind id hid
  simp only [ringing, ringingStore] at hfind
  by_cases hkey : requestId = firstRing
  · subst hkey
    rw [Function.update_self] at hfind
    cases hfind
    cases hid
    rfl
  · rw [Function.update_of_ne hkey] at hfind
    cases hfind

/-- Bert accepts, and the ring timer fires. -/
def answerAndTimer : Bool → Settling
  | false => .respond bert firstRing true
  | true => .expire firstRing

/-- An invite that is read first, or is no longer pending. -/
def readsAlone (s : CallScene Bool) : Rooms.Cmd → Bool
  | .call (.hgetallInvite requestId) =>
      s.trace.isEmpty || (s.world.calls.pendingInvite requestId).isNone
  | _ => true

theorem not_readsToo_of_readsAlone {requestId : RequestId} {i : Bool} {c : Rooms.Cmd}
    {s : CallScene Bool} (h : readsAlone s c = true) : ¬ ReadsToo requestId i c s := by
  rintro ⟨rfl, hpending, j, -, invite, hash, hmem, -⟩
  rw [readsAlone, Bool.or_eq_true, List.isEmpty_iff, Option.isNone_iff_eq_none] at h
  rcases h with htrace | hnone
  · rw [Scene.mem_told, htrace] at hmem
    cases hmem
  · rw [hnone] at hpending
    cases hpending

/-- The timer finds that the invite is gone. -/
theorem settledOnce_answerAndTimer : SettledOnce answerAndTimer firstRing
    ((settling answerAndTimer ringing).runs (Rooms.exec .inOrder)
      (List.replicate 12 false ++ List.replicate 3 true)) := by
  apply settledOnce_of_not_readsToo .inOrder answerAndTimer ringing_keyed firstRing
  have halone : (settling answerAndTimer ringing).Meets (Rooms.exec .inOrder)
      (fun _ c s => readsAlone s c = true) (List.replicate 12 false ++ List.replicate 3 true) := by
    decide +kernel
  exact halone.mono _ fun _ _ _ h => not_readsToo_of_readsAlone h

/-- The timer fires between the check of the invite and the writing of its
status: the call is accepted, and missed, and its room has ended. -/
theorem not_settledOnce_answerAndTimer : ¬ SettledOnce answerAndTimer firstRing
    ((settling answerAndTimer ringing).runs (Rooms.exec .inOrder)
      (false :: List.replicate 40 true ++ List.replicate 12 false)) := by
  intro h
  have hends : ((settling answerAndTimer ringing).runs (Rooms.exec .inOrder)
      (false :: List.replicate 40 true ++ List.replicate 12 false)).scene.trace.any
        (fun e => e.tid && endsCall e.cmd) = true := by decide +kernel
  obtain ⟨e, he, hboth⟩ := List.any_eq_true.mp hends
  rw [Bool.and_eq_true] at hboth
  obtain ⟨htid, hcmd⟩ := hboth
  have hspared := h.accepted false bert _ rfl rfl e he (by rw [htid]; rintro ⟨⟩) (by rw [htid]; rfl)
  rw [hcmd] at hspared
  cases hspared

end Sample

end Greetup.Calls
