import Greetup.Rooms.Seats

/-!
Whether a user who was removed for good stays out.

The row of the user is marked as left some commands before the restriction is
written. A join reads the restriction before it writes the row, and a call for a
token before it does what has to be done for the token and returns it; each of
them can be past its reading when the restriction comes.
-/

namespace Greetup.Rooms

open Interleaving Prog

variable (planner : Planner) {ι : Type} [DecidableEq ι]

def World.isRestricted (w : World) (roomId : RoomId) (userId : UserId) : Bool :=
  w.restrictedUsers.contains (roomId, userId)

/-- The call is for a token of the target, and when it last looked it was told of
no restriction. -/
def ToldFree (calls : ι → RoomCall) (space : RoomRow) (targetUserId : UserId) (i : ι)
    (s : Scene ι Cmd Cmd.Reply World) : Prop :=
  (calls i).bearer = some (targetUserId, space.id) ∧
    LastUnrestricted (s.told i) space.id targetUserId

/-- The restriction finds the target in the space; or, when the target is
restricted, its row is written, or a call for a token that was told of no
restriction goes on without looking again. -/
def SlipsIn (calls : ι → RoomCall) (space : RoomRow) (targetUserId : UserId) (i : ι) (c : Cmd)
    (s : Scene ι Cmd Cmd.Reply World) : Prop :=
  c = .addRoomRestrictedUser space.id targetUserId ∧
      s.world.isIn space.id targetUserId = true ∨
    s.world.isRestricted space.id targetUserId = true ∧
      (c = .addOrReactivateHostRow space.id targetUserId ∨
        c = .addOrReactivateParticipantRow space.id targetUserId ∨
        c ≠ .isRoomRestrictedUser space.id targetUserId ∧ ToldFree calls space targetUserId i s)

/-- What a call may be told once the target is restricted. -/
structure Denies (space : RoomRow) (targetUserId : UserId) (e : Event ι Cmd Cmd.Reply) : Prop where
  restricted : (⟨e.cmd, e.reply⟩ : Told Cmd Cmd.Reply) ≠
    ⟨.isRoomRestrictedUser space.id targetUserId, false⟩
  notIn : ∀ row : Option ParticipantRow, isActive row = true →
    (⟨e.cmd, e.reply⟩ : Told Cmd Cmd.Reply) ≠ ⟨.findRoomParticipant space.id targetUserId, row⟩

/-- The target is restricted, and not in the space. -/
structure StaysOut (space : RoomRow) (targetUserId : UserId) (w : World) : Prop where
  restricted : w.isRestricted space.id targetUserId = true
  out : w.isIn space.id targetUserId = false

section Step

variable {planner} {calls : ι → RoomCall} {space : RoomRow} {targetUserId : UserId}
  {s : Scene ι Cmd Cmd.Reply World} {i : ι} {c : Cmd}

omit [DecidableEq ι] in
/-- A restriction is never lifted. -/
theorem restrictedUsers_exec (planner : Planner) (c : Cmd) (w : World) :
    w.restrictedUsers ⊆ (exec planner c w).2.restrictedUsers := by
  cases c with
  | addRoomRestrictedUser roomId userId => exact List.subset_cons_self _ _
  | endLiveRoomSessionTx params =>
      simp only [exec, World.endLiveRoomSessionTx]
      split_ifs <;> exact List.Subset.refl _
  | leaveAndMaybeEndRoomTx =>
      simp only [exec, World.leaveAndMaybeEndRoomTx]
      split_ifs <;> exact List.Subset.refl _
  | expireScheduledJoinGraceMissed =>
      simp only [exec, World.expireScheduledJoinGraceMissed]
      split_ifs <;> exact List.Subset.refl _
  | runExpandDirectAcceptTransaction =>
      simp only [exec, World.runExpandDirectAcceptTransaction]
      split_ifs <;> exact List.Subset.refl _
  | setUserActiveRtcRoom userId roomId =>
      simp only [exec, World.setUserActiveRtcRoom, World.pauseOpenToConnectForRoom]
      split
      · exact List.Subset.refl _
      · split <;> exact List.Subset.refl _
  | clearUserActiveRtcRoom userId =>
      simp only [exec, World.clearUserActiveRtcRoom, World.restoreOpenToConnectAfterRoom]
      split
      · exact List.Subset.refl _
      · split <;> exact List.Subset.refl _
  | getUserActiveRtcRoomVerified userId =>
      simp only [exec, World.getUserActiveRtcRoomVerified]
      split
      · exact List.Subset.refl _
      · split_ifs <;> exact List.Subset.refl _
  | _ => exact List.Subset.refl _

/-- **One step**, once the target is restricted. -/
theorem StaysOut.step (h : StaysOut space targetUserId s.world) (hknows : Knows space s)
    (hhost : targetUserId ≠ space.hostUserId) (hlicence : Licence planner (s.told i) c)
    (hnot : ¬ SlipsIn calls space targetUserId i c s) :
    StaysOut space targetUserId (exec planner c s.world).2 := by
  have hrestricted : (exec planner c s.world).2.isRestricted space.id targetUserId = true := by
    have hmem := h.restricted
    rw [World.isRestricted, List.contains_iff_mem] at hmem ⊢
    exact restrictedUsers_exec planner c s.world hmem
  refine ⟨hrestricted, ?_⟩
  by_contra hin
  have hin : (exec planner c s.world).2.isIn space.id targetUserId = true := by simpa using hin
  rcases isIn_or_letsIn planner hin with hbefore | hlets
  · rw [h.out] at hbefore
    cases hbefore
  · cases hlets with
    | host => exact hnot (.inr ⟨h.restricted, .inl rfl⟩)
    | participant => exact hnot (.inr ⟨h.restricted, .inr (.inl rfl)⟩)
    | expanded _ _ hdirect =>
        obtain ⟨room, hfind, hsame⟩ := hknows.row
        rw [World.findRoom, hfind, Option.filter_some, if_neg] at hdirect
        · cases hdirect
        · simp [RoomWhere.matches_, hsame.roomType]
    | created => exact hlicence
    | hostKept hroom hkept _ =>
        obtain ⟨room, hseen, hid, hhostId⟩ := hlicence
        have hsame := hknows.seen i room hseen (hid.symm.trans hroom)
        exact hhost (hkept.symm.trans (hhostId.trans hsame.hostUserId))

omit [DecidableEq ι] in
/-- Whatever happens then is denied to the target. -/
theorem StaysOut.denies (h : StaysOut space targetUserId s.world) : Denies space targetUserId
    (⟨i, c, (exec planner c s.world).1⟩ : Event ι Cmd Cmd.Reply) := by
  refine ⟨?_, ?_⟩
  · intro heq
    obtain ⟨rfl, hreply⟩ := Sigma.mk.inj heq
    have hfalse : s.world.isRestricted space.id targetUserId = false := eq_of_heq hreply
    rw [h.restricted] at hfalse
    cases hfalse
  · intro row hactive heq
    obtain ⟨rfl, hreply⟩ := Sigma.mk.inj heq
    have hrow : s.world.participants.find (space.id, targetUserId) = row := eq_of_heq hreply
    have hout := h.out
    rw [World.isIn, hrow, hactive] at hout
    cases hout

/-- No call for a token moves and has still been told of no restriction. -/
theorem StaysOut.not_toldFree (h : StaysOut space targetUserId s.world)
    (hbearer : (calls i).bearer = some (targetUserId, space.id))
    (hnot : ¬ SlipsIn calls space targetUserId i c s) :
    ¬ LastUnrestricted (⟨c, (exec planner c s.world).1⟩ :: s.told i) space.id targetUserId := by
  intro hfree
  by_cases hlooks : c = .isRoomRestrictedUser space.id targetUserId
  · subst hlooks
    have hfalse : false = s.world.isRestricted space.id targetUserId := hfree.unique newest_cons
    rw [h.restricted] at hfalse
    cases hfalse
  · exact hnot (.inr ⟨h.restricted, .inr (.inr ⟨hlooks, hbearer, hfree.of_cons hlooks⟩)⟩)

end Step

/-- Whoever has been restricted stays out. -/
structure Enforced (space : RoomRow) (targetUserId : UserId)
    (s : Scene ι Cmd Cmd.Reply World) : Prop where
  knows : Knows space s
  out : (∃ e ∈ s.trace, e.cmd = .addRoomRestrictedUser space.id targetUserId) →
    StaysOut space targetUserId s.world

section Run

variable {planner} {calls : ι → RoomCall} {space : RoomRow} {targetUserId : UserId}
  {s : Scene ι Cmd Cmd.Reply World} {i : ι} {c : Cmd}

theorem Enforced.step (h : Enforced space targetUserId s) (hhost : targetUserId ≠ space.hostUserId)
    (hlicence : Licence planner (s.told i) c) (hnot : ¬ SlipsIn calls space targetUserId i c s) :
    Enforced space targetUserId (s.after (exec planner) i c) := by
  refine ⟨h.knows.step i c, ?_⟩
  rintro ⟨e, he, hcmd⟩
  rcases List.mem_cons.mp he with rfl | he
  · obtain rfl : c = .addRoomRestrictedUser space.id targetUserId := hcmd
    refine ⟨?_, ?_⟩
    · rw [World.isRestricted, List.contains_iff_mem]
      exact List.mem_cons_self
    · show s.world.isIn space.id targetUserId = false
      by_contra hin
      exact hnot (.inl ⟨rfl, by simpa using hin⟩)
  · exact (h.out ⟨e, he, hcmd⟩).step h.knows hhost hlicence hnot

/-- What has been added to the trace since. -/
def DeniedSince (space : RoomRow) (targetUserId : UserId) (s s' : Scene ι Cmd Cmd.Reply World) :
    Prop :=
  ∃ l, s'.trace = l ++ s.trace ∧ ∀ e ∈ l, Denies space targetUserId e

omit [DecidableEq ι] in
theorem DeniedSince.step {s₀ : Scene ι Cmd Cmd.Reply World}
    (h : DeniedSince space targetUserId s₀ s) (hout : StaysOut space targetUserId s.world) :
    DeniedSince space targetUserId s₀ (s.after (exec planner) i c) := by
  obtain ⟨l, hl, hdenied⟩ := h
  refine ⟨⟨i, c, (exec planner c s.world).1⟩ :: l, ?_, ?_⟩
  · rw [Scene.after_trace, hl, List.cons_append]
  · exact List.forall_mem_cons.mpr ⟨hout.denies, hdenied⟩

theorem DeniedSince.told {s' : Scene ι Cmd Cmd.Reply World}
    (h : DeniedSince space targetUserId s s')
    (hnone : s.told i = []) {e : Told Cmd Cmd.Reply} (he : e ∈ s'.told i) :
    Denies space targetUserId (⟨i, e.1, e.2⟩ : Event ι Cmd Cmd.Reply) := by
  obtain ⟨l, hl, hdenied⟩ := h
  have hmem := Scene.mem_told.mp he
  rw [hl] at hmem
  rcases List.mem_append.mp hmem with hmem | hmem
  · exact hdenied _ hmem
  · have hold := Scene.mem_told.mpr hmem
    rw [hnone] at hold
    cases hold

/-- Who is not the host has a token only after a look at the restriction. -/
theorem lastUnrestricted_of_mayEnter (hknows : Knows space s)
    (hmay : MayEnter (s.told i) space.id targetUserId) (hhost : targetUserId ≠ space.hostUserId) :
    LastUnrestricted (s.told i) space.id targetUserId := by
  obtain ⟨room, hseen, hid, hwhy⟩ := hmay
  have hsame := hknows.seen i room hseen hid
  rcases hwhy with hdirect | hhost' | ⟨hunrestricted, -⟩
  · rw [hsame.roomType] at hdirect
    cases hdirect
  · exact absurd (hhost'.symm.trans hsame.hostUserId) hhost
  · exact hunrestricted

/-- A join of the target that has been told nothing from before fails. -/
theorem not_joins_of_denied {s' : Scene ι Cmd Cmd.Reply World} (hknows : Knows space s')
    (hhost : targetUserId ≠ space.hostUserId) (h : DeniedSince space targetUserId s s')
    (hnone : s.told i = []) (joined : JoinRoomServiceResult) :
    ¬ Joins space.id targetUserId (s'.told i) (.ok joined) := by
  intro hjoins
  obtain ⟨hseen, hid, hadmitted⟩ := hjoins joined rfl
  have hsame := hknows.seen i _ hseen hid
  rcases hadmitted with hdirect | hhost' | hunrestricted | ⟨row, hactive, hmem⟩
  · rw [hsame.roomType] at hdirect
    cases hdirect
  · exact hhost (hhost'.symm.trans hsame.hostUserId)
  · rw [hid] at hunrestricted
    exact (h.told hnone hunrestricted).restricted rfl
  · rw [hid] at hmem
    exact (h.told hnone hmem).notIn row hactive rfl

end Run

/-- What the target is denied between a scene and a later one of a run: it is
not in the space, no call has returned a token to it, and a join of the target
that has started in between has failed, if it is over. -/
structure KeptOut (calls : ι → RoomCall) (space : RoomRow) (targetUserId : UserId)
    (before after : Conf ι Cmd Cmd.Reply RoomOutcome World) : Prop where
  out : after.scene.world.isIn space.id targetUserId = false
  noToken : ∀ i, (calls i).bearer = some (targetUserId, space.id) → ∀ outcome,
    after.threads i = .done outcome → outcome.hasToken = true → before.threads i = .done outcome
  noJoin : ∀ i, (calls i = .join targetUserId space.id ∨
      ∃ turns, calls i = .handleJoin targetUserId space.id turns) → before.scene.told i = [] →
    ∀ result rtc, after.threads i = .done (.joined result rtc) → ∃ error, result = .error error

/-- **Restricted users** stay out, once the kick has returned, in every run in
which the restriction does not find the target in the space, and no call of the
target that was told of no restriction writes the row, or goes on to the token,
after it. -/
theorem keptOut_of_not_slipsIn (calls : ι → RoomCall) {w : World} {space : RoomRow}
    (hfind : w.rooms.find space.id = some space) (hspace : space.roomType = .space)
    {targetUserId : UserId} (hhost : targetUserId ≠ space.hostUserId) (before after : List ι)
    (hmeets : (begun calls w).Meets (exec planner)
      (fun i c s => ¬ SlipsIn calls space targetUserId i c s) (before ++ after)) {kick : ι}
    (hkick : calls kick = .kick space.hostUserId space.id targetUserId true)
    {removed : Bool} (hreturned : ((begun calls w).runs (exec planner) before).threads kick =
      .done (.kicked (.ok ⟨removed, true⟩))) :
    KeptOut calls space targetUserId ((begun calls w).runs (exec planner) before)
      ((begun calls w).runs (exec planner) (before ++ after)) := by
  obtain ⟨hbefore, hafter⟩ := (Conf.meets_append (exec planner)).mp hmeets
  have hlicensed := (begun_licensed planner calls w).runs before
  have hstart : Enforced space targetUserId (begun calls w).scene := by
    refine ⟨knows_begun calls hfind hspace, ?_⟩
    rintro ⟨e, he, -⟩
    cases he
  have henforced := (begun_licensed planner calls w).runs_inv
    (fun s i c h hlicence hnot => h.step hhost hlicence hnot) hstart hbefore
  -- the kick has written the restriction
  have hreport := hlicensed.result hreturned
  rw [hkick] at hreport
  have hout := henforced.out ⟨_, Scene.mem_told.mp (hreport rfl), rfl⟩
  rw [Conf.runs_append]
  generalize (begun calls w).runs (exec planner) before = conf at *
  have hstays : ∀ s i c, Knows space s ∧ StaysOut space targetUserId s.world ∧
      DeniedSince space targetUserId conf.scene s → Licence planner (s.told i) c →
      ¬ SlipsIn calls space targetUserId i c s →
      Knows space (s.after (exec planner) i c) ∧
        StaysOut space targetUserId (s.after (exec planner) i c).world ∧
        DeniedSince space targetUserId conf.scene (s.after (exec planner) i c) := by
    rintro s i c ⟨hknows, hout, hdenied⟩ hlicence hnot
    exact ⟨hknows.step i c, hout.step hknows hhost hlicence hnot, hdenied.step hout⟩
  have hsince : Knows space conf.scene ∧ StaysOut space targetUserId conf.scene.world ∧
      DeniedSince space targetUserId conf.scene conf.scene :=
    ⟨henforced.knows, hout, [], rfl, by simp⟩
  obtain ⟨hknows, hlater, hdenied⟩ := hlicensed.runs_inv hstays hsince hafter
  refine ⟨hlater.out, ?_, ?_⟩
  · intro i hbearer outcome hdone htoken
    have hmoves : conf.Meets (exec planner) (fun j c s => j = i →
        ¬ LastUnrestricted (⟨c, (exec planner c s.world).1⟩ :: s.told i) space.id targetUserId)
        after := by
      refine hlicensed.meets_of_inv hstays ?_ hsince hafter
      rintro s j c ⟨-, hout, -⟩ - hnot rfl
      exact hout.not_toldFree hbearer hnot
    rcases Conf.unmoved_or_told (P := fun h => ¬ LastUnrestricted h space.id targetUserId) hmoves
      with ⟨hthread, -⟩ | hrestricted
    · rw [← hthread, hdone]
    · have hgrants :=
      RoomCall.grants_of_hasToken hbearer ((hlicensed.runs after).result hdone) htoken
      exact absurd (lastUnrestricted_of_mayEnter hknows hgrants.1 hhost) hrestricted
  · intro i hcall hnone result rtc hdone
    have hjoins := (hlicensed.runs after).result hdone
    cases result with
    | error error => exact ⟨error, rfl⟩
    | ok joined =>
        refine absurd ?_ (not_joins_of_denied hknows hhost hdenied hnone joined)
        rcases hcall with hcall | ⟨turns, hcall⟩
        · rw [hcall] at hjoins
          exact hjoins
        · rw [hcall] at hjoins
          exact hjoins.1 _ _ rfl

namespace Sample

inductive Visit
  | kick
  | join
  | token
  deriving DecidableEq

/-- The host removes somebody who is asking for a token and then tries to join. -/
def shownOut : Visit → RoomCall
  | .kick => .kick hana bench.id early true
  | .join => .join early bench.id
  | .token => .token early bench.id

/-- Whoever has looked has found a restriction. -/
def foundRestricted (trace : List (Event Visit Cmd Cmd.Reply)) : Bool :=
  trace.all fun e => match e with
    | ⟨_, .isRoomRestrictedUser .., isRestricted⟩ => isRestricted
    | _ => true

/-- The restriction finds the target gone, and the target finds the restriction. -/
def inOrder (s : Scene Visit Cmd Cmd.Reply World) : Cmd → Bool
  | .addRoomRestrictedUser .. => !s.world.isIn bench.id early && foundRestricted s.trace
  | .addOrReactivateHostRow .. | .addOrReactivateParticipantRow .. =>
      !s.world.isRestricted bench.id early && foundRestricted s.trace
  | _ => foundRestricted s.trace

theorem foundRestricted_of_inOrder {c : Cmd} {s : Scene Visit Cmd Cmd.Reply World}
    (h : inOrder s c = true) : foundRestricted s.trace = true := by
  unfold inOrder at h
  split at h <;> simp_all

theorem not_slipsIn_of_inOrder {i : Visit} {c : Cmd} {s : Scene Visit Cmd Cmd.Reply World}
    (h : inOrder s c = true) : ¬ SlipsIn shownOut bench early i c s := by
  rintro (⟨rfl, hin⟩ | ⟨hrestricted, rfl | rfl | ⟨-, -, hfree⟩⟩)
  · rw [inOrder, hin] at h
    cases h
  · rw [inOrder, hrestricted] at h
    cases h
  · rw [inOrder, hrestricted] at h
    cases h
  · have hmem := Scene.mem_told.mp hfree.mem
    have hfound := List.all_eq_true.mp (foundRestricted_of_inOrder h) _ hmem
    cases hfound

/-- The target has asked for a token before it is removed, and is refused one. -/
theorem keptOut_shownOut : KeptOut shownOut bench early
    ((begun shownOut benchWorld).runs (exec .inOrder)
      (List.replicate 3 .token ++ List.replicate 11 .kick))
    ((begun shownOut benchWorld).runs (exec .inOrder)
      (List.replicate 3 .token ++ List.replicate 11 .kick ++
        (List.replicate 20 .token ++ List.replicate 20 .join))) := by
  have horder : (begun shownOut benchWorld).Meets (exec .inOrder)
      (fun _ c s => inOrder s c = true)
      (List.replicate 3 .token ++ List.replicate 11 .kick ++
        (List.replicate 20 .token ++ List.replicate 20 .join)) := by decide +kernel
  have hmeets := horder.mono (Q := fun i c s => ¬ SlipsIn shownOut bench early i c s) _
    fun _ _ _ h => not_slipsIn_of_inOrder h
  have hkick : shownOut .kick = .kick bench.hostUserId bench.id early true := rfl
  have hreturned : ((begun shownOut benchWorld).runs (exec .inOrder)
      (List.replicate 3 .token ++ List.replicate 11 .kick)).threads .kick =
        .done (.kicked (.ok ⟨true, true⟩)) := rfl
  exact keptOut_of_not_slipsIn .inOrder shownOut rfl rfl (by decide) _ _ hmeets hkick hreturned

/-- The target comes back after its row was marked as left, before the
restriction is written. -/
theorem not_keptOut_shownOut :
    let conf := (begun shownOut benchWorld).runs (exec .inOrder)
      (List.replicate 6 .kick ++ List.replicate 20 .join ++ List.replicate 5 .kick)
    conf.threads .kick = .done (.kicked (.ok ⟨true, true⟩)) ∧
      ¬ KeptOut shownOut bench early conf conf := by
  refine ⟨rfl, fun h => ?_⟩
  have hin : ((begun shownOut benchWorld).runs (exec .inOrder) (List.replicate 6 .kick ++
      List.replicate 20 .join ++ List.replicate 5 .kick)).scene.world.isIn bench.id early =
      true := by decide +kernel
  have hout := h.out
  rw [hin] at hout
  cases hout

end Sample

end Greetup.Rooms
