import Greetup.Guest.Trial
import Greetup.Interleaving.Accounts

/-!
One room for a guest.

A request is admitted by the flags that were read when it arrived, and consumes
the trial when it issues a token. It does not look at whether it was the one to
consume it, so that requests that arrive together are all served.
-/

namespace Greetup.Guest

open Interleaving Prog
open Rooms (UserId RoomId AccessError RtcTokenPayload)

/-! ### Who is a guest -/

section Guests

open Rooms (World Planner Cmd exec)

theorem guests_setUserActiveRtcRoom (w : World) (userId : UserId) (roomId : RoomId) :
    (w.setUserActiveRtcRoom userId roomId).guests = w.guests := by
  rw [World.setUserActiveRtcRoom, World.pauseOpenToConnectForRoom]
  split
  · rfl
  · split <;> rfl

theorem guests_clearUserActiveRtcRoom (w : World) (userId : UserId) :
    (w.clearUserActiveRtcRoom userId).guests = w.guests := by
  rw [World.clearUserActiveRtcRoom, World.restoreOpenToConnectAfterRoom]
  split
  · rfl
  · split <;> rfl

theorem guests_exec (planner : Planner) (c : Cmd) (w : World) :
    (exec planner c w).2.guests = w.guests := by
  cases c with
  | setUserActiveRtcRoom userId roomId => exact guests_setUserActiveRtcRoom w userId roomId
  | clearUserActiveRtcRoom userId => exact guests_clearUserActiveRtcRoom w userId
  | endLiveRoomSessionTx params =>
      simp only [exec, World.endLiveRoomSessionTx]
      split
      · split <;> rfl
      · rfl
  | leaveAndMaybeEndRoomTx roomId userId now delete =>
      simp only [exec, World.leaveAndMaybeEndRoomTx]
      split
      · rfl
      · split <;> rfl
  | getUserActiveRtcRoomVerified userId =>
      simp only [exec, World.getUserActiveRtcRoomVerified]
      split
      · rfl
      · split
        · rfl
        · split <;> rfl
  | expireScheduledJoinGraceMissed =>
      simp only [exec, World.expireScheduledJoinGraceMissed]
      split <;> rfl
  | runExpandDirectAcceptTransaction =>
      simp only [exec, World.runExpandDirectAcceptTransaction]
      split <;> rfl
  | _ => rfl
end Guests

abbrev GuestTold : Type := Told GuestCmd GuestCmd.Reply

abbrev GuestScene (ι : Type) : Type := Scene ι GuestCmd GuestCmd.Reply GuestWorld

abbrev GuestConf (ι : Type) : Type :=
  Conf ι GuestCmd GuestCmd.Reply (Except AccessError (Option RtcTokenPayload)) GuestWorld

/-! ### The order of a request -/

section Licences

/-- The flags of the user were read, and let the request pass. -/
def Admitted (userId : UserId) (h : List GuestTold) : Prop :=
  ∃ flags, ⟨.findTrialFlagsByUserId userId, flags⟩ ∈ h ∧
    ∀ f, flags = some f → (f.isGuest && f.guestTrialConsumed) = false

/-- The trial of the user has been looked at and, if it was there to be consumed,
consumed or found to be consumed by then. -/
def Passed (userId : UserId) (h : List GuestTold) : Prop :=
  ∃ found, ⟨.findByUserId userId, found⟩ ∈ h ∧
    ∀ row, found = some row → row.isGuest = true → row.guestTrialConsumedAt = none →
      ∃ consumedAt newlyConsumed,
        ⟨.markCallTrialConsumedIfUnset userId consumedAt, newlyConsumed⟩ ∈ h

/-- Only an admitted request consumes the trial, and only that of its user. -/
def Due (r : GuestRequest) (h : List GuestTold) : GuestCmd → Prop
  | .findByUserId userId => userId = r.userId ∧ Admitted userId h
  | .markCallTrialConsumedIfUnset userId _ => userId = r.userId ∧ Admitted userId h
  | _ => True

/-- A token is for the room that was asked for, and is returned when the trial
has been seen to. -/
def Served (r : GuestRequest) (h : List GuestTold)
    (result : Except AccessError (Option RtcTokenPayload)) : Prop :=
  ∀ payload, result = .ok (some payload) → payload.roomId = r.roomId ∧ Passed r.userId h

variable {planner : Rooms.Planner} {r : GuestRequest} {h h' : List GuestTold} {userId : UserId}

theorem Admitted.mono (ha : Admitted userId h) (hsub : h ⊆ h') : Admitted userId h' := by
  obtain ⟨flags, hmem, hf⟩ := ha
  exact ⟨flags, hsub hmem, hf⟩

theorem Passed.mono (hp : Passed userId h) (hsub : h ⊆ h') : Passed userId h' := by
  obtain ⟨found, hmem, hf⟩ := hp
  refine ⟨found, hsub hmem, fun row hrow hguest hnone => ?_⟩
  obtain ⟨consumedAt, newlyConsumed, hmark⟩ := hf row hrow hguest hnone
  exact ⟨consumedAt, newlyConsumed, hsub hmark⟩

theorem Due.mono {c : GuestCmd} (hsub : h ⊆ h') (hdue : Due r h c) : Due r h' c := by
  cases c with
  | findByUserId => exact ⟨hdue.1, hdue.2.mono hsub⟩
  | markCallTrialConsumedIfUnset => exact ⟨hdue.1, hdue.2.mono hsub⟩
  | _ => trivial

theorem served_error {error : AccessError} : Served r h (.error error) := by
  intro payload heq
  cases heq

/-- The commands that have nothing to do with the flags of a trial. -/
def GuestCmd.Plain : GuestCmd → Prop
  | .findByUserId _ | .markCallTrialConsumedIfUnset _ _ => False
  | _ => True

theorem due_of_plain {c : GuestCmd} (hc : c.Plain) : Due r h c := by
  cases c with
  | findByUserId => exact hc.elim
  | markCallTrialConsumedIfUnset => exact hc.elim
  | _ => trivial

theorem licensed_plain {α : Type} {p : GuestM α} (hp : p.Uses GuestCmd.Plain) :
    p.Licensed (execGuest planner) (Due r) (fun h' _ => h ⊆ h') h :=
  hp.licensed_of_subset (fun _ _ _ hc => due_of_plain hc) (List.Subset.refl h)

theorem uses_lift {α : Type} (p : Rooms.M α) : (lift p).Uses GuestCmd.Plain :=
  uses_expand (f := fun c => issueGuest (.rooms c)) (fun _ => ⟨trivial, fun _ => trivial⟩) p

theorem uses_markDevice (deviceHash : Option Matching.Text) :
    (markDevice deviceHash).Uses GuestCmd.Plain := by
  cases deviceHash with
  | none => trivial
  | some deviceHash => exact ⟨trivial, fun _ => trivial⟩

theorem uses_announceConsumed (roomId : RoomId) (newlyConsumed : Bool) :
    (announceConsumed userId roomId newlyConsumed).Uses GuestCmd.Plain := by
  cases newlyConsumed with
  | false => trivial
  | true => exact ⟨trivial, fun _ => ⟨trivial, fun _ => trivial⟩⟩

theorem uses_recordConsumed (input : ConsumeGuestCallTrialInput) (profile : GuestProfileRow)
    (newlyConsumed : Bool) :
    (recordConsumed userId input profile newlyConsumed).Uses GuestCmd.Plain := by
  have htrack (deviceHash ipHash : Option Matching.Text) :
      (trackHashes userId deviceHash ipHash).Uses GuestCmd.Plain := by
    rw [trackHashes]
    split
    · exact ⟨trivial, fun _ => trivial⟩
    · trivial
  refine (htrack _ _).bind fun _ => (uses_markDevice _).bind fun _ => ?_
  exact (uses_announceConsumed _ _).bind fun _ => trivial

theorem licensed_consume (ha : Admitted r.userId h) (input : ConsumeGuestCallTrialInput) :
    (consumeGuestCallTrial r.userId input).Licensed (execGuest planner) (Due r)
      (fun h' _ => Passed r.userId h') h := by
  refine ⟨⟨rfl, ha⟩, fun w => ?_⟩
  generalize (execGuest planner (.findByUserId r.userId) w).1 = found
  have hfound {h' : List GuestTold} : (⟨.findByUserId r.userId, found⟩ : GuestTold) ∈
      ⟨.findByUserId r.userId, found⟩ :: h' := List.mem_cons_self
  cases found with
  | none =>
      refine ⟨none, hfound, fun row hrow => ?_⟩
      cases hrow
  | some profile =>
      show (if !profile.isGuest then _ else if profile.guestTrialConsumedAt.isSome then _
        else _ : GuestM ConsumeGuestCallTrialResult).Licensed _ _ _ _
      split
      · -- a registered user
        rename_i hguest
        refine ⟨some profile, hfound, fun row hrow hisGuest => ?_⟩
        cases hrow
        simp [hisGuest] at hguest
      · split
        · -- it has been consumed before
          rename_i hconsumed
          refine ((licensed_plain (uses_markDevice _)).mono fun h' _ hsub => ?_).map
          refine ⟨some profile, hsub hfound, fun row hrow _ hnone => ?_⟩
          cases hrow
          simp [hnone] at hconsumed
        · refine ⟨trivial, fun w =>
          ⟨⟨rfl, ha.mono (fun e he => .tail _ (.tail _ he))⟩, fun w => ?_⟩⟩
          refine (licensed_plain (uses_recordConsumed _ _ _)).mono fun h' _ hsub => ?_
          exact ⟨some profile, hsub (.tail _ (.tail _ hfound)), fun row hrow _ _ =>
            ⟨_, _, hsub List.mem_cons_self⟩⟩

theorem licensed_finalize (ha : Admitted r.userId h) (turns : List ℕ) (room : Rooms.RoomRow) :
    (finalizeRtcTokenIssue turns r.userId r.roomId room).Licensed (execGuest planner) (Due r)
      (fun h' result => Served r h' (result.map some)) h := by
  refine ⟨trivial, fun w => ⟨trivial, fun w => ?_⟩⟩
  have hall {h : List GuestTold} (ha : Admitted r.userId h) :
      AllLicensed (execGuest planner) (Due r) (fun _ => True)
        [fun h => Passed r.userId h, fun _ => True, fun _ => True]
        [(fun _ => ()) <$> consumeGuestCallTrial r.userId { roomId := r.roomId },
          lift (Rooms.syncGuestMatchRoomSessionCap r.roomId),
          issueGuest (.rooms (.setUserActiveRtcRoom r.userId r.roomId))] h := by
    refine .cons ⟨uses_true _, (licensed_consume ha _).map⟩ (.cons ⟨uses_true _, ?_⟩
      (.cons ⟨uses_true _, trivial, fun _ => trivial⟩ .nil))
    exact (licensed_plain (uses_lift _)).mono fun _ _ _ => trivial
  refine ((hall (ha.mono fun e he => .tail _ (.tail _ he))).sideBySide
    (fun _ _ _ _ hsub hdue => hdue.mono hsub) ?_ turns).bind fun h' _ hdone => ?_
  · intro q hq h h' hsub hqh
    simp only [List.mem_cons, List.not_mem_nil, or_false] at hq
    rcases hq with rfl | rfl | rfl
    · exact hqh.mono hsub
    · trivial
    · trivial
  · intro payload heq
    cases heq
    exact ⟨rfl, hdone _ List.mem_cons_self⟩

theorem licensed_issueRtcTokenService (ha : Admitted r.userId h) (turns : List ℕ)
    (options : Rooms.IssueRtcTokenOptions) :
    (issueRtcTokenService turns r.userId r.roomId options).Licensed (execGuest planner) (Due r)
      (fun h' result => Served r h' (result.map some)) h := by
  refine (licensed_plain (uses_lift _)).bind fun h' access hsub => ?_
  cases access with
  | error error => exact served_error
  | ok room => exact licensed_finalize (ha.mono hsub) turns room

theorem licensed_handler (ha : Admitted r.userId h) :
    (if r.joins then handleJoinRoom r.turns r.userId r.roomId
      else handleIssueRtcToken r.turns r.userId r.roomId).Licensed (execGuest planner) (Due r)
        (Served r) h := by
  split
  · refine (licensed_plain (uses_lift _)).bind fun h' joined hsub => ?_
    cases joined with
    | error error => exact served_error
    | ok joinResult =>
        rw [tokenAfterJoin]
        split
        · exact (licensed_issueRtcTokenService (ha.mono hsub) r.turns _).bind fun _ _ hs => hs
        · intro payload heq
          cases heq
  · exact (licensed_issueRtcTokenService ha r.turns _).bind fun _ _ hs => hs

theorem licensed_request (r : GuestRequest) :
    r.program.Licensed (execGuest planner) (Due r) (Served r) [] := by
  refine ⟨trivial, fun w => ?_⟩
  generalize (execGuest planner (.findTrialFlagsByUserId r.userId) w).1 = flags
  show (requireGuestCallTrialAvailable (flags.getD ⟨false, false⟩) _).Licensed _ _ _ _
  rw [requireGuestCallTrialAvailable]
  split
  · exact served_error
  · rename_i hpasses
    refine licensed_handler ⟨flags, List.mem_cons_self, fun f hf => ?_⟩
    cases hf
    simpa using hpasses

end Licences

/-! ### What one move does to a trial -/

section Moves

variable {ι : Type} [DecidableEq ι] {planner : Rooms.Planner} {s : GuestScene ι} {i : ι}
  {c : GuestCmd} {userId : UserId}

def GuestWorld.consumed (w : GuestWorld) (userId : UserId) : Bool :=
  (w.profiles userId).any (·.guestTrialConsumedAt.isSome)

/-- `guestTrialConsumedAt` of the user is set. -/
def marks (userId : UserId) (e : Event ι GuestCmd GuestCmd.Reply) : Bool :=
  match e with
  | ⟨_, .markCallTrialConsumedIfUnset marked _, newlyConsumed⟩ => marked = userId && newlyConsumed
  | _ => false

omit [DecidableEq ι] in
theorem isGuest_after : (s.after (execGuest planner) i c).world.isGuest userId =
    s.world.isGuest userId := by
  rw [Scene.after_world]
  cases c with
  | rooms c => exact congrArg (fun guests => List.contains guests userId) (guests_exec planner c _)
  | markCallTrialConsumedIfUnset =>
      simp only [execGuest]
      split <;> rfl
  | _ => rfl

omit [DecidableEq ι] in
theorem profile_after : ((s.after (execGuest planner) i c).world.profiles userId).isSome =
    (s.world.profiles userId).isSome := by
  have hupdate (other : UserId) (f : TrialColumns → TrialColumns) :
      ((s.world.updateProfile other f).profiles userId).isSome =
        (s.world.profiles userId).isSome := by
    by_cases heq : userId = other
    · subst heq
      simp [GuestWorld.updateProfile]
    · simp [GuestWorld.updateProfile, heq]
  rw [Scene.after_world]
  cases c with
  | markCallTrialConsumedIfUnset =>
      simp only [execGuest]
      split
      · exact hupdate _ _
      · rfl
  | setTrackingHashes => exact hupdate _ _
  | _ => rfl

omit [DecidableEq ι] in
/-- The trial is consumed when it is marked, and stays so. -/
theorem consumed_after : (s.after (execGuest planner) i c).world.consumed userId =
    (s.world.consumed userId || marks userId ⟨i, c, (execGuest planner c s.world).1⟩) := by
  rw [Scene.after_world]
  cases c with
  | markCallTrialConsumedIfUnset other consumedAt =>
      simp only [execGuest]
      by_cases heq : userId = other
      · subst heq
        cases hprofile : s.world.profiles userId with
        | none => simp [GuestWorld.profile, GuestWorld.consumed, hprofile, marks]
        | some columns =>
            simp only [GuestWorld.profile, hprofile, Option.map_some, Option.any_some]
            split <;> simp [GuestWorld.consumed, GuestWorld.updateProfile, hprofile, marks]
      · split <;> simp [GuestWorld.consumed, GuestWorld.updateProfile, heq, marks, Ne.symm heq]
  | setTrackingHashes other deviceHash ipHash =>
      by_cases heq : userId = other
      · subst heq
        cases hprofile : s.world.profiles userId with
        | none => simp [execGuest, GuestWorld.consumed, GuestWorld.updateProfile, hprofile, marks]
        | some columns =>
            simp [execGuest, GuestWorld.consumed, GuestWorld.updateProfile, hprofile, marks]
      · simp [execGuest, GuestWorld.consumed, GuestWorld.updateProfile, heq, marks]
  | _ => simp [marks, execGuest, GuestWorld.consumed]

omit [DecidableEq ι] in
theorem not_consumed_of_marks
    (hm : marks userId ⟨i, c, (execGuest planner c s.world).1⟩ = true) :
    s.world.consumed userId = false := by
  cases c with
  | markCallTrialConsumedIfUnset other consumedAt =>
      simp only [marks, execGuest, Bool.and_eq_true, decide_eq_true_eq] at hm
      obtain ⟨rfl, hm⟩ := hm
      split at hm
      · rename_i hunset
        cases hprofile : s.world.profiles other with
        | none => simp [GuestWorld.consumed, hprofile]
        | some columns =>
            simp only [GuestWorld.profile, hprofile, Option.map_some, Option.any_some,
              Bool.and_eq_true, Option.isNone_iff_eq_none] at hunset
            simp [GuestWorld.consumed, hprofile, hunset.2]
      · cases hm
  | _ => cases hm

end Moves

/-! ### Runs -/

section Runs

variable {ι : Type} [DecidableEq ι] (planner : Rooms.Planner) (requests : ι → GuestRequest)
  (w₀ : GuestWorld) (userId : UserId)

/-- A request comes to the trial before it is consumed, or for the room for which
it was. -/
def SameRoom (i : ι) (c : GuestCmd) (s : GuestScene ι) : Prop :=
  match c with
  | .findByUserId userId | .markCallTrialConsumedIfUnset userId _ =>
      ∀ j consumedAt, ⟨.markCallTrialConsumedIfUnset userId consumedAt, true⟩ ∈ s.told j →
        (requests j).roomId = (requests i).roomId
  | _ => True

/-- All requests are to be made. -/
def guestRequests : GuestConf ι where
  threads i := (requests i).program
  scene := ⟨w₀, []⟩

/-- The trial was consumed for the room of the request. -/
def ConsumedFor (i : ι) (s : GuestScene ι) : Prop :=
  ∃ j consumedAt, ⟨.markCallTrialConsumedIfUnset userId consumedAt, true⟩ ∈ s.told j ∧
    (requests j).roomId = (requests i).roomId

structure TrialInv (s : GuestScene ι) : Prop where
  guest : s.world.isGuest userId = true
  profile : (s.world.profiles userId).isSome = true
  count : s.trace.countP (marks userId) + (w₀.consumed userId).toNat =
    (s.world.consumed userId).toNat
  flags : ∀ i f, ⟨.findTrialFlagsByUserId userId, f⟩ ∈ s.told i → ∃ flags, f = some flags ∧
    flags.isGuest = true ∧ (flags.guestTrialConsumed = false → w₀.consumed userId = false)
  found : ∀ i found, ⟨.findByUserId userId, found⟩ ∈ s.told i → ∃ row, found = some row ∧
    row.isGuest = true ∧ (row.guestTrialConsumedAt ≠ none → ConsumedFor requests userId i s)
  marked : ∀ i consumedAt b, ⟨.markCallTrialConsumedIfUnset userId consumedAt, b⟩ ∈ s.told i →
    ConsumedFor requests userId i s

variable {planner requests w₀ userId} {s : GuestScene ι} {i : ι} {c : GuestCmd}

theorem ConsumedFor.after (hf : ConsumedFor requests userId i s) (j : ι) :
    ConsumedFor requests userId i (s.after (execGuest planner) j c) := by
  obtain ⟨k, consumedAt, hmem, hroom⟩ := hf
  exact ⟨k, consumedAt, Scene.told_subset_after (execGuest planner) hmem, hroom⟩

theorem TrialInv.row (h : TrialInv requests w₀ userId s) :
    ∃ row, s.world.profile userId = some row ∧
    row.isGuest = true ∧ (row.guestTrialConsumedAt.isSome = s.world.consumed userId) := by
  obtain ⟨columns, hcolumns⟩ := Option.isSome_iff_exists.mp h.profile
  refine ⟨_, by rw [GuestWorld.profile, hcolumns, Option.map_some], h.guest, ?_⟩
  simp [GuestWorld.consumed, hcolumns]

/-- The trial has not been consumed when the requests arrive, if one of them is
admitted. -/
theorem TrialInv.unconsumed (h : TrialInv requests w₀ userId s)
    (ha : Admitted userId (s.told i)) : w₀.consumed userId = false := by
  obtain ⟨f, hmem, hpasses⟩ := ha
  obtain ⟨flags, rfl, hguest, hconsumed⟩ := h.flags i f hmem
  have := hpasses flags rfl
  rw [hguest, Bool.true_and] at this
  exact hconsumed this

/-- A trial that is consumed in between was marked by a request. -/
theorem TrialInv.consumedFor (h : TrialInv requests w₀ userId s)
    (ha : Admitted userId (s.told i)) (hconsumed : s.world.consumed userId = true)
    (hm : ∀ j consumedAt, ⟨.markCallTrialConsumedIfUnset userId consumedAt, true⟩ ∈ s.told j →
      (requests j).roomId = (requests i).roomId) : ConsumedFor requests userId i s := by
  have hcount := h.count
  rw [h.unconsumed ha, hconsumed] at hcount
  obtain ⟨⟨j, c, r⟩, hmem, hmarks⟩ := List.countP_pos_iff.mp
    (show 0 < s.trace.countP (marks userId) by simp_all)
  cases c with
  | markCallTrialConsumedIfUnset other consumedAt =>
      simp only [marks, Bool.and_eq_true, decide_eq_true_eq] at hmarks
      obtain ⟨rfl, rfl⟩ := hmarks
      have htold :
          (⟨.markCallTrialConsumedIfUnset other consumedAt, true⟩ : GuestTold) ∈ s.told j :=
        Scene.mem_told.mpr hmem
      exact ⟨j, consumedAt, htold, hm j consumedAt htold⟩
  | _ => cases hmarks

theorem TrialInv.after (h : TrialInv requests w₀ userId s) (hdue : Due (requests i) (s.told i) c)
    (hsame : SameRoom requests i c s) :
    TrialInv requests w₀ userId (s.after (execGuest planner) i c) where
  guest := isGuest_after.trans h.guest
  profile := profile_after.trans h.profile
  count := by
    rw [consumed_after, Scene.after_trace, List.countP_cons]
    have hcount := h.count
    cases hm : marks userId ⟨i, c, (execGuest planner c s.world).1⟩ with
    | true =>
        rw [not_consumed_of_marks hm] at hcount ⊢
        simp_all
    | false => simpa using hcount
  flags j f hmem := by
    rcases (Scene.mem_told_after (execGuest planner)).mp hmem with ⟨rfl, heq⟩ | hmem
    · rw [Sigma.mk.injEq] at heq
      obtain ⟨rfl, heq⟩ := heq
      obtain ⟨row, hrow, hguest, hconsumed⟩ := h.row
      have hf := eq_of_heq heq
      simp only [execGuest, hrow, Option.map_some] at hf
      refine ⟨_, hf, hguest, fun hunset => ?_⟩
      have hcount := h.count
      have hunset : row.guestTrialConsumedAt.isSome = false := hunset
      rw [← hconsumed, hunset, Bool.toNat_false, Nat.add_eq_zero_iff] at hcount
      exact Bool.toNat_eq_zero.mp hcount.2
    · exact h.flags j f hmem
  found j found hmem := by
    rcases (Scene.mem_told_after (execGuest planner)).mp hmem with ⟨rfl, heq⟩ | hmem
    · rw [Sigma.mk.injEq] at heq
      obtain ⟨rfl, heq⟩ := heq
      obtain ⟨row, hrow, hguest, hconsumed⟩ := h.row
      refine ⟨row, (eq_of_heq heq).trans hrow, hguest, fun hne => ?_⟩
      rw [Option.isSome_iff_ne_none.mpr hne] at hconsumed
      obtain ⟨rfl, ha⟩ := hdue
      exact (h.consumedFor ha hconsumed.symm hsame).after i
    · obtain ⟨row, hrow, hguest, hfor⟩ := h.found j found hmem
      exact ⟨row, hrow, hguest, fun hne => (hfor hne).after i⟩
  marked j consumedAt b hmem := by
    rcases (Scene.mem_told_after (execGuest planner)).mp hmem with ⟨rfl, heq⟩ | hold
    · rw [Sigma.mk.injEq] at heq
      obtain ⟨rfl, heq⟩ := heq
      cases b with
      | true => exact ⟨i, consumedAt, hmem, rfl⟩
      | false =>
          -- the trial had been consumed in the meantime
          obtain ⟨row, hrow, hguest, hconsumed⟩ := h.row
          have hset : s.world.consumed userId = true := by
            have hf := eq_of_heq heq
            simp only [execGuest, hrow, Option.any_some, hguest, Bool.true_and] at hf
            rw [← hconsumed]
            cases hat : row.guestTrialConsumedAt with
            | none => simp [hat] at hf
            | some t => rfl
          obtain ⟨rfl, ha⟩ := hdue
          exact (h.consumedFor ha hset hsame).after i
    · exact (h.marked j consumedAt b hold).after i

theorem TrialInv.start (hguest : w₀.isGuest userId = true)
    (hprofile : (w₀.profiles userId).isSome = true) :
    TrialInv requests w₀ userId (guestRequests requests w₀).scene where
  guest := hguest
  profile := hprofile
  count := Nat.zero_add _
  flags _ _ hmem := by cases hmem
  found _ _ hmem := by cases hmem
  marked _ _ _ hmem := by cases hmem

/-- A request that has been served has consumed the trial for its room. -/
theorem TrialInv.of_passed (h : TrialInv requests w₀ userId s) (hp : Passed userId (s.told i)) :
    ConsumedFor requests userId i s := by
  obtain ⟨found, hmem, hf⟩ := hp
  obtain ⟨row, hrow, hguest, hfor⟩ := h.found i found hmem
  by_cases hnone : row.guestTrialConsumedAt = none
  · obtain ⟨consumedAt, b, hmark⟩ := hf row hrow hguest hnone
    exact h.marked i consumedAt b hmark
  · exact hfor hnone

theorem TrialInv.count_le (h : TrialInv requests w₀ userId s) :
    s.trace.countP (marks userId) ≤ 1 := by
  have hcount := h.count
  have hle := Bool.toNat_le (s.world.consumed userId)
  omega

/-- All that has been served is for the room for which the trial was consumed. -/
theorem TrialInv.sameRoom (h : TrialInv requests w₀ userId s) {j : ι}
    (hi : ConsumedFor requests userId i s) (hj : ConsumedFor requests userId j s) :
    (requests i).roomId = (requests j).roomId := by
  obtain ⟨k, t, hk, hik⟩ := hi
  obtain ⟨l, t', hl, hjl⟩ := hj
  have honce : s.AtMostOnce (marks userId) := h.count_le
  have heq := honce.eq (Scene.mem_told.mp hk) (Scene.mem_told.mp hl) (by simp [marks])
    (by simp [marks])
  cases heq
  exact hik.symm.trans hjl

/-- **A guest gets one room**, if every request comes to the trial before it is
consumed, or for the room for which it was. -/
theorem oneRoom_of_sameRoom (hguest : w₀.isGuest userId = true)
    (hprofile : (w₀.profiles userId).isSome = true) {sched : List ι}
    (hm : (guestRequests requests w₀).Meets (execGuest planner) (SameRoom requests) sched) :
    (∀ i j p q, (requests i).userId = userId → (requests j).userId = userId →
      ((guestRequests requests w₀).runs (execGuest planner) sched).threads i =
        .done (.ok (some p)) →
      ((guestRequests requests w₀).runs (execGuest planner) sched).threads j =
        .done (.ok (some q)) → p.roomId = q.roomId) ∧
    ((guestRequests requests w₀).runs (execGuest planner) sched).scene.trace.countP
      (marks userId) ≤ 1 ∧
    ∀ i p, (requests i).userId = userId →
      ((guestRequests requests w₀).runs (execGuest planner) sched).threads i =
        .done (.ok (some p)) →
      ((guestRequests requests w₀).runs (execGuest planner) sched).scene.trace.countP
          (marks userId) = 1 ∧
        ((guestRequests requests w₀).runs (execGuest planner) sched).scene.world.consumed
          userId = true := by
  have hlic : (guestRequests requests w₀).Licensed (execGuest planner)
      (fun i => Due (requests i)) (fun i => Served (requests i)) :=
    fun i => licensed_request (requests i)
  have hinv := hlic.runs_inv (I := TrialInv requests w₀ userId)
    (fun _ _ _ h hdue hsame => h.after hdue hsame) (.start hguest hprofile) hm
  have hserved {i : ι} {p : RtcTokenPayload} (hi : (requests i).userId = userId)
      (hdone : ((guestRequests requests w₀).runs (execGuest planner) sched).threads i =
        .done (.ok (some p))) : p.roomId = (requests i).roomId ∧ ConsumedFor requests userId i
          ((guestRequests requests w₀).runs (execGuest planner) sched).scene := by
    obtain ⟨hroom, hpassed⟩ := (hlic.runs sched).result hdone p rfl
    exact ⟨hroom, hinv.of_passed (hi ▸ hpassed)⟩
  refine ⟨fun i j p q hi hj hp hq => ?_, hinv.count_le, fun i p hi hp => ?_⟩
  · obtain ⟨hproom, hpfor⟩ := hserved hi hp
    obtain ⟨hqroom, hqfor⟩ := hserved hj hq
    rw [hproom, hqroom]
    exact hinv.sameRoom hpfor hqfor
  · obtain ⟨-, k, t, hk, -⟩ := hserved hi hp
    have hmarks : marks userId (⟨k, .markCallTrialConsumedIfUnset userId t, true⟩ :
        Event ι GuestCmd GuestCmd.Reply) = true := by simp [marks]
    have hone := Nat.le_antisymm hinv.count_le
      (List.countP_pos_iff.mpr ⟨_, Scene.mem_told.mp hk, hmarks⟩)
    refine ⟨hone, Bool.toNat_eq_one.mp ?_⟩
    have hcount := hinv.count
    have hle := Bool.toNat_le
      (((guestRequests requests w₀).runs (execGuest planner) sched).scene.world.consumed userId)
    omega

end Runs

namespace Sample

def zoe : UserId := ⟨"zoe", by decide⟩
def ian : UserId := ⟨"ian", by decide⟩

/-- A match of `ian`, who was called first, and `zoe`. -/
def matchRoom (id : RoomId) : Rooms.RoomRow where
  id := id
  hostUserId := ian
  title := "Match"
  visibility := .private_
  maxParticipants := 2
  status := .live
  startedAt := some 0
  rtcRoomId := some id
  roomType := .direct
  sessionKind := .match_

def green : RoomId := ⟨"green", by decide⟩
def blue : RoomId := ⟨"blue", by decide⟩

/-- `zoe`, a guest, has been matched twice. -/
def matchedTwice : GuestWorld where
  rooms := {
    rooms := ⟨[matchRoom green, matchRoom blue], by decide⟩
    participants := ⟨[⟨green, zoe, .participant, none⟩, ⟨blue, zoe, .participant, none⟩],
      by decide⟩
    guests := [zoe] }
  profiles userId := if userId = zoe then some {} else none

def bothRooms (first : Bool) : GuestRequest where
  userId := zoe
  roomId := if first then green else blue
  joins := !first

/-- Both requests arrive before either consumes the trial. -/
def arriveTogether : List Bool :=
  [true, false] ++ List.replicate 40 true ++ List.replicate 40 false

set_option maxRecDepth 4000 in
/-- `zoe` is let into both rooms. -/
theorem not_oneRoom_bothRooms :
    ((guestRequests bothRooms matchedTwice).runs (execGuest .inOrder)
      arriveTogether).threads true = .done (.ok (some ⟨green, .direct⟩)) ∧
    ((guestRequests bothRooms matchedTwice).runs (execGuest .inOrder)
      arriveTogether).threads false = .done (.ok (some ⟨blue, .direct⟩)) ∧ green ≠ blue := by
  exact ⟨rfl, rfl, by decide⟩

/-- She asks twice for the same room. -/
def greenTwice (first : Bool) : GuestRequest where
  userId := zoe
  roomId := green
  joins := !first

set_option maxRecDepth 4000 in
theorem oneRoom_greenTwice :
    ((guestRequests greenTwice matchedTwice).runs (execGuest .inOrder)
      arriveTogether).scene.trace.countP (marks zoe) = 1 ∧
    ((guestRequests greenTwice matchedTwice).runs (execGuest .inOrder)
      arriveTogether).scene.world.consumed zoe = true := by
  have hm : (guestRequests greenTwice matchedTwice).Meets (execGuest .inOrder)
      (SameRoom greenTwice) arriveTogether := by
    refine Conf.meets_of_forall (execGuest .inOrder) (fun i c s => ?_) _ _
    cases c with
    | findByUserId => exact fun _ _ _ => rfl
    | markCallTrialConsumedIfUnset => exact fun _ _ _ => rfl
    | _ => trivial
  exact (oneRoom_of_sameRoom rfl rfl hm).2.2 true ⟨green, .direct⟩ rfl rfl

end Sample

end Greetup.Guest
