import Greetup.Calls.Once

/-!
Whether one call at a time rings at a callee.

The slot of the callee is claimed with `SET NX`, and the invite that rings is
written two commands later. Whoever settles an invite deletes the slot of its
callee, whatever invite holds it by then.
-/

namespace Greetup.Calls

open Interleaving Prog
open Rooms (UserId RoomId M World AccessError)

variable (planner : Rooms.Planner)

/-! ### The calls -/

inductive ConnectionCall
  | initiate (callerUserId : UserId) (conversationId : ConversationId) (mode : ConnectionCallMode)
  | settle (settling : Settling)
  /-- the slot of the callee reaches its TTL -/
  | slotExpires (calleeUserId : UserId)

inductive ConnectionCallOutcome
  | initiated (result : Except AccessError ConnectionCallInitiateResult)
  | settled (result : SettlingResult)
  | slotExpired

def ConnectionCall.program : ConnectionCall → M ConnectionCallOutcome
  | initiate callerUserId conversationId mode =>
      .initiated <$> initiateConnectionCallService callerUserId conversationId mode
  | settle settling => .settled <$> settling.program
  | slotExpires calleeUserId =>
      (fun _ => .slotExpired) <$> Rooms.issue (.call (.expiredPendingForCallee calleeUserId))

/-- The call has drawn the id. -/
def Drawn (h : History) (requestId : RequestId) : Prop :=
  (⟨.randomUUID, requestId⟩ : Told Rooms.Cmd Rooms.Cmd.Reply) ∈ h

/-- The call has claimed the slot for its invite. -/
def Claimed (h : History) (calleeUserId : UserId) (requestId : RequestId) : Prop :=
  (⟨.call (.setPendingForCalleeNX calleeUserId requestId), true⟩ :
    Told Rooms.Cmd Rooms.Cmd.Reply) ∈ h

/-- The call has written no invite yet. -/
def NotRung (h : History) : Prop :=
  ∀ e ∈ h, ∀ requestId fields, e.1 ≠ .call (.hsetInvite requestId fields)

/-- What a caller has been told: an id is claimed that was drawn, and one invite
is written, for the slot that was claimed. -/
def MayRing (h : History) : Rooms.Cmd → Prop
  | .call (.setPendingForCalleeNX _ requestId) => Drawn h requestId
  | .call (.hsetInvite requestId fields) =>
      NotRung h ∧ fields.requestId = some requestId ∧
        ∃ calleeUserId, Claimed h calleeUserId requestId ∧ fields.calleeUserId = some calleeUserId
  | .call (.delInvite _) | .call (.delPendingForCallee _) => False
  | .call (.expiredPendingForCallee _) => False
  | _ => True

def ConnectionCall.Licence (call : ConnectionCall) (h : History) (c : Rooms.Cmd) : Prop :=
  match call with
  | initiate .. => MayRing h c
  | settle settling => settling.Licence h c
  | slotExpires calleeUserId => c = .call (.expiredPendingForCallee calleeUserId)

section Walk

variable {planner} {h : History} {callerUserId calleeUserId : UserId}
  {conversationId : ConversationId} {mode : ConnectionCallMode}

theorem NotRung.cons {e : Told Rooms.Cmd Rooms.Cmd.Reply} (h' : NotRung h)
    (he : ∀ requestId fields, e.1 ≠ .call (.hsetInvite requestId fields)) : NotRung (e :: h) := by
  intro e' he'
  rcases List.mem_cons.mp he' with rfl | he'
  · exact he
  · exact h' e' he'

theorem EndsRoom.mayRing {c : Rooms.Cmd} (hc : EndsRoom c) (h : History) : MayRing h c := by
  rcases hc with hc | ⟨roomId, rfl⟩
  · cases c with
    | call => exact hc.elim
    | _ => trivial
  · trivial

abbrev Rings (planner : Rooms.Planner) {α : Type} (p : M α) (h : History) : Prop :=
  p.Licensed (Rooms.exec planner) MayRing (fun _ _ => True) h

/-- A command that rings nobody. -/
theorem rings_issue {α : Type} {c : Rooms.Cmd} {f : c.Reply → M α} (hnot : NotRung h)
    (hc : MayRing h c) (hset : ∀ requestId fields, c ≠ .call (.hsetInvite requestId fields))
    (hf : ∀ r, NotRung (⟨c, r⟩ :: h) → Rings planner (f r) (⟨c, r⟩ :: h)) :
    Rings planner (Rooms.issue c >>= f) h :=
  ⟨hc, fun _ => hf _ (hnot.cons hset)⟩

theorem rings_ringIfClaimed {requestId : RequestId} (roomId : RoomId) (createdAt : ℤ)
    (pendingClaimed : Bool) (hnot : NotRung h)
    (hclaimed : pendingClaimed = true → Claimed h calleeUserId requestId) :
    Rings planner (ringIfClaimed callerUserId calleeUserId conversationId mode requestId roomId
      createdAt pendingClaimed) h := by
  rw [ringIfClaimed]
  split
  · rename_i hpending
    refine rings_issue hnot trivial (by rintro _ _ ⟨⟩) fun _ hnot => ?_
    refine ⟨⟨hnot, rfl, calleeUserId, ?_, rfl⟩, fun _ => ⟨trivial, fun _ => trivial⟩⟩
    exact List.mem_cons_of_mem _ (hclaimed hpending)
  · exact (finalizeDeclinedRoom_uses.licensed fun h _ hc => hc.mayRing h).bind
      fun _ _ _ => trivial

theorem rings_ringNew (category : Bool) (hnot : NotRung h) :
    Rings planner (ringNew callerUserId calleeUserId conversationId mode category) h := by
  rw [ringNew]
  split
  · trivial
  refine rings_issue hnot trivial (by rintro _ _ ⟨⟩) fun requestId hnot => ?_
  refine rings_issue hnot trivial (by rintro _ _ ⟨⟩) fun roomId hnot => ?_
  refine rings_issue hnot trivial (by rintro _ _ ⟨⟩) fun createdAt hnot => ?_
  refine rings_issue hnot trivial (by rintro _ _ ⟨⟩) fun _ hnot => ?_
  refine rings_issue hnot trivial (by rintro _ _ ⟨⟩) fun _ hnot => ?_
  refine rings_issue hnot ?_ (by rintro _ _ ⟨⟩) fun pendingClaimed hnot => ?_
  · show Drawn _ requestId
    simp [Drawn]
  · apply rings_ringIfClaimed roomId createdAt pendingClaimed hnot
    rintro rfl
    exact List.mem_cons_self

theorem rings_ringAgain (existing : Option InviteRecord) :
    Rings planner (ringAgain callerUserId calleeUserId existing) h := by
  cases existing with
  | none => trivial
  | some existing =>
      rw [ringAgain]
      split
      · exact ⟨trivial, fun _ => trivial⟩
      · trivial

theorem rings_ringUnlessPending (existingPendingId : Option RequestId) (hnot : NotRung h) :
    Rings planner (ringUnlessPending callerUserId calleeUserId conversationId mode
      existingPendingId) h := by
  cases existingPendingId with
  | none =>
      refine rings_issue hnot trivial (by rintro _ _ ⟨⟩) fun category hnot => ?_
      exact rings_ringNew category hnot
  | some existingPendingId =>
      refine ⟨trivial, fun w => ?_⟩
      exact rings_ringAgain _

theorem rings_ringUnlessBusy (callerRoomId calleeRoomId : Option RoomId) (hnot : NotRung h) :
    Rings planner (ringUnlessBusy callerUserId calleeUserId conversationId mode callerRoomId
      calleeRoomId) h := by
  rw [ringUnlessBusy]
  split
  · trivial
  split
  · trivial
  refine rings_issue hnot trivial (by rintro _ _ ⟨⟩) fun existingPendingId hnot => ?_
  exact rings_ringUnlessPending existingPendingId hnot

theorem rings_ringIfConnected (connected : Bool) (hnot : NotRung h) :
    Rings planner (ringIfConnected callerUserId calleeUserId conversationId mode connected) h := by
  rw [ringIfConnected]
  split
  · trivial
  refine rings_issue hnot trivial (by rintro _ _ ⟨⟩) fun online hnot => ?_
  rw [ringIfOnline]
  split
  · trivial
  refine rings_issue hnot trivial (by rintro _ _ ⟨⟩) fun callerRoomId hnot => ?_
  refine rings_issue hnot trivial (by rintro _ _ ⟨⟩) fun calleeRoomId hnot => ?_
  exact rings_ringUnlessBusy callerRoomId calleeRoomId hnot

theorem rings_ringPeer (conv : Option Rooms.Conversation) (hnot : NotRung h) :
    Rings planner (ringPeer callerUserId conversationId mode conv) h := by
  cases conv with
  | none => trivial
  | some conv =>
      rw [ringPeer]
      split
      · trivial
      cases resolveDmPeerUserId conv callerUserId with
      | none => trivial
      | some calleeUserId =>
          refine rings_issue hnot trivial (by rintro _ _ ⟨⟩) fun connected hnot => ?_
          exact rings_ringIfConnected connected hnot

end Walk

/-- **Every call** has its licences. -/
theorem ConnectionCall.obeys (call : ConnectionCall) :
    call.program.Licensed (Rooms.exec planner) call.Licence (fun _ _ => True) [] := by
  cases call with
  | initiate callerUserId conversationId mode =>
      have hnone : NotRung [] := by
        intro e he
        cases he
      apply Licensed.map
      refine rings_issue hnone trivial (by rintro _ _ ⟨⟩) fun conv hnot => ?_
      exact rings_ringPeer conv hnot
  | settle settling => exact Licensed.map ((settling.obeys planner).mono fun _ _ _ => trivial)
  | slotExpires calleeUserId => exact ⟨rfl, fun _ => trivial⟩

end Greetup.Calls
