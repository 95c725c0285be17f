import Greetup.Calls.Service

/-!
The history of a call where publishing it may fail.

An accepted call is logged when it ends, and a call that was not accepted when
its invite is closed. Both routines claim a key before they publish; only the
second gives its claim back when that fails. What has failed may have written
its message all the same.
-/

namespace Greetup.Calls.History

open Interleaving
open Rooms (UserId RoomId)

/-- What is published into the conversation. -/
structure HistoryEntry where
  conversationId : Option ConversationId
  callerUserId : Option UserId
  mode : ConnectionCallMode
  status : ConnectionCallHistoryStatus
  durationSec : Option ℤ
  deriving DecidableEq

/-- `historyLogged(roomId)`, or `historyLoggedForRequest(requestId)`. -/
inductive Key
  | room (roomId : RoomId)
  | request (requestId : RequestId)
  deriving DecidableEq

/-- How `publishSystemMessage` ends. It inserts the row first and then tells the
participants, and may throw before and after. -/
inductive Publishing
  | returns
  /-- It throws, and there is no row. -/
  | rejects
  /-- It throws, and leaves the row. -/
  | leaves
  deriving DecidableEq

structure HistoryWorld where
  calls : Store
  /-- What `Date.now()` answers, one reading after the other. -/
  clock : ℕ → ℤ
  readings : ℕ := 0
  /-- The messages, with the key that was claimed for them. -/
  published : List (Key × HistoryEntry) := []

inductive HistoryCmd
  | call (c : Cmd)
  | delHistoryLoggedForRequest (requestId : RequestId)
  | now
  /-- `publishSystemMessage`; it is told how it will end. -/
  | publish (key : Key) (entry : HistoryEntry) (publishing : Publishing)

@[reducible] def HistoryCmd.Reply : HistoryCmd → Type
  | .call c => c.Reply
  | .now => ℤ
  | .publish _ _ _ => Bool
  | .delHistoryLoggedForRequest _ => Unit

def HistoryWorld.unclaimRequest (w : HistoryWorld) (requestId : RequestId) : HistoryWorld :=
  { w with
    calls := { w.calls with
      historyLoggedForRequest :=
        Function.update w.calls.historyLoggedForRequest requestId none } }

def execHistory : (c : HistoryCmd) → HistoryWorld → c.Reply × HistoryWorld
  | .call c, w => ((exec c w.calls).1, { w with calls := (exec c w.calls).2 })
  | .delHistoryLoggedForRequest requestId, w => ((), w.unclaimRequest requestId)
  | .now, w => (w.clock w.readings, { w with readings := w.readings + 1 })
  | .publish key entry publishing, w =>
      (publishing = .returns,
        if publishing = .rejects then w else { w with published := (key, entry) :: w.published })

abbrev M := Prog HistoryCmd HistoryCmd.Reply

abbrev issue (c : HistoryCmd) : M c.Reply := Prog.perform c

inductive Outcome
  | returned
  | threw
  deriving DecidableEq

/-! ### An accepted call -/

def clearActiveConnectionCall (roomId : RoomId) : M Unit :=
  issue (.call (.delActiveByRoom roomId))

def clearIfPublished (roomId : RoomId) (published : Bool) : M Outcome :=
  if published then do
    clearActiveConnectionCall roomId
    return .returned
  else return .threw

def finalizeLogged (roomId : RoomId) (call : ActiveConnectionCallMeta)
    (publishing : Publishing) (logged : Bool) :
    M Outcome :=
  if logged then do
    let now ← issue .now
    let published ← issue (.publish (.room roomId)
      { conversationId := call.conversationId, callerUserId := call.callerUserId
        mode := call.mode, status := .completed
        durationSec := durationSec call.acceptedAt now } publishing)
    clearIfPublished roomId published
  else return .returned

def finalizeActive (roomId : RoomId) (publishing : Publishing)
    (call : Option ActiveConnectionCallMeta) : M Outcome :=
  match call with
  | none => return .returned
  | some call => do
      let logged ← issue (.call (.setHistoryLoggedNX roomId))
      finalizeLogged roomId call publishing logged

/-- An error of the publishing is thrown on. -/
def finalizeConnectionCallHistory (roomId : RoomId) (publishing : Publishing) : M Outcome := do
  let call ← issue (.call (.getActiveByRoom roomId))
  finalizeActive roomId publishing call

/-! ### A call that was not accepted -/

def unclaimUnlessPublished (requestId : RequestId) (published : Bool) : M Outcome :=
  if published then return .returned
  else do
    issue (.delHistoryLoggedForRequest requestId)
    return .returned

def recordClaimed (invite : InviteRecord) (status : ConnectionCallHistoryStatus)
    (publishing : Publishing) (dedupe : Bool) : M Outcome :=
  if dedupe then do
    let published ← issue (.publish (.request invite.requestId)
      { conversationId := invite.conversationId, callerUserId := invite.callerUserId
        mode := invite.mode, status, durationSec := none } publishing)
    unclaimUnlessPublished invite.requestId published
  else return .returned

/-- An error of the publishing is logged, and forgotten with the claim. -/
def recordPendingCallOutcome (invite : InviteRecord) (status : ConnectionCallHistoryStatus)
    (publishing : Publishing) : M Outcome :=
  if invite.conversationId = none then return .returned
  else do
    let dedupe ← issue (.call (.setHistoryLoggedForRequestNX invite.requestId status))
    recordClaimed invite status publishing dedupe

/-! ### Calls of the two -/

/-- With how its attempt to publish ends. -/
inductive HistoryCall
  | finalize (roomId : RoomId) (publishing : Publishing)
  | record (invite : InviteRecord) (status : ConnectionCallHistoryStatus)
      (publishing : Publishing)

namespace HistoryCall

def program : HistoryCall → M Outcome
  | .finalize roomId publishing => finalizeConnectionCallHistory roomId publishing
  | .record invite status publishing => recordPendingCallOutcome invite status publishing

def key : HistoryCall → Key
  | .finalize roomId _ => .room roomId
  | .record invite _ _ => .request invite.requestId

def publishing : HistoryCall → Publishing
  | .finalize _ publishing => publishing
  | .record _ _ publishing => publishing

end HistoryCall

/-! ### The same as without failures -/

section Alone

open Prog

variable (planner : Rooms.Planner)

/-- Where publishing succeeds, the keys end up as they do in the service that
knows no failures. -/
theorem finalize_calls_eq (roomId : RoomId) (w : HistoryWorld) (v : Rooms.World)
    (hcalls : v.calls = w.calls) :
    ((Calls.finalizeConnectionCallHistory roomId).run (Rooms.exec planner) v).2.calls =
      ((finalizeConnectionCallHistory roomId .returns).run execHistory w).2.calls := by
  obtain ⟨calls, clock, readings, published⟩ := w
  subst hcalls
  simp only [Calls.finalizeConnectionCallHistory, finalizeConnectionCallHistory, run_bind,
    run_perform, execHistory, Rooms.exec, exec]
  cases hactive : v.calls.activeByRoom roomId with
  | none => rfl
  | some call =>
      cases hlogged : v.calls.historyLogged roomId with
      | true =>
          simp [finalizeActive, finalizeLogged, Calls.finalizeLogged, Rooms.exec, execHistory,
            exec, hlogged]
      | false =>
          simp [finalizeActive, finalizeLogged, Calls.finalizeLogged, clearIfPublished,
            clearActiveConnectionCall, Calls.clearActiveConnectionCall, Rooms.exec,
            Rooms.World.send, execHistory, exec, hlogged]

theorem record_calls_eq (invite : InviteRecord) (status : ConnectionCallHistoryStatus)
    (w : HistoryWorld) (v : Rooms.World) (hcalls : v.calls = w.calls) :
    ((Calls.recordPendingCallOutcome invite status).run (Rooms.exec planner) v).2.calls =
      ((recordPendingCallOutcome invite status .returns).run execHistory w).2.calls := by
  obtain ⟨calls, clock, readings, published⟩ := w
  subst hcalls
  unfold Calls.recordPendingCallOutcome recordPendingCallOutcome
  split
  · rfl
  · cases hlogged : v.calls.historyLoggedForRequest invite.requestId with
    | some s => simp [recordClaimed, recordFirst, Rooms.exec, execHistory, exec, hlogged]
    | none =>
        simp [recordClaimed, recordFirst, unclaimUnlessPublished, Rooms.exec, Rooms.World.send,
          execHistory, exec, hlogged]

end Alone

end Greetup.Calls.History
