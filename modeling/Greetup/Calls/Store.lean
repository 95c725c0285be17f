import Greetup.Rooms.Types
import Mathlib.Data.Int.Notation

/-!
The Redis keys of the calls between connections: the invite, the slot of the
callee, and what is kept about an accepted call for its history.
-/

namespace Greetup.Calls

open Matching (Text)
open Rooms (UserId RoomId)

abbrev RequestId := Text
abbrev ConversationId := Text

inductive ConnectionCallMode
  | audio
  | video
  deriving DecidableEq

inductive InviteStatus
  | pending
  | accepted
  | declined
  | cancelled
  | missed
  deriving DecidableEq

/-- What a call leaves in the conversation. -/
inductive ConnectionCallHistoryStatus
  | completed
  | declined
  | cancelled
  | missed
  deriving DecidableEq

/-- The hash `connection:call:invite:{requestId}`; a field may be missing. -/
structure InviteHash where
  requestId : Option RequestId := none
  roomId : Option RoomId := none
  conversationId : Option ConversationId := none
  callerUserId : Option UserId := none
  calleeUserId : Option UserId := none
  mode : Option ConnectionCallMode := none
  status : Option InviteStatus := none
  createdAt : Option ℤ := none
  deriving DecidableEq

/-- `HSET` of the fields that are given. -/
def InviteHash.hset (old new : InviteHash) : InviteHash where
  requestId := new.requestId.or old.requestId
  roomId := new.roomId.or old.roomId
  conversationId := new.conversationId.or old.conversationId
  callerUserId := new.callerUserId.or old.callerUserId
  calleeUserId := new.calleeUserId.or old.calleeUserId
  mode := new.mode.or old.mode
  status := new.status.or old.status
  createdAt := new.createdAt.or old.createdAt

structure ActiveConnectionCallMeta where
  conversationId : Option ConversationId
  callerUserId : Option UserId
  calleeUserId : Option UserId
  mode : ConnectionCallMode
  acceptedAt : ℤ
  requestId : RequestId
  deriving DecidableEq

/-- The keys, one field per family. -/
structure Store where
  invite : RequestId → Option InviteHash := fun _ => none
  pendingForCallee : UserId → Option RequestId := fun _ => none
  pendingByRoom : RoomId → Option RequestId := fun _ => none
  activeByRoom : RoomId → Option ActiveConnectionCallMeta := fun _ => none
  historyLogged : RoomId → Bool := fun _ => false
  historyLoggedForRequest : RequestId → Option ConnectionCallHistoryStatus := fun _ => none

inductive Cmd
  | hgetallInvite (requestId : RequestId)
  | hsetInvite (requestId : RequestId) (fields : InviteHash)
  | delInvite (requestId : RequestId)
  | getPendingForCallee (userId : UserId)
  | setPendingForCalleeNX (userId : UserId) (requestId : RequestId)
  | delPendingForCallee (userId : UserId)
  | getPendingByRoom (roomId : RoomId)
  | setPendingByRoom (roomId : RoomId) (requestId : RequestId)
  | delPendingByRoom (roomId : RoomId)
  | getActiveByRoom (roomId : RoomId)
  | setActiveByRoom (roomId : RoomId) (call : ActiveConnectionCallMeta)
  | delActiveByRoom (roomId : RoomId)
  | setHistoryLoggedNX (roomId : RoomId)
  | setHistoryLoggedForRequestNX (requestId : RequestId) (status : ConnectionCallHistoryStatus)
  /-- the slot reaches its TTL -/
  | expiredPendingForCallee (userId : UserId)

@[reducible] def Cmd.Reply : Cmd → Type
  | .hgetallInvite _ => Option InviteHash
  | .getPendingForCallee _ => Option RequestId
  | .setPendingForCalleeNX _ _ => Bool
  | .getPendingByRoom _ => Option RequestId
  | .getActiveByRoom _ => Option ActiveConnectionCallMeta
  | .setHistoryLoggedNX _ => Bool
  | .setHistoryLoggedForRequestNX _ _ => Bool
  | _ => Unit

namespace Store

variable (s : Store)

def setInvite (requestId : RequestId) (hash : Option InviteHash) : Store :=
  { s with invite := Function.update s.invite requestId hash }

def setPendingForCallee (userId : UserId) (requestId : Option RequestId) : Store :=
  { s with pendingForCallee := Function.update s.pendingForCallee userId requestId }

def setPendingByRoom (roomId : RoomId) (requestId : Option RequestId) : Store :=
  { s with pendingByRoom := Function.update s.pendingByRoom roomId requestId }

def setActiveByRoom (roomId : RoomId) (call : Option ActiveConnectionCallMeta) : Store :=
  { s with activeByRoom := Function.update s.activeByRoom roomId call }

end Store

def exec : (c : Cmd) → Store → c.Reply × Store
  | .hgetallInvite requestId, s => (s.invite requestId, s)
  | .hsetInvite requestId fields, s =>
      ((), s.setInvite requestId (some (((s.invite requestId).getD {}).hset fields)))
  | .delInvite requestId, s => ((), s.setInvite requestId none)
  | .getPendingForCallee userId, s => (s.pendingForCallee userId, s)
  | .setPendingForCalleeNX userId requestId, s =>
      if s.pendingForCallee userId = none then
        (true, s.setPendingForCallee userId (some requestId))
      else (false, s)
  | .delPendingForCallee userId, s => ((), s.setPendingForCallee userId none)
  | .getPendingByRoom roomId, s => (s.pendingByRoom roomId, s)
  | .setPendingByRoom roomId requestId, s => ((), s.setPendingByRoom roomId (some requestId))
  | .delPendingByRoom roomId, s => ((), s.setPendingByRoom roomId none)
  | .getActiveByRoom roomId, s => (s.activeByRoom roomId, s)
  | .setActiveByRoom roomId call, s => ((), s.setActiveByRoom roomId (some call))
  | .delActiveByRoom roomId, s => ((), s.setActiveByRoom roomId none)
  | .setHistoryLoggedNX roomId, s =>
      (!s.historyLogged roomId,
        { s with historyLogged := Function.update s.historyLogged roomId true })
  | .setHistoryLoggedForRequestNX requestId status, s =>
      if s.historyLoggedForRequest requestId = none then
        (true, { s with
          historyLoggedForRequest :=
            Function.update s.historyLoggedForRequest requestId (some status) })
      else (false, s)
  | .expiredPendingForCallee userId, s => ((), s.setPendingForCallee userId none)

end Greetup.Calls
