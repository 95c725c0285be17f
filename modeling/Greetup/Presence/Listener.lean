import Greetup.Interleaving.Expansion
import Greetup.Presence.OtcIndex

/-!
The listeners of the events of sockets.

An event is the first command of its handler: the socket is in the room of its
user, or out of it, before the handler does anything.
-/

namespace Greetup.Presence

open Interleaving (Prog)
open Matching (Host UserId)

section Handlers

variable (userId : UserId)

def emitMatchStateOnConnect : M Unit := do
  if ← issue (.shouldSkipMatchStateRestore userId) then return ()
  else do
    let state ← issue (.getUserMatchState userId)
    issue (.emitMatchState userId state.restored)

def ensureProfileSnapshotCached : M Bool :=
  (Profile.ensureProfileSnapshotCached userId).expand fun c => issue (.snapshot c)

/-- What `userConnected` does when the user has been marked online. -/
def afterConnect : M Unit := do
  let _ ← ensureProfileSnapshotCached userId
  syncOpenToConnectIndexIfEnabled userId
  issue (.cancelGracePeriod userId)
  emitMatchStateOnConnect userId

def userHeartbeat : M Unit := do
  if ← issue (.existsPresence userId) then do
    issue (.expirePresence userId)
    refreshUserTtlIfIndexed userId
  else return ()

def startGracePeriodIfSearching : M Unit := do
  let state ← issue (.getUserMatchState userId)
  if state.status = .searching || state.status = .proposed then issue (.setGracePeriod userId)
  else return ()

/-- No fields are left. -/
def userOffline (timestamp : ℕ) : M Unit := do
  issue (.setOffline userId timestamp)
  removeUserFromIndex userId
  startGracePeriodIfSearching userId

/-- What `userDisconnected` does when it knows how many fields are left. -/
def afterRemove (timestamp ipsLeft : ℕ) : M Unit :=
  if ipsLeft > 0 then issue (.expirePresence userId) else userOffline userId timestamp

end Handlers

section Host

variable [Host]

def userConnected (socket : Socket) (timestamp : ℕ) : M Unit := do
  issue (.setOnline socket.userId socket.ipField socket.socketId timestamp)
  afterConnect socket.userId

def userDisconnected (socket : Socket) (timestamp : ℕ) : M Unit := do
  let _removed ← issue (.removeIpIfSocketMatches socket.userId socket.ipField socket.socketId)
  let ipsLeft ← issue (.hlen socket.userId)
  afterRemove socket.userId timestamp ipsLeft

end Host

/-- The callback of a timer of a grace period. -/
def gracePeriodOver (id : ℕ) : M Unit := do
  match ← issue (.runTimer id) with
  | none => return ()
  | some userId => issue (.cancelMatch userId)

/-- Users whose hash has gone are taken out of the set. -/
def retainLiveOnlineUserIds (userIds : List UserId) : M (List UserId) := do
  let rows ← issue (.existsEach userIds)
  let stale := ((userIds.zip rows).filter fun row => !row.2).map (·.1)
  forgetOffline stale
  return ((userIds.zip rows).filter (·.2)).map (·.1)

/-! ### What happens -/

inductive Happening
  | connected (socket : Socket)
  | heartbeat (userId : UserId)
  | disconnected (socket : Socket)
  /-- Somebody reads who is online. -/
  | retain (userIds : List UserId)
  | elapse (ms : ℕ)
  | timer (id : ℕ)
  /-- The matching engine moves on. -/
  | matching (userId : UserId) (state : MatchState)

def Happening.program [Host] : Happening → M Unit
  | .connected socket => issue (.connection socket) >>= userConnected socket
  | .heartbeat userId => userHeartbeat userId
  | .disconnected socket => issue (.disconnect socket) >>= userDisconnected socket
  | .retain userIds => (fun _ => ()) <$> retainLiveOnlineUserIds userIds
  | .elapse ms => issue (.elapse ms)
  | .timer id => gracePeriodOver id
  | .matching userId state => issue (.matchState userId state)

end Greetup.Presence
