import Greetup.Connections.Store

/-!
The services that make and end connections, those that block users, and the
caches that both keep for the matching service.
-/

namespace Greetup.Connections

open Interleaving

/-! ### The peers that matching reads -/

def addPeer (userId peerUserId : UserId) : M Unit :=
  if userId = peerUserId then return () else issue (.addPeer userId peerUserId)

/-- Both ways, when a connection becomes accepted. -/
def addMatchingConnectionPeers (userA userB : UserId) : M Unit := do
  addPeer userA userB
  addPeer userB userA

/-- Both ways, when an accepted connection ends. -/
def removeMatchingConnectionPeers (userA userB : UserId) : M Unit := do
  issue (.removePeer userA userB)
  issue (.removePeer userB userA)

def ConnectionRow.peerOf (row : ConnectionRow) (userId : UserId) : UserId :=
  if row.requesterId = userId then row.addresseeId else row.requesterId

def getAcceptedPeerIdsForUser (userId : UserId) : M (List UserId) := do
  let rows ← issue (.findAcceptedPeerIdColumns userId)
  return rows.map (·.peerOf userId)

/-- The set of one user, from the database. -/
def syncMatchingConnectionPeersFromDatabase (userId : UserId) : M Unit := do
  let peerIds ← getAcceptedPeerIdsForUser userId
  issue (.replacePeers userId peerIds)

/-! ### Requests -/

inductive RequestError
  | self
  | blocked
  | alreadyConnected
  deriving DecidableEq

inductive RequestConnectionResult
  | ok (status : ConnectionStatus) (connectionId : ConnectionId)
  | error (error : RequestError)
  deriving DecidableEq

def isStaleRow (row : ConnectionRow) : Bool := row.status = .rejected || row.status = .cancelled

def emitConnectionUpdated (recipientUserId peerUserId : UserId) (connectionId : ConnectionId)
    (status : Option ConnectionStatus) : M Unit :=
  issue (.send (.connectionUpdated recipientUserId peerUserId connectionId status))

def emitConnectionUpdatedToPeer (actorUserId : UserId) (row : ConnectionRow) : M Unit :=
  emitConnectionUpdated (row.peerOf actorUserId) actorUserId row.id none

/-- The request is pending, and the other user is told. -/
def requested (viewerId targetUserId : UserId) (connectionId : ConnectionId)
    (dedupeSalt : Option String) : M (Option RequestConnectionResult) := do
  issue (.send (.connectionRequestReceived targetUserId viewerId connectionId dedupeSalt))
  return some (.ok .pending connectionId)

def markPendingById (connectionId : ConnectionId) : M Unit :=
  (fun _ => ()) <$> issue (.updateStatusById connectionId .pending)

def reopen (viewerId targetUserId : UserId) (direct : ConnectionRow) (dedupeSalt : String) :
    M (Option RequestConnectionResult) := do
  markPendingById direct.id
  requested viewerId targetUserId direct.id (some dedupeSalt)

def mergeDeleted (viewerId targetUserId : UserId) (direct : ConnectionRow) :
    Except Unit (Option ConnectionRow) → M (Option RequestConnectionResult)
  | .error _ => return none
  | .ok _ => reopen viewerId targetUserId direct "merged"

def flipped (viewerId targetUserId : UserId) (reverse : ConnectionRow) :
    Except Unit (Option ConnectionRow) → M (Option RequestConnectionResult)
  | .error _ => return none
  | .ok _ => requested viewerId targetUserId reverse.id (some "retry-flip")

def inserted (viewerId targetUserId : UserId) :
    Option ConnectionId → M (Option RequestConnectionResult)
  | none => return none
  | some connectionId => requested viewerId targetUserId connectionId none

/-- No request is pending: the stale rows are reopened or merged, or a row is
inserted. -/
def openRequest (viewerId targetUserId : UserId) (direct reverse : Option ConnectionRow) :
    M (Option RequestConnectionResult) :=
  match direct.filter isStaleRow, reverse.filter isStaleRow with
  | some direct, some reverse => do
      let reply ← issue (.deleteById reverse.id)
      mergeDeleted viewerId targetUserId direct reply
  | some direct, none => reopen viewerId targetUserId direct "retry"
  | none, some reverse => do
      let reply ← issue (.setAsPendingRequest reverse.id viewerId targetUserId)
      flipped viewerId targetUserId reverse reply
  | none, none => do
      let connectionId ← issue (.insertPendingRequest viewerId targetUserId)
      inserted viewerId targetUserId connectionId

/-- A request that meets the other's request accepts it. -/
def meetPending (viewerId targetUserId : UserId) (pending : ConnectionRow) :
    M (Option RequestConnectionResult) :=
  if pending.requesterId = targetUserId && pending.addresseeId = viewerId then do
    let _ ← issue (.updateStatusById pending.id .accepted)
    addMatchingConnectionPeers viewerId targetUserId
    emitConnectionUpdated targetUserId viewerId pending.id (some .accepted)
    return some (.ok .accepted pending.id)
  else return some (.ok .pending pending.id)

def ConnectionRow.isFrom (requesterId addresseeId : UserId) (row : ConnectionRow) : Bool :=
  row.requesterId = requesterId && row.addresseeId = addresseeId

def requestAmong (viewerId targetUserId : UserId) (rows : List ConnectionRow) :
    M (Option RequestConnectionResult) :=
  if rows.any (·.status = .accepted) then return some (.error .alreadyConnected)
  else
    match rows.find? (·.status = .pending) with
    | some pending => meetPending viewerId targetUserId pending
    | none =>
        openRequest viewerId targetUserId
          (rows.find? (ConnectionRow.isFrom viewerId targetUserId))
          (rows.find? (ConnectionRow.isFrom targetUserId viewerId))

def requestUnlessBlocked (viewerId targetUserId : UserId) (blocked : Bool) :
    M (Option RequestConnectionResult) :=
  if blocked then return some (.error .blocked)
  else do
    let rows ← issue (.findAllBetween viewerId targetUserId)
    requestAmong viewerId targetUserId rows

/-- Nothing is returned when a statement throws. -/
def requestConnectionService (viewerId targetUserId : UserId) :
    M (Option RequestConnectionResult) :=
  if viewerId = targetUserId then return some (.error .self)
  else do
    let blocked ← issue (.isEitherBlocked viewerId targetUserId)
    requestUnlessBlocked viewerId targetUserId blocked

/-! ### Answers -/

inductive ConnectionError
  | notFound
  | forbidden
  | invalidState
  deriving DecidableEq

/-- What the services that act on one row return. -/
inductive ConnectionResult
  | ok
  | error (error : ConnectionError)
  deriving DecidableEq

def gateAddresseePending (row : Option ConnectionRow) (viewerId : UserId) :
    Except ConnectionError ConnectionRow :=
  match row with
  | none => .error .notFound
  | some row =>
      if row.addresseeId ≠ viewerId then .error .forbidden
      else if row.status ≠ .pending then .error .invalidState
      else .ok row

def acceptGated (viewerId : UserId) : Except ConnectionError ConnectionRow → M ConnectionResult
  | .error error => return .error error
  | .ok row => do
      let _ ← issue (.updateStatusById row.id .accepted)
      addMatchingConnectionPeers row.requesterId viewerId
      issue (.send (.connectionRequestAccepted row.requesterId viewerId row.id))
      emitConnectionUpdated row.requesterId viewerId row.id (some .accepted)
      return .ok

def acceptIncomingConnectionService (viewerId : UserId) (connectionId : ConnectionId) :
    M ConnectionResult := do
  let row ← issue (.findConnection connectionId)
  acceptGated viewerId (gateAddresseePending row viewerId)

def rejectGated (viewerId : UserId) : Except ConnectionError ConnectionRow → M ConnectionResult
  | .error error => return .error error
  | .ok row => do
      let _ ← issue (.updateStatusById row.id .rejected)
      emitConnectionUpdated row.requesterId viewerId row.id (some .rejected)
      return .ok

def rejectIncomingConnectionService (viewerId : UserId) (connectionId : ConnectionId) :
    M ConnectionResult := do
  let row ← issue (.findConnection connectionId)
  rejectGated viewerId (gateAddresseePending row viewerId)

/-! ### Ends -/

def gateRequesterPending (row : Option ConnectionRow) (viewerId : UserId) :
    Except ConnectionError ConnectionRow :=
  match row with
  | none => .error .notFound
  | some row =>
      if row.requesterId ≠ viewerId then .error .forbidden
      else if row.status ≠ .pending then .error .invalidState
      else .ok row

def withdrawGated (viewerId : UserId) : Except ConnectionError ConnectionRow → M ConnectionResult
  | .error error => return .error error
  | .ok row => do
      let _ ← issue (.cancelPendingOutgoingRequest row.id viewerId)
      emitConnectionUpdated row.addresseeId viewerId row.id none
      return .ok

def withdrawConnectionRequestService (viewerId : UserId) (connectionId : ConnectionId) :
    M ConnectionResult := do
  let row ← issue (.findConnection connectionId)
  withdrawGated viewerId (gateRequesterPending row viewerId)

def gatePeerAccepted (row : Option ConnectionRow) (viewerId : UserId) :
    Except ConnectionError ConnectionRow :=
  match row with
  | none => .error .notFound
  | some row =>
      if row.requesterId ≠ viewerId && row.addresseeId ≠ viewerId then .error .forbidden
      else if row.status ≠ .accepted then .error .invalidState
      else .ok row

def disconnectGated (viewerId : UserId) : Except ConnectionError ConnectionRow → M ConnectionResult
  | .error error => return .error error
  | .ok row => do
      let _ ← issue (.cancelAcceptedConnectionAsPeer row.id viewerId)
      removeMatchingConnectionPeers viewerId (row.peerOf viewerId)
      emitConnectionUpdatedToPeer viewerId row
      return .ok

def disconnectConnectionService (viewerId : UserId) (connectionId : ConnectionId) :
    M ConnectionResult := do
  let row ← issue (.findConnection connectionId)
  disconnectGated viewerId (gatePeerAccepted row viewerId)

/-! ### Blocks -/

def cancelRow (viewerId : UserId) (row : ConnectionRow) : M Unit :=
  if row.status = .accepted then do
    let _ ← issue (.cancelAcceptedConnectionAsPeer row.id viewerId)
    emitConnectionUpdatedToPeer viewerId row
  else if row.status ≠ .pending then return ()
  else if row.requesterId = viewerId then do
    let _ ← issue (.cancelPendingOutgoingRequest row.id viewerId)
    emitConnectionUpdatedToPeer viewerId row
  else do
    let _ ← issue (.updateStatusById row.id .rejected)
    emitConnectionUpdatedToPeer viewerId row

def cancelRows (viewerId : UserId) : List ConnectionRow → M Unit
  | [] => return ()
  | row :: rows => do
      cancelRow viewerId row
      cancelRows viewerId rows

/-- Ends what is open or accepted between the two, after a block. -/
def cancelPeerConnectionsOnBlock (viewerId targetUserId : UserId) : M Unit := do
  let rows ← issue (.findAllBetween viewerId targetUserId)
  cancelRows viewerId rows

inductive BlockUserResult
  | ok (alreadyBlocked : Bool)
  | self
  deriving DecidableEq

def blocked (viewerId targetUserId : UserId) (alreadyBlocked : Bool) :
    M (Option BlockUserResult) := do
  issue (.redisAddUserBlock viewerId targetUserId)
  cancelPeerConnectionsOnBlock viewerId targetUserId
  issue (.send (.messagingBlock viewerId targetUserId true))
  return some (.ok alreadyBlocked)

def blockInserted (viewerId targetUserId : UserId) (inserted : Bool) :
    M (Option BlockUserResult) :=
  if inserted then blocked viewerId targetUserId false else return none

/-- `createBlock` looks once more before it inserts. -/
def createBlock (viewerId targetUserId : UserId) (existing : Bool) : M (Option BlockUserResult) :=
  if existing then blocked viewerId targetUserId false
  else do
    let inserted ← issue (.insertBlock viewerId targetUserId)
    blockInserted viewerId targetUserId inserted

def blockUnlessBlocked (viewerId targetUserId : UserId) (alreadyBlocked : Bool) :
    M (Option BlockUserResult) :=
  if alreadyBlocked then blocked viewerId targetUserId true
  else do
    let existing ← issue (.isBlockedBy viewerId targetUserId)
    createBlock viewerId targetUserId existing

def blockUserService (viewerId targetUserId : UserId) : M (Option BlockUserResult) :=
  if viewerId = targetUserId then return some .self
  else do
    let alreadyBlocked ← issue (.isBlockedBy viewerId targetUserId)
    blockUnlessBlocked viewerId targetUserId alreadyBlocked

def unblocked (viewerId targetUserId : UserId) (removed : Bool) : M Bool :=
  if removed then do
    issue (.redisRemoveUserBlock viewerId targetUserId)
    issue (.send (.messagingBlock viewerId targetUserId false))
    return true
  else return false

/-- Whether there was a block to remove. -/
def unblockUserService (viewerId targetUserId : UserId) : M Bool := do
  let removed ← issue (.removeBlock viewerId targetUserId)
  unblocked viewerId targetUserId removed

/-- The two lists are read at once, in either order. -/
def readBlocks (userId : UserId) (outgoingFirst : Bool) : M (List UserId × List UserId) :=
  if outgoingFirst then do
    let outgoing ← issue (.listBlockedUserIds userId)
    let incoming ← issue (.listBlockerUserIds userId)
    return (outgoing, incoming)
  else do
    let incoming ← issue (.listBlockerUserIds userId)
    let outgoing ← issue (.listBlockedUserIds userId)
    return (outgoing, incoming)

/-- The two sets of one user, from the database. -/
def syncUserBlocksToRedis (userId : UserId) (outgoingFirst : Bool) : M Unit := do
  let lists ← readBlocks userId outgoingFirst
  issue (.redisReplaceUserBlocks userId lists.1 lists.2)

/-! ### Calls -/

/-- A call of one of the services. -/
inductive Call
  | request (viewerId targetUserId : UserId)
  | accept (viewerId : UserId) (connectionId : ConnectionId)
  | reject (viewerId : UserId) (connectionId : ConnectionId)
  | withdraw (viewerId : UserId) (connectionId : ConnectionId)
  | disconnect (viewerId : UserId) (connectionId : ConnectionId)
  | block (viewerId targetUserId : UserId)
  | unblock (viewerId targetUserId : UserId)
  | syncPeers (userId : UserId)
  | syncBlocks (userId : UserId) (outgoingFirst : Bool)
  deriving DecidableEq

inductive Result
  | requested (result : Option RequestConnectionResult)
  | acted (result : ConnectionResult)
  | blocked (result : Option BlockUserResult)
  | unblocked (removed : Bool)
  | synced
  deriving DecidableEq

def Call.program : Call → M Result
  | .request viewerId targetUserId => .requested <$> requestConnectionService viewerId targetUserId
  | .accept viewerId connectionId =>
      .acted <$> acceptIncomingConnectionService viewerId connectionId
  | .reject viewerId connectionId =>
      .acted <$> rejectIncomingConnectionService viewerId connectionId
  | .withdraw viewerId connectionId =>
      .acted <$> withdrawConnectionRequestService viewerId connectionId
  | .disconnect viewerId connectionId =>
      .acted <$> disconnectConnectionService viewerId connectionId
  | .block viewerId targetUserId => .blocked <$> blockUserService viewerId targetUserId
  | .unblock viewerId targetUserId => .unblocked <$> unblockUserService viewerId targetUserId
  | .syncPeers userId => (fun _ => .synced) <$> syncMatchingConnectionPeersFromDatabase userId
  | .syncBlocks userId outgoingFirst =>
      (fun _ => .synced) <$> syncUserBlocksToRedis userId outgoingFirst

end Greetup.Connections
