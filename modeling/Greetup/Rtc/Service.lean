import Greetup.Rtc.World

/-!
The operations of the media service: the room registry, the peer repository
and the peer sessions. Each runs on one instance, given first.
-/

namespace Greetup.Rtc

open Greetup.Interleaving Prog
open Matching (Text)

/-- A handler of the media service. -/
abbrev M := Prog Cmd Cmd.Reply

/-- Issue one command. -/
abbrev issue (c : Cmd) : M c.Reply := perform c

/-- An `if` without an `else`. -/
def runIf (c : Prop) [Decidable c] (p : M Unit) : M Unit := if c then p else return ()

theorem uses_runIf {P : Cmd → Prop} {c : Prop} [Decidable c] {p : M Unit} (hp : p.Uses P) :
    (runIf c p).Uses P := by
  unfold runIf
  split
  · exact hp
  · trivial

/-! ### The room registry -/

/-- Clears cross-replica RTC room metadata (owner, router hash, peer set). -/
def forceClearRoomRedis (roomId : RoomId) : M Unit := issue (.delRoomKeys roomId)

/-- The second half of `getOrCreateLocalRoom`: the router, its entry in
`localRooms`, the room hash. -/
def createLocalRoom (instanceId : InstanceId) (roomId : RoomId) : M LocalRoomResult := do
  let router ← issue (.createRouter instanceId roomId)
  issue (.createAudioLevelObserver instanceId router)
  let room : LocalRoom := { roomId, router }
  issue (.setLocalRoom instanceId room)
  issue (.hgetRoomCreatedAt roomId)
  issue (.hsetRoom roomId (.routerId router.id))
  issue (.hsetRoom roomId (.ownerInstanceId instanceId))
  issue (.expireRoom roomId)
  return .ok room

/-- Take the owner key when nobody has it. -/
def claimLocalRoom (instanceId : InstanceId) (roomId : RoomId) : M LocalRoomResult := do
  if ← issue (.setRoomOwnerNX roomId instanceId) then
    createLocalRoom instanceId roomId
  else
    match ← issue (.getRoomOwner roomId .lostClaim) with
    | none => createLocalRoom instanceId roomId
    | some owner =>
      if owner ≠ instanceId then return .wrongInstance owner
      else createLocalRoom instanceId roomId

/-- What `getOrCreateLocalRoom` does when it has no local room to return. -/
def acquireLocalRoom (instanceId : InstanceId) (roomId : RoomId) : M LocalRoomResult := do
  match ← issue (.getRoomOwner roomId .unclaimed) with
  | none => claimLocalRoom instanceId roomId
  | some owner =>
    if owner ≠ instanceId then
      let peerCount ← issue (.scardRoomPeers roomId)
      if peerCount = 0 then
        forceClearRoomRedis roomId
        claimLocalRoom instanceId roomId
      else return .wrongInstance owner
    else createLocalRoom instanceId roomId

def getOrCreateLocalRoom (instanceId : InstanceId) (roomId : RoomId) : M LocalRoomResult := do
  match ← issue (.getLocalRoom instanceId roomId) with
  | none => acquireLocalRoom instanceId roomId
  | some cached =>
    if (← issue (.getRoomOwner roomId (.cached cached))) = some instanceId then
      return .ok cached
    else
      issue (.teardownLocalRoom instanceId roomId)
      acquireLocalRoom instanceId roomId

def releaseRoom (instanceId : InstanceId) (roomId : RoomId) : M Unit := do
  let owner ← issue (.getRoomOwner roomId .release)
  runIf (owner = some instanceId) (forceClearRoomRedis roomId)
  issue (.teardownLocalRoom instanceId roomId)

/-! ### The peer repository -/

def savePeer (id : UserId) (roomId : RoomId) (rtcInstanceId : InstanceId)
    (socketId : SocketId) : M Unit := do
  issue (.hsetPeer id (.roomId roomId))
  issue (.hsetPeer id (.rtcInstanceId rtcInstanceId))
  issue (.hsetPeer id (.socketId socketId))
  issue (.expirePeer id)
  issue (.saddRoomPeers roomId id)
  issue (.expireRoomPeers roomId)

def deletePeer (peerId : UserId) (roomId : RoomId) : M Unit := do
  issue (.delPeer peerId)
  issue (.sremRoomPeers roomId peerId)

def clearUserActiveRtcRoomIfMatches (userId : UserId) (roomId : RoomId) : M Unit := do
  let current ← issue (.getUserActiveRtcRoom userId)
  runIf (current = some roomId) (issue (.delUserActiveRtcRoom userId))

/-! ### Peer sessions -/

/-- One `producerClosed` and one `producer_removed` for each producer. -/
def announceRemoved (userId : UserId) (roomId : RoomId) : List Producer → M Unit
  | [] => return ()
  | producer :: rest => do
    issue (.emit (.producerClosed userId producer.id))
    issue (.publishRoomMediaEvent roomId (.producerRemoved userId producer.id))
    announceRemoved userId roomId rest

/-- `removeSession`, once the user's session has been looked up. -/
def removeFound (instanceId : InstanceId) (userId : UserId) (opts : RemoveSessionOptions) :
    Option (PeerSession × List Producer) → M Unit
  | none => return ()
  | some (session, producers) => do
    issue (.emit (.peerLeft userId))
    announceRemoved userId session.roomId producers
    let emptied ← issue (.endSession instanceId userId session)
    runIf (emptied ∧ opts.releaseRoomIfEmpty) (releaseRoom instanceId session.roomId)
    runIf (opts.skipRedis = false) do
      deletePeer userId session.roomId
      clearUserActiveRtcRoomIfMatches userId session.roomId
    runIf (opts.skipSocketLeave = false)
      (issue (.leaveSocketRoom session.socket session.roomId))

def removeSession (instanceId : InstanceId) (userId : UserId) (opts : RemoveSessionOptions) :
    M Unit := do
  removeFound instanceId userId opts (← issue (.getSession instanceId userId))

/-- The local room `join` puts the peer in. A foreign owner gives way when the
room has no peer but this user. -/
def roomForJoin (instanceId : InstanceId) (userId : UserId) (roomId : RoomId) :
    M LocalRoomResult := do
  match ← getOrCreateLocalRoom instanceId roomId with
  | .ok room => return .ok room
  | .wrongInstance owner =>
    let peerIds ← issue (.smembersRoomPeers roomId)
    if peerIds = ∅ ∨ peerIds = {userId} then
      forceClearRoomRedis roomId
      getOrCreateLocalRoom instanceId roomId
    else return .wrongInstance owner

/-- `join`, once there is a local room. -/
def enterLocalRoom (instanceId : InstanceId) (userId : UserId) (roomId : RoomId)
    (socket : Socket) (displayName profileImageUrl : Option Text) (room : LocalRoom) :
    M JoinResult := do
  issue (.joinSocketRoom socket roomId)
  savePeer userId roomId instanceId socket.id
  let view ← issue (.enterRoom instanceId userId roomId socket room.router displayName
    profileImageUrl)
  issue (.emit (.peerJoined userId displayName profileImageUrl))
  return .ok room.router view

/-- `join`, for a socket whose handshake named a user and a room. -/
def joinRoom (instanceId : InstanceId) (userId : UserId) (roomId : RoomId) (socket : Socket)
    (displayName profileImageUrl : Option Text) : M JoinResult := do
  removeSession instanceId userId
    { skipRedis := true, skipSocketLeave := false, releaseRoomIfEmpty := false }
  match ← roomForJoin instanceId userId roomId with
  | .ok room =>
    enterLocalRoom instanceId userId roomId socket displayName profileImageUrl room
  | .wrongInstance owner => return .wrongInstance owner

def join (instanceId : InstanceId) (socket : Socket)
    (displayName profileImageUrl : Option Text) : M JoinResult :=
  match socket.userId, socket.roomId with
  | some userId, some roomId =>
    joinRoom instanceId userId roomId socket displayName profileImageUrl
  | _, _ => return .failed "missing_context"

def createWebRtcTransport (instanceId : InstanceId) (userId : UserId) : M TransportResult := do
  match ← issue (.findRoomOf instanceId userId) with
  | none => return .failed "not_joined"
  | some (_, none) => return .failed "room_missing"
  | some (session, some localRoom) =>
    match ← issue (.createWebRtcTransport instanceId localRoom.router) with
    | none => return .failed "create_transport_failed"
    | some transport =>
      issue (.addTransport instanceId session transport)
      return .ok transport

def produce (instanceId : InstanceId) (userId : UserId) (transportId : ℕ) (kind : MediaKind) :
    M ProduceResult := do
  match ← issue (.findTransport instanceId userId transportId) with
  | none => return .failed "not_joined"
  | some (_, none) => return .failed "transport_not_found"
  | some (session, some transport) =>
    match ← issue (.produce instanceId transport kind) with
    | none => return .failed "produce_failed"
    | some producer =>
      issue (.addProducer instanceId session producer)
      issue (.publishRoomMediaEvent session.roomId (.producerAdded userId producer.id kind))
      issue (.emit (.newProducer userId producer.id kind))
      return .ok producer.id

def onSocketDisconnect (instanceId : InstanceId) (socket : Socket) : M Unit :=
  match socket.userId with
  | none => return ()
  | some userId =>
    removeSession instanceId userId
      { skipRedis := false, skipSocketLeave := true, releaseRoomIfEmpty := true }

def leave (instanceId : InstanceId) (userId : UserId) : M Unit :=
  removeSession instanceId userId
    { skipRedis := false, skipSocketLeave := false, releaseRoomIfEmpty := true }

/-- Nothing is awaited between the lookup here and that of `removeSession`. The
disconnection it ends with reaches `onSocketDisconnect` as an event of its own. -/
def kickPeer (instanceId : InstanceId) (roomId : RoomId) (targetUserId : UserId) : M Bool := do
  match ← issue (.getSession instanceId targetUserId) with
  | none => return false
  | some (session, producers) =>
    if session.roomId ≠ roomId then return false
    else
      issue (.emit (.kicked roomId))
      removeFound instanceId targetUserId
        { skipRedis := false, skipSocketLeave := false, releaseRoomIfEmpty := true }
        (some (session, producers))
      issue (.disconnectSocket session.socket)
      return true

def removeSessions (instanceId : InstanceId) : List UserId → M Unit
  | [] => return ()
  | userId :: rest => do
    removeSession instanceId userId
      { skipRedis := false, skipSocketLeave := false, releaseRoomIfEmpty := true }
    removeSessions instanceId rest

def forceTeardownMediasoupRoom (instanceId : InstanceId) (roomId : RoomId) : M ℕ := do
  let userIds ← issue (.getRoomMembers instanceId roomId)
  removeSessions instanceId userIds
  releaseRoom instanceId roomId
  forceClearRoomRedis roomId
  return userIds.length

/-! ### What an instance is asked to do -/

inductive Op
  | join (socket : Socket) (displayName profileImageUrl : Option Text)
  | leave (userId : UserId)
  | kickPeer (roomId : RoomId) (targetUserId : UserId)
  | onSocketDisconnect (socket : Socket)
  | forceTeardownMediasoupRoom (roomId : RoomId)
  | getOrCreateLocalRoom (roomId : RoomId)
  | createWebRtcTransport (userId : UserId)
  | produce (userId : UserId) (transportId : ℕ) (kind : MediaKind)

/-- An operation and the instance it reaches. -/
structure Request where
  instanceId : InstanceId
  op : Op

def handleOp (instanceId : InstanceId) : Op → M Outcome
  | .join socket name image => .joined <$> join instanceId socket name image
  | .leave u => (fun _ => .none) <$> leave instanceId u
  | .kickPeer r u => .kicked <$> kickPeer instanceId r u
  | .onSocketDisconnect socket => (fun _ => .none) <$> onSocketDisconnect instanceId socket
  | .forceTeardownMediasoupRoom r =>
    .removedSessions <$> forceTeardownMediasoupRoom instanceId r
  | .getOrCreateLocalRoom r => .room <$> getOrCreateLocalRoom instanceId r
  | .createWebRtcTransport u => .transport <$> createWebRtcTransport instanceId u
  | .produce u t kind => .produced <$> produce instanceId u t kind

def Request.handle (request : Request) : M Outcome := handleOp request.instanceId request.op

end Greetup.Rtc
