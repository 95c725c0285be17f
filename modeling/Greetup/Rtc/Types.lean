import Greetup.Matching.Host

/-!
The records of the media service: sockets, local rooms, peer sessions with
their transports and producers, and what is kept and published about them in
Redis.
-/

namespace Greetup.Rtc

open Matching (Text)

abbrev UserId := Text
abbrev RoomId := Text
abbrev InstanceId := Text
abbrev SocketId := String

/-- A connected socket with what the handshake stored in `socket.data`. -/
structure Socket where
  id : SocketId
  userId : Option UserId
  roomId : Option RoomId
  deriving DecidableEq

/-! ### mediasoup objects -/

/-- A router, with the room it was created for. -/
structure Router where
  id : ℕ
  roomId : RoomId
  deriving DecidableEq

structure Transport where
  id : ℕ
  router : Router
  deriving DecidableEq

inductive MediaKind
  | audio
  | video
  deriving DecidableEq

structure Producer where
  id : ℕ
  kind : MediaKind
  transport : Transport
  deriving DecidableEq

/-! ### Rooms and sessions -/

structure LocalRoom where
  roomId : RoomId
  router : Router
  deriving DecidableEq

/-- A session object. `id` tells one object from another; `router` is the one
whose capabilities `join` returned with it. The maps of transports and
producers change during its life and are kept by the instance. -/
structure PeerSession where
  id : ℕ
  userId : UserId
  roomId : RoomId
  socket : Socket
  router : Router
  deriving DecidableEq

structure ExistingProducerInfo where
  peerId : UserId
  producerId : ℕ
  kind : MediaKind
  deriving DecidableEq

structure RemoveSessionOptions where
  skipRedis : Bool := false
  skipSocketLeave : Bool := false
  releaseRoomIfEmpty : Bool := true

inductive LocalRoomResult
  | ok (room : LocalRoom)
  | wrongInstance (ownerInstanceId : InstanceId)
  deriving DecidableEq

/-- What `join` reads of the instance once the session is in place. -/
structure RoomView where
  peerIds : List UserId
  peerNames : List (UserId × Text)
  peerImages : List (UserId × Text)
  existingProducers : List ExistingProducerInfo
  deriving DecidableEq

inductive JoinResult
  | ok (router : Router) (view : RoomView)
  | wrongInstance (ownerInstanceId : InstanceId)
  | failed (code : String)
  deriving DecidableEq

inductive TransportResult
  | ok (transport : Transport)
  | failed (code : String)
  deriving DecidableEq

inductive ProduceResult
  | ok (id : ℕ)
  | failed (code : String)
  deriving DecidableEq

/-- What an operation of the service returns. -/
inductive Outcome
  | none
  | joined (result : JoinResult)
  | kicked (removed : Bool)
  | removedSessions (count : ℕ)
  | room (result : LocalRoomResult)
  | transport (result : TransportResult)
  | produced (result : ProduceResult)
  deriving DecidableEq

/-! ### Redis values and events -/

/-- The hash `rtc:room:{roomId}`. -/
structure RoomHash where
  routerId : Option ℕ := none
  ownerInstanceId : Option InstanceId := none
  deriving DecidableEq

/-- The hash `rtc:peer:{peerId}`. -/
structure PeerHash where
  roomId : Option RoomId := none
  rtcInstanceId : Option InstanceId := none
  socketId : Option SocketId := none
  deriving DecidableEq

inductive RoomField
  | routerId (id : ℕ)
  | ownerInstanceId (id : InstanceId)

inductive PeerField
  | roomId (id : RoomId)
  | rtcInstanceId (id : InstanceId)
  | socketId (id : SocketId)

def RoomHash.hset (h : RoomHash) : RoomField → RoomHash
  | .routerId id => { h with routerId := some id }
  | .ownerInstanceId id => { h with ownerInstanceId := some id }

def PeerHash.hset (h : PeerHash) : PeerField → PeerHash
  | .roomId id => { h with roomId := some id }
  | .rtcInstanceId id => { h with rtcInstanceId := some id }
  | .socketId id => { h with socketId := some id }

inductive RoomMediaEvent
  | producerAdded (peerId : UserId) (producerId : ℕ) (kind : MediaKind)
  | producerRemoved (peerId : UserId) (producerId : ℕ)

/-- What is emitted to sockets. -/
inductive SocketEvent
  | peerJoined (peerId : UserId) (displayName image : Option Text)
  | peerLeft (peerId : UserId)
  | newProducer (peerId : UserId) (producerId : ℕ) (kind : MediaKind)
  | producerClosed (peerId : UserId) (producerId : ℕ)
  | kicked (roomId : RoomId)

/-! ### Names for concrete runs -/

namespace Sample

def rtc1 : InstanceId := ⟨"rtc-1", by decide⟩
def rtc2 : InstanceId := ⟨"rtc-2", by decide⟩
def ann : UserId := ⟨"user-ann", by decide⟩
def ben : UserId := ⟨"user-ben", by decide⟩
def lobby : RoomId := ⟨"lobby", by decide⟩
def den : RoomId := ⟨"den", by decide⟩

end Sample

end Greetup.Rtc
