import Greetup.Interleaving.Program
import Greetup.Rtc.Types
import Mathlib.Data.Finset.Card

/-!
Redis, the memory of every service instance, and the commands that act on them.

A command is what the service does between two awaits: one Redis command, one
call into mediasoup, or one stretch of code that runs without giving up the
event loop. `exec` says what each of them answers and changes.
-/

namespace Greetup.Rtc

open Matching (Text)

structure Redis where
  /-- `rtc:room:{roomId}:owner` -/
  roomOwner : RoomId → Option InstanceId := fun _ => none
  /-- `rtc:room:{roomId}` -/
  room : RoomId → Option RoomHash := fun _ => none
  /-- `rtc:room:{roomId}:peers` -/
  roomPeers : RoomId → Finset UserId := fun _ => ∅
  /-- `rtc:peer:{peerId}` -/
  peer : UserId → Option PeerHash := fun _ => none
  /-- `user:active_rtc_room:{userId}`, set by the main API -/
  userActiveRtcRoom : UserId → Option RoomId := fun _ => none

/-- `DEL` of the owner, the room hash and the peer set, one command. -/
def Redis.delRoomKeys (redis : Redis) (roomId : RoomId) : Redis :=
  { redis with
    roomOwner := Function.update redis.roomOwner roomId none
    room := Function.update redis.room roomId none
    roomPeers := Function.update redis.roomPeers roomId ∅ }

/-! ### The memory of an instance -/

/-- `localRooms`, the fields of `PeerSessionService`, and the mediasoup objects
that are open. -/
structure Instance where
  localRooms : RoomId → Option LocalRoom := fun _ => none
  sessions : UserId → Option PeerSession := fun _ => none
  roomMembers : RoomId → Option (List UserId) := fun _ => none
  displayNames : UserId → Option Text := fun _ => none
  profileImages : UserId → Option Text := fun _ => none
  /-- `session.transports` -/
  transports : PeerSession → List Transport := fun _ => []
  /-- `session.producers` -/
  producers : PeerSession → List Producer := fun _ => []
  routers : List Router := []
  openTransports : List Transport := []
  /-- how many objects have been created; ids are handed out in order -/
  created : ℕ := 0

namespace Instance

variable (inst : Instance)

def members (roomId : RoomId) : List UserId := (inst.roomMembers roomId).getD []

/-- `worker.createRouter`, for a room. -/
def createRouter (roomId : RoomId) : Router × Instance :=
  let router := { id := inst.created, roomId := roomId }
  (router, { inst with routers := router :: inst.routers, created := inst.created + 1 })

def setLocalRoom (room : LocalRoom) : Instance :=
  { inst with localRooms := Function.update inst.localRooms room.roomId (some room) }

/-- `router.close`: its transports close with it, and their producers leave the
session's map. -/
def closeRouter (router : Router) : Instance :=
  { inst with
    routers := inst.routers.filter (· ≠ router)
    openTransports := inst.openTransports.filter (·.router ≠ router)
    producers := fun session => (inst.producers session).filter (·.transport.router ≠ router) }

def teardownLocalRoom (roomId : RoomId) : Instance :=
  match inst.localRooms roomId with
  | none => inst
  | some existing =>
    { inst.closeRouter existing.router with
      localRooms := Function.update inst.localRooms roomId none }

/-- The session of a user with the producers it has now. -/
def getSession (userId : UserId) : Option (PeerSession × List Producer) :=
  (inst.sessions userId).map fun session => (session, inst.producers session)

/-- The middle of `removeSession`: close what the session holds, forget it, and
take the user out of the room. Whatever session the user has by now goes. -/
def endSession (userId : UserId) (session : PeerSession) : Instance :=
  { inst with
    openTransports := inst.openTransports.filter (· ∉ inst.transports session)
    transports := Function.update inst.transports session []
    producers := Function.update inst.producers session []
    sessions := Function.update inst.sessions userId none
    displayNames := Function.update inst.displayNames userId none
    profileImages := Function.update inst.profileImages userId none
    roomMembers :=
      match inst.roomMembers session.roomId with
      | none => inst.roomMembers
      | some members =>
        let rest := members.filter (· ≠ userId)
        Function.update inst.roomMembers session.roomId (if rest = [] then none else some rest) }

/-- Whether `endSession` finds the room it leaves without members. -/
def endsRoom (userId : UserId) (session : PeerSession) : Bool :=
  match inst.roomMembers session.roomId with
  | none => false
  | some members => members.filter (· ≠ userId) = []

/-- `members.add`. -/
def addMember (userId : UserId) (members : List UserId) : List UserId :=
  if members.contains userId then members else members ++ [userId]

/-- The end of `join`: a new session object without transports and producers
becomes the user's session, and the user a member of the room. -/
def enterRoom (userId : UserId) (roomId : RoomId) (socket : Socket) (router : Router)
    (displayName profileImageUrl : Option Text) : PeerSession × Instance :=
  let session := { id := inst.created, userId, roomId, socket, router }
  (session, { inst with
    created := inst.created + 1
    transports := Function.update inst.transports session []
    producers := Function.update inst.producers session []
    sessions := Function.update inst.sessions userId (some session)
    roomMembers :=
      Function.update inst.roomMembers roomId (some (addMember userId (inst.members roomId)))
    displayNames :=
      if displayName.isSome then Function.update inst.displayNames userId displayName
      else inst.displayNames
    profileImages :=
      if profileImageUrl.isSome then Function.update inst.profileImages userId profileImageUrl
      else inst.profileImages })

def collectProducersInRoom (roomId : RoomId) (excludeUserId : UserId) :
    List ExistingProducerInfo :=
  ((inst.members roomId).filter (· ≠ excludeUserId)).flatMap fun uid =>
    match inst.sessions uid with
    | none => []
    | some s => (inst.producers s).map fun producer => ⟨uid, producer.id, producer.kind⟩

/-- What `join` answers with, read in the stretch of code that enters the room. -/
def roomView (roomId : RoomId) (userId : UserId) : RoomView where
  peerIds := inst.members roomId
  peerNames := (inst.members roomId).filterMap fun pid => (inst.displayNames pid).map (pid, ·)
  peerImages := (inst.members roomId).filterMap fun pid => (inst.profileImages pid).map (pid, ·)
  existingProducers := inst.collectProducersInRoom roomId userId

/-- The session and the local room `createWebRtcTransport` starts from. -/
def findRoomOf (userId : UserId) : Option (PeerSession × Option LocalRoom) :=
  (inst.sessions userId).map fun session => (session, inst.localRooms session.roomId)

/-- `router.createWebRtcTransport`, which throws on a closed router. -/
def createWebRtcTransport (router : Router) : Option Transport × Instance :=
  if router ∈ inst.routers then
    let transport := { id := inst.created, router }
    (some transport, { inst with
      openTransports := transport :: inst.openTransports
      created := inst.created + 1 })
  else (none, inst)

/-- `session.transports.set`, on the object, whether or not it is still current. -/
def addTransport (session : PeerSession) (transport : Transport) : Instance :=
  { inst with
    transports :=
      Function.update inst.transports session (inst.transports session ++ [transport]) }

/-- The session and the transport `produce` starts from. -/
def findTransport (userId : UserId) (transportId : ℕ) : Option (PeerSession × Option Transport) :=
  (inst.sessions userId).map fun session =>
    (session, (inst.transports session).find? (·.id = transportId))

/-- `transport.produce`, which throws on a closed transport. -/
def produce (transport : Transport) (kind : MediaKind) : Option Producer × Instance :=
  if transport ∈ inst.openTransports then
    (some { id := inst.created, kind, transport }, { inst with created := inst.created + 1 })
  else (none, inst)

/-- `session.producers.set`. -/
def addProducer (session : PeerSession) (producer : Producer) : Instance :=
  { inst with
    producers := Function.update inst.producers session (inst.producers session ++ [producer]) }

end Instance

/-! ### What the steps leave unchanged -/

section Instance

variable (inst : Instance) (u : UserId) (session : PeerSession) (r : RoomId)

@[simp] theorem Instance.enterRoom_sessions (socket : Socket) (router : Router)
    (name image : Option Text) :
    (inst.enterRoom u r socket router name image).2.sessions =
      Function.update inst.sessions u
        (some (inst.enterRoom u r socket router name image).1) := rfl

@[simp] theorem Instance.endSession_sessions :
    (inst.endSession u session).sessions = Function.update inst.sessions u none := rfl

@[simp] theorem Instance.createWebRtcTransport_sessions (router : Router) :
    (inst.createWebRtcTransport router).2.sessions = inst.sessions := by
  unfold Instance.createWebRtcTransport
  split <;> rfl

theorem Instance.router_of_createWebRtcTransport {router : Router} {transport : Transport}
    (h : (inst.createWebRtcTransport router).1 = some transport) : transport.router = router := by
  unfold Instance.createWebRtcTransport at h
  split at h
  · rw [← Option.some.inj h]
  · exact absurd h (by rintro ⟨⟩)

@[simp] theorem Instance.produce_sessions (transport : Transport) (kind : MediaKind) :
    (inst.produce transport kind).2.sessions = inst.sessions := by
  unfold Instance.produce
  split <;> rfl

@[simp] theorem Instance.teardownLocalRoom_localRooms :
    (inst.teardownLocalRoom r).localRooms = Function.update inst.localRooms r none := by
  unfold Instance.teardownLocalRoom
  cases hroom : inst.localRooms r with
  | none =>
      show inst.localRooms = Function.update inst.localRooms r none
      rw [← hroom, Function.update_eq_self]
  | some room => rfl

@[simp] theorem Instance.teardownLocalRoom_sessions :
    (inst.teardownLocalRoom r).sessions = inst.sessions := by
  unfold Instance.teardownLocalRoom
  cases inst.localRooms r <;> rfl

@[simp] theorem Instance.teardownLocalRoom_members :
    (inst.teardownLocalRoom r).members = inst.members := by
  unfold Instance.teardownLocalRoom
  cases inst.localRooms r <;> rfl

theorem Instance.endSession_members :
    (inst.endSession u session).members r =
      if r = session.roomId then (inst.members r).filter (· ≠ u) else inst.members r := by
  cases hmembers : inst.roomMembers session.roomId with
  | none =>
      have hsame : (inst.endSession u session).members r = inst.members r := by
        simp only [Instance.members, Instance.endSession, hmembers]
      rw [hsame]
      split
      · rename_i hr
        simp [hr, Instance.members, hmembers]
      · rfl
  | some members =>
      by_cases hr : r = session.roomId
      · subst hr
        simp only [Instance.members, Instance.endSession, hmembers, Function.update_self,
          Option.getD_some, ↓reduceIte]
        by_cases hrest : members.filter (· ≠ u) = []
        · rw [if_pos hrest, hrest, Option.getD_none]
        · rw [if_neg hrest, Option.getD_some]
      · simp only [Instance.members, Instance.endSession, hmembers, Function.update_of_ne hr,
          if_neg hr]

theorem Instance.mem_members_endSession {v : UserId} :
    v ∈ (inst.endSession u session).members r ↔
      v ∈ inst.members r ∧ (r = session.roomId → v ≠ u) := by
  rw [Instance.endSession_members]
  split
  · rename_i hr
    simp [hr]
  · rename_i hr
    simp [hr]

theorem Instance.endsRoom_iff (hmem : u ∈ inst.members session.roomId) :
    inst.endsRoom u session = true ↔ ∀ v ∈ inst.members session.roomId, v = u := by
  unfold Instance.endsRoom
  cases hmembers : inst.roomMembers session.roomId with
  | none => simp [Instance.members, hmembers] at hmem
  | some members => simp [Instance.members, hmembers]

theorem Instance.enterRoom_members (socket : Socket) (router : Router)
    (name image : Option Text) (r' : RoomId) :
    (inst.enterRoom u r socket router name image).2.members r' =
      if r' = r then Instance.addMember u (inst.members r) else inst.members r' := by
  show (Function.update inst.roomMembers r _ r').getD [] = _
  split
  · rename_i hr
    rw [hr, Function.update_self, Option.getD_some]
  · rename_i hr
    rw [Function.update_of_ne hr]
    rfl

theorem Instance.mem_addMember {v : UserId} {members : List UserId} :
    v ∈ Instance.addMember u members ↔ v = u ∨ v ∈ members := by
  unfold Instance.addMember
  split
  · rename_i hu
    have hmem : u ∈ members := List.contains_iff_mem.mp hu
    exact ⟨.inr, fun h => h.elim (fun hv => hv ▸ hmem) id⟩
  · rw [List.mem_append, List.mem_singleton, or_comm]

end Instance

@[ext] structure World where
  redis : Redis := {}
  instances : InstanceId → Instance := fun _ => {}

/-! ### Commands -/

/-- At which await the owner of a room is read. -/
inductive OwnerRead
  /-- the room was found in `localRooms` -/
  | cached (room : LocalRoom)
  /-- before anything is claimed -/
  | unclaimed
  /-- after `SET NX` found the key taken -/
  | lostClaim
  /-- in `releaseRoom` -/
  | release
  deriving DecidableEq

inductive Cmd
  -- Redis
  | getRoomOwner (roomId : RoomId) (at_ : OwnerRead)
  | setRoomOwnerNX (roomId : RoomId) (instanceId : InstanceId)
  | delRoomKeys (roomId : RoomId)
  | scardRoomPeers (roomId : RoomId)
  | smembersRoomPeers (roomId : RoomId)
  | saddRoomPeers (roomId : RoomId) (userId : UserId)
  | sremRoomPeers (roomId : RoomId) (userId : UserId)
  | expireRoomPeers (roomId : RoomId)
  | hgetRoomCreatedAt (roomId : RoomId)
  | hsetRoom (roomId : RoomId) (field : RoomField)
  | expireRoom (roomId : RoomId)
  | hsetPeer (userId : UserId) (field : PeerField)
  | expirePeer (userId : UserId)
  | delPeer (userId : UserId)
  | getUserActiveRtcRoom (userId : UserId)
  | delUserActiveRtcRoom (userId : UserId)
  | publishRoomMediaEvent (roomId : RoomId) (event : RoomMediaEvent)
  -- the room registry
  | getLocalRoom (i : InstanceId) (roomId : RoomId)
  | createRouter (i : InstanceId) (roomId : RoomId)
  | createAudioLevelObserver (i : InstanceId) (router : Router)
  | setLocalRoom (i : InstanceId) (room : LocalRoom)
  | teardownLocalRoom (i : InstanceId) (roomId : RoomId)
  -- the peer sessions
  | getSession (i : InstanceId) (userId : UserId)
  | endSession (i : InstanceId) (userId : UserId) (session : PeerSession)
  | enterRoom (i : InstanceId) (userId : UserId) (roomId : RoomId) (socket : Socket)
      (router : Router) (displayName profileImageUrl : Option Text)
  | getRoomMembers (i : InstanceId) (roomId : RoomId)
  | findRoomOf (i : InstanceId) (userId : UserId)
  | createWebRtcTransport (i : InstanceId) (router : Router)
  | addTransport (i : InstanceId) (session : PeerSession) (transport : Transport)
  | findTransport (i : InstanceId) (userId : UserId) (transportId : ℕ)
  | produce (i : InstanceId) (transport : Transport) (kind : MediaKind)
  | addProducer (i : InstanceId) (session : PeerSession) (producer : Producer)
  -- sockets
  | joinSocketRoom (socket : Socket) (roomId : RoomId)
  | leaveSocketRoom (socket : Socket) (roomId : RoomId)
  | emit (event : SocketEvent)
  | disconnectSocket (socket : Socket)

@[reducible] def Cmd.Reply : Cmd → Type
  | .getRoomOwner _ _ => Option InstanceId
  | .setRoomOwnerNX _ _ => Bool
  | .scardRoomPeers _ => ℕ
  | .smembersRoomPeers _ => Finset UserId
  | .getUserActiveRtcRoom _ => Option RoomId
  | .getLocalRoom _ _ => Option LocalRoom
  | .createRouter _ _ => Router
  | .getSession _ _ => Option (PeerSession × List Producer)
  | .endSession _ _ _ => Bool
  | .enterRoom _ _ _ _ _ _ _ => RoomView
  | .getRoomMembers _ _ => List UserId
  | .findRoomOf _ _ => Option (PeerSession × Option LocalRoom)
  | .createWebRtcTransport _ _ => Option Transport
  | .findTransport _ _ _ => Option (PeerSession × Option Transport)
  | .produce _ _ _ => Option Producer
  | _ => Unit

/-! ### What a command does -/

namespace World

variable (w : World)

def setRedis (redis : Redis) : World := { w with redis := redis }

def setInstance (i : InstanceId) (inst : Instance) : World :=
  { w with instances := Function.update w.instances i inst }

@[simp] theorem setRedis_redis (redis : Redis) : (w.setRedis redis).redis = redis := rfl

@[simp] theorem setRedis_instances (redis : Redis) :
    (w.setRedis redis).instances = w.instances := rfl

@[simp] theorem setInstance_redis (i : InstanceId) (inst : Instance) :
    (w.setInstance i inst).redis = w.redis := rfl

@[simp] theorem setInstance_self (i : InstanceId) (inst : Instance) :
    (w.setInstance i inst).instances i = inst := Function.update_self ..

@[simp] theorem setInstance_setInstance (i : InstanceId) (inst inst' : Instance) :
    (w.setInstance i inst).setInstance i inst' = w.setInstance i inst' := by
  simp only [setInstance, Function.update_idem]

theorem setInstance_of_ne {i j : InstanceId} (inst : Instance) (h : j ≠ i) :
    (w.setInstance i inst).instances j = w.instances j := Function.update_of_ne h ..

end World

/-- One atomic step: the answer to a command and the world after it. -/
def exec : (c : Cmd) → World → c.Reply × World
  | .getRoomOwner r _, w => (w.redis.roomOwner r, w)
  | .setRoomOwnerNX r i, w =>
    if w.redis.roomOwner r = none then
      (true, w.setRedis { w.redis with
        roomOwner := Function.update w.redis.roomOwner r (some i) })
    else (false, w)
  | .delRoomKeys r, w => ((), w.setRedis (w.redis.delRoomKeys r))
  | .scardRoomPeers r, w => ((w.redis.roomPeers r).card, w)
  | .smembersRoomPeers r, w => (w.redis.roomPeers r, w)
  | .saddRoomPeers r u, w => ((), w.setRedis { w.redis with
      roomPeers := Function.update w.redis.roomPeers r (insert u (w.redis.roomPeers r)) })
  | .sremRoomPeers r u, w => ((), w.setRedis { w.redis with
      roomPeers := Function.update w.redis.roomPeers r ((w.redis.roomPeers r).erase u) })
  | .expireRoomPeers _, w => ((), w)
  | .hgetRoomCreatedAt _, w => ((), w)
  | .hsetRoom r field, w => ((), w.setRedis { w.redis with
      room := Function.update w.redis.room r (some (((w.redis.room r).getD {}).hset field)) })
  | .expireRoom _, w => ((), w)
  | .hsetPeer u field, w => ((), w.setRedis { w.redis with
      peer := Function.update w.redis.peer u (some (((w.redis.peer u).getD {}).hset field)) })
  | .expirePeer _, w => ((), w)
  | .delPeer u, w => ((), w.setRedis { w.redis with
      peer := Function.update w.redis.peer u none })
  | .getUserActiveRtcRoom u, w => (w.redis.userActiveRtcRoom u, w)
  | .delUserActiveRtcRoom u, w => ((), w.setRedis { w.redis with
      userActiveRtcRoom := Function.update w.redis.userActiveRtcRoom u none })
  | .publishRoomMediaEvent _ _, w => ((), w)
  | .getLocalRoom i r, w => ((w.instances i).localRooms r, w)
  | .createRouter i r, w =>
    (((w.instances i).createRouter r).1, w.setInstance i ((w.instances i).createRouter r).2)
  | .createAudioLevelObserver _ _, w => ((), w)
  | .setLocalRoom i room, w => ((), w.setInstance i ((w.instances i).setLocalRoom room))
  | .teardownLocalRoom i r, w => ((), w.setInstance i ((w.instances i).teardownLocalRoom r))
  | .getSession i u, w => ((w.instances i).getSession u, w)
  | .endSession i u session, w =>
    ((w.instances i).endsRoom u session,
      w.setInstance i ((w.instances i).endSession u session))
  | .enterRoom i u r socket router name image, w =>
    let inst := ((w.instances i).enterRoom u r socket router name image).2
    (inst.roomView r u, w.setInstance i inst)
  | .getRoomMembers i r, w => ((w.instances i).members r, w)
  | .findRoomOf i u, w => ((w.instances i).findRoomOf u, w)
  | .createWebRtcTransport i router, w =>
    (((w.instances i).createWebRtcTransport router).1,
      w.setInstance i ((w.instances i).createWebRtcTransport router).2)
  | .addTransport i session transport, w =>
    ((), w.setInstance i ((w.instances i).addTransport session transport))
  | .findTransport i u id, w => ((w.instances i).findTransport u id, w)
  | .produce i transport kind, w =>
    (((w.instances i).produce transport kind).1,
      w.setInstance i ((w.instances i).produce transport kind).2)
  | .addProducer i session producer, w =>
    ((), w.setInstance i ((w.instances i).addProducer session producer))
  | .joinSocketRoom _ _, w => ((), w)
  | .leaveSocketRoom _ _, w => ((), w)
  | .emit _, w => ((), w)
  | .disconnectSocket _, w => ((), w)

theorem exec_teardownLocalRoom (i : InstanceId) (r : RoomId) (w : World) :
    (exec (.teardownLocalRoom i r) w).2.instances i = (w.instances i).teardownLocalRoom r := by
  rw [exec, World.setInstance_self]

end Greetup.Rtc
