import Greetup.Interleaving.Schedule
import Greetup.Rtc.Service

/-!
What the disconnect of a socket does to a session of another socket.

Sessions are kept by user, disconnects arrive by socket, and the handler does
not compare the two. It spares the session of another socket exactly as long as
none of its removing steps is taken while that session is in place.
-/

namespace Greetup.Rtc

open Greetup.Interleaving Prog

/-- The service as it answers a family of requests, none of which has begun. -/
def serving {ι : Type} (requests : ι → Request) (w : World) :
    Conf ι Cmd Cmd.Reply Outcome World where
  threads t := (requests t).handle
  scene := ⟨w, []⟩

/-! ### What is kept about a session -/

/-- Everything the service keeps about a user with a given session. -/
structure Standing where
  session : Option PeerSession
  transports : List Transport
  openTransports : List Transport
  producers : List Producer
  member : Bool
  peerRecord : Option PeerHash
  listed : Bool
  deriving DecidableEq

def World.standing (w : World) (i : InstanceId) (u : UserId) (session : PeerSession) :
    Standing where
  session := (w.instances i).sessions u
  transports := (w.instances i).transports session
  openTransports :=
    ((w.instances i).transports session).filter (· ∈ (w.instances i).openTransports)
  producers := (w.instances i).producers session
  member := ((w.instances i).members session.roomId).contains u
  peerRecord := w.redis.peer u
  listed := u ∈ w.redis.roomPeers session.roomId

/-- The socket whose disconnect an operation handles. -/
def Op.disconnects : Op → Option Socket
  | .onSocketDisconnect socket => some socket
  | _ => none

/-- `P` of every session that a disconnect handler `t` finds in its user's place
and that another socket created. -/
def ForeignSessions {ι : Type} (requests : ι → Request)
    (P : InstanceId → UserId → PeerSession → Cmd → World → Prop) (t : ι) (c : Cmd)
    (s : Scene ι Cmd Cmd.Reply World) : Prop :=
  ∀ socket ∈ (requests t).op.disconnects, ∀ u ∈ socket.userId,
    ∀ session ∈ (s.world.instances (requests t).instanceId).sessions u,
      session.socket ≠ socket → P (requests t).instanceId u session c s.world

instance {ι : Type} (requests : ι → Request)
    (P : InstanceId → UserId → PeerSession → Cmd → World → Prop)
    [∀ i u session c w, Decidable (P i u session c w)] (t : ι) (c : Cmd)
    (s : Scene ι Cmd Cmd.Reply World) : Decidable (ForeignSessions requests P t c s) :=
  inferInstanceAs (Decidable (∀ socket ∈ (requests t).op.disconnects, ∀ u ∈ socket.userId,
    ∀ session ∈ (s.world.instances (requests t).instanceId).sessions u,
      session.socket ≠ socket → P (requests t).instanceId u session c s.world))

/-- The command leaves everything about the session as it is. -/
def Spares (i : InstanceId) (u : UserId) (session : PeerSession) (c : Cmd) (w : World) : Prop :=
  (exec c w).2.standing i u session = w.standing i u session

instance (i : InstanceId) (u : UserId) (session : PeerSession) (c : Cmd) (w : World) :
    Decidable (Spares i u session c w) :=
  inferInstanceAs (Decidable (_ = _))

/-- The removing steps of the handler, where they find something of the session
to remove. -/
def Removes (i : InstanceId) (u : UserId) (session : PeerSession) : Cmd → World → Prop
  | .endSession j v _, _ => j = i ∧ v = u
  | .delPeer v, w => v = u ∧ w.redis.peer u ≠ none
  | .sremRoomPeers r v, w => v = u ∧ r = session.roomId ∧ u ∈ w.redis.roomPeers r
  | .delRoomKeys r, w => r = session.roomId ∧ u ∈ w.redis.roomPeers r
  | .teardownLocalRoom j r, w => j = i ∧ ∃ room ∈ (w.instances i).localRooms r,
      (∃ t ∈ (w.instances i).transports session,
        t ∈ (w.instances i).openTransports ∧ t.router = room.router) ∨
      ∃ p ∈ (w.instances i).producers session, p.transport.router = room.router
  | _, _ => False

/-- The commands of the handler. -/
def DisconnectCmd (i : InstanceId) (u : UserId) : Cmd → Prop
  | .getSession _ _ | .emit _ | .publishRoomMediaEvent _ _ | .getRoomOwner _ _
  | .delRoomKeys _ | .getUserActiveRtcRoom _ | .delUserActiveRtcRoom _
  | .leaveSocketRoom _ _ => True
  | .endSession j v _ => j = i ∧ v = u
  | .teardownLocalRoom j _ => j = i
  | .delPeer v => v = u
  | .sremRoomPeers _ v => v = u
  | _ => False

section Footprint

variable {i : InstanceId} {u : UserId}

theorem uses_announceRemoved (r : RoomId) (producers : List Producer) :
    (announceRemoved u r producers).Uses (DisconnectCmd i u) := by
  induction producers with
  | nil => trivial
  | cons p rest ih => exact ⟨trivial, fun _ => ⟨trivial, fun _ => ih⟩⟩

theorem uses_releaseRoom (r : RoomId) : (releaseRoom i r).Uses (DisconnectCmd i u) := by
  refine ⟨trivial, fun owner => (uses_runIf ?_).bind fun _ => ?_⟩
  · exact ⟨trivial, fun _ => trivial⟩
  · exact ⟨rfl, fun _ => trivial⟩

theorem uses_deletePeer (r : RoomId) : (deletePeer u r).Uses (DisconnectCmd i u) :=
  ⟨rfl, fun _ => ⟨rfl, fun _ => trivial⟩⟩

theorem uses_clearUserActiveRtcRoomIfMatches (r : RoomId) :
    (clearUserActiveRtcRoomIfMatches u r).Uses (DisconnectCmd i u) :=
  ⟨trivial, fun _ => uses_runIf ⟨trivial, fun _ => trivial⟩⟩

theorem uses_removeFound (opts : RemoveSessionOptions)
    (found : Option (PeerSession × List Producer)) :
    (removeFound i u opts found).Uses (DisconnectCmd i u) := by
  rcases found with _ | ⟨session, producers⟩
  · trivial
  · refine ⟨trivial, fun _ => (uses_announceRemoved _ producers).bind fun _ => ?_⟩
    refine ⟨⟨rfl, rfl⟩, fun emptied => (uses_runIf (uses_releaseRoom _)).bind fun _ => ?_⟩
    refine (uses_runIf ?_).bind fun _ => uses_runIf ⟨trivial, fun _ => trivial⟩
    exact (uses_deletePeer _).bind fun _ => uses_clearUserActiveRtcRoomIfMatches _

theorem uses_removeSession (opts : RemoveSessionOptions) :
    (removeSession i u opts).Uses (DisconnectCmd i u) :=
  ⟨trivial, uses_removeFound opts⟩

end Footprint

/-! ### One step of the handler -/

section Step

variable {i : InstanceId} {u : UserId} {session : PeerSession} {w : World}

theorem World.standing_congr {w' : World} (hinst : w'.instances i = w.instances i)
    (hpeer : w'.redis.peer u = w.redis.peer u)
    (hlisted : u ∈ w'.redis.roomPeers session.roomId ↔ u ∈ w.redis.roomPeers session.roomId) :
    w'.standing i u session = w.standing i u session := by
  simp only [World.standing, hinst, hpeer, hlisted]

theorem not_spares_endSession (found : PeerSession) (h : session ∈ (w.instances i).sessions u) :
    ¬ Spares i u session (.endSession i u found) w := by
  intro hspares
  have hsession := congrArg Standing.session hspares
  simp only [World.standing, exec, World.setInstance_self, Instance.endSession,
    Function.update_self] at hsession
  rw [Option.mem_def.mp h] at hsession
  exact absurd hsession (by rintro ⟨⟩)

theorem spares_delPeer_iff : Spares i u session (.delPeer u) w ↔ w.redis.peer u = none := by
  constructor
  · intro hspares
    have hrecord := congrArg Standing.peerRecord hspares
    simpa [World.standing, exec] using hrecord.symm
  · intro hnone
    refine World.standing_congr rfl ?_ Iff.rfl
    show Function.update w.redis.peer u none u = w.redis.peer u
    rw [Function.update_self, hnone]

theorem spares_sremRoomPeers_iff {r : RoomId} : Spares i u session (.sremRoomPeers r u) w ↔
    ¬ (r = session.roomId ∧ u ∈ w.redis.roomPeers r) := by
  constructor
  · rintro hspares ⟨rfl, hmem⟩
    have hlisted := congrArg Standing.listed hspares
    simp [World.standing, exec, hmem] at hlisted
  · intro hnot
    refine World.standing_congr rfl rfl ?_
    show u ∈ Function.update w.redis.roomPeers r _ session.roomId ↔ _
    by_cases hr : session.roomId = r
    · subst hr
      have hmem : u ∉ w.redis.roomPeers session.roomId := fun h => hnot ⟨rfl, h⟩
      rw [Function.update_self, Finset.erase_eq_of_notMem hmem]
    · rw [Function.update_of_ne hr]

theorem spares_delRoomKeys_iff {r : RoomId} : Spares i u session (.delRoomKeys r) w ↔
    ¬ (r = session.roomId ∧ u ∈ w.redis.roomPeers r) := by
  constructor
  · rintro hspares ⟨rfl, hmem⟩
    have hlisted := congrArg Standing.listed hspares
    simp [World.standing, exec, Redis.delRoomKeys, hmem] at hlisted
  · intro hnot
    refine World.standing_congr rfl rfl ?_
    show u ∈ Function.update w.redis.roomPeers r ∅ session.roomId ↔ _
    by_cases hr : session.roomId = r
    · subst hr
      have hmem : u ∉ w.redis.roomPeers session.roomId := fun h => hnot ⟨rfl, h⟩
      rw [Function.update_self]
      exact iff_of_false (Finset.notMem_empty u) hmem
    · rw [Function.update_of_ne hr]

theorem spares_teardownLocalRoom_iff {r : RoomId} :
    Spares i u session (.teardownLocalRoom i r) w ↔
      ¬ Removes i u session (.teardownLocalRoom i r) w := by
  cases hroom : (w.instances i).localRooms r with
  | none =>
      have hsame : (w.instances i).teardownLocalRoom r = w.instances i := by
        simp only [Instance.teardownLocalRoom, hroom]
      simp only [Removes, hroom, Option.mem_def, reduceCtorEq, false_and, exists_false, and_false,
        not_false_eq_true, iff_true]
      refine World.standing_congr ?_ rfl Iff.rfl
      rw [exec_teardownLocalRoom, hsame]
  | some room =>
      have hafter : (exec (.teardownLocalRoom i r) w).2.instances i =
          { (w.instances i).closeRouter room.router with
            localRooms := Function.update (w.instances i).localRooms r none } := by
        rw [exec_teardownLocalRoom, Instance.teardownLocalRoom, hroom]
      constructor
      · rintro hspares ⟨-, other, hother, hcloses⟩
        obtain rfl : room = other := by simpa [hroom] using hother
        rcases hcloses with ⟨t, ht, hopen, hrouter⟩ | ⟨p, hp, hrouter⟩
        · have htransports := congrArg Standing.openTransports hspares
          simp only [World.standing, hafter, Instance.closeRouter] at htransports
          have hmem : t ∈ ((w.instances i).transports session).filter
              (· ∈ (w.instances i).openTransports) :=
            List.mem_filter.mpr ⟨ht, decide_eq_true hopen⟩
          rw [← htransports] at hmem
          simp [hrouter] at hmem
        · have hproducers := congrArg Standing.producers hspares
          simp only [World.standing, hafter, Instance.closeRouter] at hproducers
          rw [← hproducers] at hp
          simp [hrouter] at hp
      · intro hnot
        have hkept : ∀ t ∈ (w.instances i).transports session,
            t ∈ (w.instances i).openTransports → t.router ≠ room.router :=
          fun t ht hopen hrouter => hnot ⟨rfl, room, hroom, .inl ⟨t, ht, hopen, hrouter⟩⟩
        have hproducers : ∀ p ∈ (w.instances i).producers session,
            p.transport.router ≠ room.router :=
          fun p hp hrouter => hnot ⟨rfl, room, hroom, .inr ⟨p, hp, hrouter⟩⟩
        simp only [Spares, World.standing, hafter, Instance.closeRouter, Standing.mk.injEq,
          true_and]
        refine ⟨List.filter_congr fun t ht => ?_, ?_, rfl, rfl, rfl⟩
        · simp only [List.mem_filter, decide_eq_true_eq, decide_eq_decide]
          exact ⟨fun hopen => hopen.1, fun hopen => ⟨hopen, hkept t ht hopen⟩⟩
        · exact List.filter_eq_self.mpr fun p hp => decide_eq_true (hproducers p hp)

/-- A step of the handler spares the session it finds exactly when it is not one
that removes something of it. -/
theorem spares_iff {c : Cmd} (hc : DisconnectCmd i u c)
    (h : session ∈ (w.instances i).sessions u) :
    Spares i u session c w ↔ ¬ Removes i u session c w := by
  cases c with
  | endSession j v found =>
      obtain ⟨rfl, rfl⟩ := hc
      simp only [not_spares_endSession found h, Removes, and_self, not_true_eq_false]
  | delPeer v =>
      obtain rfl := hc
      simp only [spares_delPeer_iff, Removes, true_and, ne_eq, not_not]
  | sremRoomPeers r v =>
      obtain rfl := hc
      simp only [spares_sremRoomPeers_iff, Removes, true_and]
  | delRoomKeys r => exact spares_delRoomKeys_iff
  | teardownLocalRoom j r =>
      obtain rfl := hc
      exact spares_teardownLocalRoom_iff
  | getSession | emit | publishRoomMediaEvent | getRoomOwner | getUserActiveRtcRoom
  | delUserActiveRtcRoom | leaveSocketRoom =>
      exact iff_of_true (World.standing_congr rfl rfl Iff.rfl) id
  | _ => exact hc.elim

end Step

/-! ### Runs -/

section Runs

variable {ι : Type} {requests : ι → Request}

/-- No removing step of a disconnect handler is taken on a session of another
socket. -/
def RemovesOwn (requests : ι → Request) : ι → Cmd → Scene ι Cmd Cmd.Reply World → Prop :=
  ForeignSessions requests fun i u session c w => ¬ Removes i u session c w

/-- No step of a disconnect handler touches a session of another socket. -/
def SparesForeign (requests : ι → Request) : ι → Cmd → Scene ι Cmd Cmd.Reply World → Prop :=
  ForeignSessions requests Spares

instance (t : ι) (c : Cmd) (s : Scene ι Cmd Cmd.Reply World) :
    Decidable (SparesForeign requests t c s) :=
  inferInstanceAs (Decidable (ForeignSessions requests Spares t c s))

/-- What is left of a disconnect handler is commands of the handler. -/
def WithinHandlers (requests : ι → Request) (conf : Conf ι Cmd Cmd.Reply Outcome World) : Prop :=
  ∀ t, ∀ socket ∈ (requests t).op.disconnects, ∀ u ∈ socket.userId,
    conf.Footprint (DisconnectCmd (requests t).instanceId u) t

theorem withinHandlers_serving (w : World) : WithinHandlers requests (serving requests w) := by
  intro t socket hsocket u hu
  refine ⟨?_, by simp [serving]⟩
  cases hop : (requests t).op with
  | onSocketDisconnect other =>
      obtain rfl : other = socket := by simpa [hop, Op.disconnects] using hsocket
      show ((requests t).handle).Uses _
      rw [Request.handle, hop, handleOp, onSocketDisconnect, Option.mem_def.mp hu]
      exact (uses_removeSession _).map _
  | _ => simp [hop, Op.disconnects] at hsocket

variable [DecidableEq ι]

/-- In every run, the disconnect handlers spare the sessions of other sockets
exactly when none of them takes a removing step on such a session. -/
theorem sparesForeign_iff_removesOwn (w : World) (sched : List ι) :
    (serving requests w).Meets exec (SparesForeign requests) sched ↔
      (serving requests w).Meets exec (RemovesOwn requests) sched := by
  refine Conf.meets_iff exec (I := WithinHandlers requests) ?_ ?_ (withinHandlers_serving w)
  · exact fun conf t h t' socket hsocket u hu => (h t' socket hsocket u hu).step exec t
  · intro conf t h
    cases ht : conf.threads t with
    | done a => simp only [Conf.NextMeets, ht]
    | call c k =>
        rw [Conf.nextMeets_of_call ht, Conf.nextMeets_of_call ht]
        refine forall₂_congr fun socket hsocket => forall₂_congr fun u hu =>
          forall₂_congr fun session hsession => forall_congr' fun _ => ?_
        have huses := (h t socket hsocket u hu).1
        rw [ht] at huses
        exact spares_iff huses.1 hsession

end Runs

/-! ### A user who comes back on a new socket -/

namespace Sample

def oldSocket : Socket := ⟨"s1", some ann, some lobby⟩
def newSocket : Socket := ⟨"s2", some ann, some lobby⟩

/-- Ann joins, joins again on a new socket, and then the old one disconnects. -/
def rejoining : Fin 3 → Request
  | 0 => ⟨rtc1, .join oldSocket none none⟩
  | 1 => ⟨rtc1, .join newSocket none none⟩
  | 2 => ⟨rtc1, .onSocketDisconnect oldSocket⟩

theorem oldSocket_ends_newSession : ¬ (serving rejoining {}).Meets exec (SparesForeign rejoining)
    (List.replicate 20 0 ++ List.replicate 15 1 ++ List.replicate 3 2) := by
  decide +kernel

end Sample

end Greetup.Rtc
