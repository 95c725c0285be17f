import Greetup.Interleaving.Sequence
import Greetup.Rtc.Service

/-!
Membership at rest: one operation after the other on one instance.

What the service is for is a map from users to rooms, `Presence`. The four
structures that say who is where and the registry of local rooms represent such
a map as long as no user joins one room with a session in another: that join
leaves the old room behind in Redis and in the registry.
-/

namespace Greetup.Rtc

open Greetup.Interleaving Prog
open Matching (Text)

/-! ### The abstract model -/

/-- Who is in which room. -/
abbrev Presence := UserId → Option RoomId

namespace Presence

variable (p : Presence)

def enter (u : UserId) (r : RoomId) : Presence := Function.update p u (some r)

def leave (u : UserId) : Presence := Function.update p u none

/-- Everybody in the room leaves. -/
def clear (r : RoomId) : Presence := fun u => if p u = some r then none else p u

def apply : Op → Presence
  | .join ⟨_, some u, some r⟩ _ _ => p.enter u r
  | .leave u => p.leave u
  | .kickPeer r u => if p u = some r then p.leave u else p
  | .onSocketDisconnect ⟨_, some u, _⟩ => p.leave u
  | .forceTeardownMediasoupRoom r => p.clear r
  | _ => p

theorem leave_eq_some {u v : UserId} {r : RoomId} :
    p.leave u v = some r ↔ v ≠ u ∧ p v = some r := by
  by_cases hv : v = u
  · subst hv
    simp [leave]
  · simp [leave, hv]

theorem enter_eq_some {u v : UserId} {r r' : RoomId} :
    p.enter u r v = some r' ↔ (v = u ∧ r = r') ∨ (v ≠ u ∧ p v = some r') := by
  by_cases hv : v = u
  · subst hv
    simp [enter]
  · simp [enter, hv]

theorem leave_of_none {u : UserId} (h : p u = none) : p.leave u = p := by
  rw [leave, ← h, Function.update_eq_self]

end Presence

/-! ### What an operation run alone does to the world -/

namespace World

variable (w : World) (i : InstanceId) (u : UserId) (r : RoomId) (session : PeerSession)

def endSession : World := w.setInstance i ((w.instances i).endSession u session)

/-- `releaseRoom`. -/
def release : World :=
  (if w.redis.roomOwner r = some i then w.setRedis (w.redis.delRoomKeys r) else w).setInstance i
    ((w.instances i).teardownLocalRoom r)

/-- `deletePeer` and `clearUserActiveRtcRoomIfMatches`. -/
def unlist : World :=
  w.setRedis { w.redis with
    peer := Function.update w.redis.peer u none
    roomPeers := Function.update w.redis.roomPeers r ((w.redis.roomPeers r).erase u)
    userActiveRtcRoom :=
      if w.redis.userActiveRtcRoom u = some r then
        Function.update w.redis.userActiveRtcRoom u none
      else w.redis.userActiveRtcRoom }

/-- `removeSession`, for the session it finds. -/
def remove (opts : RemoveSessionOptions) : World :=
  let ended := w.endSession i u session
  let released :=
    if (w.instances i).endsRoom u session ∧ opts.releaseRoomIfEmpty then
      ended.release i session.roomId
    else ended
  if opts.skipRedis = false then released.unlist u session.roomId else released

/-- `createLocalRoom`. -/
def create : World :=
  let router := ((w.instances i).createRouter r).1
  let hash := ((w.redis.room r).getD {}).hset (.routerId router.id)
  (w.setRedis { w.redis with
    room := Function.update w.redis.room r (some (hash.hset (.ownerInstanceId i))) }).setInstance i
      (((w.instances i).createRouter r).2.setLocalRoom { roomId := r, router })

/-- `getOrCreateLocalRoom` where nobody owns the room. -/
def host : World :=
  (w.setRedis { w.redis with
    roomOwner := Function.update w.redis.roomOwner r (some i) }).create i r

/-- `getOrCreateLocalRoom` where the instance owns the rooms it has. -/
def prepare : World := if ((w.instances i).localRooms r).isSome then w else w.host i r

/-- `join`, from the local room on. -/
def enter (socket : Socket) (router : Router) (name image : Option Text) : World :=
  (w.setRedis { w.redis with
    peer := Function.update w.redis.peer u (some {
      roomId := some r, rtcInstanceId := some i, socketId := some socket.id })
    roomPeers := Function.update w.redis.roomPeers r (insert u (w.redis.roomPeers r)) }).setInstance
      i ((w.instances i).enterRoom u r socket router name image).2

/-- The instance owns the rooms it has, and nobody the others. -/
def Hosts : Prop :=
  ∀ r, w.redis.roomOwner r = if ((w.instances i).localRooms r).isSome then some i else none

end World

section Run

variable (i : InstanceId) (u : UserId) (r : RoomId) (w : World)

theorem run_runIf {c : Prop} [Decidable c] {p : M Unit} {f : World → World}
    (h : ∀ w, p.run exec w = ((), f w)) :
    (runIf c p).run exec w = ((), if c then f w else w) := by
  unfold runIf
  split
  · exact h w
  · rfl

theorem run_announceRemoved (producers : List Producer) :
    (announceRemoved u r producers).run exec w = ((), w) := by
  induction producers with
  | nil => rfl
  | cons p rest ih => exact ih

theorem run_releaseRoom : (releaseRoom i r).run exec w = ((), w.release i r) := by
  show Prog.run exec (do
    runIf (w.redis.roomOwner r = some i) (forceClearRoomRedis r)
    issue (.teardownLocalRoom i r)) w = _
  rw [run_bind, run_runIf (f := fun w => w.setRedis (w.redis.delRoomKeys r)) w fun _ => rfl,
    run_perform]
  unfold World.release
  split <;> rfl

theorem run_unlist : (do deletePeer u r; clearUserActiveRtcRoomIfMatches u r : M Unit).run exec w =
    ((), w.unlist u r) := by
  show Prog.run exec
    (runIf (w.redis.userActiveRtcRoom u = some r) (issue (.delUserActiveRtcRoom u)))
    (exec (.sremRoomPeers r u) (exec (.delPeer u) w).2).2 = _
  rw [run_runIf _ fun _ => rfl]
  unfold World.unlist
  split <;> rfl

theorem run_removeFound_some (opts : RemoveSessionOptions) (session : PeerSession)
    (producers : List Producer) :
    (removeFound i u opts (some (session, producers))).run exec w =
      ((), w.remove i u session opts) := by
  show Prog.run exec (do
    announceRemoved u session.roomId producers
    let emptied ← issue (.endSession i u session)
    runIf (emptied ∧ opts.releaseRoomIfEmpty) (releaseRoom i session.roomId)
    runIf (opts.skipRedis = false) do
      deletePeer u session.roomId
      clearUserActiveRtcRoomIfMatches u session.roomId
    runIf (opts.skipSocketLeave = false)
      (issue (.leaveSocketRoom session.socket session.roomId))) w = _
  rw [run_bind, run_announceRemoved, run_bind, run_perform, run_bind,
    run_runIf _ (run_releaseRoom i session.roomId), run_bind,
    run_runIf _ (run_unlist u session.roomId), run_runIf (f := id) _ fun _ => rfl]
  simp only [id_eq, ite_self]
  rfl

theorem run_removeSession (opts : RemoveSessionOptions) :
    (removeSession i u opts).run exec w = ((),
      match (w.instances i).sessions u with
      | none => w
      | some session => w.remove i u session opts) := by
  rw [removeSession, run_bind, run_perform]
  show Prog.run exec (removeFound i u opts (((w.instances i).sessions u).map _)) w = _
  cases (w.instances i).sessions u with
  | none => rfl
  | some session => exact run_removeFound_some i u w opts session _

variable {i r w}

theorem run_createLocalRoom :
    (createLocalRoom i r).run exec w =
      (.ok ⟨r, ((w.instances i).createRouter r).1⟩, w.create i r) := by
  simp only [createLocalRoom, run_bind, run_perform, exec, World.setInstance_setInstance,
    World.setInstance_self, pure_eq, run_done]
  simp only [World.create, World.setRedis, World.setInstance, Function.update_self,
    Function.update_idem, Option.getD_some]

theorem run_getOrCreateLocalRoom_cached {room : LocalRoom} (h : w.Hosts i)
    (hroom : (w.instances i).localRooms r = some room) :
    (getOrCreateLocalRoom i r).run exec w = (.ok room, w) := by
  have howner : w.redis.roomOwner r = some i := by rw [h r, hroom]; rfl
  rw [getOrCreateLocalRoom, run_bind, run_perform]
  simp only [exec, hroom]
  rw [run_bind, run_perform]
  simp only [exec, howner, ↓reduceIte]
  rfl

theorem run_getOrCreateLocalRoom_new (h : w.Hosts i)
    (hroom : (w.instances i).localRooms r = none) :
    (getOrCreateLocalRoom i r).run exec w =
      (.ok ⟨r, ((w.instances i).createRouter r).1⟩, w.host i r) := by
  have howner : w.redis.roomOwner r = none := by rw [h r, hroom]; rfl
  rw [getOrCreateLocalRoom, run_bind, run_perform]
  simp only [exec, hroom, acquireLocalRoom]
  rw [run_bind, run_perform]
  simp only [exec, howner, claimLocalRoom]
  rw [run_bind, run_perform]
  simp only [exec, howner, ↓reduceIte]
  exact run_createLocalRoom

theorem run_roomForJoin (u : UserId) (h : w.Hosts i) :
    ∃ room, (roomForJoin i u r).run exec w = (.ok room, w.prepare i r) := by
  cases hroom : (w.instances i).localRooms r with
  | none =>
      refine ⟨⟨r, ((w.instances i).createRouter r).1⟩, ?_⟩
      rw [roomForJoin, run_bind, run_getOrCreateLocalRoom_new h hroom, World.prepare, hroom]
      rfl
  | some room =>
      refine ⟨room, ?_⟩
      rw [roomForJoin, run_bind, run_getOrCreateLocalRoom_cached h hroom, World.prepare, hroom]
      rfl

theorem run_enterLocalRoom (u : UserId) (socket : Socket) (name image : Option Text)
    (room : LocalRoom) :
    ∃ view, (enterLocalRoom i u r socket name image room).run exec w =
      (.ok room.router view, w.enter i u r socket room.router name image) := by
  refine ⟨_, Prod.ext rfl ?_⟩
  simp only [enterLocalRoom, savePeer, run_bind, run_perform, exec, pure_eq, run_done]
  simp only [World.enter, World.setRedis, World.setInstance, Function.update_self,
    Function.update_idem, Option.getD_some, PeerHash.hset]

end Run

/-! ### The abstraction -/

/-- The world says what the map says. -/
structure World.Represents (w : World) (i : InstanceId) (p : Presence) : Prop where
  session : ∀ u, ((w.instances i).sessions u).map (·.roomId) = p u
  listed : ∀ u r, u ∈ w.redis.roomPeers r ↔ p u = some r
  member : ∀ u r, u ∈ (w.instances i).members r ↔ p u = some r
  registered : ∀ r, ((w.instances i).localRooms r).isSome ↔ ∃ u, p u = some r
  hosts : w.Hosts i

section Refinement

variable {w : World} {i : InstanceId} {p : Presence} {u : UserId} {r : RoomId}

theorem World.Represents.session_eq {session : PeerSession} (h : w.Represents i p)
    (hs : (w.instances i).sessions u = some session) : p u = some session.roomId := by
  rw [← h.session u, hs]
  rfl

section Leave

variable {session : PeerSession} {opts : RemoveSessionOptions}

theorem World.Represents.session_endSession (h : w.Represents i p) (v : UserId) :
    (((w.instances i).endSession u session).sessions v).map (·.roomId) = p.leave u v := by
  show (Function.update (w.instances i).sessions u none v).map _ = _
  by_cases hv : v = u
  · subst hv
    simp [Presence.leave]
  · simp [Presence.leave, hv, h.session]

theorem World.Represents.member_endSession (h : w.Represents i p)
    (hs : (w.instances i).sessions u = some session) (v : UserId) (r : RoomId) :
    v ∈ ((w.instances i).endSession u session).members r ↔ p.leave u v = some r := by
  rw [Instance.mem_members_endSession, h.member, Presence.leave_eq_some]
  constructor
  · rintro ⟨hv, hne⟩
    refine ⟨fun heq => ?_, hv⟩
    subst heq
    rw [h.session_eq hs] at hv
    exact hne (Option.some.inj hv).symm rfl
  · exact fun ⟨hne, hv⟩ => ⟨hv, fun _ => hne⟩

/-- The last member leaves: the room is released. -/
theorem World.Represents.remove_last (h : w.Represents i p)
    (hs : (w.instances i).sessions u = some session)
    (hlast : ∀ v, p v = some session.roomId → v = u) :
    (((w.endSession i u session).release i session.roomId).unlist u session.roomId).Represents i
      (p.leave u) := by
  have hu := h.session_eq hs
  have howner : w.redis.roomOwner session.roomId = some i := by
    rw [h.hosts, if_pos ((h.registered _).mpr ⟨u, hu⟩)]
  have hrelease : (w.endSession i u session).release i session.roomId =
      (w.setRedis (w.redis.delRoomKeys session.roomId)).setInstance i
        (((w.instances i).endSession u session).teardownLocalRoom session.roomId) := by
    simp only [World.release, World.endSession, World.setInstance_redis, howner, ↓reduceIte,
      World.setInstance_self]
    simp only [World.setInstance, World.setRedis, Function.update_idem]
  have hout : ∀ v r, r ≠ session.roomId → (p.leave u v = some r ↔ p v = some r) := by
    intro v r hr
    rw [Presence.leave_eq_some]
    refine ⟨And.right, fun hv => ⟨?_, hv⟩⟩
    rintro rfl
    rw [hu] at hv
    exact hr (Option.some.inj hv).symm
  have hempty : ∀ v, p.leave u v ≠ some session.roomId := by
    intro v hv
    obtain ⟨hne, hv⟩ := p.leave_eq_some.mp hv
    exact hne (hlast v hv)
  rw [hrelease]
  refine ⟨fun v => ?_, fun v r => ?_, fun v r => ?_, fun r => ?_, fun r => ?_⟩
  · simp only [World.unlist, World.setRedis_instances, World.setInstance_self,
      Instance.teardownLocalRoom_sessions]
    exact h.session_endSession v
  · simp only [World.unlist, World.setRedis_redis, World.setInstance_redis, Redis.delRoomKeys,
      Function.update_self, Finset.erase_empty, Function.update_idem]
    by_cases hr : r = session.roomId
    · subst hr
      rw [Function.update_self]
      exact iff_of_false (Finset.notMem_empty v) (hempty v)
    · rw [Function.update_of_ne hr, h.listed, hout v r hr]
  · simp only [World.unlist, World.setRedis_instances, World.setInstance_self,
      Instance.teardownLocalRoom_members]
    exact h.member_endSession hs v r
  · simp only [World.unlist, World.setRedis_instances, World.setInstance_self,
      Instance.teardownLocalRoom_localRooms]
    show (Function.update (w.instances i).localRooms session.roomId none r).isSome ↔ _
    by_cases hr : r = session.roomId
    · subst hr
      rw [Function.update_self]
      exact iff_of_false (by rintro ⟨⟩) fun h => h.elim hempty
    · rw [Function.update_of_ne hr, h.registered]
      exact exists_congr fun v => (hout v r hr).symm
  · simp only [World.unlist, World.setRedis_redis, World.setRedis_instances,
      World.setInstance_redis, World.setInstance_self, Redis.delRoomKeys,
      Instance.teardownLocalRoom_localRooms]
    show _ = if (Function.update (w.instances i).localRooms session.roomId none r).isSome
      then some i else none
    by_cases hr : r = session.roomId
    · subst hr
      rw [Function.update_self, Function.update_self]
      rfl
    · rw [Function.update_of_ne hr, Function.update_of_ne hr, h.hosts]

/-- Somebody else stays: the room stays as it is. -/
theorem World.Represents.remove_other (h : w.Represents i p)
    (hs : (w.instances i).sessions u = some session) {v : UserId} (hne : v ≠ u)
    (hv : p v = some session.roomId) :
    ((w.endSession i u session).unlist u session.roomId).Represents i (p.leave u) := by
  have hu := h.session_eq hs
  refine ⟨fun v => ?_, fun v r => ?_, fun v r => ?_, fun r => ?_, fun r => ?_⟩
  · simp only [World.unlist, World.setRedis_instances, World.endSession, World.setInstance_self]
    exact h.session_endSession v
  · simp only [World.unlist, World.setRedis_redis, World.endSession, World.setInstance_redis]
    rw [Presence.leave_eq_some]
    by_cases hr : r = session.roomId
    · subst hr
      rw [Function.update_self, Finset.mem_erase, h.listed]
    · rw [Function.update_of_ne hr, h.listed]
      refine ⟨fun hv => ⟨?_, hv⟩, And.right⟩
      rintro rfl
      rw [hu] at hv
      exact hr (Option.some.inj hv).symm
  · simp only [World.unlist, World.setRedis_instances, World.endSession, World.setInstance_self]
    exact h.member_endSession hs v r
  · simp only [World.unlist, World.setRedis_instances, World.endSession, World.setInstance_self]
    show ((w.instances i).localRooms r).isSome ↔ _
    rw [h.registered]
    constructor
    · rintro ⟨v', hv'⟩
      by_cases hu' : v' = u
      · subst hu'
        obtain rfl : r = session.roomId := Option.some.inj (hv'.symm.trans hu)
        exact ⟨v, p.leave_eq_some.mpr ⟨hne, hv⟩⟩
      · exact ⟨v', p.leave_eq_some.mpr ⟨hu', hv'⟩⟩
    · exact fun ⟨v', hv'⟩ => ⟨v', (p.leave_eq_some.mp hv').2⟩
  · simp only [World.unlist, World.setRedis_redis, World.setRedis_instances, World.endSession,
      World.setInstance_redis, World.setInstance_self]
    exact h.hosts r

/-- A leaving user is taken out everywhere, and with the last user the room goes. -/
theorem World.Represents.remove (h : w.Represents i p)
    (hs : (w.instances i).sessions u = some session) (hredis : opts.skipRedis = false)
    (hrelease : opts.releaseRoomIfEmpty = true) :
    (w.remove i u session opts).Represents i (p.leave u) := by
  have hends := Instance.endsRoom_iff _ _ _ ((h.member u session.roomId).mpr (h.session_eq hs))
  simp only [World.remove, hredis, hrelease, and_true, ↓reduceIte]
  by_cases hlast : ∀ v, p v = some session.roomId → v = u
  · rw [if_pos (hends.mpr fun v hv => hlast v ((h.member v _).mp hv))]
    exact h.remove_last hs hlast
  · obtain ⟨v, hv, hne⟩ : ∃ v, p v = some session.roomId ∧ v ≠ u := by simpa using hlast
    rw [if_neg fun hall => hne (hends.mp hall v ((h.member v _).mpr hv))]
    exact h.remove_other hs hne hv

end Leave

theorem World.Represents.run_removeSession {opts : RemoveSessionOptions} (h : w.Represents i p)
    (hredis : opts.skipRedis = false) (hrelease : opts.releaseRoomIfEmpty = true) :
    ((removeSession i u opts).run exec w).2.Represents i (p.leave u) := by
  rw [Rtc.run_removeSession]
  cases hs : (w.instances i).sessions u with
  | none =>
      have hu : p u = none := by rw [← h.session u, hs]; rfl
      rw [p.leave_of_none hu]
      exact h
  | some session => exact h.remove hs hredis hrelease

/-! ### Joining -/

section Join

theorem World.Hosts.enter (h : w.Hosts i) (socket : Socket) (router : Router)
    (name image : Option Text) : (w.enter i u r socket router name image).Hosts i := by
  intro r'
  rw [World.enter, World.setInstance_self]
  exact h r'

theorem World.Hosts.prepare (h : w.Hosts i) : (w.prepare i r).Hosts i := by
  unfold World.prepare
  split
  · exact h
  · intro r'
    simp only [World.host, World.create, World.setInstance_redis, World.setInstance_self,
      World.setRedis_redis, World.setRedis_instances]
    show Function.update w.redis.roomOwner r (some i) r' =
      if (Function.update (w.instances i).localRooms r _ r').isSome then some i else none
    by_cases hr : r' = r
    · subst hr
      rw [Function.update_self, Function.update_self]
      rfl
    · rw [Function.update_of_ne hr, Function.update_of_ne hr]
      exact h r'

theorem World.prepare_roomPeers : (w.prepare i r).redis.roomPeers = w.redis.roomPeers := by
  unfold World.prepare
  split <;> rfl

theorem World.prepare_sessions :
    ((w.prepare i r).instances i).sessions = (w.instances i).sessions := by
  unfold World.prepare
  split
  · rfl
  · simp [World.host, World.create, Instance.createRouter, Instance.setLocalRoom]

theorem World.prepare_members :
    ((w.prepare i r).instances i).members = (w.instances i).members := by
  unfold World.prepare
  split
  · rfl
  · simp only [World.host, World.create, World.setInstance_self]
    rfl

theorem World.prepare_registered (r' : RoomId) :
    (((w.prepare i r).instances i).localRooms r').isSome ↔
      r' = r ∨ ((w.instances i).localRooms r').isSome := by
  unfold World.prepare
  split
  · rename_i hroom
    exact ⟨.inr, fun h => h.elim (fun hr => hr ▸ hroom) id⟩
  · simp only [World.host, World.create, World.setInstance_self]
    show (Function.update (w.instances i).localRooms r _ r').isSome ↔ _
    by_cases hr : r' = r
    · subst hr
      simp
    · simp [hr]

/-- Everything is in place for `u` to enter `r`: nobody else has moved, `u` is
nowhere but perhaps still listed in `r`, and `r` has its local room. -/
structure World.Awaits (w : World) (i : InstanceId) (p : Presence) (u : UserId) (r : RoomId) :
    Prop where
  session : ∀ v, v ≠ u → ((w.instances i).sessions v).map (·.roomId) = p v
  listed : ∀ v r', v ≠ u → (v ∈ w.redis.roomPeers r' ↔ p v = some r')
  listed_self : ∀ r', u ∈ w.redis.roomPeers r' → r' = r
  member : ∀ v r', v ≠ u → (v ∈ (w.instances i).members r' ↔ p v = some r')
  member_self : ∀ r', u ∉ (w.instances i).members r'
  registered : ∀ r', ((w.instances i).localRooms r').isSome ↔
    r' = r ∨ ∃ v, v ≠ u ∧ p v = some r'
  hosts : w.Hosts i

theorem World.Awaits.enter (h : w.Awaits i p u r) (socket : Socket) (router : Router)
    (name image : Option Text) :
    (w.enter i u r socket router name image).Represents i (p.enter u r) := by
  refine ⟨fun v => ?_, fun v r' => ?_, fun v r' => ?_, fun r' => ?_, h.hosts.enter _ _ _ _⟩
  · rw [World.enter, World.setInstance_self]
    show (Function.update (w.instances i).sessions u _ v).map _ = _
    by_cases hv : v = u
    · subst hv
      rw [Function.update_self, Presence.enter, Function.update_self]
      rfl
    · rw [Function.update_of_ne hv, Presence.enter, Function.update_of_ne hv, h.session v hv]
  · show v ∈ Function.update w.redis.roomPeers r _ r' ↔ _
    rw [Presence.enter_eq_some]
    by_cases hr : r' = r
    · subst hr
      rw [Function.update_self, Finset.mem_insert]
      by_cases hv : v = u
      · simp [hv]
      · simp [hv, h.listed v r' hv]
    · rw [Function.update_of_ne hr]
      by_cases hv : v = u
      · subst hv
        simpa [Ne.symm hr] using fun hlisted => hr (h.listed_self r' hlisted)
      · simp [hv, h.listed v r' hv]
  · rw [World.enter, World.setInstance_self, Presence.enter_eq_some, Instance.enterRoom_members]
    show v ∈ (if r' = r then Instance.addMember u ((w.instances i).members r)
      else (w.instances i).members r') ↔ _
    by_cases hr : r' = r
    · subst hr
      rw [if_pos rfl, Instance.mem_addMember]
      by_cases hv : v = u
      · simp [hv]
      · simp [hv, h.member v r' hv]
    · rw [if_neg hr]
      by_cases hv : v = u
      · subst hv
        simpa [Ne.symm hr] using h.member_self r'
      · simp [hv, h.member v r' hv]
  · rw [World.enter, World.setInstance_self]
    show ((w.instances i).localRooms r').isSome ↔ _
    rw [h.registered]
    constructor
    · rintro (rfl | ⟨v, hv, hp⟩)
      · exact ⟨u, p.enter_eq_some.mpr (.inl ⟨rfl, rfl⟩)⟩
      · exact ⟨v, p.enter_eq_some.mpr (.inr ⟨hv, hp⟩)⟩
    · rintro ⟨v, hp⟩
      rcases p.enter_eq_some.mp hp with ⟨-, rfl⟩ | ⟨hv, hp⟩
      · exact .inl rfl
      · exact .inr ⟨v, hv, hp⟩

/-- The world `join` has made when it has taken the user out of the last room. -/
def World.arrive (w : World) (i : InstanceId) (u : UserId) : World :=
  match (w.instances i).sessions u with
  | none => w
  | some session => w.endSession i u session

theorem World.arrive_redis : (w.arrive i u).redis = w.redis := by
  unfold World.arrive
  cases (w.instances i).sessions u <;> rfl

theorem World.arrive_localRooms :
    ((w.arrive i u).instances i).localRooms = (w.instances i).localRooms := by
  unfold World.arrive
  cases (w.instances i).sessions u with
  | none => rfl
  | some session =>
      show ((w.endSession i u session).instances i).localRooms = _
      rw [World.endSession, World.setInstance_self]
      rfl

theorem World.Hosts.arrive (h : w.Hosts i) : (w.arrive i u).Hosts i := by
  intro r
  rw [World.arrive_redis, World.arrive_localRooms]
  exact h r

theorem World.Represents.arrive (h : w.Represents i p) :
    (∀ v, (((w.arrive i u).instances i).sessions v).map (·.roomId) = p.leave u v) ∧
      ∀ v r, v ∈ ((w.arrive i u).instances i).members r ↔ p.leave u v = some r := by
  unfold World.arrive
  cases hs : (w.instances i).sessions u with
  | none =>
      have hu : p u = none := by rw [← h.session u, hs]; rfl
      rw [p.leave_of_none hu]
      exact ⟨h.session, h.member⟩
  | some session =>
      simp only [World.endSession, World.setInstance_self]
      exact ⟨h.session_endSession, h.member_endSession hs⟩

theorem World.Represents.awaits (h : w.Represents i p) (hstay : ∀ r', p u = some r' → r' = r) :
    ((w.arrive i u).prepare i r).Awaits i p u r := by
  have hother : ∀ v r', v ≠ u → (p.leave u v = some r' ↔ p v = some r') := fun v r' hv => by
    rw [Presence.leave_eq_some]
    exact and_iff_right hv
  refine ⟨fun v hv => ?_, fun v r' _ => ?_, fun r' => ?_, fun v r' hv => ?_, fun r' => ?_,
    fun r' => ?_, h.hosts.arrive.prepare⟩
  · rw [World.prepare_sessions, h.arrive.1, Presence.leave, Function.update_of_ne hv]
  · rw [World.prepare_roomPeers, World.arrive_redis, h.listed]
  · rw [World.prepare_roomPeers, World.arrive_redis, h.listed]
    exact hstay r'
  · rw [World.prepare_members, h.arrive.2, hother v r' hv]
  · rw [World.prepare_members, h.arrive.2, Presence.leave_eq_some]
    exact fun hself => hself.1 rfl
  · rw [World.prepare_registered, World.arrive_localRooms, h.registered]
    constructor
    · rintro (hr | ⟨v, hv⟩)
      · exact .inl hr
      · by_cases hvu : v = u
        · exact .inl (hstay r' (hvu ▸ hv))
        · exact .inr ⟨v, hvu, hv⟩
    · rintro (hr | ⟨v, -, hv⟩)
      · exact .inl hr
      · exact .inr ⟨v, hv⟩

theorem run_joinRoom (h : w.Hosts i) (u : UserId) (r : RoomId) (socket : Socket)
    (name image : Option Text) :
    ∃ room view, (joinRoom i u r socket name image).run exec w =
      (.ok room view, ((w.arrive i u).prepare i r).enter i u r socket room name image) := by
  obtain ⟨room, hroom⟩ := run_roomForJoin (r := r) u (h.arrive (u := u))
  obtain ⟨view, hview⟩ :=
    run_enterLocalRoom (w := (w.arrive i u).prepare i r) (i := i) (r := r) u socket name image room
  refine ⟨room.router, view, ?_⟩
  have hremove : (removeSession i u
      { skipRedis := true, skipSocketLeave := false, releaseRoomIfEmpty := false }).run exec w =
        ((), w.arrive i u) := by
    rw [run_removeSession]
    unfold World.arrive
    cases (w.instances i).sessions u with
    | none => rfl
    | some session => simp [World.remove]
  rw [joinRoom, run_bind, hremove, run_bind, hroom]
  exact hview

end Join

/-! ### The other operations -/

theorem World.Represents.run_kickPeer (h : w.Represents i p) :
    ((kickPeer i r u).run exec w).2.Represents i (if p u = some r then p.leave u else p) := by
  rw [kickPeer, run_bind, run_perform]
  simp only [exec, Instance.getSession]
  cases hs : (w.instances i).sessions u with
  | none =>
      have hu : p u = none := by rw [← h.session u, hs]; rfl
      simpa [hu] using h
  | some session =>
      have hu := h.session_eq hs
      by_cases hr : session.roomId = r
      · subst hr
        simp only [hu, Option.map_some, ne_eq, not_true_eq_false, ↓reduceIte]
        rw [run_bind, run_perform, run_bind, run_removeFound_some]
        show (w.remove i u session {}).Represents i (p.leave u)
        exact h.remove hs rfl rfl
      · have hne : p u ≠ some r := by
          rw [hu]
          exact fun heq => hr (Option.some.inj heq)
        simpa [hr, hne] using h

theorem World.Represents.run_removeSessions (h : w.Represents i p) (us : List UserId) :
    ((removeSessions i us).run exec w).2.Represents i (us.foldl Presence.leave p) := by
  induction us generalizing w p with
  | nil => exact h
  | cons u rest ih =>
      rw [removeSessions, run_bind]
      exact ih (h.run_removeSession rfl rfl)

theorem Presence.foldl_leave (us : List UserId) (p : Presence) (v : UserId) :
    us.foldl Presence.leave p v = if v ∈ us then none else p v := by
  induction us generalizing p with
  | nil => simp
  | cons u rest ih =>
      rw [List.foldl_cons, ih]
      by_cases hv : v = u
      · subst hv
        simp [Presence.leave]
      · simp [Presence.leave, hv]

/-- What is left of a room nobody is in can be cleared again. -/
theorem World.Represents.clear_empty (h : w.Represents i p) (hempty : ∀ v, p v ≠ some r) :
    ((w.release i r).setRedis ((w.release i r).redis.delRoomKeys r)).Represents i p := by
  have hroom : (w.instances i).localRooms r = none := by
    cases hroom : (w.instances i).localRooms r with
    | none => rfl
    | some room =>
        obtain ⟨v, hv⟩ := (h.registered r).mp (by rw [hroom]; rfl)
        exact absurd hv (hempty v)
  have howner : w.redis.roomOwner r = none := by rw [h.hosts, hroom]; rfl
  have hpeers : w.redis.roomPeers r = ∅ :=
    Finset.eq_empty_of_forall_notMem fun v hv => hempty v ((h.listed v r).mp hv)
  have hrelease : w.release i r = w := by
    rw [World.release, if_neg (by rw [howner]; rintro ⟨⟩), Instance.teardownLocalRoom, hroom]
    exact World.ext rfl (Function.update_eq_self ..)
  rw [hrelease]
  refine ⟨h.session, fun v r' => ?_, h.member, h.registered, fun r' => ?_⟩
  · show v ∈ Function.update w.redis.roomPeers r ∅ r' ↔ _
    rw [← hpeers, Function.update_eq_self, h.listed]
  · have hsame : Function.update w.redis.roomOwner r none = w.redis.roomOwner := by
      rw [← howner, Function.update_eq_self]
    show Function.update w.redis.roomOwner r none r' = _
    rw [hsame]
    exact h.hosts r'

theorem World.Represents.run_forceTeardown (h : w.Represents i p) :
    ((forceTeardownMediasoupRoom i r).run exec w).2.Represents i (p.clear r) := by
  have hclear : ((w.instances i).members r).foldl Presence.leave p = p.clear r := by
    funext v
    rw [Presence.foldl_leave, Presence.clear]
    simp only [h.member]
  rw [forceTeardownMediasoupRoom, run_bind, run_perform, run_bind, run_bind, run_releaseRoom,
    run_bind, forceClearRoomRedis, run_perform]
  refine World.Represents.clear_empty ?_ fun v hv => ?_
  · rw [← hclear]
    exact h.run_removeSessions _
  · by_cases hr : p v = some r
    · simp [Presence.clear, hr] at hv
    · simp only [Presence.clear, if_neg hr] at hv
      exact hr hv

theorem World.Represents.setInstance (h : w.Represents i p) (j : InstanceId) {inst : Instance}
    (hsessions : inst.sessions = (w.instances j).sessions)
    (hmembers : inst.roomMembers = (w.instances j).roomMembers)
    (hrooms : inst.localRooms = (w.instances j).localRooms) :
    (w.setInstance j inst).Represents i p := by
  by_cases hj : i = j
  · subst hj
    have hmem : inst.members = (w.instances i).members := by
      funext r
      rw [Instance.members, hmembers]
      rfl
    refine ⟨?_, h.listed, ?_, ?_, fun r => ?_⟩
    · rw [World.setInstance_self, hsessions]
      exact h.session
    · rw [World.setInstance_self, hmem]
      exact h.member
    · rw [World.setInstance_self, hrooms]
      exact h.registered
    · rw [World.setInstance_self, hrooms]
      exact h.hosts r
  · refine ⟨?_, h.listed, ?_, ?_, fun r => ?_⟩
    · rw [World.setInstance_of_ne _ _ hj]
      exact h.session
    · rw [World.setInstance_of_ne _ _ hj]
      exact h.member
    · rw [World.setInstance_of_ne _ _ hj]
      exact h.registered
    · rw [World.setInstance_of_ne _ _ hj]
      exact h.hosts r

/-- The commands that deal with the transports and producers of a session. -/
def Cmd.Media : Cmd → Prop
  | .findRoomOf _ _ | .createWebRtcTransport _ _ | .addTransport _ _ _ | .findTransport _ _ _
  | .produce _ _ _ | .addProducer _ _ _ | .publishRoomMediaEvent _ _ | .emit _ => True
  | _ => False

theorem World.Represents.media (h : w.Represents i p) {c : Cmd} (hc : c.Media) :
    (exec c w).2.Represents i p := by
  cases c with
  | createWebRtcTransport j router =>
      refine h.setInstance j ?_ ?_ ?_ <;>
        · unfold Instance.createWebRtcTransport
          split <;> rfl
  | produce j transport kind =>
      refine h.setInstance j ?_ ?_ ?_ <;>
        · unfold Instance.produce
          split <;> rfl
  | addTransport j session transport => exact h.setInstance j rfl rfl rfl
  | addProducer j session producer => exact h.setInstance j rfl rfl rfl
  | findRoomOf | findTransport | publishRoomMediaEvent | emit => exact h
  | _ => exact hc.elim

theorem uses_createWebRtcTransport (i : InstanceId) (u : UserId) :
    (createWebRtcTransport i u).Uses Cmd.Media := by
  refine ⟨trivial, fun found => ?_⟩
  rcases found with _ | ⟨session, _ | room⟩
  · trivial
  · trivial
  · refine ⟨trivial, fun transport => ?_⟩
    cases transport with
    | none => trivial
    | some transport => exact ⟨trivial, fun _ => trivial⟩

theorem uses_produce (i : InstanceId) (u : UserId) (id : ℕ) (kind : MediaKind) :
    (produce i u id kind).Uses Cmd.Media := by
  refine ⟨trivial, fun found => ?_⟩
  rcases found with _ | ⟨session, _ | transport⟩
  · trivial
  · trivial
  · refine ⟨trivial, fun producer => ?_⟩
    cases producer with
    | none => trivial
    | some producer => exact ⟨trivial, fun _ => ⟨trivial, fun _ => ⟨trivial, fun _ => trivial⟩⟩⟩

end Refinement

/-! ### Sequences of operations -/

/-- The world after one operation, run to its end on instance `i`. -/
def serve (i : InstanceId) (w : World) (op : Op) : World := ((handleOp i op).run exec w).2

/-- The Redis peer sets, the sessions and the members of the rooms agree, and
exactly the rooms with members have a local room. -/
structure ExactMembership (i : InstanceId) (w : World) : Prop where
  listed : ∀ u r, u ∈ w.redis.roomPeers r ↔
    ∃ session ∈ (w.instances i).sessions u, session.roomId = r
  member : ∀ u r, u ∈ (w.instances i).members r ↔
    ∃ session ∈ (w.instances i).sessions u, session.roomId = r
  registered : ∀ r, ((w.instances i).localRooms r).isSome ↔ (w.instances i).members r ≠ []

/-- No user joins a room with a session in another; no local room is made for
nobody. -/
def StaysInRoom (i : InstanceId) (w : World) : Op → Prop
  | .join ⟨_, some u, some r⟩ _ _ => ∀ session ∈ (w.instances i).sessions u, session.roomId = r
  | .getOrCreateLocalRoom r => (w.instances i).members r ≠ []
  | _ => True

section Sequences

variable {w : World} {i : InstanceId} {p : Presence}

theorem World.Represents.exact (h : w.Represents i p) : ExactMembership i w := by
  have hin : ∀ u r, (∃ session ∈ (w.instances i).sessions u, session.roomId = r) ↔
      p u = some r := by
    intro u r
    rw [← h.session u, Option.map_eq_some_iff]
    rfl
  refine ⟨fun u r => ?_, fun u r => ?_, fun r => ?_⟩
  · rw [hin, h.listed]
  · rw [hin, h.member]
  · rw [h.registered, Ne, List.eq_nil_iff_forall_not_mem, not_forall_not]
    exact exists_congr fun u => (h.member u r).symm

theorem World.Represents.exists_session (h : w.Represents i p) {u : UserId} {r : RoomId}
    (hu : p u = some r) : ∃ session ∈ (w.instances i).sessions u, session.roomId = r := by
  rw [← h.session u] at hu
  exact Option.map_eq_some_iff.mp hu

theorem serve_join (h : w.Hosts i) (id : SocketId) (u : UserId) (r : RoomId)
    (name image : Option Text) :
    ∃ router, serve i w (.join ⟨id, some u, some r⟩ name image) =
      ((w.arrive i u).prepare i r).enter i u r ⟨id, some u, some r⟩ router name image := by
  obtain ⟨router, view, hrun⟩ := run_joinRoom h u r ⟨id, some u, some r⟩ name image
  refine ⟨router, ?_⟩
  rw [serve, handleOp, run_map, join, hrun]

/-- **One operation refines one step of the map.** -/
theorem World.Represents.serve (h : w.Represents i p) {op : Op} (hop : StaysInRoom i w op) :
    (Rtc.serve i w op).Represents i (p.apply op) := by
  cases op with
  | join socket name image =>
      obtain ⟨id, _ | u, _ | r⟩ := socket
      · exact h
      · exact h
      · exact h
      · obtain ⟨router, hserve⟩ := serve_join h.hosts id u r name image
        rw [hserve]
        refine (h.awaits fun r' hu => ?_).enter _ router name image
        obtain ⟨session, hs, rfl⟩ := h.exists_session hu
        exact hop session hs
  | leave u =>
      rw [Rtc.serve, handleOp, run_map]
      exact h.run_removeSession rfl rfl
  | kickPeer r u =>
      rw [Rtc.serve, handleOp, run_map]
      exact h.run_kickPeer
  | onSocketDisconnect socket =>
      rw [Rtc.serve, handleOp, run_map]
      obtain ⟨id, _ | u, room⟩ := socket
      · exact h
      · exact h.run_removeSession rfl rfl
  | forceTeardownMediasoupRoom r =>
      rw [Rtc.serve, handleOp, run_map]
      exact h.run_forceTeardown
  | getOrCreateLocalRoom r =>
      obtain ⟨u, hu⟩ := List.exists_mem_of_ne_nil _ hop
      have hroom := (h.registered r).mpr ⟨u, (h.member u r).mp hu⟩
      obtain ⟨room, hroom⟩ := Option.isSome_iff_exists.mp hroom
      rw [Rtc.serve, handleOp, run_map, run_getOrCreateLocalRoom_cached h.hosts hroom]
      exact h
  | createWebRtcTransport u =>
      rw [Rtc.serve, handleOp, run_map]
      exact Uses.run_keeps (I := fun w : World => w.Represents i p) (uses_createWebRtcTransport i u)
        (fun _ hc _ hw => hw.media hc) h
  | produce u id kind =>
      rw [Rtc.serve, handleOp, run_map]
      exact Uses.run_keeps (I := fun w : World => w.Represents i p) (uses_produce i u id kind)
        (fun _ hc _ hw => hw.media hc) h

/-- A user who moves is still listed in the room left behind, a room made for
nobody has no member. -/
theorem World.Represents.not_exact (h : w.Represents i p) {op : Op} (hop : ¬ StaysInRoom i w op) :
    ¬ ExactMembership i (Rtc.serve i w op) := by
  intro hexact
  cases op with
  | join socket name image =>
      obtain ⟨id, _ | u, _ | r⟩ := socket
      · exact hop trivial
      · exact hop trivial
      · exact hop trivial
      · obtain ⟨session, hs, hne⟩ : ∃ session ∈ (w.instances i).sessions u,
            session.roomId ≠ r := by
          simpa [StaysInRoom] using hop
        have hlisted : u ∈ w.redis.roomPeers session.roomId :=
          (h.listed u _).mpr (h.session_eq hs)
        obtain ⟨router, hserve⟩ := serve_join h.hosts id u r name image
        rw [hserve] at hexact
        have hstill := (hexact.listed u session.roomId).mp (by
          show u ∈ Function.update ((w.arrive i u).prepare i r).redis.roomPeers r _ _
          rw [Function.update_of_ne hne, World.prepare_roomPeers, World.arrive_redis]
          exact hlisted)
        obtain ⟨now, hnow, hroom⟩ := hstill
        rw [World.enter, World.setInstance_self, Option.mem_def,
          Instance.enterRoom_sessions, Function.update_self] at hnow
        rw [← Option.some.inj hnow] at hroom
        exact hne hroom.symm
  | getOrCreateLocalRoom r =>
      have hempty : (w.instances i).members r = [] := by simpa [StaysInRoom] using hop
      have hroom : (w.instances i).localRooms r = none := by
        cases hroom : (w.instances i).localRooms r with
        | none => rfl
        | some room =>
            have hsome := (h.exact.registered r).mp (by rw [hroom]; rfl)
            exact absurd hempty hsome
      rw [Rtc.serve, handleOp, run_map, run_getOrCreateLocalRoom_new h.hosts hroom] at hexact
      have hregistered := (hexact.registered r).mp (by
        show ((((w.host i r).instances i).localRooms r)).isSome
        rw [World.host, World.create, World.setInstance_self]
        show (Function.update (w.instances i).localRooms r _ r).isSome
        rw [Function.update_self]
        rfl)
      refine hregistered ?_
      show ((w.host i r).instances i).members r = []
      rw [World.host, World.create, World.setInstance_self]
      exact hempty
  | _ => exact hop trivial

/-- **Membership is exact** after every prefix of a sequence of operations on a
fresh instance if and only if no operation of it moves a user from one room to
another. -/
theorem exactMembership_iff_staysInRoom (i : InstanceId) (ops : List Op) :
    Always (Rtc.serve i) (ExactMembership i) {} ops ↔
      EveryStep (Rtc.serve i) (StaysInRoom i) {} ops := by
  refine always_iff_everyStep (J := fun w => ∃ p, w.Represents i p) ?_ ?_ ?_ ?_
  · exact fun w ⟨p, h⟩ => h.exact
  · exact fun w op ⟨p, h⟩ hop => ⟨p.apply op, h.serve hop⟩
  · exact fun w op ⟨p, h⟩ hop => h.not_exact hop
  · refine ⟨fun _ => none, fun _ => rfl, fun u r => ?_, fun u r => ?_, fun r => ?_, fun r => rfl⟩
    · exact iff_of_false (Finset.notMem_empty u) (by rintro ⟨⟩)
    · exact iff_of_false List.not_mem_nil (by rintro ⟨⟩)
    · exact iff_of_false (by rintro ⟨⟩) (by rintro ⟨_, ⟨⟩⟩)

end Sequences

/-! ### A user who moves -/

namespace Sample

theorem moving_leaves_room_behind : ¬ Always (serve rtc1) (ExactMembership rtc1) {}
    [.join ⟨"s1", some ann, some lobby⟩ none none, .join ⟨"s2", some ann, some den⟩ none none] := by
  intro h
  have hlisted := (h _ List.prefix_rfl).listed ann lobby
  clear h
  revert hlisted
  decide +kernel

end Sample

end Greetup.Rtc
