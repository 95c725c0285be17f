import Greetup.Rtc.Disconnect
import Greetup.Rtc.Membership

/-!
One media host per room, over all instances.

The owner key of a room says which instance may hold sessions in it. A join
relies on the key from the moment it has read or claimed it until its session
is in place, and nothing renews that reading. The key can be trusted in exactly
this way as long as it is only deleted while nobody relies on it, and a join
that lost the claim still finds a winner.
-/

namespace Greetup.Rtc

open Greetup.Interleaving Prog

variable {ι : Type}

/-- The room in which an instance has a session of the user. -/
def World.roomOf (w : World) (m : InstanceId) (u : UserId) : Option RoomId :=
  ((w.instances m).sessions u).map (·.roomId)

/-- No two instances hold sessions in one room. -/
def OneHost (w : World) : Prop :=
  ∀ r m m' u u', w.roomOf m u = some r → w.roomOf m' u' = some r → m = m'

/-! ### Relying on the owner key -/

/-- The room a request is about to join. -/
def Op.joinsRoom : Op → Option RoomId
  | .join ⟨_, some _, some r⟩ _ _ => some r
  | _ => none

@[simp] def Cmd.enters : Cmd → Bool
  | .enterRoom .. => true
  | _ => false

/-- The answers that tell a caller on instance `m` that the room is its own. -/
def grants (m : InstanceId) (r : RoomId) : Event ι Cmd Cmd.Reply → Bool
  | ⟨_, .getRoomOwner _ .release, _⟩ => false
  | ⟨_, .getRoomOwner r' _, owner⟩ => r' = r ∧ owner = some m
  | ⟨_, .setRoomOwnerNX r' m', claimed⟩ => r' = r ∧ m' = m ∧ claimed
  | _ => false

/-- A join of the room has passed the ownership check, and its session is not
in place yet. -/
def InFlight (requests : ι → Request) (s : Scene ι Cmd Cmd.Reply World) (t : ι) (r : RoomId) :
    Prop :=
  (requests t).op.joinsRoom = some r ∧
    (∃ e ∈ s.trace, e.tid = t ∧ grants (requests t).instanceId r e) ∧
    ∀ e ∈ s.trace, e.tid = t → e.cmd.enters = false

/-- The owner key of a room is deleted only while no instance has a session in
the room and no join of it is in flight, and a join that lost the claim finds
the key still there. -/
def OwnerTrusted (requests : ι → Request) (_ : ι) (c : Cmd) (s : Scene ι Cmd Cmd.Reply World) :
    Prop :=
  match c with
  | .delRoomKeys r => (∀ m u, s.world.roomOf m u ≠ some r) ∧ ∀ t, ¬ InFlight requests s t r
  | .getRoomOwner r .lostClaim => s.world.redis.roomOwner r ≠ none
  | _ => True

/-- Sessions and joins in flight are at the owner of their room. -/
structure Owned (requests : ι → Request) (s : Scene ι Cmd Cmd.Reply World) : Prop where
  session : ∀ m u r, s.world.roomOf m u = some r → s.world.redis.roomOwner r = some m
  inFlight : ∀ t r, InFlight requests s t r →
    s.world.redis.roomOwner r = some (requests t).instanceId

theorem Owned.oneHost {requests : ι → Request} {s : Scene ι Cmd Cmd.Reply World}
    (h : Owned requests s) : OneHost s.world := by
  intro r m m' u u' hm hm'
  exact Option.some.inj ((h.session m u r hm).symm.trans (h.session m' u' r hm'))

/-! ### One step -/

section Step

variable {requests : ι → Request} {s : Scene ι Cmd Cmd.Reply World} {t : ι} {c : Cmd}

/-- Whoever is in flight after a command was so before, unless the command's
answer is what put its caller there. -/
theorem InFlight.of_after {t' : ι} {r : RoomId} (h : InFlight requests (s.after exec t c) t' r) :
    InFlight requests s t' r ∨
      (t = t' ∧ grants (requests t').instanceId r (⟨t, c, (exec c s.world).1⟩ : Event ι _ _)) := by
  obtain ⟨hjoins, ⟨e, he, htid, hgrants⟩, henters⟩ := h
  have hold : ∀ e ∈ s.trace, e.tid = t' → e.cmd.enters = false :=
    fun e he => henters e (List.mem_cons_of_mem _ he)
  rcases List.mem_cons.mp he with rfl | he
  · exact .inr ⟨htid, hgrants⟩
  · exact .inl ⟨hjoins, ⟨e, he, htid, hgrants⟩, hold⟩

/-- The commands of a handler on instance `m`, up to the one that enters the
room. -/
def Cmd.Before (m : InstanceId) : Cmd → Prop
  | .enterRoom .. => False
  | .setRoomOwnerNX _ m' => m' = m
  | _ => True

theorem Cmd.Before.not_enters {m : InstanceId} {c : Cmd} (hc : c.Before m) : c.enters = false := by
  cases c with
  | enterRoom => exact hc.elim
  | _ => rfl

/-- A command that neither claims nor deletes a key nor enters a room. -/
theorem Owned.after_of_same (h : Owned requests s)
    (howner : (exec c s.world).2.redis.roomOwner = s.world.redis.roomOwner)
    (hroom : ∀ m u r, (exec c s.world).2.roomOf m u = some r → s.world.roomOf m u = some r)
    (hgrants : ∀ r m, grants m r (⟨t, c, (exec c s.world).1⟩ : Event ι _ _) →
      s.world.redis.roomOwner r = some m) :
    Owned requests (s.after exec t c) where
  session m u r hr := by
    rw [Scene.after_world, howner]
    exact h.session m u r (hroom m u r hr)
  inFlight t' r hfly := by
    rw [Scene.after_world, howner]
    rcases hfly.of_after with hfly | ⟨-, hgrant⟩
    · exact h.inFlight t' r hfly
    · exact hgrants r _ hgrant

theorem World.roomOf_setInstance {w : World} {m i : InstanceId} {u : UserId} {inst : Instance} :
    (w.setInstance i inst).roomOf m u =
      if m = i then (inst.sessions u).map (·.roomId) else w.roomOf m u := by
  unfold World.roomOf
  by_cases hm : m = i
  · subst hm
    rw [World.setInstance_self, if_pos rfl]
  · rw [World.setInstance_of_ne _ _ hm, if_neg hm]

theorem Owned.after_delRoomKeys (h : Owned requests s) {r : RoomId}
    (ha : OwnerTrusted requests t (.delRoomKeys r) s) :
    Owned requests (s.after exec t (.delRoomKeys r)) where
  session m u r' hr' := by
    have hne : r' ≠ r := by
      rintro rfl
      exact ha.1 m u hr'
    show Function.update s.world.redis.roomOwner r none r' = some m
    rw [Function.update_of_ne hne]
    exact h.session m u r' hr'
  inFlight t' r' hfly := by
    rcases hfly.of_after with hold | ⟨-, hgrant⟩
    · have hne : r' ≠ r := by
        rintro rfl
        exact ha.2 t' hold
      show Function.update s.world.redis.roomOwner r none r' = some _
      rw [Function.update_of_ne hne]
      exact h.inFlight t' r' hold
    · exact absurd hgrant (by rintro ⟨⟩)

theorem Owned.after_setRoomOwnerNX (h : Owned requests s) (r : RoomId) :
    Owned requests (s.after exec t (.setRoomOwnerNX r (requests t).instanceId)) := by
  by_cases hfree : s.world.redis.roomOwner r = none
  · have hworld : (exec (.setRoomOwnerNX r (requests t).instanceId) s.world).2.redis.roomOwner =
        Function.update s.world.redis.roomOwner r (some (requests t).instanceId) := by
      simp [exec, hfree]
    refine ⟨fun m u r' hr' => ?_, fun t' r' hfly => ?_⟩
    · have hold : s.world.redis.roomOwner r' = some m := h.session m u r' (by
        simpa [World.roomOf, exec, hfree] using hr')
      have hne : r' ≠ r := by
        rintro rfl
        rw [hfree] at hold
        exact absurd hold (by rintro ⟨⟩)
      rw [Scene.after_world, hworld, Function.update_of_ne hne, hold]
    · rw [Scene.after_world, hworld]
      rcases hfly.of_after with hfly | ⟨rfl, hgrant⟩
      · have hold := h.inFlight t' r' hfly
        have hne : r' ≠ r := by
          rintro rfl
          rw [hfree] at hold
          exact absurd hold (by rintro ⟨⟩)
        rw [Function.update_of_ne hne, hold]
      · have hr : r = r' := by
          simp only [grants, decide_eq_true_eq] at hgrant
          exact hgrant.1
        rw [hr, Function.update_self]
  · have hworld : (exec (.setRoomOwnerNX r (requests t).instanceId) s.world) =
      (false, s.world) := by
      simp [exec, hfree]
    refine h.after_of_same ?_ ?_ ?_
    · rw [hworld]
    · rw [hworld]
      exact fun _ _ _ hr => hr
    · rw [hworld]
      intro r' m hgrant
      simp [grants] at hgrant

theorem Owned.after_getRoomOwner (h : Owned requests s) (r : RoomId) (site : OwnerRead) :
    Owned requests (s.after exec t (.getRoomOwner r site)) := by
  refine h.after_of_same rfl (fun _ _ _ hr => hr) fun r' m hgrant => ?_
  cases site with
  | release => exact absurd hgrant (by rintro ⟨⟩)
  | cached | unclaimed | lostClaim =>
      obtain ⟨rfl, howner⟩ := of_decide_eq_true hgrant
      exact howner

/-- What happens inside an instance without adding a session. -/
theorem Owned.after_setInstance (h : Owned requests s) {i : InstanceId} {inst : Instance}
    (hworld : (exec c s.world).2 = s.world.setInstance i inst)
    (hsessions : ∀ u session, inst.sessions u = some session →
      (s.world.instances i).sessions u = some session)
    (hgrants : ∀ r m, ¬ grants m r (⟨t, c, (exec c s.world).1⟩ : Event ι _ _)) :
    Owned requests (s.after exec t c) := by
  refine h.after_of_same (by rw [hworld]; rfl) (fun m u r hr => ?_)
    fun r m hgrant => absurd hgrant (hgrants r m)
  rw [hworld, World.roomOf_setInstance] at hr
  split at hr
  · rename_i hm
    subst hm
    obtain ⟨session, hsession, rfl⟩ := Option.map_eq_some_iff.mp hr
    rw [World.roomOf, hsessions u session hsession]
    rfl
  · exact hr

/-- Entering the room, as whoever is in flight does. -/
theorem Owned.after_enterRoom (h : Owned requests s) {u : UserId} {r : RoomId} {socket : Socket}
    {router : Router} {name image : Option Matching.Text} (hfly : InFlight requests s t r) :
    Owned requests
      (s.after exec t
        (.enterRoom (requests t).instanceId u r socket router name image)) where
  session m v r' hr' := by
    show s.world.redis.roomOwner r' = some m
    rw [Scene.after_world, exec, World.roomOf_setInstance] at hr'
    split at hr'
    · rename_i hm
      subst hm
      rw [Option.map_eq_some_iff] at hr'
      obtain ⟨session, hsession, rfl⟩ := hr'
      rw [Instance.enterRoom_sessions] at hsession
      by_cases hv : v = u
      · subst hv
        rw [Function.update_self] at hsession
        rw [← Option.some.inj hsession]
        exact h.inFlight t r hfly
      · rw [Function.update_of_ne hv] at hsession
        exact h.session _ v _ (by rw [World.roomOf, hsession]; rfl)
    · exact h.session m v r' hr'
  inFlight t' r' hfly' := by
    rcases hfly'.of_after with hold | ⟨-, hgrant⟩
    · exact h.inFlight t' r' hold
    · exact absurd hgrant (by rintro ⟨⟩)

theorem Owned.after_before (h : Owned requests s) (hc : c.Before (requests t).instanceId)
    (ha : OwnerTrusted requests t c s) : Owned requests (s.after exec t c) := by
  cases c with
  | getRoomOwner r site => exact h.after_getRoomOwner r site
  | setRoomOwnerNX r m =>
      obtain rfl := hc
      exact h.after_setRoomOwnerNX r
  | delRoomKeys r => exact h.after_delRoomKeys ha
  | enterRoom => exact hc.elim
  | teardownLocalRoom i r =>
      refine h.after_setInstance rfl (fun u session hs => ?_) fun _ _ => (by rintro ⟨⟩)
      rwa [Instance.teardownLocalRoom_sessions] at hs
  | endSession i u found =>
      refine h.after_setInstance rfl (fun v session hs => ?_) fun _ _ => (by rintro ⟨⟩)
      rw [Instance.endSession_sessions] at hs
      by_cases hv : v = u
      · subst hv
        rw [Function.update_self] at hs
        exact absurd hs (by rintro ⟨⟩)
      · rwa [Function.update_of_ne hv] at hs
  | createWebRtcTransport i router =>
      refine h.after_setInstance rfl (fun u session hs => ?_) fun _ _ => (by rintro ⟨⟩)
      rwa [Instance.createWebRtcTransport_sessions] at hs
  | produce i transport kind =>
      refine h.after_setInstance rfl (fun u session hs => ?_) fun _ _ => (by rintro ⟨⟩)
      rwa [Instance.produce_sessions] at hs
  | createRouter | setLocalRoom | addTransport | addProducer =>
      exact h.after_setInstance rfl (fun _ _ hs => hs) fun _ _ => (by rintro ⟨⟩)
  | _ => exact h.after_of_same rfl (fun _ _ _ hr => hr) fun _ _ => (by rintro ⟨⟩)

end Step

/-! ### The handlers -/

section Uses

variable {m : InstanceId} {r : RoomId}

theorem DisconnectCmd.before {i : InstanceId} {u : UserId} {c : Cmd} (hc : DisconnectCmd i u c) :
    c.Before m := by
  cases c with
  | setRoomOwnerNX | enterRoom => exact hc.elim
  | _ => trivial

theorem Cmd.Media.before {c : Cmd} (hc : c.Media) : c.Before m := by
  cases c with
  | setRoomOwnerNX | enterRoom => exact hc.elim
  | _ => trivial

theorem uses_createLocalRoom : (createLocalRoom m r).Uses (Cmd.Before m) :=
  ⟨trivial, fun _ => ⟨trivial, fun _ => ⟨trivial, fun _ => ⟨trivial, fun _ => ⟨trivial, fun _ =>
    ⟨trivial, fun _ => ⟨trivial, fun _ => trivial⟩⟩⟩⟩⟩⟩⟩

theorem uses_claimLocalRoom : (claimLocalRoom m r).Uses (Cmd.Before m) := by
  refine ⟨rfl, fun claimed => ?_⟩
  cases claimed with
  | true => exact uses_createLocalRoom
  | false =>
      refine ⟨trivial, fun owner => ?_⟩
      cases owner with
      | none => exact uses_createLocalRoom
      | some owner =>
          show Prog.Uses _ (if owner ≠ m then _ else _)
          split
          · trivial
          · exact uses_createLocalRoom

theorem uses_acquireLocalRoom : (acquireLocalRoom m r).Uses (Cmd.Before m) := by
  refine ⟨trivial, fun owner => ?_⟩
  cases owner with
  | none => exact uses_claimLocalRoom
  | some owner =>
      show Prog.Uses _ (if owner ≠ m then _ else _)
      split
      · refine ⟨trivial, fun peerCount => ?_⟩
        show Prog.Uses _ (if peerCount = 0 then _ else _)
        split
        · exact ⟨trivial, fun _ => uses_claimLocalRoom⟩
        · trivial
      · exact uses_createLocalRoom

theorem uses_getOrCreateLocalRoom : (getOrCreateLocalRoom m r).Uses (Cmd.Before m) := by
  refine ⟨trivial, fun cached => ?_⟩
  cases cached with
  | none => exact uses_acquireLocalRoom
  | some cached =>
      refine ⟨trivial, fun owner => ?_⟩
      show Prog.Uses _ (if owner = some m then _ else _)
      split
      · trivial
      · exact ⟨trivial, fun _ => uses_acquireLocalRoom⟩

end Uses

section Keeps

variable {requests : ι → Request} {s : Scene ι Cmd Cmd.Reply World} {t : ι}

def ownership (requests : ι → Request) : Outline ι exec where
  key c := c.enters = true
  inv := Owned requests
  allowed := OwnerTrusted requests

theorem quiet_ownership (t : ι) :
    (ownership requests).Quiet t (Cmd.Before (requests t).instanceId) where
  not_key c hc := by
    show ¬ c.enters = true
    rw [hc.not_enters]
    exact Bool.false_ne_true
  inv_after c hc s h ha := Owned.after_before h hc ha

/-- The caller has been told that the room belongs to its instance. -/
def Granted (requests : ι → Request) (t : ι) (r : RoomId) (s : Scene ι Cmd Cmd.Reply World) :
    Prop :=
  ∃ e ∈ s.trace, e.tid = t ∧ grants (requests t).instanceId r e

theorem Granted.later {r : RoomId} {s' : Scene ι Cmd Cmd.Reply World} {key : Cmd → Prop}
    (h : Granted requests t r s) (hs : Scene.Since key t s s') : Granted requests t r s' := by
  obtain ⟨e, he, htid, hgrants⟩ := h
  exact ⟨e, hs.mem he, htid, hgrants⟩

/-- Whoever gets a local room has been granted it. -/
def GrantedIfOk (requests : ι → Request) (t : ι) (r : RoomId) (result : LocalRoomResult)
    (s : Scene ι Cmd Cmd.Reply World) : Prop :=
  ∀ room, result = .ok room → Granted requests t r s

theorem keeps_createLocalRoom {r : RoomId} (h : Granted requests t r s) :
    (ownership requests).Keeps t (createLocalRoom (requests t).instanceId r)
      (GrantedIfOk requests t r) s :=
  (quiet_ownership t).keeps uses_createLocalRoom fun _ _ hs _ _ _ => h.later hs

theorem keeps_claimLocalRoom (r : RoomId) :
    (ownership requests).Keeps t (claimLocalRoom (requests t).instanceId r)
      (GrantedIfOk requests t r) s := by
  rw [claimLocalRoom, perform_bind, Outline.keeps_call]
  intro s₁ _ hI₁ _
  refine ⟨Owned.after_setRoomOwnerNX hI₁ r, ?_⟩
  cases hclaimed : (exec (.setRoomOwnerNX r (requests t).instanceId) s₁.world).1 with
  | true =>
      refine keeps_createLocalRoom ⟨_, List.mem_cons_self, rfl, ?_⟩
      exact decide_eq_true ⟨rfl, rfl, hclaimed⟩
  | false =>
      rw [if_neg (by simp), perform_bind, Outline.keeps_call]
      intro s₂ _ hI₂ ha₂
      refine ⟨Owned.after_getRoomOwner hI₂ r .lostClaim, ?_⟩
      cases howner : (exec (.getRoomOwner r .lostClaim) s₂.world).1 with
      | none => exact absurd howner ha₂
      | some owner =>
          show Outline.Keeps _ _ (if owner ≠ _ then _ else _) _ _
          split
          · exact fun _ _ _ _ => (by rintro ⟨⟩)
          · rename_i hmine
            refine keeps_createLocalRoom ⟨_, List.mem_cons_self, rfl, ?_⟩
            refine decide_eq_true ⟨rfl, ?_⟩
            rw [howner, not_not.mp hmine]

theorem keeps_acquireLocalRoom (r : RoomId) :
    (ownership requests).Keeps t (acquireLocalRoom (requests t).instanceId r)
      (GrantedIfOk requests t r) s := by
  rw [acquireLocalRoom, perform_bind, Outline.keeps_call]
  intro s₁ _ hI₁ _
  refine ⟨Owned.after_getRoomOwner hI₁ r .unclaimed, ?_⟩
  cases howner : (exec (.getRoomOwner r .unclaimed) s₁.world).1 with
  | none => exact keeps_claimLocalRoom r
  | some owner =>
      show Outline.Keeps _ _ (if owner ≠ _ then _ else _) _ _
      split
      · refine (quiet_ownership t).keeps_call trivial fun s₂ _ _ _ _ => ?_
        show Outline.Keeps _ _ (if _ = 0 then _ else _) _ _
        split
        · exact (quiet_ownership t).keeps_call trivial fun _ _ _ _ _ => keeps_claimLocalRoom r
        · exact fun _ _ _ _ => (by rintro ⟨⟩)
      · rename_i hmine
        refine keeps_createLocalRoom ⟨_, List.mem_cons_self, rfl, ?_⟩
        refine decide_eq_true ⟨rfl, ?_⟩
        rw [howner, not_not.mp hmine]

theorem keeps_getOrCreateLocalRoom (r : RoomId) :
    (ownership requests).Keeps t (getOrCreateLocalRoom (requests t).instanceId r)
      (GrantedIfOk requests t r) s := by
  refine (quiet_ownership t).keeps_call trivial fun s₁ _ _ _ _ => ?_
  cases (exec (.getLocalRoom (requests t).instanceId r) s₁.world).1 with
  | none => exact keeps_acquireLocalRoom r
  | some cached =>
      show Outline.Keeps _ _ (.call (Cmd.getRoomOwner r (.cached cached)) _) _ _
      rw [Outline.keeps_call]
      intro s₂ _ hI₂ _
      refine ⟨Owned.after_getRoomOwner hI₂ r _, ?_⟩
      show Outline.Keeps _ _ (if _ = some _ then _ else _) _ _
      split
      · rename_i hmine
        refine fun s₃ hs₃ _ room _ => Granted.later ⟨_, List.mem_cons_self, rfl, ?_⟩ hs₃
        exact decide_eq_true ⟨rfl, hmine⟩
      · exact (quiet_ownership t).keeps_call trivial fun _ _ _ _ _ => keeps_acquireLocalRoom r

theorem keeps_roomForJoin (u : UserId) (r : RoomId) (hs : Owned requests s) :
    (ownership requests).Keeps t (roomForJoin (requests t).instanceId u r)
      (GrantedIfOk requests t r) s := by
  refine Outline.Keeps.bind ((keeps_getOrCreateLocalRoom r).imp fun result s₁ _ hgranted => ?_) hs
  cases result with
  | ok room => exact fun s₂ hs₂ _ _ _ => (hgranted room rfl).later hs₂
  | wrongInstance owner =>
      refine (quiet_ownership t).keeps_call (c := .smembersRoomPeers r) trivial
        fun s₂ _ _ _ _ => ?_
      show Outline.Keeps _ _ (if _ then _ else _) _ _
      split
      · exact (quiet_ownership t).keeps_call trivial fun _ _ _ _ _ => keeps_getOrCreateLocalRoom r
      · exact fun _ _ _ _ => (by rintro ⟨⟩)

/-- A granted join enters the room before it has entered any. -/
theorem keeps_enterLocalRoom {u : UserId} {r : RoomId} {socket : Socket}
    {name image : Option Matching.Text} {room : LocalRoom}
    (hjoins : (requests t).op.joinsRoom = some r) (hgranted : Granted requests t r s)
    (hfirst : ∀ e ∈ s.trace, e.tid = t → e.cmd.enters = false) :
    (ownership requests).Keeps t
      (enterLocalRoom (requests t).instanceId u r socket name image room) (fun _ _ => True) s := by
  have hsave : (savePeer u r (requests t).instanceId socket.id).Uses
      (Cmd.Before (requests t).instanceId) :=
    ⟨trivial, fun _ => ⟨trivial, fun _ => ⟨trivial, fun _ => ⟨trivial, fun _ => ⟨trivial, fun _ =>
      ⟨trivial, fun _ => trivial⟩⟩⟩⟩⟩⟩
  rw [enterLocalRoom, perform_bind]
  refine (quiet_ownership t).keeps_call trivial fun s₁ hs₁ _ hs₁' hI₁ => ?_
  refine (quiet_ownership t).keeps_bind hsave hI₁ fun _ s₂ hs₂ hI₂ => ?_
  rw [perform_bind, Outline.keeps_call]
  intro s₃ hs₃ hI₃ _
  have hsince := (((hs₁.trans hs₁').trans hs₂).trans hs₃)
  refine ⟨Owned.after_enterRoom hI₃ ⟨hjoins, hgranted.later hsince, fun e he htid => ?_⟩, ?_⟩
  · by_contra henters
    have hkey : e.cmd.enters = true := Bool.eq_true_of_not_eq_false henters
    exact henters (hfirst e (hsince.mem_of_key he htid hkey) htid)
  · exact (quiet_ownership t).keeps ⟨trivial, fun _ => trivial⟩ fun _ _ _ _ => trivial

theorem uses_roomForJoin {m : InstanceId} {u : UserId} {r : RoomId} :
    (roomForJoin m u r).Uses (Cmd.Before m) := by
  refine uses_getOrCreateLocalRoom.bind fun result => ?_
  cases result with
  | ok room => trivial
  | wrongInstance owner =>
      refine ⟨trivial, fun peerIds => ?_⟩
      show Prog.Uses _ (if _ then _ else _)
      split
      · exact ⟨trivial, fun _ => uses_getOrCreateLocalRoom⟩
      · trivial

theorem uses_kickPeer {m : InstanceId} {r : RoomId} {u : UserId} :
    (kickPeer m r u).Uses (Cmd.Before m) := by
  refine ⟨trivial, fun found => ?_⟩
  rcases found with _ | ⟨session, producers⟩
  · trivial
  · show Prog.Uses _ (if session.roomId ≠ r then _ else _)
    split
    · trivial
    · refine ⟨trivial, fun _ => ?_⟩
      exact ((uses_removeFound _ _).mono fun _ hc => hc.before).bind fun _ =>
        ⟨trivial, fun _ => trivial⟩

theorem uses_removeSessions {m : InstanceId} (us : List UserId) :
    (removeSessions m us).Uses (Cmd.Before m) := by
  induction us with
  | nil => trivial
  | cons u rest ih =>
      exact ((uses_removeSession _).mono fun _ hc => hc.before).bind fun _ => ih

theorem uses_releaseRoom_before {m : InstanceId} {r : RoomId} :
    (releaseRoom m r).Uses (Cmd.Before m) := by
  refine ⟨trivial, fun owner => (uses_runIf ?_).bind fun _ => ?_⟩
  · exact ⟨trivial, fun _ => trivial⟩
  · exact ⟨trivial, fun _ => trivial⟩

theorem uses_forceTeardownMediasoupRoom {m : InstanceId} {r : RoomId} :
    (forceTeardownMediasoupRoom m r).Uses (Cmd.Before m) :=
  ⟨trivial, fun us => (uses_removeSessions us).bind fun _ =>
    uses_releaseRoom_before.bind fun _ => ⟨trivial, fun _ => trivial⟩⟩

/-- Every request is safe to serve. -/
theorem keeps_handle (hs : Owned requests s) (hfirst : ∀ e ∈ s.trace, e.tid = t → False) :
    (ownership requests).Keeps t (requests t).handle (fun _ _ => True) s := by
  have hquiet : ∀ {α : Type} {p : M α}, p.Uses (Cmd.Before (requests t).instanceId) →
      (ownership requests).Keeps t p (fun _ _ => True) s := fun hp =>
    (quiet_ownership t).keeps hp fun _ _ _ _ => trivial
  unfold Request.handle
  cases hop : (requests t).op with
  | join socket name image =>
      obtain ⟨id, _ | u, _ | r⟩ := socket
      · exact hquiet trivial
      · exact hquiet trivial
      · exact hquiet trivial
      · refine Outline.Keeps.map ?_
        show (ownership requests).Keeps t (joinRoom _ u r _ name image) _ s
        refine (quiet_ownership t).keeps_bind ((uses_removeSession _).mono fun _ hc => hc.before)
          hs fun _ s₁ hs₁ hI₁ => ?_
        refine Outline.Keeps.bind (((keeps_roomForJoin u r hI₁).since
          (uses_roomForJoin.mono fun _ hc => (quiet_ownership t).not_key _ hc)).imp
            fun result s₂ hI₂ hresult => ?_) hI₁
        cases result with
        | wrongInstance owner => exact fun _ _ _ => trivial
        | ok room =>
            refine keeps_enterLocalRoom (by rw [hop]; rfl) (hresult.1 room rfl) ?_
            intro e he htid
            by_contra henters
            have hkey : e.cmd.enters = true := Bool.eq_true_of_not_eq_false henters
            exact hfirst e ((hs₁.trans hresult.2).mem_of_key he htid hkey) htid
  | leave u => exact hquiet (((uses_removeSession _).mono fun _ hc => hc.before).map _)
  | kickPeer r u => exact hquiet (uses_kickPeer.map _)
  | onSocketDisconnect socket =>
      obtain ⟨id, _ | u, r⟩ := socket
      · exact hquiet trivial
      · exact hquiet (((uses_removeSession _).mono fun _ hc => hc.before).map _)
  | forceTeardownMediasoupRoom r => exact hquiet (uses_forceTeardownMediasoupRoom.map _)
  | getOrCreateLocalRoom r => exact hquiet (uses_getOrCreateLocalRoom.map _)
  | createWebRtcTransport u =>
      exact hquiet (((uses_createWebRtcTransport _ u).mono fun _ hc => hc.before).map _)
  | produce u id kind =>
      exact hquiet (((uses_produce _ u id kind).mono fun _ hc => hc.before).map _)

end Keeps

/-! ### Runs -/

variable [DecidableEq ι]

/-- **One host.** Started where every session is at the owner of its room, in
every run that trusts the owner keys no two instances hold sessions in one
room. -/
theorem oneHost_of_ownerTrusted (requests : ι → Request) (w : World)
    (hw : ∀ m u r, w.roomOf m u = some r → w.redis.roomOwner r = some m) (sched : List ι)
    (htrusted : (serving requests w).Meets exec (OwnerTrusted requests) sched) :
    OneHost ((serving requests w).runs exec sched).scene.world := by
  have hstart : Owned requests (serving requests w).scene := by
    refine ⟨hw, fun t r hfly => ?_⟩
    obtain ⟨-, ⟨e, he, -⟩, -⟩ := hfly
    exact absurd he List.not_mem_nil
  have hsafe : ∀ t, (ownership requests).Keeps t ((serving requests w).threads t)
      (fun _ _ => True) (serving requests w).scene := fun t =>
    keeps_handle hstart fun e he _ => absurd he List.not_mem_nil
  have hrun : Owned requests ((serving requests w).runs exec sched).scene :=
    (Outline.keeps_runs hstart hsafe htrusted).1
  exact hrun.oneHost

/-! ### Two instances and one room -/

namespace Sample

def annSocket : Socket := ⟨"s1", some ann, some lobby⟩
def benSocket : Socket := ⟨"s2", some ben, some lobby⟩

/-- Ann and Ben join the room on different instances. -/
def meeting : Fin 2 → Request
  | 0 => ⟨rtc1, .join annSocket none none⟩
  | 1 => ⟨rtc2, .join benSocket none none⟩

/-- The commands `OwnerTrusted` has nothing to say about. -/
def leavesOwner : Cmd → Bool
  | .delRoomKeys _ => false
  | .getRoomOwner _ .lostClaim => false
  | _ => true

theorem ownerTrusted_of_leavesOwner {conf : Conf (Fin 2) Cmd Cmd.Reply Outcome World}
    {sched : List (Fin 2)} (h : conf.Meets exec (fun _ c _ => leavesOwner c) sched) :
    conf.Meets exec (OwnerTrusted meeting) sched := by
  refine h.mono exec fun t c s hc => ?_
  cases c with
  | delRoomKeys r => exact absurd hc (by rintro ⟨⟩)
  | getRoomOwner r site =>
      cases site with
      | lostClaim => exact absurd hc (by rintro ⟨⟩)
      | cached | unclaimed | release => trivial
  | _ => trivial

/-- Ben comes when Ann is in the room, and is sent to her instance. -/
theorem oneHost_when_refused :
    OneHost ((serving meeting {}).runs exec
      (List.replicate 20 0 ++ List.replicate 20 1)).scene.world :=
  oneHost_of_ownerTrusted meeting {} (fun _ _ _ => (by rintro ⟨⟩)) _
    (ownerTrusted_of_leavesOwner (by decide +kernel))

/-- Ben comes when Ann has claimed the room and is not listed as a peer yet. -/
theorem twoHosts : ¬ OneHost ((serving meeting {}).runs exec
    (List.replicate 5 0 ++ List.replicate 30 1 ++ List.replicate 20 0)).scene.world := by
  intro h
  have hsame : rtc1 = rtc2 :=
    h lobby rtc1 rtc2 ann ben (by decide +kernel) (by decide +kernel)
  exact absurd hsame (by decide)

end Sample

end Greetup.Rtc
