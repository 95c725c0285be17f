import Greetup.Rtc.Ownership

/-!
One router per room on an instance.

Between the lookup of a local room and its registration the registry waits for
Redis and for mediasoup, and so does a release between finding the room empty
and closing its router. As long as these stretches do not overlap for one room,
an open router is the registered one or on its way to be, and every session
lives on the registered router of its room.
-/

namespace Greetup.Rtc

open Greetup.Interleaving Prog
open Matching (Text)

variable {ι : Type}

/-- A room has at most one open router, and every session has its room
registered, with the open router that its capabilities and its transports came
from. -/
structure OneRouter (m : InstanceId) (w : World) : Prop where
  unique : ∀ k ∈ (w.instances m).routers, ∀ k' ∈ (w.instances m).routers,
    k.roomId = k'.roomId → k = k'
  session : ∀ u, ∀ session ∈ (w.instances m).sessions u,
    ∃ room ∈ (w.instances m).localRooms session.roomId,
      room.router = session.router ∧ room.router ∈ (w.instances m).routers ∧
        ∀ t ∈ (w.instances m).transports session, t.router = session.router

/-! ### Calls in progress -/

/-- The commands of a handler that happen at most once and in this order. -/
def Cmd.Marks : Cmd → Prop
  | .createRouter .. | .setLocalRoom .. | .enterRoom .. => True
  | _ => False

@[simp] def Cmd.registers (m : InstanceId) : Cmd → Bool
  | .setLocalRoom m' _ => m' = m
  | _ => false

theorem registers_of_not_marks {m : InstanceId} {c : Cmd} (h : ¬ c.Marks) :
    c.registers m = false := by
  cases c with
  | setLocalRoom => exact absurd trivial h
  | _ => rfl

theorem enters_of_not_marks {c : Cmd} (h : ¬ c.Marks) : c.enters = false := by
  cases c with
  | enterRoom => exact absurd trivial h
  | _ => rfl

/-- The event creates the router. -/
def makes (m : InstanceId) (k : Router) (e : Event ι Cmd Cmd.Reply) : Bool :=
  match e with
  | ⟨_, .createRouter m' _, router⟩ => m' = m ∧ router = k
  | _ => false

theorem marks_of_makes {m : InstanceId} {k : Router} {e : Event ι Cmd Cmd.Reply}
    (h : makes m k e) : e.cmd.Marks := by
  rcases e with ⟨t, c, reply⟩
  cases c with
  | createRouter => trivial
  | _ => exact absurd h (by rintro ⟨⟩)

/-- A caller has created the router and not registered it yet. -/
def Making (s : Scene ι Cmd Cmd.Reply World) (t : ι) (m : InstanceId) (k : Router) : Prop :=
  (∃ e ∈ s.trace, e.tid = t ∧ makes m k e) ∧
    ∀ e ∈ s.trace, e.tid = t → e.cmd.registers m = false

/-- The event hands the caller its local room. -/
def obtains (m : InstanceId) (r : RoomId) (room : LocalRoom) (e : Event ι Cmd Cmd.Reply) : Bool :=
  match e with
  | ⟨_, .getRoomOwner r' (.cached room'), owner⟩ => r' = r ∧ room' = room ∧ owner = some m
  | ⟨_, .setLocalRoom m' room', _⟩ => m' = m ∧ room' = room ∧ room.roomId = r
  | _ => false

/-- A join has got its local room, and its session is not in place yet. -/
def Holding (requests : ι → Request) (s : Scene ι Cmd Cmd.Reply World) (t : ι) (r : RoomId)
    (room : LocalRoom) : Prop :=
  (requests t).op.joinsRoom = some r ∧
    (∃ e ∈ s.trace, e.tid = t ∧ obtains (requests t).instanceId r room e) ∧
    ∀ e ∈ s.trace, e.tid = t → e.cmd.enters = false

/-- A router is created only for a room that is not registered and that nobody
else is making one for; a join that may keep a cached room finds it still
registered; a room is torn down only when no session is in it and no join holds
it. -/
def RoomSettled (requests : ι → Request) (t : ι) (c : Cmd) (s : Scene ι Cmd Cmd.Reply World) :
    Prop :=
  match c with
  | .createRouter m r => (s.world.instances m).localRooms r = none ∧
      ∀ t' k, k.roomId = r → ¬ Making s t' m k
  | .getRoomOwner r (.cached room) => (requests t).op.joinsRoom = some r →
      s.world.redis.roomOwner r = some (requests t).instanceId →
        (s.world.instances (requests t).instanceId).localRooms r = some room
  | .teardownLocalRoom m r => (∀ u, s.world.roomOf m u ≠ some r) ∧
      ∀ t room, (requests t).instanceId = m → ¬ Holding requests s t r room
  | _ => True

/-- What holds of the routers of instance `m` while its calls are in progress. -/
structure Housed (requests : ι → Request) (m : InstanceId) (s : Scene ι Cmd Cmd.Reply World) :
    Prop where
  unique : ∀ k ∈ (s.world.instances m).routers, ∀ k' ∈ (s.world.instances m).routers,
    k.roomId = k'.roomId → k = k'
  placed : ∀ k ∈ (s.world.instances m).routers,
    (∃ room ∈ (s.world.instances m).localRooms k.roomId, room.router = k) ∨
      ∃ t, Making s t m k
  registered : ∀ r, ∀ room ∈ (s.world.instances m).localRooms r,
    room.router.roomId = r ∧ room.router ∈ (s.world.instances m).routers
  making : ∀ t k, Making s t m k → k ∈ (s.world.instances m).routers ∧
    (s.world.instances m).localRooms k.roomId = none
  maker : ∀ t t' k, Making s t m k → Making s t' m k → t = t'
  single : ∀ t k k', Making s t m k → Making s t m k' → k = k'
  session : ∀ u, ∀ session ∈ (s.world.instances m).sessions u,
    ∃ room ∈ (s.world.instances m).localRooms session.roomId, room.router = session.router
  transports : ∀ session, ∀ t ∈ (s.world.instances m).transports session,
    t.router = session.router
  holding : ∀ t r room, (requests t).instanceId = m → Holding requests s t r room →
    (s.world.instances m).localRooms r = some room

theorem Housed.oneRouter {requests : ι → Request} {m : InstanceId}
    {s : Scene ι Cmd Cmd.Reply World} (h : Housed requests m s) : OneRouter m s.world where
  unique := h.unique
  session u session hs := by
    obtain ⟨room, hroom, hrouter⟩ := h.session u session hs
    exact ⟨room, hroom, hrouter, (h.registered _ room hroom).2, h.transports session⟩

/-! ### One step -/

section Step

variable {requests : ι → Request} {s : Scene ι Cmd Cmd.Reply World} {t : ι} {c : Cmd}
  {m : InstanceId}

theorem Making.of_after {t' : ι} {k : Router} (h : Making (s.after exec t c) t' m k) :
    Making s t' m k ∨
      (t = t' ∧ makes m k (⟨t, c, (exec c s.world).1⟩ : Event ι Cmd Cmd.Reply)) := by
  obtain ⟨⟨e, he, htid, hmakes⟩, hregisters⟩ := h
  rcases List.mem_cons.mp he with rfl | he
  · exact .inr ⟨htid, hmakes⟩
  · refine .inl ⟨⟨e, he, htid, hmakes⟩, fun e he => ?_⟩
    exact hregisters e (List.mem_cons_of_mem _ he)

theorem Making.after {t' : ι} {k : Router} (h : Making s t' m k)
    (hc : c.registers m = false ∨ t ≠ t') : Making (s.after exec t c) t' m k := by
  obtain ⟨⟨e, he, htid, hmakes⟩, hregisters⟩ := h
  refine ⟨⟨e, List.mem_cons_of_mem _ he, htid, hmakes⟩, fun e' he' htid' => ?_⟩
  rcases List.mem_cons.mp he' with rfl | he'
  · exact hc.resolve_right (not_not.mpr htid')
  · exact hregisters e' he' htid'

theorem Holding.of_after {t' : ι} {r : RoomId} {room : LocalRoom}
    (h : Holding requests (s.after exec t c) t' r room) :
    Holding requests s t' r room ∨
      (t = t' ∧ (requests t).op.joinsRoom = some r ∧
        obtains (requests t).instanceId r room
          (⟨t, c, (exec c s.world).1⟩ : Event ι Cmd Cmd.Reply)) := by
  obtain ⟨hjoins, ⟨e, he, htid, hobtains⟩, henters⟩ := h
  rcases List.mem_cons.mp he with rfl | he
  · subst htid
    exact .inr ⟨rfl, hjoins, hobtains⟩
  · refine .inl ⟨hjoins, ⟨e, he, htid, hobtains⟩, fun e he => ?_⟩
    exact henters e (List.mem_cons_of_mem _ he)

/-- A command that touches no router and no registration, ends sessions at most
and hands nobody a room. -/
theorem Housed.after_of_le (h : Housed requests m s)
    (hrouters : ((exec c s.world).2.instances m).routers = (s.world.instances m).routers)
    (hrooms : ((exec c s.world).2.instances m).localRooms = (s.world.instances m).localRooms)
    (hsessions : ∀ u session, ((exec c s.world).2.instances m).sessions u = some session →
      (s.world.instances m).sessions u = some session)
    (htransports : ∀ session, ∀ t ∈ ((exec c s.world).2.instances m).transports session,
      t.router = session.router)
    (hregisters : c.registers m = false)
    (hmaking : ∀ k, ¬ makes m k (⟨t, c, (exec c s.world).1⟩ : Event ι Cmd Cmd.Reply))
    (hholding : ∀ r room, (requests t).instanceId = m → (requests t).op.joinsRoom = some r →
      obtains (requests t).instanceId r room
        (⟨t, c, (exec c s.world).1⟩ : Event ι Cmd Cmd.Reply) →
      (s.world.instances m).localRooms r = some room) :
    Housed requests m (s.after exec t c) := by
  have hold : ∀ {t' k}, Making (s.after exec t c) t' m k → Making s t' m k := fun hmake =>
    hmake.of_after.resolve_right fun hnew => hmaking _ hnew.2
  refine ⟨?_, ?_, ?_, ?_, fun t' t'' k hmake hmake' => h.maker t' t'' k (hold hmake) (hold hmake'),
    fun t' k k' hmake hmake' => h.single t' k k' (hold hmake) (hold hmake'), ?_, htransports, ?_⟩
  · rw [Scene.after_world, hrouters]
    exact h.unique
  · rw [Scene.after_world, hrouters, hrooms]
    intro k hk
    exact (h.placed k hk).imp_right fun ⟨t', hmake⟩ => ⟨t', hmake.after (.inl hregisters)⟩
  · rw [Scene.after_world, hrouters, hrooms]
    exact h.registered
  · rw [Scene.after_world, hrouters, hrooms]
    exact fun t' k hmake => h.making t' k (hold hmake)
  · rw [Scene.after_world, hrooms]
    exact fun u session hs => h.session u session (hsessions u session hs)
  · rw [Scene.after_world, hrooms]
    intro t' r room hinst hhold
    rcases hhold.of_after with hhold | ⟨rfl, hjoins, hobtains⟩
    · exact h.holding t' r room hinst hhold
    · exact hholding r room hinst hjoins hobtains

/-- The commands that change no instance or another one. -/
theorem Housed.after_elsewhere (h : Housed requests m s)
    (hinst : (exec c s.world).2.instances m = s.world.instances m)
    (hregisters : c.registers m = false)
    (hmaking : ∀ k, ¬ makes m k (⟨t, c, (exec c s.world).1⟩ : Event ι Cmd Cmd.Reply))
    (hholding : ∀ r room, (requests t).instanceId = m → (requests t).op.joinsRoom = some r →
      obtains (requests t).instanceId r room
        (⟨t, c, (exec c s.world).1⟩ : Event ι Cmd Cmd.Reply) →
      (s.world.instances m).localRooms r = some room) :
    Housed requests m (s.after exec t c) := by
  refine h.after_of_le ?_ ?_ ?_ ?_ hregisters hmaking hholding
  · rw [hinst]
  · rw [hinst]
  · rw [hinst]
    exact fun _ _ hs => hs
  · rw [hinst]
    exact h.transports

/-- A new router, for a room that has none and that nobody else makes one for. -/
theorem Housed.after_createRouter (h : Housed requests m s) {i : InstanceId} {r : RoomId}
    (ha : RoomSettled requests t (.createRouter i r) s)
    (hfirst : ∀ e ∈ s.trace, e.tid = t → ¬ e.cmd.Marks) :
    Housed requests m (s.after exec t (.createRouter i r)) := by
  by_cases hm : m = i
  · subst hm
    obtain ⟨hnone, hnobody⟩ := ha
    have hfree : ∀ k ∈ (s.world.instances m).routers, k.roomId ≠ r := by
      intro k hk hr
      rcases h.placed k hk with ⟨room, hroom, -⟩ | ⟨t', hmake⟩
      · rw [hr, hnone] at hroom
        exact absurd hroom (by rintro ⟨⟩)
      · exact hnobody t' k hr hmake
    let new : Router := { id := (s.world.instances m).created, roomId := r }
    have hinst : (exec (.createRouter m r) s.world).2.instances m =
        ((s.world.instances m).createRouter r).2 := World.setInstance_self ..
    have hmade : ∀ t' k, Making (s.after exec t (.createRouter m r)) t' m k →
        Making s t' m k ∨ (t = t' ∧ k = new) := by
      intro t' k hmake
      rcases hmake.of_after with hmake | ⟨ht, hmakes⟩
      · exact .inl hmake
      · exact .inr ⟨ht, (of_decide_eq_true hmakes).2.symm⟩
    have hmaking : Making (s.after exec t (.createRouter m r)) t m new := by
      refine ⟨⟨_, List.mem_cons_self, rfl, decide_eq_true ⟨rfl, rfl⟩⟩, fun e he htid => ?_⟩
      rcases List.mem_cons.mp he with rfl | he
      · rfl
      · exact registers_of_not_marks (hfirst e he htid)
    have hidle : ∀ k, ¬ Making s t m k := by
      rintro k ⟨⟨e, he, htid, hmakes⟩, -⟩
      exact hfirst e he htid (marks_of_makes hmakes)
    have hnew : ∀ t' k, Making s t' m k → k ≠ new := by
      rintro t' k hmake rfl
      exact hnobody t' _ rfl hmake
    refine ⟨fun k hk k' hk' hroom => ?_, fun k hk => ?_, fun r' room hroom => ?_,
      fun t' k hmake => ?_, fun t' t'' k hmake hmake' => ?_, fun t' k k' hmake hmake' => ?_,
      ?_, ?_, fun t' r' room ht hhold => ?_⟩
    · rw [Scene.after_world, hinst] at hk hk'
      rcases List.mem_cons.mp hk with rfl | hk
      · rcases List.mem_cons.mp hk' with rfl | hk'
        · rfl
        · exact absurd hroom.symm (hfree k' hk')
      · rcases List.mem_cons.mp hk' with rfl | hk'
        · exact absurd hroom (hfree k hk)
        · exact h.unique k hk k' hk' hroom
    · rw [Scene.after_world, hinst] at hk ⊢
      rcases List.mem_cons.mp hk with rfl | hk
      · exact .inr ⟨t, hmaking⟩
      · exact (h.placed k hk).imp_right fun ⟨t', hmake⟩ => ⟨t', hmake.after (.inl rfl)⟩
    · rw [Scene.after_world, hinst] at hroom ⊢
      exact ⟨(h.registered r' room hroom).1, List.mem_cons_of_mem _ (h.registered r' room hroom).2⟩
    · rw [Scene.after_world, hinst]
      rcases hmade t' k hmake with hmake | ⟨rfl, rfl⟩
      · exact ⟨List.mem_cons_of_mem _ (h.making t' k hmake).1, (h.making t' k hmake).2⟩
      · exact ⟨List.mem_cons_self, hnone⟩
    · rcases hmade t' k hmake with hold | ⟨rfl, hk⟩
      · rcases hmade t'' k hmake' with hold' | ⟨-, hk⟩
        · exact h.maker t' t'' k hold hold'
        · exact absurd hk (hnew t' k hold)
      · rcases hmade t'' k hmake' with hold' | ⟨ht, -⟩
        · exact absurd hk (hnew t'' k hold')
        · exact ht
    · rcases hmade t' k hmake with hold | ⟨ht, hk⟩
      · rcases hmade t' k' hmake' with hold' | ⟨rfl, -⟩
        · exact h.single t' k k' hold hold'
        · exact absurd hold (hidle k)
      · rcases hmade t' k' hmake' with hold' | ⟨-, hk'⟩
        · exact absurd (ht ▸ hold') (hidle k')
        · rw [hk, hk']
    · rw [Scene.after_world, hinst]
      exact h.session
    · rw [Scene.after_world, hinst]
      exact h.transports
    · rw [Scene.after_world, hinst]
      rcases hhold.of_after with hhold | ⟨-, -, hobtains⟩
      · exact h.holding t' r' room ht hhold
      · exact absurd hobtains (by rintro ⟨⟩)
  · refine h.after_elsewhere (World.setInstance_of_ne _ _ hm) rfl (fun k hmakes => ?_)
      fun _ _ _ _ => (by rintro ⟨⟩)
    exact hm (of_decide_eq_true hmakes).1.symm

/-- The router its caller has made is registered. -/
theorem Housed.after_setLocalRoom (h : Housed requests m s) {room : LocalRoom}
    (hmake : Making s t (requests t).instanceId room.router)
    (hroom : room.roomId = room.router.roomId) :
    Housed requests m (s.after exec t (.setLocalRoom (requests t).instanceId room)) := by
  by_cases hm : m = (requests t).instanceId
  · subst hm
    obtain ⟨hopen, hnone⟩ := h.making t room.router hmake
    have hinst : (exec (.setLocalRoom (requests t).instanceId room) s.world).2.instances
        (requests t).instanceId =
          (s.world.instances (requests t).instanceId).setLocalRoom room :=
      World.setInstance_self ..
    have hrooms : ((s.world.instances (requests t).instanceId).setLocalRoom room).localRooms =
        Function.update (s.world.instances (requests t).instanceId).localRooms room.router.roomId
          (some room) := by
      rw [← hroom]
      rfl
    have hothers : ∀ r' room', room' ∈
        (s.world.instances (requests t).instanceId).localRooms r' → r' ≠ room.router.roomId := by
      rintro r' room' hroom' rfl
      rw [hnone] at hroom'
      exact absurd hroom' (by rintro ⟨⟩)
    -- the caller's own stretch ends, the others go on
    have hmade : ∀ t' k, Making (s.after exec t (.setLocalRoom (requests t).instanceId room)) t'
        (requests t).instanceId k → Making s t' (requests t).instanceId k ∧ t' ≠ t := by
      intro t' k hmake'
      have hold := hmake'.of_after.resolve_right fun hnew => absurd hnew.2 (by rintro ⟨⟩)
      refine ⟨hold, ?_⟩
      rintro rfl
      have hdone := hmake'.2 _ List.mem_cons_self rfl
      exact absurd hdone (by simp)
    have hrouters : ((exec (.setLocalRoom (requests t).instanceId room) s.world).2.instances
        (requests t).instanceId).routers =
          (s.world.instances (requests t).instanceId).routers := by
      rw [hinst]
      rfl
    refine ⟨?_, fun k hk => ?_, fun r' room' hroom' => ?_, fun t' k hmake' => ?_,
      fun t' t'' k hmake' hmake'' => ?_, fun t' k k' hmake' hmake'' => ?_, fun u session hs => ?_,
      ?_, fun t' r' room' ht hhold => ?_⟩
    · rw [Scene.after_world, hrouters]
      exact h.unique
    · rw [Scene.after_world, hinst] at hk ⊢
      rw [hrooms]
      by_cases hr : k.roomId = room.router.roomId
      · refine .inl ⟨room, ?_, (h.unique _ hopen k hk hr.symm)⟩
        rw [hr]
        exact Function.update_self ..
      · rcases h.placed k hk with ⟨room', hroom', hrouter⟩ | ⟨t', hmake'⟩
        · exact .inl ⟨room', (Function.update_of_ne hr _ _).trans hroom', hrouter⟩
        · refine .inr ⟨t', hmake'.after (.inr ?_)⟩
          rintro rfl
          exact hr (congrArg Router.roomId (h.single t k _ hmake' hmake))
    · rw [Scene.after_world, hinst, hrooms] at hroom'
      rw [Scene.after_world, hinst]
      by_cases hr : r' = room.router.roomId
      · subst hr
        rw [Function.update_self] at hroom'
        obtain rfl : room = room' := Option.some.inj hroom'
        exact ⟨rfl, hopen⟩
      · rw [Function.update_of_ne hr] at hroom'
        exact h.registered r' room' hroom'
    · obtain ⟨hold, hne⟩ := hmade t' k hmake'
      obtain ⟨hk, hfree⟩ := h.making t' k hold
      rw [Scene.after_world, hinst, hrooms]
      refine ⟨hk, ?_⟩
      have hr : k.roomId ≠ room.router.roomId := by
        intro hr
        obtain rfl := h.unique k hk _ hopen hr
        exact hne (h.maker t' t _ hold hmake)
      rw [Function.update_of_ne hr]
      exact hfree
    · exact h.maker t' t'' k (hmade t' k hmake').1 (hmade t'' k hmake'').1
    · exact h.single t' k k' (hmade t' k hmake').1 (hmade t' k' hmake'').1
    · rw [Scene.after_world, hinst] at hs ⊢
      obtain ⟨room', hroom', hrouter⟩ := h.session u session hs
      refine ⟨room', ?_, hrouter⟩
      rw [hrooms, Function.update_of_ne (hothers _ _ hroom')]
      exact hroom'
    · rw [Scene.after_world, hinst]
      exact h.transports
    · rw [Scene.after_world, hinst, hrooms]
      rcases hhold.of_after with hold | ⟨rfl, -, hobtains⟩
      · have hroom' := h.holding t' r' room' ht hold
        rw [Function.update_of_ne (hothers _ _ hroom')]
        exact hroom'
      · obtain ⟨-, rfl, rfl⟩ := of_decide_eq_true hobtains
        rw [hroom, Function.update_self]
  · refine h.after_elsewhere (World.setInstance_of_ne _ _ hm) (decide_eq_false (Ne.symm hm))
      (fun _ => (by rintro ⟨⟩)) fun r room' ht _ _ => absurd ht.symm hm

theorem Housed.after_getRoomOwner (h : Housed requests m s) {r : RoomId} {site : OwnerRead}
    (ha : RoomSettled requests t (.getRoomOwner r site) s) :
    Housed requests m (s.after exec t (.getRoomOwner r site)) := by
  refine h.after_elsewhere rfl rfl (fun _ => (by rintro ⟨⟩)) fun r' room ht hjoins hobtains => ?_
  cases site with
  | cached found =>
      obtain ⟨rfl, rfl, howner⟩ := of_decide_eq_true hobtains
      rw [← ht]
      exact ha hjoins howner
  | unclaimed | lostClaim | release => exact absurd hobtains (by rintro ⟨⟩)

theorem Housed.after_teardownLocalRoom (h : Housed requests m s) {i : InstanceId} {r : RoomId}
    (ha : RoomSettled requests t (.teardownLocalRoom i r) s) :
    Housed requests m (s.after exec t (.teardownLocalRoom i r)) := by
  by_cases hm : m = i
  · subst hm
    cases hroom : (s.world.instances m).localRooms r with
    | none =>
        refine h.after_elsewhere ?_ rfl (fun _ => (by rintro ⟨⟩)) fun _ _ _ _ => (by rintro ⟨⟩)
        rw [exec, World.setInstance_self, Instance.teardownLocalRoom, hroom]
    | some room =>
        obtain ⟨hempty, hnobody⟩ := ha
        obtain ⟨hr, hopen⟩ := h.registered r room hroom
        have hinst : (exec (.teardownLocalRoom m r) s.world).2.instances m =
            { (s.world.instances m).closeRouter room.router with
              localRooms := Function.update (s.world.instances m).localRooms r none } := by
          rw [exec, World.setInstance_self, Instance.teardownLocalRoom, hroom]
        have hmade : ∀ t' k, Making (s.after exec t (.teardownLocalRoom m r)) t' m k →
            Making s t' m k := fun t' k hmake =>
          hmake.of_after.resolve_right fun hnew => absurd hnew.2 (by rintro ⟨⟩)
        have hkept : ∀ k, k ∈ (s.world.instances m).routers.filter (· ≠ room.router) ↔
            k ∈ (s.world.instances m).routers ∧ k ≠ room.router := fun k => by
          rw [List.mem_filter, decide_eq_true_eq]
        refine ⟨fun k hk k' hk' => ?_, fun k hk => ?_, fun r' room' hroom' => ?_,
          fun t' k hmake => ?_, fun t' t'' k hmake hmake' => ?_, fun t' k k' hmake hmake' => ?_,
          fun u session hs => ?_, ?_, fun t' r' room' ht hhold => ?_⟩
        · rw [Scene.after_world, hinst] at hk hk'
          exact h.unique k ((hkept k).mp hk).1 k' ((hkept k').mp hk').1
        · rw [Scene.after_world, hinst] at hk ⊢
          obtain ⟨hk, hne⟩ := (hkept k).mp hk
          rcases h.placed k hk with ⟨room', hroom', hrouter⟩ | ⟨t', hmake⟩
          · refine .inl ⟨room', ?_, hrouter⟩
            have hr' : k.roomId ≠ r := by
              intro hr'
              exact hne (h.unique k hk _ hopen (hr'.trans hr.symm))
            exact (Function.update_of_ne hr' _ _).trans hroom'
          · exact .inr ⟨t', hmake.after (.inl rfl)⟩
        · rw [Scene.after_world, hinst] at hroom' ⊢
          by_cases hr' : r' = r
          · subst hr'
            exact absurd ((Function.update_self ..).symm.trans hroom') (by rintro ⟨⟩)
          · have hold : (s.world.instances m).localRooms r' = some room' :=
              (Function.update_of_ne hr' _ _).symm.trans hroom'
            obtain ⟨hid, hmem⟩ := h.registered r' room' hold
            refine ⟨hid, (hkept _).mpr ⟨hmem, fun heq => ?_⟩⟩
            rw [heq, hr] at hid
            exact hr' hid.symm
        · obtain ⟨hk, hnone⟩ := h.making t' k (hmade t' k hmake)
          rw [Scene.after_world, hinst]
          have hr' : k.roomId ≠ r := by
            intro hr'
            rw [hr', hroom] at hnone
            exact absurd hnone (by rintro ⟨⟩)
          refine ⟨(hkept k).mpr ⟨hk, fun heq => ?_⟩, (Function.update_of_ne hr' _ _).trans hnone⟩
          exact hr' ((congrArg Router.roomId heq).trans hr)
        · exact h.maker t' t'' k (hmade t' k hmake) (hmade t'' k hmake')
        · exact h.single t' k k' (hmade t' k hmake) (hmade t' k' hmake')
        · rw [Scene.after_world, hinst] at hs ⊢
          obtain ⟨room', hroom', hrouter⟩ := h.session u session hs
          refine ⟨room', ?_, hrouter⟩
          have hr' : session.roomId ≠ r := by
            intro hr'
            have hs' : (s.world.instances m).sessions u = some session := hs
            exact hempty u (by rw [World.roomOf, hs', ← hr']; rfl)
          exact (Function.update_of_ne hr' _ _).trans hroom'
        · rw [Scene.after_world, hinst]
          exact h.transports
        · rw [Scene.after_world, hinst]
          rcases hhold.of_after with hold | ⟨-, -, hobtains⟩
          · have hr' : r' ≠ r := by
              rintro rfl
              exact hnobody t' room' ht hold
            exact (Function.update_of_ne hr' _ _).trans (h.holding t' r' room' ht hold)
          · exact absurd hobtains (by rintro ⟨⟩)
  · exact h.after_elsewhere (World.setInstance_of_ne _ _ hm) rfl (fun _ => (by rintro ⟨⟩))
      fun _ _ _ _ => (by rintro ⟨⟩)

/-- A join enters the room it holds. -/
theorem Housed.after_enterRoom (h : Housed requests m s) {u : UserId} {r : RoomId}
    {socket : Socket} {room : LocalRoom} {name image : Option Text}
    (hhold : Holding requests s t r room) :
    Housed requests m (s.after exec t
      (.enterRoom (requests t).instanceId u r socket room.router name image)) := by
  by_cases hm : m = (requests t).instanceId
  · subst hm
    have hroom := h.holding t r room rfl hhold
    have hinst : (exec (.enterRoom (requests t).instanceId u r socket room.router name image)
        s.world).2.instances (requests t).instanceId =
          ((s.world.instances (requests t).instanceId).enterRoom u r socket room.router name
            image).2 := World.setInstance_self ..
    have hmade : ∀ t' k, Making (s.after exec t
        (.enterRoom (requests t).instanceId u r socket room.router name image)) t'
          (requests t).instanceId k → Making s t' (requests t).instanceId k := fun t' k hmake =>
      hmake.of_after.resolve_right fun hnew => absurd hnew.2 (by rintro ⟨⟩)
    refine ⟨?_, fun k hk => ?_, ?_, fun t' k hmake => ?_, fun t' t'' k hmake hmake' => ?_,
      fun t' k k' hmake hmake' => ?_, fun v session hs => ?_, fun session transport ht => ?_,
      fun t' r' room' ht hhold' => ?_⟩
    · rw [Scene.after_world, hinst]
      exact h.unique
    · rw [Scene.after_world, hinst] at hk ⊢
      exact (h.placed k hk).imp_right fun ⟨t', hmake⟩ => ⟨t', hmake.after (.inl rfl)⟩
    · rw [Scene.after_world, hinst]
      exact h.registered
    · rw [Scene.after_world, hinst]
      exact h.making t' k (hmade t' k hmake)
    · exact h.maker t' t'' k (hmade t' k hmake) (hmade t'' k hmake')
    · exact h.single t' k k' (hmade t' k hmake) (hmade t' k' hmake')
    · rw [Scene.after_world, hinst] at hs ⊢
      rw [Option.mem_def, Instance.enterRoom_sessions] at hs
      by_cases hv : v = u
      · subst hv
        rw [Function.update_self] at hs
        rw [← Option.some.inj hs]
        exact ⟨room, hroom, rfl⟩
      · rw [Function.update_of_ne hv] at hs
        exact h.session v session hs
    · rw [Scene.after_world, hinst] at ht
      let new := ((s.world.instances (requests t).instanceId).enterRoom u r socket room.router name
        image).1
      have ht' : transport ∈ Function.update
          (s.world.instances (requests t).instanceId).transports new [] session := ht
      by_cases hnew : session = new
      · rw [hnew, Function.update_self] at ht'
        exact absurd ht' List.not_mem_nil
      · rw [Function.update_of_ne hnew] at ht'
        exact h.transports session transport ht'
    · rw [Scene.after_world, hinst]
      have hold := hhold'.of_after.resolve_right fun hnew => absurd hnew.2.2 (by rintro ⟨⟩)
      exact h.holding t' r' room' ht hold
  · exact h.after_elsewhere (World.setInstance_of_ne _ _ hm) rfl (fun _ => (by rintro ⟨⟩))
      fun _ _ _ _ => (by rintro ⟨⟩)

theorem Housed.after_endSession (h : Housed requests m s) {i : InstanceId} {u : UserId}
    {found : PeerSession} : Housed requests m (s.after exec t (.endSession i u found)) := by
  by_cases hm : m = i
  · subst hm
    have hinst : (exec (.endSession m u found) s.world).2.instances m =
        (s.world.instances m).endSession u found := World.setInstance_self ..
    refine h.after_of_le ?_ ?_ (fun v session hs => ?_) (fun session transport ht => ?_) rfl
      (fun _ => (by rintro ⟨⟩)) fun _ _ _ _ => (by rintro ⟨⟩)
    · rw [hinst]
      rfl
    · rw [hinst]
      rfl
    · rw [hinst, Instance.endSession_sessions] at hs
      by_cases hv : v = u
      · subst hv
        rw [Function.update_self] at hs
        exact absurd hs (by rintro ⟨⟩)
      · rwa [Function.update_of_ne hv] at hs
    · rw [hinst] at ht
      have ht' : transport ∈ Function.update (s.world.instances m).transports found [] session := ht
      by_cases hf : session = found
      · subst hf
        rw [Function.update_self] at ht'
        exact absurd ht' List.not_mem_nil
      · rw [Function.update_of_ne hf] at ht'
        exact h.transports session transport ht'
  · exact h.after_elsewhere (World.setInstance_of_ne _ _ hm) rfl (fun _ => (by rintro ⟨⟩))
      fun _ _ _ _ => (by rintro ⟨⟩)

/-- A transport of the session's router is added to the session. -/
theorem Housed.after_addTransport (h : Housed requests m s) {i : InstanceId}
    {session : PeerSession} {transport : Transport} (hrouter : transport.router = session.router) :
    Housed requests m (s.after exec t (.addTransport i session transport)) := by
  by_cases hm : m = i
  · subst hm
    have hinst : (exec (.addTransport m session transport) s.world).2.instances m =
        (s.world.instances m).addTransport session transport := World.setInstance_self ..
    refine h.after_of_le ?_ ?_ (fun v other hs => ?_) (fun other added ht => ?_) rfl
      (fun _ => (by rintro ⟨⟩)) fun _ _ _ _ => (by rintro ⟨⟩)
    · rw [hinst]
      rfl
    · rw [hinst]
      rfl
    · rwa [hinst] at hs
    · rw [hinst] at ht
      have ht' : added ∈ Function.update (s.world.instances m).transports session
          ((s.world.instances m).transports session ++ [transport]) other := ht
      by_cases hf : other = session
      · subst hf
        rw [Function.update_self, List.mem_append, List.mem_singleton] at ht'
        rcases ht' with ht' | rfl
        · exact h.transports other added ht'
        · exact hrouter
      · rw [Function.update_of_ne hf] at ht'
        exact h.transports other added ht'
  · exact h.after_elsewhere (World.setInstance_of_ne _ _ hm) rfl (fun _ => (by rintro ⟨⟩))
      fun _ _ _ _ => (by rintro ⟨⟩)

/-- What an instance does to its transports and producers alone. -/
theorem Housed.after_within (h : Housed requests m s) {i : InstanceId} {inst : Instance}
    (hworld : (exec c s.world).2 = s.world.setInstance i inst)
    (hsame : inst.routers = (s.world.instances i).routers ∧
      inst.localRooms = (s.world.instances i).localRooms ∧
      inst.sessions = (s.world.instances i).sessions ∧
      inst.transports = (s.world.instances i).transports)
    (hregisters : c.registers m = false)
    (hmaking : ∀ k, ¬ makes m k (⟨t, c, (exec c s.world).1⟩ : Event ι Cmd Cmd.Reply))
    (hholding : ∀ r room, ¬ obtains (requests t).instanceId r room
      (⟨t, c, (exec c s.world).1⟩ : Event ι Cmd Cmd.Reply)) :
    Housed requests m (s.after exec t c) := by
  have hhold : ∀ r room, (requests t).instanceId = m → (requests t).op.joinsRoom = some r →
      obtains (requests t).instanceId r room
        (⟨t, c, (exec c s.world).1⟩ : Event ι Cmd Cmd.Reply) →
      (s.world.instances m).localRooms r = some room := fun r room _ _ hobtains =>
    absurd hobtains (hholding r room)
  by_cases hm : m = i
  · subst hm
    obtain ⟨hrouters, hrooms, hsessions, htransports⟩ := hsame
    refine h.after_of_le ?_ ?_ ?_ ?_ hregisters hmaking hhold
    · rw [hworld, World.setInstance_self, hrouters]
    · rw [hworld, World.setInstance_self, hrooms]
    · rw [hworld, World.setInstance_self, hsessions]
      exact fun _ _ hs => hs
    · rw [hworld, World.setInstance_self, htransports]
      exact h.transports
  · refine h.after_elsewhere ?_ hregisters hmaking hhold
    rw [hworld, World.setInstance_of_ne _ _ hm]

/-- The commands that need no knowledge of what their caller has done before. -/
def Cmd.Plain : Cmd → Prop
  | .createRouter .. | .setLocalRoom .. | .enterRoom .. | .addTransport .. => False
  | _ => True

theorem Housed.after_plain (h : Housed requests m s) (hc : c.Plain)
    (ha : RoomSettled requests t c s) : Housed requests m (s.after exec t c) := by
  cases c with
  | createRouter | setLocalRoom | enterRoom | addTransport => exact hc.elim
  | getRoomOwner r site => exact h.after_getRoomOwner ha
  | teardownLocalRoom i r => exact h.after_teardownLocalRoom ha
  | endSession i u found => exact h.after_endSession
  | setRoomOwnerNX r i =>
      refine h.after_elsewhere ?_ rfl (fun _ => (by rintro ⟨⟩)) fun _ _ _ _ => (by rintro ⟨⟩)
      rw [exec]
      split <;> rfl
  | createWebRtcTransport i router =>
      refine h.after_within rfl ?_ rfl (fun _ => (by rintro ⟨⟩)) fun _ _ => (by rintro ⟨⟩)
      unfold Instance.createWebRtcTransport
      split <;> exact ⟨rfl, rfl, rfl, rfl⟩
  | produce i transport kind =>
      refine h.after_within rfl ?_ rfl (fun _ => (by rintro ⟨⟩)) fun _ _ => (by rintro ⟨⟩)
      unfold Instance.produce
      split <;> exact ⟨rfl, rfl, rfl, rfl⟩
  | addProducer i session producer =>
      exact h.after_within rfl ⟨rfl, rfl, rfl, rfl⟩ rfl (fun _ => (by rintro ⟨⟩))
        fun _ _ => (by rintro ⟨⟩)
  | _ => exact h.after_elsewhere rfl rfl (fun _ => (by rintro ⟨⟩)) fun _ _ _ _ => (by rintro ⟨⟩)

end Step

/-! ### The handlers -/

section Keeps

variable {requests : ι → Request} {s s' : Scene ι Cmd Cmd.Reply World} {t : ι} {m : InstanceId}
  {r : RoomId}

def housing (requests : ι → Request) : Outline ι exec where
  key := Cmd.Marks
  inv s := ∀ m, Housed requests m s
  allowed := RoomSettled requests

theorem quiet_housing (t : ι) : (housing requests).Quiet t Cmd.Plain where
  not_key c hc := by
    cases c with
    | createRouter | setLocalRoom | enterRoom => exact hc.elim
    | _ => exact id
  inv_after c hc s h ha m := (h m).after_plain hc ha

/-- The marks the caller has made so far all satisfy `P`. -/
def MarksOnly (P : Cmd → Prop) (t : ι) (s : Scene ι Cmd Cmd.Reply World) : Prop :=
  ∀ e ∈ s.trace, e.tid = t → e.cmd.Marks → P e.cmd

theorem MarksOnly.later {P : Cmd → Prop} (h : MarksOnly P t s) (hs : Scene.Since Cmd.Marks t s s') :
    MarksOnly P t s' :=
  fun e he htid hmarks => h e (hs.mem_of_key he htid hmarks) htid hmarks

theorem MarksOnly.after {P Q : Cmd → Prop} {c : Cmd} (h : MarksOnly P t s) (hPQ : ∀ c, P c → Q c)
    (hc : Q c) : MarksOnly Q t (s.after exec t c) := by
  intro e he htid hmarks
  rcases List.mem_cons.mp he with rfl | he
  · exact hc
  · exact hPQ _ (h e he htid hmarks)

/-- What the registry leaves its caller with: a local room it may enter, or a
refusal without having marked anything. -/
def Served (requests : ι → Request) (t : ι) (r : RoomId) (result : LocalRoomResult)
    (s : Scene ι Cmd Cmd.Reply World) : Prop :=
  match result with
  | .ok room => (∃ e ∈ s.trace, e.tid = t ∧ obtains (requests t).instanceId r room e) ∧
      MarksOnly (fun c => c.enters = false) t s
  | .wrongInstance _ => MarksOnly (fun _ => False) t s

theorem houses_createLocalRoom (h : MarksOnly (fun _ => False) t s) :
    (housing requests).Keeps t (createLocalRoom (requests t).instanceId r)
      (Served requests t r) s := by
  rw [createLocalRoom, perform_bind, Outline.keeps_call]
  intro s₁ hs₁ hI₁ ha₁
  have hfirst := h.later hs₁
  refine ⟨fun m => (hI₁ m).after_createRouter ha₁ hfirst, ?_⟩
  -- the one mark so far is the creation
  have hmade : MarksOnly (fun c => c.registers (requests t).instanceId = false ∧ c.enters = false)
      t (s₁.after exec t (.createRouter (requests t).instanceId r)) :=
    hfirst.after (fun _ => False.elim) ⟨rfl, rfl⟩
  rw [perform_bind]
  refine (quiet_housing t).keeps_call trivial fun s₂ hs₂ _ hs₂' _ => ?_
  rw [perform_bind, Outline.keeps_call]
  intro s₃ hs₃ hI₃ _
  have hsince := (hs₂.trans hs₂').trans hs₃
  have hmaking : Making s₃ t (requests t).instanceId
      (exec (.createRouter (requests t).instanceId r) s₁.world).1 := by
    refine ⟨⟨_, hsince.mem List.mem_cons_self, rfl, decide_eq_true ⟨rfl, rfl⟩⟩, ?_⟩
    intro e he htid
    by_cases hmarks : e.cmd.Marks
    · exact (hmade.later hsince e he htid hmarks).1
    · exact registers_of_not_marks hmarks
  refine ⟨fun m => (hI₃ m).after_setLocalRoom hmaking rfl, ?_⟩
  have hset : MarksOnly (fun c => c.enters = false) t (s₃.after exec t
      (.setLocalRoom (requests t).instanceId
        ⟨r, (exec (.createRouter (requests t).instanceId r) s₁.world).1⟩)) :=
    (hmade.later hsince).after (fun _ hc => hc.2) rfl
  refine (quiet_housing t).keeps_call trivial fun s₄ hs₄ _ hs₄' _ => ?_
  refine (quiet_housing t).keeps_call trivial fun s₅ hs₅ _ hs₅' _ => ?_
  refine (quiet_housing t).keeps_call trivial fun s₆ hs₆ _ hs₆' _ => ?_
  refine (quiet_housing t).keeps_call trivial fun s₇ hs₇ _ hs₇' _ => fun s₈ hs₈ _ => ?_
  have hrest := ((((hs₄.trans hs₄').trans (hs₅.trans hs₅')).trans (hs₆.trans hs₆')).trans
    (hs₇.trans hs₇')).trans hs₈
  exact ⟨⟨_, hrest.mem List.mem_cons_self, rfl, decide_eq_true ⟨rfl, rfl, rfl⟩⟩, hset.later hrest⟩

theorem houses_claimLocalRoom (h : MarksOnly (fun _ => False) t s) :
    (housing requests).Keeps t (claimLocalRoom (requests t).instanceId r)
      (Served requests t r) s := by
  rw [claimLocalRoom, perform_bind]
  refine (quiet_housing t).keeps_call trivial fun s₁ hs₁ _ hs₁' _ => ?_
  have h₁ := h.later (hs₁.trans hs₁')
  cases (exec (.setRoomOwnerNX r (requests t).instanceId) s₁.world).1 with
  | true => exact houses_createLocalRoom h₁
  | false =>
      rw [if_neg (by simp), perform_bind]
      refine (quiet_housing t).keeps_call trivial fun s₂ hs₂ _ hs₂' _ => ?_
      have h₂ := h₁.later (hs₂.trans hs₂')
      cases (exec (.getRoomOwner r .lostClaim) s₂.world).1 with
      | none => exact houses_createLocalRoom h₂
      | some owner =>
          show Outline.Keeps _ _ (if owner ≠ _ then _ else _) _ _
          split
          · exact fun s₃ hs₃ _ => h₂.later hs₃
          · exact houses_createLocalRoom h₂

theorem houses_acquireLocalRoom (h : MarksOnly (fun _ => False) t s) :
    (housing requests).Keeps t (acquireLocalRoom (requests t).instanceId r)
      (Served requests t r) s := by
  rw [acquireLocalRoom, perform_bind]
  refine (quiet_housing t).keeps_call trivial fun s₁ hs₁ _ hs₁' _ => ?_
  have h₁ := h.later (hs₁.trans hs₁')
  cases (exec (.getRoomOwner r .unclaimed) s₁.world).1 with
  | none => exact houses_claimLocalRoom h₁
  | some owner =>
      show Outline.Keeps _ _ (if owner ≠ _ then _ else _) _ _
      split
      · refine (quiet_housing t).keeps_call trivial fun s₂ hs₂ _ hs₂' _ => ?_
        have h₂ := h₁.later (hs₂.trans hs₂')
        show Outline.Keeps _ _ (if _ = 0 then _ else _) _ _
        split
        · exact (quiet_housing t).keeps_call trivial fun s₃ hs₃ _ hs₃' _ =>
            houses_claimLocalRoom (h₂.later (hs₃.trans hs₃'))
        · exact fun s₃ hs₃ _ => h₂.later hs₃
      · exact houses_createLocalRoom h₁

theorem houses_getOrCreateLocalRoom (h : MarksOnly (fun _ => False) t s) :
    (housing requests).Keeps t (getOrCreateLocalRoom (requests t).instanceId r)
      (Served requests t r) s := by
  rw [getOrCreateLocalRoom, perform_bind]
  refine (quiet_housing t).keeps_call trivial fun s₁ hs₁ _ hs₁' _ => ?_
  have h₁ := h.later (hs₁.trans hs₁')
  cases (exec (.getLocalRoom (requests t).instanceId r) s₁.world).1 with
  | none => exact houses_acquireLocalRoom h₁
  | some cached =>
      refine (quiet_housing t).keeps_call (c := .getRoomOwner r (.cached cached)) trivial
        fun s₂ hs₂ _ hs₂' _ => ?_
      have h₂ := h₁.later (hs₂.trans hs₂')
      show Outline.Keeps _ _ (if _ = some _ then _ else _) _ _
      split
      · rename_i hmine
        refine fun s₃ hs₃ _ => ⟨⟨_, hs₃.mem List.mem_cons_self, rfl, ?_⟩, ?_⟩
        · exact decide_eq_true ⟨rfl, rfl, hmine⟩
        · exact fun e he htid hmarks => (h₂.later hs₃ e he htid hmarks).elim
      · refine (quiet_housing t).keeps_call trivial fun s₃ hs₃ _ hs₃' _ => ?_
        exact houses_acquireLocalRoom (h₂.later (hs₃.trans hs₃'))

theorem houses_roomForJoin (u : UserId) (hs : ∀ m, Housed requests m s)
    (h : MarksOnly (fun _ => False) t s) :
    (housing requests).Keeps t (roomForJoin (requests t).instanceId u r)
      (Served requests t r) s := by
  refine Outline.Keeps.bind ((houses_getOrCreateLocalRoom h).imp
    fun result s₁ _ hserved => ?_) hs
  cases result with
  | ok room =>
      refine fun s₂ hs₂ _ => ⟨?_, hserved.2.later hs₂⟩
      obtain ⟨e, he, htid, hobtains⟩ := hserved.1
      exact ⟨e, hs₂.mem he, htid, hobtains⟩
  | wrongInstance owner =>
      refine (quiet_housing t).keeps_call (c := .smembersRoomPeers r) trivial
        fun s₂ hs₂ _ hs₂' _ => ?_
      have hnone : MarksOnly (fun _ => False) t s₁ := hserved
      have h₂ := hnone.later (hs₂.trans hs₂')
      show Outline.Keeps _ _ (if _ then _ else _) _ _
      split
      · exact (quiet_housing t).keeps_call trivial fun s₃ hs₃ _ hs₃' _ =>
          houses_getOrCreateLocalRoom (h₂.later (hs₃.trans hs₃'))
      · exact fun s₃ hs₃ _ => h₂.later hs₃

/-- A join that has been served enters the room it holds. -/
theorem houses_enterLocalRoom {u : UserId} {socket : Socket} {name image : Option Text}
    {room : LocalRoom} (hjoins : (requests t).op.joinsRoom = some r)
    (hserved : Served requests t r (.ok room) s) :
    (housing requests).Keeps t
      (enterLocalRoom (requests t).instanceId u r socket name image room) (fun _ _ => True) s := by
  have hsave : (savePeer u r (requests t).instanceId socket.id).Uses Cmd.Plain :=
    ⟨trivial, fun _ => ⟨trivial, fun _ => ⟨trivial, fun _ => ⟨trivial, fun _ => ⟨trivial, fun _ =>
      ⟨trivial, fun _ => trivial⟩⟩⟩⟩⟩⟩
  obtain ⟨⟨e, he, htid, hobtains⟩, hmarks⟩ := hserved
  rw [enterLocalRoom, perform_bind]
  refine (quiet_housing t).keeps_call trivial fun s₁ hs₁ _ hs₁' hI₁ => ?_
  refine (quiet_housing t).keeps_bind hsave hI₁ fun _ s₂ hs₂ hI₂ => ?_
  rw [perform_bind, Outline.keeps_call]
  intro s₃ hs₃ hI₃ _
  have hsince := ((hs₁.trans hs₁').trans hs₂).trans hs₃
  have hhold : Holding requests s₃ t r room := by
    refine ⟨hjoins, ⟨e, hsince.mem he, htid, hobtains⟩, fun e' he' htid' => ?_⟩
    by_cases hmark : e'.cmd.Marks
    · exact hmarks.later hsince e' he' htid' hmark
    · exact enters_of_not_marks hmark
  refine ⟨fun m => (hI₃ m).after_enterRoom hhold, ?_⟩
  exact (quiet_housing t).keeps ⟨trivial, fun _ => trivial⟩ fun _ _ _ _ => trivial

/-- A transport comes from the room of its session. -/
theorem houses_createWebRtcTransport (u : UserId) :
    (housing requests).Keeps t (createWebRtcTransport (requests t).instanceId u)
      (fun _ _ => True) s := by
  rw [createWebRtcTransport, perform_bind]
  refine (quiet_housing t).keeps_call trivial fun s₁ _ hI₁ _ _ => ?_
  cases hs : (s₁.world.instances (requests t).instanceId).sessions u with
  | none =>
      rw [exec, Instance.findRoomOf, hs]
      exact fun _ _ _ => trivial
  | some session =>
      obtain ⟨room, hroom, hrouter⟩ := (hI₁ (requests t).instanceId).session u session hs
      rw [exec, Instance.findRoomOf, hs, Option.map_some, Option.mem_def.mp hroom]
      refine (quiet_housing t).keeps_call (c := .createWebRtcTransport _ room.router) trivial
        fun s₂ _ _ _ _ => ?_
      cases hmade : (exec (.createWebRtcTransport (requests t).instanceId room.router)
          s₂.world).1 with
      | none => exact fun _ _ _ => trivial
      | some transport =>
          have hsame : transport.router = session.router :=
            (Instance.router_of_createWebRtcTransport _ hmade).trans hrouter
          show Outline.Keeps _ _ (.call (Cmd.addTransport _ session transport) _) _ _
          rw [Outline.keeps_call]
          intro s₃ _ hI₃ _
          exact ⟨fun m => (hI₃ m).after_addTransport hsame, fun _ _ _ => trivial⟩

theorem DisconnectCmd.plain {i : InstanceId} {u : UserId} {c : Cmd} (hc : DisconnectCmd i u c) :
    c.Plain := by
  cases c with
  | createRouter | setLocalRoom | enterRoom | addTransport => exact hc.elim
  | _ => trivial

theorem plain_removeSession {u : UserId} {opts : RemoveSessionOptions} :
    (removeSession m u opts).Uses Cmd.Plain :=
  (uses_removeSession opts).mono fun _ hc => hc.plain

theorem plain_removeSessions (us : List UserId) : (removeSessions m us).Uses Cmd.Plain := by
  induction us with
  | nil => trivial
  | cons u rest ih => exact plain_removeSession.bind fun _ => ih

theorem plain_kickPeer {u : UserId} : (kickPeer m r u).Uses Cmd.Plain := by
  refine ⟨trivial, fun found => ?_⟩
  rcases found with _ | ⟨session, producers⟩
  · trivial
  · show Prog.Uses _ (if session.roomId ≠ r then _ else _)
    split
    · trivial
    · refine ⟨trivial, fun _ => ?_⟩
      exact ((uses_removeFound _ _).mono fun _ hc => hc.plain).bind fun _ =>
        ⟨trivial, fun _ => trivial⟩

theorem plain_forceTeardownMediasoupRoom : (forceTeardownMediasoupRoom m r).Uses Cmd.Plain := by
  refine ⟨trivial, fun us => (plain_removeSessions us).bind fun _ => Uses.bind ?_ fun _ => ?_⟩
  · refine ⟨trivial, fun owner => (uses_runIf ?_).bind fun _ => ?_⟩
    · exact ⟨trivial, fun _ => trivial⟩
    · exact ⟨trivial, fun _ => trivial⟩
  · exact ⟨trivial, fun _ => trivial⟩

theorem plain_produce {u : UserId} {id : ℕ} {kind : MediaKind} :
    (produce m u id kind).Uses Cmd.Plain := by
  refine ⟨trivial, fun found => ?_⟩
  rcases found with _ | ⟨session, _ | transport⟩
  · trivial
  · trivial
  · refine ⟨trivial, fun producer => ?_⟩
    cases producer with
    | none => trivial
    | some producer => exact ⟨trivial, fun _ => ⟨trivial, fun _ => ⟨trivial, fun _ => trivial⟩⟩⟩

/-- Every request is safe to serve. -/
theorem houses_handle (hs : ∀ m, Housed requests m s) (h : MarksOnly (fun _ => False) t s) :
    (housing requests).Keeps t (requests t).handle (fun _ _ => True) s := by
  have hquiet : ∀ {α : Type} {p : M α}, p.Uses Cmd.Plain →
      (housing requests).Keeps t p (fun _ _ => True) s := fun hp =>
    (quiet_housing t).keeps hp fun _ _ _ _ => trivial
  unfold Request.handle
  cases hop : (requests t).op with
  | join socket name image =>
      obtain ⟨id, _ | u, _ | r⟩ := socket
      · exact hquiet trivial
      · exact hquiet trivial
      · exact hquiet trivial
      · refine Outline.Keeps.map ?_
        show (housing requests).Keeps t (joinRoom _ u r _ name image) _ s
        refine (quiet_housing t).keeps_bind plain_removeSession hs fun _ s₁ hs₁ hI₁ => ?_
        refine Outline.Keeps.bind ((houses_roomForJoin u hI₁ (h.later hs₁)).imp
          fun result s₂ _ hserved => ?_) hI₁
        cases result with
        | wrongInstance owner => exact fun _ _ _ => trivial
        | ok room => exact houses_enterLocalRoom (by rw [hop]; rfl) hserved
  | leave u => exact hquiet (plain_removeSession.map _)
  | kickPeer r u => exact hquiet (plain_kickPeer.map _)
  | onSocketDisconnect socket =>
      obtain ⟨id, _ | u, r⟩ := socket
      · exact hquiet trivial
      · exact hquiet (plain_removeSession.map _)
  | forceTeardownMediasoupRoom r => exact hquiet (plain_forceTeardownMediasoupRoom.map _)
  | getOrCreateLocalRoom r =>
      exact Outline.Keeps.map ((houses_getOrCreateLocalRoom h).imp fun _ _ _ _ => trivial)
  | createWebRtcTransport u => exact Outline.Keeps.map (houses_createWebRtcTransport u)
  | produce u id kind => exact hquiet (plain_produce.map _)

end Keeps

/-! ### Runs -/

variable [DecidableEq ι]

/-- **One router.** On freshly started instances, over any contents of Redis, in
every run in which the stretches of one room do not overlap, every instance has
at most one open router for a room, and every session lives on the registered
one. -/
theorem oneRouter_of_roomSettled (requests : ι → Request) (redis : Redis) (sched : List ι)
    (hsettled : (serving requests { redis }).Meets exec (RoomSettled requests) sched)
    (m : InstanceId) :
    OneRouter m ((serving requests { redis }).runs exec sched).scene.world := by
  have hnobody : ∀ m t k, ¬ Making (serving requests { redis }).scene t m k := by
    rintro m t k ⟨⟨e, he, -⟩, -⟩
    exact absurd he List.not_mem_nil
  have hstart : ∀ m, Housed requests m (serving requests { redis }).scene := by
    refine fun m => ⟨fun k hk => absurd hk List.not_mem_nil, fun k hk => absurd hk List.not_mem_nil,
      fun _ => (by rintro _ ⟨⟩), fun t k hmake => absurd hmake (hnobody m t k),
      fun t _ k hmake => absurd hmake (hnobody m t k),
      fun t k _ hmake => absurd hmake (hnobody m t k),
      fun _ => (by rintro _ ⟨⟩), fun session k hk => absurd hk List.not_mem_nil, ?_⟩
    rintro t r room - ⟨-, ⟨e, he, -⟩, -⟩
    exact absurd he List.not_mem_nil
  have hsafe : ∀ t, (housing requests).Keeps t ((serving requests { redis }).threads t)
      (fun _ _ => True) (serving requests { redis }).scene := fun t =>
    houses_handle hstart fun e he _ => absurd he List.not_mem_nil
  exact ((Outline.keeps_runs hstart hsafe hsettled).1 m).oneRouter

/-! ### Two joins of a new room -/

namespace Sample

/-- Ann and Ben join the room on one instance. -/
def matched : Fin 2 → Request
  | 0 => ⟨rtc1, .join annSocket none none⟩
  | 1 => ⟨rtc1, .join benSocket none none⟩

theorem matched_instanceId (t : Fin 2) : (matched t).instanceId = rtc1 := by
  revert t
  decide

def creates : Cmd → Bool
  | .createRouter .. => true
  | _ => false

/-- A test for `RoomSettled` in runs that create one router and tear nothing down. -/
def settles (c : Cmd) (s : Scene (Fin 2) Cmd Cmd.Reply World) : Bool :=
  match c with
  | .createRouter m r => ((s.world.instances m).localRooms r).isNone &&
      s.trace.all fun e => !creates e.cmd
  | .getRoomOwner r (.cached room) => (s.world.instances rtc1).localRooms r = some room
  | .teardownLocalRoom .. => false
  | _ => true

theorem roomSettled_of_settles {conf : Conf (Fin 2) Cmd Cmd.Reply Outcome World}
    {sched : List (Fin 2)} (h : conf.Meets exec (fun _ c s => settles c s) sched) :
    conf.Meets exec (RoomSettled matched) sched := by
  refine h.mono exec fun t c s hc => ?_
  cases c with
  | createRouter m r =>
      obtain ⟨hnone, hall⟩ := Bool.and_eq_true_iff.mp hc
      refine ⟨Option.isNone_iff_eq_none.mp hnone, fun t' k _ hmake => ?_⟩
      obtain ⟨⟨e, he, -, hmakes⟩, -⟩ := hmake
      have hcmd := List.all_eq_true.mp hall e he
      rcases e with ⟨t, c, reply⟩
      cases c with
      | createRouter => exact absurd hcmd (by rintro ⟨⟩)
      | _ => exact absurd hmakes (by rintro ⟨⟩)
  | getRoomOwner r site =>
      cases site with
      | cached room =>
          intro _ _
          rw [matched_instanceId]
          exact of_decide_eq_true hc
      | unclaimed | lostClaim | release => trivial
  | teardownLocalRoom => exact absurd hc (by rintro ⟨⟩)
  | _ => trivial

/-- Ben finds the room that Ann has made. -/
theorem oneRouter_when_cached :
    OneRouter rtc1 ((serving matched {}).runs exec
      (List.replicate 20 0 ++ List.replicate 12 1)).scene.world :=
  oneRouter_of_roomSettled matched {} _ (roomSettled_of_settles (by decide +kernel)) rtc1

/-- Ben looks for the room while Ann is still making it. -/
theorem twoRouters : ¬ OneRouter rtc1 ((serving matched {}).runs exec
    (List.replicate 5 0 ++ List.replicate 4 1)).scene.world := by
  intro h
  have hunique := h.unique ⟨0, lobby⟩ (by decide +kernel) ⟨1, lobby⟩ (by decide +kernel) rfl
  exact absurd hunique (by decide)

end Sample

end Greetup.Rtc
