import Greetup.Presence.Listener
import Greetup.Interleaving.Accounts

/-!
What the handler of an event has been told when it acts, and what the traces of
the handlers say of the sockets.
-/

namespace Greetup.Presence

open Interleaving Prog
open Matching (Host UserId)

abbrev PresenceTold : Type := Told Cmd Cmd.Reply

abbrev PresenceScene (ι : Type) : Type := Scene ι Cmd Cmd.Reply World

abbrev PresenceConf (ι : Type) : Type := Conf ι Cmd Cmd.Reply Unit World

/-- Anybody may issue these at any time. -/
def Cmd.Free : Cmd → Prop
  | .connection _ | .disconnect _ | .setOnline _ _ _ _ | .removeIpIfSocketMatches _ _ _
  | .hlen _ | .setOffline _ _ | .cancelGracePeriod _ => False
  | _ => True

section Licences

variable [Host]

/-- The order of a handler. -/
inductive Due (told : List PresenceTold) : Happening → Cmd → Prop
  | connection (socket : Socket) : Due told (.connected socket) (.connection socket)
  | setOnline {socket : Socket} {t : ℕ} (h : ⟨.connection socket, t⟩ ∈ told) :
      Due told (.connected socket)
        (.setOnline socket.userId socket.ipField socket.socketId t)
  | cancelGracePeriod {socket : Socket} {t : ℕ} (h : ⟨.connection socket, t⟩ ∈ told) :
      Due told (.connected socket) (.cancelGracePeriod socket.userId)
  | disconnect (socket : Socket) : Due told (.disconnected socket) (.disconnect socket)
  | remove {socket : Socket} {t : ℕ} (h : ⟨.disconnect socket, t⟩ ∈ told) :
      Due told (.disconnected socket)
        (.removeIpIfSocketMatches socket.userId socket.ipField socket.socketId)
  | hlen {socket : Socket} {removed : Bool}
      (h : ⟨.removeIpIfSocketMatches socket.userId socket.ipField socket.socketId, removed⟩ ∈
        told) : Due told (.disconnected socket) (.hlen socket.userId)
  | setOffline {socket : Socket} {t : ℕ} (h : ⟨.hlen socket.userId, (0 : ℕ)⟩ ∈ told) :
      Due told (.disconnected socket) (.setOffline socket.userId t)
  | free {happening : Happening} {c : Cmd} (h : c.Free) : Due told happening c

/-- A handler that has returned has recorded that its socket has come, or that
it has gone. -/
def Settled (told : List PresenceTold) : Happening → Prop
  | .connected socket =>
      ∃ t, ⟨.setOnline socket.userId socket.ipField socket.socketId t, ()⟩ ∈ told
  | .disconnected socket =>
      (∃ removed : Bool,
        ⟨.removeIpIfSocketMatches socket.userId socket.ipField socket.socketId, removed⟩ ∈ told) ∧
      ((∃ n : ℕ, 0 < n ∧ ⟨.hlen socket.userId, n⟩ ∈ told) ∨
        ∃ t, ⟨.setOffline socket.userId t, ()⟩ ∈ told)
  | _ => True

variable {told told' : List PresenceTold} {happening : Happening} {c : Cmd} {userId : UserId}

theorem Due.mono (hsub : told ⊆ told') (h : Due told happening c) : Due told' happening c := by
  cases h with
  | connection => exact .connection _
  | setOnline h => exact .setOnline (hsub h)
  | cancelGracePeriod h => exact .cancelGracePeriod (hsub h)
  | disconnect => exact .disconnect _
  | remove h => exact .remove (hsub h)
  | hlen h => exact .hlen (hsub h)
  | setOffline h => exact .setOffline (hsub h)
  | free h => exact .free h

theorem Due.of_connection {socket : Socket} (h : Due told happening (.connection socket)) :
    happening = .connected socket := by
  cases h with
  | connection => rfl
  | free h => exact h.elim

theorem Due.of_disconnect {socket : Socket} (h : Due told happening (.disconnect socket)) :
    happening = .disconnected socket := by
  cases h with
  | disconnect => rfl
  | free h => exact h.elim

theorem Due.of_cancelGracePeriod (h : Due told happening (.cancelGracePeriod userId)) :
    ∃ socket t, happening = .connected socket ∧ ⟨.connection socket, t⟩ ∈ told := by
  cases h with
  | cancelGracePeriod h => exact ⟨_, _, rfl, h⟩
  | free h => exact h.elim

theorem Due.of_hlen (h : Due told happening (.hlen userId)) :
    ∃ socket removed, happening = .disconnected socket ∧ userId = socket.userId ∧
      ⟨.removeIpIfSocketMatches socket.userId socket.ipField socket.socketId, removed⟩ ∈ told := by
  cases h with
  | hlen h => exact ⟨_, _, rfl, rfl, h⟩
  | free h => exact h.elim

theorem Due.of_setOffline {t : ℕ} (h : Due told happening (.setOffline userId t)) :
    ⟨.hlen userId, (0 : ℕ)⟩ ∈ told := by
  cases h with
  | setOffline h => exact h
  | free h => exact h.elim

theorem Due.of_setOnline {ipField : IpField} {socketId : SocketId} {t : ℕ}
    (h : Due told happening (.setOnline userId ipField socketId t)) :
    ∃ socket t, happening = .connected socket ∧ userId = socket.userId ∧
      ipField = socket.ipField ∧ socketId = socket.socketId ∧
        ⟨.connection socket, t⟩ ∈ told := by
  cases h with
  | setOnline h => exact ⟨_, _, rfl, rfl, rfl, rfl, h⟩
  | free h => exact h.elim

theorem Due.of_remove {ipField : IpField} {socketId : SocketId}
    (h : Due told happening (.removeIpIfSocketMatches userId ipField socketId)) :
    ∃ socket t, happening = .disconnected socket ∧ userId = socket.userId ∧
      ipField = socket.ipField ∧ socketId = socket.socketId ∧
        ⟨.disconnect socket, t⟩ ∈ told := by
  cases h with
  | remove h => exact ⟨_, _, rfl, rfl, rfl, rfl, h⟩
  | free h => exact h.elim

theorem licensed_free {α : Type} {p : M α} (hp : p.Uses Cmd.Free) :
    p.Licensed exec (Due · happening) (fun told' _ => told ⊆ told') told :=
  hp.licensed_of_subset (fun _ _ _ hc => .free hc) (List.Subset.refl told)

omit [Host] in
theorem uses_removeUserFromIndex : (removeUserFromIndex userId).Uses Cmd.Free :=
  ⟨trivial, fun _ => ⟨trivial, fun _ => trivial⟩⟩

omit [Host] in
theorem uses_ensureProfileSnapshotCached :
    (ensureProfileSnapshotCached userId).Uses Cmd.Free :=
  uses_expand (f := fun c => issue (.snapshot c)) (fun _ => ⟨trivial, fun _ => trivial⟩) _

omit [Host] in
theorem uses_syncOpenToConnectIndexIfEnabled :
    (syncOpenToConnectIndexIfEnabled userId).Uses Cmd.Free := by
  refine ⟨trivial, fun tags => ?_⟩
  cases tags with
  | none => exact uses_removeUserFromIndex
  | some tags =>
      refine ⟨trivial, fun online => ?_⟩
      cases online with
      | false => exact uses_removeUserFromIndex
      | true => exact ⟨trivial, fun _ => trivial⟩

omit [Host] in
theorem uses_emitMatchStateOnConnect : (emitMatchStateOnConnect userId).Uses Cmd.Free := by
  refine ⟨trivial, fun skip => ?_⟩
  cases skip with
  | true => trivial
  | false => exact ⟨trivial, fun _ => ⟨trivial, fun _ => trivial⟩⟩

omit [Host] in
theorem uses_startGracePeriodIfSearching :
    (startGracePeriodIfSearching userId).Uses Cmd.Free := by
  refine ⟨trivial, fun state => ?_⟩
  show (if state.status = .searching || state.status = .proposed then _ else _ : M Unit).Uses _
  split
  · exact ⟨trivial, fun _ => trivial⟩
  · trivial

omit [Host] in
theorem uses_userHeartbeat : (userHeartbeat userId).Uses Cmd.Free := by
  refine ⟨trivial, fun there => ?_⟩
  cases there with
  | false => trivial
  | true =>
      refine ⟨trivial, fun _ => ⟨trivial, fun indexed => ?_⟩⟩
      cases indexed with
      | false => trivial
      | true => exact ⟨trivial, fun _ => trivial⟩

omit [Host] in
theorem uses_gracePeriodOver (id : ℕ) : (gracePeriodOver id).Uses Cmd.Free := by
  refine ⟨trivial, fun cancelled => ?_⟩
  cases cancelled with
  | none => trivial
  | some userId => exact ⟨trivial, fun _ => trivial⟩

omit [Host] in
theorem uses_retainLiveOnlineUserIds (userIds : List UserId) :
    (retainLiveOnlineUserIds userIds).Uses Cmd.Free := by
  have hforget (stale : List UserId) : (forgetOffline stale).Uses Cmd.Free := by
    rw [forgetOffline]
    split
    · trivial
    · exact ⟨trivial, fun _ => trivial⟩
  exact ⟨trivial, fun rows => (hforget _).bind fun _ => trivial⟩

theorem licensed_userConnected {socket : Socket} {t : ℕ}
    (h : ⟨.connection socket, t⟩ ∈ told) :
    (userConnected socket t).Licensed exec (Due · (.connected socket))
      (fun told' _ => Settled told' (.connected socket)) told := by
  refine ⟨.setOnline h, fun w => ?_⟩
  refine (licensed_free uses_ensureProfileSnapshotCached).bind fun _ _ hsub => ?_
  refine (licensed_free uses_syncOpenToConnectIndexIfEnabled).bind fun _ _ hsub' => ?_
  have hsub := List.Subset.trans hsub hsub'
  refine ⟨.cancelGracePeriod (hsub (List.mem_cons_of_mem _ h)), fun w => ?_⟩
  refine (licensed_free uses_emitMatchStateOnConnect).mono fun _ _ hsub'' => ?_
  exact ⟨t, hsub'' (List.mem_cons_of_mem _ (hsub List.mem_cons_self))⟩

theorem licensed_userDisconnected {socket : Socket} {t : ℕ}
    (h : ⟨.disconnect socket, t⟩ ∈ told) :
    (userDisconnected socket t).Licensed exec (Due · (.disconnected socket))
      (fun told' _ => Settled told' (.disconnected socket)) told := by
  refine ⟨.remove h, fun w => ⟨.hlen List.mem_cons_self, fun w => ?_⟩⟩
  generalize (exec (.hlen socket.userId) w).1 = ipsLeft
  show (afterRemove socket.userId t ipsLeft).Licensed _ _ _ _
  rw [afterRemove]
  split
  · rename_i hleft
    exact ⟨.free trivial, fun w => ⟨⟨_, .tail _ (.tail _ List.mem_cons_self)⟩,
      .inl ⟨ipsLeft, hleft, .tail _ List.mem_cons_self⟩⟩⟩
  · rename_i hleft
    obtain rfl : ipsLeft = 0 := Nat.eq_zero_of_not_pos hleft
    refine ⟨.setOffline List.mem_cons_self, fun w => ?_⟩
    refine (licensed_free (uses_removeUserFromIndex.bind fun _ =>
      uses_startGracePeriodIfSearching)).mono fun _ _ hsub => ?_
    exact ⟨⟨_, hsub (.tail _ (.tail _ List.mem_cons_self))⟩, .inr ⟨t, hsub List.mem_cons_self⟩⟩

theorem licensed_program (happening : Happening) :
    happening.program.Licensed exec (Due · happening)
      (fun told _ => Settled told happening) [] := by
  have hplain {α : Type} {p : M α} (hp : p.Uses Cmd.Free) :
      p.Licensed exec (Due · happening) (fun _ _ => True) [] :=
    (licensed_free hp).mono fun _ _ _ => trivial
  cases happening with
  | connected socket =>
      exact ⟨.connection socket, fun w => licensed_userConnected List.mem_cons_self⟩
  | disconnected socket =>
      exact ⟨.disconnect socket, fun w => licensed_userDisconnected List.mem_cons_self⟩
  | heartbeat userId => exact hplain uses_userHeartbeat
  | retain userIds => exact hplain ((uses_retainLiveOnlineUserIds userIds).map _)
  | elapse ms => exact hplain ⟨trivial, fun _ => trivial⟩
  | timer id => exact hplain (uses_gracePeriodOver id)
  | matching userId state => exact hplain ⟨trivial, fun _ => trivial⟩

end Licences

/-! ### Sockets -/

/-- What is recorded of a socket. -/
structure Mark where
  userId : UserId
  ipField : IpField
  socketId : SocketId
  deriving DecidableEq

def Socket.mark [Host] (socket : Socket) : Mark :=
  ⟨socket.userId, socket.ipField, socket.socketId⟩

def Cmd.marksIn : Cmd → Option Mark
  | .setOnline userId ipField socketId _ => some ⟨userId, ipField, socketId⟩
  | _ => none

def Cmd.marksOut : Cmd → Option Mark
  | .removeIpIfSocketMatches userId ipField socketId => some ⟨userId, ipField, socketId⟩
  | _ => none

section Sockets

variable {ι : Type} [DecidableEq ι] [Host] {happenings : ι → Happening} {s : PresenceScene ι}
  {i : ι} {c : Cmd} {k : Connection} {w : World}

/-- No two sockets have one id. -/
def OwnId (c : Cmd) (w : World) : Prop :=
  match c with
  | .connection socket => ∀ k ∈ w.sockets, k.socket.socketId ≠ socket.socketId
  | _ => True

instance : Decidable (OwnId c w) := by
  cases c with
  | connection socket => exact inferInstanceAs (Decidable (∀ k ∈ w.sockets, _ ≠ _))
  | _ => exact isTrue trivial

/-- The sockets that there are after a command. -/
def World.socketsAfter (w : World) : Cmd → List Connection
  | .connection socket => { socket } :: w.sockets
  | .disconnect socket => (w.leave socket).sockets
  | _ => w.sockets

omit [Host] in
theorem sockets_exec (c : Cmd) (w : World) : (exec c w).2.sockets = w.socketsAfter c := by
  cases c with
  | expirePresence userId =>
      simp only [exec, World.refreshPresence]
      split <;> rfl
  | removeIpIfSocketMatches userId ipField socketId =>
      simp only [exec, World.removeIpIfSocketMatches]
      split <;> rfl
  | smembersIndexed activityId => cases activityId <;> rfl
  | cancelGracePeriod userId =>
      simp only [exec, World.clearGracePeriod]
      split <;> rfl
  | runTimer id =>
      simp only [exec, World.runTimer]
      split
      · rfl
      · split <;> rfl
  | shouldSkipMatchStateRestore userId =>
      simp only [exec, World.shouldSkipMatchStateRestore]
      split
      · rfl
      · split <;> rfl
  | _ => rfl

omit [Host] in
/-- A socket is one that has just come, or one that there was; and if it has
gone since, then just now. -/
theorem mem_sockets_exec (hk : k ∈ (exec c w).2.sockets) :
    c = .connection k.socket ∧ k.disconnectedAt = none ∨
      ∃ k' ∈ w.sockets, k'.socket = k.socket ∧ (k'.disconnectedAt = k.disconnectedAt ∨
        c = .disconnect k.socket ∧ k'.disconnectedAt = none ∧ k.disconnectedAt = some w.now) := by
  rw [sockets_exec] at hk
  cases c with
  | connection socket =>
      rcases List.mem_cons.mp hk with rfl | hk
      · exact .inl ⟨rfl, rfl⟩
      · exact .inr ⟨k, hk, rfl, .inl rfl⟩
  | disconnect socket =>
      obtain ⟨k', hk', rfl⟩ := List.mem_map.mp hk
      refine .inr ⟨k', hk', ?_⟩
      split
      · rename_i hgone
        simp only [Bool.and_eq_true, decide_eq_true_eq, Option.isNone_iff_eq_none] at hgone
        obtain ⟨rfl, hnone⟩ := hgone
        exact ⟨rfl, .inr ⟨rfl, hnone, rfl⟩⟩
      · exact ⟨rfl, .inl rfl⟩
  | _ => exact .inr ⟨k, hk, rfl, .inl rfl⟩

omit [Host] in
theorem sockets_stay (hk : k ∈ w.sockets) (c : Cmd) :
    ∃ k' ∈ (exec c w).2.sockets, k'.socket = k.socket := by
  rw [sockets_exec]
  cases c with
  | connection socket => exact ⟨k, List.mem_cons_of_mem _ hk, rfl⟩
  | disconnect socket =>
      refine ⟨_, List.mem_map.mpr ⟨k, hk, rfl⟩, ?_⟩
      split <;> rfl
  | _ => exact ⟨k, hk, rfl⟩

variable (happenings s) in
/-- The sockets are those whose handlers the trace shows. -/
structure SocketsInv : Prop where
  lawful : s.Lawful fun i told => Due told (happenings i)
  came : ∀ k ∈ s.world.sockets, ∃ i t, ⟨.connection k.socket, t⟩ ∈ s.told i
  gone : ∀ k ∈ s.world.sockets, k.disconnectedAt ≠ none →
    ∃ i t, ⟨.disconnect k.socket, t⟩ ∈ s.told i
  arrived : ∀ i socket t, ⟨.connection socket, t⟩ ∈ s.told i → ∃ k ∈ s.world.sockets,
    k.socket = socket

theorem SocketsInv.after (h : SocketsInv happenings s) (hdue : Due (s.told i) (happenings i) c) :
    SocketsInv happenings (s.after exec i c) where
  lawful := h.lawful.after (fun _ _ _ _ hsub hdue => hdue.mono hsub) hdue
  came k hk := by
    rcases mem_sockets_exec hk with ⟨rfl, -⟩ | ⟨k', hk', heq, -⟩
    · exact ⟨i, _, (Scene.mem_told_after exec).mpr (.inl ⟨rfl, rfl⟩)⟩
    · obtain ⟨j, t, hmem⟩ := h.came k' hk'
      exact ⟨j, t, Scene.told_subset_after exec (heq ▸ hmem)⟩
  gone k hk hne := by
    rcases mem_sockets_exec hk with ⟨-, hnone⟩ | ⟨k', hk', heq, hold | ⟨rfl, -, -⟩⟩
    · exact absurd hnone hne
    · obtain ⟨j, t, hmem⟩ := h.gone k' hk' (hold ▸ hne)
      exact ⟨j, t, Scene.told_subset_after exec (heq ▸ hmem)⟩
    · exact ⟨i, _, (Scene.mem_told_after exec).mpr (.inl ⟨rfl, rfl⟩)⟩
  arrived j socket t hmem := by
    rcases (Scene.mem_told_after exec).mp hmem with ⟨-, heq⟩ | hmem
    · rw [Sigma.mk.injEq] at heq
      obtain ⟨rfl, -⟩ := heq
      rw [Scene.after_world, sockets_exec]
      exact ⟨_, List.mem_cons_self, rfl⟩
    · obtain ⟨k, hk, rfl⟩ := h.arrived j socket t hmem
      exact sockets_stay hk c

/-- There has been nobody yet. -/
structure World.Fresh (w : World) : Prop where
  sockets : w.sockets = []
  presence : ∀ userId, (w.presence userId).fields = ∅
  onlineUsers : w.onlineUsers = []
  timers : w.timers = []

variable (happenings w) in
/-- Everything is to happen. -/
def listeners : PresenceConf ι where
  threads i := (happenings i).program
  scene := ⟨w, []⟩

theorem SocketsInv.start (hfresh : w.Fresh) :
    SocketsInv happenings (listeners happenings w).scene where
  lawful _ e he := by cases he
  came k hk := by
    rw [listeners, hfresh.sockets] at hk
    cases hk
  gone k hk := by
    rw [listeners, hfresh.sockets] at hk
    cases hk
  arrived _ _ _ hmem := by cases hmem

omit [DecidableEq ι] [Host] in
theorem connected_iff {userId : UserId} : w.Connected userId ↔
    ∃ k ∈ w.sockets, k.socket.userId = userId ∧ k.disconnectedAt = none := by
  rw [World.Connected, World.socketsOf, Ne, List.filter_eq_nil_iff]
  simp

end Sockets

end Greetup.Presence
