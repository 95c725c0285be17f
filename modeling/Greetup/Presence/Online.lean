import Greetup.Presence.Handlers

/-!
A user is online as long as one of the sockets is connected.

The sockets of a user are kept by IP, one for each. Where two of them share a
field, the later one stands for both; and a user who is found to have no fields
left is marked offline a moment later, whoever has come in between.
-/

namespace Greetup.Presence

open Interleaving Prog
open Matching (Host UserId)

/-! ### What a command does to the keys of a user -/

section Keys

variable {w : World} {userId userId' : UserId} {ipField ipField' : IpField} {socketId : SocketId}
  {c : Cmd} {t : ℕ}

/-- The socket that stands for an IP. -/
def World.standsFor (w : World) (userId : UserId) (ipField : IpField) : Option SocketId :=
  (w.presence userId).fields.lookup ipField

theorem isUserOnline_iff : w.isUserOnline userId = true ↔
    ∃ ipField socketId, w.standsFor userId ipField = some socketId := by
  simp only [World.isUserOnline, World.standsFor]
  generalize (w.presence userId).fields = fields
  constructor
  · intro hne
    cases hentries : fields.entries with
    | nil => simp [hentries] at hne
    | cons e l =>
        refine ⟨e.1, e.2, AList.mem_lookup_iff.mpr ?_⟩
        rw [hentries]
        exact List.mem_cons_self
  · rintro ⟨ipField, socketId, hlookup⟩
    have hmem := AList.mem_lookup_iff.mp (Option.mem_def.mpr hlookup)
    cases hentries : fields.entries with
    | nil => simp [hentries] at hmem
    | cons e l => rfl

theorem isUserOnline_of_standsFor (h : w.standsFor userId ipField = some socketId) :
    w.isUserOnline userId = true :=
  isUserOnline_iff.mpr ⟨ipField, socketId, h⟩

/-- These have to do with the keys of users who are online. -/
def Cmd.Marks : Cmd → Prop
  | .elapse _ | .setOnline _ _ _ _ | .expirePresence _ | .removeIpIfSocketMatches _ _ _
  | .setOffline _ _ | .sremOnlineUsers _ => True
  | _ => False

theorem keys_exec (hc : ¬ c.Marks) : (exec c w).2.presence = w.presence ∧
    (exec c w).2.onlineUsers = w.onlineUsers := by
  cases c with
  | elapse => exact absurd trivial hc
  | setOnline => exact absurd trivial hc
  | expirePresence => exact absurd trivial hc
  | removeIpIfSocketMatches => exact absurd trivial hc
  | setOffline => exact absurd trivial hc
  | sremOnlineUsers => exact absurd trivial hc
  | smembersIndexed activityId => cases activityId <;> exact ⟨rfl, rfl⟩
  | cancelGracePeriod userId =>
      simp only [exec, World.clearGracePeriod]
      split <;> exact ⟨rfl, rfl⟩
  | runTimer id =>
      simp only [exec, World.runTimer]
      split
      · exact ⟨rfl, rfl⟩
      · split <;> exact ⟨rfl, rfl⟩
  | shouldSkipMatchStateRestore userId =>
      simp only [exec, World.shouldSkipMatchStateRestore]
      split
      · exact ⟨rfl, rfl⟩
      · split <;> exact ⟨rfl, rfl⟩
  | _ => exact ⟨rfl, rfl⟩

theorem standsFor_refreshPresence :
    (w.refreshPresence userId).standsFor = w.standsFor := by
  funext userId' ipField
  rw [World.refreshPresence]
  split
  · by_cases heq : userId' = userId
    · subst heq
      simp [World.standsFor, World.setPresence]
    · simp [World.standsFor, World.setPresence, heq]
  · rfl

theorem standsFor_setOnline_self :
    (w.setOnline userId ipField socketId t).standsFor userId ipField = some socketId := by
  simp [World.standsFor, World.setOnline, World.setPresence]

theorem standsFor_setOnline_of_user (h : userId' ≠ userId) :
    (w.setOnline userId ipField socketId t).standsFor userId' ipField' =
      w.standsFor userId' ipField' := by
  simp [World.standsFor, World.setOnline, World.setPresence, h]

/-- The fields of older versions go, and nothing else. -/
theorem standsFor_setOnline_of_ne (h : ipField' ≠ ipField) :
    (w.setOnline userId ipField socketId t).standsFor userId ipField' =
      if ipField' = "undefined" ∨ ipField' = "null" ∨ ipField' = "" then none
      else w.standsFor userId ipField' := by
  simp only [World.standsFor, World.setOnline, World.setPresence, Function.update_self,
    AList.lookup_insert_ne h, List.foldl_cons, List.foldl_nil]
  by_cases hempty : ipField' = ""
  · subst hempty
    simp
  · rw [AList.lookup_erase_ne hempty]
    by_cases hnull : ipField' = "null"
    · subst hnull
      simp
    · rw [AList.lookup_erase_ne hnull]
      by_cases hundefined : ipField' = "undefined"
      · subst hundefined
        simp
      · rw [AList.lookup_erase_ne hundefined, if_neg]
        simp [hempty, hnull, hundefined]

theorem Socket.ipField_ne [Host] (socket : Socket) : ¬ (socket.ipField = "undefined" ∨
    socket.ipField = "null" ∨ socket.ipField = "") := by
  have hne (s : String) (hs : s.toList.take 8 ≠ "unknown:".toList) :
      "unknown:" ++ socket.socketId.val ≠ s := by
    rintro rfl
    exact hs (by simp [String.toList_append])
  rw [Socket.ipField, normalizeIpField]
  split
  · rintro (heq | heq | heq)
    · exact hne _ (by decide) heq
    · exact hne _ (by decide) heq
    · exact hne _ (by decide) heq
  · simp_all

/-- What stood for an IP before, if the socket matches. -/
theorem standsFor_remove : (w.removeIpIfSocketMatches userId ipField socketId).2.standsFor userId'
    ipField' = if userId' = userId ∧ ipField' = ipField ∧
      w.standsFor userId ipField = some socketId then none else w.standsFor userId' ipField' := by
  rw [World.removeIpIfSocketMatches]
  split
  · rename_i hmatch
    by_cases hu : userId' = userId
    · subst hu
      by_cases hf : ipField' = ipField
      · subst hf
        simp [World.standsFor, World.setPresence, hmatch]
      · simp [World.standsFor, World.setPresence, hf, AList.lookup_erase_ne]
    · simp [World.standsFor, World.setPresence, hu]
  · rename_i hmatch
    rw [if_neg fun h => hmatch h.2.2]

theorem standsFor_setOffline : (w.setOffline userId t).standsFor userId' ipField =
    if userId' = userId then none else w.standsFor userId' ipField := by
  by_cases hu : userId' = userId
  · subst hu
    simp [World.standsFor, World.setOffline, World.setPresence]
  · simp [World.standsFor, World.setOffline, World.setPresence, hu]

theorem standsFor_elapse {ms : ℕ} : (w.elapse ms).standsFor userId ipField =
    if (w.presence userId).expiresAt ≤ w.now + ms then none else w.standsFor userId ipField := by
  simp only [World.standsFor, World.elapse]
  split <;> rfl

end Keys

/-! ### Runs -/

section Runs

variable {ι : Type} [DecidableEq ι] [Host] (happenings : ι → Happening)

/-- The connect of a socket has been recorded. -/
def MarkedIn (m : Mark) (s : PresenceScene ι) : Prop := ∃ e ∈ s.trace, e.cmd.marksIn = some m

/-- The disconnect of a socket has been recorded. -/
def MarkedOut (m : Mark) (s : PresenceScene ι) : Prop := ∃ e ∈ s.trace, e.cmd.marksOut = some m

instance (m : Mark) (s : PresenceScene ι) : Decidable (MarkedIn m s) :=
  inferInstanceAs (Decidable (∃ e ∈ s.trace, e.cmd.marksIn = some m))

instance (m : Mark) (s : PresenceScene ι) : Decidable (MarkedOut m s) :=
  inferInstanceAs (Decidable (∃ e ∈ s.trace, e.cmd.marksOut = some m))

/-- A socket is recorded to come before it is recorded to go, and no field is
removed while another socket is behind it; a user is marked offline, or dropped
from the set, whose hash is still gone then; and no hash expires that stands for
a socket. -/
def InStep (c : Cmd) (s : PresenceScene ι) : Prop :=
  match c with
  | .setOnline userId ipField socketId _ => ¬ MarkedOut ⟨userId, ipField, socketId⟩ s
  | .removeIpIfSocketMatches userId ipField socketId =>
      s.world.standsFor userId ipField = some socketId → ∀ k ∈ s.world.sockets,
        k.disconnectedAt = none → k.socket.userId = userId → k.socket.ipField = ipField →
          ¬ MarkedIn k.socket.mark s
  | .setOffline userId _ => s.world.isUserOnline userId = false
  | .sremOnlineUsers userIds => ∀ userId ∈ userIds, s.world.isUserOnline userId = false
  | .elapse ms => ∀ k ∈ s.world.sockets, k.disconnectedAt = none → MarkedIn k.socket.mark s →
      s.world.now + ms < (s.world.presence k.socket.userId).expiresAt
  | _ => True

instance (c : Cmd) (s : PresenceScene ι) : Decidable (InStep c s) := by
  rcases c
  case setOnline => exact inferInstanceAs (Decidable (¬ _))
  case removeIpIfSocketMatches =>
    exact inferInstanceAs (Decidable (_ → ∀ k ∈ s.world.sockets, _ → _ → _ → _))
  case setOffline => exact inferInstanceAs (Decidable (_ = _))
  case sremOnlineUsers userIds => exact inferInstanceAs (Decidable (∀ userId ∈ userIds, _ = _))
  case elapse => exact inferInstanceAs (Decidable (∀ k ∈ s.world.sockets, _ → _ → _ < _))
  all_goals exact inferInstanceAs (Decidable True)

/-- A handler has taken a socket of the user out, and has yet to find out that
the user is still there or to mark the user offline. -/
def Leaving (userId : UserId) (i : ι) (s : PresenceScene ι) : Prop :=
  (∃ socket t, socket.userId = userId ∧ happenings i = .disconnected socket ∧
    ⟨.disconnect socket, t⟩ ∈ s.told i) ∧
  (∀ n : ℕ, ⟨.hlen userId, n⟩ ∈ s.told i → n = 0) ∧
  ∀ t, ⟨.setOffline userId t, ()⟩ ∉ s.told i

structure OnlineInv (s : PresenceScene ι) : Prop extends SocketsInv happenings s where
  marked : ∀ k ∈ s.world.sockets, k.disconnectedAt = none → MarkedIn k.socket.mark s →
    (∃ socketId, s.world.standsFor k.socket.userId k.socket.ipField = some socketId) ∧
      k.socket.userId ∈ s.world.onlineUsers
  stands : ∀ userId ipField socketId, s.world.standsFor userId ipField = some socketId →
    (∃ k ∈ s.world.sockets, k.socket.mark = ⟨userId, ipField, socketId⟩) ∧
      MarkedIn ⟨userId, ipField, socketId⟩ s ∧ ¬ MarkedOut ⟨userId, ipField, socketId⟩ s
  online : ∀ userId ∈ s.world.onlineUsers,
    s.world.isUserOnline userId = true ∨ ∃ i, Leaving happenings userId i s

variable {happenings} {w₀ : World} {s : PresenceScene ι} {i j : ι} {c : Cmd}
  {m : Mark} {userId : UserId}
  {ipField : IpField} {socketId : SocketId}

omit [DecidableEq ι] [Host] in
theorem markedIn_after : MarkedIn m (s.after exec i c) ↔ c.marksIn = some m ∨ MarkedIn m s :=
  List.exists_mem_cons_iff _ _ _

omit [DecidableEq ι] [Host] in
theorem markedOut_after : MarkedOut m (s.after exec i c) ↔ c.marksOut = some m ∨ MarkedOut m s :=
  List.exists_mem_cons_iff _ _ _

theorem SocketsInv.of_markedIn (h : SocketsInv happenings s) (hm : MarkedIn m s) :
    ∃ k ∈ s.world.sockets, k.socket.mark = m := by
  obtain ⟨⟨j, c, r⟩, hmem, hc⟩ := hm
  cases c with
  | setOnline userId ipField socketId t =>
      obtain ⟨socket, t', -, rfl, rfl, rfl, htold⟩ :=
        (h.lawful j ⟨_, r⟩ (Scene.mem_told.mpr hmem)).of_setOnline
      obtain ⟨k, hk, rfl⟩ := h.arrived j socket t' htold
      exact ⟨k, hk, Option.some.inj hc⟩
  | _ => cases hc

/-- A handler that has yet to remove the field of its socket. -/
theorem SocketsInv.leaving (h : SocketsInv happenings s) {socket : Socket} {t : ℕ}
    (htold : ⟨.disconnect socket, t⟩ ∈ s.told i) (hout : ¬ MarkedOut socket.mark s) :
    Leaving happenings socket.userId i s := by
  have hi : happenings i = .disconnected socket := (h.lawful i _ htold).of_disconnect
  have hhlen (userId : UserId) (n : ℕ) : ⟨.hlen userId, n⟩ ∉ s.told i := by
    intro hmem
    obtain ⟨socket', removed, hi', rfl, hremove⟩ := (h.lawful i _ hmem).of_hlen
    cases hi.symm.trans hi'
    exact hout ⟨_, Scene.mem_told.mp hremove, rfl⟩
  refine ⟨⟨socket, t, rfl, hi, htold⟩, fun n hmem => absurd hmem (hhlen _ n), fun t hmem => ?_⟩
  exact hhlen _ 0 (h.lawful i _ hmem).of_setOffline

/-- After the command a departure from the keys of the user is still to be
completed. -/
def Cmd.LeavesOpen (c : Cmd) (userId : UserId) (w : World) : Prop :=
  match c with
  | .hlen userId' => userId' = userId → w.isUserOnline userId = false
  | .setOffline userId' _ => userId' ≠ userId
  | _ => True

omit [Host] in
theorem Leaving.after (h : Leaving happenings userId j s) (hopen : c.LeavesOpen userId s.world) :
    Leaving happenings userId j (s.after exec i c) := by
  obtain ⟨⟨socket, t, hu, hj, htold⟩, hzero, hnot⟩ := h
  refine ⟨⟨socket, t, hu, hj, Scene.told_subset_after exec htold⟩, fun n hmem => ?_,
    fun t hmem => ?_⟩
  · rcases (Scene.mem_told_after exec).mp hmem with ⟨-, heq⟩ | hmem
    · rw [Sigma.mk.injEq] at heq
      obtain ⟨rfl, heq⟩ := heq
      rw [eq_of_heq heq]
      have hempty := hopen rfl
      simp only [World.isUserOnline, Bool.not_eq_false', List.isEmpty_iff] at hempty
      exact List.length_eq_zero_iff.mpr hempty
    · exact hzero n hmem
  · rcases (Scene.mem_told_after exec).mp hmem with ⟨-, heq⟩ | hmem
    · cases congrArg Sigma.fst heq
      exact hopen rfl
    · exact hnot t hmem

theorem OnlineInv.marked_after (h : OnlineInv happenings s) (hown : OwnId c s.world)
    (hstep : InStep c s) {k : Connection} (hk : k ∈ (exec c s.world).2.sockets)
    (hnone : k.disconnectedAt = none) (hafter : MarkedIn k.socket.mark (s.after exec i c)) :
    (∃ socketId, (exec c s.world).2.standsFor k.socket.userId k.socket.ipField = some socketId) ∧
      k.socket.userId ∈ (exec c s.world).2.onlineUsers := by
  rcases mem_sockets_exec hk with ⟨rfl, -⟩ | ⟨k', hk', hsocket, heq | ⟨-, -, hsome⟩⟩
  · -- nothing has been recorded of a socket that is new
    rcases markedIn_after.mp hafter with hin | hin
    · cases hin
    · obtain ⟨k', hk', hmark⟩ := h.of_markedIn hin
      exact absurd (congrArg Mark.socketId hmark) (hown k' hk')
  · rw [← hsocket] at hafter ⊢
    have hold := h.marked k' hk' (heq.trans hnone)
    rcases markedIn_after.mp hafter with hin | hin
    · cases c with
      | setOnline userId ipField socketId t =>
          cases Option.some.inj hin
          exact ⟨⟨_, standsFor_setOnline_self⟩, List.mem_insert_self⟩
      | _ => cases hin
    · obtain ⟨⟨socketId, hstands⟩, honline⟩ := hold hin
      by_cases hc : c.Marks
      · cases c with
        | setOnline userId ipField socketId' t =>
            refine ⟨?_, List.mem_insert_of_mem honline⟩
            simp only [exec]
            by_cases hu : k'.socket.userId = userId
            · subst hu
              by_cases hf : k'.socket.ipField = ipField
              · subst hf
                exact ⟨_, standsFor_setOnline_self⟩
              · rw [standsFor_setOnline_of_ne hf, if_neg (Socket.ipField_ne _)]
                exact ⟨_, hstands⟩
            · rw [standsFor_setOnline_of_user hu]
              exact ⟨_, hstands⟩
        | elapse ms =>
            refine ⟨⟨socketId, ?_⟩, honline⟩
            have hlater := hstep k' hk' (heq.trans hnone) hin
            simp only [exec]
            rw [standsFor_elapse, if_neg (Nat.not_le.mpr hlater), hstands]
        | expirePresence userId =>
            simp only [exec, standsFor_refreshPresence]
            refine ⟨⟨_, hstands⟩, ?_⟩
            rw [World.refreshPresence]
            split
            · exact honline
            · exact honline
        | removeIpIfSocketMatches userId ipField socketId' =>
            simp only [exec]
            rw [standsFor_remove, if_neg]
            · refine ⟨⟨_, hstands⟩, ?_⟩
              rw [World.removeIpIfSocketMatches]
              split
              · exact honline
              · exact honline
            · rintro ⟨hu, hf, hmatch⟩
              exact hstep hmatch k' hk' (heq.trans hnone) hu hf hin
        | setOffline userId t =>
            have hu : k'.socket.userId ≠ userId := by
              rintro rfl
              have hempty : s.world.isUserOnline k'.socket.userId = false := hstep
              rw [isUserOnline_of_standsFor hstands] at hempty
              cases hempty
            simp only [exec]
            rw [standsFor_setOffline, if_neg hu]
            exact ⟨⟨_, hstands⟩, List.mem_filter.mpr ⟨honline, by simpa using hu⟩⟩
        | sremOnlineUsers userIds =>
            refine ⟨⟨_, hstands⟩, List.mem_filter.mpr ⟨honline, ?_⟩⟩
            by_contra hmem
            have hempty := hstep k'.socket.userId (by simpa using hmem)
            rw [isUserOnline_of_standsFor hstands] at hempty
            cases hempty
        | _ => exact hc.elim
      · obtain ⟨hpresence, husers⟩ := keys_exec (w := s.world) hc
        rw [World.standsFor, hpresence, husers]
        exact ⟨⟨_, hstands⟩, honline⟩
  · rw [hsome] at hnone
    cases hnone

theorem OnlineInv.stands_after (h : OnlineInv happenings s)
    (hdue : Due (s.told i) (happenings i) c) (hstep : InStep c s)
    (hstands : (exec c s.world).2.standsFor userId ipField = some socketId) :
    (∃ k ∈ (exec c s.world).2.sockets, k.socket.mark = ⟨userId, ipField, socketId⟩) ∧
      MarkedIn ⟨userId, ipField, socketId⟩ (s.after exec i c) ∧
        ¬ MarkedOut ⟨userId, ipField, socketId⟩ (s.after exec i c) := by
  have hold (hstood : s.world.standsFor userId ipField = some socketId)
      (hne : c.marksOut ≠ some ⟨userId, ipField, socketId⟩) :
      (∃ k ∈ (exec c s.world).2.sockets, k.socket.mark = ⟨userId, ipField, socketId⟩) ∧
        MarkedIn ⟨userId, ipField, socketId⟩ (s.after exec i c) ∧
          ¬ MarkedOut ⟨userId, ipField, socketId⟩ (s.after exec i c) := by
    obtain ⟨⟨k, hk, hmark⟩, hin, hout⟩ := h.stands _ _ _ hstood
    obtain ⟨k', hk', hsocket⟩ := sockets_stay hk c
    refine ⟨⟨k', hk', hsocket ▸ hmark⟩, markedIn_after.mpr (.inr hin), fun hnew => ?_⟩
    rcases markedOut_after.mp hnew with hnew | hnew
    · exact hne hnew
    · exact hout hnew
  by_cases hc : c.Marks
  · cases c with
    | setOnline userId' ipField' socketId' t =>
        simp only [exec] at hstands
        by_cases hu : userId = userId'
        · subst hu
          by_cases hf : ipField = ipField'
          · subst hf
            obtain rfl : socketId' = socketId :=
              Option.some.inj (standsFor_setOnline_self.symm.trans hstands)
            obtain ⟨socket, t', -, rfl, rfl, rfl, htold⟩ := hdue.of_setOnline
            obtain ⟨k, hk, hsocket⟩ := h.arrived i socket t' htold
            obtain ⟨k', hk', hsocket'⟩ := sockets_stay hk _
            refine ⟨⟨k', hk', by rw [hsocket', hsocket, Socket.mark]⟩,
              markedIn_after.mpr (.inl rfl), fun hnew => ?_⟩
            rcases markedOut_after.mp hnew with hnew | hnew
            · cases hnew
            · exact hstep hnew
          · rw [standsFor_setOnline_of_ne hf] at hstands
            split at hstands
            · cases hstands
            · exact hold hstands (Option.some_ne_none _).symm
        · rw [standsFor_setOnline_of_user hu] at hstands
          exact hold hstands (Option.some_ne_none _).symm
    | elapse ms =>
        simp only [exec] at hstands
        rw [standsFor_elapse] at hstands
        split at hstands
        · cases hstands
        · exact hold hstands (Option.some_ne_none _).symm
    | expirePresence userId' =>
        simp only [exec, standsFor_refreshPresence] at hstands
        exact hold hstands (Option.some_ne_none _).symm
    | removeIpIfSocketMatches userId' ipField' socketId' =>
        simp only [exec] at hstands
        rw [standsFor_remove] at hstands
        split at hstands
        · cases hstands
        · rename_i hnot
          refine hold hstands fun heq => hnot ?_
          cases Option.some.inj heq
          exact ⟨rfl, rfl, hstands⟩
    | setOffline userId' t =>
        simp only [exec] at hstands
        rw [standsFor_setOffline] at hstands
        split at hstands
        · cases hstands
        · exact hold hstands (Option.some_ne_none _).symm
    | sremOnlineUsers userIds => exact hold hstands (Option.some_ne_none _).symm
    | _ => exact hc.elim
  · have hne : c.marksOut ≠ some ⟨userId, ipField, socketId⟩ := by
      cases c with
      | removeIpIfSocketMatches => exact absurd trivial hc
      | _ => exact (Option.some_ne_none _).symm
    rw [World.standsFor, (keys_exec (w := s.world) hc).1] at hstands
    exact hold hstands hne

theorem OnlineInv.online_after (h : OnlineInv happenings s)
    (hdue : Due (s.told i) (happenings i) c) (hstep : InStep c s)
    (honline : userId ∈ (exec c s.world).2.onlineUsers) :
    (exec c s.world).2.isUserOnline userId = true ∨
      ∃ j, Leaving happenings userId j (s.after exec i c) := by
  by_cases hthere : (exec c s.world).2.isUserOnline userId = true
  · exact .inl hthere
  · have hgone (f : IpField) (sid : SocketId)
        (hstands : (exec c s.world).2.standsFor userId f = some sid) : False :=
      hthere (isUserOnline_of_standsFor hstands)
    right
    by_cases hc : c.Marks
    · cases c with
      | setOnline userId' ipField' socketId' t =>
          simp only [exec] at hgone honline
          have hu : userId ≠ userId' := by
            rintro rfl
            exact hgone _ _ standsFor_setOnline_self
          rcases List.mem_insert_iff.mp honline with rfl | honline
          · exact absurd rfl hu
          · rcases h.online userId honline with hon | ⟨j, hj⟩
            · obtain ⟨f, sid, hstands⟩ := isUserOnline_iff.mp hon
              exact (hgone _ _ ((standsFor_setOnline_of_user hu).trans hstands)).elim
            · exact ⟨j, hj.after trivial⟩
      | elapse ms =>
          rcases h.online userId honline with hon | ⟨j, hj⟩
          · -- the hash has expired, so that the sockets it stood for have gone
            obtain ⟨f, sid, hstands⟩ := isUserOnline_iff.mp hon
            obtain ⟨⟨k, hk, hmark⟩, hin, hout⟩ := h.stands _ _ _ hstands
            rw [← hmark] at hin hout
            obtain rfl : k.socket.userId = userId := congrArg Mark.userId hmark
            have hne : k.disconnectedAt ≠ none := by
              intro hnone
              have hlater := hstep k hk hnone hin
              simp only [exec] at hgone
              refine hgone f sid ?_
              rw [standsFor_elapse, if_neg (Nat.not_le.mpr hlater)]
              exact hstands
            obtain ⟨j, t, htold⟩ := h.gone k hk hne
            exact ⟨j, (h.leaving htold hout).after trivial⟩
          · exact ⟨j, hj.after trivial⟩
      | expirePresence userId' =>
          have hsame : (s.world.refreshPresence userId').onlineUsers = s.world.onlineUsers := by
            rw [World.refreshPresence]
            split <;> rfl
          simp only [exec, hsame] at honline
          rcases h.online userId honline with hon | ⟨j, hj⟩
          · obtain ⟨f, sid, hstands⟩ := isUserOnline_iff.mp hon
            simp only [exec, standsFor_refreshPresence] at hgone
            exact (hgone f sid hstands).elim
          · exact ⟨j, hj.after trivial⟩
      | removeIpIfSocketMatches userId' ipField' socketId' =>
          have hsame : (s.world.removeIpIfSocketMatches userId' ipField' socketId').2.onlineUsers =
              s.world.onlineUsers := by
            rw [World.removeIpIfSocketMatches]
            split <;> rfl
          simp only [exec, hsame] at honline
          rcases h.online userId honline with hon | ⟨j, hj⟩
          · -- the last field has gone, and the handler that removed it goes on
            obtain ⟨f, sid, hstands⟩ := isUserOnline_iff.mp hon
            simp only [exec] at hgone
            have hremoved : userId = userId' ∧ f = ipField' ∧
                s.world.standsFor userId' ipField' = some socketId' := by
              by_contra hnot
              refine hgone f sid ?_
              rw [standsFor_remove, if_neg hnot]
              exact hstands
            obtain ⟨rfl, rfl, hmatch⟩ := hremoved
            obtain ⟨socket, t, -, rfl, rfl, rfl, htold⟩ := hdue.of_remove
            exact ⟨i, (h.leaving htold (h.stands _ _ _ hmatch).2.2).after trivial⟩
          · exact ⟨j, hj.after trivial⟩
      | setOffline userId' t =>
          simp only [exec] at hgone honline
          obtain ⟨honline, hu⟩ := List.mem_filter.mp honline
          have hu : userId ≠ userId' := by simpa using hu
          rcases h.online userId honline with hon | ⟨j, hj⟩
          · obtain ⟨f, sid, hstands⟩ := isUserOnline_iff.mp hon
            exact (hgone f sid (by rw [standsFor_setOffline, if_neg hu, hstands])).elim
          · exact ⟨j, hj.after (Ne.symm hu)⟩
      | sremOnlineUsers userIds =>
          rcases h.online userId (List.mem_filter.mp honline).1 with hon | ⟨j, hj⟩
          · exact absurd hon hthere
          · exact ⟨j, hj.after trivial⟩
      | _ => exact hc.elim
    · obtain ⟨hpresence, husers⟩ := keys_exec (w := s.world) hc
      rw [husers] at honline
      have hoff : s.world.isUserOnline userId = false := by
        rw [World.isUserOnline, hpresence] at hthere
        simpa [World.isUserOnline] using hthere
      have hopen : c.LeavesOpen userId s.world := by
        cases c with
        | hlen => exact fun _ => hoff
        | setOffline => exact absurd trivial hc
        | _ => trivial
      rcases h.online userId honline with hon | ⟨j, hj⟩
      · rw [hoff] at hon
        cases hon
      · exact ⟨j, hj.after hopen⟩

theorem OnlineInv.after (h : OnlineInv happenings s) (hdue : Due (s.told i) (happenings i) c)
    (hm : OwnId c s.world ∧ InStep c s) : OnlineInv happenings (s.after exec i c) where
  toSocketsInv := h.toSocketsInv.after hdue
  marked _ hk hnone hin := h.marked_after hm.1 hm.2 hk hnone hin
  stands _ _ _ hstands := h.stands_after hdue hm.2 hstands
  online _ honline := h.online_after hdue hm.2 honline

theorem OnlineInv.start (hfresh : w₀.Fresh) :
    OnlineInv happenings (listeners happenings w₀).scene where
  toSocketsInv := .start hfresh
  marked k hk := by
    rw [listeners, hfresh.sockets] at hk
    cases hk
  stands userId ipField socketId hstands := by
    rw [listeners, World.standsFor, hfresh.presence, AList.lookup_empty] at hstands
    cases hstands
  online userId honline := by
    rw [listeners, hfresh.onlineUsers] at honline
    cases honline

/-- When no handler is in progress, what stands for an IP is a connected socket. -/
theorem OnlineInv.connected (h : OnlineInv happenings s)
    (hrest : ∀ i, s.told i = [] ∨ Settled (s.told i) (happenings i))
    (hon : s.world.isUserOnline userId = true) : s.world.Connected userId := by
  obtain ⟨f, sid, hstands⟩ := isUserOnline_iff.mp hon
  obtain ⟨⟨k, hk, hmark⟩, -, hout⟩ := h.stands _ _ _ hstands
  refine connected_iff.mpr ⟨k, hk, congrArg Mark.userId hmark, ?_⟩
  by_contra hne
  obtain ⟨i, t, htold⟩ := h.gone k hk hne
  have hi := (h.lawful i _ htold).of_disconnect
  rcases hrest i with hnone | hsettled
  · rw [hnone] at htold
    cases htold
  · rw [hi] at hsettled
    obtain ⟨⟨removed, hremove⟩, -⟩ := hsettled
    exact hout ⟨_, Scene.mem_told.mp hremove, congrArg some hmark⟩

theorem OnlineInv.marked_of_connected (h : OnlineInv happenings s)
    (hrest : ∀ i, s.told i = [] ∨ Settled (s.told i) (happenings i))
    (hconnected : s.world.Connected userId) :
    s.world.isUserOnline userId = true ∧ userId ∈ s.world.onlineUsers := by
  obtain ⟨k, hk, rfl, hnone⟩ := connected_iff.mp hconnected
  obtain ⟨i, t, htold⟩ := h.came k hk
  have hi := (h.lawful i _ htold).of_connection
  rcases hrest i with hempty | hsettled
  · rw [hempty] at htold
    cases htold
  · rw [hi] at hsettled
    obtain ⟨t, hset⟩ := hsettled
    obtain ⟨⟨sid, hstands⟩, honline⟩ := h.marked k hk hnone ⟨_, Scene.mem_told.mp hset, rfl⟩
    exact ⟨isUserOnline_of_standsFor hstands, honline⟩

omit [DecidableEq ι] in
/-- A handler that has returned is not on its way out. -/
theorem Leaving.not_settled [DecidableEq ι] (h : Leaving happenings userId i s) :
    ¬ (s.told i = [] ∨ Settled (s.told i) (happenings i)) := by
  obtain ⟨⟨socket, t, rfl, hi, htold⟩, hzero, hnot⟩ := h
  rintro (hempty | hsettled)
  · rw [hempty] at htold
    cases htold
  · rw [hi] at hsettled
    obtain ⟨-, ⟨n, hpos, hhlen⟩ | ⟨t, hoffline⟩⟩ := hsettled
    · exact absurd (hzero n hhlen) (Nat.ne_of_gt hpos)
    · exact hnot t hoffline

/-- **Online means connected**, whenever no handler is in progress, if the
records are made in step. -/
theorem online_iff_connected_of_inStep (hfresh : w₀.Fresh) {sched : List ι}
    (hm : (listeners happenings w₀).Meets exec
      (fun _ c s => OwnId c s.world ∧ InStep c s) sched)
    (hrest : ((listeners happenings w₀).runs exec sched).AtRest) (userId : UserId) :
    (((listeners happenings w₀).runs exec sched).scene.world.isUserOnline userId = true ↔
      ((listeners happenings w₀).runs exec sched).scene.world.Connected userId) ∧
    (userId ∈ ((listeners happenings w₀).runs exec sched).scene.world.onlineUsers ↔
      ((listeners happenings w₀).runs exec sched).scene.world.Connected userId) := by
  have hlic : (listeners happenings w₀).Licensed exec (fun i told => Due told (happenings i))
      (fun i told _ => Settled told (happenings i)) := fun i => licensed_program (happenings i)
  have hinv := hlic.runs_inv (fun _ _ _ h hdue hm => OnlineInv.after h hdue hm)
    (.start hfresh) hm
  have hsettled (i : ι) := (hlic.runs sched).told_of_atRest hrest i
  simp only [exists_const] at hsettled
  refine ⟨⟨hinv.connected hsettled, fun h => (hinv.marked_of_connected hsettled h).1⟩,
    fun honline => ?_, fun h => (hinv.marked_of_connected hsettled h).2⟩
  rcases hinv.online userId honline with hon | ⟨i, hleaving⟩
  · exact hinv.connected hsettled hon
  · exact absurd (hsettled i) hleaving.not_settled

end Runs

namespace Sample

/-- The engine as far as the case of ASCII letters goes. -/
@[reducible] def engine : Host :=
  { Host.exact .guestOnly with
    toLowerCase := fun s => String.ofList (s.toList.map Char.toLower) }

def vera : UserId := ⟨"vera", by decide⟩

/-- A tab of `vera`. -/
def tab (id : SocketId) (ip : String) : Socket := ⟨id, vera, ip⟩

def left : SocketId := ⟨"left", by decide⟩
def right : SocketId := ⟨"right", by decide⟩

inductive Tabs
  | opens
  | opensAnother
  | closes
  deriving DecidableEq

/-- Two tabs are opened, and the one that was opened last is closed. -/
def browsing (ip : String) : Tabs → Happening
  | .opens => .connected (tab left "home")
  | .opensAnother => .connected (tab right ip)
  | .closes => .disconnected (tab right ip)

/-- One after the other. -/
def inTurn : List Tabs :=
  List.replicate 9 .opens ++ List.replicate 9 .opensAnother ++ List.replicate 7 .closes

theorem atRest_inTurn (ip : String) (hip : ip = "home" ∨ ip = "work") :
    ((@listeners Tabs engine (browsing ip) {}).runs exec inTurn).AtRest := by
  intro tabs
  rcases hip with rfl | rfl
  · cases tabs with
    | opens => exact .inl ⟨(), rfl⟩
    | opensAnother => exact .inl ⟨(), rfl⟩
    | closes => exact .inl ⟨(), rfl⟩
  · cases tabs with
    | opens => exact .inl ⟨(), rfl⟩
    | opensAnother => exact .inl ⟨(), rfl⟩
    | closes => exact .inl ⟨(), rfl⟩

/-- From the same IP the second tab takes the place of the first, which is then
connected to no avail. -/
theorem not_online_inTurn :
    ((@listeners Tabs engine (browsing "home") {}).runs exec inTurn).AtRest ∧
      ((@listeners Tabs engine (browsing "home") {}).runs exec inTurn).scene.world.Connected vera ∧
      ((@listeners Tabs engine (browsing "home") {}).runs exec inTurn).scene.world.isUserOnline
        vera = false := by
  refine ⟨atRest_inTurn _ (.inl rfl), ?_, rfl⟩
  exact List.cons_ne_nil _ _

/-- From another IP it does not. -/
theorem online_inTurn :
    ((@listeners Tabs engine (browsing "work") {}).runs exec inTurn).scene.world.Connected vera ↔
      vera ∈ ((@listeners Tabs engine (browsing "work") {}).runs exec
        inTurn).scene.world.onlineUsers := by
  exact (@online_iff_connected_of_inStep Tabs _ engine (browsing "work") {}
    ⟨rfl, fun _ => rfl, rfl, rfl⟩ inTurn (by decide +kernel) (atRest_inTurn _ (.inr rfl))
    vera).2.symm

end Sample

end Greetup.Presence
