import Greetup.Presence.Handlers

/-!
The grace period of a user who disconnects while searching.

A timer is set some time after the last socket has gone, and cleared some time
after one has come. It looks at the sockets once, when it has run out.
-/

namespace Greetup.Presence

open Interleaving Prog
open Matching (Host UserId)

section Timers

variable {w : World} {userId : UserId} {c : Cmd} {t : Timer}

/-- These set and clear timers. -/
def Cmd.Times : Cmd → Prop
  | .cancelGracePeriod _ | .setGracePeriod _ | .runTimer _ => True
  | _ => False

theorem timers_exec (hc : ¬ c.Times) : (exec c w).2.timers = w.timers ∧
    (exec c w).2.gracePeriodTimers = w.gracePeriodTimers := by
  cases c with
  | cancelGracePeriod => exact absurd trivial hc
  | setGracePeriod => exact absurd trivial hc
  | runTimer => exact absurd trivial hc
  | expirePresence userId =>
      simp only [exec, World.refreshPresence]
      split <;> exact ⟨rfl, rfl⟩
  | removeIpIfSocketMatches userId ipField socketId =>
      simp only [exec, World.removeIpIfSocketMatches]
      split <;> exact ⟨rfl, rfl⟩
  | smembersIndexed activityId => cases activityId <;> exact ⟨rfl, rfl⟩
  | shouldSkipMatchStateRestore userId =>
      simp only [exec, World.shouldSkipMatchStateRestore]
      split
      · exact ⟨rfl, rfl⟩
      · split <;> exact ⟨rfl, rfl⟩
  | _ => exact ⟨rfl, rfl⟩

theorem now_le_exec (c : Cmd) (w : World) : w.now ≤ (exec c w).2.now := by
  cases c with
  | elapse ms => exact Nat.le_add_right _ _
  | expirePresence userId =>
      simp only [exec, World.refreshPresence]
      split <;> exact Nat.le_refl _
  | removeIpIfSocketMatches userId ipField socketId =>
      simp only [exec, World.removeIpIfSocketMatches]
      split <;> exact Nat.le_refl _
  | smembersIndexed activityId => cases activityId <;> exact Nat.le_refl _
  | cancelGracePeriod userId =>
      simp only [exec, World.clearGracePeriod]
      split <;> exact Nat.le_refl _
  | runTimer id =>
      simp only [exec, World.runTimer]
      split
      · exact Nat.le_refl _
      · split <;> exact Nat.le_refl _
  | shouldSkipMatchStateRestore userId =>
      simp only [exec, World.shouldSkipMatchStateRestore]
      split
      · exact Nat.le_refl _
      · split <;> exact Nat.le_refl _
  | _ => exact Nat.le_refl _

/-- The timer of a user that is left is not the one of the map. -/
theorem mem_clearGracePeriod (ht : t ∈ (w.clearGracePeriod userId).timers) :
    t ∈ w.timers ∧ w.gracePeriodTimers userId ≠ some t.id := by
  rw [World.clearGracePeriod] at ht
  cases hmap : w.gracePeriodTimers userId with
  | none =>
      rw [hmap] at ht
      exact ⟨ht, (Option.some_ne_none _).symm⟩
  | some id =>
      rw [hmap] at ht
      obtain ⟨hmem, hne⟩ := List.mem_filter.mp ht
      refine ⟨hmem, fun heq => ?_⟩
      cases heq
      simp at hne

theorem gracePeriodTimers_clear {userId' : UserId} (hne : userId' ≠ userId) :
    (w.clearGracePeriod userId).gracePeriodTimers userId' = w.gracePeriodTimers userId' := by
  rw [World.clearGracePeriod]
  split
  · rfl
  · exact Function.update_of_ne hne _ _

/-- A timer calls `cancelMatchService` when it is due and nobody is there. -/
theorem runTimer_some {id : ℕ} (h : (w.runTimer id).1 = some userId) :
    ∃ t ∈ w.timers, t.id = id ∧ t.userId = userId ∧ t.setAt + matchGraceMs ≤ w.now ∧
      ¬ w.Connected userId := by
  rw [World.runTimer] at h
  cases hfind : w.timers.find? (·.id = id) with
  | none =>
      rw [hfind] at h
      cases h
  | some t =>
      rw [hfind] at h
      simp only at h
      split at h
      · rename_i hdue
        dsimp only at h
        split at h
        · cases h
        · rename_i hempty
          cases h
          refine ⟨t, List.mem_of_find?_eq_some hfind, ?_, rfl, hdue, ?_⟩
          · simpa using List.find?_some hfind
          · simpa [World.Connected] using hempty
      · cases h

/-- A timer that has run is gone, and so is the entry of its user. -/
theorem runTimer_world (id : ℕ) (w : World) : (w.runTimer id).2 = w ∨
    ∃ t ∈ w.timers, t.id = id ∧ (w.runTimer id).2 = { w with
      timers := w.timers.filter (·.id ≠ id)
      gracePeriodTimers := Function.update w.gracePeriodTimers t.userId none } := by
  rw [World.runTimer]
  cases hfind : w.timers.find? (·.id = id) with
  | none => exact .inl rfl
  | some t =>
      dsimp only
      split
      · refine .inr ⟨t, List.mem_of_find?_eq_some hfind, ?_, rfl⟩
        simpa using List.find?_some hfind
      · exact .inl rfl

end Timers

/-! ### Runs -/

section Runs

variable {ι : Type} [DecidableEq ι] [Host] (happenings : ι → Happening)

/-- The handler of the connect has come to `cancelGracePeriod`. -/
def Greeted (socket : Socket) (s : PresenceScene ι) : Prop :=
  ∃ i t, ⟨.connection socket, t⟩ ∈ s.told i ∧ ⟨.cancelGracePeriod socket.userId, ()⟩ ∈ s.told i

/-- A timer is set for a user who has none yet, and whose connected sockets have
all still to be greeted; and by the time that it runs out, those that have come
and gone since have been. -/
def OnTime (c : Cmd) (s : PresenceScene ι) : Prop :=
  match c with
  | .setGracePeriod userId => (∀ t ∈ s.world.timers, t.userId ≠ userId) ∧
      ∀ k ∈ s.world.sockets, k.socket.userId = userId → k.disconnectedAt = none →
        ¬ Greeted k.socket s
  | .runTimer id => ∀ t ∈ s.world.timers, t.id = id → t.setAt + matchGraceMs ≤ s.world.now →
      ∀ k ∈ s.world.sockets, k.socket.userId = t.userId →
        (∃ d ∈ k.disconnectedAt, t.setAt < d) → Greeted k.socket s
  | _ => True

/-- A timer calls `cancelMatchService` for a user only if every socket of the
user has been gone for the whole of the grace period. -/
def Granted (c : Cmd) (w : World) : Prop :=
  match c with
  | .runTimer id => ∀ userId, (w.runTimer id).1 = some userId →
      ∀ k ∈ w.sockets, k.socket.userId = userId →
        ∃ d, k.disconnectedAt = some d ∧ d + matchGraceMs ≤ w.now
  | _ => True

structure GraceInv (s : PresenceScene ι) : Prop extends SocketsInv happenings s where
  past : ∀ k ∈ s.world.sockets, ∀ d, k.disconnectedAt = some d → d ≤ s.world.now
  newest : ∀ t ∈ s.world.timers, s.world.gracePeriodTimers t.userId = some t.id
  absent : ∀ t ∈ s.world.timers, ∀ k ∈ s.world.sockets, k.socket.userId = t.userId →
    (∃ d, k.disconnectedAt = some d ∧ d ≤ t.setAt) ∨ ¬ Greeted k.socket s

variable {happenings} {w : World} {s : PresenceScene ι} {i : ι} {c : Cmd} {socket : Socket}

omit [Host] in
theorem greeted_after (h : Greeted socket (s.after exec i c)) : Greeted socket s ∨
    c = .connection socket ∨ c = .cancelGracePeriod socket.userId := by
  obtain ⟨j, t, hcame, hcancel⟩ := h
  rcases (Scene.mem_told_after exec).mp hcame with ⟨-, heq⟩ | hcame
  · exact .inr (.inl (congrArg Sigma.fst heq).symm)
  · rcases (Scene.mem_told_after exec).mp hcancel with ⟨-, heq⟩ | hcancel
    · exact .inr (.inr (congrArg Sigma.fst heq).symm)
    · exact .inl ⟨j, t, hcame, hcancel⟩

section Decidable

def Cmd.connects (socket : Socket) : Cmd → Bool
  | .connection socket' => socket' = socket
  | _ => false

def Cmd.greets (userId : UserId) : Cmd → Bool
  | .cancelGracePeriod userId' => userId' = userId
  | _ => false

omit [Host] in
theorem greeted_iff : Greeted socket s ↔ ∃ e ∈ s.trace, e.cmd.connects socket = true ∧
    ∃ e' ∈ s.trace, e'.tid = e.tid ∧ e'.cmd.greets socket.userId = true := by
  constructor
  · rintro ⟨i, t, hcame, hcancel⟩
    exact ⟨_, Scene.mem_told.mp hcame, decide_eq_true rfl, _, Scene.mem_told.mp hcancel, rfl,
      decide_eq_true rfl⟩
  · rintro ⟨⟨i, c, r⟩, hcame, hc, ⟨j, c', r'⟩, hcancel, hij, hc'⟩
    cases c with
    | connection socket' =>
        cases c' with
        | cancelGracePeriod userId =>
            obtain rfl := of_decide_eq_true hc
            obtain rfl := of_decide_eq_true hc'
            obtain rfl : j = i := hij
            exact ⟨j, r, Scene.mem_told.mpr hcame, Scene.mem_told.mpr hcancel⟩
        | _ => cases hc'
    | _ => cases hc

instance : Decidable (Greeted socket s) := decidable_of_iff _ greeted_iff.symm

instance : Decidable (OnTime c s) := by
  rcases c
  case setGracePeriod userId => exact inferInstanceAs (Decidable (_ ∧ _))
  case runTimer id => exact inferInstanceAs (Decidable (∀ t ∈ s.world.timers, _ → _ → _))
  all_goals exact inferInstanceAs (Decidable True)

end Decidable

/-- A socket that comes has still to be greeted, and so have those that were. -/
theorem SocketsInv.not_greeted_connection (h : SocketsInv happenings s)
    (hdue : Due (s.told i) (happenings i) (.connection socket))
    (hown : OwnId (.connection socket) s.world) {socket' : Socket}
    (hnot : socket' ≠ socket → ¬ Greeted socket' s) :
    ¬ Greeted socket' (s.after exec i (.connection socket)) := by
  have hnew {j : ι} {t : ℕ} (hmem : ⟨.connection socket, t⟩ ∈ s.told j) : False := by
    obtain ⟨k, hk, rfl⟩ := h.arrived j socket t hmem
    exact hown k hk rfl
  rintro ⟨j, t, hcame, hcancel⟩
  rcases (Scene.mem_told_after exec).mp hcancel with ⟨-, heq⟩ | hcancel
  · cases congrArg Sigma.fst heq
  · rcases (Scene.mem_told_after exec).mp hcame with ⟨rfl, -⟩ | hold
    · -- the handler of the socket has only just begun
      obtain ⟨socket₀, t₀, hi, htold⟩ := (h.lawful i _ hcancel).of_cancelGracePeriod
      cases hdue.of_connection.symm.trans hi
      exact hnew htold
    · by_cases heq : socket' = socket
      · subst heq
        exact hnew hold
      · exact hnot heq ⟨j, t, hold, hcancel⟩

theorem GraceInv.absent_after (h : GraceInv happenings s)
    (hdue : Due (s.told i) (happenings i) c) (hown : OwnId c s.world) {t : Timer}
    (ht : t ∈ s.world.timers)
    (hcancel : c = .cancelGracePeriod t.userId → False) {k : Connection}
    (hk : k ∈ (exec c s.world).2.sockets) (hu : k.socket.userId = t.userId) :
    (∃ d, k.disconnectedAt = some d ∧ d ≤ t.setAt) ∨
      ¬ Greeted k.socket (s.after exec i c) := by
  rcases mem_sockets_exec hk with ⟨rfl, -⟩ | ⟨k', hk', hsocket, hold⟩
  · exact .inr (h.not_greeted_connection hdue hown fun hne => absurd rfl hne)
  · have hgone : (∃ d, k'.disconnectedAt = some d ∧ d ≤ t.setAt) →
        ∃ d, k.disconnectedAt = some d ∧ d ≤ t.setAt := by
      rcases hold with heq | ⟨-, hnone, -⟩
      · rw [heq]
        exact id
      · rintro ⟨d, hd, -⟩
        rw [hnone] at hd
        cases hd
    rcases h.absent t ht k' hk' (hsocket ▸ hu) with hbefore | hnot
    · exact .inl (hgone hbefore)
    · refine .inr fun hgreeted => ?_
      rw [hsocket] at hnot
      rcases greeted_after hgreeted with hgreeted' | rfl | rfl
      · exact hnot hgreeted'
      · exact h.not_greeted_connection hdue hown (fun _ => hnot) hgreeted
      · exact hcancel (by rw [hu])

theorem GraceInv.after (h : GraceInv happenings s) (hdue : Due (s.told i) (happenings i) c)
    (hm : OwnId c s.world ∧ OnTime c s) : GraceInv happenings (s.after exec i c) where
  toSocketsInv := h.toSocketsInv.after hdue
  past k hk d hd := by
    refine Nat.le_trans ?_ (now_le_exec c s.world)
    rcases mem_sockets_exec hk with ⟨-, hnone⟩ | ⟨k', hk', -, heq | ⟨-, -, hsome⟩⟩
    · rw [hnone] at hd
      cases hd
    · exact h.past k' hk' d (heq.trans hd)
    · rw [hsome] at hd
      cases hd
      exact Nat.le_refl _
  newest t ht := by
    rw [Scene.after_world] at ht ⊢
    by_cases hc : c.Times
    · cases c with
      | cancelGracePeriod userId =>
          obtain ⟨ht, hne⟩ := mem_clearGracePeriod ht
          have hmap := h.newest t ht
          rw [← hmap]
          refine gracePeriodTimers_clear fun heq => hne ?_
          rw [← heq, hmap]
      | setGracePeriod userId =>
          rcases List.mem_cons.mp ht with rfl | ht
          · exact Function.update_self _ _ _
          · exact (Function.update_of_ne (hm.2.1 t ht) _ _).trans (h.newest t ht)
      | runTimer id =>
          simp only [exec] at ht ⊢
          rcases runTimer_world id s.world with heq | ⟨t₀, ht₀, hid, heq⟩
          · rw [heq] at ht ⊢
            exact h.newest t ht
          · rw [heq] at ht ⊢
            obtain ⟨ht, hne⟩ := List.mem_filter.mp ht
            have hmap := h.newest t ht
            refine (Function.update_of_ne (fun hu => ?_) _ _).trans hmap
            rw [hu, h.newest t₀ ht₀, Option.some.injEq] at hmap
            simp [← hmap, hid] at hne
      | _ => exact hc.elim
    · obtain ⟨htimers, hmap⟩ := timers_exec (w := s.world) hc
      rw [htimers] at ht
      rw [hmap]
      exact h.newest t ht
  absent t ht k hk hu := by
    rw [Scene.after_world] at ht hk
    by_cases hc : c.Times
    · cases c with
      | cancelGracePeriod userId =>
          obtain ⟨hmem, hne⟩ := mem_clearGracePeriod ht
          refine h.absent_after hdue hm.1 hmem (fun heq => hne ?_) hk hu
          cases heq
          exact h.newest t hmem
      | setGracePeriod userId =>
          rcases List.mem_cons.mp ht with rfl | ht
          · cases hd : k.disconnectedAt with
            | none =>
                refine .inr fun hgreeted => ?_
                rcases greeted_after hgreeted with hgreeted | heq | heq
                · exact hm.2.2 k hk hu hd hgreeted
                · cases heq
                · cases heq
            | some d => exact .inl ⟨d, rfl, h.past k hk d hd⟩
          · refine h.absent_after hdue hm.1 ht (fun heq => ?_) hk hu
            cases heq
      | runTimer id =>
          refine h.absent_after hdue hm.1 ?_ (fun heq => ?_) hk hu
          · simp only [exec] at ht
            rcases runTimer_world id s.world with heq | ⟨t₀, ht₀, hid, heq⟩
            · rw [heq] at ht
              exact ht
            · rw [heq] at ht
              exact (List.mem_filter.mp ht).1
          · cases heq
      | _ => exact hc.elim
    · rw [(timers_exec (w := s.world) hc).1] at ht
      refine h.absent_after hdue hm.1 ht (fun heq => hc ?_) hk hu
      rw [heq]
      trivial

theorem GraceInv.start (hfresh : w.Fresh) :
    GraceInv happenings (listeners happenings w).scene where
  toSocketsInv := .start hfresh
  past k hk := by
    rw [listeners, hfresh.sockets] at hk
    cases hk
  newest t ht := by
    rw [listeners, hfresh.timers] at ht
    cases ht
  absent t ht := by
    rw [listeners, hfresh.timers] at ht
    cases ht

theorem GraceInv.granted (h : GraceInv happenings s) (honTime : OnTime c s) :
    Granted c s.world := by
  cases c with
  | runTimer id =>
      intro userId hsome k hk hu
      obtain ⟨t, ht, hid, rfl, hdue, hempty⟩ := runTimer_some hsome
      cases hd : k.disconnectedAt with
      | none => exact absurd (connected_iff.mpr ⟨k, hk, hu, hd⟩) hempty
      | some d =>
          refine ⟨d, rfl, ?_⟩
          by_cases hle : d ≤ t.setAt
          · exact Nat.le_trans (Nat.add_le_add_right hle _) hdue
          · -- a socket that has come and gone since has been greeted, and the timer cleared
            have hgreeted := honTime t ht hid hdue k hk hu ⟨d, hd, Nat.not_le.mp hle⟩
            rcases h.absent t ht k hk hu with ⟨d', hd', hle'⟩ | hnot
            · rw [hd] at hd'
              cases hd'
              exact absurd hle' hle
            · exact absurd hgreeted hnot
  | _ => trivial

/-- **A grace period is granted** whenever a timer calls `cancelMatchService`, if
the timers are set and greeted on time. -/
theorem granted_of_onTime (hfresh : w.Fresh) {sched : List ι}
    (hm : (listeners happenings w).Meets exec
      (fun _ c s => OwnId c s.world ∧ OnTime c s) sched) :
    (listeners happenings w).Meets exec (fun _ c s => Granted c s.world) sched := by
  have hlic : (listeners happenings w).Licensed exec (fun i told => Due told (happenings i))
      (fun i told _ => Settled told (happenings i)) := fun i => licensed_program (happenings i)
  exact hlic.meets_of_inv (fun _ _ _ h hdue hm => GraceInv.after h hdue hm)
    (fun _ _ _ h _ hm => h.granted hm.2) (.start hfresh) hm

end Runs

namespace Sample

/-- The engine, where all letters are small. -/
@[reducible] def smallLetters : Host := { Host.exact .guestOnly with toLowerCase := id }

def finn : UserId := ⟨"finn", by decide⟩

def phone : Socket := ⟨⟨"phone", by decide⟩, finn, "cafe"⟩
def laptop : Socket := ⟨⟨"laptop", by decide⟩, finn, "street"⟩

inductive Visit
  | searches
  | arrives
  | departs
  | returns
  | waits
  | departsAgain
  | waitsAgain
  | runsOut
  deriving DecidableEq

/-- `finn` searches, and is there twice. -/
def visiting (first second : ℕ) : Visit → Happening
  | .searches => .matching finn { status := .searching }
  | .arrives => .connected phone
  | .departs => .disconnected phone
  | .returns => .connected laptop
  | .waits => .elapse first
  | .departsAgain => .disconnected laptop
  | .waitsAgain => .elapse second
  | .runsOut => .timer 0

/-- `finn` is back before the timer of the first departure is set. -/
def hurried : List Visit :=
  [.searches] ++ List.replicate 9 .arrives ++ List.replicate 7 .departs ++
    List.replicate 9 .returns ++ [.departs, .waits, .departsAgain, .waitsAgain]

/-- The timer runs out a second after the second departure. -/
theorem not_granted_hurried :
    ¬ (@listeners Visit smallLetters (visiting 11000 1000) {}).Meets exec
      (fun _ c s => Granted c s.world) (hurried ++ [.runsOut]) := by
  intro h
  have hlast := ((Conf.meets_append exec).mp h).2.1
  obtain ⟨d, hd, hle⟩ := hlast finn rfl ⟨laptop, some 11000⟩ List.mem_cons_self rfl
  cases hd
  revert hle
  decide

/-- `finn` departs, and does not come back. -/
theorem granted_unhurried :
    (@listeners Visit smallLetters (visiting 12000 0) {}).Meets exec
      (fun _ c s => Granted c s.world) ([.searches] ++ List.replicate 9 .arrives ++
        List.replicate 8 .departs ++ [.waits, .runsOut]) := by
  exact @granted_of_onTime Visit _ smallLetters (visiting 12000 0) {}
    ⟨rfl, fun _ => rfl, rfl, rfl⟩ _ (by decide +kernel)

end Sample

end Greetup.Presence
