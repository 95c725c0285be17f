import Greetup.Rooms.Cues

/-!
One batch of cues for a room, whoever asks for cues at the same time.

As long as no key of the room expires, the language model is asked only when
there is no batch, by one caller at a time; whatever is shown in the room is
from the same batch, so that a participant who asks on two devices is shown the
same cue on both.
-/

namespace Greetup.Rooms.Cues

open Interleaving
open Interleaving.Prog

variable {π ι : Type} {roomId : RoomId}

abbrev CueScene (ι π : Type) : Type := Scene ι (Cmd π) Cmd.Reply (World π)

abbrev CueTold (π : Type) : Type := Told (Cmd π) Cmd.Reply

def Cmd.asks (roomId : RoomId) : Cmd π → Bool
  | .generateRoomConversationCues roomId' => roomId' = roomId
  | _ => false

def Cmd.writesBatch (roomId : RoomId) : Cmd π → Bool
  | .writeCachedCueBatch roomId' _ => roomId' = roomId
  | _ => false

/-- The task is that the batch of the room expires, or the lock. -/
def Task.Expires (roomId : RoomId) (task : Task π) : Prop :=
  task = .expire (.batch roomId) ∨ task = .expire (.generating roomId)

/-! ### The lock and the batch of a room -/

/-- The room whose lock or batch the command is about. -/
def Cmd.room? : Cmd π → Option RoomId
  | .tryAcquireGenerationLock roomId | .releaseGenerationLock roomId | .readCachedCueBatch roomId
  | .writeCachedCueBatch roomId _ | .expire (.batch roomId) | .expire (.generating roomId) =>
      some roomId
  | _ => none

def Cmd.action : Cmd π → OnceAction (List ConversationCue)
  | .tryAcquireGenerationLock _ => .tryAcquire
  | .releaseGenerationLock _ => .release
  | .readCachedCueBatch _ => .read
  | .writeCachedCueBatch _ cues => if cues = [] then .spoil else .write cues
  | .expire (.batch _) | .expire (.generating _) => .spoil
  | _ => .rest

def action (roomId : RoomId) (c : Cmd π) : OnceAction (List ConversationCue) :=
  if c.room? = some roomId then c.action else .rest

def won : CueTold π → Bool
  | ⟨.tryAcquireGenerationLock _, acquired⟩ => acquired
  | _ => false

def seen : CueTold π → Option (List ConversationCue)
  | ⟨.readCachedCueBatch _, batch⟩ => nonempty batch
  | _ => none

/-! ### The statement -/

/-- The model is asked while there is no batch, by the one caller who has the
lock. -/
def AsksAlone [DecidableEq ι] (roomId : RoomId) (i : ι) (c : Cmd π) (s : CueScene ι π) : Prop :=
  c.asks roomId = true → nonempty (s.world.batch roomId) = none ∧
    Holding (action roomId) won (s.told i) ∧
      ∀ k, Holding (action roomId) won (s.told k) → i = k

/-- The cue is the first one that the participant may see, with some peer. -/
def FirstOf (batch : List ConversationCue) (userId : UserId) (cue : ConversationCue) : Prop :=
  ∃ peerUserId, peerUserId ≠ userId ∧
    (filterCuesForUser batch userId (canonicalParticipants userId peerUserId) []).head? = some cue

structure OneBatch [DecidableEq ι] (tasks : ι → Task π) (w₀ : World π) (roomId : RoomId)
    (sched : List ι) : Prop where
  asked : (begun tasks w₀).Meets exec (AsksAlone roomId) sched
  written : (((begun tasks w₀).runs exec sched).scene.trace.countP
    fun e => e.cmd.writesBatch roomId) ≤ 1
  shown : ∀ i userId gemini turns response,
    tasks i = .getNextConversationCue userId roomId gemini turns →
    ((begun tasks w₀).runs exec sched).threads i = .done (.answered (.ok response)) →
      response.hasMore = false ∧ ∀ cue, response.cue = some cue →
        ∃ batch, ((begun tasks w₀).runs exec sched).scene.world.batch roomId = some batch ∧
          FirstOf batch userId cue

/-! ### What the commands do to it -/

theorem nonempty_some {cues : List ConversationCue} (h : cues ≠ []) :
    nonempty (some cues) = some cues := by
  rw [nonempty, Option.filter_some, if_pos (decide_eq_true h)]

theorem eq_some_of_nonempty {batch : Option (List ConversationCue)} {cues : List ConversationCue}
    (h : nonempty batch = some cues) : batch = some cues :=
  (Option.filter_eq_some_iff.mp h).1

theorem action_of_eq {c : Cmd π} (h : c.room? = some roomId) : action roomId c = c.action :=
  if_pos h

theorem action_of_ne {c : Cmd π} (h : c.room? ≠ some roomId) : action roomId c = .rest :=
  if_neg h

theorem action_write {cues : List ConversationCue} (h : cues ≠ []) :
    (.writeCachedCueBatch roomId cues : Cmd π).action = .write cues :=
  if_neg h

/-- What is about another room leaves the lock and the batch of this one. -/
theorem frame {c : Cmd π} {w : World π} (h : c.room? ≠ some roomId) :
    (exec c w).2.generating roomId = w.generating roomId ∧
      (exec c w).2.batch roomId = w.batch roomId := by
  cases c with
  | tryAcquireGenerationLock roomId' | releaseGenerationLock roomId' =>
      exact ⟨Function.update_of_ne (fun heq => h (congrArg some heq.symm)) _ _, rfl⟩
  | writeCachedCueBatch roomId' cues =>
      exact ⟨rfl, Function.update_of_ne (fun heq => h (congrArg some heq.symm)) _ _⟩
  | expire key =>
      cases key with
      | shown => exact ⟨rfl, rfl⟩
      | batch roomId' =>
          exact ⟨rfl, Function.update_of_ne (fun heq => h (congrArg some heq.symm)) _ _⟩
      | generating roomId' =>
          exact ⟨Function.update_of_ne (fun heq => h (congrArg some heq.symm)) _ _, rfl⟩
  | _ => exact ⟨rfl, rfl⟩

theorem guarded (roomId : RoomId) : Guarded exec (fun w : World π => w.generating roomId)
    (fun w => nonempty (w.batch roomId)) (action roomId) won seen where
  lock_exec c w hspoil := by
    by_cases hroom : c.room? = some roomId
    · rw [action_of_eq hroom] at hspoil ⊢
      cases c with
      | tryAcquireGenerationLock | releaseGenerationLock =>
          cases hroom
          exact Function.update_self ..
      | readCachedCueBatch => rfl
      | writeCachedCueBatch roomId' cues =>
          rw [action_write fun hnil => hspoil (if_pos hnil)]
          rfl
      | expire key =>
          cases key with
          | shown => cases hroom
          | batch | generating => exact absurd rfl hspoil
      | _ => cases hroom
    · rw [action_of_ne hroom]
      exact (frame hroom).1
  cell_exec c w hspoil := by
    by_cases hroom : c.room? = some roomId
    · rw [action_of_eq hroom] at hspoil ⊢
      cases c with
      | tryAcquireGenerationLock | releaseGenerationLock | readCachedCueBatch => rfl
      | writeCachedCueBatch roomId' cues =>
          cases hroom
          have hne : cues ≠ [] := fun hnil => hspoil (if_pos hnil)
          rw [action_write hne]
          show nonempty (Function.update w.batch roomId (some cues) roomId) = some cues
          rw [Function.update_self, nonempty_some hne]
      | expire key =>
          cases key with
          | shown => cases hroom
          | batch | generating => exact absurd rfl hspoil
      | _ => cases hroom
    · rw [action_of_ne hroom]
      exact congrArg nonempty (frame hroom).2
  won_exec c w hact := by
    by_cases hroom : c.room? = some roomId
    · rw [action_of_eq hroom] at hact
      cases c with
      | tryAcquireGenerationLock =>
          cases hroom
          rfl
      | writeCachedCueBatch roomId' cues =>
          rw [Cmd.action] at hact
          split at hact <;> cases hact
      | expire key => cases key <;> cases hact
      | _ => cases hact
    · rw [action_of_ne hroom] at hact
      cases hact
  seen_exec c w hact := by
    by_cases hroom : c.room? = some roomId
    · rw [action_of_eq hroom] at hact
      cases c with
      | readCachedCueBatch =>
          cases hroom
          rfl
      | writeCachedCueBatch roomId' cues =>
          rw [Cmd.action] at hact
          split at hact <;> cases hact
      | expire key => cases key <;> cases hact
      | _ => cases hact
    · rw [action_of_ne hroom] at hact
      cases hact

/-! ### Licences -/

/-- A caller asks the model only when it may make the batch. -/
def Licence (roomId : RoomId) (h : List (CueTold π)) (c : Cmd π) : Prop :=
  MakesOnce (action roomId) won seen h c ∧
    (c.asks roomId = true → Checked (action roomId) won seen h)

/-- The batch was read or made. -/
def Has (roomId : RoomId) (h : List (CueTold π)) (batch : List ConversationCue) : Prop :=
  ∃ e ∈ h, action roomId e.1 = .read ∧ seen e = some batch ∨ action roomId e.1 = .write batch

theorem Has.mono {h h' : List (CueTold π)} {batch : List ConversationCue}
    (hb : Has roomId h batch) (hsub : h ⊆ h') : Has roomId h' batch := by
  obtain ⟨e, he, hbatch⟩ := hb
  exact ⟨e, hsub he, hbatch⟩

/-- What has nothing to do with the lock, the batch or the model. -/
def Cmd.Quiet : Cmd π → Prop
  | .findRoomById _ | .isUserRoomParticipant _ _ | .listActiveParticipantUserIds _
  | .isEitherBlocked _ _ | .listShownCueIds _ _ | .getSnapshot _ | .ensureProfileSnapshotCached _
  | .markCueShown _ _ _ | .change _ | .expire (.shown _ _) => True
  | _ => False

/-- What is about other rooms only. -/
def Cmd.Away (roomId : RoomId) (c : Cmd π) : Prop :=
  c.room? ≠ some roomId ∧ c.asks roomId = false

theorem Cmd.Quiet.away {c : Cmd π} (hc : c.Quiet) : c.Away roomId := by
  cases c with
  | expire key =>
      cases key with
      | shown => exact ⟨(Option.some_ne_none roomId).symm, rfl⟩
      | batch | generating => exact hc.elim
  | tryAcquireGenerationLock | generationLockExists | generateRoomConversationCues
  | writeCachedCueBatch | releaseGenerationLock | readCachedCueBatch => exact hc.elim
  | _ => exact ⟨(Option.some_ne_none roomId).symm, rfl⟩

theorem Cmd.Away.licence {h : List (CueTold π)} {c : Cmd π} (hc : c.Away roomId) :
    Licence roomId h c := by
  refine ⟨makesOnce_of_rest (action_of_ne hc.1), fun h => ?_⟩
  rw [hc.2] at h
  cases h

theorem licence_of_action {h : List (CueTold π)} {c : Cmd π} (hroom : c.room? = some roomId)
    (hasks : c.asks roomId = false) (hact : c.action = .read ∨ c.action = .tryAcquire) :
    Licence roomId h c := by
  refine ⟨?_, fun h => ?_⟩
  · rw [MakesOnce, action_of_eq hroom]
    rcases hact with hact | hact <;> rw [hact] <;> trivial
  · rw [hasks] at h
    cases h

section Service

variable {h : List (CueTold π)}

theorem licensed_read :
    (issue (.readCachedCueBatch roomId) : CueM π _).Licensed exec (Licence roomId)
      (fun h' batch => h' = ⟨.readCachedCueBatch roomId, batch⟩ :: h) h :=
  ⟨licence_of_action rfl rfl (.inl rfl), fun _ => rfl⟩

theorem has_of_read {batch : Option (List ConversationCue)} {cues : List ConversationCue}
    (hcues : nonempty batch = some cues) :
    Has roomId ((⟨.readCachedCueBatch roomId, batch⟩ : CueTold π) :: h) cues :=
  ⟨_, List.mem_cons_self, .inl ⟨action_of_eq rfl, hcues⟩⟩

theorem licensed_release (hh : Holding (action roomId) won h) {Q : List (CueTold π) → Unit → Prop}
    (hQ : Q (⟨.releaseGenerationLock roomId, ()⟩ :: h) ()) :
    (issue (.releaseGenerationLock roomId) : CueM π _).Licensed exec (Licence roomId) Q h := by
  refine ⟨⟨?_, fun hasks => by cases hasks⟩, fun _ => hQ⟩
  rw [MakesOnce, action_of_eq rfl]
  exact hh

theorem licensed_waitForCachedCueBatch (attempts : ℕ) :
    (waitForCachedCueBatch roomId attempts : CueM π _).Licensed exec (Licence roomId)
      (fun h' batch => ∀ cues, nonempty batch = some cues → Has roomId h' cues) h := by
  induction attempts generalizing h with
  | zero =>
      refine licensed_read.mono fun h' batch heq cues hcues => ?_
      rw [heq]
      exact has_of_read hcues
  | succ attempts ih =>
      refine licensed_read.bind fun h' cached heq => ?_
      subst heq
      cases hcached : nonempty cached with
      | some cues =>
          intro cues' hcues
          exact has_of_read hcues
      | none =>
          refine ⟨Cmd.Away.licence ⟨(Option.some_ne_none roomId).symm, rfl⟩, fun w => ?_⟩
          show Prog.Licensed exec _ _ (if (exec (.generationLockExists roomId) w).1 = true
            then _ else _) _
          split
          · exact ih
          · intro cues hcues
            rw [hcached] at hcues
            cases hcues

theorem licensed_generateAndCache (gemini : π → π → List ConversationCue)
    (profileA profileB : Option π) (hc : Checked (action roomId) won seen h) :
    (generateAndCacheRoomCueBatch roomId gemini profileA profileB).Licensed exec (Licence roomId)
      (fun h' cues => Holding (action roomId) won h' ∧ (cues ≠ [] → Has roomId h' cues)) h := by
  cases profileA with
  | none => exact ⟨hc.holding, fun hne => absurd rfl hne⟩
  | some profileA =>
      cases profileB with
      | none => exact ⟨hc.holding, fun hne => absurd rfl hne⟩
      | some profileB =>
          have hask : action roomId (.generateRoomConversationCues roomId : Cmd π) = .rest :=
            action_of_ne (by intro h; cases h)
          refine ⟨⟨makesOnce_of_rest hask, fun _ => hc⟩, fun w => ?_⟩
          have hc' := hc.cons (e := ⟨.generateRoomConversationCues roomId,
            (exec (.generateRoomConversationCues roomId) w).1⟩) hask
          show Prog.Licensed exec _ _ (if gemini profileA profileB ≠ [] then _ else _) _
          split
          · rename_i hne
            have hwrite : action roomId (.writeCachedCueBatch roomId (gemini profileA profileB) :
                Cmd π) = .write (gemini profileA profileB) :=
              (action_of_eq rfl).trans (action_write hne)
            refine ⟨⟨?_, fun hasks => by cases hasks⟩, fun w' => ⟨hc'.holding.cons ?_, fun _ => ?_⟩⟩
            · rw [MakesOnce, hwrite]
              exact hc'
            · rw [hwrite]
              exact fun h => by cases h
            · exact ⟨_, List.mem_cons_self, .inr hwrite⟩
          · rename_i hnil
            exact ⟨hc'.holding, fun hne => absurd hne hnil⟩

theorem licensed_generateUnderLock (gemini : π → π → List ConversationCue)
    (profileA profileB : Option π) (hh : Holding (action roomId) won h) :
    (generateUnderLock roomId gemini profileA profileB).Licensed exec (Licence roomId)
      (fun h' batch => ∀ cues, nonempty batch = some cues → Has roomId h' cues) h := by
  have hread : action roomId (.readCachedCueBatch roomId : Cmd π) = .read := action_of_eq rfl
  refine licensed_read.bind fun h' batch heq => ?_
  subst heq
  have hh' := hh.cons (e := ⟨.readCachedCueBatch roomId, batch⟩) (by
    rw [hread]
    exact fun h => by cases h)
  cases hbatch : nonempty batch with
  | some cues =>
      refine (licensed_release hh' (Q := fun h' _ => ∀ cues, nonempty batch = some cues →
        Has roomId h' cues) fun cues hcues => ?_).bind fun h' _ hhas => hhas
      exact (has_of_read hcues).mono (List.subset_cons_self _ _)
  | none =>
      have hseen : seen (⟨.readCachedCueBatch roomId, batch⟩ : CueTold π) = none := hbatch
      refine (licensed_generateAndCache gemini profileA profileB
        (checked_cons_of_none hh hread hseen)).bind fun h' cues hmade => ?_
      refine (licensed_release hmade.1 (Q := fun h' _ => ∀ cues', nonempty (some cues) =
        some cues' → Has roomId h' cues') fun cues' hcues => ?_).bind fun h' _ hhas => hhas
      have heq : cues = cues' := Option.some.inj (eq_some_of_nonempty hcues)
      subst heq
      have hne : cues ≠ [] := of_decide_eq_true (Option.filter_eq_some_iff.mp hcues).2
      exact (hmade.2 hne).mono (List.subset_cons_self _ _)

/-- Who has a batch in the end has read it or made it. -/
theorem licensed_resolveBatch (gemini : π → π → List ConversationCue)
    (profileA profileB : Option π) :
    (resolveBatch roomId gemini profileA profileB).Licensed exec (Licence roomId)
      (fun h' batch => ∀ cues, nonempty batch = some cues → Has roomId h' cues) h := by
  refine licensed_read.bind fun h' batch heq => ?_
  subst heq
  cases hbatch : nonempty batch with
  | some cues =>
      intro cues' hcues
      exact has_of_read hcues
  | none =>
      refine ⟨licence_of_action rfl rfl (.inr rfl), fun w => ?_⟩
      show Prog.Licensed exec _ _ (if (exec (.tryAcquireGenerationLock roomId) w).1 = true
        then _ else _) _
      split
      · rename_i hwon
        exact licensed_generateUnderLock gemini profileA profileB
          (holding_cons_of_won (action_of_eq rfl) hwon)
      · exact licensed_waitForCachedCueBatch _

end Service

/-! ### The service -/

/-- What a participant is shown, if anything, is the first of a batch with `T`. -/
def Shows (T : List (CueTold π) → List ConversationCue → Prop) (userId : UserId)
    (h : List (CueTold π)) : Except RoomActivityError ConversationCuesResponse → Prop
  | .error _ => True
  | .ok response => response.hasMore = false ∧ ∀ cue, response.cue = some cue →
      ∃ batch, T h batch ∧ FirstOf batch userId cue

theorem shows_empty {T : List (CueTold π) → List ConversationCue → Prop} {userId : UserId}
    {h : List (CueTold π)} : Shows T userId h (.ok emptyResponse) := by
  refine ⟨rfl, fun cue hcue => ?_⟩
  cases hcue

theorem uses_loadRawSnapshot (userId : UserId) :
    (loadRawSnapshot userId : CueM π _).Uses Cmd.Quiet := by
  refine ⟨trivial, fun raw => ?_⟩
  cases raw with
  | none => exact ⟨trivial, fun _ => ⟨trivial, fun _ => trivial⟩⟩
  | some raw => trivial

section Service

variable {K : List (CueTold π) → Cmd π → Prop} {T : List (CueTold π) → List ConversationCue → Prop}
  {h : List (CueTold π)} (hquiet : ∀ h c, c.Quiet → K h c)

include hquiet

theorem licensed_ensureDirectRoomActivityContext (userId : UserId) :
    (ensureDirectRoomActivityContext roomId userId).Licensed exec K
      (fun _ result => ∀ peerUserId, result = .ok peerUserId → peerUserId ≠ userId) h := by
  have hfails {h' : List (CueTold π)} (error : RoomActivityError) :
      (pure (.error error) : CueM π (Except RoomActivityError UserId)).Licensed exec K
        (fun _ result => ∀ peerUserId, result = .ok peerUserId → peerUserId ≠ userId) h' := by
    intro peerUserId hok
    cases hok
  refine ⟨hquiet _ _ trivial, fun w => ?_⟩
  cases (exec (.findRoomById roomId) w).1 with
  | none => exact hfails _
  | some room =>
      show Prog.Licensed exec _ _ (if !room.live then _ else _) _
      split
      · exact hfails _
      · show Prog.Licensed exec _ _ (if !room.direct then _ else _) _
        split
        · exact hfails _
        · refine ⟨hquiet _ _ trivial, fun w' => ?_⟩
          show Prog.Licensed exec _ _ (if (exec (.isUserRoomParticipant roomId userId) w').1 = true
            then _ else _) _
          split
          · refine ⟨hquiet _ _ trivial, fun w'' => ?_⟩
            cases hfind : (w''.elsewhere.active roomId).find? (· ≠ userId) with
            | none =>
                simp only [exec, Prog.bind, hfind]
                exact hfails _
            | some peerUserId =>
                simp only [exec, Prog.bind, hfind]
                intro peerUserId' hok
                cases hok
                have hne := List.find?_some hfind
                exact of_decide_eq_true hne
          · exact hfails _

omit hquiet

variable (hresolve : ∀ gemini profileA profileB h,
    (resolveBatch roomId gemini profileA profileB).Licensed exec K
      (fun h' batch => ∀ cues, nonempty batch = some cues → T h' cues) h)

include hresolve

theorem licensed_resolveCueCandidates (userId peerUserId : UserId)
    (gemini : π → π → List ConversationCue) (meRaw peerRaw : Option π) (shown : List String) :
    (resolveCueCandidates roomId userId peerUserId gemini meRaw peerRaw shown).Licensed exec K
      (fun h' cues => cues = [] ∨ ∃ batch, T h' batch ∧ cues =
        filterCuesForUser batch userId (canonicalParticipants userId peerUserId) shown) h := by
  unfold resolveCueCandidates
  dsimp only
  generalize (if (canonicalParticipants userId peerUserId).participantA = userId
    then (meRaw, peerRaw) else (peerRaw, meRaw)) = profiles
  refine (hresolve gemini profiles.1 profiles.2 h).bind fun h' batch hbatch => ?_
  cases hcues : nonempty batch with
  | none => exact .inl rfl
  | some cues => exact .inr ⟨cues, hbatch cues hcues, rfl⟩

variable (hT : ∀ h h' batch, h ⊆ h' → T h batch → T h' batch)

include hquiet hT

theorem licensed_nextCue {userId peerUserId : UserId} (hpeer : peerUserId ≠ userId)
    (gemini : π → π → List ConversationCue) (meRaw peerRaw : Option (Option π)) :
    (nextCue userId roomId peerUserId gemini [] meRaw peerRaw).Licensed exec K
      (fun h' response => Shows T userId h' (.ok response)) h := by
  cases meRaw with
  | none => exact shows_empty
  | some meRaw =>
      cases peerRaw with
      | none => exact shows_empty
      | some peerRaw =>
          refine (licensed_resolveCueCandidates hresolve userId peerUserId gemini meRaw
            peerRaw []).bind fun h' cues hcues => ?_
          cases cues with
          | nil => exact shows_empty
          | cons cue rest =>
              refine ⟨hquiet _ _ trivial, fun w => ⟨?_, fun cue' hcue' => ?_⟩⟩
              · exact decide_eq_false fun h => Nat.lt_irrefl _ h.2
              · cases hcue'
                rcases hcues with hnil | ⟨batch, hbatch, heq⟩
                · cases hnil
                · refine ⟨batch, hT _ _ _ (List.subset_cons_self _ _) hbatch, peerUserId, hpeer, ?_⟩
                  rw [← heq]
                  rfl

theorem licensed_getNextConversationCueService (userId : UserId)
    (gemini : π → π → List ConversationCue) (turns : List ℕ) :
    (getNextConversationCueService userId roomId gemini turns).Licensed exec K
      (Shows T userId) h := by
  refine (licensed_ensureDirectRoomActivityContext hquiet userId).bind fun h' context hpeer => ?_
  cases context with
  | error code => trivial
  | ok peerUserId =>
      refine ⟨hquiet _ _ trivial, fun w => ?_⟩
      show Prog.Licensed exec _ _ (if (exec (.isEitherBlocked userId peerUserId) w).1 = true
        then _ else _) _
      split
      · exact shows_empty
      · refine ⟨hquiet _ _ trivial, fun w' => ?_⟩
        show Prog.Licensed exec _ _ (if conversationCuesMaxPerCall ≤
          (w'.shown roomId userId).length then _ else _) _
        split
        · exact shows_empty
        · rename_i hlt
          have hshown : w'.shown roomId userId = [] :=
            List.eq_nil_of_length_eq_zero (Nat.lt_one_iff.mp (Nat.lt_of_not_le hlt))
          have huses : ∀ p ∈ [loadRawSnapshot userId, loadRawSnapshot peerUserId],
              (p : CueM π _).Uses Cmd.Quiet := by
            simp [uses_loadRawSnapshot]
          refine ((uses_together huses turns).licensed hquiet).bind fun h'' raws _ => ?_
          rcases raws with _ | ⟨meRaw, _ | ⟨peerRaw, _ | ⟨raw, raws⟩⟩⟩
          · exact shows_empty
          · exact shows_empty
          · refine Licensed.map ?_
            show Prog.Licensed exec K _ (nextCue userId roomId peerUserId gemini
              (w'.shown roomId userId) meRaw peerRaw) h''
            rw [hshown]
            exact licensed_nextCue hquiet hresolve hT (hpeer _ rfl) gemini meRaw peerRaw
          · exact shows_empty

end Service

/-! ### Rooms apart -/

section Apart

variable {roomId' : RoomId} (hne : roomId' ≠ roomId)

include hne

theorem away_of_room {c : Cmd π} (hroom : c.room? = some roomId') (hasks : c.asks roomId = false) :
    c.Away roomId :=
  ⟨fun heq => hne (Option.some.inj (hroom.symm.trans heq)), hasks⟩

theorem uses_read :
    (issue (.readCachedCueBatch roomId') : CueM π _).Uses (Cmd.Away roomId) :=
  ⟨away_of_room hne rfl rfl, fun _ => trivial⟩

theorem uses_waitForCachedCueBatch (attempts : ℕ) :
    (waitForCachedCueBatch roomId' attempts : CueM π _).Uses (Cmd.Away roomId) := by
  induction attempts with
  | zero => exact uses_read hne
  | succ attempts ih =>
      refine (uses_read hne).bind fun cached => ?_
      cases nonempty cached with
      | some cues => trivial
      | none =>
          refine ⟨⟨(Option.some_ne_none roomId).symm, rfl⟩, fun locked => ?_⟩
          cases locked with
          | true => exact ih
          | false => trivial

theorem uses_generateAndCacheRoomCueBatch (gemini : π → π → List ConversationCue)
    (profileA profileB : Option π) :
    (generateAndCacheRoomCueBatch roomId' gemini profileA profileB).Uses (Cmd.Away roomId) := by
  cases profileA with
  | none => trivial
  | some profileA =>
      cases profileB with
      | none => trivial
      | some profileB =>
          refine ⟨⟨(Option.some_ne_none roomId).symm, decide_eq_false hne⟩, fun _ => ?_⟩
          show Prog.Uses _ (if gemini profileA profileB ≠ [] then _ else _)
          split
          · exact ⟨away_of_room hne rfl rfl, fun _ => trivial⟩
          · trivial

theorem uses_generateUnderLock (gemini : π → π → List ConversationCue)
    (profileA profileB : Option π) :
    (generateUnderLock roomId' gemini profileA profileB).Uses (Cmd.Away roomId) := by
  have hrelease : (.releaseGenerationLock roomId' : Cmd π).Away roomId := away_of_room hne rfl rfl
  refine (uses_read hne).bind fun batch => ?_
  cases nonempty batch with
  | some cues => exact ⟨hrelease, fun _ => trivial⟩
  | none =>
      refine (uses_generateAndCacheRoomCueBatch hne gemini profileA profileB).bind fun _ => ?_
      exact ⟨hrelease, fun _ => trivial⟩

theorem uses_resolveBatch (gemini : π → π → List ConversationCue) (profileA profileB : Option π) :
    (resolveBatch roomId' gemini profileA profileB).Uses (Cmd.Away roomId) := by
  refine (uses_read hne).bind fun batch => ?_
  cases nonempty batch with
  | some cues => trivial
  | none =>
      refine ⟨away_of_room hne rfl rfl, fun acquired => ?_⟩
      cases acquired with
      | false => exact uses_waitForCachedCueBatch hne _
      | true => exact uses_generateUnderLock hne gemini profileA profileB

end Apart

/-! ### In a run with others -/

/-- What a task ends in, as far as the room is concerned. -/
def Ends (roomId : RoomId) (task : Task π) (h : List (CueTold π)) : Outcome → Prop
  | .answered result => ∀ userId gemini turns,
      task = .getNextConversationCue userId roomId gemini turns → Shows (Has roomId) userId h result
  | .finished => True

theorem licensed_program {task : Task π} (htask : ¬ task.Expires roomId) (h : List (CueTold π)) :
    task.program.Licensed exec (Licence roomId) (Ends roomId task) h := by
  cases task with
  | getNextConversationCue userId roomId' gemini turns =>
      by_cases hroom : roomId' = roomId
      · subst hroom
        refine Licensed.map ((licensed_getNextConversationCueService
          (fun _ _ hc => hc.away.licence) (fun _ _ _ _ => licensed_resolveBatch _ _ _)
          (fun _ _ _ hsub hhas => hhas.mono hsub) userId gemini turns).mono ?_)
        intro h' result hshows userId' gemini' turns' heq
        cases heq
        exact hshows
      · refine Licensed.map ((licensed_getNextConversationCueService (T := fun _ _ => True)
          (fun _ _ hc => hc.away.licence) (fun gemini profileA profileB h =>
            ((uses_resolveBatch hroom gemini profileA profileB).licensed
              fun _ _ hc => hc.licence).mono fun _ _ _ _ _ => trivial)
          (fun _ _ _ _ _ => trivial) userId gemini turns).mono ?_)
        intro h' result _ userId' gemini' turns' heq
        cases heq
        exact absurd rfl hroom
  | change f => exact ⟨Cmd.Quiet.away (c := .change f) trivial |>.licence, fun _ => trivial⟩
  | expire key =>
      refine ⟨?_, fun _ => trivial⟩
      cases key with
      | shown roomId' userId =>
          exact Cmd.Quiet.away (c := .expire (.shown roomId' userId)) trivial |>.licence
      | batch roomId' =>
          have hne : roomId' ≠ roomId := by
            rintro rfl
            exact htask (.inl rfl)
          exact (away_of_room hne rfl rfl).licence
      | generating roomId' =>
          have hne : roomId' ≠ roomId := by
            rintro rfl
            exact htask (.inr rfl)
          exact (away_of_room hne rfl rfl).licence

variable [DecidableEq ι]

/-- What is written has been made, and not lost. -/
theorem writes_of_writesBatch {c : Cmd π} (hact : action roomId c ≠ .spoil)
    (hwrites : c.writesBatch roomId = true) : (action roomId c).writes = true := by
  cases c with
  | writeCachedCueBatch roomId' cues =>
      have hroom : roomId' = roomId := of_decide_eq_true hwrites
      subst hroom
      rw [action_of_eq rfl] at hact ⊢
      rw [action_write fun hnil => hact (if_pos hnil)]
      rfl
  | _ => cases hwrites

theorem Licence.not_spoil {h : List (CueTold π)} {c : Cmd π} (hc : Licence roomId h c) :
    action roomId c ≠ .spoil := by
  intro hact
  have hmakes := hc.1
  rw [MakesOnce, hact] at hmakes
  exact hmakes

/-- One caller at a time has the lock of the room, and its batch is written by
who has it. -/
structure Kept (roomId : RoomId) (s : CueScene ι π) : Prop where
  once : s.Once (fun w => w.generating roomId) (fun w => nonempty (w.batch roomId)) (action roomId)
    won seen
  writes : ∀ e ∈ s.trace, e.cmd.writesBatch roomId = true → (action roomId e.cmd).writes = true

theorem Kept.after {s : CueScene ι π} {i : ι} {c : Cmd π} (h : Kept roomId s)
    (hlic : Licence roomId (s.told i) c) : Kept roomId (s.after exec i c) where
  once := h.once.after (guarded roomId) hlic.1
  writes e he := by
    rw [Scene.after_trace] at he
    rcases List.mem_cons.mp he with rfl | he
    · exact writes_of_writesBatch hlic.not_spoil
    · exact h.writes e he

theorem Kept.asksAlone {s : CueScene ι π} {i : ι} {c : Cmd π} (h : Kept roomId s)
    (hlic : Licence roomId (s.told i) c) : AsksAlone roomId i c s := by
  intro hasks
  have hchecked := hlic.2 hasks
  exact ⟨h.once.checked i hchecked, hchecked.holding,
    fun k hk => h.once.exclusive i k hchecked.holding hk⟩

theorem Kept.written {s : CueScene ι π} (h : Kept roomId s) :
    (s.trace.countP fun e => e.cmd.writesBatch roomId) ≤ 1 :=
  Nat.le_trans (List.countP_mono_left h.writes) h.once.made_le

/-- **One batch for a room.** As long as neither the batch of the room nor the
lock expires, the model is asked by one caller at a time and only when there is
no batch, a batch is written at most once, and every cue that a participant is
shown, on whatever device, is the first of that batch that they may see. -/
theorem oneBatch (tasks : ι → Task π) (w₀ : World π) (roomId : RoomId)
    (hlive : ∀ i, ¬ (tasks i).Expires roomId) (sched : List ι) :
    OneBatch tasks w₀ roomId sched := by
  have hlic : (begun tasks w₀).Licensed exec (fun _ => Licence roomId)
      (fun i => Ends roomId (tasks i)) := fun i => licensed_program (hlive i) []
  have hstart : Kept roomId (begun tasks w₀).scene := ⟨.start, by
    intro e he
    cases he⟩
  have hany := Conf.meets_of_forall exec (P := fun _ _ _ => True) (fun _ _ _ => trivial)
    (begun tasks w₀) sched
  have hkept : Kept roomId ((begun tasks w₀).runs exec sched).scene :=
    hlic.runs_inv (fun s i c hs hc _ => hs.after hc) hstart hany
  refine ⟨?_, hkept.written, fun i userId gemini turns response htask hdone => ?_⟩
  · exact hlic.meets_of_inv (fun s i c hs hc _ => hs.after hc)
      (fun s i c hs hc _ => hs.asksAlone hc) hstart hany
  · have hshows := (hlic.runs sched).result hdone userId gemini turns htask
    refine ⟨hshows.1, fun cue hcue => ?_⟩
    obtain ⟨batch, ⟨e, he, hbatch⟩, hfirst⟩ := hshows.2 cue hcue
    exact ⟨batch, eq_some_of_nonempty (hkept.once.found i e he batch hbatch), hfirst⟩

namespace Sample

def cue : ConversationCue := ⟨"shared_interest:music", .sharedInterest, 40, "Music", none, none⟩

def world : World Unit where
  elsewhere :=
    { rooms := fun _ => some ⟨true, true⟩
      active := fun _ => ["ada", "bo"]
      blocked := fun _ _ => false
      snapshots := fun _ => some (.json (some ()))
      profiles := fun _ => some (some ()) }
  shown := fun _ _ => []
  batch := fun _ => none
  generating := fun _ => false

/-- Both participants ask. -/
def tasks : Bool → Task Unit
  | false => .getNextConversationCue "ada" "room" (fun _ _ => [cue]) []
  | true => .getNextConversationCue "bo" "room" (fun _ _ => [cue]) []

/-- The second polls until the first has written the batch. -/
def sched : List Bool :=
  List.replicate 9 false ++ List.replicate 11 true ++ List.replicate 4 false ++
    List.replicate 10 true

theorem not_expires (i : Bool) : ¬ (tasks i).Expires "room" := by
  cases i <;> rintro (h | h) <;> cases h

end Sample

theorem oneBatch_bothAsk : OneBatch Sample.tasks Sample.world "room" Sample.sched :=
  oneBatch Sample.tasks Sample.world "room" Sample.not_expires Sample.sched

end Greetup.Rooms.Cues
