import Greetup.Sources.Manager
import Greetup.Interleaving.Accounts

/-!
The order in which a call goes about its adapters.

It leaves the adapter that it finds, waits until that has disconnected and
removes the entry of the session; it connects a new one, and writes the entry
once that is done. A call that has returned owes nothing.
-/

namespace Greetup.Sources

open Interleaving Prog

abbrev SourceTold (σ : Type) : Type := Told (SourceCmd σ) SourceCmd.Reply

/-! ### What a call has done -/

section Deeds

variable {σ : Type} (h : List (SourceTold σ)) (adapter : Adapter σ)

/-- It has found the adapter, and asked it to disconnect. -/
def Left : Prop :=
  (∃ sessionId, ⟨.leave sessionId, some adapter⟩ ∈ h) ∨
    ∃ existing, adapter ∈ existing ∧ ⟨.leaveAll, existing⟩ ∈ h

/-- The adapter need not wait to disconnect, or has waited. -/
def Closed : Prop := adapter.taps = false ∨ ⟨.closeSocket adapter, ()⟩ ∈ h

/-- It has removed the entry of the session. -/
def Dropped : Prop := ⟨.delete adapter.sessionId, ()⟩ ∈ h

def Made : Prop := ⟨.newAdapter adapter.sessionId adapter.sourceType, some adapter⟩ ∈ h

/-- It has made and connected the adapter. -/
def Linked : Prop := Made h adapter ∧ (adapter.taps = false ∨ ⟨.requestTap adapter, true⟩ ∈ h)

/-- It has entered the adapter into the registry. -/
def Entered : Prop := ⟨.set adapter, ()⟩ ∈ h

end Deeds

/-! ### The order of a call -/

section Licences

variable {σ : Type} {h h' : List (SourceTold σ)} {c : SourceCmd σ} {adapter : Adapter σ}

/-- What must have happened before a command is issued. -/
def Due (h : List (SourceTold σ)) : SourceCmd σ → Prop
  | .leave _ | .leaveAll => h = []
  | .closeSocket adapter => Left h adapter
  | .delete sessionId =>
      ∃ adapter, adapter.sessionId = sessionId ∧ Left h adapter ∧ Closed h adapter
  | .requestTap adapter => Made h adapter ∧ adapter.taps = true ∧
      ∀ r, ⟨.requestTap adapter, r⟩ ∉ h
  | .set adapter => Linked h adapter ∧ ¬ Entered h adapter
  | _ => True

/-- Whatever the call has found it has removed, and whatever it has connected it
has entered. -/
structure Completed (h : List (SourceTold σ)) : Prop where
  dropped : ∀ adapter, Left h adapter → Dropped h adapter
  entered : ∀ adapter, Linked h adapter → Entered h adapter

theorem Completed.nil : Completed ([] : List (SourceTold σ)) where
  dropped adapter hl := by simp [Left] at hl
  entered adapter hl := by cases hl.1

/-- The commands that remain of a detachment once it has found an adapter. -/
def Detaches : SourceCmd σ → Prop
  | .releaseTap _ | .closeSocket _ | .delete _ => True
  | _ => False

/-- The commands of a detachment. -/
def Leaves : SourceCmd σ → Prop
  | .leave _ | .leaveAll => True
  | c => Detaches c

/-- The commands that connect an adapter once it has been made. -/
def Connects : SourceCmd σ → Prop
  | .bindSocket _ | .requestTap _ => True
  | _ => False

theorem Left.mono (hsub : h ⊆ h') (hl : Left h adapter) : Left h' adapter := by
  rcases hl with ⟨sessionId, hl⟩ | ⟨existing, hmem, hl⟩
  · exact .inl ⟨sessionId, hsub hl⟩
  · exact .inr ⟨existing, hmem, hsub hl⟩

theorem Closed.mono (hsub : h ⊆ h') (hc : Closed h adapter) : Closed h' adapter := by
  rcases hc with hc | hc
  · exact .inl hc
  · exact .inr (hsub hc)

theorem Linked.mono (hsub : h ⊆ h') (hl : Linked h adapter) : Linked h' adapter :=
  ⟨hsub hl.1, hl.2.imp_right fun he => hsub he⟩

theorem Due.mono (hc : Detaches c) (hsub : h ⊆ h') (hdue : Due h c) : Due h' c := by
  cases c with
  | releaseTap => trivial
  | closeSocket adapter => exact Left.mono hsub hdue
  | delete sessionId =>
      obtain ⟨adapter, hid, hleft, hclosed⟩ := hdue
      exact ⟨adapter, hid, hleft.mono hsub, hclosed.mono hsub⟩
  | leave => cases hc
  | leaveAll => cases hc
  | newAdapter => cases hc
  | bindSocket => cases hc
  | requestTap => cases hc
  | set => cases hc

theorem detaches_finishDetach (existing : Adapter σ) : (finishDetach existing).Uses Detaches := by
  rw [finishDetach]
  split
  · exact ⟨trivial, fun _ => ⟨trivial, fun _ => ⟨trivial, fun _ => trivial⟩⟩⟩
  · exact ⟨trivial, fun _ => trivial⟩

/-- What a call has found is what it was told first. -/
theorem left_of_detaches {c : SourceCmd σ} {r : c.Reply} {l : List (SourceTold σ)}
    (hl : ∀ e ∈ l, Detaches e.1) (hleft : Left (l ++ [⟨c, r⟩]) adapter) :
    Left [⟨c, r⟩] adapter := by
  rcases hleft with ⟨sessionId, he⟩ | ⟨existing, hmem, he⟩
  · rcases List.mem_append.mp he with he | he
    · exact (hl _ he).elim
    · exact .inl ⟨sessionId, he⟩
  · rcases List.mem_append.mp he with he | he
    · exact (hl _ he).elim
    · exact .inr ⟨existing, hmem, he⟩

theorem Detaches.leaves (hc : Detaches c) : Leaves c := by
  cases c <;> trivial

/-- A detachment removes the entries of all that it has found. -/
structure HasLeft (h : List (SourceTold σ)) : Prop where
  leaves : ∀ e ∈ h, Leaves e.1
  dropped : ∀ adapter, Left h adapter → Dropped h adapter

theorem hasLeft_of_detaches {r : c.Reply} {l : List (SourceTold σ)} (hc : Leaves c)
    (hl : ∀ e ∈ l, Detaches e.1)
    (hdropped : ∀ adapter, Left [⟨c, r⟩] adapter → Dropped (l ++ [⟨c, r⟩]) adapter) :
    HasLeft (l ++ [⟨c, r⟩]) where
  leaves e he := by
    rcases List.mem_append.mp he with he | he
    · exact (hl e he).leaves
    · cases List.mem_singleton.mp he
      exact hc
  dropped adapter hleft := hdropped adapter (left_of_detaches hl hleft)

variable [DecidableEq σ]

theorem licensed_finishDetach (hleft : Left h adapter) :
    (finishDetach adapter).Licensed execSource Due (fun h' _ => Dropped h' adapter) h := by
  rw [finishDetach]
  cases htaps : adapter.taps with
  | true =>
      refine ⟨trivial, fun _ => ⟨hleft.mono (List.subset_cons_self _ _), fun _ =>
        ⟨⟨adapter, rfl, ?_, .inr List.mem_cons_self⟩, fun _ => List.mem_cons_self⟩⟩⟩
      exact (hleft.mono (List.subset_cons_self _ _)).mono (List.subset_cons_self _ _)
  | false => exact ⟨⟨adapter, rfl, hleft, .inl htaps⟩, fun _ => List.mem_cons_self⟩

theorem licensed_detach (sessionId : σ) :
    (detach sessionId).Licensed execSource Due (fun h' _ => HasLeft h') [] := by
  refine ⟨rfl, fun w => ?_⟩
  obtain ⟨found, hfound⟩ : ∃ found, found = (execSource (.leave sessionId) w).1 := ⟨_, rfl⟩
  rw [← hfound]
  have honly {adapter : Adapter σ}
      (hleft : Left [(⟨.leave sessionId, found⟩ : SourceTold σ)] adapter) :
    found = some adapter := by
    rcases hleft with ⟨sessionId, he⟩ | ⟨existing, -, he⟩
    · cases List.mem_singleton.mp he
      rfl
    · cases List.mem_singleton.mp he
  cases found with
  | none =>
      refine hasLeft_of_detaches (l := []) trivial (by simp) fun adapter hleft => ?_
      cases honly hleft
  | some existing =>
      have hleft : Left [(⟨.leave sessionId, some existing⟩ : SourceTold σ)] existing :=
        .inl ⟨sessionId, List.mem_singleton_self _⟩
      refine ((licensed_finishDetach hleft).uses (detaches_finishDetach existing)).mono ?_
      rintro h' _ ⟨⟨l, rfl, hl⟩, hdropped⟩
      refine hasLeft_of_detaches trivial hl fun adapter hleft => ?_
      cases honly hleft
      exact hdropped

theorem licensed_shutdown (turns : List ℕ) :
    (shutdown turns : SourceM σ Unit).Licensed execSource Due (fun h' _ => HasLeft h') [] := by
  refine ⟨rfl, fun w => ?_⟩
  obtain ⟨existing, hexisting⟩ : ∃ existing, existing = (execSource .leaveAll w).1 := ⟨_, rfl⟩
  rw [← hexisting]
  have hleft {adapter : Adapter σ} :
      Left [(⟨.leaveAll, existing⟩ : SourceTold σ)] adapter ↔ adapter ∈ existing := by
    constructor
    · rintro (⟨sessionId, he⟩ | ⟨all, hmem, he⟩)
      · cases List.mem_singleton.mp he
      · cases List.mem_singleton.mp he
        exact hmem
    · intro hmem
      exact .inr ⟨existing, hmem, List.mem_singleton_self _⟩
  have hall : AllLicensed execSource Due Detaches
      (existing.map fun adapter h => Dropped h adapter) (existing.map finishDetach)
      [(⟨.leaveAll, existing⟩ : SourceTold σ)] := by
    rw [AllLicensed, List.forall₂_map_left_iff, List.forall₂_map_right_iff, List.forall₂_same]
    intro adapter hmem
    exact ⟨detaches_finishDetach adapter, licensed_finishDetach (hleft.mpr hmem)⟩
  have hmono : ∀ q ∈ existing.map fun adapter (h : List (SourceTold σ)) => Dropped h adapter,
      ∀ h h', h ⊆ h' → q h → q h' := by
    intro q hq h h' hsub hqh
    obtain ⟨adapter, -, rfl⟩ := List.mem_map.mp hq
    exact hsub hqh
  have huses : (Prog.sideBySide turns (existing.map finishDetach)).Uses
      (Detaches : SourceCmd σ → Prop) := by
    refine uses_sideBySide (fun p hp => ?_) turns
    obtain ⟨adapter, -, rfl⟩ := List.mem_map.mp hp
    exact detaches_finishDetach adapter
  refine ((hall.sideBySide (fun _ _ _ => Due.mono) hmono turns).uses huses).mono ?_
  rintro h' _ ⟨⟨l, rfl, hl⟩, hdone⟩
  refine hasLeft_of_detaches trivial hl fun adapter hmem => ?_
  exact hdone _ (List.mem_map.mpr ⟨adapter, hleft.mp hmem, rfl⟩)

/-- The call has removed what it has found, and has connected the adapter that
it is to enter, if any. -/
structure Opened (h : List (SourceTold σ)) (r : Except SourceError (Adapter σ)) : Prop where
  dropped : ∀ adapter, Left h adapter → Dropped h adapter
  linked : ∀ adapter, Linked h adapter ↔ r = .ok adapter
  entered : ∀ adapter, ¬ Entered h adapter

theorem made_newAdapter {sessionId : σ} {sourceType : AudioSourceType} {w : SourceWorld σ}
    {found : Adapter σ} (hfound : some found =
        (execSource (.newAdapter sessionId sourceType) w).1) :
    found.sessionId = sessionId ∧ found.sourceType = sourceType := by
  cases sourceType with
  | mediasoup => cases hfound; exact ⟨rfl, rfl⟩
  | directUpload => cases hfound; exact ⟨rfl, rfl⟩
  | meetingBot =>
      simp only [execSource] at hfound
      split at hfound <;> cases hfound
      exact ⟨rfl, rfl⟩
  | browserSdk =>
      simp only [execSource] at hfound
      split at hfound <;> cases hfound
      exact ⟨rfl, rfl⟩

omit [DecidableEq σ] in
theorem eq_of_made_cons {a : Adapter σ} (hm : ⟨.newAdapter a.sessionId a.sourceType, some a⟩ ∈
    (⟨.newAdapter adapter.sessionId adapter.sourceType, some adapter⟩ : SourceTold σ) :: h) :
    a = adapter ∨ Made h a := by
  rcases List.mem_cons.mp hm with hm | hm
  · rw [Sigma.mk.injEq] at hm
    exact .inl (Option.some.inj (eq_of_heq hm.2))
  · exact .inr hm

theorem licensed_createAdapter (sessionId : σ) (sourceType : AudioSourceType) (hs : HasLeft h) :
    (createAdapter sessionId sourceType).Licensed execSource Due (fun h' r => Opened h' r) h := by
  have hmade (sessionId : σ) (sourceType : AudioSourceType) (r : Option (Adapter σ)) :
      (⟨.newAdapter sessionId sourceType, r⟩ : SourceTold σ) ∉ h := fun he => hs.leaves _ he
  have htap (adapter : Adapter σ) (r : Bool) : (⟨.requestTap adapter, r⟩ : SourceTold σ) ∉ h :=
    fun he => hs.leaves _ he
  have hset (adapter : Adapter σ) : (⟨.set adapter, ()⟩ : SourceTold σ) ∉ h :=
    fun he => hs.leaves _ he
  have hdropped := hs.dropped
  refine ⟨trivial, fun w => ?_⟩
  obtain ⟨found, hfound⟩ : ∃ found, found = (execSource (.newAdapter sessionId sourceType) w).1 :=
    ⟨_, rfl⟩
  rw [← hfound]
  simp only [Left, Dropped] at hdropped
  cases found with
  | none =>
      constructor <;> simp [Left, Dropped, Linked, Made, Entered, hmade, hset]
      simpa using hdropped
  | some adapter =>
      obtain ⟨rfl, rfl⟩ := made_newAdapter hfound
      show (if adapter.taps then connectTap adapter else .done (.ok adapter)).Licensed _ _ _ _
      have honly {a : Adapter σ} (hm : ⟨.newAdapter a.sessionId a.sourceType, some a⟩ ∈
          (⟨.newAdapter adapter.sessionId adapter.sourceType, some adapter⟩ : SourceTold σ) :: h) :
          a = adapter := (eq_of_made_cons hm).resolve_right (hmade _ _ _)
      have htaken {l : List (SourceTold σ)} {a : Adapter σ} (hl : ∀ e ∈ l, Connects e.1)
          (hm : Made (l ++ ⟨.newAdapter adapter.sessionId adapter.sourceType, some adapter⟩ :: h)
            a) : a = adapter := by
        rcases List.mem_append.mp hm with hm | hm
        · exact (hl _ hm).elim
        · exact honly hm
      cases htaps : adapter.taps with
      | false =>
          constructor
          · simpa [Left, Dropped] using hdropped
          · intro a
            constructor
            · rintro ⟨hm, -⟩
              rw [honly hm]
            · intro heq
              cases heq
              exact ⟨List.mem_cons_self, .inl htaps⟩
          · simp [Entered, hset]
      | true =>
          refine ⟨trivial, fun w => ?_⟩
          cases hbound : (execSource (.bindSocket adapter) w).1 with
          | false =>
              constructor
              · simpa [Left, Dropped] using hdropped
              · intro a
                constructor
                · rintro ⟨hm, hl⟩
                  cases htaken (l := [⟨.bindSocket adapter, false⟩]) (by simp [Connects]) hm
                  simp [htaps, htap] at hl
                · intro heq
                  cases heq
              · simp [Entered, hset]
          | true =>
              refine ⟨⟨by simp [Made], htaps, by simp [htap]⟩, fun w => ?_⟩
              cases hopened : (execSource (.requestTap adapter) w).1 with
              | false =>
                  constructor
                  · simpa [Left, Dropped] using hdropped
                  · intro a
                    constructor
                    · rintro ⟨hm, hl⟩
                      cases htaken
                        (l := [⟨.requestTap adapter, false⟩, ⟨.bindSocket adapter, true⟩])
                        (by simp [Connects]) hm
                      simp [htaps, htap] at hl
                    · intro heq
                      cases heq
                  · simp [Entered, hset]
              | true =>
                  constructor
                  · simpa [Left, Dropped] using hdropped
                  · intro a
                    constructor
                    · rintro ⟨hm, -⟩
                      rw [htaken (l := [⟨.requestTap adapter, true⟩, ⟨.bindSocket adapter, true⟩])
                        (by simp [Connects]) hm]
                    · intro heq
                      cases heq
                      exact ⟨by simp [Made], .inr List.mem_cons_self⟩
                  · simp [Entered, hset]

theorem licensed_attach (sessionId : σ) (sourceType : AudioSourceType) :
    (attach sessionId sourceType).Licensed execSource Due (fun h' _ => Completed h') [] := by
  refine (licensed_detach sessionId).bind fun h _ hs => ?_
  refine (licensed_createAdapter sessionId sourceType hs).bind fun h r ho => ?_
  cases r with
  | error e =>
      refine ⟨ho.dropped, fun adapter hl => ?_⟩
      cases (ho.linked adapter).mp hl
  | ok adapter =>
      refine ⟨⟨(ho.linked adapter).mpr rfl, ho.entered adapter⟩, fun w => ?_⟩
      constructor
      · intro a hleft
        have hleft : Left h a := by simpa [Left] using hleft
        exact List.mem_cons_of_mem _ (ho.dropped a hleft)
      · intro a hl
        have hl : Linked h a := by simpa [Linked, Made] using hl
        cases (ho.linked a).mp hl
        exact List.mem_cons_self

omit [DecidableEq σ] in
theorem HasLeft.completed (hs : HasLeft h) : Completed h where
  dropped := hs.dropped
  entered _ hl := (hs.leaves _ hl.1).elim

theorem licensed_call (call : SourceCall σ) :
    call.program.Licensed execSource Due (fun h' _ => Completed h') [] := by
  cases call with
  | attach sessionId sourceType => exact (licensed_attach sessionId sourceType).map
  | detach sessionId =>
      exact ((licensed_detach sessionId).mono fun _ _ hs => hs.completed).map
  | shutdown turns =>
      exact ((licensed_shutdown turns).mono fun _ _ hs => hs.completed).map

end Licences

end Greetup.Sources
