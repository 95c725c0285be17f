import Greetup.Sources.Attaching

/-!
One adapter for a session.

Between the step in which a call finds an adapter and the one in which it
removes the entry, and between connecting an adapter and writing the entry, the
registry may change. When it has not, an adapter that is connected is in the
registry or about to be, and one that is in the registry is connected or about
to be removed.
-/

namespace Greetup.Sources

open Interleaving Prog

abbrev SourceScene (ι σ : Type) : Type := Scene ι (SourceCmd σ) SourceCmd.Reply (SourceWorld σ)

abbrev SourceConf (ι σ : Type) : Type :=
  Conf ι (SourceCmd σ) SourceCmd.Reply (SourceOutcome σ) (SourceWorld σ)

/-! ### What is asked of the registry -/

section Terms

variable {ι σ : Type} [DecidableEq ι] [DecidableEq σ]

/-- The adapters that are connected are those in the registry. -/
def SourceWorld.Matched (w : SourceWorld σ) : Prop :=
  ∀ adapter, adapter ∈ w.connected ↔ w.adapters.lookup adapter.sessionId = some adapter

/-- After it the session has no entry. -/
def Clears (sessionId : σ) : SourceTold σ → Prop
  | ⟨.leave left, found⟩ => left = sessionId ∧ found = none
  | ⟨.leaveAll, existing⟩ => ∀ adapter ∈ existing, adapter.sessionId ≠ sessionId
  | ⟨.delete left, _⟩ => left = sessionId
  | _ => False

/-- The entry of the session has been removed, or found to be missing, and not
been written since. -/
def Detached (sessionId : σ) (s : SourceScene ι σ) : Prop :=
  ∃ newer e older, s.trace = newer ++ e :: older ∧ Clears sessionId ⟨e.cmd, e.reply⟩ ∧
    ∀ e ∈ newer, ∀ adapter, e.cmd = .set adapter → adapter.sessionId ≠ sessionId

/-- An adapter is entered for a session that has none, and the entry that a call
removes is the one that it has found. -/
def Exclusive (i : ι) (c : SourceCmd σ) (s : SourceScene ι σ) : Prop :=
  match c with
  | .set adapter => s.world.adapters.lookup adapter.sessionId = none
  | .delete sessionId =>
      ∀ adapter, s.world.adapters.lookup sessionId = some adapter → Left (s.told i) adapter
  | _ => True

/-- All calls are to be made, and no session has an adapter. -/
def sourceCalls (calls : ι → SourceCall σ) (wss : Bool) (binds opensTap : ℕ → Bool) :
    SourceConf ι σ where
  threads i := (calls i).program
  scene := ⟨{ adapters := ∅, connected := ∅, created := 0, wss, binds, opensTap }, []⟩

end Terms

/-! ### What one move does -/

section Moves

variable {ι σ : Type} [DecidableEq ι] [DecidableEq σ] {s : SourceScene ι σ} {i j : ι}
  {c : SourceCmd σ} {adapter : Adapter σ}

/-- The first command of a detachment. -/
def Finds : SourceCmd σ → Prop
  | .leave _ | .leaveAll => True
  | _ => False

omit [DecidableEq σ] in
theorem told_of_finds (hdue : Due (s.told i) c) (hc : Finds c) : s.told i = [] := by
  cases c <;> first | exact hdue | cases hc

omit [DecidableEq ι] in
/-- An adapter that need not open a tap is connected when it is made. -/
theorem execSource_newAdapter (sessionId : σ) (sourceType : AudioSourceType) (w : SourceWorld σ) :
    execSource (.newAdapter sessionId sourceType) w = (none, w) ∨
      ∃ made : Adapter σ, made = ⟨w.created, sessionId, sourceType⟩ ∧
        execSource (.newAdapter sessionId sourceType) w = (some made, { w with
          created := w.created + 1
          connected := if made.taps then w.connected else insert made w.connected }) := by
  cases sourceType with
  | mediasoup => exact .inr ⟨_, rfl, rfl⟩
  | directUpload => exact .inr ⟨_, rfl, rfl⟩
  | meetingBot =>
      by_cases hwss : w.wss = true
      · exact .inr ⟨_, rfl, by simp [execSource, hwss, SourceWorld.connect, Adapter.taps]⟩
      · exact .inl (by simp [execSource, hwss])
  | browserSdk =>
      by_cases hwss : w.wss = true
      · exact .inr ⟨_, rfl, by simp [execSource, hwss, SourceWorld.connect, Adapter.taps]⟩
      · exact .inl (by simp [execSource, hwss])

omit [DecidableEq ι] in
theorem created_le : s.world.created ≤ (s.after execSource i c).world.created := by
  rw [Scene.after_world]
  cases c with
  | newAdapter sessionId sourceType =>
      rcases execSource_newAdapter sessionId sourceType s.world with heq | ⟨made, -, heq⟩
      · rw [heq]
      · rw [heq]
        exact Nat.le_succ _
  | requestTap adapter =>
      simp only [execSource]
      split <;> exact Nat.le_refl _
  | _ => exact Nat.le_refl _

theorem told_step {e : SourceTold σ} (he : e ∈ (s.after execSource i c).told j) :
    e ∈ s.told j ∨ i = j ∧ e.1 = c := by
  rcases (Scene.mem_told_after execSource).mp he with ⟨hij, heq⟩ | hold
  · exact .inr ⟨hij, by rw [heq]⟩
  · exact .inl hold

theorem made_step (h : Made ((s.after execSource i c).told j) adapter) :
    Made (s.told j) adapter ∨ i = j ∧ adapter.id = s.world.created ∧
      (s.after execSource i c).world.created = s.world.created + 1 ∧
      (adapter.taps = false → adapter ∈ (s.after execSource i c).world.connected) := by
  rcases (Scene.mem_told_after execSource).mp h with ⟨hij, he⟩ | h
  · refine .inr ⟨hij, ?_⟩
    cases c with
    | newAdapter sessionId sourceType =>
        rcases execSource_newAdapter sessionId sourceType s.world with heq | ⟨made, hmade, heq⟩
        · rw [heq] at he
          simp at he
        · rw [heq, Sigma.mk.injEq] at he
          cases Option.some.inj (eq_of_heq he.2)
          rw [Scene.after_world, heq]
          refine ⟨by rw [hmade], rfl, fun htaps => ?_⟩
          simp [htaps]
    | _ => simp at he
  · exact .inl h

theorem left_step (h : Left ((s.after execSource i c).told j) adapter) :
    Left (s.told j) adapter ∨ i = j ∧ Finds c ∧
      (∃ sessionId, s.world.adapters.lookup sessionId = some adapter) ∧
      (adapter ∈ (s.after execSource i c).world.connected → adapter.taps = true) := by
  have hstays {leaving : List (Adapter σ)} (hmem : adapter ∈ leaving)
      (h : adapter ∈ (s.world.letGo leaving).connected) : adapter.taps = true :=
    (Finset.mem_filter.mp h).2.resolve_right fun hnot => hnot hmem
  rcases h with ⟨sessionId, h⟩ | ⟨existing, hmem, h⟩
  · rcases (Scene.mem_told_after execSource).mp h with ⟨hij, he⟩ | h
    · cases c with
      | leave sid =>
          rw [Sigma.mk.injEq] at he
          obtain ⟨heq, hfound⟩ := he
          cases heq
          have hfound : s.world.adapters.lookup sessionId = some adapter := (eq_of_heq hfound).symm
          refine .inr ⟨hij, trivial, ⟨sessionId, hfound⟩, fun hconn => ?_⟩
          exact hstays (Option.mem_toList.mpr hfound) hconn
      | _ => simp at he
    · exact .inl (.inl ⟨sessionId, h⟩)
  · rcases (Scene.mem_told_after execSource).mp h with ⟨hij, he⟩ | h
    · cases c with
      | leaveAll =>
          rw [Sigma.mk.injEq] at he
          cases eq_of_heq he.2
          refine .inr ⟨hij, trivial, ?_, hstays hmem⟩
          obtain ⟨entry, hentry, rfl⟩ := List.mem_map.mp hmem
          exact ⟨entry.1, AList.mem_lookup_iff.mpr hentry⟩
      | _ => simp at he
    · exact .inl (.inr ⟨existing, hmem, h⟩)

theorem gone_step (hdue : Due (s.told i) c) (h : adapter ∈ s.world.connected)
    (h' : adapter ∉ (s.after execSource i c).world.connected) :
    Left ((s.after execSource i c).told i) adapter := by
  rw [Scene.after_world] at h'
  rw [Scene.told_after_self]
  cases c with
  | leave sessionId =>
      simp only [execSource, SourceWorld.letGo, Finset.mem_filter, h, true_and, not_or,
        not_not, Option.mem_toList] at h'
      refine .inl ⟨sessionId, ?_⟩
      rw [← (show s.world.adapters.lookup sessionId = some adapter from h'.2)]
      exact List.mem_cons_self
  | leaveAll =>
      simp only [execSource, SourceWorld.letGo, Finset.mem_filter, h, true_and, not_or,
        not_not] at h'
      exact .inr ⟨_, h'.2, List.mem_cons_self⟩
  | closeSocket closed =>
      by_cases heq : adapter = closed
      · exact Left.mono (List.subset_cons_self _ _) (heq ▸ hdue)
      · exact absurd (Finset.mem_erase.mpr ⟨heq, h⟩) h'
  | newAdapter sessionId sourceType =>
      rcases execSource_newAdapter sessionId sourceType s.world with heq | ⟨made, hmade, heq⟩
      · rw [heq] at h'
        exact absurd h h'
      · rw [heq] at h'
        cases htaps : made.taps <;> simp [htaps, h] at h'
  | requestTap opened =>
      simp only [execSource] at h'
      split at h'
      · exact absurd (Finset.mem_insert_of_mem h) h'
      · exact absurd h h'
  | releaseTap => exact absurd h h'
  | delete => exact absurd h h'
  | bindSocket => exact absurd h h'
  | set => exact absurd h h'

/-- The commands that write the registry. -/
def Writes : SourceCmd σ → Prop
  | .delete _ | .set _ => True
  | _ => False

omit [DecidableEq ι] in
theorem adapters_after (hc : ¬ Writes c) :
    (s.after execSource i c).world.adapters = s.world.adapters := by
  rw [Scene.after_world]
  cases c with
  | newAdapter sessionId sourceType =>
      rcases execSource_newAdapter sessionId sourceType s.world with
          heq | ⟨made, -, heq⟩ <;> rw [heq]
  | requestTap adapter =>
      simp only [execSource]
      split <;> rfl
  | delete => exact absurd trivial hc
  | set => exact absurd trivial hc
  | _ => rfl

omit [DecidableEq ι] in
theorem lookup_step {sessionId : σ}
    (h : (s.after execSource i c).world.adapters.lookup sessionId = some adapter) :
    s.world.adapters.lookup sessionId = some adapter ∨
      c = .set adapter ∧ adapter.sessionId = sessionId := by
  cases c with
  | delete removed =>
      by_cases heq : sessionId = removed
      · cases heq
        simp [execSource, AList.lookup_erase] at h
      · exact .inl (by simpa [execSource, AList.lookup_erase_ne heq] using h)
  | set entered =>
      by_cases heq : sessionId = entered.sessionId
      · cases heq
        have hsame : entered = adapter := by simpa [execSource] using h
        exact .inr ⟨by rw [hsame], by rw [hsame]⟩
      · exact .inl (by simpa [execSource, AList.lookup_insert_ne heq] using h)
  | _ => exact .inl (by rwa [adapters_after (by simp [Writes])] at h)

theorem lookup_kept {sessionId : σ} (hx : Exclusive i c s)
    (h : s.world.adapters.lookup sessionId = some adapter) :
    (s.after execSource i c).world.adapters.lookup sessionId = some adapter ∨
      c = .delete sessionId := by
  cases c with
  | delete removed =>
      by_cases heq : sessionId = removed
      · exact .inr (by rw [heq])
      · exact .inl (by simpa [execSource, AList.lookup_erase_ne heq] using h)
  | set entered =>
      have heq : sessionId ≠ entered.sessionId := by
        rintro rfl
        cases h.symm.trans hx
      exact .inl (by simpa [execSource, AList.lookup_insert_ne heq] using h)
  | _ => exact .inl (by rwa [adapters_after (by simp [Writes])])

end Moves

/-! ### The invariant -/

section Invariant

variable {ι σ : Type} [DecidableEq ι] [DecidableEq σ] {s : SourceScene ι σ} {i : ι}
  {c : SourceCmd σ}

/-- What the replies say of the adapters, however the calls interleave. -/
structure Traced (s : SourceScene ι σ) : Prop where
  fresh : ∀ i adapter, Made (s.told i) adapter → adapter.id < s.world.created
  maker : ∀ i j adapter, Made (s.told i) adapter → Made (s.told j) adapter → i = j
  tapped : ∀ i adapter r, ⟨.requestTap adapter, r⟩ ∈ s.told i → Made (s.told i) adapter
  linked : ∀ i adapter, Entered (s.told i) adapter → Linked (s.told i) adapter

theorem Traced.after (h : Traced s) (hdue : Due (s.told i) c) :
    Traced (s.after execSource i c) where
  fresh j adapter hm := by
    rcases made_step hm with hm | ⟨-, hid, hcreated, -⟩
    · exact Nat.lt_of_lt_of_le (h.fresh j adapter hm) created_le
    · omega
  maker j k adapter hj hk := by
    rcases made_step hj with hj | ⟨rfl, hid, -⟩
    · rcases made_step hk with hk | ⟨rfl, hid, -⟩
      · exact h.maker j k adapter hj hk
      · have := h.fresh j adapter hj
        omega
    · rcases made_step hk with hk | ⟨rfl, -, -⟩
      · have := h.fresh k adapter hk
        omega
      · rfl
  tapped j adapter r he := by
    refine Scene.told_subset_after execSource ?_
    rcases told_step he with he | ⟨rfl, rfl⟩
    · exact h.tapped j adapter r he
    · exact hdue.1
  linked j adapter he := by
    refine Linked.mono (Scene.told_subset_after execSource) ?_
    rcases told_step he with he | ⟨rfl, rfl⟩
    · exact h.linked j adapter he
    · exact hdue.1

omit [DecidableEq σ] in
/-- Only the call that has made an adapter enters it. -/
theorem Traced.entered_of_made (h : Traced s) {j : ι} {adapter : Adapter σ}
    (hm : Made (s.told i) adapter) (he : Entered (s.told j) adapter) :
    Entered (s.told i) adapter := by
  cases h.maker i j adapter hm (h.linked j adapter he).1
  exact he

theorem Traced.connected_step (ht : Traced s) (hdue : Due (s.told i) c) {adapter : Adapter σ}
    (h : adapter ∈ (s.after execSource i c).world.connected) :
    adapter ∈ s.world.connected ∨
      Linked ((s.after execSource i c).told i) adapter ∧ ¬ Linked (s.told i) adapter := by
  rw [Scene.after_world] at h
  cases c with
  | leave sessionId => exact .inl (Finset.mem_filter.mp h).1
  | leaveAll => exact .inl (Finset.mem_filter.mp h).1
  | releaseTap => exact .inl h
  | closeSocket => exact .inl (Finset.mem_of_mem_erase h)
  | delete => exact .inl h
  | newAdapter sessionId sourceType =>
      rcases execSource_newAdapter sessionId sourceType s.world with heq | ⟨made, hmade, heq⟩
      · rw [heq] at h
        exact .inl h
      · cases htaps : made.taps with
        | true =>
            simp only [heq, htaps, if_true] at h
            exact .inl h
        | false =>
            simp only [heq, htaps, Bool.false_eq_true, if_false, Finset.mem_insert] at h
            rcases h with rfl | h
            · refine .inr ⟨⟨?_, .inl htaps⟩, fun hl => ?_⟩
              · rw [Scene.told_after_self, heq, hmade]
                exact List.mem_cons_self
              · have hlt := ht.fresh i adapter hl.1
                rw [hmade] at hlt
                exact Nat.lt_irrefl _ hlt
            · exact .inl h
  | bindSocket => exact .inl h
  | requestTap opened =>
      simp only [execSource] at h
      split at h
      case isTrue hopens =>
        rcases Finset.mem_insert.mp h with rfl | h
        · obtain ⟨hmade, htaps, hfirst⟩ := hdue
          refine .inr ⟨⟨Scene.told_subset_after execSource hmade, .inr ?_⟩, fun hl => ?_⟩
          · rw [Scene.told_after_self]
            simp [execSource, hopens]
          · rcases hl.2 with hno | hopened
            · rw [htaps] at hno
              cases hno
            · exact hfirst true hopened
        · exact .inl h
      case isFalse => exact .inl h
  | set => exact .inl h

theorem Traced.linked_step (ht : Traced s) (hdue : Due (s.told i) c) {j : ι} {adapter : Adapter σ}
    (h : Linked ((s.after execSource i c).told j) adapter) :
    Linked (s.told j) adapter ∨ adapter ∈ (s.after execSource i c).world.connected := by
  obtain ⟨hm, htap⟩ := h
  rcases made_step hm with hm | ⟨rfl, hid, -, hconn⟩
  · rcases htap with hno | htap
    · exact .inl ⟨hm, .inl hno⟩
    · rcases (Scene.mem_told_after execSource).mp htap with ⟨rfl, heq⟩ | htap
      · rw [Sigma.mk.injEq] at heq
        obtain ⟨rfl, hopens⟩ := heq
        have hopens : s.world.opensTap adapter.id = true := (eq_of_heq hopens).symm
        refine .inr ?_
        simp [execSource, hopens, SourceWorld.connect]
      · exact .inl ⟨hm, .inr htap⟩
  · rcases htap with hno | htap
    · exact .inr (hconn hno)
    · -- an adapter that has just been made has not opened a tap
      have hmade : Made (s.told i) adapter := by
        rcases told_step htap with htap | ⟨-, rfl⟩
        · exact ht.tapped i adapter true htap
        · exact hdue.1
      have := ht.fresh i adapter hmade
      omega

/-- Exactly the adapters that are connected are in the registry, but for what
the calls in progress still have to do. -/
structure Custody (s : SourceScene ι σ) : Prop extends Traced s where
  left : ∀ i adapter, Left (s.told i) adapter → ∃ j, Entered (s.told j) adapter
  listed : ∀ sessionId adapter, s.world.adapters.lookup sessionId = some adapter →
    adapter.sessionId = sessionId ∧ ∃ j, Entered (s.told j) adapter
  single : ∀ i adapter other, Left (s.told i) adapter → Left (s.told i) other →
    adapter.sessionId = other.sessionId → adapter = other
  pending : ∀ i adapter, Linked (s.told i) adapter → ¬ Entered (s.told i) adapter →
    adapter ∈ s.world.connected
  held : ∀ adapter ∈ s.world.connected, s.world.adapters.lookup adapter.sessionId = some adapter ∨
    ∃ i, Linked (s.told i) adapter ∧ ¬ Entered (s.told i) adapter
  stored : ∀ adapter, s.world.adapters.lookup adapter.sessionId = some adapter →
    adapter ∈ s.world.connected ∨ ∃ i, Left (s.told i) adapter
  closed : ∀ i adapter, Left (s.told i) adapter → Closed (s.told i) adapter →
    adapter ∉ s.world.connected
  dropped : ∀ i adapter, Left (s.told i) adapter → Dropped (s.told i) adapter →
    s.world.adapters.lookup adapter.sessionId ≠ some adapter
  empty : ∀ sessionId, Detached sessionId s → s.world.adapters.lookup sessionId = none

namespace Custody

theorem found (h : Custody s) {j : ι} {adapter : Adapter σ}
    (hl : Left ((s.after execSource i c).told j) adapter) : Left (s.told j) adapter ∨
      i = j ∧ Finds c ∧ s.world.adapters.lookup adapter.sessionId = some adapter ∧
        (adapter ∈ (s.after execSource i c).world.connected → adapter.taps = true) := by
  refine (left_step hl).imp_right ?_
  rintro ⟨hij, hc, ⟨sessionId, hfound⟩, htaps⟩
  obtain ⟨rfl, -⟩ := h.listed sessionId adapter hfound
  exact ⟨hij, hc, hfound, htaps⟩

theorem left_after (h : Custody s) (j : ι) (adapter : Adapter σ)
    (hl : Left ((s.after execSource i c).told j) adapter) :
    ∃ k, Entered ((s.after execSource i c).told k) adapter := by
  obtain ⟨k, hk⟩ : ∃ k, Entered (s.told k) adapter := by
    rcases h.found hl with hl | ⟨-, -, hfound, -⟩
    · exact h.left j adapter hl
    · exact (h.listed _ adapter hfound).2
  exact ⟨k, Scene.told_subset_after execSource hk⟩

theorem listed_after (h : Custody s) (sessionId : σ) (adapter : Adapter σ)
    (hl : (s.after execSource i c).world.adapters.lookup sessionId = some adapter) :
    adapter.sessionId = sessionId ∧ ∃ j, Entered ((s.after execSource i c).told j) adapter := by
  rcases lookup_step hl with hl | ⟨rfl, hid⟩
  · obtain ⟨hid, j, hj⟩ := h.listed sessionId adapter hl
    exact ⟨hid, j, Scene.told_subset_after execSource hj⟩
  · refine ⟨hid, i, ?_⟩
    rw [Entered, Scene.told_after_self]
    exact List.mem_cons_self

theorem single_after (h : Custody s) (hdue : Due (s.told i) c) (j : ι) (adapter other : Adapter σ)
    (hl : Left ((s.after execSource i c).told j) adapter)
    (ho : Left ((s.after execSource i c).told j) other)
    (hid : adapter.sessionId = other.sessionId) : adapter = other := by
  have hnone {a : Adapter σ} (hij : i = j) (hc : Finds c) : ¬ Left (s.told j) a := by
    cases hij
    rw [told_of_finds hdue hc]
    simp [Left]
  rcases h.found hl with hl | ⟨hij, hc, hfound, -⟩
  · rcases h.found ho with ho | ⟨hij, hc, -, -⟩
    · exact h.single j adapter other hl ho hid
    · exact absurd hl (hnone hij hc)
  · rcases h.found ho with ho | ⟨-, -, hother, -⟩
    · exact absurd ho (hnone hij hc)
    · rw [hid, hother] at hfound
      exact (Option.some.inj hfound).symm

theorem dropped_after (h : Custody s) (hdue : Due (s.told i) c) (j : ι) (adapter : Adapter σ)
    (hleft : Left ((s.after execSource i c).told j) adapter)
    (hd : Dropped ((s.after execSource i c).told j) adapter) :
    (s.after execSource i c).world.adapters.lookup adapter.sessionId ≠ some adapter := by
  intro hlookup
  rcases h.found hleft with hl | ⟨rfl, hc, -, -⟩
  · rcases lookup_step hlookup with hlookup' | ⟨rfl, -⟩
    · rcases told_step hd with hd | ⟨rfl, rfl⟩
      · exact h.dropped j adapter hl hd hlookup'
      · simp [execSource, AList.lookup_erase] at hlookup
    · -- an adapter that was found is in the registry already
      obtain ⟨k, hk⟩ := h.left j adapter hl
      exact hdue.2 (h.entered_of_made hdue.1.1 hk)
  · rcases told_step hd with hd | ⟨-, rfl⟩
    · rw [told_of_finds hdue hc] at hd
      cases hd
    · cases hc

theorem stored_after (h : Custody s) (hdue : Due (s.told i) c) (adapter : Adapter σ)
    (hl : (s.after execSource i c).world.adapters.lookup adapter.sessionId = some adapter) :
    adapter ∈ (s.after execSource i c).world.connected ∨
      ∃ j, Left ((s.after execSource i c).told j) adapter := by
  have hconnected : adapter ∈ s.world.connected ∨ ∃ j, Left (s.told j) adapter := by
    rcases lookup_step hl with hl | ⟨rfl, -⟩
    · exact h.stored adapter hl
    · exact .inl (h.pending i adapter hdue.1 hdue.2)
  rcases hconnected with hconnected | ⟨j, hj⟩
  · by_cases hstays : adapter ∈ (s.after execSource i c).world.connected
    · exact .inl hstays
    · exact .inr ⟨i, gone_step hdue hconnected hstays⟩
  · exact .inr ⟨j, hj.mono (Scene.told_subset_after execSource)⟩

theorem pending_after (h : Custody s) (hdue : Due (s.told i) c) (j : ι) (adapter : Adapter σ)
    (hl : Linked ((s.after execSource i c).told j) adapter)
    (he : ¬ Entered ((s.after execSource i c).told j) adapter) :
    adapter ∈ (s.after execSource i c).world.connected := by
  rcases h.linked_step hdue hl with hlinked | hnew
  · have hconn := h.pending j adapter hlinked
      fun hold => he (Scene.told_subset_after execSource hold)
    by_contra hgone
    obtain ⟨k, hk⟩ := h.left_after i adapter (gone_step hdue hconn hgone)
    exact he ((h.toTraced.after hdue).entered_of_made hl.1 hk)
  · exact hnew

theorem held_after (h : Custody s) (hdue : Due (s.told i) c) (hx : Exclusive i c s)
    (adapter : Adapter σ) (hc : adapter ∈ (s.after execSource i c).world.connected) :
    (s.after execSource i c).world.adapters.lookup adapter.sessionId = some adapter ∨
      ∃ j, Linked ((s.after execSource i c).told j) adapter ∧
        ¬ Entered ((s.after execSource i c).told j) adapter := by
  rcases h.connected_step hdue hc with hconn | ⟨hnew, hold⟩
  · rcases h.held adapter hconn with hlookup | ⟨j, hlinked, hentered⟩
    · rcases lookup_kept hx hlookup with hkept | rfl
      · exact .inl hkept
      · -- the entry is removed by a call that has disconnected the adapter
        obtain ⟨other, hid, hleft, hclosed⟩ := hdue
        cases h.single i adapter other (hx adapter hlookup) hleft hid.symm
        exact absurd hconn (h.closed i adapter hleft hclosed)
    · by_cases he : Entered ((s.after execSource i c).told j) adapter
      · rcases told_step he with he | ⟨rfl, rfl⟩
        · exact absurd he hentered
        · exact .inl (AList.lookup_insert _)
      · exact .inr ⟨j, hlinked.mono (Scene.told_subset_after execSource), he⟩
  · refine .inr ⟨i, hnew, fun he => hold ?_⟩
    rcases told_step he with he | ⟨-, rfl⟩
    · exact h.linked i adapter he
    · exact hdue.1

theorem closed_after (h : Custody s) (hdue : Due (s.told i) c) (j : ι) (adapter : Adapter σ)
    (hl : Left ((s.after execSource i c).told j) adapter)
    (hclosed : Closed ((s.after execSource i c).told j) adapter) :
    adapter ∉ (s.after execSource i c).world.connected := by
  intro hc
  rcases h.connected_step hdue hc with hconn | ⟨hnew, hold⟩
  · rcases h.found hl with hleft | ⟨rfl, hfinds, -, htaps⟩
    · rcases hclosed with hno | hsocket
      · exact h.closed j adapter hleft (.inl hno) hconn
      · rcases told_step hsocket with hsocket | ⟨rfl, rfl⟩
        · exact h.closed j adapter hleft (.inr hsocket) hconn
        · exact Finset.notMem_erase _ _ hc
    · rcases hclosed with hno | hsocket
      · rw [htaps hc] at hno
        cases hno
      · rcases told_step hsocket with hsocket | ⟨-, rfl⟩
        · rw [told_of_finds hdue hfinds] at hsocket
          cases hsocket
        · cases hfinds
  · obtain ⟨k, hk⟩ := h.left_after j adapter hl
    have he := (h.toTraced.after hdue).entered_of_made hnew.1 hk
    rcases told_step he with he | ⟨-, rfl⟩
    · exact hold (h.linked i adapter he)
    · exact hold hdue.1

omit [DecidableEq ι] in
theorem detached_step {sessionId : σ} (hd : Detached sessionId (s.after execSource i c)) :
    Clears sessionId ⟨c, (execSource c s.world).1⟩ ∨
      Detached sessionId s ∧ ∀ adapter, c = .set adapter → adapter.sessionId ≠ sessionId := by
  obtain ⟨newer, e, older, htrace, hclears, hlater⟩ := hd
  rcases List.cons_eq_append_iff.mp htrace with ⟨rfl, heq⟩ | ⟨newer, rfl, heq⟩
  · obtain ⟨rfl, -⟩ := List.cons_eq_cons.mp heq
    exact .inl hclears
  · obtain ⟨hfirst, hlater⟩ := List.forall_mem_cons.mp hlater
    exact .inr ⟨⟨newer, e, older, heq, hclears, hlater⟩, hfirst⟩

theorem empty_after (h : Custody s) (sessionId : σ)
    (hd : Detached sessionId (s.after execSource i c)) :
    (s.after execSource i c).world.adapters.lookup sessionId = none := by
  rw [Option.eq_none_iff_forall_ne_some]
  intro adapter hlookup
  rcases detached_step hd with hclears | ⟨hd, hset⟩
  · cases c with
    | leave left =>
        obtain ⟨rfl, hnone⟩ := hclears
        cases hnone.symm.trans hlookup
    | leaveAll =>
        refine hclears adapter ?_ (h.listed sessionId adapter hlookup).1
        exact List.mem_map.mpr ⟨_, AList.mem_lookup_iff.mp hlookup, rfl⟩
    | delete left =>
        cases hclears
        simp [execSource, AList.lookup_erase] at hlookup
    | releaseTap => cases hclears
    | closeSocket => cases hclears
    | newAdapter => cases hclears
    | bindSocket => cases hclears
    | requestTap => cases hclears
    | set => cases hclears
  · rcases lookup_step hlookup with hlookup | ⟨hc, hid⟩
    · cases (h.empty sessionId hd).symm.trans hlookup
    · exact hset adapter hc hid

theorem after (h : Custody s) (hdue : Due (s.told i) c) (hx : Exclusive i c s) :
    Custody (s.after execSource i c) where
  toTraced := h.toTraced.after hdue
  left := h.left_after
  listed := h.listed_after
  single := h.single_after hdue
  pending := h.pending_after hdue
  held := h.held_after hdue hx
  stored := h.stored_after hdue
  closed := h.closed_after hdue
  dropped := h.dropped_after hdue
  empty := h.empty_after

/-- Once the calls owe nothing, the adapters that are connected are those in the
registry. -/
theorem matched (h : Custody s) (hdone : ∀ i, Completed (s.told i)) : s.world.Matched := by
  intro adapter
  constructor
  · intro hc
    rcases h.held adapter hc with hlookup | ⟨i, hlinked, hentered⟩
    · exact hlookup
    · exact absurd ((hdone i).entered adapter hlinked) hentered
  · intro hlookup
    rcases h.stored adapter hlookup with hc | ⟨i, hleft⟩
    · exact hc
    · exact absurd hlookup (h.dropped i adapter hleft ((hdone i).dropped adapter hleft))

end Custody

/-! ### Runs -/

variable (calls : ι → SourceCall σ) (wss : Bool) (binds opensTap : ℕ → Bool)

end Invariant

namespace Sample

def serving (calls : Bool → SourceCall String) : SourceConf Bool String :=
  sourceCalls calls true (fun _ => true) fun _ => true

end Sample

end Greetup.Sources
