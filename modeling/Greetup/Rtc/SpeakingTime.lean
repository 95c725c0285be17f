import Greetup.Rtc.DominantSpeaker

/-!
The times that are emitted are those for which the peers have been highlighted.
-/

namespace Greetup.Rtc.DominantSpeaker

open Data (Tally)

variable {c c' : DominantSpeakerCoordinator} {roomId room : RoomId} {peerId : Option PeerId}
  {now : ℕ} {m : Moment} {h : History}

/-! ### What a call does in one room -/

/-- The segment is closed, and the next one opened. -/
def RoomSpeakingState.switch (state : RoomSpeakingState) (peerId : Option PeerId) (now : ℕ) :
    RoomSpeakingState where
  currentPeerId := peerId
  currentSinceMs := peerId.map fun _ => now
  speakingMsByPeer := speakingMsSnapshot state now

/-- Nothing of the room is different. -/
structure Untouched (roomId : RoomId) (c c' : DominantSpeakerCoordinator) : Prop where
  last : c'.lastPeerIdByRoom roomId = c.lastPeerIdByRoom roomId
  speaking : c'.speakingByRoom roomId = c.speakingByRoom roomId

theorem Untouched.refl : Untouched roomId c c := ⟨rfl, rfl⟩

theorem Untouched.current (hsame : Untouched roomId c c') :
    c'.currentHighlightedPeerId roomId = c.currentHighlightedPeerId roomId := by
  simp only [DominantSpeakerCoordinator.currentHighlightedPeerId, hsame.last]

theorem Untouched.state (hsame : Untouched roomId c c') :
    c'.roomSpeakingState roomId = c.roomSpeakingState roomId := by
  simp only [DominantSpeakerCoordinator.roomSpeakingState, hsame.speaking]

theorem flush_last : (c.flushSpeakingSegment roomId now).lastPeerIdByRoom = c.lastPeerIdByRoom := by
  unfold DominantSpeakerCoordinator.flushSpeakingSegment
  split
  · rfl
  · split <;> rfl

/-- A flush writes the times that a snapshot would show. -/
theorem flush_speakingMs :
    ((c.flushSpeakingSegment roomId now).roomSpeakingState roomId).speakingMsByPeer =
      speakingMsSnapshot (c.roomSpeakingState roomId) now := by
  unfold DominantSpeakerCoordinator.flushSpeakingSegment
  unfold DominantSpeakerCoordinator.roomSpeakingState
  split
  case h_1 hnone => simp [hnone, speakingMsSnapshot]
  case h_2 state hstate =>
    split
    case h_1 p t hp ht => simp [hstate, speakingMsSnapshot, hp, ht]
    case h_2 hneither => simp [hstate, speakingMsSnapshot]

theorem flush_elsewhere (hne : room ≠ roomId) :
    (c.flushSpeakingSegment room now).speakingByRoom roomId = c.speakingByRoom roomId := by
  unfold DominantSpeakerCoordinator.flushSpeakingSegment
  split
  · rfl
  · split
    · exact Function.update_of_ne hne.symm _ _
    · rfl

theorem broadcast_same (hsame : c.currentHighlightedPeerId roomId = peerId) :
    c.broadcastIfChanged roomId peerId now = (c, none) := by
  unfold DominantSpeakerCoordinator.broadcastIfChanged
  exact if_pos hsame

/-- What becomes of a room where another peer is highlighted. -/
structure Switched (roomId : RoomId) (peerId : Option PeerId) (now : ℕ)
    (c : DominantSpeakerCoordinator) (n : Notified) : Prop where
  current : n.1.currentHighlightedPeerId roomId = peerId
  state : n.1.roomSpeakingState roomId = (c.roomSpeakingState roomId).switch peerId now
  emits : n.2 = some (roomId,
    ⟨peerId, speakingMsSnapshot ((c.roomSpeakingState roomId).switch peerId now) now⟩)

theorem broadcast_switched (hne : c.currentHighlightedPeerId roomId ≠ peerId) :
    Switched roomId peerId now c (c.broadcastIfChanged roomId peerId now) := by
  have hstate : { (c.flushSpeakingSegment roomId now).roomSpeakingState roomId with
      currentPeerId := peerId
      currentSinceMs := peerId.map fun _ => now } =
        (c.roomSpeakingState roomId).switch peerId now := by
    rw [RoomSpeakingState.switch, ← flush_speakingMs]
  have hprev : ¬ (c.lastPeerIdByRoom roomId).getD none = peerId := hne
  simp only [DominantSpeakerCoordinator.broadcastIfChanged, if_neg hprev, hstate]
  refine ⟨?_, ?_, rfl⟩
  · simp [DominantSpeakerCoordinator.currentHighlightedPeerId]
  · simp [DominantSpeakerCoordinator.roomSpeakingState]

theorem broadcast_elsewhere (hne : room ≠ roomId) :
    Untouched roomId c (c.broadcastIfChanged room peerId now).1 := by
  simp only [DominantSpeakerCoordinator.broadcastIfChanged]
  split
  · exact .refl
  · refine ⟨?_, ?_⟩
    · simp only [Function.update_of_ne hne.symm, flush_last]
    · simp only [Function.update_of_ne hne.symm, flush_elsewhere hne]

/-- The payload of an emission that goes to the room. -/
def forRoom (roomId : RoomId) (n : Notified) : Option DominantSpeakerSocketPayload :=
  match n.2 with
  | none => none
  | some (room, payload) => if room = roomId then some payload else none

theorem emitted_cons : emitted roomId (m :: h) = forRoom roomId (m.apply (after h)) := rfl

theorem broadcast_forRoom_elsewhere (hne : room ≠ roomId) :
    forRoom roomId (c.broadcastIfChanged room peerId now) = none := by
  simp only [DominantSpeakerCoordinator.broadcastIfChanged]
  split
  · rfl
  · exact if_neg hne

/-- A call forgets the room, leaves it as it is, or moves its highlight. -/
theorem apply_cases (m : Moment) (c : DominantSpeakerCoordinator) (roomId : RoomId) :
    (m.call = .forgetRoom roomId ∧ (m.apply c).1.currentHighlightedPeerId roomId = none ∧
      (m.apply c).1.roomSpeakingState roomId = {} ∧ (m.apply c).2 = none) ∨
    (m.call ≠ .forgetRoom roomId ∧
      m.call.highlight roomId (c.currentHighlightedPeerId roomId) =
        c.currentHighlightedPeerId roomId ∧
      Untouched roomId c (m.apply c).1 ∧ forRoom roomId (m.apply c) = none) ∨
    (m.call ≠ .forgetRoom roomId ∧
      m.call.highlight roomId (c.currentHighlightedPeerId roomId) ≠
        c.currentHighlightedPeerId roomId ∧
      Switched roomId (m.call.highlight roomId (c.currentHighlightedPeerId roomId)) m.now c
        (m.apply c)) := by
  obtain ⟨call, now⟩ := m
  cases call with
  | broadcastIfChanged room peerId =>
      by_cases hroom : room = roomId
      · subst hroom
        by_cases hsame : c.currentHighlightedPeerId room = peerId
        · refine .inr (.inl ⟨by simp, by simp [Call.highlight, hsame], ?_⟩)
          simp only [Moment.apply, broadcast_same hsame]
          exact ⟨.refl, rfl⟩
        · refine .inr (.inr ⟨by simp, ?_, ?_⟩)
          · simpa [Call.highlight] using Ne.symm hsame
          · simpa [Call.highlight, Moment.apply] using broadcast_switched hsame
      · refine .inr (.inl ⟨by simp, by simp [Call.highlight, hroom], ?_, ?_⟩)
        · exact broadcast_elsewhere hroom
        · exact broadcast_forRoom_elsewhere hroom
  | clearHighlightIfUser room userId =>
      have hlast : c.lastPeerIdByRoom room = some (some userId) ↔
          c.currentHighlightedPeerId room = some userId := by
        unfold DominantSpeakerCoordinator.currentHighlightedPeerId
        cases c.lastPeerIdByRoom room <;> simp
      simp only [Moment.apply, DominantSpeakerCoordinator.clearHighlightIfUser, hlast]
      by_cases hroom : room = roomId
      · subst hroom
        by_cases huser : c.currentHighlightedPeerId room = some userId
        · rw [if_pos huser]
          refine .inr (.inr ⟨by simp, by simp [Call.highlight, huser], ?_⟩)
          simpa [Call.highlight, huser] using
            (@broadcast_switched c room none now) (by simp [huser])
        · rw [if_neg huser]
          exact .inr (.inl ⟨by simp, by simp [Call.highlight, huser], .refl, rfl⟩)
      · refine .inr (.inl ⟨by simp, by simp [Call.highlight, hroom], ?_, ?_⟩)
        · split
          · exact broadcast_elsewhere hroom
          · exact .refl
        · split
          · exact broadcast_forRoom_elsewhere hroom
          · rfl
  | forgetRoom room =>
      by_cases hroom : room = roomId
      · subst hroom
        refine .inl ⟨rfl, ?_, ?_, rfl⟩
        · simp [Moment.apply, DominantSpeakerCoordinator.currentHighlightedPeerId,
            DominantSpeakerCoordinator.forgetRoom]
        · simp [Moment.apply, DominantSpeakerCoordinator.roomSpeakingState,
            DominantSpeakerCoordinator.forgetRoom]
      · refine .inr (.inl ⟨by simp [hroom], by simp [Call.highlight, hroom], ⟨?_, ?_⟩, rfl⟩)
        · exact Function.update_of_ne (Ne.symm hroom) _ _
        · exact Function.update_of_ne (Ne.symm hroom) _ _

/-! ### The times of a history -/

theorem spokenUntil_cons {p : PeerId} (hnot : m.call ≠ .forgetRoom roomId) :
    spokenUntil roomId p now (m :: h) = spokenUntil roomId p m.now h +
      if highlighted roomId (m :: h) = some p then now - m.now else 0 := by
  rw [spokenUntil, if_neg hnot]

theorem spokenUntil_forget {p : PeerId} (hforget : m.call = .forgetRoom roomId) :
    spokenUntil roomId p now (m :: h) = 0 := by
  simp [spokenUntil, highlighted, hforget, Call.highlight]

theorem spokenUntil_later {p : PeerId} {t : ℕ} (hle : lastNow h ≤ t) (hlt : t ≤ now) :
    spokenUntil roomId p now h = spokenUntil roomId p t h +
      if highlighted roomId h = some p then now - t else 0 := by
  cases h with
  | nil => simp [spokenUntil, highlighted]
  | cons m h =>
      simp only [lastNow] at hle
      simp only [spokenUntil]
      by_cases hpeer : highlighted roomId (m :: h) = some p
      · simp only [hpeer, if_true]
        omega
      · simp only [hpeer, if_false, Nat.add_zero]

theorem spokenUntil_mono {p : PeerId} {t : ℕ} (hle : lastNow h ≤ t) (hlt : t ≤ now) :
    spokenUntil roomId p t h ≤ spokenUntil roomId p now h := by
  rw [spokenUntil_later hle hlt]
  exact Nat.le_add_right _ _

theorem firstHighlight_isSome (hsome : (highlighted roomId h).isSome) :
    (firstHighlight roomId h).isSome := by
  induction h with
  | nil => simp [highlighted] at hsome
  | cons m h ih =>
      have hnot : m.call ≠ .forgetRoom roomId := by
        intro hforget
        simp [highlighted, hforget, Call.highlight] at hsome
      simp [firstHighlight, hnot, hsome]

/-! ### What is kept is what has been spoken -/

/-- At any later time a snapshot of the room shows the times of the history. -/
structure Accounted (roomId : RoomId) (h : History) (c : DominantSpeakerCoordinator) : Prop where
  current : c.currentHighlightedPeerId roomId = highlighted roomId h
  amount : ∀ p now, lastNow h ≤ now →
    (speakingMsSnapshot (c.roomSpeakingState roomId) now).amount p = spokenUntil roomId p now h
  total : ∀ now, lastNow h ≤ now →
    (speakingMsSnapshot (c.roomSpeakingState roomId) now).total +
      (firstHighlight roomId h).getD now ≤ now

theorem accounted_nil : Accounted roomId [] {} where
  current := rfl
  amount p now hle := rfl
  total now hle := by
    show 0 + now ≤ now
    omega

theorem Accounted.forget (hforget : m.call = .forgetRoom roomId)
    (hcurrent : c'.currentHighlightedPeerId roomId = none)
    (hstate : c'.roomSpeakingState roomId = {}) : Accounted roomId (m :: h) c' where
  current := by simp [hcurrent, highlighted, hforget, Call.highlight]
  amount p now hle := by
    rw [hstate, spokenUntil_forget hforget]
    rfl
  total now hle := by
    rw [hstate, firstHighlight, if_pos hforget]
    show 0 + now ≤ now
    omega

theorem Accounted.idle (hacc : Accounted roomId h c) (hclock : lastNow h ≤ m.now)
    (hnot : m.call ≠ .forgetRoom roomId)
    (hsame : highlighted roomId (m :: h) = highlighted roomId h)
    (huntouched : Untouched roomId c c') : Accounted roomId (m :: h) c' where
  current := by rw [huntouched.current, hacc.current, hsame]
  amount p now hle := by
    have hlast : lastNow h ≤ now := le_trans hclock hle
    rw [huntouched.state, hacc.amount p now hlast, spokenUntil_cons hnot, hsame]
    exact spokenUntil_later hclock hle
  total now hle := by
    have htotal := hacc.total now (le_trans hclock hle)
    rw [huntouched.state, firstHighlight, if_neg hnot, hsame]
    cases hfirst : firstHighlight roomId h with
    | some t => simpa [hfirst] using htotal
    | none =>
        have hnone : ¬ (highlighted roomId h).isSome = true := by
          intro hsome
          simpa [hfirst] using firstHighlight_isSome hsome
        simpa [hfirst, if_neg hnone] using htotal

/-- The open segment of the new highlight begins with nothing. -/
theorem RoomSpeakingState.snapshot_switch (state : RoomSpeakingState) {t : ℕ} :
    speakingMsSnapshot (state.switch peerId t) now =
      match peerId with
      | none => speakingMsSnapshot state t
      | some p => (speakingMsSnapshot state t).insert p
          ((speakingMsSnapshot state t).amount p + (now - t)) := by
  cases peerId <;> rfl

theorem Accounted.switch {n : Notified} (hacc : Accounted roomId h c) (hclock : lastNow h ≤ m.now)
    (hnot : m.call ≠ .forgetRoom roomId)
    (hswitched : Switched roomId (highlighted roomId (m :: h)) m.now c n) :
    Accounted roomId (m :: h) n.1 where
  current := hswitched.current
  amount p now hle := by
    rw [hswitched.state, RoomSpeakingState.snapshot_switch, spokenUntil_cons hnot,
      ← hacc.amount p m.now hclock]
    cases hpeer : highlighted roomId (m :: h) with
    | none => simp
    | some q =>
        by_cases hpq : p = q
        · subst hpq
          simp
        · simp [Tally.amount_insert_of_ne hpq, Ne.symm hpq]
  total now hle := by
    have hm : m.now ≤ now := hle
    have htotal := hacc.total m.now hclock
    rw [hswitched.state, RoomSpeakingState.snapshot_switch, firstHighlight, if_neg hnot]
    cases hpeer : highlighted roomId (m :: h) with
    | none =>
        cases hfirst : firstHighlight roomId h with
        | none =>
            simp only [hfirst, Option.getD_none] at htotal
            simp
            omega
        | some t =>
            simp only [hfirst, Option.getD_some] at htotal
            simp
            omega
    | some q =>
        have hins := Tally.total_insert (speakingMsSnapshot (c.roomSpeakingState roomId) m.now) q
          ((speakingMsSnapshot (c.roomSpeakingState roomId) m.now).amount q + (now - m.now))
        cases hfirst : firstHighlight roomId h with
        | none =>
            simp only [hfirst, Option.getD_none] at htotal
            simp
            omega
        | some t =>
            simp only [hfirst, Option.getD_some] at htotal
            simp
            omega

theorem Clocked.tail (hclock : Clocked (m :: h)) : Clocked h := hclock.of_cons

theorem Clocked.lastNow_le (hclock : Clocked (m :: h)) : lastNow h ≤ m.now := by
  cases h with
  | nil => exact Nat.zero_le _
  | cons e h => exact List.rel_of_pairwise_cons hclock List.mem_cons_self

theorem accounted_after (hclock : Clocked h) (roomId : RoomId) :
    Accounted roomId h (after h) := by
  induction h with
  | nil => exact accounted_nil
  | cons m h ih =>
      have hacc := ih hclock.tail
      have happly := apply_cases m (after h) roomId
      rw [hacc.current] at happly
      rcases happly with ⟨hforget, hcurrent, hstate, -⟩ | ⟨hnot, hsame, huntouched, -⟩ |
        ⟨hnot, -, hswitched⟩
      · exact .forget hforget hcurrent hstate
      · exact hacc.idle hclock.lastNow_le hnot hsame huntouched
      · exact hacc.switch hclock.lastNow_le hnot hswitched

/-- An emission moves the highlight, and shows the times up to now. -/
theorem emitted_exact (hclock : Clocked h) {payload : DominantSpeakerSocketPayload}
    (hemit : emitted roomId h = some payload) :
    payload.peerId = highlighted roomId h ∧
      (∀ p, payload.speakingMsByPeer.amount p = spokenUntil roomId p (lastNow h) h) ∧
      ∃ t, firstHighlight roomId h = some t ∧
        payload.speakingMsByPeer.total + t ≤ lastNow h := by
  cases h with
  | nil => cases hemit
  | cons m h =>
      have hacc := accounted_after hclock.tail roomId
      have hnext := accounted_after hclock roomId
      rw [emitted_cons] at hemit
      have happly := apply_cases m (after h) roomId
      rw [hacc.current] at happly
      rcases happly with ⟨-, -, -, hnone⟩ | ⟨-, -, -, hnone⟩ | ⟨hnot, hmoved, hswitched⟩
      · simp [forRoom, hnone] at hemit
      · simp [hnone] at hemit
      · have hpayload : payload = ⟨highlighted roomId (m :: h),
            speakingMsSnapshot ((after (m :: h)).roomSpeakingState roomId) m.now⟩ := by
          rw [after, hswitched.state, highlighted]
          simpa only [forRoom, hswitched.emits, if_true, Option.some_inj] using hemit.symm
        subst hpayload
        have hfirst : (firstHighlight roomId (m :: h)).isSome := by
          rw [firstHighlight, if_neg hnot]
          cases hprev : highlighted roomId h with
          | some p => simp [firstHighlight_isSome, hprev]
          | none =>
              have hpeer : (highlighted roomId (m :: h)).isSome := by
                rw [hprev] at hmoved
                rw [highlighted, hprev]
                exact Option.ne_none_iff_isSome.mp hmoved
              simp [hpeer]
        obtain ⟨t, ht⟩ := Option.isSome_iff_exists.mp hfirst
        refine ⟨rfl, fun p => hnext.amount p m.now le_rfl, t, ht, ?_⟩
        simpa [ht, lastNow] using hnext.total m.now le_rfl

/-- What has been emitted since the room was forgotten is no more than what has
been spoken by now. -/
theorem emissionsSince_le (hclock : Clocked h) {payload : DominantSpeakerSocketPayload}
    (hmem : payload ∈ emissionsSince roomId h) (p : PeerId) :
    payload.speakingMsByPeer.amount p ≤ spokenUntil roomId p (lastNow h) h := by
  induction h with
  | nil => cases hmem
  | cons m h ih =>
      rw [emissionsSince] at hmem
      split at hmem
      · cases hmem
      · next hnot =>
        rcases List.mem_append.mp hmem with hmem | hmem
        · exact le_of_eq ((emitted_exact hclock (Option.mem_toList.mp hmem)).2.1 p)
        · have hbefore := ih hclock.tail hmem
          have hmono : spokenUntil roomId p (lastNow h) h ≤ spokenUntil roomId p m.now h :=
            spokenUntil_mono le_rfl hclock.lastNow_le
          rw [lastNow, spokenUntil_cons hnot]
          omega

theorem emissionsSince_pairwise (hclock : Clocked h) (roomId : RoomId) :
    (emissionsSince roomId h).Pairwise fun later earlier =>
      ∀ p, earlier.speakingMsByPeer.amount p ≤ later.speakingMsByPeer.amount p := by
  induction h with
  | nil => exact .nil
  | cons m h ih =>
      rw [emissionsSince]
      split
      · exact .nil
      · next hnot =>
        cases hemit : emitted roomId (m :: h) with
        | none => exact ih hclock.tail
        | some payload =>
            refine .cons ?_ (ih hclock.tail)
            intro earlier hmem p
            rw [(emitted_exact hclock hemit).2.1 p]
            refine emissionsSince_le hclock ?_ p
            rw [emissionsSince, if_neg hnot]
            exact List.mem_append_right _ hmem

/-- Without an emission the highlight is where it was. -/
theorem highlighted_of_silent (hclock : Clocked (m :: h)) (hnot : m.call ≠ .forgetRoom roomId)
    (hsilent : emitted roomId (m :: h) = none) :
    highlighted roomId (m :: h) = highlighted roomId h := by
  have happly := apply_cases m (after h) roomId
  rw [(accounted_after hclock.tail roomId).current] at happly
  rcases happly with ⟨hforget, -⟩ | ⟨-, hsame, -⟩ | ⟨-, -, hswitched⟩
  · exact absurd hforget hnot
  · exact hsame
  · rw [emitted_cons] at hsilent
    simp [forRoom, hswitched.emits] at hsilent

theorem last_emitted (hclock : Clocked h) (roomId : RoomId) :
    (emissionsSince roomId h).head?.bind (·.peerId) = highlighted roomId h := by
  induction h with
  | nil => rfl
  | cons m h ih =>
      rw [emissionsSince]
      split
      · next hforget => simp [highlighted, hforget, Call.highlight]
      · next hnot =>
        cases hemit : emitted roomId (m :: h) with
        | none =>
            rw [highlighted_of_silent hclock hnot hemit]
            exact ih hclock.tail
        | some payload => exact (emitted_exact hclock hemit).1

/-- Every emission maps each peer to the time for which it has been highlighted
since the room was forgotten, and they come to no more than the time since the
first highlight; since then no peer's time decreases from one emission to the
next, and the last of them shows who is highlighted. -/
theorem speaking_time_exact (hclock : Clocked h) (roomId : RoomId) :
    (∀ payload, emitted roomId h = some payload →
      (∀ p, payload.speakingMsByPeer.amount p = spokenUntil roomId p (lastNow h) h) ∧
        ∃ t, firstHighlight roomId h = some t ∧
          payload.speakingMsByPeer.total + t ≤ lastNow h) ∧
      ((emissionsSince roomId h).Pairwise fun later earlier =>
        ∀ p, earlier.speakingMsByPeer.amount p ≤ later.speakingMsByPeer.amount p) ∧
      (emissionsSince roomId h).head?.bind (·.peerId) =
        (after h).currentHighlightedPeerId roomId := by
  refine ⟨fun payload hemit => (emitted_exact hclock hemit).2,
    emissionsSince_pairwise hclock roomId, ?_⟩
  rw [(accounted_after hclock roomId).current]
  exact last_emitted hclock roomId

/-! ### A room that is forgotten -/

namespace Sample

def hall : RoomId := ⟨"hall", by decide⟩
def nell : PeerId := ⟨"nell", by decide⟩
def otto : PeerId := ⟨"otto", by decide⟩

/-- The room empties while nell speaks. -/
def emptied : History := [⟨.forgetRoom hall, 6⟩, ⟨.broadcastIfChanged hall (some nell), 1⟩]

/-- Nell speaks for four milliseconds, and again after the room was empty. -/
def again : History :=
  [⟨.broadcastIfChanged hall (some nell), 9⟩, ⟨.forgetRoom hall, 6⟩,
    ⟨.clearHighlightIfUser hall nell, 5⟩, ⟨.broadcastIfChanged hall (some nell), 1⟩]

theorem not_emissions_across_forget :
    (Clocked emptied ∧ (emissions hall emptied).head?.bind (·.peerId) ≠
        (after emptied).currentHighlightedPeerId hall) ∧
      Clocked again ∧ ¬ (emissions hall again).Pairwise fun later earlier =>
        ∀ p, earlier.speakingMsByPeer.amount p ≤ later.speakingMsByPeer.amount p := by
  refine ⟨⟨by unfold Clocked; decide, by decide⟩, by unfold Clocked; decide, ?_⟩
  intro hpairwise
  have hnell : ((emissions hall again).map (·.speakingMsByPeer.amount nell)).Pairwise
      fun later earlier => earlier ≤ later :=
    List.pairwise_map.mpr (hpairwise.imp fun hle => hle nell)
  revert hnell
  decide

/-- Nell speaks for four milliseconds, then otto. -/
def inTurn : History :=
  [⟨.broadcastIfChanged hall (some otto), 5⟩, ⟨.broadcastIfChanged hall (some nell), 1⟩]

theorem speaking_time_inTurn :
    ∃ payload, emitted hall inTurn = some payload ∧ payload.peerId = some otto ∧
      payload.speakingMsByPeer.amount nell = 4 ∧ payload.speakingMsByPeer.amount otto = 0 := by
  have hexact := (@speaking_time_exact inTurn (by unfold Clocked; decide) hall).1
  refine ⟨_, rfl, by decide, ?_, ?_⟩
  · rw [(hexact _ rfl).1 nell]
    decide
  · rw [(hexact _ rfl).1 otto]
    decide

end Sample

end Greetup.Rtc.DominantSpeaker
