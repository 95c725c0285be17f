import Greetup.Data.Backlog
import Greetup.Rooms.Closing

/-!
Whether the sweep gets around to every room that is due.

The sweep reconciles some of the rooms that satisfy its condition, as many as
its limit allows. If a room satisfies the condition after that too, it can be
chosen over and over instead of the rooms that wait.
-/

namespace Greetup.Rooms

open Interleaving Prog

variable (planner : Planner)

/-! ### One room among the others -/

/-- All that the condition of the sweep reads about a room. -/
structure World.SameAt (roomId : RoomId) (w w' : World) : Prop where
  room : w'.rooms.find roomId = w.rooms.find roomId
  leftAts : leftAts w'.participants roomId = leftAts w.participants roomId
  clock : w'.clock = w.clock

namespace World.SameAt

variable {roomId : RoomId} {w w' w'' : World}

theorem refl (roomId : RoomId) (w : World) : w.SameAt roomId w := ⟨rfl, rfl, rfl⟩

theorem symm (h : w.SameAt roomId w') : w'.SameAt roomId w :=
  ⟨h.room.symm, h.leftAts.symm, h.clock.symm⟩

theorem trans (h : w.SameAt roomId w') (h' : w'.SameAt roomId w'') : w.SameAt roomId w'' :=
  ⟨h'.room.trans h.room, h'.leftAts.trans h.leftAts, h'.clock.trans h.clock⟩

theorem of_keeps (h : w.Keeps w') : w.SameAt roomId w' where
  room := by rw [h.rooms]
  leftAts := by rw [h.participants]
  clock := h.clock

theorem presence (h : w.SameAt roomId w') :
    presenceOf w'.participants roomId = presenceOf w.participants roomId := by
  rw [presenceOf, presenceOf, h.leftAts]

end World.SameAt

section Frame

variable {w : World} {r r' : RoomId}

theorem sameAt_updateRoom (h : r' ≠ r) (cond : RoomWhere) (change : RoomChange) :
    w.SameAt r' (w.updateRoom r cond change) where
  room := by
    rw [find_updateRoom]
    cases hfind : w.rooms.find r' with
    | none => rfl
    | some room =>
        obtain rfl := (Sql.Table.mem_of_find hfind).2
        rw [Option.map_some, if_neg (by simp [h])]
  leftAts := rfl
  clock := rfl

/-- The rows of the other rooms are not touched. -/
theorem leftAts_map (h : r' ≠ r) (p : ParticipantRow → Bool) (leftAt : Option ℤ)
    (rows : List ParticipantRow) :
    ((rows.map fun row => if row.roomId = r && p row then { row with leftAt } else row).filter
        (·.roomId = r')).map (·.leftAt) =
      (rows.filter (·.roomId = r')).map (·.leftAt) := by
  induction rows with
  | nil => rfl
  | cons row rows ih =>
      rw [List.map_cons, List.filter_cons, List.filter_cons]
      by_cases hrow : row.roomId = r'
      · have hne : row.roomId ≠ r := fun heq => h (hrow.symm.trans heq)
        have hsame : (if row.roomId = r && p row then { row with leftAt } else row) = row :=
          if_neg (by simp [hne])
        rw [hsame, if_pos (decide_eq_true hrow), if_pos (decide_eq_true hrow), List.map_cons,
          List.map_cons, ih]
      · have hsame : (if row.roomId = r && p row then { row with leftAt } else row).roomId =
            row.roomId := by
          split <;> rfl
        have hskip : ¬ decide (row.roomId = r') = true := by simp [hrow]
        rw [hsame, if_neg hskip, if_neg hskip, ih]

theorem sameAt_setLeftAt (h : r' ≠ r) (p : ParticipantRow → Bool) (leftAt : Option ℤ) :
    w.SameAt r' (w.setLeftAt r p leftAt) :=
  ⟨rfl, leftAts_map h p leftAt w.participants.rows, rfl⟩

theorem sameAt_endLiveRoomSessionTx (params : EndLiveRoomSessionParams) (h : r' ≠ params.roomId) :
    w.SameAt r' (w.endLiveRoomSessionTx params).2 := by
  have hleft := sameAt_setLeftAt (w := w) h (·.leftAt = none) (some params.now)
  rw [World.endLiveRoomSessionTx]
  split
  · dsimp only
    split
    · exact (hleft.trans (sameAt_updateRoom h _ _)).trans (sameAt_setLeftAt h _ _)
    · exact hleft.trans (sameAt_updateRoom h _ _)
  · exact hleft.trans (sameAt_updateRoom h _ _)

theorem sameAt_expireScheduledJoinGraceMissed (h : r' ≠ r) :
    w.SameAt r' (w.expireScheduledJoinGraceMissed r).2 := by
  rw [World.expireScheduledJoinGraceMissed]
  split
  · exact sameAt_updateRoom h _ _
  · exact .refl r' w

theorem sameAt_sessionEnded {room : RoomRow} (h : r' ≠ room.id) (reason : RoomSessionEndReason)
    (options : EndLiveRoomSessionOptions) : w.SameAt r' (w.sessionEnded room reason options) := by
  rw [World.sessionEnded]
  split
  · exact .refl r' w
  · exact sameAt_endLiveRoomSessionTx _ h

theorem sameAt_acted {room : RoomRow} (h : r' ≠ room.id) (reason : Option RoomSessionEndReason) :
    w.SameAt r' (w.acted room reason) := by
  cases reason with
  | none => exact .refl r' w
  | some reason =>
      by_cases hmissed : reason = .joinGraceMissed
      · subst hmissed
        exact sameAt_expireScheduledJoinGraceMissed h
      · rw [acted_of_ne hmissed]
        exact sameAt_sessionEnded h _ _

/-- A reconciliation leaves the other rooms as they are. -/
theorem sameAt_reconciled (h : r' ≠ r) : w.SameAt r' (w.reconciled r) := by
  rw [World.reconciled]
  cases hfind : w.rooms.find r with
  | none => exact .refl r' w
  | some room =>
      obtain rfl := (Sql.Table.mem_of_find hfind).2
      exact sameAt_acted h _

theorem sameAt_reconcile (h : r' ≠ r) :
    w.SameAt r' ((reconcileRoomSessionOnAccess r).run (exec planner) w).2 :=
  (sameAt_reconciled h).trans (.of_keeps (reconcileRoomSessionOnAccess_keeps planner w r))

end Frame

/-! ### Candidates before and after -/

/-- The room satisfies the condition of the sweep. -/
def World.Candidate (w : World) (roomId : RoomId) : Prop :=
  ∃ room, w.rooms.find roomId = some room ∧
    (roomSessionSweepCandidatesWhere w.participants w.clock room).Holds

/-- A candidate that a reconciliation leaves a candidate: it is still scheduled,
it counts as closed already, no rule of the service closes it, or its slot is
kept although its start has been missed. -/
def StaysCandidate (presence : ParticipantPresence) (now : ℤ) (room : RoomRow) : Prop :=
  room.status = .scheduled ∨ hasExpired room now ∨
    (¬ isSessionCapExceeded room now ∧ ¬ isCalendarEndPast room now ∧
      ¬ isEmptyTooLong room presence now) ∨
    room.roomType = .space ∧ ∃ s, room.scheduledStartAt = some s ∧ joinGraceDeadline s ≤ now

instance (presence : ParticipantPresence) (now : ℤ) (room : RoomRow) :
    Decidable (StaysCandidate presence now room) :=
  decidable_of_iff
    (room.status = .scheduled ∨ hasExpired room now ∨
      (¬ isSessionCapExceeded room now ∧ ¬ isCalendarEndPast room now ∧
        ¬ isEmptyTooLong room presence now) ∨
      room.roomType = .space ∧ room.scheduledStartAt.any (joinGraceDeadline · ≤ now))
    (by simp [StaysCandidate, Option.any_eq_true])

section Candidate

variable {w w' : World} {roomId : RoomId} {room : RoomRow} {reason : RoomSessionEndReason}

theorem mem_candidates : roomId ∈ w.candidates ↔ w.Candidate roomId := by
  rw [World.candidates, List.mem_map]
  constructor
  · rintro ⟨room, hroom, rfl⟩
    obtain ⟨hmem, hholds⟩ := List.mem_filter.mp hroom
    exact ⟨room, Sql.Table.find_eq_some.mpr ⟨hmem, rfl⟩, of_decide_eq_true hholds⟩
  · rintro ⟨room, hfind, hholds⟩
    obtain ⟨hmem, hid⟩ := Sql.Table.mem_of_find hfind
    exact ⟨room, List.mem_filter.mpr ⟨hmem, decide_eq_true hholds⟩, hid⟩

theorem candidate_iff (h : w.rooms.find roomId = some room) : w.Candidate roomId ↔
    isJoinGraceMissed room w.clock ∨ room.status = .live ∧
      (room.isExpired ∨ (∃ d, room.expiresAt = some d ∧ d ≤ w.clock) ∨
        isSessionCapExceeded room w.clock ∨
        isEmptyTooLong room (presenceOf w.participants room.id) w.clock) := by
  rw [← roomSessionSweepCandidatesWhere_holds]
  constructor
  · rintro ⟨room', hfind, hholds⟩
    cases h.symm.trans hfind
    exact hholds
  · exact fun hholds => ⟨room, h, hholds⟩

theorem World.SameAt.candidate (h : w.SameAt roomId w') :
    w'.Candidate roomId ↔ w.Candidate roomId := by
  cases hfind : w.rooms.find roomId with
  | none =>
      have hfind' := h.room.trans hfind
      constructor
      · rintro ⟨room, hroom, -⟩
        cases hfind'.symm.trans hroom
      · rintro ⟨room, hroom, -⟩
        cases hfind.symm.trans hroom
  | some room =>
      obtain rfl := (Sql.Table.mem_of_find hfind).2
      rw [candidate_iff hfind, candidate_iff (h.room.trans hfind), h.presence, h.clock]

/-- A scheduled row that is a candidate stays one. -/
theorem candidate_expireScheduledJoinGraceMissed (h : w.rooms.find room.id = some room)
    (hmissed : isJoinGraceMissed room w.clock) :
    (w.expireScheduledJoinGraceMissed room.id).2.Candidate room.id := by
  rw [World.expireScheduledJoinGraceMissed]
  split
  · have hfind := find_updateRoom w room.id room.id
      { roomType := some .space, status := some .scheduled } .expired
    rw [h, Option.map_some] at hfind
    refine (candidate_iff hfind).mpr (.inl ?_)
    split
    · exact hmissed
    · exact hmissed
  · exact (candidate_iff h).mpr (.inl hmissed)

theorem endLiveRoomSessionTx_clock (w : World) (params : EndLiveRoomSessionParams) :
    (w.endLiveRoomSessionTx params).2.clock = w.clock := by
  rw [World.endLiveRoomSessionTx]
  split
  · dsimp only
    split <;> rfl
  · rfl

/-- A closed row is a candidate again only if its slot was kept too late. -/
theorem candidate_endLiveRoomSessionTx (options : EndLiveRoomSessionOptions)
    (h : w.rooms.find room.id = some room) (hlive : room.status = .live) :
    (w.endLiveRoomSessionTx (endParams room reason options w.clock)).2.Candidate room.id ↔
      keepsSlot room reason options ∧
        ∃ s, room.scheduledStartAt = some s ∧ joinGraceDeadline s ≤ w.clock := by
  obtain ⟨-, hfind, -⟩ := endLiveRoomSessionTx_of_live reason options w.clock h hlive
  rw [candidate_iff hfind, endLiveRoomSessionTx_clock, isJoinGraceMissed_iff,
    endChange_apply_status, RoomChange.apply_roomType, RoomChange.apply_scheduledStartAt]
  cases hslot : keepsSlot room reason options with
  | true =>
      have hspace : room.roomType = .space := of_decide_eq_true (Bool.and_eq_true_iff.mp hslot).1
      simp [hspace]
  | false => simp

/-- The reasons for which a visit closes a room keep the slot of a booking. -/
theorem keepsSlot_iff (hdelete : reason ≠ .deleteSpaceAfterCall)
    (hmatch : reason ≠ .matchFinalized) {notify : Option Bool} :
    keepsSlot room reason { notifyParticipants := notify } ↔
      room.roomType = .space ∧ room.scheduledStartAt ≠ none := by
  rw [keepsSlot, shouldPreserveScheduledSlot]
  by_cases hspace : room.roomType = .space
  · by_cases hstart : room.scheduledStartAt = none
    · simp [hspace, hstart]
    · simp [hspace, hstart, hdelete, hmatch]
  · simp [hspace]

theorem reason_of_live {presence : ParticipantPresence} {now : ℤ} (hlive : room.status = .live)
    (h : evaluateRoomSessionEndReason room presence now = some reason) :
    reason ≠ .joinGraceMissed ∧ reason ≠ .deleteSpaceAfterCall ∧ reason ≠ .matchFinalized := by
  rw [evaluate_of_live hlive] at h
  split_ifs at h <;> cases h <;> decide

/-- **Spec of a reconciliation** for a candidate: whether it still is one. -/
theorem candidate_reconciled (h : w.rooms.find room.id = some room)
    (hcandidate : w.Candidate room.id) : (w.reconciled room.id).Candidate room.id ↔
      StaysCandidate (presenceOf w.participants room.id) w.clock room := by
  have hsame : w.reconciled room.id = w.acted room (w.endReason room) := by
    rw [World.reconciled, h]
  rw [hsame]
  rcases (candidate_iff h).mp hcandidate with hmissed | ⟨hlive, -⟩
  · have hreason : w.endReason room = some .joinGraceMissed := by
      rw [World.endReason, evaluateRoomSessionEndReason, if_pos hmissed]
    rw [hreason]
    exact iff_of_true (candidate_expireScheduledJoinGraceMissed h hmissed)
      (.inl (isJoinGraceMissed_iff.mp hmissed).1)
  · by_cases hexpired : hasExpired room w.clock
    · have hreason : w.endReason room = some .expiresAtPast := by
        rw [World.endReason, evaluate_of_live hlive, if_pos hexpired]
      have hclosed : isDbRoomSessionClosed room w.clock := by
        rw [isDbRoomSessionClosed_of_live hlive]
        exact hexpired
      rw [hreason, acted_of_ne (by decide), World.sessionEnded, if_pos (by simp [hclosed])]
      exact iff_of_true hcandidate (.inr (.inl hexpired))
    · have hopen : isDbRoomSessionClosed room w.clock = false := by
        rw [isDbRoomSessionClosed_of_live hlive]
        exact Bool.eq_false_iff.mpr hexpired
      have hrules : w.endReason room ≠ none ↔ hasExpired room w.clock ∨
          isSessionCapExceeded room w.clock ∨ isCalendarEndPast room w.clock ∨
            isEmptyTooLong room (presenceOf w.participants room.id) w.clock :=
        evaluate_ne_none_of_live hlive
      cases hreason : w.endReason room with
      | none =>
          rw [hreason] at hrules
          refine iff_of_true hcandidate (.inr (.inr (.inl ?_)))
          simpa [hexpired] using hrules
      | some reason =>
          obtain ⟨hmissed, hdelete, hmatch⟩ := reason_of_live hlive hreason
          have hrule := hrules.mp (by simp [hreason])
          rw [acted_of_ne hmissed, World.sessionEnded, if_neg (by simp [hopen, hlive]),
            candidate_endLiveRoomSessionTx _ h hlive, keepsSlot_iff hdelete hmatch]
          constructor
          · rintro ⟨⟨hspace, -⟩, hstart⟩
            exact .inr (.inr (.inr ⟨hspace, hstart⟩))
          · rintro (hstatus | hexpired' | ⟨hcap, hcalendar, hempty⟩ | ⟨hspace, s, hs, hgrace⟩)
            · rw [hlive] at hstatus
              cases hstatus
            · exact absurd hexpired' hexpired
            · simp_all
            · exact ⟨⟨hspace, hs ▸ Option.some_ne_none s⟩, s, hs, hgrace⟩

end Candidate

/-! ### A sweep -/

/-- The candidate stays one when it is reconciled. -/
def World.Sticks (w : World) (roomId : RoomId) : Prop :=
  ∃ room, w.rooms.find roomId = some room ∧
    StaysCandidate (presenceOf w.participants room.id) w.clock room

section Sweep

variable {w w' : World} {r : RoomId}

theorem World.SameAt.sticks (h : w.SameAt r w') : w'.Sticks r ↔ w.Sticks r := by
  have hone : ∀ {w w' : World}, w.SameAt r w' → w.Sticks r → w'.Sticks r := by
    rintro w w' h ⟨room, hfind, hstays⟩
    obtain rfl := (Sql.Table.mem_of_find hfind).2
    refine ⟨room, h.room.trans hfind, ?_⟩
    rw [h.presence, h.clock]
    exact hstays
  exact ⟨hone h.symm, hone h⟩

theorem candidate_reconcile (h : w.Candidate r) :
    ((reconcileRoomSessionOnAccess r).run (exec planner) w).2.Candidate r ↔ w.Sticks r := by
  obtain ⟨room, hfind, hholds⟩ := h
  obtain rfl := (Sql.Table.mem_of_find hfind).2
  have hkeeps : (w.reconciled room.id).SameAt room.id _ :=
    .of_keeps (reconcileRoomSessionOnAccess_keeps planner w room.id)
  rw [hkeeps.candidate, candidate_reconciled hfind ⟨room, hfind, hholds⟩]
  constructor
  · exact fun hstays => ⟨room, hfind, hstays⟩
  · rintro ⟨room', hfind', hstays⟩
    cases hfind.symm.trans hfind'
    exact hstays

theorem run_reconcileCandidates_cons (id : RoomId) (ids : List RoomId) :
    ((reconcileCandidates (id :: ids)).run (exec planner) w).2 =
      ((reconcileCandidates ids).run (exec planner)
        ((reconcileRoomSessionOnAccess id).run (exec planner) w).2).2 := by
  rw [reconcileCandidates, run_bind, run_bind]
  rfl

/-- The rooms that are not reconciled stay as they are. -/
theorem sameAt_reconcileCandidates {ids : List RoomId} (hr : r ∉ ids) :
    w.SameAt r ((reconcileCandidates ids).run (exec planner) w).2 := by
  induction ids generalizing w with
  | nil => exact .refl r w
  | cons id ids ih =>
      rw [List.mem_cons, not_or] at hr
      obtain ⟨hne, hr'⟩ := hr
      rw [run_reconcileCandidates_cons]
      exact (sameAt_reconcile planner hne).trans (ih hr')

/-- Among the candidates that are reconciled, those that stick stay candidates. -/
theorem candidate_reconcileCandidates {ids : List RoomId} (hnodup : ids.Nodup)
    (hcandidates : ∀ r ∈ ids, w.Candidate r) (hr : r ∈ ids) :
    ((reconcileCandidates ids).run (exec planner) w).2.Candidate r ↔ w.Sticks r := by
  induction ids generalizing w with
  | nil => cases hr
  | cons id ids ih =>
      obtain ⟨hid, hnodup'⟩ := List.nodup_cons.mp hnodup
      rw [run_reconcileCandidates_cons]
      rcases List.mem_cons.mp hr with rfl | hr'
      · rw [(sameAt_reconcileCandidates planner hid).candidate,
          candidate_reconcile planner (hcandidates r hr)]
      · have hsame : ∀ r' ∈ ids, w.SameAt r'
            ((reconcileRoomSessionOnAccess id).run (exec planner) w).2 :=
          fun r' hr' => sameAt_reconcile planner fun heq => hid (heq ▸ hr')
        rw [ih hnodup' (fun r' hr' => (hsame r' hr').candidate.mpr
          (hcandidates r' (List.mem_cons_of_mem _ hr'))) hr', (hsame r hr').sticks]

end Sweep

/-! ### Sweep after sweep -/

/-- The world after one sweep. -/
def sweep (limit : ℕ) (w : World) : World := ((sweepDueRoomSessions limit).run (exec planner) w).2

/-- The rooms one sweep processes. -/
def chosen (limit : ℕ) (w : World) : List RoomId :=
  (exec planner (.listRoomIdsDueForSessionSweep limit) w).1

/-- The rooms the first `k` sweeps process. -/
def processed (limit k : ℕ) (w : World) : List RoomId :=
  Data.taken (chosen planner limit) (sweep planner limit) k w

/-- Whichever rows the database returns: as many sweeps as it takes to process
every candidate once do so, and what has been processed is a candidate no more. -/
structure NotStarved (limit : ℕ) (w : World) : Prop where
  served : ∀ planner, ∀ r ∈ w.candidates,
    r ∈ processed planner limit (w.candidates.length ⌈/⌉ limit) w
  settled : ∀ planner k, ∀ r ∈ processed planner limit k w,
    r ∉ ((sweep planner limit)^[k] w).candidates

section Sweeps

variable {limit : ℕ} {w : World} {r : RoomId}

theorem chosen_nodup (limit : ℕ) (w : World) : (chosen planner limit w).Nodup :=
  planner.nodup _ _ _

theorem chosen_candidate (hr : r ∈ chosen planner limit w) : w.Candidate r :=
  mem_candidates.mp (planner.subset _ _ _ hr)

theorem sweep_eq (limit : ℕ) (w : World) : sweep planner limit w =
    ((reconcileCandidates (chosen planner limit w)).run (exec planner)
      { w with listings := w.listings + 1 }).2 := by
  rw [sweep, sweepDueRoomSessions, perform_bind, run_call, run_bind]
  rfl

theorem sameAt_listed (r : RoomId) (w : World) :
    w.SameAt r { w with listings := w.listings + 1 } := ⟨rfl, rfl, rfl⟩

theorem sameAt_sweep (hr : r ∉ chosen planner limit w) : w.SameAt r (sweep planner limit w) := by
  rw [sweep_eq]
  exact (sameAt_listed r w).trans (sameAt_reconcileCandidates planner hr)

theorem candidate_sweep (hr : r ∈ chosen planner limit w) :
    (sweep planner limit w).Candidate r ↔ w.Sticks r := by
  rw [sweep_eq, candidate_reconcileCandidates planner (chosen_nodup planner limit w) ?_ hr,
    (sameAt_listed r w).sticks]
  exact fun r' hr' => (sameAt_listed r' w).candidate.mpr (chosen_candidate planner hr')

/-- If no candidate sticks, the sweep works its candidates off. -/
theorem worksOff_sweep (limit : ℕ) :
    Data.WorksOff (fun w => w.candidates.toFinset) (chosen planner limit) (sweep planner limit)
      limit fun w => ∀ r, w.Candidate r → ¬ w.Sticks r where
  keeps w hw r hr := by
    by_cases hmem : r ∈ chosen planner limit w
    · exact absurd ((candidate_sweep planner hmem).mp hr) (hw r (chosen_candidate planner hmem))
    · rw [(sameAt_sweep planner hmem).candidate] at hr
      rw [(sameAt_sweep planner hmem).sticks]
      exact hw r hr
  nodup w := chosen_nodup planner limit w
  subset w r hr := List.mem_toFinset.mpr (planner.subset _ _ _ (List.mem_toFinset.mp hr))
  length w := by
    rw [List.toFinset_card_of_nodup w.candidates_nodup]
    exact planner.length _ _ _
  gone w hw := by
    ext r
    rw [Finset.mem_sdiff, List.mem_toFinset, List.mem_toFinset, List.mem_toFinset, mem_candidates,
      mem_candidates]
    by_cases hmem : r ∈ chosen planner limit w
    · rw [candidate_sweep planner hmem]
      exact iff_of_false (hw r (chosen_candidate planner hmem)) fun h => h.2 hmem
    · rw [(sameAt_sweep planner hmem).candidate]
      exact ⟨fun h => ⟨h, hmem⟩, fun h => h.1⟩

/-- The database that returns one row before all others. -/
def Planner.favouring (r : RoomId) : Planner where
  pick _ w limit :=
    (w.candidates.filter (· = r) ++ w.candidates.filter fun r' => !decide (r' = r)).take limit
  nodup _ w _ := by
    apply List.Nodup.sublist (List.take_sublist _ _)
    exact (List.filter_append_perm _ w.candidates).nodup_iff.mpr w.candidates_nodup
  subset _ w _ := by
    apply List.Subset.trans (List.take_subset _ _)
    exact (List.filter_append_perm _ w.candidates).subset
  length _ w _ := by
    rw [List.length_take, (List.filter_append_perm _ w.candidates).length_eq]

theorem mem_chosen_favouring (hlimit : 1 ≤ limit) (hr : w.Candidate r) :
    r ∈ chosen (.favouring r) limit w := by
  obtain ⟨limit, rfl⟩ := Nat.exists_eq_add_of_le' hlimit
  have hmem : r ∈ w.candidates.filter (· = r) := by
    simp [mem_candidates.mpr hr]
  obtain ⟨r', rest, hcons⟩ := List.exists_cons_of_ne_nil (List.ne_nil_of_mem hmem)
  have hhead : r' ∈ w.candidates.filter (· = r) := hcons ▸ List.mem_cons_self
  obtain rfl : r' = r := of_decide_eq_true (List.mem_filter.mp hhead).2
  show r' ∈ (w.candidates.filter (· = r') ++
    w.candidates.filter fun r => !decide (r = r')).take (limit + 1)
  rw [hcons, List.cons_append, List.take_succ_cons]
  exact List.mem_cons_self

/-- **No starvation.** Whichever rows the database returns to the sweep, it
gets around to every room in time and is done with each, exactly when no
candidate is one that a reconciliation leaves a candidate. -/
theorem notStarved_iff (w : World) (limit : ℕ) (hlimit : 1 ≤ limit) : NotStarved limit w ↔
    ∀ room ∈ w.rooms.rows,
      (roomSessionSweepCandidatesWhere w.participants w.clock room).Holds →
        ¬ StaysCandidate (presenceOf w.participants room.id) w.clock room := by
  have hsticks : (∀ room ∈ w.rooms.rows,
      (roomSessionSweepCandidatesWhere w.participants w.clock room).Holds →
        ¬ StaysCandidate (presenceOf w.participants room.id) w.clock room) ↔
      ∀ r, w.Candidate r → ¬ w.Sticks r := by
    constructor
    · rintro h r ⟨room, hfind, hholds⟩ ⟨room', hfind', hstays⟩
      cases hfind.symm.trans hfind'
      exact h room (Sql.Table.mem_of_find hfind).1 hholds hstays
    · intro h room hroom hholds hstays
      have hfind : w.rooms.find room.id = some room :=
        Sql.Table.find_eq_some.mpr ⟨hroom, rfl⟩
      exact h room.id ⟨room, hfind, hholds⟩ ⟨room, hfind, hstays⟩
  rw [hsticks]
  constructor
  · intro h r hr hstick
    -- the first sweep may take this room, and then it is still a candidate
    have hmem := mem_chosen_favouring hlimit hr
    have hprocessed : r ∈ processed (.favouring r) limit 1 w := List.mem_append_left _ hmem
    refine h.settled (.favouring r) 1 r hprocessed (mem_candidates.mpr ?_)
    exact (candidate_sweep _ hmem).mpr hstick
  · intro h
    constructor
    · intro planner r hr
      refine (worksOff_sweep planner limit).mem_taken h ?_ (List.mem_toFinset.mpr hr)
      rw [List.toFinset_card_of_nodup w.candidates_nodup, Nat.mul_comm]
      exact le_smul_ceilDiv (show 0 < limit from hlimit)
    · intro planner k r hr hmem
      exact (worksOff_sweep planner limit).not_mem_backlog h hr (List.mem_toFinset.mpr hmem)

end Sweeps

namespace Sample

/-- A call that has lasted too long. -/
def endless : RoomRow where
  id := ⟨"endless-call", by decide⟩
  hostUserId := ⟨"caller-ben", by decide⟩
  title := "Call"
  visibility := .private_
  maxParticipants := 2
  status := .live
  startedAt := some 0
  roomType := .direct
  sessionKind := .match_

/-- A space nobody has started in time. -/
def missed : RoomRow where
  id := ⟨"missed-space", by decide⟩
  hostUserId := ⟨"caller-ben", by decide⟩
  title := "Reading"
  visibility := .public_
  maxParticipants := 8
  scheduledStartAt := some 0
  status := .scheduled
  roomType := .space
  sessionKind := .space

def evening (rooms : List RoomRow) (unique : (rooms.map (·.id)).Nodup) : World where
  rooms := { rows := rooms, unique }
  clock := minutes 180

def calls : World := evening [endless, { endless with id := missed.id }] (by decide)

def callAndSpace : World := evening [endless, missed] (by decide)

theorem notStarved_calls : NotStarved 1 calls :=
  (notStarved_iff calls 1 le_rfl).mpr (by decide +kernel)

/-- The sweep may take the space every time and never the call. -/
theorem not_notStarved_callAndSpace : ¬ NotStarved 1 callAndSpace := by
  intro h
  have hcandidate : endless.id ∈ callAndSpace.candidates := by decide +kernel
  have hserved := h.served (.favouring missed.id) endless.id hcandidate
  revert hserved
  decide +kernel

end Sample

end Greetup.Rooms
