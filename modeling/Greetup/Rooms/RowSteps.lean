import Greetup.Rooms.Access
import Greetup.Rooms.Closing
import Mathlib.Data.List.Perm.Basic

/-!
What a command can do to the row of a room, and to who is in it.
-/

namespace Greetup.Rooms

open Interleaving Prog

variable (planner : Planner)

/-! ### The row -/

/-- What a command can make of a row. -/
inductive RowStep (w : World) (room : RoomRow) : Cmd → RoomRow → Prop
  | same (c : Cmd) : RowStep w room c room
  | updated {cond : RoomWhere} {change : RoomChange} (hcond : cond.matches_ room) :
      RowStep w room (.updateRoom room.id cond change) (change.apply room)
  | joinGraceMissed (hstatus : room.status = .scheduled) :
      RowStep w room (.expireScheduledJoinGraceMissed room.id) (RoomChange.expired.apply room)
  | rescheduled {params : EndLiveRoomSessionParams} {fields : RoomExpiryFields}
      (hroom : params.roomId = room.id) (hlive : room.status = .live) :
      RowStep w room (.endLiveRoomSessionTx params) ((RoomChange.scheduled fields).apply room)
  | ended {params : EndLiveRoomSessionParams} (hroom : params.roomId = room.id)
      (hlive : room.status = .live)
      (hempty : ∀ row ∈ (w.endLiveRoomSessionTx params).2.participants.rows,
        row.roomId = room.id → row.leftAt ≠ none) :
      RowStep w room (.endLiveRoomSessionTx params) ((RoomChange.ended params.now).apply room)
  | lastLeft {userId : UserId} {now : ℤ} (hlive : room.status = .live)
      (hempty : ∀ row ∈ (w.leaveAndMaybeEndRoomTx room.id userId now true).2.participants.rows,
        row.roomId = room.id → row.leftAt ≠ none) :
      RowStep w room (.leaveAndMaybeEndRoomTx room.id userId now true)
        ((RoomChange.ended now).apply room)
  | expanded {params : ExpandDirectAcceptParams} (hroom : params.roomId = room.id)
      (hdirect : room.roomType = .direct) (maxParticipants : ℕ) :
      RowStep w room (.runExpandDirectAcceptTransaction params)
        { room with roomType := .space, sessionKind := .space, maxParticipants }

section Row

variable {w : World} {roomId : RoomId} {room : RoomRow}

theorem activeCount_eq_zero {participants : ParticipantTable} :
    (presenceOf participants roomId).activeCount = 0 ↔
      ∀ row ∈ participants.rows, row.roomId = roomId → row.leftAt ≠ none := by
  rw [presenceOf, leftAts]
  simp only [List.countP_eq_zero, List.mem_map, List.mem_filter, decide_eq_true_eq]
  constructor
  · intro h row hrow hroom
    exact h row.leftAt ⟨row, ⟨hrow, hroom⟩, rfl⟩
  · rintro h leftAt ⟨row, ⟨hrow, hroom⟩, rfl⟩
    exact h row hrow hroom

/-- The row after an update, whoever it is meant for. -/
theorem find_updateRoom_cases (hfind : w.rooms.find room.id = some room) (r : RoomId)
    (cond : RoomWhere) (change : RoomChange) :
    (w.updateRoom r cond change).rooms.find room.id = some room ∨
      r = room.id ∧ cond.matches_ room ∧
        (w.updateRoom r cond change).rooms.find room.id = some (change.apply room) := by
  rw [find_updateRoom, hfind, Option.map_some]
  split
  · rename_i hmatch
    rw [Bool.and_eq_true, decide_eq_true_eq] at hmatch
    exact .inr ⟨hmatch.1.symm, hmatch.2, rfl⟩
  · exact .inl rfl

theorem rowStep_endLiveRoomSessionTx (hfind : w.rooms.find room.id = some room)
    (params : EndLiveRoomSessionParams) :
    ∃ room', (w.endLiveRoomSessionTx params).2.rooms.find room.id = some room' ∧
      RowStep w room (.endLiveRoomSessionTx params) room' := by
  by_cases hslot : (params.roomType = .space && params.preserveScheduledSlot) = true
  · have hrooms : ∃ fields, (w.endLiveRoomSessionTx params).2.rooms =
        (w.updateRoom params.roomId { roomType := some .space, status := some .live }
          (.scheduled fields)).rooms := by
      refine ⟨computeRoomExpiryFields
        ⟨⟨params.scheduledStartAt, params.scheduledEndAt, params.advancedOptions⟩, .scheduled⟩
        params.now, ?_⟩
      rw [World.endLiveRoomSessionTx, if_pos hslot]
      dsimp only
      split <;> rfl
    obtain ⟨fields, hrooms⟩ := hrooms
    rw [hrooms]
    rcases find_updateRoom_cases hfind params.roomId
      { roomType := some .space, status := some .live } (.scheduled fields) with
      hsame | ⟨hroom, hcond, hfound⟩
    · exact ⟨room, hsame, .same _⟩
    · refine ⟨_, hfound, .rescheduled hroom ?_⟩
      simp only [RoomWhere.matches_, Option.all_some, Bool.and_eq_true, decide_eq_true_eq] at hcond
      exact hcond.2
  · have hrun : (w.endLiveRoomSessionTx params).2 =
        (w.setLeftAt params.roomId (·.leftAt = none) (some params.now)).updateRoom params.roomId
          { status := some .live } (.ended params.now) := by
      rw [World.endLiveRoomSessionTx, if_neg hslot]
    rcases find_updateRoom_cases (w := w.setLeftAt params.roomId (·.leftAt = none)
      (some params.now)) hfind params.roomId { status := some .live } (.ended params.now) with
      hsame | ⟨hroom, hcond, hfound⟩
    · exact ⟨room, by rw [hrun, hsame], .same _⟩
    · refine ⟨_, by rw [hrun, hfound], .ended hroom ?_ ?_⟩
      · simpa [RoomWhere.matches_] using hcond
      · rw [hrun, ← hroom]
        intro row hrow hrowRoom
        exact leftAt_of_mem hrow hrowRoom

theorem rowStep_leaveAndMaybeEndRoomTx (hfind : w.rooms.find room.id = some room)
    (r : RoomId) (userId : UserId) (now : ℤ) (deleteSpaceAfterCall : Bool) :
    ∃ room', (w.leaveAndMaybeEndRoomTx r userId now deleteSpaceAfterCall).2.rooms.find room.id =
        some room' ∧
      RowStep w room (.leaveAndMaybeEndRoomTx r userId now deleteSpaceAfterCall) room' := by
  let w₁ := w.setLeftAt r (fun row => row.userId = userId && row.leftAt = none) (some now)
  by_cases hcount : (presenceOf w₁.participants r).activeCount > 0
  · refine ⟨room, ?_, .same _⟩
    rw [World.leaveAndMaybeEndRoomTx]
    dsimp only
    rw [if_pos hcount]
    exact hfind
  cases deleteSpaceAfterCall with
  | false =>
      refine ⟨room, ?_, .same _⟩
      rw [World.leaveAndMaybeEndRoomTx]
      dsimp only
      rw [if_neg hcount]
      exact hfind
  | true =>
      have hrun : (w.leaveAndMaybeEndRoomTx r userId now true).2 =
          w₁.updateRoom r { roomType := some .space, status := some .live } (.ended now) := by
        rw [World.leaveAndMaybeEndRoomTx]
        dsimp only
        rw [if_neg hcount]
        rfl
      rcases find_updateRoom_cases (w := w₁) hfind r
        { roomType := some .space, status := some .live } (.ended now) with
        hsame | ⟨hroom, hcond, hfound⟩
      · exact ⟨room, by rw [hrun, hsame], .same _⟩
      · subst hroom
        refine ⟨_, by rw [hrun, hfound], .lastLeft ?_ ?_⟩
        · simp only [RoomWhere.matches_, Option.all_some, Bool.and_eq_true,
            decide_eq_true_eq] at hcond
          exact hcond.2
        · rw [hrun]
          have hzero : (presenceOf w₁.participants room.id).activeCount = 0 := by omega
          exact activeCount_eq_zero.mp hzero

/-- **What a command can do to a row.** -/
theorem exists_rowStep (hfind : w.rooms.find room.id = some room) (c : Cmd) :
    ∃ room', (exec planner c w).2.rooms.find room.id = some room' ∧ RowStep w room c room' := by
  cases c with
  | updateRoom r cond change =>
      rcases find_updateRoom_cases hfind r cond change with hsame | ⟨rfl, hcond, hfound⟩
      · exact ⟨room, hsame, .same _⟩
      · exact ⟨_, hfound, .updated hcond⟩
  | expireScheduledJoinGraceMissed r =>
      simp only [exec, World.expireScheduledJoinGraceMissed]
      split
      · rcases find_updateRoom_cases hfind r
          { roomType := some .space, status := some .scheduled } .expired with
          hsame | ⟨rfl, hcond, hfound⟩
        · exact ⟨room, hsame, .same _⟩
        · refine ⟨_, hfound, .joinGraceMissed ?_⟩
          simp only [RoomWhere.matches_, Option.all_some, Bool.and_eq_true,
            decide_eq_true_eq] at hcond
          exact hcond.2
      · exact ⟨room, hfind, .same _⟩
  | endLiveRoomSessionTx params => exact rowStep_endLiveRoomSessionTx hfind params
  | leaveAndMaybeEndRoomTx r userId now deleteSpaceAfterCall =>
      exact rowStep_leaveAndMaybeEndRoomTx hfind r userId now deleteSpaceAfterCall
  | runExpandDirectAcceptTransaction params =>
      simp only [exec, World.runExpandDirectAcceptTransaction]
      split
      · show ∃ room', (w.expandRoom _ _).rooms.find room.id = some room' ∧ _
        rw [find_expandRoom, hfind, Option.map_some]
        split
        · rename_i hmatch
          rw [Bool.and_eq_true, decide_eq_true_eq, decide_eq_true_eq] at hmatch
          exact ⟨_, rfl, .expanded hmatch.1.symm hmatch.2 _⟩
        · exact ⟨room, rfl, .same _⟩
      · exact ⟨room, hfind, .same _⟩
  | createConnectionCallRoom r hostUserId =>
      exact ⟨room, find_createConnectionCallRoom w r hostUserId hfind, .same _⟩
  | setUserActiveRtcRoom userId r =>
      have hkeeps := Cmd.Quiet.keeps planner (c := .setUserActiveRtcRoom userId r) trivial w
      exact ⟨room, by rw [hkeeps.rooms, hfind], .same _⟩
  | clearUserActiveRtcRoom userId =>
      have hkeeps := Cmd.Quiet.keeps planner (c := .clearUserActiveRtcRoom userId) trivial w
      exact ⟨room, by rw [hkeeps.rooms, hfind], .same _⟩
  | getUserActiveRtcRoomVerified userId =>
      have hkeeps := Cmd.Quiet.keeps planner (c := .getUserActiveRtcRoomVerified userId) trivial w
      exact ⟨room, by rw [hkeeps.rooms, hfind], .same _⟩
  | _ => exact ⟨room, hfind, .same _⟩

end Row

/-! ### Who is in the room -/

def World.activeUserIds (w : World) (roomId : RoomId) : List UserId :=
  (w.participants.rows.filter fun p => p.roomId = roomId && p.leftAt = none).map (·.userId)

def World.seatsTaken (w : World) (roomId : RoomId) : ℕ :=
  (presenceOf w.participants roomId).activeCount

def World.isIn (w : World) (roomId : RoomId) (userId : UserId) : Bool :=
  isActive (w.participants.find (roomId, userId))

/-- The commands that can let a user into a room. -/
inductive LetsIn (w : World) (roomId : RoomId) (userId : UserId) : Cmd → Prop
  | host : LetsIn w roomId userId (.addOrReactivateHostRow roomId userId)
  | participant : LetsIn w roomId userId (.addOrReactivateParticipantRow roomId userId)
  | expanded {params : ExpandDirectAcceptParams} (hroom : params.roomId = roomId)
      (hinvitee : params.inviteeUserId = userId)
      (hdirect : (w.findRoom roomId { roomType := some .direct }).isSome) :
      LetsIn w roomId userId (.runExpandDirectAcceptTransaction params)
  | created : LetsIn w roomId userId (.createConnectionCallRoom roomId userId)
  | hostKept {params : EndLiveRoomSessionParams} (hroom : params.roomId = roomId)
      (hhost : params.hostUserId = userId)
      (hlive : (w.findRoom roomId { roomType := some .space, status := some .live }).isSome) :
      LetsIn w roomId userId (.endLiveRoomSessionTx params)

section Presence

variable {w : World} {roomId : RoomId} {userId : UserId}

theorem find_setLeftAt (w : World) (r : RoomId) (p : ParticipantRow → Bool) (leftAt : Option ℤ)
    (k : RoomId × UserId) : (w.setLeftAt r p leftAt).participants.find k =
      (w.participants.find k).map fun row =>
        if row.roomId = r && p row then { row with leftAt } else row := by
  rw [World.setLeftAt, World.setParticipants, Sql.Table.find_update]

theorem isIn_of_setLeftAt (r : RoomId) (p : ParticipantRow → Bool) (now : ℤ)
    (h : (w.setLeftAt r p (some now)).isIn roomId userId = true) : w.isIn roomId userId = true := by
  rw [World.isIn, find_setLeftAt] at h
  rw [World.isIn]
  cases hfind : w.participants.find (roomId, userId) with
  | none =>
      rw [hfind] at h
      cases h
  | some row =>
      rw [hfind, Option.map_some] at h
      split at h
      · cases h
      · exact h

/-- An update of the rows of others. -/
theorem isIn_setLeftAt_of_ne (w : World) {r : RoomId} {p : ParticipantRow → Bool}
    {leftAt : Option ℤ} (hne : ∀ row : ParticipantRow, row.roomId = roomId → row.userId = userId →
      (row.roomId = r && p row) = false) :
    (w.setLeftAt r p leftAt).isIn roomId userId = w.isIn roomId userId := by
  rw [World.isIn, World.isIn, find_setLeftAt]
  cases hfind : w.participants.find (roomId, userId) with
  | none => rfl
  | some row =>
      obtain ⟨hroom, huser⟩ := Prod.mk.inj (Sql.Table.mem_of_find hfind).2
      rw [Option.map_some, hne row hroom huser, if_neg Bool.false_ne_true]

theorem isIn_of_insert {row : ParticipantRow} {f : ParticipantRow → ParticipantRow}
    {hf : ∀ p, ((f p).roomId, (f p).userId) = (p.roomId, p.userId)}
    (h : (w.insertParticipant row f hf).isIn roomId userId = true) :
    w.isIn roomId userId = true ∨ row.roomId = roomId ∧ row.userId = userId := by
  rw [World.isIn, World.insertParticipant, World.setParticipants, Sql.Table.find_insert] at h
  split at h
  · rename_i heq
    exact .inr (Prod.mk.inj heq)
  · exact .inl h

theorem isIn_of_endLiveRoomSessionTx {params : EndLiveRoomSessionParams}
    (h : (w.endLiveRoomSessionTx params).2.isIn roomId userId = true) :
    w.isIn roomId userId = true ∨ LetsIn w roomId userId (.endLiveRoomSessionTx params) := by
  rw [World.endLiveRoomSessionTx] at h
  split at h
  · dsimp only at h
    split at h
    · rename_i hlive
      by_cases hhost : roomId = params.roomId ∧ userId = params.hostUserId
      · obtain ⟨rfl, rfl⟩ := hhost
        exact .inr (.hostKept rfl rfl hlive)
      · refine .inl (isIn_of_setLeftAt params.roomId (·.leftAt = none) params.now ?_)
        rw [← h]
        refine (isIn_setLeftAt_of_ne _ ?_).symm
        rintro row rfl rfl
        simpa using hhost
    · exact .inl (isIn_of_setLeftAt params.roomId (·.leftAt = none) params.now h)
  · exact .inl (isIn_of_setLeftAt params.roomId (·.leftAt = none) params.now h)

/-- **Who can be let in.** -/
theorem isIn_or_letsIn {c : Cmd} (h : (exec planner c w).2.isIn roomId userId = true) :
    w.isIn roomId userId = true ∨ LetsIn w roomId userId c := by
  cases c with
  | endLiveRoomSessionTx params => exact isIn_of_endLiveRoomSessionTx h
  | addOrReactivateHostRow r u =>
      rcases isIn_of_insert h with h | ⟨rfl, rfl⟩
      · exact .inl h
      · exact .inr .host
  | addOrReactivateParticipantRow r u =>
      rcases isIn_of_insert h with h | ⟨rfl, rfl⟩
      · exact .inl h
      · exact .inr .participant
  | markParticipantLeft r u =>
      exact .inl (isIn_of_setLeftAt r (fun row => row.userId = u && row.leftAt = none) w.clock h)
  | leaveAndMaybeEndRoomTx r u now deleteSpaceAfterCall =>
      refine .inl (isIn_of_setLeftAt r (fun row => row.userId = u && row.leftAt = none) now ?_)
      simp only [exec, World.leaveAndMaybeEndRoomTx] at h
      split_ifs at h <;> exact h
  | runExpandDirectAcceptTransaction params =>
      simp only [exec, World.runExpandDirectAcceptTransaction] at h
      split at h
      · rename_i hdirect
        rcases isIn_of_insert h with h | ⟨rfl, rfl⟩
        · exact .inl h
        · exact .inr (.expanded rfl rfl hdirect)
      · exact .inl h
  | createConnectionCallRoom r u =>
      rcases isIn_of_insert h with h | ⟨rfl, rfl⟩
      · exact .inl h
      · exact .inr .created
  | expireScheduledJoinGraceMissed r =>
      refine .inl ?_
      simp only [exec, World.expireScheduledJoinGraceMissed] at h
      split at h <;> exact h
  | setUserActiveRtcRoom u r =>
      have hkeeps := Cmd.Quiet.keeps planner (c := .setUserActiveRtcRoom u r) trivial w
      rw [World.isIn, hkeeps.participants] at h
      exact .inl h
  | clearUserActiveRtcRoom u =>
      have hkeeps := Cmd.Quiet.keeps planner (c := .clearUserActiveRtcRoom u) trivial w
      rw [World.isIn, hkeeps.participants] at h
      exact .inl h
  | getUserActiveRtcRoomVerified u =>
      have hkeeps := Cmd.Quiet.keeps planner (c := .getUserActiveRtcRoomVerified u) trivial w
      rw [World.isIn, hkeeps.participants] at h
      exact .inl h
  | _ => exact .inl h

/-- A command lets in one user at most. -/
theorem LetsIn.unique {userId' : UserId} {c : Cmd} (h : LetsIn w roomId userId c)
    (h' : LetsIn w roomId userId' c) : userId = userId' := by
  cases h with
  | host | participant | created =>
      cases h'
      rfl
  | expanded _ hinvitee _ =>
      cases h' with
      | expanded _ hinvitee' _ => exact hinvitee.symm.trans hinvitee'
  | hostKept _ hhost _ =>
      cases h' with
      | hostKept _ hhost' _ => exact hhost.symm.trans hhost'

/-! ### Seats -/

theorem mem_activeUserIds_iff : userId ∈ w.activeUserIds roomId ↔ w.isIn roomId userId = true := by
  rw [World.activeUserIds, World.isIn, List.mem_map]
  constructor
  · rintro ⟨row, hrow, rfl⟩
    obtain ⟨hmem, hcond⟩ := List.mem_filter.mp hrow
    rw [Bool.and_eq_true, decide_eq_true_eq] at hcond
    rw [Sql.Table.find_eq_some.mpr ⟨hmem, by rw [hcond.1]⟩]
    exact hcond.2
  · intro hin
    cases hfind : w.participants.find (roomId, userId) with
    | none =>
        rw [hfind] at hin
        cases hin
    | some row =>
        rw [hfind] at hin
        obtain ⟨hmem, hkey⟩ := Sql.Table.mem_of_find hfind
        obtain ⟨hroom, huser⟩ := Prod.mk.inj hkey
        refine ⟨row, List.mem_filter.mpr ⟨hmem, ?_⟩, huser⟩
        rw [decide_eq_true hroom, Bool.true_and]
        exact hin

theorem activeUserIds_nodup (w : World) (roomId : RoomId) : (w.activeUserIds roomId).Nodup := by
  have hsub : (w.participants.rows.filter fun p => p.roomId = roomId && p.leftAt = none).Nodup :=
    (List.Nodup.of_map _ w.participants.unique).filter _
  rw [World.activeUserIds]
  refine hsub.map_on ?_
  intro row hrow row' hrow' huser
  obtain ⟨hmem, hcond⟩ := List.mem_filter.mp hrow
  obtain ⟨hmem', hcond'⟩ := List.mem_filter.mp hrow'
  rw [Bool.and_eq_true, decide_eq_true_eq] at hcond hcond'
  exact Sql.Table.eq_of_key hmem hmem' (Prod.ext (hcond.1.trans hcond'.1.symm) huser)

theorem seatsTaken_eq_length : w.seatsTaken roomId = (w.activeUserIds roomId).length := by
  rw [World.activeUserIds, List.length_map, ← List.countP_eq_length_filter]
  show (leftAts w.participants roomId).countP (· = none) = _
  rw [leftAts, List.countP_map, List.countP_filter]
  apply List.countP_congr
  intro row _
  simp [and_comm]

theorem seatsTaken_le_of_subset {w' : World} (userIds : List UserId)
    (h : ∀ userId, w'.isIn roomId userId = true → userId ∈ userIds) :
    w'.seatsTaken roomId ≤ userIds.length := by
  rw [seatsTaken_eq_length]
  have hsub : w'.activeUserIds roomId ⊆ userIds :=
    fun userId hmem => h userId (mem_activeUserIds_iff.mp hmem)
  exact (List.subperm_of_subset (activeUserIds_nodup w' roomId) hsub).length_le

/-- Who stays takes no new seat. -/
theorem seatsTaken_le {w' : World}
    (h : ∀ userId, w'.isIn roomId userId = true → w.isIn roomId userId = true) :
    w'.seatsTaken roomId ≤ w.seatsTaken roomId := by
  rw [seatsTaken_eq_length (w := w)]
  apply seatsTaken_le_of_subset (w.activeUserIds roomId)
  intro userId hin
  exact mem_activeUserIds_iff.mpr (h userId hin)

/-- A command takes one seat at most. -/
theorem seatsTaken_le_succ (w : World) (roomId : RoomId) (c : Cmd) :
    (exec planner c w).2.seatsTaken roomId ≤ w.seatsTaken roomId + 1 := by
  by_cases hnew : ∃ userId, LetsIn w roomId userId c
  · obtain ⟨userId, hlets⟩ := hnew
    rw [seatsTaken_eq_length (w := w), ← List.length_cons (a := userId)]
    apply seatsTaken_le_of_subset
    intro userId' hin
    rcases isIn_or_letsIn planner hin with hbefore | hlets'
    · exact List.mem_cons_of_mem _ (mem_activeUserIds_iff.mpr hbefore)
    · rw [hlets'.unique hlets]
      exact List.mem_cons_self
  · refine (seatsTaken_le fun userId hin => ?_).trans (Nat.le_succ _)
    exact (isIn_or_letsIn planner hin).resolve_right fun hlets => hnew ⟨userId, hlets⟩

/-- The end of a session leaves the host at most. -/
theorem seatsTaken_endLiveRoomSessionTx (w : World) (params : EndLiveRoomSessionParams) :
    (w.endLiveRoomSessionTx params).2.seatsTaken params.roomId ≤ 1 := by
  refine seatsTaken_le_of_subset [params.hostUserId] fun userId hin => ?_
  have hout : ∀ w' : World, w'.participants =
      (w.setLeftAt params.roomId (·.leftAt = none) (some params.now)).participants →
      w'.isIn params.roomId userId = false := by
    intro w' hparticipants
    rw [World.isIn, hparticipants, find_setLeftAt]
    cases hfind : w.participants.find (params.roomId, userId) with
    | none => rfl
    | some row =>
        obtain ⟨hroom, -⟩ := Prod.mk.inj (Sql.Table.mem_of_find hfind).2
        rw [Option.map_some, isActive, Option.any_some]
        split
        · rfl
        · rename_i hleft
          simpa [hroom] using hleft
  by_contra hne
  rw [List.mem_singleton] at hne
  rw [World.endLiveRoomSessionTx] at hin
  split at hin
  · dsimp only at hin
    split at hin
    · rw [isIn_setLeftAt_of_ne] at hin
      · exact Bool.false_ne_true ((hout _ rfl).symm.trans hin)
      · rintro row - rfl
        simp [hne]
    · exact Bool.false_ne_true ((hout _ rfl).symm.trans hin)
  · exact Bool.false_ne_true ((hout _ rfl).symm.trans hin)

end Presence

end Greetup.Rooms
