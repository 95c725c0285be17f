import Greetup.Interleaving.Expansion
import Greetup.Rooms.Participation
import Greetup.Rooms.RowSteps
import Greetup.Sql.ReadCommitted

/-!
The transaction of a user who leaves a space, statement by statement.

It marks the user as left, counts who is still in, and ends the room if nobody
is. The other statements of the service are transactions of their own. Alone,
the statements are the transaction in one step (`run_leaveAndMaybeEndRoomTx`).
-/

namespace Greetup.Rooms

open Interleaving Prog

variable {ι : Type}

/-! ### Statements -/

/-- A statement, in the transaction of the connection `tx` or on its own. -/
inductive TxCmd (ι : Type)
  | plain (c : Cmd)
  | markLeft (tx : ι) (roomId : RoomId) (userId : UserId) (now : ℤ)
  | countActive (tx : ι) (roomId : RoomId)
  | endRoom (tx : ι) (roomId : RoomId) (now : ℤ)
  | commit (tx : ι)

@[reducible] def TxCmd.Reply : TxCmd ι → Type
  | .plain c => c.Reply
  | .countActive _ _ => ℕ
  | .endRoom _ _ _ => Bool
  | _ => Unit

abbrev Sessions (ι : Type) := Sql.Sessions ι World

/-- A live space. -/
def liveSpace : RoomWhere where
  roomType := some .space
  status := some .live

/-- `UPDATE` writes the rows that satisfy its condition when it runs. -/
def execTx [DecidableEq ι] (planner : Planner) :
    (c : TxCmd ι) → Sessions ι → c.Reply × Sessions ι
  | .plain c, s => ((exec planner c s.committed).1, s.autocommit (exec planner c s.committed).2)
  | .markLeft tx roomId userId now, s =>
      if (s.view tx).isIn roomId userId then
        ((), s.write tx (·.setLeftAt roomId (·.userId = userId) (some now)))
      else ((), s)
  | .countActive tx roomId, s => ((s.view tx).seatsTaken roomId, s)
  | .endRoom tx roomId now, s =>
      if ((s.view tx).findRoom roomId liveSpace).isSome then
        (true, s.write tx (·.updateRoom roomId {} (.ended now)))
      else (false, s)
  | .commit tx, s => ((), s.commit tx)

abbrev TxM (ι : Type) := Prog (TxCmd ι) TxCmd.Reply

/-- The program that issues one statement. -/
abbrev issueTx (c : TxCmd ι) : TxM ι c.Reply := perform c

/-- The rest of the transaction, when the count is known. -/
def endIfLast (tx : ι) (roomId : RoomId) (now : ℤ) (deleteSpaceAfterCall : Bool)
    (activeLeft : ℕ) : TxM ι LeaveResult :=
  if activeLeft > 0 then do
    issueTx (.commit tx)
    return ⟨false, false⟩
  else if deleteSpaceAfterCall then do
    let updated ← issueTx (.endRoom tx roomId now)
    issueTx (.commit tx)
    return ⟨true, updated⟩
  else do
    issueTx (.commit tx)
    return ⟨true, false⟩

def leaveAndMaybeEndRoomTx (tx : ι) (roomId : RoomId) (userId : UserId) (now : ℤ)
    (deleteSpaceAfterCall : Bool) : TxM ι LeaveResult := do
  issueTx (.markLeft tx roomId userId now)
  let activeLeft ← issueTx (.countActive tx roomId)
  endIfLast tx roomId now deleteSpaceAfterCall activeLeft

/-- The statements of a command of the connection `tx`. -/
def statements (tx : ι) : (c : Cmd) → TxM ι c.Reply
  | .leaveAndMaybeEndRoomTx roomId userId now deleteSpaceAfterCall =>
      leaveAndMaybeEndRoomTx tx roomId userId now deleteSpaceAfterCall
  | c => issueTx (.plain c)

/-- A user leaves a space, over the connection `tx`. -/
def leavingSpace (tx : ι) (userId : UserId) (roomId : RoomId) (httpStrict : Bool) :
    TxM ι (Except AccessError Bool) :=
  (leaveSpaceRtcSessionForUser userId roomId httpStrict).expand (statements tx)

/-! ### Alone -/

section Alone

variable [DecidableEq ι] {planner : Planner} {s : Sessions ι} {tx : ι} {w : World}
  {roomId : RoomId} {userId : UserId} {now : ℤ}

/-- One row has that room and user. -/
theorem setLeftAt_of_isIn (h : w.isIn roomId userId = true) :
    w.setLeftAt roomId (fun row => row.userId = userId && row.leftAt = none) (some now) =
      w.setLeftAt roomId (·.userId = userId) (some now) := by
  rw [World.isIn] at h
  cases hfind : w.participants.find (roomId, userId) with
  | none =>
      rw [hfind] at h
      cases h
  | some row =>
      rw [hfind] at h
      have hactive : row.leftAt = none := of_decide_eq_true h
      obtain ⟨hrow, hkey⟩ := Sql.Table.mem_of_find hfind
      simp only [World.setLeftAt, World.setParticipants]
      congr 1
      apply Sql.Table.ext
      apply List.map_congr_left
      intro row' hrow'
      by_cases hsame : row'.roomId = roomId ∧ row'.userId = userId
      · obtain rfl : row' = row := by
          apply Sql.Table.eq_of_key hrow' hrow
          rw [hkey, hsame.1, hsame.2]
        simp [hsame.1, hsame.2, hactive]
      · rw [not_and] at hsame
        by_cases hroom : row'.roomId = roomId
        · simp [hsame hroom]
        · simp [hroom]

theorem setLeftAt_of_not_isIn (h : w.isIn roomId userId = false) :
    w.setLeftAt roomId (fun row => row.userId = userId && row.leftAt = none) (some now) = w := by
  simp only [World.setLeftAt, World.setParticipants]
  rw [Sql.Table.update_eq_self]
  intro row hrow
  by_contra hcond
  rw [Bool.not_eq_false, Bool.and_eq_true, Bool.and_eq_true, decide_eq_true_eq, decide_eq_true_eq,
    decide_eq_true_eq] at hcond
  obtain ⟨hroom, huser, hactive⟩ := hcond
  have hfind : w.participants.find (roomId, userId) = some row :=
    Sql.Table.find_eq_some.mpr ⟨hrow, by rw [hroom, huser]⟩
  rw [World.isIn, hfind, isActive, Option.any_some, hactive] at h
  cases h

theorem view_markLeft :
    (execTx planner (.markLeft tx roomId userId now) s).2.view tx =
      (s.view tx).setLeftAt roomId (fun row => row.userId = userId && row.leftAt = none)
        (some now) := by
  rw [execTx]
  split
  · rename_i hin
    rw [setLeftAt_of_isIn hin]
    exact Sql.Sessions.view_write_self _
  · rename_i hin
    rw [setLeftAt_of_not_isIn (Bool.eq_false_iff.mpr hin)]

/-- The condition of the statement picks the row with the id, or none. -/
theorem updateRoom_of_findRoom {cond : RoomWhere} (change : RoomChange)
    (h : (w.findRoom roomId cond).isSome) :
    w.updateRoom roomId cond change = w.updateRoom roomId {} change := by
  obtain ⟨room, hfound⟩ := Option.isSome_iff_exists.mp h
  obtain ⟨hfind, hcond⟩ := Option.filter_eq_some_iff.mp hfound
  obtain ⟨hroom, rfl⟩ := Sql.Table.mem_of_find hfind
  simp only [World.updateRoom, World.setRooms]
  congr 1
  apply Sql.Table.ext
  apply List.map_congr_left
  intro row hrow
  by_cases hid : row.id = room.id
  · have hall : RoomWhere.matches_ {} room = true := rfl
    rw [Sql.Table.eq_of_key hrow hroom hid]
    simp [hcond, hall]
  · simp [hid]

theorem updateRoom_of_findRoom_none {cond : RoomWhere} (change : RoomChange)
    (h : (w.findRoom roomId cond).isSome = false) : w.updateRoom roomId cond change = w := by
  simp only [World.updateRoom, World.setRooms]
  rw [Sql.Table.update_eq_self]
  intro row hrow
  by_contra hcond
  rw [Bool.not_eq_false, Bool.and_eq_true, decide_eq_true_eq] at hcond
  obtain ⟨rfl, hmatches⟩ := hcond
  have hfind : w.rooms.find row.id = some row := Sql.Table.find_eq_some.mpr ⟨hrow, rfl⟩
  rw [World.findRoom, hfind, Option.filter_some, if_pos hmatches] at h
  cases h

theorem view_endRoom :
    (execTx planner (.endRoom tx roomId now) s).1 = ((s.view tx).findRoom roomId liveSpace).isSome ∧
      (execTx planner (.endRoom tx roomId now) s).2.view tx =
        (s.view tx).updateRoom roomId liveSpace (.ended now) := by
  rw [execTx]
  split
  · rename_i hlive
    rw [hlive, updateRoom_of_findRoom _ hlive]
    exact ⟨rfl, Sql.Sessions.view_write_self _⟩
  · rename_i hlive
    rw [Bool.not_eq_true] at hlive
    rw [hlive, updateRoom_of_findRoom_none _ hlive]
    exact ⟨rfl, rfl⟩

/-- **The transaction that runs alone** is the one in a single step. -/
theorem run_leaveAndMaybeEndRoomTx (deleteSpaceAfterCall : Bool) (h : s.writes tx = []) :
    ((leaveAndMaybeEndRoomTx tx roomId userId now deleteSpaceAfterCall).run (execTx planner) s).1 =
        (s.committed.leaveAndMaybeEndRoomTx roomId userId now deleteSpaceAfterCall).1 ∧
      ((leaveAndMaybeEndRoomTx tx roomId userId now deleteSpaceAfterCall).run (execTx planner)
          s).2.committed =
        (s.committed.leaveAndMaybeEndRoomTx roomId userId now deleteSpaceAfterCall).2 ∧
      ((leaveAndMaybeEndRoomTx tx roomId userId now deleteSpaceAfterCall).run (execTx planner)
          s).2.writes tx = [] := by
  have hview : (execTx planner (.markLeft tx roomId userId now) s).2.view tx = _ := view_markLeft
  rw [Sql.Sessions.view_of_nil h] at hview
  rw [leaveAndMaybeEndRoomTx, perform_bind, run_call, World.leaveAndMaybeEndRoomTx]
  generalize (execTx planner (.markLeft tx roomId userId now) s).2 = s₁ at hview ⊢
  rw [perform_bind, run_call]
  simp only [execTx, hview]
  generalize s.committed.setLeftAt roomId _ _ = w₁ at hview ⊢
  have hcount : w₁.seatsTaken roomId = (presenceOf w₁.participants roomId).activeCount := rfl
  rw [endIfLast, hcount]
  split
  · exact ⟨rfl, hview, Sql.Sessions.commit_writes_self⟩
  · split
    · obtain ⟨hupdated, hended⟩ : (execTx planner (.endRoom tx roomId now) s₁).1 = _ ∧
          (execTx planner (.endRoom tx roomId now) s₁).2.view tx = _ := view_endRoom
      rw [hview] at hupdated hended
      refine ⟨?_, hended, Sql.Sessions.commit_writes_self⟩
      show LeaveResult.mk true _ = _
      rw [hupdated]
      rfl
    · exact ⟨rfl, hview, Sql.Sessions.commit_writes_self⟩

/-- **The service that runs alone** does what it does with its transaction in a
single step. -/
theorem run_leavingSpace (httpStrict : Bool) (h : s.writes tx = []) :
    ((leavingSpace tx userId roomId httpStrict).run (execTx planner) s).1 =
        ((leaveSpaceRtcSessionForUser userId roomId httpStrict).run (exec planner) s.committed).1 ∧
      ((leavingSpace tx userId roomId httpStrict).run (execTx planner) s).2.committed =
        ((leaveSpaceRtcSessionForUser userId roomId httpStrict).run (exec planner)
          s.committed).2 := by
  have hstatements : ∀ (c : Cmd) (s : Sessions ι), s.writes tx = [] →
      ((statements tx c).run (execTx planner) s).1 = (exec planner c s.committed).1 ∧
        ((statements tx c).run (execTx planner) s).2.committed = (exec planner c s.committed).2 ∧
          ((statements tx c).run (execTx planner) s).2.writes tx = [] := by
    intro c s h
    cases c with
    | leaveAndMaybeEndRoomTx roomId userId now deleteSpaceAfterCall =>
        exact run_leaveAndMaybeEndRoomTx deleteSpaceAfterCall h
    | _ => exact ⟨rfl, rfl, h⟩
  obtain ⟨hresult, hworld, -⟩ := run_expand Sql.Sessions.committed
    (I := fun s => s.writes tx = []) hstatements
    (leaveSpaceRtcSessionForUser userId roomId httpStrict) h
  exact ⟨hresult, hworld⟩

end Alone

end Greetup.Rooms
