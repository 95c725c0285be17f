import Greetup.Rooms.Deadline
import Greetup.Rooms.RoomCalls

/-!
Whether a room that has ended stays as it is.

Most statements that write a room repeat its status in their condition. Those
that add a participant, restart the clock or cap the expiry do not, and neither
does the expansion of a direct room; between their caller's last look at the row
and such a statement the room may end.
-/

namespace Greetup.Rooms

open Interleaving Prog

variable (planner : Planner)

/-- The row does not expire after its end. -/
def RoomRow.ExpiresInTime (room : RoomRow) : Prop :=
  ∀ endedAt ∈ room.endedAt, ∀ expiresAt ∈ room.expiresAt, expiresAt ≤ endedAt

/-- How a row that has ended may change. -/
structure StaysEnded (room room' : RoomRow) : Prop where
  status : room'.status = .ended
  expired : room.isExpired = true → room'.isExpired = true
  inTime : room.ExpiresInTime → room'.ExpiresInTime
  roomType : room'.roomType = room.roomType
  sessionKind : room'.sessionKind = room.sessionKind

/-- From `w` to `w'` an end of the room was final: it has stayed ended if it had
ended before, and nobody has come back; if it has ended since, it has expired
and nobody is in it. -/
def Final (w w' : World) (roomId : RoomId) : Prop :=
  ∀ room, w.rooms.find roomId = some room → ∃ room', w'.rooms.find roomId = some room' ∧
    (room.status = .ended → StaysEnded room room' ∧
      ∀ userId, w'.isIn roomId userId = true → w.isIn roomId userId = true) ∧
    (room.status ≠ .ended → room'.status = .ended →
      room'.isExpired = true ∧ room'.ExpiresInTime ∧ ∀ userId, w'.isIn roomId userId = false)

/-- A write that takes no notice of the status of the room. -/
inductive WritesById (w : World) (roomId : RoomId) : Cmd → Prop
  | room {cond : RoomWhere} {change : RoomChange} (hcond : ¬ cond.SparesEnded) :
      WritesById w roomId (.updateRoom roomId cond change)
  | host {userId : UserId} (hout : w.isIn roomId userId = false) :
      WritesById w roomId (.addOrReactivateHostRow roomId userId)
  | participant {userId : UserId} (hout : w.isIn roomId userId = false) :
      WritesById w roomId (.addOrReactivateParticipantRow roomId userId)
  | expansion {params : ExpandDirectAcceptParams} (hroom : params.roomId = roomId)
      (hdirect : (w.findRoom roomId { roomType := some .direct }).isSome) :
      WritesById w roomId (.runExpandDirectAcceptTransaction params)

/-- The call is about to write a room that has ended since it saw it open. -/
def EndedMeanwhile {ι : Type} [DecidableEq ι] (i : ι) (c : Cmd)
    (s : Scene ι Cmd Cmd.Reply World) : Prop :=
  ∃ roomId, WritesById s.world roomId c ∧ s.world.HasEnded roomId ∧
    SeenOpen planner (s.told i) roomId

section Step

variable {planner} {w w' w'' : World} {roomId : RoomId} {room room' : RoomRow} {c : Cmd}
  {h : History}

theorem StaysEnded.refl (hended : room.status = .ended) : StaysEnded room room :=
  ⟨hended, id, id, rfl, rfl⟩

theorem Final.refl (w : World) (roomId : RoomId) : Final w w roomId := by
  intro room hfind
  refine ⟨room, hfind, fun hended => ⟨.refl hended, fun _ => id⟩, fun hopen hended => ?_⟩
  exact absurd hended hopen

theorem Final.trans (h : Final w w' roomId) (h' : Final w' w'' roomId) : Final w w'' roomId := by
  intro room hfind
  obtain ⟨room', hfind', hstays, hends⟩ := h room hfind
  obtain ⟨room'', hfind'', hstays', hends'⟩ := h' room' hfind'
  refine ⟨room'', hfind'', fun hended => ?_, fun hopen hended'' => ?_⟩
  · obtain ⟨hrow, hin⟩ := hstays hended
    obtain ⟨hrow', hin'⟩ := hstays' hrow.status
    refine ⟨⟨hrow'.status, fun he => hrow'.expired (hrow.expired he),
      fun ht => hrow'.inTime (hrow.inTime ht), hrow'.roomType.trans hrow.roomType,
      hrow'.sessionKind.trans hrow.sessionKind⟩, fun userId hu => hin userId (hin' userId hu)⟩
  · by_cases hended' : room'.status = .ended
    · obtain ⟨hexpired, hinTime, hempty⟩ := hends hopen hended'
      obtain ⟨hrow', hin'⟩ := hstays' hended'
      refine ⟨hrow'.expired hexpired, hrow'.inTime hinTime, fun userId => ?_⟩
      by_contra hu
      have hback := hin' userId (by simpa using hu)
      rw [hempty userId] at hback
      cases hback
    · exact hends' hended' hended''

theorem isIn_eq_false_of_empty (hempty : ∀ row ∈ w.participants.rows, row.roomId = roomId →
    row.leftAt ≠ none) (userId : UserId) : w.isIn roomId userId = false := by
  rw [World.isIn]
  cases hfind : w.participants.find (roomId, userId) with
  | none => rfl
  | some row =>
      obtain ⟨hmem, hkey⟩ := Sql.Table.mem_of_find hfind
      have hleft := hempty row hmem (Prod.mk.inj hkey).1
      simpa [isActive] using hleft

theorem status_apply_of_not_isEnd {change : RoomChange} (hend : change.isEnd = false)
    (hstatus : room.status ≠ .ended) : (change.apply room).status ≠ .ended := by
  cases change with
  | ended now => cases hend
  | live | scheduled =>
      intro heq
      cases heq
  | sessionClock | expiry | expired => exact hstatus

/-- A row that has ended is not written at all. -/
theorem rowStep_of_ended (hstep : RowStep w room c room') (hfind : w.rooms.find room.id = some room)
    (hended : room.status = .ended) (hlicence : Licence planner h c)
    (hnot : ¬ (WritesById w room.id c ∧ SeenOpen planner h room.id)) : room' = room := by
  cases hstep with
  | same => rfl
  | updated hcond =>
      rcases hlicence.2 with hspares | hopen
      · obtain ⟨status, hsome, hne⟩ := hspares
        rw [RoomWhere.matches_, hsome, Bool.and_eq_true, Option.all_some, decide_eq_true_eq,
          hended] at hcond
        exact absurd hcond.2.symm hne
      · rename_i cond change
        by_cases hspares : cond.SparesEnded
        · obtain ⟨status, hsome, hne⟩ := hspares
          rw [RoomWhere.matches_, hsome, Bool.and_eq_true, Option.all_some, decide_eq_true_eq,
            hended] at hcond
          exact absurd hcond.2.symm hne
        · exact absurd ⟨.room hspares, hopen⟩ hnot
  | joinGraceMissed hstatus =>
      rw [hended] at hstatus
      cases hstatus
  | rescheduled _ hlive | ended _ hlive _ | lastLeft hlive _ =>
      rw [hended] at hlive
      cases hlive
  | expanded hroom hdirect =>
      have hwrites : WritesById w room.id _ := .expansion hroom (by
        rw [findRoom_of_find hfind (by simp [RoomWhere.matches_, hdirect])]
        rfl)
      exact absurd ⟨hwrites, hroom ▸ hlicence⟩ hnot

/-- Nobody comes back to a room that has ended. -/
theorem isIn_of_ended {userId : UserId} (hfind : w.rooms.find roomId = some room)
    (hended : room.status = .ended) (hlicence : Licence planner h c)
    (hnot : ¬ (WritesById w roomId c ∧ SeenOpen planner h roomId))
    (hin : (exec planner c w).2.isIn roomId userId = true) : w.isIn roomId userId = true := by
  by_contra hout
  have hout : w.isIn roomId userId = false := by simpa using hout
  rcases isIn_or_letsIn planner hin with hbefore | hlets
  · rw [hbefore] at hout
    cases hout
  · cases hlets with
    | host => exact hnot ⟨.host hout, hlicence.1⟩
    | participant => exact hnot ⟨.participant hout, hlicence.1⟩
    | expanded hroom _ hdirect => exact hnot ⟨.expansion hroom hdirect, hroom ▸ hlicence⟩
    | created => exact hlicence
    | hostKept _ _ hlive =>
        rw [World.findRoom, hfind, Option.filter_some, if_neg] at hlive
        · cases hlive
        · simp [RoomWhere.matches_, hended]

/-- **One step.** -/
theorem final_step (hlicence : Licence planner h c)
    (hnot : ¬ (WritesById w roomId c ∧ w.HasEnded roomId ∧ SeenOpen planner h roomId)) :
    Final w (exec planner c w).2 roomId := by
  intro room hfind
  obtain rfl := (Sql.Table.mem_of_find hfind).2
  obtain ⟨room', hfind', hstep⟩ := exists_rowStep planner hfind c
  refine ⟨room', hfind', fun hended => ?_, fun hopen hended' => ?_⟩
  · have hnot' : ¬ (WritesById w room.id c ∧ SeenOpen planner h room.id) := by
      rintro ⟨hwrites, hseen⟩
      exact hnot ⟨hwrites, ⟨room, hfind, hended⟩, hseen⟩
    rw [rowStep_of_ended hstep hfind hended hlicence hnot']
    exact ⟨.refl hended, fun userId hin => isIn_of_ended hfind hended hlicence hnot' hin⟩
  · cases hstep with
    | same => exact absurd hended' hopen
    | updated => exact absurd hended' (status_apply_of_not_isEnd hlicence.1 hopen)
    | joinGraceMissed => exact absurd hended' hopen
    | rescheduled => cases hended'
    | ended _ _ hempty | lastLeft _ hempty =>
        refine ⟨rfl, ?_, isIn_eq_false_of_empty hempty⟩
        rintro endedAt ⟨⟩ expiresAt ⟨⟩
        exact le_rfl
    | expanded => exact absurd hended' hopen

end Step

/-- **Ended is final**, in every run in which no call writes a room by its id
alone that has ended since the call saw it open. -/
theorem final_of_not_endedMeanwhile {ι : Type} [DecidableEq ι] (calls : ι → RoomCall) (w : World)
    (before after : List ι)
    (hmeets : (begun calls w).Meets (exec planner) (fun i c s => ¬ EndedMeanwhile planner i c s)
      (before ++ after)) (roomId : RoomId) :
    Final ((begun calls w).runs (exec planner) before).scene.world
      ((begun calls w).runs (exec planner) (before ++ after)).scene.world roomId := by
  obtain ⟨-, hafter⟩ := (Conf.meets_append (exec planner)).mp hmeets
  rw [Conf.runs_append]
  have hlicensed := (begun_licensed planner calls w).runs before
  refine hlicensed.runs_inv (I := fun s =>
    Final ((begun calls w).runs (exec planner) before).scene.world s.world roomId) ?_
    (.refl _ roomId) hafter
  intro s i c hfinal hlicence hnot
  refine hfinal.trans (final_step hlicence ?_)
  rintro ⟨hwrites, hended, hopen⟩
  exact hnot ⟨roomId, hwrites, hended, hopen⟩

namespace Sample

/-- The host has left the match, and the visitor is still in it. -/
def halfDuet : World where
  rooms := duetWorld.rooms
  participants :=
    { rows := [⟨duet.id, ringer, .host, some 1⟩, ⟨duet.id, visitor, .participant, none⟩]
      unique := by decide }
  clock := minutes 1

def backAndOver : Bool → RoomCall
  | false => .join ringer duet.id
  | true => .leaveDirect visitor (some duet.id)

def isWrite : Cmd → Bool
  | .updateRoom .. | .addOrReactivateHostRow .. | .addOrReactivateParticipantRow .. => true
  | .runExpandDirectAcceptTransaction _ => true
  | _ => false

/-- A read, or a write before any end. -/
def inTime (w : World) (c : Cmd) : Bool := !isWrite c || w.rooms.rows.all (·.status ≠ .ended)

theorem not_endedMeanwhile_of_inTime {i : Bool} {c : Cmd} {s : Scene Bool Cmd Cmd.Reply World}
    (h : inTime s.world c = true) : ¬ EndedMeanwhile .inOrder i c s := by
  rintro ⟨roomId, hwrites, ⟨room, hfind, hended⟩, -⟩
  rw [inTime, Bool.or_eq_true] at h
  rcases h with hread | hopen
  · cases hwrites <;> cases hread
  · have hmem := (Sql.Table.mem_of_find hfind).1
    have hne := List.all_eq_true.mp hopen room hmem
    simp [hended] at hne

/-- The host comes back before the visitor leaves. -/
theorem final_backAndOver :
    Final ((begun backAndOver halfDuet).runs (exec .inOrder) (List.replicate 10 false)).scene.world
      ((begun backAndOver halfDuet).runs (exec .inOrder)
        (List.replicate 10 false ++ List.replicate 20 true)).scene.world duet.id := by
  apply final_of_not_endedMeanwhile .inOrder
  have hintime : (begun backAndOver halfDuet).Meets (exec .inOrder)
      (fun _ c s => inTime s.world c = true)
      (List.replicate 10 false ++ List.replicate 20 true) := by decide +kernel
  exact hintime.mono _ fun _ _ _ h => not_endedMeanwhile_of_inTime h

/-- The host is about to come back when the visitor leaves: the match ends, and
the host is in it. -/
theorem not_final_backAndOver :
    ¬ Final ((begun backAndOver halfDuet).runs (exec .inOrder)
        (List.replicate 8 false ++ List.replicate 20 true)).scene.world
      ((begun backAndOver halfDuet).runs (exec .inOrder)
        (List.replicate 8 false ++ List.replicate 20 true ++ List.replicate 2 false)).scene.world
      duet.id := by
  intro hfinal
  have hended : (((begun backAndOver halfDuet).runs (exec .inOrder)
      (List.replicate 8 false ++ List.replicate 20 true)).scene.world.rooms.find duet.id).any
      (·.status = .ended) = true := by decide +kernel
  have hout : ((begun backAndOver halfDuet).runs (exec .inOrder)
      (List.replicate 8 false ++ List.replicate 20 true)).scene.world.isIn duet.id ringer =
      false := by decide +kernel
  have hin : ((begun backAndOver halfDuet).runs (exec .inOrder)
      (List.replicate 8 false ++ List.replicate 20 true ++
        List.replicate 2 false)).scene.world.isIn duet.id ringer = true := by decide +kernel
  obtain ⟨room, hfind, hstatus⟩ := (Option.any_eq_true _ _).mp hended
  obtain ⟨room', -, hstays, -⟩ := hfinal room hfind
  rw [(hstays (of_decide_eq_true hstatus)).2 ringer hin] at hout
  cases hout

end Sample

end Greetup.Rooms
