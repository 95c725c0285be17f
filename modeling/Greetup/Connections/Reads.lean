import Greetup.Connections.Rows
import Greetup.Interleaving.Overlap

/-!
What the services read of the connections: one row, by its id, or all rows
between two users. Both are data that the statements of others may change, and
every statement replies with the row that it has changed.
-/

namespace Greetup.Connections

open Interleaving

/-! ### Statements on rows -/

/-- The statement is one on the rows of connections. -/
def Cmd.onRows : Cmd → Bool
  | .findAllBetween _ _ | .findConnection _ | .updateStatusById _ _ | .deleteById _
  | .setAsPendingRequest _ _ _ | .insertPendingRequest _ _ | .cancelAcceptedConnectionAsPeer _ _
  | .cancelPendingOutgoingRequest _ _ => true
  | _ => false

/-- The statement writes rows of connections. -/
def Cmd.writesRows : Cmd → Bool
  | .updateStatusById _ _ | .deleteById _ | .setAsPendingRequest _ _ _ | .insertPendingRequest _ _
  | .cancelAcceptedConnectionAsPeer _ _ | .cancelPendingOutgoingRequest _ _ => true
  | _ => false

/-- The rows that the statement has written, as it has found them, and the row
that it has put in the place of another or added. -/
def written : Told Cmd Cmd.Reply → List ConnectionRow
  | ⟨.updateStatusById _ _, row⟩ | ⟨.cancelAcceptedConnectionAsPeer _ _, row⟩
  | ⟨.cancelPendingOutgoingRequest _ _, row⟩ | ⟨.deleteById _, .ok row⟩ => row.toList
  | ⟨.setAsPendingRequest id requesterId addresseeId, .ok (some row)⟩ =>
      [row, ⟨id, requesterId, addresseeId, .pending⟩]
  | ⟨.insertPendingRequest requesterId addresseeId, some id⟩ =>
      [⟨id, requesterId, addresseeId, .pending⟩]
  | _ => []

section Written

variable {planner : Planner} {w : World} {c : Cmd} {r : ConnectionRow}
  {id : ConnectionId} {p : ConnectionRow → Bool} {status : ConnectionStatus}

theorem World.mem_updateStatus_or (hr : r ∈ w.connections.rows) :
    r ∈ (w.updateStatus id p status).2.connections.rows ∨
      r ∈ (w.updateStatus id p status).1.toList := by
  by_cases hhit : r.id = id ∧ p r = true
  · obtain ⟨rfl, hp⟩ := hhit
    refine .inr (Option.mem_toList.mpr ?_)
    show Option.filter p (w.connections.find r.id) = some r
    rw [Sql.Table.find_eq_some.mpr ⟨hr, rfl⟩, Option.filter_some_pos hp]
  · refine .inl (List.mem_map.mpr ⟨r, hr, if_neg ?_⟩)
    simpa using hhit

theorem World.mem_or_updateStatus (hr : r ∈ (w.updateStatus id p status).2.connections.rows) :
    r ∈ w.connections.rows ∨ ∃ row ∈ (w.updateStatus id p status).1.toList,
      row.id = r.id ∧ row.direction = r.direction := by
  rcases ConnectionTable.of_mem_setStatus hr with ⟨hold, -⟩ | ⟨row, hrow, hhit, rfl⟩
  · exact .inl hold
  · rw [Bool.and_eq_true, decide_eq_true_eq] at hhit
    obtain ⟨rfl, hp⟩ := hhit
    refine .inr ⟨row, Option.mem_toList.mpr ?_, rfl, rfl⟩
    show Option.filter p (w.connections.find row.id) = some row
    rw [Sql.Table.find_eq_some.mpr ⟨hrow, rfl⟩, Option.filter_some_pos hp]

/-- A row stays as it is, or is written. -/
theorem mem_exec_or (hr : r ∈ w.connections.rows) :
    r ∈ (exec planner c w).2.connections.rows ∨ r ∈ written ⟨c, (exec planner c w).1⟩ := by
  cases c with
  | updateStatusById | cancelAcceptedConnectionAsPeer | cancelPendingOutgoingRequest =>
      exact World.mem_updateStatus_or hr
  | deleteById id =>
      rw [exec]
      split
      · exact .inl hr
      by_cases hid : r.id = id
      · subst hid
        exact .inr (Option.mem_toList.mpr (Sql.Table.find_eq_some.mpr ⟨hr, rfl⟩))
      · exact .inl (ConnectionTable.mem_delete.mpr ⟨hr, hid⟩)
  | setAsPendingRequest id requesterId addresseeId =>
      rw [exec, World.redirect]
      cases hredirect : w.connections.redirect id requesterId addresseeId with
      | none => exact .inl hr
      | some t =>
          cases hfind : w.connections.find id with
          | none => exact .inl ((ConnectionTable.redirect_of_none hfind hredirect) ▸ hr)
          | some row =>
              by_cases hrow : r = row
              · exact .inr (hrow ▸ List.mem_cons_self)
              · exact .inl ((ConnectionTable.mem_redirect hfind hredirect).mpr (.inl ⟨hr, hrow⟩))
  | insertPendingRequest requesterId addresseeId =>
      rw [exec, World.insertConnection]
      split
      · exact .inl hr
      · rename_i t hinsert
        exact .inl ((ConnectionTable.mem_insert hinsert).mpr (.inr hr))
  | insertBlock blockerId blockedId =>
      rw [exec]
      split
      · exact .inl hr
      · exact .inl hr
  | _ => exact .inl hr

/-- A row was there as it is, or was written. -/
theorem mem_or_written (hr : r ∈ (exec planner c w).2.connections.rows) :
    r ∈ w.connections.rows ∨ ∃ row ∈ written ⟨c, (exec planner c w).1⟩,
      row.id = r.id ∧ row.direction = r.direction := by
  cases c with
  | updateStatusById | cancelAcceptedConnectionAsPeer | cancelPendingOutgoingRequest =>
      exact World.mem_or_updateStatus hr
  | deleteById id =>
      rw [exec_deleteById] at hr
      split at hr
      · exact .inl hr
      · exact .inl (ConnectionTable.mem_delete.mp hr).1
  | setAsPendingRequest id requesterId addresseeId =>
      rw [exec, World.redirect] at hr ⊢
      cases hredirect : w.connections.redirect id requesterId addresseeId with
      | none =>
          rw [hredirect] at hr
          exact .inl hr
      | some t =>
          rw [hredirect] at hr
          cases hfind : w.connections.find id with
          | none => exact .inl ((ConnectionTable.redirect_of_none hfind hredirect) ▸ hr)
          | some row =>
              rcases (ConnectionTable.mem_redirect hfind hredirect).mp hr with ⟨hold, -⟩ | rfl
              · exact .inl hold
              · obtain ⟨-, rfl⟩ := Sql.Table.mem_of_find hfind
                exact .inr ⟨_, List.mem_cons_of_mem _ List.mem_cons_self, rfl, rfl⟩
  | insertPendingRequest requesterId addresseeId =>
      rw [exec, World.insertConnection] at hr ⊢
      split at hr
      · exact .inl hr
      · rename_i t hinsert
        rcases (ConnectionTable.mem_insert hinsert).mp hr with rfl | hold
        · exact .inr ⟨_, List.mem_cons_self, rfl, rfl⟩
        · exact .inl hold
  | insertBlock blockerId blockedId =>
      rw [exec] at hr
      split at hr
      · exact .inl hr
      · exact .inl hr
  | _ => exact .inl hr

/-- What holds of none of the written rows is true of the same rows as before. -/
theorem mem_exec_iff {q : ConnectionRow → Bool}
    (hq : ∀ r r' : ConnectionRow, r.id = r'.id → r.direction = r'.direction → q r = q r')
    (hnone : (written ⟨c, (exec planner c w).1⟩).any q = false) (hr : q r = true) :
    r ∈ (exec planner c w).2.connections.rows ↔ r ∈ w.connections.rows := by
  have hnot (row : ConnectionRow) (hrow : row ∈ written ⟨c, (exec planner c w).1⟩) :
      ¬ q row = true := List.any_eq_false.mp hnone row hrow
  constructor
  · intro hmem
    refine (mem_or_written hmem).resolve_right ?_
    rintro ⟨row, hrow, hid, hdirection⟩
    exact hnot row hrow ((hq row r hid hdirection).trans hr)
  · exact fun hmem => (mem_exec_or hmem).resolve_right fun hwritten => hnot r hwritten hr

end Written

/-! ### One row -/

section Data

variable (planner : Planner) {w : World} {c : Cmd} {r row : ConnectionRow} {id : ConnectionId}
  {a b : UserId} {h : History}

/-- The row with the id. -/
def connectionRow (id : ConnectionId) : Datum (exec planner) (Option ConnectionRow) :=
  .ofReads (·.connections.find id)
    (fun
      | ⟨.findConnection id', row⟩ => if id' = id then some row else none
      | _ => none)
    (fun e => (written e).any (·.id = id))
    (by
      intro c w row hrow
      cases c with
      | findConnection id' =>
          obtain ⟨rfl, hfound⟩ := Option.ite_none_right_eq_some.mp hrow
          exact Option.some.inj hfound
      | _ => cases hrow)
    (by
      intro c w hnone
      ext r
      rw [Sql.Table.find_eq_some, Sql.Table.find_eq_some]
      refine and_congr_left fun hid => mem_exec_iff (q := (decide <| ·.id = id)) ?_ hnone ?_
      · rintro r r' hid -
        rw [hid]
      · exact decide_eq_true hid)

theorem believed_connectionRow :
    (connectionRow planner id).believed [⟨.findConnection id, some row⟩] = some (some row) :=
  (connectionRow planner id).believed_cons_of_tells (if_pos rfl)

/-! ### All rows between two users -/

/-- The row after an update. -/
def ConnectionRow.withStatus (id : ConnectionId) (p : ConnectionRow → Bool)
    (status : ConnectionStatus) (row : ConnectionRow) : ConnectionRow :=
  if row.id = id && p row then { row with status } else row

/-- What a caller takes the rows for after a statement of its own. -/
def movesRows : Told Cmd Cmd.Reply → Set ConnectionRow → Option (Set ConnectionRow)
  | ⟨.updateStatusById id status, _⟩, rows =>
      some (ConnectionRow.withStatus id (fun _ => true) status '' rows)
  | ⟨.cancelAcceptedConnectionAsPeer id viewerId, _⟩, rows =>
      some (ConnectionRow.withStatus id
        (fun row => row.requesterId = viewerId || row.addresseeId = viewerId) .cancelled '' rows)
  | ⟨.cancelPendingOutgoingRequest id requesterId, _⟩, rows =>
      some (ConnectionRow.withStatus id (·.requesterId = requesterId) .cancelled '' rows)
  | ⟨.deleteById id, .ok _⟩, rows => some {row ∈ rows | row.id ≠ id}
  | ⟨.setAsPendingRequest _ _ _, _⟩, _ | ⟨.insertPendingRequest _ _, _⟩, _ => none
  | _, rows => some rows

theorem movesRows_of_not_writesRows {e : Told Cmd Cmd.Reply} (he : e.1.writesRows = false)
    (rows : Set ConnectionRow) : movesRows e rows = some rows := by
  obtain ⟨c, reply⟩ := e
  cases c <;> first | rfl | cases he

def World.between (w : World) (a b : UserId) : Set ConnectionRow :=
  {row | row ∈ w.connections.rows ∧ row.isBetween a b = true}

theorem isBetween_of_direction {r r' : ConnectionRow} (h : r.direction = r'.direction) :
    r.isBetween a b = r'.isBetween a b := by
  obtain ⟨hrequester, haddressee⟩ := Prod.mk.inj h
  rw [ConnectionRow.isBetween, ConnectionRow.isBetween, hrequester, haddressee]

theorem isBetween_withStatus {p : ConnectionRow → Bool} {status : ConnectionStatus} :
    (row.withStatus id p status).isBetween a b = row.isBetween a b := by
  rw [ConnectionRow.withStatus]
  split <;> rfl

theorem between_updateStatus {p : ConnectionRow → Bool} {status : ConnectionStatus} :
    (w.updateStatus id p status).2.between a b =
      ConnectionRow.withStatus id p status '' w.between a b := by
  ext r
  constructor
  · rintro ⟨hmem, hbetween⟩
    obtain ⟨row, hrow, rfl⟩ := List.mem_map.mp hmem
    exact ⟨row, ⟨hrow, isBetween_withStatus.symm.trans hbetween⟩, rfl⟩
  · rintro ⟨row, ⟨hrow, hbetween⟩, rfl⟩
    exact ⟨List.mem_map.mpr ⟨row, hrow, rfl⟩, isBetween_withStatus.trans hbetween⟩

theorem between_of_not_writesRows (hc : c.writesRows = false) :
    (exec planner c w).2.between a b = w.between a b := by
  cases c with
  | insertBlock blockerId blockedId => rw [exec]; split <;> rfl
  | _ => first | rfl | cases hc

/-- The rows between the two users. -/
def rowsBetween (a b : UserId) : Datum (exec planner) (Set ConnectionRow) where
  value w := w.between a b
  tells
    | ⟨.findAllBetween a' b', rows⟩ => if a' = a ∧ b' = b then some {row | row ∈ rows} else none
    | _ => none
  moves := movesRows
  changes e := (written e).any (·.isBetween a b)
  tells_exec := by
    intro c w rows hrows
    cases c with
    | findAllBetween a' b' =>
        obtain ⟨⟨rfl, rfl⟩, htold⟩ := Option.ite_none_right_eq_some.mp hrows
        rw [← Option.some.inj htold]
        ext r
        show r ∈ w.between a' b' ↔ r ∈ planner.arrange _
        rw [(planner.perm _).mem_iff, List.mem_filter]
        exact Iff.rfl
    | _ => cases hrows
  moves_exec := by
    intro c w rows hrows
    cases c with
    | updateStatusById | cancelAcceptedConnectionAsPeer | cancelPendingOutgoingRequest =>
        cases hrows
        exact between_updateStatus
    | deleteById id =>
        rw [exec] at hrows ⊢
        split at hrows
        · rename_i hlinked
          rw [if_pos hlinked]
          cases hrows
          rfl
        · rename_i hlinked
          rw [if_neg hlinked]
          cases hrows
          ext r
          exact (and_congr_left' ConnectionTable.mem_delete).trans and_right_comm
    | setAsPendingRequest | insertPendingRequest => cases hrows
    | _ =>
        cases hrows
        exact between_of_not_writesRows planner rfl
  value_exec := by
    intro c w hnone
    ext r
    refine and_congr_left fun hbetween => mem_exec_iff (q := (·.isBetween a b)) ?_ hnone hbetween
    exact fun r r' _ => isBetween_of_direction

theorem tells_findAllBetween {rows : List ConnectionRow} :
    (rowsBetween planner a b).tells ⟨.findAllBetween a b, rows⟩ = some {row | row ∈ rows} :=
  if_pos ⟨rfl, rfl⟩

theorem believed_rowsBetween {rows : List ConnectionRow} :
    (rowsBetween planner a b).believed (⟨.findAllBetween a b, rows⟩ :: h) =
      some {row | row ∈ rows} :=
  (rowsBetween planner a b).believed_cons_of_tells (tells_findAllBetween planner)

/-- What does not write rows, and does not read these, changes no belief. -/
theorem believed_rowsBetween_cons {e : Told Cmd Cmd.Reply} (hwrites : e.1.writesRows = false)
    (hreads : e.1 ≠ .findAllBetween a b) :
    (rowsBetween planner a b).believed (e :: h) = (rowsBetween planner a b).believed h := by
  have htells : (rowsBetween planner a b).tells e = none := by
    obtain ⟨c, reply⟩ := e
    cases c with
    | findAllBetween a' b' =>
        refine if_neg ?_
        rintro ⟨rfl, rfl⟩
        exact hreads rfl
    | _ => rfl
  have hmoves : (rowsBetween planner a b).moves e = some :=
    funext (movesRows_of_not_writesRows hwrites)
  rw [Datum.believed, htells, Option.none_or, hmoves, Option.bind_fun_some]

end Data

end Greetup.Connections
