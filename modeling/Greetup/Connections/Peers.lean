import Greetup.Connections.Rows
import Greetup.Interleaving.Sequence

/-!
Whom matching takes for connected. Every service that makes or ends a
connection is to change the sets of both users; each is followed here from a
store in which the sets and the table agree.
-/

namespace Greetup.Connections

open Interleaving

/-! ### What agrees with what -/

namespace World

/-- The set of every user holds those that the user is connected to. -/
def PeersMatch (w : World) : Prop := ∀ a b, b ∈ w.connectionPeers a ↔ w.Connected a b

/-- The accepted rows and the sets are the same in both. -/
structure SamePeers (w w' : World) : Prop where
  peers : w'.connectionPeers = w.connectionPeers
  accepted : ∀ r : ConnectionRow, r.status = .accepted →
    (r ∈ w'.connections.rows ↔ r ∈ w.connections.rows)

variable {w w' w'' : World} {a b : UserId} {id : ConnectionId} {row : ConnectionRow}

theorem SamePeers.refl (w : World) : w.SamePeers w := ⟨rfl, fun _ _ => Iff.rfl⟩

theorem SamePeers.trans (h : w.SamePeers w') (h' : w'.SamePeers w'') : w.SamePeers w'' :=
  ⟨h'.peers.trans h.peers, fun r hr => (h'.accepted r hr).trans (h.accepted r hr)⟩

theorem SamePeers.connected (h : w.SamePeers w') : w'.Connected a b ↔ w.Connected a b := by
  constructor
  · rintro ⟨r, hr, hbetween, hstatus⟩
    exact ⟨r, (h.accepted r hstatus).mp hr, hbetween, hstatus⟩
  · rintro ⟨r, hr, hbetween, hstatus⟩
    exact ⟨r, (h.accepted r hstatus).mpr hr, hbetween, hstatus⟩

theorem SamePeers.peersMatch_iff (h : w.SamePeers w') : w'.PeersMatch ↔ w.PeersMatch := by
  simp only [PeersMatch, h.peers, h.connected]

theorem connected_comm : w.Connected a b ↔ w.Connected b a := by
  simp only [Connected, isBetween_comm]

theorem not_connected_self : ¬ w.Connected a a := by
  rintro ⟨r, hr, hbetween, -⟩
  rcases isBetween_iff.mp hbetween with ⟨rfl, hself⟩ | ⟨rfl, hself⟩
  · exact w.connections.noSelf r hr hself.symm
  · exact w.connections.noSelf r hr hself.symm

/-- Rows that are not accepted come and go. -/
theorem samePeers_setConnections {t : ConnectionTable}
    (h : ∀ r : ConnectionRow, r.status = .accepted → (r ∈ t.rows ↔ r ∈ w.connections.rows)) :
    w.SamePeers (w.setConnections t) :=
  ⟨rfl, h⟩

/-- A row that is not accepted gets another status that is not. -/
theorem samePeers_updateStatus {p : ConnectionRow → Bool} {status : ConnectionStatus}
    (hstatus : status ≠ .accepted)
    (hid : ∀ r ∈ w.connections.rows, r.id = id → r.status ≠ .accepted) :
    w.SamePeers (w.updateStatus id p status).2 := by
  refine ⟨rfl, fun r hr => ?_⟩
  rw [mem_updateStatus_accepted hstatus hr]
  refine and_iff_left_of_imp fun hmem => ?_
  rw [decide_eq_false fun heq => hid r hmem heq hr, Bool.false_and]

theorem samePeers_endPending {p : ConnectionRow → Bool} {status : ConnectionStatus}
    (hfind : w.connections.find id = some row) (hpending : row.status = .pending)
    (hstatus : status ≠ .accepted) : w.SamePeers (w.updateStatus id p status).2 := by
  obtain ⟨hrow, rfl⟩ := Sql.Table.mem_of_find hfind
  apply samePeers_updateStatus hstatus
  intro r hr hid
  rw [ConnectionTable.eq_of_id hr hrow hid, hpending]
  simp

/-- The accepted rows after one row was accepted. -/
theorem connected_accept (hfind : w.connections.find id = some row) :
    (w.updateStatus id (fun _ => true) .accepted).2.Connected a b ↔
      w.Connected a b ∨ row.isBetween a b = true := by
  have hmem (r : ConnectionRow) :
      r ∈ (w.updateStatus id (fun _ => true) .accepted).2.connections.rows ↔
        r ∈ w.connections.rows ∧ r ≠ row ∨ r = { row with status := .accepted } :=
    ConnectionTable.mem_setStatus hfind rfl
  constructor
  · rintro ⟨r, hr, hbetween, hstatus⟩
    rcases (hmem r).mp hr with ⟨hold, -⟩ | rfl
    · exact .inl ⟨r, hold, hbetween, hstatus⟩
    · exact .inr hbetween
  · rintro (⟨r, hr, hbetween, hstatus⟩ | hbetween)
    · by_cases hrow : r = row
      · subst hrow
        exact ⟨_, (hmem _).mpr (.inr rfl), hbetween, rfl⟩
      · exact ⟨r, (hmem r).mpr (.inl ⟨hr, hrow⟩), hbetween, hstatus⟩
    · exact ⟨_, (hmem _).mpr (.inr rfl), hbetween, rfl⟩

end World

/-! ### Programs that concern neither -/

section Programs

variable {α : Type} (planner : Planner) {w : World} {a b c d : UserId}

/-- The command reads, or writes what has nothing to do with connections. -/
def Cmd.Aside : Cmd → Prop
  | .updateStatusById _ _ | .deleteById _ | .setAsPendingRequest _ _ _ | .insertPendingRequest _ _
  | .cancelAcceptedConnectionAsPeer _ _ | .cancelPendingOutgoingRequest _ _
  | .addPeer _ _ | .removePeer _ _ | .replacePeers _ _ => False
  | _ => True

theorem samePeers_exec (c : Cmd) (hc : c.Aside) (w : World) :
    w.SamePeers (exec planner c w).2 := by
  cases c with
  | insertBlock blockerId blockedId =>
      rw [exec]
      split
      · exact .refl w
      · exact ⟨rfl, fun _ _ => Iff.rfl⟩
  | _ => first | exact hc.elim | exact ⟨rfl, fun _ _ => Iff.rfl⟩

theorem samePeers_run {p : M α} (hp : p.Uses Cmd.Aside) :
    w.SamePeers (p.run (exec planner) w).2 :=
  hp.run_keeps (fun c hc _ h => h.trans (samePeers_exec planner c hc _)) (.refl w)

theorem aside_requested (connectionId : ConnectionId) (dedupeSalt : Option String) :
    (requested a b connectionId dedupeSalt).Uses Cmd.Aside :=
  ⟨trivial, fun _ => trivial⟩

theorem mem_findAllBetween {row : ConnectionRow} :
    row ∈ (exec planner (.findAllBetween a b) w).1 ↔
      row ∈ w.connections.rows ∧ row.isBetween a b = true :=
  (planner.perm _).mem_iff.trans List.mem_filter

theorem run_addMatchingConnectionPeers (hab : a ≠ b) :
    ((addMatchingConnectionPeers a b).run (exec planner) w).2.connections = w.connections ∧
      (d ∈ ((addMatchingConnectionPeers a b).run (exec planner) w).2.connectionPeers c ↔
        d ∈ w.connectionPeers c ∨ a = c ∧ b = d ∨ a = d ∧ b = c) := by
  simp only [addMatchingConnectionPeers, addPeer, if_neg hab, if_neg hab.symm, Prog.run_bind,
    Prog.run_perform, exec, true_and]
  rw [mem_update_insert, mem_update_insert, or_assoc, and_comm (a := b = c)]

theorem run_removeMatchingConnectionPeers :
    ((removeMatchingConnectionPeers a b).run (exec planner) w).2.connections = w.connections ∧
      (d ∈ ((removeMatchingConnectionPeers a b).run (exec planner) w).2.connectionPeers c ↔
        d ∈ w.connectionPeers c ∧ ¬ (a = c ∧ b = d ∨ a = d ∧ b = c)) := by
  simp only [removeMatchingConnectionPeers, Prog.run_bind, Prog.run_perform, exec, true_and]
  rw [mem_update_erase, mem_update_erase, and_assoc, not_or, and_comm (a := b = c)]

/-- One row is accepted, and both users are told so. -/
theorem peersMatch_accept {row : ConnectionRow} (hw : w.PeersMatch)
    (hfind : w.connections.find row.id = some row) (hrow : row.isBetween a b = true) :
    ((addMatchingConnectionPeers a b).run (exec planner)
      (w.updateStatus row.id (fun _ => true) .accepted).2).2.PeersMatch := by
  have hab : a ≠ b := by
    rintro rfl
    have hself := w.connections.noSelf row (Sql.Table.mem_of_find hfind).1
    rcases isBetween_iff.mp hrow with ⟨h, h'⟩ | ⟨h, h'⟩
    · exact hself (h.trans h'.symm)
    · exact hself (h.trans h'.symm)
  intro c d
  obtain ⟨hconnections, hpeers⟩ := run_addMatchingConnectionPeers planner
    (w := (w.updateStatus row.id (fun _ => true) .accepted).2) (c := c) (d := d) hab
  rw [hpeers, World.Connected, hconnections]
  show d ∈ w.connectionPeers c ∨ _ ↔
      (w.updateStatus row.id (fun _ => true) .accepted).2.Connected c d
  rw [World.connected_accept hfind, hw c d, isBetween_iff_of hrow]

/-! ### Requests -/

section Requests

variable {direct reverse : ConnectionRow}

theorem not_accepted_of_isStaleRow {row : ConnectionRow} (h : isStaleRow row = true) :
    row.status ≠ .accepted := by
  intro hstatus
  simp [isStaleRow, hstatus] at h

/-- A row that was stale when it was read is not accepted now. -/
theorem not_accepted_of_id {row : ConnectionRow} (hrow : row ∈ w.connections.rows)
    (hstale : isStaleRow row = true) :
    ∀ r ∈ w.connections.rows, r.id = row.id → r.status ≠ .accepted := by
  intro r hr hid
  cases ConnectionTable.eq_of_id hr hrow hid
  exact not_accepted_of_isStaleRow hstale

theorem samePeers_reopen {dedupeSalt : String}
    (hdirect : ∀ r ∈ w.connections.rows, r.id = direct.id → r.status ≠ .accepted) :
    w.SamePeers ((reopen a b direct dedupeSalt).run (exec planner) w).2 := by
  rw [reopen, Prog.run_bind]
  exact (World.samePeers_updateStatus (by simp) hdirect).trans
    (samePeers_run planner (aside_requested _ _))

theorem samePeers_merge (hdirect : direct ∈ w.connections.rows)
    (hstale : isStaleRow direct = true) (hreverse : reverse ∈ w.connections.rows)
    (hstale' : isStaleRow reverse = true) :
    w.SamePeers ((issue (.deleteById reverse.id) >>= mergeDeleted a b direct).run
      (exec planner) w).2 := by
  rw [Prog.run_bind, Prog.run_perform, exec]
  cases hlinked : w.linked reverse.id with
  | true => exact .refl w
  | false =>
      rw [if_neg Bool.false_ne_true]
      have hdeleted : w.SamePeers (w.setConnections (w.connections.delete reverse.id)) := by
        refine World.samePeers_setConnections fun r hr => ?_
        rw [ConnectionTable.mem_delete]
        exact and_iff_left_of_imp fun hmem hid => not_accepted_of_id hreverse hstale' r hmem hid hr
      refine hdeleted.trans (samePeers_reopen planner fun r hr hid => ?_)
      exact not_accepted_of_id hdirect hstale r (ConnectionTable.mem_delete.mp hr).1 hid

theorem samePeers_flip (hreverse : reverse ∈ w.connections.rows)
    (hstale : isStaleRow reverse = true) :
    w.SamePeers ((issue (.setAsPendingRequest reverse.id a b) >>= flipped a b reverse).run
      (exec planner) w).2 := by
  rw [Prog.run_bind, Prog.run_perform, exec, World.redirect]
  cases hredirect : w.connections.redirect reverse.id a b with
  | none => exact .refl w
  | some connections =>
      refine .trans (World.samePeers_setConnections fun r hr => ?_)
        (samePeers_run planner (aside_requested _ _))
      have hfind := Sql.Table.find_eq_some.mpr ⟨hreverse, rfl⟩
      rw [ConnectionTable.mem_redirect hfind hredirect]
      constructor
      · rintro (⟨hmem, -⟩ | rfl)
        · exact hmem
        · cases hr
      · intro hmem
        refine .inl ⟨hmem, ?_⟩
        rintro rfl
        exact not_accepted_of_isStaleRow hstale hr

theorem samePeers_insert :
    w.SamePeers ((issue (.insertPendingRequest a b) >>= inserted a b).run (exec planner) w).2 := by
  rw [Prog.run_bind, Prog.run_perform, exec, World.insertConnection]
  cases hinsert : w.connections.insert ⟨w.uuids w.uuidsDrawn, a, b, .pending⟩ with
  | none => exact ⟨rfl, fun _ _ => Iff.rfl⟩
  | some connections =>
      have hinserted : w.SamePeers
          ({ w with uuidsDrawn := w.uuidsDrawn + 1 }.setConnections connections) := by
        refine ⟨rfl, fun r hr => (ConnectionTable.mem_insert hinsert).trans (or_iff_right ?_)⟩
        rintro rfl
        cases hr
      exact hinserted.trans (samePeers_run planner (aside_requested _ _))

theorem samePeers_openRequest {direct reverse : Option ConnectionRow}
    (hdirect : ∀ row, direct = some row → row ∈ w.connections.rows)
    (hreverse : ∀ row, reverse = some row → row ∈ w.connections.rows) :
    w.SamePeers ((openRequest a b direct reverse).run (exec planner) w).2 := by
  rw [openRequest]
  split
  · rename_i direct' reverse' h h'
    obtain ⟨hmem, hstale⟩ := Option.filter_eq_some_iff.mp h
    obtain ⟨hmem', hstale'⟩ := Option.filter_eq_some_iff.mp h'
    exact samePeers_merge planner (hdirect _ hmem) hstale (hreverse _ hmem') hstale'
  · rename_i direct' h h'
    obtain ⟨hmem, hstale⟩ := Option.filter_eq_some_iff.mp h
    exact samePeers_reopen planner (not_accepted_of_id (hdirect _ hmem) hstale)
  · rename_i reverse' h h'
    obtain ⟨hmem, hstale⟩ := Option.filter_eq_some_iff.mp h'
    exact samePeers_flip planner (hreverse _ hmem) hstale
  · exact samePeers_insert planner

theorem peersMatch_requestAmong {rows : List ConnectionRow} (hw : w.PeersMatch)
    (hrows : ∀ row ∈ rows, row ∈ w.connections.rows) :
    ((requestAmong a b rows).run (exec planner) w).2.PeersMatch := by
  rw [requestAmong]
  split
  · exact hw
  split
  · rename_i pending hpending
    have hmem := hrows pending (List.mem_of_find?_eq_some hpending)
    rw [meetPending]
    split
    · rename_i hreverse
      have hrow : pending.isBetween a b = true := by
        rw [isBetween_comm, ConnectionRow.isBetween, hreverse, Bool.true_or]
      have hpeers := peersMatch_accept planner hw (Sql.Table.find_eq_some.mpr ⟨hmem, rfl⟩) hrow
      rw [Prog.run_bind, Prog.run_bind]
      refine (samePeers_run planner ?_).peersMatch_iff.mpr hpeers
      exact ⟨trivial, fun _ => trivial⟩
    · exact hw
  · refine (samePeers_openRequest planner ?_ ?_).peersMatch_iff.mpr hw
    · exact fun row hrow => hrows row (List.mem_of_find?_eq_some hrow)
    · exact fun row hrow => hrows row (List.mem_of_find?_eq_some hrow)

theorem peersMatch_request (hw : w.PeersMatch) :
    ((requestConnectionService a b).run (exec planner) w).2.PeersMatch := by
  rw [requestConnectionService]
  split
  · exact hw
  rw [Prog.run_bind, requestUnlessBlocked]
  split
  · exact hw
  rw [Prog.run_bind]
  exact peersMatch_requestAmong planner hw fun row hrow => ((mem_findAllBetween planner).mp hrow).1

end Requests

/-! ### Answers -/

theorem peersMatch_acceptIncoming {connectionId : ConnectionId} (hw : w.PeersMatch) :
    ((acceptIncomingConnectionService a connectionId).run (exec planner) w).2.PeersMatch := by
  show ((acceptGated a (gateAddresseePending (w.connections.find connectionId) a)).run
    (exec planner) w).2.PeersMatch
  cases hgate : gateAddresseePending (w.connections.find connectionId) a with
  | error error => exact hw
  | ok row =>
      obtain ⟨hfind, haddressee, -⟩ := gateAddresseePending_eq_ok.mp hgate
      obtain ⟨-, rfl⟩ := Sql.Table.mem_of_find hfind
      have hrow : row.isBetween row.requesterId a = true := haddressee ▸ isBetween_self
      have hpeers := peersMatch_accept planner hw hfind hrow
      rw [acceptGated, Prog.run_bind, Prog.run_bind]
      refine (samePeers_run planner ?_).peersMatch_iff.mpr hpeers
      exact ⟨trivial, fun _ => ⟨trivial, fun _ => trivial⟩⟩

theorem samePeers_rejectIncoming {connectionId : ConnectionId} :
    w.SamePeers ((rejectIncomingConnectionService a connectionId).run (exec planner) w).2 := by
  show w.SamePeers ((rejectGated a (gateAddresseePending (w.connections.find connectionId) a)).run
    (exec planner) w).2
  cases hgate : gateAddresseePending (w.connections.find connectionId) a with
  | error error => exact .refl w
  | ok row =>
      obtain ⟨hfind, -, hpending⟩ := gateAddresseePending_eq_ok.mp hgate
      obtain ⟨-, rfl⟩ := Sql.Table.mem_of_find hfind
      rw [rejectGated, Prog.run_bind]
      exact (World.samePeers_endPending hfind hpending (by simp)).trans
        (samePeers_run planner ⟨trivial, fun _ => trivial⟩)

theorem samePeers_withdraw {connectionId : ConnectionId} :
    w.SamePeers ((withdrawConnectionRequestService a connectionId).run (exec planner) w).2 := by
  show w.SamePeers ((withdrawGated a (gateRequesterPending (w.connections.find connectionId) a)).run
    (exec planner) w).2
  cases hgate : gateRequesterPending (w.connections.find connectionId) a with
  | error error => exact .refl w
  | ok row =>
      obtain ⟨hfind, -, hpending⟩ := gateRequesterPending_eq_ok.mp hgate
      obtain ⟨-, rfl⟩ := Sql.Table.mem_of_find hfind
      rw [withdrawGated, Prog.run_bind]
      exact (World.samePeers_endPending hfind hpending (by simp)).trans
        (samePeers_run planner ⟨trivial, fun _ => trivial⟩)

/-! ### Ends -/

/-- Another accepted row lies between the users of this one. -/
def ConnectionRow.HasTwin (w : World) (row : ConnectionRow) : Prop :=
  ∃ r ∈ w.connections.rows, r ≠ row ∧ r.isBetween row.requesterId row.addresseeId ∧
    r.status = .accepted

theorem connected_cancelAccepted {row : ConnectionRow} {p : ConnectionRow → Bool}
    (hfind : w.connections.find row.id = some row) (hp : p row = true) :
    (w.updateStatus row.id p .cancelled).2.Connected c d ↔
      ∃ r ∈ w.connections.rows, r ≠ row ∧ r.isBetween c d ∧ r.status = .accepted := by
  obtain ⟨hrow, -⟩ := Sql.Table.mem_of_find hfind
  constructor
  · rintro ⟨r, hr, hbetween, hstatus⟩
    obtain ⟨hmem, hne⟩ := (World.mem_updateStatus_accepted (by simp) hstatus).mp hr
    refine ⟨r, hmem, ?_, hbetween, hstatus⟩
    rintro rfl
    simp [hp] at hne
  · rintro ⟨r, hr, hne, hbetween, hstatus⟩
    refine ⟨r, (World.mem_updateStatus_accepted (by simp) hstatus).mpr ⟨hr, ?_⟩, hbetween, hstatus⟩
    rw [decide_eq_false fun hid => hne (ConnectionTable.eq_of_id hr hrow hid), Bool.false_and]

/-- Ending one accepted row takes the two out of each other's sets, although
another row may still connect them. -/
theorem peersMatch_disconnectRow {row : ConnectionRow} {p : ConnectionRow → Bool}
    (hw : w.PeersMatch) (hfind : w.connections.find row.id = some row)
    (hp : p row = true) (hrow : row.isBetween a b = true) :
    ((removeMatchingConnectionPeers a b).run (exec planner)
      (w.updateStatus row.id p .cancelled).2).2.PeersMatch ↔ ¬ row.HasTwin w := by
  obtain ⟨hmem, -⟩ := Sql.Table.mem_of_find hfind
  have hafter (c d : UserId) :
      (d ∈ ((removeMatchingConnectionPeers a b).run (exec planner)
          (w.updateStatus row.id p .cancelled).2).2.connectionPeers c ↔
        w.Connected c d ∧ ¬ row.isBetween c d = true) ∧
      (((removeMatchingConnectionPeers a b).run (exec planner)
          (w.updateStatus row.id p .cancelled).2).2.Connected c d ↔
        ∃ r ∈ w.connections.rows, r ≠ row ∧ r.isBetween c d ∧ r.status = .accepted) := by
    obtain ⟨hconnections, hpeers⟩ := run_removeMatchingConnectionPeers planner
      (w := (w.updateStatus row.id p .cancelled).2) (a := a) (b := b) (c := c) (d := d)
    refine ⟨?_, ?_⟩
    · rw [hpeers, isBetween_iff_of hrow]
      exact and_congr_left fun _ => hw c d
    · rw [World.Connected, hconnections]
      exact connected_cancelAccepted hfind hp
  constructor
  · intro h htwin
    obtain ⟨hpeers, hconnected⟩ := hafter row.requesterId row.addresseeId
    exact (hpeers.mp ((h _ _).mpr (hconnected.mpr htwin))).2 isBetween_self
  · intro htwin c d
    obtain ⟨hpeers, hconnected⟩ := hafter c d
    rw [hpeers, hconnected]
    by_cases hcd : row.isBetween c d = true
    · refine iff_of_false (fun h => h.2 hcd) ?_
      rintro ⟨r, hr, hne, hbetween, haccepted⟩
      exact htwin ⟨r, hr, hne, (isBetween_row hcd r).trans hbetween, haccepted⟩
    · constructor
      · rintro ⟨⟨r, hr, hbetween, haccepted⟩, -⟩
        exact ⟨r, hr, fun heq => hcd (heq ▸ hbetween), hbetween, haccepted⟩
      · rintro ⟨r, hr, -, hbetween, haccepted⟩
        exact ⟨⟨r, hr, hbetween, haccepted⟩, hcd⟩

theorem isBetween_peerOf {row : ConnectionRow} (h : row.requesterId = a ∨ row.addresseeId = a) :
    row.isBetween a (row.peerOf a) = true := by
  rw [ConnectionRow.peerOf]
  split
  · rename_i hrequester
    exact isBetween_iff.mpr (.inl ⟨hrequester, rfl⟩)
  · rename_i hrequester
    exact isBetween_iff.mpr (.inr ⟨rfl, h.resolve_left hrequester⟩)

/-- `disconnectConnectionService` ends the row. -/
def ConnectionRow.IsEndedBy (viewerId : UserId) (connectionId : ConnectionId)
    (row : ConnectionRow) : Prop :=
  row.id = connectionId ∧ (row.requesterId = viewerId ∨ row.addresseeId = viewerId) ∧
    row.status = .accepted

theorem peersMatch_disconnect {connectionId : ConnectionId} (hw : w.PeersMatch) :
    ((disconnectConnectionService a connectionId).run (exec planner) w).2.PeersMatch ↔
      ¬ ∃ row ∈ w.connections.rows, row.IsEndedBy a connectionId ∧ row.HasTwin w := by
  show ((disconnectGated a (gatePeerAccepted (w.connections.find connectionId) a)).run
    (exec planner) w).2.PeersMatch ↔ _
  cases hgate : gatePeerAccepted (w.connections.find connectionId) a with
  | error error =>
      refine iff_of_true hw ?_
      rintro ⟨row, hrow, ⟨hid, hparty, hstatus⟩, -⟩
      have hfind := Sql.Table.find_eq_some.mpr ⟨hrow, hid⟩
      rw [gatePeerAccepted_eq_ok.mpr ⟨hfind, hparty, hstatus⟩] at hgate
      cases hgate
  | ok row =>
      obtain ⟨hfind, hparty, hstatus⟩ := gatePeerAccepted_eq_ok.mp hgate
      obtain ⟨hmem, rfl⟩ := Sql.Table.mem_of_find hfind
      have hrow := peersMatch_disconnectRow planner
        (p := fun row => row.requesterId = a || row.addresseeId = a) hw hfind
        (by simpa using hparty) (isBetween_peerOf hparty)
      rw [disconnectGated, Prog.run_bind, Prog.run_bind]
      refine Iff.trans (World.SamePeers.peersMatch_iff (samePeers_run planner ?_)) (hrow.trans ?_)
      · exact ⟨trivial, fun _ => trivial⟩
      refine not_congr ⟨fun htwin => ⟨row, hmem, ⟨rfl, hparty, hstatus⟩, htwin⟩, ?_⟩
      rintro ⟨row', hrow', ⟨hid, -⟩, htwin⟩
      cases ConnectionTable.eq_of_id hrow' hmem hid
      exact htwin

/-! ### Blocks -/

/-- The command leaves the sets of peers alone. -/
def Cmd.LeavesPeers : Cmd → Prop
  | .addPeer _ _ | .removePeer _ _ | .replacePeers _ _ => False
  | _ => True

theorem exec_connectionPeers (c : Cmd) (hc : c.LeavesPeers) (w : World) :
    (exec planner c w).2.connectionPeers = w.connectionPeers := by
  cases c with
  | insertBlock blockerId blockedId => rw [exec]; split <;> rfl
  | deleteById id => rw [exec_deleteById]; split <;> rfl
  | setAsPendingRequest id requesterId addresseeId => rw [exec, World.redirect]; split <;> rfl
  | insertPendingRequest requesterId addresseeId =>
      rw [exec, World.insertConnection]
      split <;> rfl
  | _ => first | exact hc.elim | rfl

theorem connectionPeers_run {p : M α} (hp : p.Uses Cmd.LeavesPeers) :
    (p.run (exec planner) w).2.connectionPeers = w.connectionPeers :=
  hp.run_keeps (I := fun w' => w'.connectionPeers = w.connectionPeers)
    (fun c hc w' h => (exec_connectionPeers planner c hc w').trans h) rfl

/-- The row that was read still goes in its direction, and has not been accepted
since. -/
def World.Follows (w : World) (row : ConnectionRow) : Prop :=
  ∀ r ∈ w.connections.rows, r.id = row.id →
    r.direction = row.direction ∧ (r.status = .accepted → row.status = .accepted)

theorem leavesPeers_cancelRow (row : ConnectionRow) : (cancelRow a row).Uses Cmd.LeavesPeers := by
  rw [cancelRow]
  split
  · exact ⟨trivial, fun _ => ⟨trivial, fun _ => trivial⟩⟩
  split
  · trivial
  split
  · exact ⟨trivial, fun _ => ⟨trivial, fun _ => trivial⟩⟩
  · exact ⟨trivial, fun _ => ⟨trivial, fun _ => trivial⟩⟩

theorem leavesPeers_cancelRows (rows : List ConnectionRow) :
    (cancelRows a rows).Uses Cmd.LeavesPeers := by
  induction rows with
  | nil => trivial
  | cons row rows ih => exact (leavesPeers_cancelRow row).bind fun _ => ih

/-- What is read of a row decides what is done to it; no row is accepted. -/
theorem run_cancelRow (row : ConnectionRow) : ∃ p status, status ≠ .accepted ∧
    (row.status = .accepted →
      p = fun r : ConnectionRow => decide (r.requesterId = a) || decide (r.addresseeId = a)) ∧
    ((cancelRow a row).run (exec planner) w).2.connections =
      w.connections.setStatus (fun r => decide (r.id = row.id) && p r) status := by
  rw [cancelRow]
  by_cases haccepted : row.status = .accepted
  · rw [if_pos haccepted]
    exact ⟨_, .cancelled, by simp, fun _ => rfl, rfl⟩
  rw [if_neg haccepted]
  by_cases hpending : row.status = .pending
  · rw [if_neg (not_not.mpr hpending)]
    split
    · exact ⟨_, .cancelled, by simp, fun h => absurd h haccepted, rfl⟩
    · exact ⟨_, .rejected, by simp, fun h => absurd h haccepted, rfl⟩
  · rw [if_pos hpending]
    refine ⟨fun _ => false, .cancelled, by simp, fun h => absurd h haccepted, ?_⟩
    exact (ConnectionTable.setStatus_of_none fun _ _ => rfl).symm

section Block

variable {row row' r : ConnectionRow} {rows : List ConnectionRow}

theorem follows_cancelRow (h : w.Follows row') :
    ((cancelRow a row).run (exec planner) w).2.Follows row' := by
  obtain ⟨p, status, hstatus, -, hrows⟩ := run_cancelRow planner (w := w) (a := a) row
  intro r hr hid
  rw [hrows] at hr
  obtain ⟨r₀, hr₀, rfl⟩ := List.mem_map.mp hr
  split at hid
  · rename_i hp
    rw [if_pos hp]
    exact ⟨(h r₀ hr₀ hid).1, fun heq => absurd heq hstatus⟩
  · rename_i hp
    rw [if_neg hp]
    exact h r₀ hr₀ hid

theorem mem_cancelRow (hparty : row.requesterId = a ∨ row.addresseeId = a) (h : w.Follows row)
    (hr : r.status = .accepted) :
    r ∈ ((cancelRow a row).run (exec planner) w).2.connections.rows ↔
      r ∈ w.connections.rows ∧ r.id ≠ row.id := by
  obtain ⟨p, status, hstatus, hp, hrows⟩ := run_cancelRow planner (w := w) (a := a) row
  rw [hrows, ConnectionTable.mem_setStatus_of_ne (hr.trans_ne hstatus.symm)]
  refine and_congr_right fun hmem => ⟨?_, ?_⟩
  · rintro hfalse hid
    obtain ⟨hdirection, haccepted⟩ := h r hmem hid
    obtain ⟨hrequester, haddressee⟩ := Prod.mk.inj hdirection
    rw [← hrequester, ← haddressee] at hparty
    simp only [hp (haccepted hr), hid, decide_true, Bool.true_and, Bool.or_eq_false_iff,
      decide_eq_false_iff_not] at hfalse
    exact hparty.elim hfalse.1 hfalse.2
  · intro hid
    rw [decide_eq_false hid, Bool.false_and]

/-- Every row that is read is ended, and no other. -/
theorem mem_cancelRows (hparty : ∀ row ∈ rows, row.requesterId = a ∨ row.addresseeId = a)
    (h : ∀ row ∈ rows, w.Follows row) (hr : r.status = .accepted) :
    r ∈ ((cancelRows a rows).run (exec planner) w).2.connections.rows ↔
      r ∈ w.connections.rows ∧ ∀ row ∈ rows, r.id ≠ row.id := by
  induction rows generalizing w with
  | nil => simp [cancelRows]
  | cons row rows ih =>
      obtain ⟨hrow, hrows⟩ := List.forall_mem_cons.mp h
      obtain ⟨hparty, hparties⟩ := List.forall_mem_cons.mp hparty
      rw [cancelRows, Prog.run_bind,
        ih hparties fun row' hrow' => follows_cancelRow planner (hrows row' hrow'),
        mem_cancelRow planner hparty hrow hr, List.forall_mem_cons, and_assoc]

/-- A row that has just been read. -/
theorem follows_of_mem (hrow : row ∈ w.connections.rows) : w.Follows row := by
  intro r hr hid
  cases ConnectionTable.eq_of_id hr hrow hid
  exact ⟨rfl, id⟩

/-- The block leaves no accepted row between the two, and every other. -/
theorem connected_cancelPeerConnectionsOnBlock :
    ((cancelPeerConnectionsOnBlock a b).run (exec planner) w).2.Connected c d ↔
      w.Connected c d ∧ ¬ (a = c ∧ b = d ∨ a = d ∧ b = c) := by
  have hparty : ∀ row ∈ (exec planner (.findAllBetween a b) w).1,
      row.requesterId = a ∨ row.addresseeId = a := by
    intro row hrow
    rcases isBetween_iff.mp ((mem_findAllBetween planner).mp hrow).2 with ⟨h, -⟩ | ⟨-, h⟩
    · exact .inl h
    · exact .inr h
  have hmem {r : ConnectionRow} (hr : r.status = .accepted) :
      r ∈ ((cancelPeerConnectionsOnBlock a b).run (exec planner) w).2.connections.rows ↔
        r ∈ w.connections.rows ∧ ¬ r.isBetween a b = true := by
    rw [cancelPeerConnectionsOnBlock, Prog.run_bind]
    refine (mem_cancelRows planner hparty
      (fun row hrow => follows_of_mem ((mem_findAllBetween planner).mp hrow).1) hr).trans ?_
    refine and_congr_right fun hmem => ⟨fun h hbetween => ?_, fun h row hrow hid => h ?_⟩
    · exact h r ((mem_findAllBetween planner).mpr ⟨hmem, hbetween⟩) rfl
    · obtain ⟨hrow, hbetween⟩ := (mem_findAllBetween planner).mp hrow
      exact ConnectionTable.eq_of_id hmem hrow hid ▸ hbetween
  constructor
  · rintro ⟨r, hr, hbetween, hstatus⟩
    obtain ⟨hr, hab⟩ := (hmem hstatus).mp hr
    refine ⟨⟨r, hr, hbetween, hstatus⟩, ?_⟩
    rintro (⟨rfl, rfl⟩ | ⟨rfl, rfl⟩)
    · exact hab hbetween
    · exact hab (isBetween_comm.trans hbetween)
  · rintro ⟨⟨r, hr, hbetween, hstatus⟩, hne⟩
    refine ⟨r, (hmem hstatus).mpr ⟨hr, fun hab => hne ?_⟩, hbetween, hstatus⟩
    exact (isBetween_iff_of hab).mp hbetween

theorem peersMatch_blocked {alreadyBlocked : Bool} (hw : w.PeersMatch) :
    ((blocked a b alreadyBlocked).run (exec planner) w).2.PeersMatch ↔ ¬ w.Connected a b := by
  have hafter (c d : UserId) : ((blocked a b alreadyBlocked).run (exec planner) w).2.Connected c d ↔
      w.Connected c d ∧ ¬ (a = c ∧ b = d ∨ a = d ∧ b = c) := by
    rw [blocked, Prog.run_bind, Prog.run_bind]
    refine (World.SamePeers.connected (samePeers_run planner ?_)).trans
      ((connected_cancelPeerConnectionsOnBlock planner).trans (and_congr_left fun _ => ?_))
    · exact ⟨trivial, fun _ => trivial⟩
    · exact (samePeers_exec planner (.redisAddUserBlock a b) trivial w).connected
  have hpeers : ((blocked a b alreadyBlocked).run (exec planner) w).2.connectionPeers =
      w.connectionPeers := by
    have hcancel : (cancelPeerConnectionsOnBlock a b).Uses Cmd.LeavesPeers :=
      ⟨trivial, fun rows => leavesPeers_cancelRows rows⟩
    exact connectionPeers_run planner
      ⟨trivial, fun _ => hcancel.bind fun _ => ⟨trivial, fun _ => trivial⟩⟩
  constructor
  · intro h hconnected
    have hmem := (hw a b).mpr hconnected
    rw [← hpeers, h, hafter] at hmem
    exact hmem.2 (.inl ⟨rfl, rfl⟩)
  · intro h c d
    rw [hpeers, hw c d, hafter]
    refine (and_iff_left_of_imp fun hcd => ?_).symm
    rintro (⟨rfl, rfl⟩ | ⟨rfl, rfl⟩)
    · exact h hcd
    · exact h (World.connected_comm.mp hcd)

theorem peersMatch_block (hw : w.PeersMatch) :
    ((blockUserService a b).run (exec planner) w).2.PeersMatch ↔ ¬ w.Connected a b := by
  rw [blockUserService]
  by_cases hab : a = b
  · rw [if_pos hab]
    exact iff_of_true hw (hab ▸ World.not_connected_self)
  rw [if_neg hab, Prog.run_bind]
  show ((blockUnlessBlocked a b (w.isBlockedBy a b)).run (exec planner) w).2.PeersMatch ↔ _
  cases hblocked : w.isBlockedBy a b with
  | true => exact peersMatch_blocked planner hw
  | false =>
      show ((createBlock a b (w.isBlockedBy a b)).run (exec planner) w).2.PeersMatch ↔ _
      rw [hblocked]
      have hnew : ⟨a, b⟩ ∉ w.blocks.rows ∧ a ≠ b := by
        rw [World.isBlockedBy, List.contains_eq_mem, decide_eq_false_iff_not] at hblocked
        exact ⟨hblocked, hab⟩
      obtain ⟨blocks, hblocks⟩ : ∃ blocks, w.blocks.insert ⟨a, b⟩ = some blocks :=
        ⟨_, dif_pos hnew⟩
      have hinsert : exec planner (.insertBlock a b) w = (true, w.setBlocks blocks) := by
        rw [exec, hblocks]
      show ((blockInserted a b (exec planner (.insertBlock a b) w).1).run (exec planner)
        (exec planner (.insertBlock a b) w).2).2.PeersMatch ↔ _
      rw [hinsert]
      exact peersMatch_blocked planner (w := w.setBlocks blocks) hw

end Block

theorem aside_unblock : (unblockUserService a b).Uses Cmd.Aside := by
  refine ⟨trivial, fun removed => ?_⟩
  cases removed with
  | true => exact ⟨trivial, fun _ => ⟨trivial, fun _ => trivial⟩⟩
  | false => trivial

theorem peersMatch_sync (hw : w.PeersMatch) :
    ((syncMatchingConnectionPeersFromDatabase a).run (exec planner) w).2.PeersMatch := by
  intro c d
  show d ∈ Function.update w.connectionPeers a (List.toFinset (List.map _ _)) c ↔ w.Connected c d
  by_cases hac : c = a
  · subst hac
    rw [Function.update_self, List.mem_toFinset, List.mem_map]
    constructor
    · rintro ⟨row, hrow, rfl⟩
      obtain ⟨hmem, haccepted⟩ := List.mem_filter.mp hrow
      rw [Bool.and_eq_true, decide_eq_true_eq, Bool.or_eq_true, decide_eq_true_eq,
        decide_eq_true_eq] at haccepted
      exact ⟨row, hmem, isBetween_peerOf haccepted.2, haccepted.1⟩
    · rintro ⟨row, hrow, hbetween, hstatus⟩
      have hself := w.connections.noSelf row hrow
      refine ⟨row, List.mem_filter.mpr ⟨hrow, ?_⟩, ?_⟩
      · rcases isBetween_iff.mp hbetween with ⟨rfl, rfl⟩ | ⟨rfl, rfl⟩
        · simp [hstatus]
        · simp [hstatus]
      · rcases isBetween_iff.mp hbetween with ⟨rfl, rfl⟩ | ⟨rfl, rfl⟩
        · exact if_pos rfl
        · exact if_neg hself
  · rw [Function.update_of_ne hac]
    exact hw c d

end Programs

/-! ### Runs -/

/-- The call takes a connection from the table that stays in the sets, or from
the sets that stays in the table. -/
def Call.Forgets (w : World) : Call → Prop
  | .block viewerId targetUserId => w.Connected viewerId targetUserId
  | .disconnect viewerId connectionId =>
      ∃ row ∈ w.connections.rows, row.IsEndedBy viewerId connectionId ∧ row.HasTwin w
  | _ => False

/-- One call, from its first statement to its last. -/
def World.complete (w : World) (call : Planner × Call) : World :=
  (call.2.program.run (exec call.1) w).2

theorem peersMatch_complete {w : World} (hw : w.PeersMatch) (call : Planner × Call) :
    (w.complete call).PeersMatch ↔ ¬ call.2.Forgets w := by
  obtain ⟨planner, call⟩ := call
  cases call with
  | request viewerId targetUserId =>
      rw [World.complete, Call.program, Prog.run_map]
      exact iff_of_true (peersMatch_request planner hw) id
  | accept viewerId connectionId =>
      rw [World.complete, Call.program, Prog.run_map]
      exact iff_of_true (peersMatch_acceptIncoming planner hw) id
  | reject viewerId connectionId =>
      rw [World.complete, Call.program, Prog.run_map]
      exact iff_of_true ((samePeers_rejectIncoming planner).peersMatch_iff.mpr hw) id
  | withdraw viewerId connectionId =>
      rw [World.complete, Call.program, Prog.run_map]
      exact iff_of_true ((samePeers_withdraw planner).peersMatch_iff.mpr hw) id
  | disconnect viewerId connectionId =>
      rw [World.complete, Call.program, Prog.run_map]
      exact peersMatch_disconnect planner hw
  | block viewerId targetUserId =>
      rw [World.complete, Call.program, Prog.run_map]
      exact peersMatch_block planner hw
  | unblock viewerId targetUserId =>
      rw [World.complete, Call.program, Prog.run_map]
      exact iff_of_true ((samePeers_run planner aside_unblock).peersMatch_iff.mpr hw) id
  | syncPeers userId =>
      rw [World.complete, Call.program, Prog.run_map]
      exact iff_of_true (peersMatch_sync planner hw) id
  | syncBlocks userId outgoingFirst =>
      rw [World.complete, Call.program, Prog.run_map]
      refine iff_of_true ((samePeers_run planner ?_).peersMatch_iff.mpr hw) id
      cases outgoingFirst with
      | true => exact ⟨trivial, fun _ => ⟨trivial, fun _ => ⟨trivial, fun _ => trivial⟩⟩⟩
      | false => exact ⟨trivial, fun _ => ⟨trivial, fun _ => ⟨trivial, fun _ => trivial⟩⟩⟩

/-- **The peers are the accepted graph** throughout a run of completed calls if
no call of it forgets a connection, and only then. -/
theorem always_peersMatch_iff {w : World} (hw : w.PeersMatch) (calls : List (Planner × Call)) :
    Always World.complete World.PeersMatch w calls ↔
      EveryStep World.complete (fun w call => ¬ call.2.Forgets w) w calls :=
  always_iff_everyStep (fun _ => id) (fun _ call h => (peersMatch_complete h call).mpr)
    (fun _ call h => mt (peersMatch_complete h call).mp) hw

namespace Sample

theorem fresh_peersMatch : fresh.PeersMatch := by
  intro a b
  simp [fresh, World.Connected, ConnectionTable.empty]

/-- Noa accepts what Mia asks. -/
def befriend : List (Planner × Call) :=
  [(.inOrder, .request mia noa), (.inOrder, .accept noa tie)]

theorem befriend_peersMatch : Always World.complete World.PeersMatch fresh befriend :=
  (always_peersMatch_iff fresh_peersMatch befriend).mpr
    (everyStep_cons.mpr ⟨id, everyStep_cons.mpr ⟨id, everyStep_nil⟩⟩)

/-- Mia blocks her friend. -/
def fallOut : List (Planner × Call) := befriend ++ [(.inOrder, .block mia noa)]

/-- Noa is no longer connected to Mia, and still among her peers. -/
theorem not_peersMatch_fallOut : ¬ Always World.complete World.PeersMatch fresh fallOut := by
  intro h
  have hmatch := h fallOut (List.prefix_refl _) mia noa
  have hpeer : noa ∈ (fallOut.foldl World.complete fresh).connectionPeers mia := by decide
  have hconnected : ¬ (fallOut.foldl World.complete fresh).Connected mia noa := by decide
  exact hconnected (hmatch.mp hpeer)

end Sample

end Greetup.Connections
