import Greetup.Connections.Endings

/-!
Connections by consent. Every service decides by the rows that it has read and
then writes by the id of a row alone. What it decides is right for the rows as
it has read them; the writes of others in between are what it does not take
into account, and where there are none the connections are by consent.
-/

namespace Greetup.Connections

open Interleaving

/-! ### One live row -/

/-- Between two users there is at most one row that is pending or accepted. -/
def World.OneLive (w : World) : Prop :=
  ∀ r ∈ w.connections.rows, ∀ r' ∈ w.connections.rows, r.isLive = true → r'.isLive = true →
    r'.isBetween r.requesterId r.addresseeId = true → r' = r

/-- Apart from the row `id`, nothing is open or accepted between the two. -/
def World.FreeBut (w : World) (id : ConnectionId) (a b : UserId) : Prop :=
  ∀ r ∈ w.connections.rows, r.isLive = true → r.isBetween a b = true → r.id = id

/-- Nothing is open or accepted between the two. -/
def World.Free (w : World) (a b : UserId) : Prop :=
  ∀ r ∈ w.connections.rows, r.isBetween a b = true → r.isLive = false

section OneLive

variable {w w' : World} {row : ConnectionRow} {a b : UserId}

theorem World.OneLive.of_subset (h : w.OneLive)
    (hsub : ∀ r ∈ w'.connections.rows, r.isLive = true → r ∈ w.connections.rows) : w'.OneLive :=
  fun r hr r' hr' hlive hlive' => h r (hsub r hr hlive) r' (hsub r' hr' hlive') hlive hlive'

/-- A row is added, or takes the place of another, between two users who are
free. -/
theorem World.OneLive.of_new (new : ConnectionRow) (h : w.OneLive)
    (hnew : ∀ r ∈ w'.connections.rows, r = new ∨ r ∈ w.connections.rows ∧ r.id ≠ new.id)
    (hfree : new.isLive = true → w.FreeBut new.id new.requesterId new.addresseeId) :
    w'.OneLive := by
  intro r hr r' hr' hlive hlive' hbetween
  rcases hnew r hr with rfl | ⟨hold, hne⟩
  · rcases hnew r' hr' with rfl | ⟨hold', hne'⟩
    · rfl
    · exact absurd (hfree hlive r' hold' hlive' hbetween) hne'
  · rcases hnew r' hr' with rfl | ⟨hold', hne'⟩
    · have hbetween' := (isBetween_row hbetween r).trans isBetween_self
      exact absurd (hfree hlive' r hold hlive hbetween') hne
    · exact h r hold r' hold' hlive hlive' hbetween

/-- Of a live row the others leave the users to it. -/
theorem World.OneLive.freeBut (h : w.OneLive) (hrow : row ∈ w.connections.rows)
    (hlive : row.isLive = true) : w.FreeBut row.id row.requesterId row.addresseeId := by
  intro r hr hlive' hbetween
  rw [h row hrow r hr hlive hlive' hbetween]

variable {id : ConnectionId} {p : ConnectionRow → Bool} {status : ConnectionStatus}

theorem World.Free.freeBut (h : w.Free a b) : w.FreeBut id a b := by
  intro r hr hlive hbetween
  rw [h r hr hbetween] at hlive
  cases hlive

theorem World.Free.of_subset (h : w.Free a b)
    (hsub : ∀ r ∈ w'.connections.rows, r.isLive = true → r ∈ w.connections.rows) : w'.Free a b := by
  intro r hr hbetween
  refine Bool.eq_false_of_not_eq_true fun hlive => ?_
  rw [h r (hsub r hr hlive) hbetween] at hlive
  cases hlive

theorem World.Free.not_connected (h : w.Free a b) : ¬ w.Connected a b := by
  rintro ⟨r, hr, hbetween, hstatus⟩
  have hlive := h r hr hbetween
  rw [isLive_iff.mpr (.inr hstatus)] at hlive
  cases hlive

/-- The live rows after rows were ended. -/
theorem World.mem_of_endStatus (hstatus : status ≠ .pending ∧ status ≠ .accepted)
    {r : ConnectionRow} (hr : r ∈ (w.updateStatus id p status).2.connections.rows)
    (hlive : r.isLive = true) :
    r ∈ w.connections.rows ∧ (decide (r.id = id) && p r) = false := by
  rcases ConnectionTable.of_mem_setStatus hr with hold | ⟨row, -, -, rfl⟩
  · exact hold
  · exact absurd (isLive_iff.mp hlive) (not_or.mpr hstatus)

/-- Rows are ended. -/
theorem World.OneLive.endStatus (h : w.OneLive)
    (hstatus : status ≠ .pending ∧ status ≠ .accepted) :
    (w.updateStatus id p status).2.OneLive :=
  h.of_subset fun _ hr hlive => (World.mem_of_endStatus hstatus hr hlive).1

/-- A row is opened or accepted. -/
theorem World.OneLive.updateStatus (h : w.OneLive)
    (hfree : ∀ row, w.connections.find id = some row →
      w.FreeBut id row.requesterId row.addresseeId) :
    (w.updateStatus id (fun _ => true) status).2.OneLive := by
  by_cases hex : ∃ row, w.connections.find id = some row
  · obtain ⟨row, hfind⟩ := hex
    have hfree := hfree row hfind
    obtain ⟨hrow, rfl⟩ := Sql.Table.mem_of_find hfind
    refine h.of_new { row with status } (fun r hr => ?_) fun _ => hfree
    rcases ConnectionTable.of_mem_setStatus hr with ⟨hold, hid⟩ | ⟨row', hrow', hid, rfl⟩
    · rw [Bool.and_true, decide_eq_false_iff_not] at hid
      exact .inr ⟨hold, hid⟩
    · rw [Bool.and_true, decide_eq_true_eq] at hid
      rw [ConnectionTable.eq_of_id hrow' hrow hid]
      exact .inl rfl
  · refine h.of_subset fun r hr _ => ?_
    rcases ConnectionTable.of_mem_setStatus hr with ⟨hold, -⟩ | ⟨row, hrow, hid, -⟩
    · exact hold
    · rw [Bool.and_true, decide_eq_true_eq] at hid
      exact absurd ⟨row, Sql.Table.find_eq_some.mpr ⟨hrow, hid⟩⟩ hex

/-- A row is turned round. -/
theorem World.OneLive.redirect (h : w.OneLive) (hfree : w.Free a b) :
    (w.redirect id a b).2.OneLive := by
  rw [World.redirect]
  cases hredirect : w.connections.redirect id a b with
  | none => exact h
  | some t =>
      cases hfind : w.connections.find id with
      | none =>
          have hsame := ConnectionTable.redirect_of_none hfind hredirect
          exact h.of_subset fun r hr _ => hsame ▸ hr
      | some row =>
          have hmem := fun r => ConnectionTable.mem_redirect (r := r) hfind hredirect
          obtain ⟨hrow, rfl⟩ := Sql.Table.mem_of_find hfind
          refine h.of_new ⟨row.id, a, b, .pending⟩ (fun r hr => ?_) fun _ => hfree.freeBut
          rcases (hmem r).mp hr with ⟨hold, hne⟩ | rfl
          · exact .inr ⟨hold, fun hid => hne (ConnectionTable.eq_of_id hold hrow hid)⟩
          · exact .inl rfl

/-- A row is added. -/
theorem World.OneLive.insert (h : w.OneLive) (hfree : w.Free a b) :
    (w.insertConnection a b).2.OneLive := by
  rw [World.insertConnection]
  cases hinsert : w.connections.insert ⟨w.uuids w.uuidsDrawn, a, b, .pending⟩ with
  | none => exact h
  | some t =>
      have hmem := fun r => ConnectionTable.mem_insert (r := r) hinsert
      have hnew := ConnectionTable.insert_id hinsert
      refine h.of_new ⟨w.uuids w.uuidsDrawn, a, b, .pending⟩ (fun r hr => ?_)
        fun _ => hfree.freeBut
      rcases (hmem r).mp hr with rfl | hold
      · exact .inl rfl
      · exact .inr ⟨hold, hnew r hold⟩

end OneLive

/-! ### Requests and acceptances -/

section Events

variable {ι : Type}

/-- The statement has opened a request between the two. -/
def Opens (a b : UserId) : (c : Cmd) → c.Reply → Prop
  | .updateStatusById _ .pending, some row => row.isBetween a b = true
  | .setAsPendingRequest _ requesterId addresseeId, .ok (some _) =>
      requesterId = a ∧ addresseeId = b ∨ requesterId = b ∧ addresseeId = a
  | .insertPendingRequest requesterId addresseeId, some _ =>
      requesterId = a ∧ addresseeId = b ∨ requesterId = b ∧ addresseeId = a
  | _, _ => False

/-- The statement has accepted an open request between the two. -/
def Accepts (a b : UserId) : (c : Cmd) → c.Reply → Prop
  | .updateStatusById _ .accepted, some row => row.status = .pending ∧ row.isBetween a b = true
  | _, _ => False

/-- In the trace, newest first, a request is opened between the two. -/
def Reopened (a b : UserId) (l : List (Event ι Cmd Cmd.Reply)) : Prop :=
  ∃ e ∈ l, Opens a b e.cmd e.reply

/-- A request is opened and a request is accepted after it. -/
def Reaccepted (a b : UserId) (l : List (Event ι Cmd Cmd.Reply)) : Prop :=
  ∃ l₁ e l₂, l = l₁ ++ e :: l₂ ∧ Accepts a b e.cmd e.reply ∧ Reopened a b l₂

/-- What has happened since the caller's newest statement on rows. -/
def sinceLast [DecidableEq ι] (i : ι) (trace : List (Event ι Cmd Cmd.Reply)) :
    List (Event ι Cmd Cmd.Reply) :=
  trace.takeWhile fun e => !(decide (e.tid = i) && e.cmd.onRows)

end Events

/-! ### What a statement changes -/

/-- The rows are as the writer must have found them: what it accepts is pending
and addressed to it, and where it opens a request nothing is open or accepted. -/
def Fits (viewerId : UserId) (w : World) : Cmd → Prop
  | .updateStatusById id .accepted => ∀ row, w.connections.find id = some row →
      row.status = .pending ∧ row.addresseeId = viewerId
  | .updateStatusById id .pending => ∀ row, w.connections.find id = some row →
      w.Free row.requesterId row.addresseeId
  | .setAsPendingRequest _ requesterId addresseeId
  | .insertPendingRequest requesterId addresseeId =>
      w.Free requesterId addresseeId
  | _ => True

section Statements

variable {planner : Planner} {w : World} {r row : ConnectionRow} {c : Cmd} {a b viewerId : UserId}

/-- A row is accepted by one statement only. -/
theorem accepted_exec (hr : r ∈ (exec planner c w).2.connections.rows)
    (hstatus : r.status = .accepted) : r ∈ w.connections.rows ∨
      ∃ id row, c = .updateStatusById id .accepted ∧ w.connections.find id = some row ∧
        r = { row with status := .accepted } := by
  cases c with
  | updateStatusById id status =>
      rcases ConnectionTable.of_mem_setStatus hr with ⟨hold, -⟩ | ⟨row, hrow, hid, rfl⟩
      · exact .inl hold
      · cases hstatus
        rw [Bool.and_true, decide_eq_true_eq] at hid
        exact .inr ⟨id, row, rfl, Sql.Table.find_eq_some.mpr ⟨hrow, hid⟩, rfl⟩
  | cancelAcceptedConnectionAsPeer id viewerId =>
      exact .inl ((World.mem_updateStatus_accepted (by simp) hstatus).mp hr).1
  | cancelPendingOutgoingRequest id requesterId =>
      exact .inl ((World.mem_updateStatus_accepted (by simp) hstatus).mp hr).1
  | deleteById id =>
      rw [exec_deleteById] at hr
      split at hr
      · exact .inl hr
      · exact .inl (ConnectionTable.mem_delete.mp hr).1
  | setAsPendingRequest id requesterId addresseeId =>
      rw [exec, World.redirect] at hr
      split at hr
      · exact .inl hr
      · rename_i t ht
        cases hfind : w.connections.find id with
        | none =>
            have hsame := ConnectionTable.redirect_of_none hfind ht
            exact .inl (hsame ▸ hr)
        | some row =>
            rcases (ConnectionTable.mem_redirect hfind ht).mp hr with ⟨hold, -⟩ | rfl
            · exact .inl hold
            · cases hstatus
  | insertPendingRequest requesterId addresseeId =>
      rw [exec, World.insertConnection] at hr
      split at hr
      · exact .inl hr
      · rename_i t ht
        rcases (ConnectionTable.mem_insert ht).mp hr with rfl | hold
        · cases hstatus
        · exact .inl hold
  | insertBlock blockerId blockedId =>
      rw [exec] at hr
      split at hr
      · exact .inl hr
      · exact .inl hr
  | _ => exact .inl hr

theorem connected_exec (h : (exec planner c w).2.Connected a b) : w.Connected a b ∨
    ∃ id row, c = .updateStatusById id .accepted ∧ w.connections.find id = some row ∧
      row.isBetween a b = true := by
  obtain ⟨r, hr, hbetween, hstatus⟩ := h
  rcases accepted_exec hr hstatus with hold | ⟨id, row, hc, hfind, rfl⟩
  · exact .inl ⟨r, hold, hbetween, hstatus⟩
  · exact .inr ⟨id, row, hc, hfind, hbetween⟩

theorem oneLive_exec (h : w.OneLive) (hfits : Fits viewerId w c) :
    (exec planner c w).2.OneLive := by
  cases c with
  | updateStatusById id status =>
      cases status with
      | pending => exact h.updateStatus fun row hfind => (hfits row hfind).freeBut
      | accepted =>
          refine h.updateStatus fun row hfind => ?_
          have hlive : row.isLive = true := isLive_iff.mpr (.inl (hfits row hfind).1)
          obtain ⟨hrow, rfl⟩ := Sql.Table.mem_of_find hfind
          exact h.freeBut hrow hlive
      | rejected => exact h.endStatus (by simp)
      | cancelled => exact h.endStatus (by simp)
  | deleteById id =>
      refine h.of_subset fun r hr _ => ?_
      rw [exec_deleteById] at hr
      split at hr
      · exact hr
      · exact (ConnectionTable.mem_delete.mp hr).1
  | setAsPendingRequest id requesterId addresseeId => exact h.redirect hfits
  | insertPendingRequest requesterId addresseeId => exact h.insert hfits
  | cancelAcceptedConnectionAsPeer id viewerId => exact h.endStatus (by simp)
  | cancelPendingOutgoingRequest id requesterId => exact h.endStatus (by simp)
  | insertBlock blockerId blockedId =>
      rw [exec]
      split
      · exact h
      · exact h
  | _ => exact h

/-- The row that an update has given its status. -/
theorem World.mem_updateStatus_cases {id : ConnectionId} {status : ConnectionStatus}
    (hr : r ∈ (w.updateStatus id (fun _ => true) status).2.connections.rows) :
    r ∈ w.connections.rows ∨
      ∃ row, w.connections.find id = some row ∧ r = { row with status } := by
  rcases ConnectionTable.of_mem_setStatus hr with ⟨hold, -⟩ | ⟨row, hrow, hid, rfl⟩
  · exact .inl hold
  · rw [Bool.and_true, decide_eq_true_eq] at hid
    exact .inr ⟨row, Sql.Table.find_eq_some.mpr ⟨hrow, hid⟩, rfl⟩

/-- Between two users who are free something comes about by a request only. -/
theorem free_exec (h : w.Free a b) (hfits : Fits viewerId w c) :
    (exec planner c w).2.Free a b ∨ Opens a b c (exec planner c w).1 := by
  cases c with
  | updateStatusById id status =>
      cases status with
      | pending =>
          by_cases hopens : Opens a b (.updateStatusById id .pending)
            (exec planner (.updateStatusById id .pending) w).1
          · exact .inr hopens
          refine .inl fun r hr hbetween => ?_
          rcases World.mem_updateStatus_cases hr with hold | ⟨row, hfind, rfl⟩
          · exact h r hold hbetween
          · refine absurd ?_ hopens
            rw [exec, World.updateStatus, hfind]
            exact hbetween
      | accepted =>
          refine .inl fun r hr hbetween => ?_
          rcases World.mem_updateStatus_cases hr with hold | ⟨row, hfind, rfl⟩
          · exact h r hold hbetween
          · have hlive := h row (Sql.Table.mem_of_find hfind).1 hbetween
            rw [isLive_iff.mpr (.inl (hfits row hfind).1)] at hlive
            cases hlive
      | rejected =>
          exact .inl (h.of_subset fun r hr hlive => (World.mem_of_endStatus (by simp) hr hlive).1)
      | cancelled =>
          exact .inl (h.of_subset fun r hr hlive => (World.mem_of_endStatus (by simp) hr hlive).1)
  | cancelAcceptedConnectionAsPeer | cancelPendingOutgoingRequest =>
      exact .inl (h.of_subset fun r hr hlive => (World.mem_of_endStatus (by simp) hr hlive).1)
  | deleteById id =>
      refine .inl (h.of_subset fun r hr _ => ?_)
      rw [exec_deleteById] at hr
      split at hr
      · exact hr
      · exact (ConnectionTable.mem_delete.mp hr).1
  | setAsPendingRequest id requesterId addresseeId =>
      rw [exec, World.redirect]
      cases hredirect : w.connections.redirect id requesterId addresseeId with
      | none => exact .inl h
      | some t =>
          cases hfind : w.connections.find id with
          | none =>
              have hsame := ConnectionTable.redirect_of_none hfind hredirect
              exact .inl (h.of_subset fun r hr _ => hsame ▸ hr)
          | some row =>
              by_cases hpair : requesterId = a ∧ addresseeId = b ∨ requesterId = b ∧ addresseeId = a
              · exact .inr hpair
              refine .inl fun r hr hbetween => ?_
              rcases (ConnectionTable.mem_redirect hfind hredirect).mp hr with ⟨hold, -⟩ | rfl
              · exact h r hold hbetween
              · exact absurd (isBetween_iff.mp hbetween) hpair
  | insertPendingRequest requesterId addresseeId =>
      rw [exec, World.insertConnection]
      split
      · exact .inl h
      rename_i t hinsert
      by_cases hpair : requesterId = a ∧ addresseeId = b ∨ requesterId = b ∧ addresseeId = a
      · exact .inr hpair
      refine .inl fun r hr hbetween => ?_
      rcases (ConnectionTable.mem_insert hinsert).mp hr with rfl | hold
      · exact absurd (isBetween_iff.mp hbetween) hpair
      · exact h r hold hbetween
  | insertBlock blockerId blockedId =>
      rw [exec]
      split
      · exact .inl h
      · exact .inl h
  | _ => exact .inl h

/-- The one live row of the two is ended. -/
theorem free_of_ends (h : w.OneLive) (hrow : row ∈ w.connections.rows) (hlive : row.isLive = true)
    (hbetween : row.isBetween a b = true) (hends : c.ends row = true) :
    (exec planner c w).2.Free a b := by
  have hone (r : ConnectionRow) (hr : r ∈ w.connections.rows) (hr' : r.isBetween a b = true)
      (hlive' : r.isLive = true) : r = row :=
    h row hrow r hr hlive hlive' ((isBetween_row hbetween r).trans hr')
  intro r hr hr'
  refine Bool.eq_false_of_not_eq_true fun hlive' => ?_
  cases c with
  | updateStatusById id status =>
      cases status with
      | rejected =>
          obtain ⟨hold, hmiss⟩ := World.mem_of_endStatus (by simp) hr hlive'
          cases hone r hold hr' hlive'
          rw [Bool.and_true] at hmiss
          exact Bool.false_ne_true (hmiss.symm.trans hends)
      | _ => cases hends
  | cancelAcceptedConnectionAsPeer | cancelPendingOutgoingRequest =>
      obtain ⟨hold, hmiss⟩ := World.mem_of_endStatus (by simp) hr hlive'
      cases hone r hold hr' hlive'
      exact Bool.false_ne_true (hmiss.symm.trans hends)
  | _ => cases hends

end Statements

/-! ### The condition -/

section Run

variable {ι : Type} [DecidableEq ι] (planner : Planner) (calls : ι → Call)

/-- What the call has read of the rows, another caller has changed since. -/
def Call.Outdated (i : ι) (trace : List (Event ι Cmd Cmd.Reply)) : Call → Prop
  | .request viewerId targetUserId | .block viewerId targetUserId =>
      (rowsBetween planner viewerId targetUserId).Overtaken i trace
  | .accept _ connectionId | .reject _ connectionId | .withdraw _ connectionId
  | .disconnect _ connectionId => (connectionRow planner connectionId).Overtaken i trace
  | _ => False

instance (i : ι) (trace : List (Event ι Cmd Cmd.Reply)) :
    (call : Call) → Decidable (call.Outdated planner i trace)
  | .request viewerId targetUserId | .block viewerId targetUserId =>
      inferInstanceAs (Decidable ((rowsBetween planner viewerId targetUserId).Overtaken i trace))
  | .accept _ connectionId | .reject _ connectionId | .withdraw _ connectionId
  | .disconnect _ connectionId =>
      inferInstanceAs (Decidable ((connectionRow planner connectionId).Overtaken i trace))
  | .unblock _ _ | .syncPeers _ | .syncBlocks _ _ => inferInstanceAs (Decidable False)

/-- Whoever writes rows has read them since they were changed by others. -/
def UpToDate (i : ι) (c : Cmd) (s : Scene ι Cmd Cmd.Reply World) : Prop :=
  c.writesRows = true → ¬ (calls i).Outdated planner i s.trace

instance (i : ι) (c : Cmd) (s : Scene ι Cmd Cmd.Reply World) :
    Decidable (UpToDate planner calls i c s) :=
  inferInstanceAs (Decidable (_ → _))

/-! ### What the writer knows -/

/-- What every call has been told of the rows is so, unless it was overtaken. -/
structure RowsSound (s : Scene ι Cmd Cmd.Reply World) : Prop where
  row : ∀ id, (connectionRow planner id).Sound s
  between : ∀ a b, (rowsBetween planner a b).Sound s

variable {calls} {planner} {i j : ι} {c : Cmd} {a b : UserId} {row : ConnectionRow}
  {s : Scene ι Cmd Cmd.Reply World}

theorem RowsSound.after (h : RowsSound planner s) (i : ι) (c : Cmd) :
    RowsSound planner (s.after (exec planner) i c) :=
  ⟨fun id => (h.row id).after i c, fun a b => (h.between a b).after i c⟩

theorem RowsSound.free (h : RowsSound planner s)
    (hnot : ¬ (rowsBetween planner a b).Overtaken i s.trace)
    (hfinds : FindsFree planner a b (s.told i)) : s.world.Free a b := by
  obtain ⟨rows, hrows, hfree⟩ := hfinds
  have hsame : s.world.between a b = rows := h.between a b i rows hrows hnot
  exact fun r hr hbetween => hfree r (hsame ▸ ⟨hr, hbetween⟩)

/-- What a call has read is there, unless it was overtaken. -/
theorem RowsSound.mem (h : RowsSound planner s)
    (hnot : ¬ (calls i).Outdated planner i s.trace)
    (hgoes : (calls i).GoesBy planner row (s.told i)) : row ∈ s.world.connections.rows := by
  cases hcall : calls i with
  | request viewerId targetUserId | block viewerId targetUserId =>
      rw [hcall] at hnot hgoes
      obtain ⟨rows, hrows, hrow⟩ := hgoes
      have hsame : s.world.between _ _ = rows := h.between _ _ i rows hrows hnot
      rw [← hsame] at hrow
      exact hrow.1
  | accept viewerId connectionId | reject viewerId connectionId | withdraw viewerId connectionId
  | disconnect viewerId connectionId =>
      rw [hcall] at hnot hgoes
      have hbelieved : (connectionRow planner connectionId).believed (s.told i) =
          some (some row) := by
        rw [show s.told i = _ from hgoes]
        exact believed_connectionRow planner
      have hfind : s.world.connections.find connectionId = some row :=
        h.row connectionId i _ hbelieved hnot
      exact (Sql.Table.mem_of_find hfind).1
  | _ =>
      rw [hcall] at hgoes
      exact hgoes.elim

/-- The rows between the two users of a request are what it has read. -/
theorem RowsSound.isBetween (h : RowsSound planner s)
    (hnot : ¬ (rowsBetween planner a b).Overtaken i s.trace)
    (hgoes : (Call.request a b).GoesBy planner row (s.told i)) : row.isBetween a b = true := by
  obtain ⟨rows, hrows, hrow⟩ := hgoes
  have hsame : s.world.between a b = rows := h.between a b i rows hrows hnot
  rw [← hsame] at hrow
  exact hrow.2

/-- **What is written fits**, if the writer goes by what it has read and was not
overtaken. -/
theorem fits_of_warrants (h : RowsSound planner s)
    (hwarrants : (calls i).Warrants planner (s.told i) c)
    (hc : UpToDate planner calls i c s) : Fits (calls i).viewerId s.world c := by
  cases c with
  | updateStatusById id status =>
      cases status with
      | pending =>
          obtain ⟨viewerId, targetUserId, hcall, hfinds, row, hgoes, rfl⟩ := hwarrants
          have hnot := hc rfl
          have hrow := h.mem hnot hgoes
          rw [hcall] at hnot hgoes
          intro row' hfind
          obtain ⟨hrow', hid⟩ := Sql.Table.mem_of_find hfind
          cases ConnectionTable.eq_of_id hrow' hrow hid
          have hbetween := h.isBetween hnot hgoes
          exact fun r hr hr' => h.free hnot hfinds r hr ((isBetween_row hbetween r).symm.trans hr')
      | accepted =>
          obtain ⟨row, hgoes, rfl, hpending, haddressee⟩ := hwarrants
          intro row' hfind
          obtain ⟨hrow', hid⟩ := Sql.Table.mem_of_find hfind
          cases ConnectionTable.eq_of_id hrow' (h.mem (hc rfl) hgoes) hid
          exact ⟨hpending, haddressee⟩
      | _ => trivial
  | setAsPendingRequest | insertPendingRequest =>
      obtain ⟨hcall, hfinds⟩ := hwarrants
      have hnot := hc rfl
      rw [hcall] at hnot
      exact h.free hnot hfinds
  | _ => trivial

/-! ### When a call is through -/

/-- A call that was to end one row has ended it. -/
theorem free_of_ended {connectionId : ConnectionId} {row' : ConnectionRow}
    (hone : s.world.OneLive) (hrow : row ∈ s.world.connections.rows) (hlive : row.isLive = true)
    (hends : c.ends row = true) (hgoes : s.told i = [⟨.findConnection connectionId, some row⟩])
    (htold : (⟨.findConnection connectionId, some row'⟩ : Told Cmd Cmd.Reply) ∈
      ⟨c, (exec planner c s.world).1⟩ :: s.told i)
    (hbetween : row'.isBetween a b = true) : (exec planner c s.world).2.Free a b := by
  have hsame : row' = row := by
    rcases List.mem_cons.mp htold with heq | hold
    · have hc : Cmd.findConnection connectionId = c := congrArg Sigma.fst heq
      rw [← hc] at hends
      cases hends
    · rw [hgoes, List.mem_singleton] at hold
      cases hold
      rfl
  rw [hsame] at hbetween
  exact free_of_ends hone hrow hlive hbetween hends

/-- A call that finds two users free by a statement of its own is right. -/
theorem free_of_findsFree_cons (h : RowsSound planner s)
    (hfinds : FindsFree planner a b (⟨c, (exec planner c s.world).1⟩ :: s.told i))
    (hbefore : ¬ FindsFree planner a b (s.told i))
    (hnot : c.writesRows = true → ¬ (rowsBetween planner a b).Overtaken i s.trace) :
    (exec planner c s.world).2.Free a b := by
  have hnot : ¬ (rowsBetween planner a b).Overtaken i (s.after (exec planner) i c).trace := by
    by_cases hreads : c = .findAllBetween a b
    · subst hreads
      refine (rowsBetween planner a b).not_overtaken_of_tells rfl ?_
      exact Option.isSome_of_eq_some (tells_findAllBetween planner)
    cases hwrites : c.writesRows with
    | true => exact (rowsBetween planner a b).not_overtaken_cons (hnot hwrites) rfl
    | false => exact absurd ((findsFree_cons planner hwrites hreads).mp hfinds) hbefore
  refine (h.after i c).free hnot ?_
  rw [Scene.told_after_self]
  exact hfinds

/-- When a call is through, the two are free. -/
theorem free_of_closes (h : RowsSound planner s) (hone : s.world.OneLive)
    (hlic : (calls i).Licence planner (s.told i) c) (hc : UpToDate planner calls i c s)
    (hcall : (calls i).Concerns a b (⟨c, (exec planner c s.world).1⟩ :: s.told i))
    (hended : (calls i).HasEnded planner (⟨c, (exec planner c s.world).1⟩ :: s.told i))
    (hrows : c.onRows = true) : (exec planner c s.world).2.Free a b := by
  have hbefore := hlic.orderly (isEnding_of_concerns hcall) hrows
  cases hi : calls i with
  | reject viewerId connectionId | withdraw viewerId connectionId
  | disconnect viewerId connectionId =>
      have hwarrants := hlic.warranted
      rw [hi] at hcall hended hbefore
      have hid : c.endedId.isSome = true :=
        Option.isSome_of_eq_some ((ended_cons.mp hended).resolve_right hbefore)
      obtain ⟨row', htold, hbetween⟩ := hcall
      obtain ⟨row, hgoes, hlive, hends⟩ :=
        (warrants_iff_of_ended planner hid).mp hwarrants (by simp [hi])
      have hrow := h.mem (hc (writesRows_of_endedId hid)) hgoes
      rw [hi] at hgoes
      exact free_of_ended hone hrow hlive hends hgoes htold hbetween
  | block viewerId targetUserId =>
      rw [hi] at hcall hended hbefore
      have hfree : (exec planner c s.world).2.Free viewerId targetUserId := by
        refine free_of_findsFree_cons h hended hbefore fun hwrites => ?_
        have hnot := hc hwrites
        rw [hi] at hnot
        exact hnot
      rcases hcall with ⟨rfl, rfl⟩ | ⟨rfl, rfl⟩
      · exact hfree
      · exact fun r hr hbetween => hfree r hr (isBetween_comm.trans hbetween)
  | _ =>
      rw [hi] at hcall
      exact hcall.elim

/-! ### What holds throughout -/

theorem sinceLast_cons {e : Event ι Cmd Cmd.Reply} {l : List (Event ι Cmd Cmd.Reply)}
    (h : e.tid = i → e.cmd.onRows = false) : sinceLast i (e :: l) = e :: sinceLast i l := by
  rw [sinceLast, List.takeWhile_cons_of_pos]
  · rfl
  · by_cases htid : e.tid = i
    · simp [h htid]
    · simp [htid]

omit [DecidableEq ι] in
theorem Reopened.cons {l : List (Event ι Cmd Cmd.Reply)} (h : Reopened a b l)
    (e : Event ι Cmd Cmd.Reply) : Reopened a b (e :: l) := by
  obtain ⟨e', he', hopens⟩ := h
  exact ⟨e', List.mem_cons_of_mem _ he', hopens⟩

omit [DecidableEq ι] in
theorem Reaccepted.cons {l : List (Event ι Cmd Cmd.Reply)} (h : Reaccepted a b l)
    (e : Event ι Cmd Cmd.Reply) : Reaccepted a b (e :: l) := by
  obtain ⟨l₁, e', l₂, rfl, haccepts, hopened⟩ := h
  exact ⟨e :: l₁, e', l₂, rfl, haccepts, hopened⟩

/-- Whatever has come about between the two has come about by a request of
later. -/
structure Parted (i : ι) (a b : UserId) (s : Scene ι Cmd Cmd.Reply World) : Prop where
  reopened : s.world.Free a b ∨ Reopened a b (sinceLast i s.trace)
  reaccepted : s.world.Connected a b → Reaccepted a b (sinceLast i s.trace)

theorem Parted.of_free (h : s.world.Free a b) : Parted i a b s :=
  ⟨.inl h, fun hconnected => absurd hconnected h.not_connected⟩

/-- While the caller has been through for some time, the two come together only
over a new request. -/
theorem Parted.after {viewerId : UserId} (h : Parted j a b s) (hfits : Fits viewerId s.world c)
    (hrows : i = j → c.onRows = false) : Parted j a b (s.after (exec planner) i c) where
  reopened := by
    rw [Scene.after_trace, sinceLast_cons hrows]
    rcases h.reopened with hfree | hopened
    · exact (free_exec hfree hfits).imp_right fun hopens => ⟨_, List.mem_cons_self, hopens⟩
    · exact .inr (hopened.cons _)
  reaccepted hafter := by
    rw [Scene.after_trace, sinceLast_cons hrows]
    rcases connected_exec hafter with hbefore | ⟨id, row, rfl, hfind, hbetween⟩
    · exact (h.reaccepted hbefore).cons _
    obtain ⟨hpending, -⟩ := hfits row hfind
    have hopened : Reopened a b (sinceLast j s.trace) := by
      refine h.reopened.resolve_left fun hfree => ?_
      have hlive := hfree row (Sql.Table.mem_of_find hfind).1 hbetween
      rw [isLive_iff.mpr (.inl hpending)] at hlive
      cases hlive
    refine ⟨[], _, sinceLast j s.trace, rfl, ?_, hopened⟩
    have hreply : (exec planner (.updateStatusById id .accepted) s.world).1 = some row := by
      show (s.world.connections.find id).filter _ = _
      rw [hfind]
      rfl
    show Accepts a b _ (exec planner (.updateStatusById id .accepted) s.world).1
    rw [hreply]
    exact ⟨hpending, hbetween⟩

/-- At every moment: at most one row of a pair is live, every caller is right
about what it has read unless it was overtaken, and whoever has ended what was
between two users leaves them parted. -/
structure Consenting (planner : Planner) (calls : ι → Call)
    (s : Scene ι Cmd Cmd.Reply World) : Prop where
  oneLive : s.world.OneLive
  sound : RowsSound planner s
  parted : ∀ i a b, (calls i).Concerns a b (s.told i) → (calls i).HasEnded planner (s.told i) →
    Parted i a b s

/-- **One step** of a caller that goes by what it has read. -/
theorem Consenting.after (h : Consenting planner calls s)
    (hlic : (calls i).Licence planner (s.told i) c) (hc : UpToDate planner calls i c s) :
    Consenting planner calls (s.after (exec planner) i c) where
  oneLive := oneLive_exec h.oneLive (fits_of_warrants h.sound hlic.warranted hc)
  sound := h.sound.after i c
  parted := by
    have hfits := fits_of_warrants h.sound hlic.warranted hc
    intro j a b hcall hended
    by_cases hij : i = j
    · subst hij
      rw [Scene.told_after_self] at hcall hended
      cases hrows : c.onRows with
      | true =>
          exact .of_free (free_of_closes h.sound h.oneLive hlic hc hcall hended hrows)
      | false =>
          have hparted := h.parted i a b ((concerns_cons hrows).mp hcall)
            ((hasEnded_cons planner _ hrows).mp hended)
          exact hparted.after hfits fun _ => hrows
    · rw [Scene.told_after_of_ne (exec planner) hij] at hcall hended
      exact (h.parted j a b hcall hended).after hfits fun heq => absurd heq hij

variable (calls)

/-- Whoever has returned that the two are apart finds them connected only if a
later request of theirs was accepted. -/
def Apart (conf : Conf ι Cmd Cmd.Reply Result World) : Prop :=
  ∀ i result, conf.threads i = .done result → (calls i).isEnding = true → result.isOk = true →
    ∀ a b, (calls i).Concerns a b (conf.scene.told i) → conf.scene.world.Connected a b →
      Reaccepted a b (sinceLast i conf.scene.trace)

variable {calls}

end Run

namespace Sample

/-- Mia has asked Noa. -/
def asked : World :=
  fresh.setConnections ((ConnectionTable.empty.insert ⟨tie, mia, noa, .pending⟩).getD .empty)

/-- Noa accepts while Mia withdraws. -/
def crossing (i : Bool) : Call := if i then .accept noa tie else .withdraw mia tie

end Sample

end Greetup.Connections
