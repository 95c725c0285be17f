import Greetup.Connections.Rows
import Greetup.Interleaving.Overlap

/-!
The blocks that matching reads. A block is written to the table first and to
Redis after, and whoever has done the first owes the second. Every call writes to
Redis what it was told of the table; the sets of Redis are right as long as
whoever was overtaken since writes while somebody else still owes a later write.
-/

namespace Greetup.Connections

open Interleaving

/-! ### What is owed -/

/-- The row of the pair was changed, and Redis has not been told. -/
def Owes (a b : UserId) (h : History) : Prop :=
  (⟨.insertBlock a b, true⟩ : Told Cmd Cmd.Reply) ∈ h ∧ (∀ e ∈ h, e.1 ≠ .redisAddUserBlock a b) ∨
    (⟨.removeBlock a b, true⟩ : Told Cmd Cmd.Reply) ∈ h ∧ ∀ e ∈ h, e.1 ≠ .redisRemoveUserBlock a b

/-- The command has to do with the table of blocks or with its copy. -/
def Cmd.ConcernsBlocks : Cmd → Prop
  | .insertBlock _ _ | .removeBlock _ _ | .redisAddUserBlock _ _ | .redisRemoveUserBlock _ _
  | .redisReplaceUserBlocks _ _ _ => True
  | _ => False

section Owes

variable {a b : UserId} {h : History} {e : Told Cmd Cmd.Reply}

theorem not_owes_nil : ¬ Owes a b [] := by
  simp [Owes]

/-- A debt stays until it is paid. -/
theorem Owes.cons (ho : Owes a b h) (hadd : e.1 ≠ .redisAddUserBlock a b)
    (hremove : e.1 ≠ .redisRemoveUserBlock a b) : Owes a b (e :: h) :=
  ho.imp
    (fun ⟨hmem, hnone⟩ => ⟨List.mem_cons_of_mem _ hmem, List.forall_mem_cons.mpr ⟨hadd, hnone⟩⟩)
    (fun ⟨hmem, hnone⟩ => ⟨List.mem_cons_of_mem _ hmem, List.forall_mem_cons.mpr ⟨hremove, hnone⟩⟩)

/-- What has nothing to do with blocks adds no debt. -/
theorem not_owes_append {l : History} (hl : ∀ e ∈ l, ¬ e.1.ConcernsBlocks) (h₀ : ¬ Owes a b h) :
    ¬ Owes a b (l ++ h) := by
  rintro (⟨hmem, hnone⟩ | ⟨hmem, hnone⟩)
  · have hold := (List.mem_append.mp hmem).resolve_left fun hmem => hl _ hmem trivial
    exact h₀ (.inl ⟨hold, fun e he => hnone e (List.mem_append_right l he)⟩)
  · have hold := (List.mem_append.mp hmem).resolve_left fun hmem => hl _ hmem trivial
    exact h₀ (.inr ⟨hold, fun e he => hnone e (List.mem_append_right l he)⟩)

end Owes

/-! ### What every call pays -/

/-- The table is changed by those who have not written to Redis. -/
def ChangesFirst (h : History) : Cmd → Prop
  | .insertBlock a b => ∀ e ∈ h, e.1 ≠ .redisAddUserBlock a b
  | .removeBlock a b => ∀ e ∈ h, e.1 ≠ .redisRemoveUserBlock a b
  | _ => True

/-- Nothing is owed. -/
def Paid (h : History) : Prop := ∀ a b, ¬ Owes a b h

section Licensed

variable {α : Type} (planner : Planner) {p : M α} {h : History} {a b : UserId}

theorem changesFirst_of_not_concernsBlocks {c : Cmd} (hc : ¬ c.ConcernsBlocks) :
    ChangesFirst h c := by
  cases c with
  | insertBlock a b => exact absurd trivial hc
  | removeBlock a b => exact absurd trivial hc
  | _ => trivial

/-- A program that has nothing to do with blocks keeps the accounts. -/
theorem licensed_of_not_concernsBlocks (hp : p.Uses (¬ ·.ConcernsBlocks)) (h₀ : Paid h) :
    p.Licensed (exec planner) ChangesFirst (fun h' _ => Paid h') h := by
  have hlic : p.Licensed (exec planner) ChangesFirst (fun _ _ => True) h :=
    hp.licensed fun _ _ => changesFirst_of_not_concernsBlocks
  refine (hlic.uses hp).mono ?_
  rintro h' x ⟨⟨l, rfl, hl⟩, -⟩ a b
  exact not_owes_append hl (h₀ a b)

theorem uses_cancelRow {viewerId : UserId} (row : ConnectionRow) :
    (cancelRow viewerId row).Uses (¬ ·.ConcernsBlocks) := by
  rw [cancelRow]
  split
  · exact ⟨id, fun _ => ⟨id, fun _ => trivial⟩⟩
  split
  · trivial
  split
  · exact ⟨id, fun _ => ⟨id, fun _ => trivial⟩⟩
  · exact ⟨id, fun _ => ⟨id, fun _ => trivial⟩⟩

theorem uses_cancelPeerConnectionsOnBlock :
    (cancelPeerConnectionsOnBlock a b).Uses (¬ ·.ConcernsBlocks) := by
  refine ⟨id, fun rows => ?_⟩
  show (cancelRows a rows).Uses _
  induction rows with
  | nil => trivial
  | cons row rows ih => exact (uses_cancelRow row).bind fun _ => ih

/-- A block that was inserted by this caller, or by nobody, is paid at once. -/
theorem licensed_blocked {alreadyBlocked : Bool} (h₀ : ∀ c d, Owes c d h → a = c ∧ b = d)
    (hremove : ∀ e ∈ h, ∀ c d, e.1 ≠ .removeBlock c d) :
    (blocked a b alreadyBlocked).Licensed (exec planner) ChangesFirst (fun h' _ => Paid h') h := by
  have huses : (cancelPeerConnectionsOnBlock a b >>= fun _ => do
      issue (.send (.messagingBlock a b true))
      return some (BlockUserResult.ok alreadyBlocked)).Uses (¬ ·.ConcernsBlocks) :=
    uses_cancelPeerConnectionsOnBlock.bind fun _ => ⟨id, fun _ => trivial⟩
  refine ⟨trivial, fun w => licensed_of_not_concernsBlocks planner huses ?_⟩
  rintro c d (⟨hmem, hnone⟩ | ⟨hmem, hnone⟩)
  · have hold : (⟨.insertBlock c d, true⟩ : Told Cmd Cmd.Reply) ∈ h := by
      simpa using hmem
    have howes : Owes c d h := .inl ⟨hold, fun e he => hnone e (List.mem_cons_of_mem _ he)⟩
    obtain ⟨rfl, rfl⟩ := h₀ c d howes
    exact hnone _ List.mem_cons_self rfl
  · have hold : (⟨.removeBlock c d, true⟩ : Told Cmd Cmd.Reply) ∈ h := by
      simpa using hmem
    exact hremove _ hold c d rfl

theorem licensed_block {viewerId targetUserId : UserId} :
    (blockUserService viewerId targetUserId).Licensed (exec planner) ChangesFirst
      (fun h' _ => Paid h') [] := by
  rw [blockUserService]
  split
  · exact fun a b => not_owes_nil
  refine ⟨trivial, fun w => ?_⟩
  show (blockUnlessBlocked viewerId targetUserId _).Licensed _ _ _ _
  rw [blockUnlessBlocked]
  split
  · refine licensed_blocked planner (fun c d ho => absurd ho ?_) (by simp)
    simp [Owes]
  refine ⟨trivial, fun w₁ => ?_⟩
  show (createBlock viewerId targetUserId _).Licensed _ _ _ _
  rw [createBlock]
  split
  · refine licensed_blocked planner (fun c d ho => absurd ho ?_) (by simp)
    simp [Owes]
  refine ⟨by simp [ChangesFirst], fun w₂ => ?_⟩
  show (blockInserted viewerId targetUserId _).Licensed _ _ _ _
  rw [blockInserted]
  split
  · refine licensed_blocked planner (fun c d ho => ?_) (by simp)
    have hpair : (c = viewerId ∧ d = targetUserId) ∧
        (exec planner (.insertBlock viewerId targetUserId) w₂).1 = true := by
      simpa [Owes] using ho
    exact ⟨hpair.1.1.symm, hpair.1.2.symm⟩
  · rename_i hfailed
    intro c d ho
    have hpair : (c = viewerId ∧ d = targetUserId) ∧
        (exec planner (.insertBlock viewerId targetUserId) w₂).1 = true := by
      simpa [Owes] using ho
    exact hfailed hpair.2

theorem licensed_unblock {viewerId targetUserId : UserId} :
    (unblockUserService viewerId targetUserId).Licensed (exec planner) ChangesFirst
      (fun h' _ => Paid h') [] := by
  refine ⟨by simp [ChangesFirst], fun w => ?_⟩
  show (unblocked viewerId targetUserId _).Licensed _ _ _ _
  rw [unblocked]
  split
  · refine ⟨trivial, fun w₁ => licensed_of_not_concernsBlocks planner ⟨id, fun _ => trivial⟩ ?_⟩
    rintro c d (⟨hmem, -⟩ | ⟨hmem, hnone⟩)
    · simp at hmem
    · have hpair : (c = viewerId ∧ d = targetUserId) ∧
          (exec planner (.removeBlock viewerId targetUserId) w).1 = true := by
        simpa using hmem
      obtain ⟨⟨rfl, rfl⟩, -⟩ := hpair
      exact hnone _ List.mem_cons_self rfl
  · rename_i hfailed
    intro c d ho
    have hpair : (c = viewerId ∧ d = targetUserId) ∧
        (exec planner (.removeBlock viewerId targetUserId) w).1 = true := by
      simpa [Owes] using ho
    exact hfailed hpair.2

theorem licensed_syncBlocks {userId : UserId} {outgoingFirst : Bool} :
    (syncUserBlocksToRedis userId outgoingFirst).Licensed (exec planner) ChangesFirst
      (fun h' _ => Paid h') [] := by
  cases outgoingFirst with
  | true =>
      refine ⟨trivial, fun w => ⟨trivial, fun w₁ => ⟨trivial, fun w₂ => ?_⟩⟩⟩
      intro c d ho
      simp [Owes] at ho
  | false =>
      refine ⟨trivial, fun w => ⟨trivial, fun w₁ => ⟨trivial, fun w₂ => ?_⟩⟩⟩
      intro c d ho
      simp [Owes] at ho

theorem uses_addMatchingConnectionPeers :
    (addMatchingConnectionPeers a b).Uses (¬ ·.ConcernsBlocks) := by
  rw [addMatchingConnectionPeers, addPeer, addPeer]
  split
  · split
    · trivial
    · exact ⟨id, fun _ => trivial⟩
  · split
    · exact ⟨id, fun _ => trivial⟩
    · exact ⟨id, fun _ => ⟨id, fun _ => trivial⟩⟩

theorem uses_openRequest {direct reverse : Option ConnectionRow} :
    (openRequest a b direct reverse).Uses (¬ ·.ConcernsBlocks) := by
  have hrequested (id : ConnectionId) (dedupeSalt : Option String) :
      (requested a b id dedupeSalt).Uses (¬ ·.ConcernsBlocks) := ⟨fun h => h, fun _ => trivial⟩
  have hreopen (direct : ConnectionRow) (dedupeSalt : String) :
      (reopen a b direct dedupeSalt).Uses (¬ ·.ConcernsBlocks) :=
    ⟨id, fun _ => hrequested _ _⟩
  rw [openRequest]
  split
  · refine ⟨id, fun reply => ?_⟩
    cases reply with
    | ok row => exact hreopen _ _
    | error error => trivial
  · exact hreopen _ _
  · refine ⟨id, fun reply => ?_⟩
    cases reply with
    | ok row => exact hrequested _ _
    | error error => trivial
  · refine ⟨id, fun connectionId => ?_⟩
    cases connectionId with
    | some connectionId => exact hrequested _ _
    | none => trivial

theorem uses_request : (requestConnectionService a b).Uses (¬ ·.ConcernsBlocks) := by
  rw [requestConnectionService]
  split
  · trivial
  refine ⟨id, fun blocked => ?_⟩
  show (requestUnlessBlocked a b blocked).Uses _
  rw [requestUnlessBlocked]
  split
  · trivial
  refine ⟨id, fun rows => ?_⟩
  show (requestAmong a b rows).Uses _
  rw [requestAmong]
  split
  · trivial
  split
  · rw [meetPending]
    split
    · exact ⟨id, fun _ => uses_addMatchingConnectionPeers.bind fun _ => ⟨id, fun _ => trivial⟩⟩
    · trivial
  · exact uses_openRequest

theorem uses_accept {connectionId : ConnectionId} :
    (acceptIncomingConnectionService a connectionId).Uses (¬ ·.ConcernsBlocks) := by
  refine ⟨id, fun row => ?_⟩
  show (acceptGated a (gateAddresseePending row a)).Uses _
  cases gateAddresseePending row a with
  | error error => trivial
  | ok row =>
      exact ⟨id, fun _ => uses_addMatchingConnectionPeers.bind
        fun _ => ⟨id, fun _ => ⟨id, fun _ => trivial⟩⟩⟩

theorem uses_reject {connectionId : ConnectionId} :
    (rejectIncomingConnectionService a connectionId).Uses (¬ ·.ConcernsBlocks) := by
  refine ⟨id, fun row => ?_⟩
  show (rejectGated a (gateAddresseePending row a)).Uses _
  cases gateAddresseePending row a with
  | error error => trivial
  | ok row => exact ⟨id, fun _ => ⟨id, fun _ => trivial⟩⟩

theorem uses_withdraw {connectionId : ConnectionId} :
    (withdrawConnectionRequestService a connectionId).Uses (¬ ·.ConcernsBlocks) := by
  refine ⟨id, fun row => ?_⟩
  show (withdrawGated a (gateRequesterPending row a)).Uses _
  cases gateRequesterPending row a with
  | error error => trivial
  | ok row => exact ⟨id, fun _ => ⟨id, fun _ => trivial⟩⟩

theorem uses_disconnect {connectionId : ConnectionId} :
    (disconnectConnectionService a connectionId).Uses (¬ ·.ConcernsBlocks) := by
  refine ⟨id, fun row => ?_⟩
  show (disconnectGated a (gatePeerAccepted row a)).Uses _
  cases gatePeerAccepted row a with
  | error error => trivial
  | ok row => exact ⟨id, fun _ => ⟨id, fun _ => ⟨id, fun _ => ⟨id, fun _ => trivial⟩⟩⟩⟩

theorem uses_syncPeers : (syncMatchingConnectionPeersFromDatabase a).Uses (¬ ·.ConcernsBlocks) :=
  ⟨id, fun _ => ⟨id, fun _ => trivial⟩⟩

/-- Whoever has changed the row of a pair tells Redis before returning. -/
theorem licensed_program (call : Call) :
    call.program.Licensed (exec planner) ChangesFirst (fun h' _ => Paid h') [] := by
  have hnil : Paid [] := fun a b => not_owes_nil
  cases call with
  | request viewerId targetUserId =>
      exact (licensed_of_not_concernsBlocks planner uses_request hnil).map
  | accept viewerId connectionId =>
      exact (licensed_of_not_concernsBlocks planner uses_accept hnil).map
  | reject viewerId connectionId =>
      exact (licensed_of_not_concernsBlocks planner uses_reject hnil).map
  | withdraw viewerId connectionId =>
      exact (licensed_of_not_concernsBlocks planner uses_withdraw hnil).map
  | disconnect viewerId connectionId =>
      exact (licensed_of_not_concernsBlocks planner uses_disconnect hnil).map
  | block viewerId targetUserId => exact (licensed_block planner).map
  | unblock viewerId targetUserId => exact (licensed_unblock planner).map
  | syncPeers userId => exact (licensed_of_not_concernsBlocks planner uses_syncPeers hnil).map
  | syncBlocks userId outgoingFirst => exact (licensed_syncBlocks planner).map

end Licensed

/-! ### What every call has been told -/

section Told

variable (planner : Planner) {a b : UserId} {h : History} {w : World}

/-- What a reply tells of the row of the pair. -/
def tellsBlock (a b : UserId) : Told Cmd Cmd.Reply → Option Bool
  | ⟨.isBlockedBy blockerId blockedId, reply⟩ =>
      if blockerId = a ∧ blockedId = b then some reply else none
  | ⟨.insertBlock blockerId blockedId, true⟩ =>
      if blockerId = a ∧ blockedId = b then some true else none
  | ⟨.removeBlock blockerId blockedId, _⟩ =>
      if blockerId = a ∧ blockedId = b then some false else none
  | ⟨.listBlockedUserIds userId, ids⟩ => if userId = a then some (ids.contains b) else none
  | ⟨.listBlockerUserIds userId, ids⟩ => if userId = b then some (ids.contains a) else none
  | _ => none

/-- The row of the pair was written or deleted. -/
def changesBlock (a b : UserId) : Told Cmd Cmd.Reply → Bool
  | ⟨.insertBlock blockerId blockedId, true⟩ | ⟨.removeBlock blockerId blockedId, true⟩ =>
      blockerId = a && blockedId = b
  | _ => false

theorem isBlockedBy_insert {blocks : BlockTable} {row : BlockRow}
    (h : w.blocks.insert row = some blocks) (hne : row ≠ ⟨a, b⟩) :
    (w.setBlocks blocks).isBlockedBy a b = w.isBlockedBy a b := by
  rw [BlockTable.insert] at h
  split at h
  · cases h
    simp [World.isBlockedBy, World.setBlocks, hne.symm]
  · cases h

theorem isBlockedBy_delete {row : BlockRow} (hne : row ≠ ⟨a, b⟩) :
    (w.setBlocks (w.blocks.delete row)).isBlockedBy a b = w.isBlockedBy a b := by
  simp [World.isBlockedBy, World.setBlocks, BlockTable.delete, hne.symm]

theorem isBlockedBy_self (a : UserId) : w.isBlockedBy a a = false := by
  rw [World.isBlockedBy, List.contains_eq_mem, decide_eq_false_iff_not]
  exact fun hmem => w.blocks.noSelf _ hmem rfl

theorem contains_listBlockedUserIds :
    (exec planner (.listBlockedUserIds a) w).1.contains b = w.isBlockedBy a b := by
  rw [Bool.eq_iff_iff, List.contains_iff_mem, World.isBlockedBy, List.contains_iff_mem]
  refine List.mem_map.trans ⟨?_, fun hrow => ⟨_, List.mem_filter.mpr ⟨hrow, by simp⟩, rfl⟩⟩
  rintro ⟨⟨blockerId, blockedId⟩, hrow, rfl⟩
  obtain ⟨hold, hblocker⟩ := List.mem_filter.mp hrow
  cases of_decide_eq_true hblocker
  exact hold

theorem contains_listBlockerUserIds :
    (exec planner (.listBlockerUserIds b) w).1.contains a = w.isBlockedBy a b := by
  rw [Bool.eq_iff_iff, List.contains_iff_mem, World.isBlockedBy, List.contains_iff_mem]
  refine List.mem_map.trans ⟨?_, fun hrow => ⟨_, List.mem_filter.mpr ⟨hrow, by simp⟩, rfl⟩⟩
  rintro ⟨⟨blockerId, blockedId⟩, hrow, rfl⟩
  obtain ⟨hold, hblocked⟩ := List.mem_filter.mp hrow
  cases of_decide_eq_true hblocked
  exact hold

theorem isBlockedBy_of_tells {c : Cmd} {v : Bool}
    (hv : tellsBlock a b ⟨c, (exec planner c w).1⟩ = some v) :
    (exec planner c w).2.isBlockedBy a b = v := by
  cases c with
  | isBlockedBy blockerId blockedId =>
      obtain ⟨⟨rfl, rfl⟩, rfl⟩ : (blockerId = a ∧ blockedId = b) ∧ w.isBlockedBy blockerId
        blockedId = v := by simpa [tellsBlock, exec] using hv
      rfl
  | insertBlock blockerId blockedId =>
      rw [exec] at hv ⊢
      cases hinsert : w.blocks.insert ⟨blockerId, blockedId⟩ with
      | none =>
          rw [hinsert] at hv
          cases hv
      | some blocks =>
          rw [hinsert] at hv
          obtain ⟨⟨rfl, rfl⟩, rfl⟩ : (blockerId = a ∧ blockedId = b) ∧ true = v := by
            simpa [tellsBlock] using hv
          rw [BlockTable.insert] at hinsert
          split at hinsert
          · cases hinsert
            simp [World.isBlockedBy, World.setBlocks]
          · cases hinsert
  | removeBlock blockerId blockedId =>
      obtain ⟨⟨rfl, rfl⟩, rfl⟩ : (blockerId = a ∧ blockedId = b) ∧ false = v := by
        simpa [tellsBlock, exec] using hv
      simp [exec, World.isBlockedBy, World.setBlocks, BlockTable.delete]
  | listBlockedUserIds userId =>
      obtain ⟨rfl, hids⟩ := Option.ite_none_right_eq_some.mp hv
      exact (contains_listBlockedUserIds planner).symm.trans (Option.some.inj hids)
  | listBlockerUserIds userId =>
      obtain ⟨rfl, hids⟩ := Option.ite_none_right_eq_some.mp hv
      exact (contains_listBlockerUserIds planner).symm.trans (Option.some.inj hids)
  | _ => cases hv

theorem isBlockedBy_of_not_changes {c : Cmd}
    (hc : changesBlock a b ⟨c, (exec planner c w).1⟩ = false) :
    (exec planner c w).2.isBlockedBy a b = w.isBlockedBy a b := by
  cases c with
  | insertBlock blockerId blockedId =>
      rw [exec] at hc ⊢
      cases hinsert : w.blocks.insert ⟨blockerId, blockedId⟩ with
      | none => rfl
      | some blocks =>
          rw [hinsert] at hc
          refine isBlockedBy_insert hinsert ?_
          rintro ⟨⟩
          simp [changesBlock] at hc
  | removeBlock blockerId blockedId =>
      by_cases hpair : (⟨blockerId, blockedId⟩ : BlockRow) = ⟨a, b⟩
      swap
      · exact isBlockedBy_delete hpair
      cases hpair
      have hfree : w.isBlockedBy a b = false := by
        refine eq_false_of_ne_true fun hblocked => ?_
        have hreply : (exec planner (.removeBlock a b) w).1 = true := hblocked
        rw [hreply] at hc
        simp [changesBlock] at hc
      rw [hfree]
      simp [exec, World.isBlockedBy, World.setBlocks, BlockTable.delete]
  | deleteById id => rw [exec_deleteById]; split <;> rfl
  | setAsPendingRequest id requesterId addresseeId => rw [exec, World.redirect]; split <;> rfl
  | insertPendingRequest requesterId addresseeId => rw [exec, World.insertConnection]; split <;> rfl
  | _ => rfl

/-- Whether there is a row of the pair. -/
def blockRow (a b : UserId) : Datum (exec planner) Bool :=
  .ofReads (·.isBlockedBy a b) (tellsBlock a b) (changesBlock a b)
    (fun _ _ _ => isBlockedBy_of_tells planner) fun _ _ => isBlockedBy_of_not_changes planner

/-- What is written to Redis is what the call takes the rows for. -/
def WritesTold (h : History) : Cmd → Prop
  | .redisAddUserBlock a b => (blockRow planner a b).believed h = some true
  | .redisRemoveUserBlock a b => (blockRow planner a b).believed h = some false
  | .redisReplaceUserBlocks userId outgoing incoming => ∀ peerId,
      (blockRow planner userId peerId).believed h = some (outgoing.contains peerId) ∧
        (blockRow planner peerId userId).believed h = some (incoming.contains peerId)
  | _ => True

variable {α : Type} {p : M α}

theorem writesTold_of_not_concernsBlocks {c : Cmd} (hc : ¬ c.ConcernsBlocks) :
    WritesTold planner h c := by
  cases c with
  | redisAddUserBlock | redisRemoveUserBlock | redisReplaceUserBlocks => exact absurd trivial hc
  | _ => trivial

theorem told_of_not_concernsBlocks (hp : p.Uses (¬ ·.ConcernsBlocks)) :
    p.Licensed (exec planner) (WritesTold planner) (fun _ _ => True) h :=
  hp.licensed fun _ _ => writesTold_of_not_concernsBlocks planner

theorem told_blocked {alreadyBlocked : Bool}
    (hblocked : (blockRow planner a b).believed h = some true) :
    (blocked a b alreadyBlocked).Licensed (exec planner) (WritesTold planner) (fun _ _ => True) h :=
  ⟨hblocked, fun _ => told_of_not_concernsBlocks planner <|
    uses_cancelPeerConnectionsOnBlock.bind fun _ => ⟨id, fun _ => trivial⟩⟩

theorem told_block : (blockUserService a b).Licensed (exec planner) (WritesTold planner)
    (fun _ _ => True) [] := by
  have htold (h' : History) :
      (blockRow planner a b).believed (⟨.isBlockedBy a b, true⟩ :: h') = some true :=
    (blockRow planner a b).believed_cons_of_tells (by simp [blockRow, Datum.ofReads, tellsBlock])
  rw [blockUserService]
  split
  · trivial
  refine ⟨trivial, fun w => ?_⟩
  show (blockUnlessBlocked a b _).Licensed _ _ _ _
  generalize (exec planner (.isBlockedBy a b) w).1 = already
  cases already with
  | true => exact told_blocked planner (htold _)
  | false =>
      refine ⟨trivial, fun w₁ => ?_⟩
      show (createBlock a b _).Licensed _ _ _ _
      generalize (exec planner (.isBlockedBy a b) w₁).1 = existing
      cases existing with
      | true => exact told_blocked planner (htold _)
      | false =>
          refine ⟨trivial, fun w₂ => ?_⟩
          show (blockInserted a b _).Licensed _ _ _ _
          generalize (exec planner (.insertBlock a b) w₂).1 = inserted
          cases inserted with
          | false => trivial
          | true =>
              refine told_blocked planner ((blockRow planner a b).believed_cons_of_tells ?_)
              simp [blockRow, Datum.ofReads, tellsBlock]

theorem told_unblock : (unblockUserService a b).Licensed (exec planner) (WritesTold planner)
    (fun _ _ => True) [] := by
  refine ⟨trivial, fun w => ?_⟩
  show (unblocked a b _).Licensed _ _ _ _
  rw [unblocked]
  split
  · refine ⟨(blockRow planner a b).believed_cons_of_tells ?_, fun _ =>
      told_of_not_concernsBlocks planner ⟨id, fun _ => trivial⟩⟩
    simp [blockRow, Datum.ofReads, tellsBlock]
  · trivial

/-- Whoever has read both lists of a user, in which the user is not, goes by them. -/
theorem writesTold_lists {userId : UserId} {outgoing incoming : List UserId}
    (hout : outgoing.contains userId = false) (hin : incoming.contains userId = false)
    (hh : h = [⟨.listBlockerUserIds userId, incoming⟩, ⟨.listBlockedUserIds userId, outgoing⟩] ∨
      h = [⟨.listBlockedUserIds userId, outgoing⟩, ⟨.listBlockerUserIds userId, incoming⟩]) :
    WritesTold planner h (.redisReplaceUserBlocks userId outgoing incoming) := by
  intro peerId
  by_cases hself : userId = peerId
  · subst hself
    rw [hout, hin]
    rcases hh with rfl | rfl <;>
      simp [blockRow, Datum.ofReads, Datum.believed, tellsBlock, hout, hin, -List.contains_eq_mem]
  · rcases hh with rfl | rfl <;>
      simp [blockRow, Datum.ofReads, Datum.believed, tellsBlock, changesBlock, hself]

theorem told_syncBlocks {userId : UserId} {outgoingFirst : Bool} :
    (syncUserBlocksToRedis userId outgoingFirst).Licensed (exec planner) (WritesTold planner)
      (fun _ _ => True) [] := by
  have hout (w : World) : (exec planner (.listBlockedUserIds userId) w).1.contains userId = false :=
    (contains_listBlockedUserIds planner).trans (isBlockedBy_self userId)
  have hin (w : World) : (exec planner (.listBlockerUserIds userId) w).1.contains userId = false :=
    (contains_listBlockerUserIds planner).trans (isBlockedBy_self userId)
  cases outgoingFirst with
  | true =>
      refine ⟨trivial, fun w => ⟨trivial, fun w₁ => ⟨?_, fun _ => trivial⟩⟩⟩
      exact writesTold_lists planner (hout w) (hin w₁) (.inl rfl)
  | false =>
      refine ⟨trivial, fun w => ⟨trivial, fun w₁ => ⟨?_, fun _ => trivial⟩⟩⟩
      exact writesTold_lists planner (hout w₁) (hin w) (.inr rfl)

theorem told_program (call : Call) : call.program.Licensed (exec planner) (WritesTold planner)
    (fun _ _ => True) [] := by
  cases call with
  | request viewerId targetUserId => exact (told_of_not_concernsBlocks planner uses_request).map
  | accept viewerId connectionId => exact (told_of_not_concernsBlocks planner uses_accept).map
  | reject viewerId connectionId => exact (told_of_not_concernsBlocks planner uses_reject).map
  | withdraw viewerId connectionId => exact (told_of_not_concernsBlocks planner uses_withdraw).map
  | disconnect viewerId connectionId =>
      exact (told_of_not_concernsBlocks planner uses_disconnect).map
  | block viewerId targetUserId => exact (told_block planner).map
  | unblock viewerId targetUserId => exact (told_unblock planner).map
  | syncPeers userId => exact (told_of_not_concernsBlocks planner uses_syncPeers).map
  | syncBlocks userId outgoingFirst => exact (told_syncBlocks planner).map

end Told

/-! ### The copy -/

/-- Both sets of Redis say of the pair what the table says. -/
def World.SyncedAt (w : World) (a b : UserId) : Prop :=
  (b ∈ w.outgoing a ↔ w.isBlockedBy a b) ∧ (a ∈ w.incoming b ↔ w.isBlockedBy a b)

def World.BlocksSynced (w : World) : Prop := ∀ a b, w.SyncedAt a b

section Run

variable {ι : Type} [DecidableEq ι] (planner : Planner) {s : Scene ι Cmd Cmd.Reply World}
  {i : ι} {a b : UserId}

/-- Some caller is still to write the pair to Redis, and it is not `i`. -/
def OwedBesides (i : ι) (a b : UserId) (s : Scene ι Cmd Cmd.Reply World) : Prop :=
  ∃ j, j ≠ i ∧ Owes a b (s.told j)

/-- The command writes the pair to Redis. -/
def Cmd.Copies (a b : UserId) : Cmd → Prop
  | .redisAddUserBlock blockerId blockedId | .redisRemoveUserBlock blockerId blockedId =>
      blockerId = a ∧ blockedId = b
  | .redisReplaceUserBlocks userId _ _ => userId = a ∨ userId = b
  | _ => False

/-- Whoever was overtaken on a pair leaves it to another caller to write it
later. -/
def InTime (i : ι) (c : Cmd) (s : Scene ι Cmd Cmd.Reply World) : Prop :=
  ∀ a b, c.Copies a b → (blockRow planner a b).Overtaken i s.trace → OwedBesides i a b s

/-- Whoever writes a pair is right, or another caller is still to write it. -/
theorem agrees_or_owed {c : Cmd} (hin : InTime planner i c s) (hcopies : c.Copies a b)
    (hsound : (blockRow planner a b).Sound s) {v : Bool}
    (hv : (blockRow planner a b).believed (s.told i) = some v) :
    s.world.isBlockedBy a b = v ∨ OwedBesides i a b s := by
  by_cases hover : (blockRow planner a b).Overtaken i s.trace
  · exact .inr (hin a b hcopies hover)
  · exact .inl (hsound i v hv hover)

/-- A pair that is not in step is owed. -/
def Accounted (s : Scene ι Cmd Cmd.Reply World) : Prop :=
  ∀ a b, s.world.SyncedAt a b ∨ ∃ j, Owes a b (s.told j)

theorem OwedBesides.after {c : Cmd} (h : OwedBesides i a b s) :
    ∃ j, Owes a b ((s.after (exec planner) i c).told j) := by
  obtain ⟨j, hji, howes⟩ := h
  exact ⟨j, (Scene.told_after_of_ne (exec planner) hji.symm).symm ▸ howes⟩

/-- A debt of anybody stays, unless it is paid by this command. -/
theorem owes_after {c : Cmd} (hadd : c ≠ .redisAddUserBlock a b)
    (hremove : c ≠ .redisRemoveUserBlock a b) (h : ∃ j, Owes a b (s.told j)) :
    ∃ j, Owes a b ((s.after (exec planner) i c).told j) := by
  obtain ⟨j, howes⟩ := h
  refine ⟨j, ?_⟩
  by_cases hij : i = j
  · subst hij
    rw [Scene.told_after_self]
    exact howes.cons hadd hremove
  · rw [Scene.told_after_of_ne (exec planner) hij]
    exact howes

/-- A command that leaves the table and the sets alone as far as the pair is
concerned. -/
theorem accounted_of_same {c : Cmd} (hadd : c ≠ .redisAddUserBlock a b)
    (hremove : c ≠ .redisRemoveUserBlock a b)
    (hsynced : s.world.SyncedAt a b → (exec planner c s.world).2.SyncedAt a b)
    (h : s.world.SyncedAt a b ∨ ∃ j, Owes a b (s.told j)) :
    (exec planner c s.world).2.SyncedAt a b ∨
      ∃ j, Owes a b ((s.after (exec planner) i c).told j) :=
  h.imp hsynced (owes_after planner hadd hremove)

omit [DecidableEq ι] in
theorem syncedAt_exec {c : Cmd} (hc : ¬ c.ConcernsBlocks) {w : World} :
    (exec planner c w).2.SyncedAt a b ↔ w.SyncedAt a b := by
  cases c with
  | insertBlock | removeBlock | redisAddUserBlock | redisRemoveUserBlock | redisReplaceUserBlocks =>
      exact absurd trivial hc
  | deleteById id => rw [exec_deleteById]; split <;> rfl
  | setAsPendingRequest id requesterId addresseeId => rw [exec, World.redirect]; split <;> rfl
  | insertPendingRequest requesterId addresseeId => rw [exec, World.insertConnection]; split <;> rfl
  | _ => rfl

theorem accounted_insertBlock {blockerId blockedId : UserId} (h : Accounted s)
    (hfirst : ChangesFirst (s.told i) (.insertBlock blockerId blockedId)) :
    Accounted (s.after (exec planner) i (.insertBlock blockerId blockedId)) := by
  intro a b
  rw [Scene.after_world]
  cases hinsert : s.world.blocks.insert ⟨blockerId, blockedId⟩ with
  | none =>
      refine accounted_of_same planner (by simp) (by simp) (fun hsynced => ?_) (h a b)
      rw [exec, hinsert]
      exact hsynced
  | some blocks =>
      by_cases hpair : (⟨blockerId, blockedId⟩ : BlockRow) = ⟨a, b⟩
      · cases hpair
        refine .inr ⟨i, ?_⟩
        have hreply : (exec planner (.insertBlock blockerId blockedId) s.world).1 = true := by
          rw [exec, hinsert]
        rw [Scene.told_after_self, hreply]
        refine .inl ⟨List.mem_cons_self, List.forall_mem_cons.mpr ⟨by simp, ?_⟩⟩
        exact hfirst
      · refine accounted_of_same planner (by simp) (by simp) (fun hsynced => ?_) (h a b)
        have hsame := isBlockedBy_insert hinsert hpair
        rw [exec, hinsert]
        exact ⟨hsynced.1.trans (by rw [hsame]), hsynced.2.trans (by rw [hsame])⟩

theorem accounted_removeBlock {blockerId blockedId : UserId} (h : Accounted s)
    (hfirst : ChangesFirst (s.told i) (.removeBlock blockerId blockedId)) :
    Accounted (s.after (exec planner) i (.removeBlock blockerId blockedId)) := by
  intro a b
  rw [Scene.after_world]
  by_cases hpair : (⟨blockerId, blockedId⟩ : BlockRow) = ⟨a, b⟩
  · cases hpair
    cases hblocked : s.world.isBlockedBy blockerId blockedId with
    | true =>
        refine .inr ⟨i, ?_⟩
        have hreply : (exec planner (.removeBlock blockerId blockedId) s.world).1 = true := hblocked
        rw [Scene.told_after_self, hreply]
        refine .inr ⟨List.mem_cons_self, List.forall_mem_cons.mpr ⟨by simp, ?_⟩⟩
        exact hfirst
    | false =>
        refine accounted_of_same planner (by simp) (by simp) (fun hsynced => ?_)
          (h blockerId blockedId)
        have hsame : (exec planner (.removeBlock blockerId blockedId) s.world).2.isBlockedBy
            blockerId blockedId = s.world.isBlockedBy blockerId blockedId := by
          rw [hblocked]
          simp [exec, World.isBlockedBy, World.setBlocks, BlockTable.delete]
        exact ⟨hsynced.1.trans (by rw [hsame]), hsynced.2.trans (by rw [hsame])⟩
  · refine accounted_of_same planner (by simp) (by simp) (fun hsynced => ?_) (h a b)
    have hsame := isBlockedBy_delete (w := s.world) hpair
    exact ⟨hsynced.1.trans (by rw [exec, hsame]), hsynced.2.trans (by rw [exec, hsame])⟩

theorem accounted_redisAdd {blockerId blockedId : UserId} (h : Accounted s)
    (hin : s.world.isBlockedBy blockerId blockedId = true ∨ OwedBesides i blockerId blockedId s) :
    Accounted (s.after (exec planner) i (.redisAddUserBlock blockerId blockedId)) := by
  intro a b
  by_cases hpair : blockerId = a ∧ blockedId = b
  · obtain ⟨rfl, rfl⟩ := hpair
    rcases hin with hblocked | howed
    · refine .inl ⟨?_, ?_⟩
      · exact iff_of_true (mem_update_insert.mpr (.inr ⟨rfl, rfl⟩)) hblocked
      · exact iff_of_true (mem_update_insert.mpr (.inr ⟨rfl, rfl⟩)) hblocked
    · exact .inr (howed.after planner)
  · rw [Scene.after_world]
    refine accounted_of_same planner ?_ (by simp) (fun hsynced => ⟨?_, ?_⟩) (h a b)
    · rintro heq
      cases heq
      exact hpair ⟨rfl, rfl⟩
    · exact (mem_update_insert.trans (or_iff_left hpair)).trans hsynced.1
    · exact (mem_update_insert.trans (or_iff_left fun h => hpair h.symm)).trans hsynced.2

theorem accounted_redisRemove {blockerId blockedId : UserId} (h : Accounted s)
    (hin : s.world.isBlockedBy blockerId blockedId = false ∨ OwedBesides i blockerId blockedId s) :
    Accounted (s.after (exec planner) i (.redisRemoveUserBlock blockerId blockedId)) := by
  intro a b
  by_cases hpair : blockerId = a ∧ blockedId = b
  · obtain ⟨rfl, rfl⟩ := hpair
    rcases hin with hblocked | howed
    · have hno : ¬ s.world.isBlockedBy blockerId blockedId = true := by
        rw [hblocked]
        exact Bool.false_ne_true
      refine .inl ⟨?_, ?_⟩
      · exact iff_of_false (fun hmem => (mem_update_erase.mp hmem).2 ⟨rfl, rfl⟩) hno
      · exact iff_of_false (fun hmem => (mem_update_erase.mp hmem).2 ⟨rfl, rfl⟩) hno
    · exact .inr (howed.after planner)
  · rw [Scene.after_world]
    refine accounted_of_same planner (by simp) ?_ (fun hsynced => ⟨?_, ?_⟩) (h a b)
    · rintro heq
      cases heq
      exact hpair ⟨rfl, rfl⟩
    · exact (mem_update_erase.trans (and_iff_left hpair)).trans hsynced.1
    · exact (mem_update_erase.trans (and_iff_left fun h => hpair h.symm)).trans hsynced.2

theorem accounted_redisReplace {userId : UserId} {outgoing incoming : List UserId}
    (h : Accounted s)
    (hout : ∀ peerId, s.world.isBlockedBy userId peerId = outgoing.contains peerId ∨
      OwedBesides i userId peerId s)
    (hin : ∀ peerId, s.world.isBlockedBy peerId userId = incoming.contains peerId ∨
      OwedBesides i peerId userId s) :
    Accounted (s.after (exec planner) i (.redisReplaceUserBlocks userId outgoing incoming)) := by
  intro a b
  rcases h a b with hsynced | howed
  · by_cases howed : OwedBesides i a b s
    · exact .inr (howed.after planner)
    refine .inl ⟨?_, ?_⟩
    · show b ∈ Function.update s.world.outgoing userId outgoing.toFinset a ↔ _
      by_cases ha : a = userId
      · subst ha
        have hsame : s.world.isBlockedBy a b = outgoing.contains b := (hout b).resolve_right howed
        rw [Function.update_self, List.mem_toFinset, ← List.contains_iff_mem, ← hsame]
        exact Iff.rfl
      · rw [Function.update_of_ne ha]
        exact hsynced.1
    · show a ∈ Function.update s.world.incoming userId incoming.toFinset b ↔ _
      by_cases hb : b = userId
      · subst hb
        have hsame : s.world.isBlockedBy a b = incoming.contains a := (hin a).resolve_right howed
        rw [Function.update_self, List.mem_toFinset, ← List.contains_iff_mem, ← hsame]
        exact Iff.rfl
      · rw [Function.update_of_ne hb]
        exact hsynced.2
  · exact .inr (owes_after planner (by simp) (by simp) howed)

/-- What every call has been told of a pair is so, unless it was overtaken. -/
def Informed (s : Scene ι Cmd Cmd.Reply World) : Prop := ∀ a b, (blockRow planner a b).Sound s

/-- Every command that is issued in time keeps the accounts. -/
theorem Accounted.after {c : Cmd} (h : Accounted s) (hsound : Informed planner s)
    (hfirst : ChangesFirst (s.told i) c) (htold : WritesTold planner (s.told i) c)
    (hin : InTime planner i c s) : Accounted (s.after (exec planner) i c) := by
  cases c with
  | insertBlock blockerId blockedId => exact accounted_insertBlock planner h hfirst
  | removeBlock blockerId blockedId => exact accounted_removeBlock planner h hfirst
  | redisAddUserBlock blockerId blockedId =>
      exact accounted_redisAdd planner h (agrees_or_owed planner hin ⟨rfl, rfl⟩ (hsound _ _) htold)
  | redisRemoveUserBlock blockerId blockedId =>
      exact accounted_redisRemove planner h
        (agrees_or_owed planner hin ⟨rfl, rfl⟩ (hsound _ _) htold)
  | redisReplaceUserBlocks userId outgoing incoming =>
      exact accounted_redisReplace planner h
        (fun peerId => agrees_or_owed planner hin (.inl rfl) (hsound _ _) (htold peerId).1)
        fun peerId => agrees_or_owed planner hin (.inr rfl) (hsound _ _) (htold peerId).2
  | _ =>
      exact fun a b => accounted_of_same planner (by simp) (by simp)
        (syncedAt_exec planner id).mpr (h a b)

/-- The calls at their start. -/
def underway (calls : ι → Call) (w : World) : Conf ι Cmd Cmd.Reply Result World :=
  ⟨fun i => (calls i).program, w, []⟩

/-- No call is in progress: each has returned, or has done nothing yet. -/
def AtRest (conf : Conf ι Cmd Cmd.Reply Result World) : Prop :=
  ∀ i, (∃ a, conf.threads i = .done a) ∨ conf.scene.told i = []

/-- **The copy is right at rest** in every run in which whoever is overtaken
between being told of a pair and writing it leaves a later write to others. -/
theorem blocksSynced_of_inTime (calls : ι → Call) {w : World} (hw : w.BlocksSynced)
    {sched : List ι} (hin : (underway calls w).Meets (exec planner) (InTime planner) sched)
    (hrest : AtRest ((underway calls w).runs (exec planner) sched)) :
    ((underway calls w).runs (exec planner) sched).scene.world.BlocksSynced := by
  have hlic : (underway calls w).Licensed (exec planner)
      (fun _ h c => ChangesFirst h c ∧ WritesTold planner h c) (fun _ h _ => Paid h ∧ True) :=
    fun i => (licensed_program planner (calls i)).and (told_program planner (calls i))
  have hacc : Accounted ((underway calls w).runs (exec planner) sched).scene ∧
      Informed planner ((underway calls w).runs (exec planner) sched).scene :=
    hlic.runs_inv (I := fun s => Accounted s ∧ Informed planner s)
      (fun s i c h hlic hin => ⟨h.1.after planner h.2 hlic.1 hlic.2 hin,
        fun a b => (h.2 a b).after i c⟩)
      ⟨fun a b => .inl (hw a b), fun a b => (blockRow planner a b).sound_start w⟩ hin
  intro a b
  refine (hacc.1 a b).resolve_right ?_
  rintro ⟨j, howes⟩
  rcases hrest j with ⟨result, hdone⟩ | hnil
  · exact ((hlic.runs sched).result hdone).1 a b howes
  · rw [hnil] at howes
    exact not_owes_nil howes

end Run

namespace Sample

theorem blocksSynced_fresh : fresh.BlocksSynced := by
  intro a b
  simp [World.SyncedAt, fresh, World.isBlockedBy, BlockTable.empty]

/-- Mia blocks Noa while her blocks are copied. -/
def copying : Conf Bool Cmd Cmd.Reply Result World :=
  underway (fun i => if i then .block mia noa else .syncBlocks mia true) fresh

/-- The copy is made without the block that is being written, and the block is
added to it. -/
def outrun : List Bool := [false, false, true, true, true, false, true, true, true]

/-- Whoever has written the row has not told Redis. -/
def outstanding (s : Scene Bool Cmd Cmd.Reply World) : Event Bool Cmd Cmd.Reply → Bool
  | ⟨j, .insertBlock _ _, _⟩ => (s.told j).all fun
      | ⟨.redisAddUserBlock _ _, _⟩ => false
      | _ => true
  | ⟨_, .removeBlock _ _, _⟩ => false
  | _ => true

theorem owes_of_outstanding {s : Scene Bool Cmd Cmd.Reply World} {e : Event Bool Cmd Cmd.Reply}
    {a b : UserId} (he : e ∈ s.trace) (hopen : outstanding s e = true)
    (hchanges : changesBlock a b ⟨e.cmd, e.reply⟩ = true) : Owes a b (s.told e.tid) := by
  obtain ⟨j, c, r⟩ := e
  cases c with
  | insertBlock blockerId blockedId =>
      cases r with
      | false => cases hchanges
      | true =>
          obtain ⟨rfl, rfl⟩ : blockerId = a ∧ blockedId = b := by
            simpa [changesBlock] using hchanges
          refine .inl ⟨Scene.mem_told.mpr he, fun e' he' hadd => ?_⟩
          obtain ⟨c', r'⟩ := e'
          cases hadd
          exact absurd (List.all_eq_true.mp hopen _ he') Bool.false_ne_true
  | removeBlock blockerId blockedId => cases hopen
  | _ => cases hchanges

theorem inTime_of_outstanding {i : Bool} {c : Cmd} {s : Scene Bool Cmd Cmd.Reply World}
    (h : ∀ e ∈ s.trace, e.tid = i ∨ outstanding s e = true) : InTime .inOrder i c s := by
  rintro a b - ⟨e, he, hne, hchanges⟩
  have hmem : e ∈ s.trace := (List.takeWhile_sublist _).subset he
  exact ⟨e.tid, hne, owes_of_outstanding hmem ((h e hmem).resolve_left hne) hchanges⟩

theorem blocksSynced_copying :
    (copying.runs (exec .inOrder) outrun).scene.world.BlocksSynced := by
  have hopen : copying.Meets (exec .inOrder)
      (fun i _ s => ∀ e ∈ s.trace, e.tid = i ∨ outstanding s e = true) outrun := by decide
  refine blocksSynced_of_inTime .inOrder _ blocksSynced_fresh
    (hopen.mono (exec .inOrder) fun _ _ _ => inTime_of_outstanding) ?_
  intro i
  cases i with
  | true => exact .inl ⟨_, rfl⟩
  | false => exact .inl ⟨_, rfl⟩

/-- The lists are read before the block and written after it. -/
def overwriting : List Bool := [false, false, true, true, true, true, true, true, false]

/-- Nothing is in progress, the row is there, and Redis knows nothing of it. -/
theorem not_blocksSynced_copying :
    AtRest (copying.runs (exec .inOrder) overwriting) ∧
      ¬ (copying.runs (exec .inOrder) overwriting).scene.world.BlocksSynced := by
  refine ⟨?_, fun h => ?_⟩
  · intro i
    cases i with
    | true => exact .inl ⟨_, rfl⟩
    | false => exact .inl ⟨_, rfl⟩
  · have hblocked : (copying.runs (exec .inOrder) overwriting).scene.world.isBlockedBy mia noa =
        true := by decide
    have hlost : noa ∉ (copying.runs (exec .inOrder) overwriting).scene.world.outgoing mia := by
      decide
    exact hlost ((h mia noa).1.mpr hblocked)

end Sample

end Greetup.Connections
