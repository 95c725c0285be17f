import Greetup.Chat.PeerLicence

/-!
Whether two users ever get a second conversation.

A call that finds none creates one. What it has found may be out of date when it
does, for another call may have created one meanwhile; and one of the look-ups
does not see all that there is.
-/

namespace Greetup.Chat

open Interleaving Prog
open Connections (UserId ConnectionId ConnectionTable)
open Rooms (RoomId)

variable {ι : Type}

abbrev PeerEvent (ι : Type) := Event ι (PeerCmd ι) PeerCmd.Reply

abbrev PeerScene (ι : Type) := Scene ι (PeerCmd ι) PeerCmd.Reply (PeerSessions ι)

/-- What everybody sees of the database. -/
abbrev PeerScene.committed (s : PeerScene ι) : Backend := s.world.sessions.committed

/-! ### What the trace shows -/

def HasLocked (i : ι) (key : LockKey) (trace : List (PeerEvent ι)) : Prop :=
  ⟨i, .lock i key, true⟩ ∈ trace

def HasFound (i : ι) (id : ConversationId) (trace : List (PeerEvent ι)) : Prop :=
  ∃ ids, ⟨i, .findOldest i ids, some id⟩ ∈ trace

def HasCreated (i : ι) (id : ConversationId) (trace : List (PeerEvent ι)) : Prop :=
  ∃ type roomId connectionId, ⟨i, .insertConversation i type roomId connectionId, some id⟩ ∈ trace

def Ended (i : ι) (trace : List (PeerEvent ι)) : Prop :=
  ∃ e ∈ trace, e.tid = i ∧ e.cmd.stage = 4

/-- Call `j` had ended before call `i` looked up what there is. -/
def EndedBefore (j i : ι) (trace : List (PeerEvent ι)) : Prop :=
  ∃ e rest, e :: rest <:+ trace ∧ e.tid = i ∧ e.cmd.stage = 1 ∧ Ended j rest

/-- Both have locked the same row. -/
def ShareLock (i j : ι) (trace : List (PeerEvent ι)) : Prop :=
  ∃ key, HasLocked i key trace ∧ HasLocked j key trace

/-- A lock that another transaction holds is waited for. -/
def Runnable [DecidableEq ι] (i : ι) (c : PeerCmd ι) (s : PeerScene ι) : Prop :=
  match c with
  | .lock _ key => s.world.locks.isFree i key
  | _ => True

/-- No call overlooks a conversation: if the list of chats looks up that of a
connection and there is none, then the two have none at all; and whoever else has
created one has ended before a call that creates one looked it up, unless both
have locked the same row. -/
def Attentive (tasks : ι → PeerTask) (a b : UserId) (i : ι) (c : PeerCmd ι) (s : PeerScene ι) :
    Prop :=
  match c with
  | .findByConnection _ connectionId => (tasks i).isPeer →
      (∀ row ∈ s.committed.chat.conversations.rows, row.type = .connection →
        row.connectionId ≠ some connectionId) → ∀ id, ¬ Between a b s.committed id
  | .insertConversation _ _ _ _ => ∀ j id, j ≠ i → HasCreated j id s.trace →
      ShareLock i j s.trace ∨ EndedBefore j i s.trace
  | _ => True

section Grows

variable {i : ι} {trace : List (PeerEvent ι)} {e : PeerEvent ι} {key : LockKey}
  {id : ConversationId}

theorem HasFound.cons (h : HasFound i id trace) : HasFound i id (e :: trace) :=
  h.imp fun _ => List.mem_cons_of_mem _

theorem HasCreated.cons (h : HasCreated i id trace) : HasCreated i id (e :: trace) := by
  obtain ⟨type, roomId, connectionId, h⟩ := h
  exact ⟨type, roomId, connectionId, List.mem_cons_of_mem _ h⟩

theorem Ended.mono {rest : List (PeerEvent ι)} (h : Ended i rest) (hrest : rest <:+ trace) :
    Ended i trace := by
  obtain ⟨e, he, htid⟩ := h
  exact ⟨e, hrest.subset he, htid⟩

theorem Ended.cons (h : Ended i trace) : Ended i (e :: trace) := h.mono (List.suffix_cons e trace)

theorem ended_cons : Ended i (e :: trace) ↔ e.tid = i ∧ e.cmd.stage = 4 ∨ Ended i trace := by
  simp [Ended]

end Grows

/-! ### What a statement changes -/

section Exec

variable [DecidableEq ι] {planner : PeerPlanner} {s : PeerSessions ι} {c : PeerCmd ι} {i j : ι}

/-- Only the end of a transaction changes what everybody sees. -/
theorem exec_committed (h : c.stage < 4) :
    SameConversations s.sessions.committed (execPeer planner c s).2.sessions.committed ∧
      (execPeer planner c s).2.sessions.committed.roomParticipants =
        s.sessions.committed.roomParticipants := by
  cases c with
  | commit | rollback => exact absurd h (by simp [PeerCmd.stage])
  | lock tx key =>
      rw [execPeer]
      split <;> exact ⟨⟨rfl, rfl⟩, rfl⟩
  | insertConversation tx type roomId connectionId =>
      rw [execPeer]
      split <;> exact ⟨⟨rfl, rfl⟩, rfl⟩
  | _ => exact ⟨⟨rfl, rfl⟩, rfl⟩

theorem exec_writes_of_ne (h : ∀ tx, c.tx = some tx → tx ≠ j) :
    (execPeer planner c s).2.sessions.writes j = s.sessions.writes j := by
  cases c with
  | lock tx key =>
      rw [execPeer]
      split <;> rfl
  | insertConversation tx type roomId connectionId =>
      rw [execPeer]
      split
      · rfl
      · exact Sql.Sessions.write_writes_of_ne (h tx rfl).symm _
  | linkRoom tx | promote tx | insertParticipants tx =>
      exact Sql.Sessions.write_writes_of_ne (h tx rfl).symm _
  | commit tx => exact Sql.Sessions.commit_writes_of_ne (h tx rfl).symm
  | rollback tx => exact Function.update_of_ne (h tx rfl).symm _ _
  | _ => rfl

theorem exec_writes_of_reading (h : c.stage < 3) :
    (execPeer planner c s).2.sessions.writes = s.sessions.writes := by
  cases c with
  | linkRoom | promote | insertConversation | insertParticipants | commit | rollback =>
      exact absurd h (by simp [PeerCmd.stage])
  | lock tx key =>
      rw [execPeer]
      split <;> rfl
  | _ => rfl

theorem exec_writes_of_end (h : c.stage = 4) (htx : c.tx = some i) :
    (execPeer planner c s).2.sessions.writes i = [] := by
  cases c with
  | commit tx =>
      cases htx
      exact Sql.Sessions.commit_writes_self
  | rollback tx =>
      cases htx
      exact Function.update_self ..
  | _ => simp [PeerCmd.stage] at h

theorem exec_locks (hlock : ∀ tx key, c ≠ .lock tx key) (h : c.stage < 4) :
    (execPeer planner c s).2.locks = s.locks := by
  cases c with
  | lock tx key => exact absurd rfl (hlock tx key)
  | commit | rollback => exact absurd h (by simp [PeerCmd.stage])
  | insertConversation tx type roomId connectionId =>
      rw [execPeer]
      split <;> rfl
  | _ => rfl

theorem exec_locks_of_end (h : c.stage = 4) (htx : c.tx = some i) :
    (execPeer planner c s).2.locks = s.locks.release i := by
  cases c with
  | commit tx | rollback tx =>
      cases htx
      rfl
  | _ => simp [PeerCmd.stage] at h

/-- What a transaction adds to what it has written. -/
theorem exec_writes_of_write {a b : UserId} {task : PeerTask} {h : List (PeerTold ι)}
    (hc : c.stage = 3) (horder : c.InOrder a b task i h) {change : Backend → Backend}
    (hchange : change ∈ (execPeer planner c s).2.sessions.writes i) :
    change ∈ s.sessions.writes i ∨
      Safe a b (fun id => ∃ ids, ⟨.findOldest i ids, some id⟩ ∈ h)
        (fun id => ∃ type roomId connectionId,
          ⟨.insertConversation i type roomId connectionId, some id⟩ ∈
            (⟨c, (execPeer planner c s).1⟩ :: h : List (PeerTold ι))) change := by
  have htx := horder.tx
  have hneeds := horder.needs
  have hwrite {f : Backend → Backend} {t : Sql.Sessions ι Backend}
      (h : change ∈ (t.write i f).writes i) : change = f ∨ change ∈ t.writes i := by
    rw [Sql.Sessions.write_writes_self] at h
    exact List.mem_cons.mp h
  cases c with
  | linkRoom tx id roomId =>
      cases htx tx rfl
      rcases hwrite hchange with rfl | hmem
      · have hsafe : Safe a b (fun _ => False) (fun _ => False) (·.updateConversation id
            ({ · with roomId := some roomId }) fun _ => rfl) :=
          safe_updateConversation (fun _ h => h) (.inr fun _ h => h)
        exact .inr (hsafe.mono (fun _ h => h.elim) fun _ h => h.elim)
      · exact .inl hmem
  | promote tx id connectionId roomId =>
      cases htx tx rfl
      rcases hwrite hchange with rfl | hmem
      · exact .inr ((safe_updateConversation (fun _ _ => rfl) (.inl hneeds)).mono (fun _ h => h)
          fun _ h => h.elim)
      · exact .inl hmem
  | insertConversation tx type roomId connectionId =>
      cases htx tx rfl
      obtain ⟨id, hid⟩ : ∃ id, id =
        (execPeer planner (.insertConversation i type roomId connectionId) s).1 := ⟨_, rfl⟩
      rw [← hid]
      rw [execPeer] at hchange hid
      split at hchange
      · exact .inl hchange
      · rename_i hfree
        rw [if_neg hfree] at hid
        rcases hwrite hchange with rfl | hmem
        · have hpeer : (s.newConversation type roomId connectionId).isPeer := by
            cases type with
            | roomSpace => exact absurd rfl hneeds.1
            | roomDirect | connection => rfl
          refine .inr ((safe_insertConversation hpeer).mono (fun _ h => h.elim) ?_)
          rintro _ rfl
          exact ⟨type, roomId, connectionId, by rw [hid]; exact List.mem_cons_self⟩
        · exact .inl hmem
  | insertParticipants tx id userIds =>
      cases htx tx rfl
      rcases hwrite hchange with rfl | hmem
      · refine .inr ((safe_insertParticipants userIds).mono (fun _ h => h.elim) ?_)
        rintro _ rfl
        obtain ⟨type, roomId, connectionId, hmem⟩ := hneeds
        exact ⟨type, roomId, connectionId, List.mem_cons_of_mem _ hmem⟩
      · exact .inl hmem
  | _ => simp [PeerCmd.stage] at hc

end Exec

section FindOldest

variable [DecidableEq ι] {planner : PeerPlanner} {s : PeerSessions ι} {tx : ι}
  {ids : List ConversationId}

theorem findOldest_eq_none (h : (execPeer planner (.findOldest tx ids) s).1 = none) :
    ∀ row ∈ (s.view tx).chat.conversations.rows, row.isPeer → row.id ∉ ids := by
  intro row hrow hpeer hmem
  have hsorted := List.head?_eq_none_iff.mp (Option.map_eq_none_iff.mp h)
  have hperm := (planner.conversations.perm _).symm.trans ((List.perm_insertionSort
    (fun a b => a.createdAt ≤ b.createdAt) _).symm.trans (.of_eq hsorted))
  exact List.filter_eq_nil_iff.mp (List.perm_nil.mp hperm) row hrow
    (decide_eq_true ⟨hmem, hpeer⟩)

theorem isPeerIn_of_findOldest {id : ConversationId}
    (h : (execPeer planner (.findOldest tx ids) s).1 = some id) : IsPeerIn (s.view tx) id := by
  obtain ⟨row, hhead, rfl⟩ := Option.map_eq_some_iff.mp h
  have hmem := (planner.conversations.perm _).mem_iff.mp ((List.perm_insertionSort
    (fun a b => a.createdAt ≤ b.createdAt) _).mem_iff.mp (List.mem_of_mem_head? hhead))
  obtain ⟨hrow, hpeer⟩ := List.mem_filter.mp hmem
  intro row' hrow' hid
  rw [Sql.Table.eq_of_key hrow' hrow hid]
  exact (of_decide_eq_true hpeer).2

end FindOldest

/-! ### What a reply says of the conversations of the two -/

section Fact

variable (tasks : ι → PeerTask) (a b : UserId)

/-- What is true of a look-up when it is made. -/
def Fact (w : Backend) : PeerEvent ι → Prop
  | ⟨_, .conversationIdsOf _ userId, ids⟩ =>
      (userId = a ∨ userId = b) → ∀ id, Between a b w id → id ∈ ids
  | ⟨_, .conversationIdsShared _ userId ids, shared⟩ =>
      (userId = a ∨ userId = b) → ∀ id, Between a b w id → id ∈ ids → id ∈ shared
  | ⟨_, .findOldest _ ids, none⟩ => ∀ id, Between a b w id → id ∉ ids
  | ⟨i, .findByConnection _ _, none⟩ => (tasks i).isPeer → ∀ id, ¬ Between a b w id
  | _ => True

variable {tasks a b} {w w' : Backend}

/-- It remains true while the two get no conversation. -/
theorem Fact.mono {e : PeerEvent ι} (h : Fact tasks a b w e)
    (hle : ∀ id, Between a b w' id → Between a b w id) : Fact tasks a b w' e := by
  obtain ⟨i, c, r⟩ := e
  cases c with
  | conversationIdsOf tx userId => exact fun huser id hid => h huser id (hle id hid)
  | conversationIdsShared tx userId ids => exact fun huser id hid => h huser id (hle id hid)
  | findOldest tx ids =>
      cases r with
      | none => exact fun id hid => h id (hle id hid)
      | some found => trivial
  | findByConnection tx connectionId =>
      cases r with
      | none => exact fun hpeer id hid => h hpeer id (hle id hid)
      | some found => trivial
  | _ => trivial

variable [DecidableEq ι] {planner : PeerPlanner} {s : PeerScene ι} {i : ι} {c : PeerCmd ι}

/-- A transaction that has not written sees what everybody sees. -/
theorem fact_exec (hview : ∀ tx, c.tx = some tx → c.stage < 3 → s.world.view tx = s.committed)
    (hattentive : Attentive tasks a b i c s) :
    Fact tasks a b s.committed ⟨i, c, (execPeer planner c s.world).1⟩ := by
  cases c with
  | conversationIdsOf tx userId =>
      intro huser id hid
      show id ∈ (s.world.view tx).conversationIdsOf userId
      rw [hview tx rfl (by simp [PeerCmd.stage])]
      exact mem_conversationIdsOf hid huser
  | conversationIdsShared tx userId ids =>
      intro huser id hid hmem
      show id ∈ ((s.world.view tx).conversationIdsOf userId).filter (· ∈ ids)
      rw [hview tx rfl (by simp [PeerCmd.stage]), List.mem_filter]
      exact ⟨mem_conversationIdsOf hid huser, decide_eq_true hmem⟩
  | findOldest tx ids =>
      obtain ⟨found, hfound⟩ : ∃ found, found = (execPeer planner (.findOldest tx ids) s.world).1 :=
        ⟨_, rfl⟩
      rw [← hfound]
      cases found with
      | some id => trivial
      | none =>
          intro id hid hmem
          obtain ⟨⟨row, hrow, rfl, hpeer⟩, -⟩ := hid
          refine findOldest_eq_none hfound.symm row ?_ hpeer hmem
          rw [hview tx rfl (by simp [PeerCmd.stage])]
          exact hrow
  | findByConnection tx connectionId =>
      obtain ⟨found, hfound⟩ : ∃ found, found =
        (execPeer planner (.findByConnection tx connectionId) s.world).1 := ⟨_, rfl⟩
      rw [← hfound]
      cases found with
      | some id => trivial
      | none =>
          intro hpeer
          refine hattentive hpeer fun row hrow htype hconnection => ?_
          rw [execPeer, hview tx rfl (by simp [PeerCmd.stage])] at hfound
          have hnil := Arrangement.eq_nil_of_head? (Option.map_eq_none_iff.mp hfound.symm)
          exact List.filter_eq_nil_iff.mp hnil row hrow (decide_eq_true ⟨htype, hconnection⟩)
  | _ => trivial

end Fact

/-! ### The invariant -/

section Orderly

variable [DecidableEq ι] (tasks : ι → PeerTask) (a b : UserId) (w₀ : Backend)

/-- What the trace says about locks, about what is still to be committed, and
about the conversations of the two. -/
structure Orderly (s : PeerScene ι) : Prop where
  rooms : s.committed.roomParticipants = w₀.roomParticipants
  listed : ∀ i roomId userIds, ⟨i, .listRoomParticipants i roomId, userIds⟩ ∈ s.trace →
    userIds = w₀.participantsOfRoom roomId
  locks : ∀ i key, HasLocked i key s.trace → ¬ Ended i s.trace → s.world.locks key = some i
  /-- whoever locks a row has waited for all who have locked it -/
  exclusive : ∀ i key rest, ⟨i, .lock i key, true⟩ :: rest <:+ s.trace →
    ∀ j, j ≠ i → HasLocked j key s.trace → Ended j rest ∨ Ended i s.trace
  safe : ∀ i, ∀ change ∈ s.world.sessions.writes i,
    Safe a b (fun id => HasFound i id s.trace) (fun id => HasCreated i id s.trace) change
  quiet : ∀ i, (∀ e ∈ s.trace, e.tid = i → e.cmd.stage < 3) ∨ Ended i s.trace →
    s.world.sessions.writes i = []
  found : ∀ i id, HasFound i id s.trace → IsPeerIn s.committed id
  created : ∀ i id id', HasCreated i id s.trace → HasCreated i id' s.trace → id = id'
  /-- a look-up is up to date if nobody who has created a conversation has ended
  since -/
  remembers : ∀ e rest, e :: rest <:+ s.trace →
    (∀ j id, HasCreated j id s.trace → Ended j s.trace → Ended j rest) →
      Fact tasks a b s.committed e
  pending : ∀ i id, HasCreated i id s.trace → ¬ Ended i s.trace →
    (∀ id', ¬ Between a b s.committed id') ∧
      ∀ j id', j ≠ i → HasCreated j id' s.trace → Ended j s.trace
  one : OneConversation a b s.committed

variable {tasks a b w₀} {s : PeerScene ι} {i : ι} {c : PeerCmd ι}

omit [DecidableEq ι] in
theorem tx_of_stage (h : c.stage ≠ 0) : ∃ tx, c.tx = some tx := by
  cases c with
  | setConnections rows => exact absurd rfl h
  | _ => exact ⟨_, rfl⟩

variable {planner : PeerPlanner}

/-- What a call has done and found until now. -/
theorem hasCreated_after {j : ι} {id : ConversationId}
    (h : HasCreated j id (s.after (execPeer planner) i c).trace) :
    HasCreated j id s.trace ∨ j = i ∧ c.stage = 3 ∧
      (∃ tx type roomId connectionId, c = .insertConversation tx type roomId connectionId) ∧
      ∃ type roomId connectionId, ⟨.insertConversation i type roomId connectionId, some id⟩ =
        (⟨c, (execPeer planner c s.world).1⟩ : PeerTold ι) := by
  obtain ⟨type, roomId, connectionId, hmem⟩ := h
  rcases List.mem_cons.mp hmem with heq | hmem
  · obtain ⟨rfl, hc, hr⟩ := Event.mk.inj heq
    subst hc
    refine .inr ⟨rfl, rfl, ⟨_, _, _, _, rfl⟩, type, roomId, connectionId, ?_⟩
    rw [eq_of_heq hr]
  · exact .inl ⟨type, roomId, connectionId, hmem⟩

section InOrder

variable (horder : c.InOrder a b (tasks i) i (s.told i))

include horder

theorem stage_of_inOrder : ∀ e ∈ s.trace, e.tid = i → e.cmd.stage ≤ c.stage ∧ e.cmd.stage < 4 := by
  rintro ⟨j, c', r⟩ hmem rfl
  exact horder.stage ⟨c', r⟩ (Scene.mem_told.mpr hmem)

theorem not_ended : ¬ Ended i s.trace := by
  rintro ⟨e, he, htid, hstage⟩
  have hlt := (stage_of_inOrder horder e he htid).2
  omega

theorem tx_eq (h : c.stage ≠ 0) : c.tx = some i := by
  obtain ⟨tx, htx⟩ := tx_of_stage h
  rw [htx, horder.tx tx htx]

theorem Orderly.view (ho : Orderly tasks a b w₀ s) (tx : ι) (htx : c.tx = some tx)
    (hstage : c.stage < 3) : s.world.view tx = s.committed := by
  rw [horder.tx tx htx]
  refine Sql.Sessions.view_of_nil (ho.quiet i (.inl fun e he htid => ?_))
  exact ((stage_of_inOrder horder e he htid).1).trans_lt hstage

/-- What everybody sees after one statement. -/
theorem Orderly.committed_after (ho : Orderly tasks a b w₀ s) :
    (∀ id, IsPeerIn s.committed id →
        IsPeerIn (s.after (execPeer planner) i c).world.sessions.committed id) ∧
      (∀ id, Between a b (s.after (execPeer planner) i c).world.sessions.committed id →
        Between a b s.committed id ∨ c.stage = 4 ∧ HasCreated i id s.trace) ∧
      (s.after (execPeer planner) i c).world.sessions.committed.roomParticipants =
        s.committed.roomParticipants := by
  rcases Nat.lt_or_ge c.stage 4 with hlt | hge
  · have hsame : SameConversations s.committed
          (s.after (execPeer planner) i c).world.sessions.committed ∧
        (s.after (execPeer planner) i c).world.sessions.committed.roomParticipants =
          s.committed.roomParticipants := exec_committed hlt
    obtain ⟨hsame, hrooms⟩ := hsame
    exact ⟨fun id hid => hsame.isPeerIn.mpr hid, fun id hid => .inl (hsame.between.mp hid), hrooms⟩
  · have hend := tx_eq horder (by omega)
    cases c with
    | commit tx =>
        cases horder.tx tx rfl
        obtain ⟨hpeer, hbetween, hrooms⟩ := Safe.foldr (ho.safe i) (ho.found i)
        exact ⟨hpeer, fun id hid => (hbetween id hid).imp_right fun h => ⟨rfl, h⟩, hrooms⟩
    | rollback tx => exact ⟨fun _ h => h, fun _ h => .inl h, rfl⟩
    | _ => simp [PeerCmd.stage] at hge

/-- The locks after one statement that did not have to wait. -/
theorem Orderly.locks_after (ho : Orderly tasks a b w₀ s) (hrun : Runnable i c s) {j : ι}
    {key : LockKey} (hlocked : HasLocked j key (s.after (execPeer planner) i c).trace)
    (hended : ¬ Ended j (s.after (execPeer planner) i c).trace) :
    (s.after (execPeer planner) i c).world.locks key = some j := by
  have hopen : ¬ Ended j s.trace := fun h => hended h.cons
  rcases Nat.lt_or_ge c.stage 4 with hlt | hge
  · cases c with
    | lock tx key' =>
        cases horder.tx tx rfl
        rcases List.mem_cons.mp hlocked with heq | hmem
        · obtain ⟨rfl, hkey, hr⟩ := Event.mk.inj heq
          cases hkey
          have hr := eq_of_heq hr
          rw [execPeer] at hr
          rw [Scene.after_world, execPeer]
          split at hr
          · rename_i hrow
            rw [if_pos hrow]
            exact Sql.Locks.acquire_eq_some.mpr (by rw [if_pos rfl])
          · cases hr
        · have hheld := ho.locks j key hmem hopen
          rw [Scene.after_world, execPeer]
          split
          · refine Sql.Locks.acquire_eq_some.mpr ?_
            split
            · rename_i hkey
              subst hkey
              exact Sql.Locks.eq_of_isFree hrun hheld
            · exact hheld
          · exact hheld
    | _ =>
        rcases List.mem_cons.mp hlocked with heq | hmem
        · obtain ⟨-, hkey, -⟩ := Event.mk.inj heq
          cases hkey
        · rw [Scene.after_world, exec_locks (fun _ _ => by simp) hlt]
          exact ho.locks j key hmem hopen
  · have hend : c.stage = 4 := by
      have hle : c.stage ≤ 4 := by cases c <;> simp [PeerCmd.stage]
      omega
    have hne : j ≠ i := by
      rintro rfl
      exact hended (ended_cons.mpr (.inl ⟨rfl, hend⟩))
    rcases List.mem_cons.mp hlocked with heq | hmem
    · obtain ⟨rfl, -, -⟩ := Event.mk.inj heq
      exact absurd rfl hne
    · rw [Scene.after_world, exec_locks_of_end hend (tx_eq horder (by omega))]
      exact Sql.Locks.release_eq_some.mpr ⟨ho.locks j key hmem hopen, hne⟩

/-- Only whoever has waited gets a lock. -/
theorem Orderly.exclusive_after (ho : Orderly tasks a b w₀ s) (hrun : Runnable i c s)
    {j k : ι} {key : LockKey} {rest : List (PeerEvent ι)}
    (hrest : ⟨j, .lock j key, true⟩ :: rest <:+ (s.after (execPeer planner) i c).trace)
    (hne : k ≠ j) (hlocked : HasLocked k key (s.after (execPeer planner) i c).trace) :
    Ended k rest ∨ Ended j (s.after (execPeer planner) i c).trace := by
  rcases List.suffix_cons_iff.mp hrest with heq | hold
  · -- the lock is taken now
    obtain ⟨hevent, rfl⟩ := List.cons_eq_cons.mp heq
    obtain ⟨rfl, hkey, -⟩ := Event.mk.inj hevent
    subst hkey
    left
    by_contra hopen
    rcases List.mem_cons.mp hlocked with heq | hmem
    · obtain ⟨rfl, -, -⟩ := Event.mk.inj heq
      exact hne rfl
    · exact hne (Sql.Locks.eq_of_isFree hrun (ho.locks k key hmem hopen))
  · rcases List.mem_cons.mp hlocked with heq | hmem
    · -- the other one cannot have taken it now, unless this one has ended
      obtain ⟨rfl, hkey, -⟩ := Event.mk.inj heq
      subst hkey
      right
      by_contra hopen
      have hheld := ho.locks j key (hold.subset List.mem_cons_self) fun h => hopen h.cons
      exact hne (Sql.Locks.eq_of_isFree hrun hheld).symm
    · exact (ho.exclusive j key rest hold k hne hmem).imp_right Ended.cons

theorem Orderly.safe_after (ho : Orderly tasks a b w₀ s) {j : ι} {change : Backend → Backend}
    (hchange : change ∈ (s.after (execPeer planner) i c).world.sessions.writes j) :
    Safe a b (fun id => HasFound j id (s.after (execPeer planner) i c).trace)
      (fun id => HasCreated j id (s.after (execPeer planner) i c).trace) change := by
  have hold (hmem : change ∈ s.world.sessions.writes j) := (ho.safe j change hmem).mono
    (fun _ h => h.cons (e := ⟨i, c, (execPeer planner c s.world).1⟩))
    fun _ h => h.cons (e := ⟨i, c, (execPeer planner c s.world).1⟩)
  by_cases hij : j = i
  · subst hij
    rcases Nat.lt_or_ge c.stage 3 with hlt | hge
    · rw [Scene.after_world, exec_writes_of_reading hlt] at hchange
      exact hold hchange
    · rcases Nat.lt_or_ge 3 c.stage with hgt | hle
      · have hend : c.stage = 4 := by
          have hle : c.stage ≤ 4 := by cases c <;> simp [PeerCmd.stage]
          omega
        rw [Scene.after_world, exec_writes_of_end hend (tx_eq horder (by omega))] at hchange
        cases hchange
      · rcases exec_writes_of_write (by omega) horder hchange with hmem | hsafe
        · exact hold hmem
        · refine hsafe.mono (fun id => ?_) fun id => ?_
          · rintro ⟨ids, hmem⟩
            exact ⟨ids, List.mem_cons_of_mem _ (Scene.mem_told.mp hmem)⟩
          · rintro ⟨type, roomId, connectionId, hmem⟩
            refine ⟨type, roomId, connectionId, ?_⟩
            rw [← Scene.told_after_self] at hmem
            exact Scene.mem_told.mp hmem
  · rw [Scene.after_world, exec_writes_of_ne fun tx htx => by
      rw [horder.tx tx htx]
      exact Ne.symm hij] at hchange
    exact hold hchange

theorem Orderly.quiet_after (ho : Orderly tasks a b w₀ s) {j : ι}
    (h : (∀ e ∈ (s.after (execPeer planner) i c).trace, e.tid = j → e.cmd.stage < 3) ∨
      Ended j (s.after (execPeer planner) i c).trace) :
    (s.after (execPeer planner) i c).world.sessions.writes j = [] := by
  by_cases hij : j = i
  · subst hij
    rcases h with hall | hended
    · rw [Scene.after_world, exec_writes_of_reading (hall _ List.mem_cons_self rfl)]
      exact ho.quiet j (.inl fun e he => hall e (List.mem_cons_of_mem _ he))
    · rcases ended_cons.mp hended with ⟨-, hend⟩ | hended
      · exact exec_writes_of_end hend (tx_eq horder (by rw [hend]; decide))
      · exact absurd hended (not_ended horder)
  · rw [Scene.after_world, exec_writes_of_ne fun tx htx => by
      rw [horder.tx tx htx]
      exact Ne.symm hij]
    refine ho.quiet j ?_
    rcases h with hall | hended
    · exact .inl fun e he => hall e (List.mem_cons_of_mem _ he)
    · rcases ended_cons.mp hended with ⟨htid, -⟩ | hended
      · exact absurd htid (Ne.symm hij)
      · exact .inr hended

theorem Orderly.found_after (ho : Orderly tasks a b w₀ s) {j : ι} {id : ConversationId}
    (h : HasFound j id (s.after (execPeer planner) i c).trace) :
    IsPeerIn (s.after (execPeer planner) i c).world.sessions.committed id := by
  refine (ho.committed_after horder).1 id ?_
  obtain ⟨ids, hmem⟩ := h
  rcases List.mem_cons.mp hmem with heq | hmem
  · obtain ⟨rfl, hc, hr⟩ := Event.mk.inj heq
    subst hc
    rw [← ho.view horder j rfl (by simp [PeerCmd.stage])]
    exact isPeerIn_of_findOldest (eq_of_heq hr).symm
  · exact ho.found j id ⟨ids, hmem⟩

theorem Orderly.created_after (ho : Orderly tasks a b w₀ s) {j : ι} {id id' : ConversationId}
    (h : HasCreated j id (s.after (execPeer planner) i c).trace)
    (h' : HasCreated j id' (s.after (execPeer planner) i c).trace) : id = id' := by
  have hfirst {id : ConversationId} (hold : HasCreated i id s.trace)
      (hc : ∃ tx type roomId connectionId, c = .insertConversation tx type roomId connectionId) :
      False := by
    obtain ⟨tx, type, roomId, connectionId, rfl⟩ := hc
    obtain ⟨type', roomId', connectionId', hmem⟩ := hold
    have hlt := horder.needs.2.2 ⟨.insertConversation i type' roomId' connectionId', some id⟩
      (Scene.mem_told.mpr hmem)
    simp [PeerCmd.stage] at hlt
  rcases hasCreated_after h with hold | ⟨rfl, -, hc, t, r, k, heq⟩
  · rcases hasCreated_after h' with hold' | ⟨rfl, -, hc', -⟩
    · exact ho.created j id id' hold hold'
    · exact (hfirst hold hc').elim
  · rcases hasCreated_after h' with hold' | ⟨-, -, -, t', r', k', heq'⟩
    · exact (hfirst hold' hc).elim
    · have hsame := heq.trans heq'.symm
      cases hsame
      rfl

theorem Orderly.listed_after (ho : Orderly tasks a b w₀ s) {j : ι} {roomId : RoomId}
    {userIds : List UserId} (h : ⟨j, .listRoomParticipants j roomId, userIds⟩ ∈
      (s.after (execPeer planner) i c).trace) : userIds = w₀.participantsOfRoom roomId := by
  rcases List.mem_cons.mp h with heq | hmem
  · obtain ⟨rfl, hc, hr⟩ := Event.mk.inj heq
    subst hc
    rw [eq_of_heq hr]
    show (s.world.view j).participantsOfRoom roomId = _
    rw [ho.view horder j rfl (by simp [PeerCmd.stage]), Backend.participantsOfRoom, ho.rooms,
      Backend.participantsOfRoom]
  · exact ho.listed j roomId userIds hmem

end InOrder

/-- The look-up that has found nothing, and what it says if it is up to date. -/
theorem newest_lookUp (hfound : FoundNone a b (tasks i) i (s.told i)) :
    ∃ l e rest, s.trace = l ++ e :: rest ∧ e.tid = i ∧ e.cmd.stage = 1 ∧
      (∀ e' ∈ l, e'.tid = i → e'.cmd.stage = 2) ∧
      ∀ w, (∀ e' rest', e' :: rest' <:+ s.trace → rest <:+ rest' → Fact tasks a b w e') →
        ∀ id, ¬ Between a b w id := by
  generalize htold : s.told i = h at hfound
  have hothers {l : List (PeerEvent ι)} (h : ∀ e ∈ l, e.tid ≠ i) :
      ∀ e ∈ l, e.tid = i → e.cmd.stage = 2 := fun e he htid => absurd htid (h e he)
  cases hfound with
  | byConnection hpeer =>
      obtain ⟨l, rest, htrace, hl, -⟩ := Scene.told_eq_cons htold
      refine ⟨l, _, rest, htrace, rfl, rfl, hothers hl, fun w hfact => ?_⟩
      exact hfact _ rest ⟨l, htrace.symm⟩ List.suffix_rfl hpeer
  | ofUser huser =>
      obtain ⟨l, rest, htrace, hl, -⟩ := Scene.told_eq_cons htold
      refine ⟨l, _, rest, htrace, rfl, rfl, hothers hl, fun w hfact id hid => ?_⟩
      have hmem := hfact _ rest ⟨l, htrace.symm⟩ List.suffix_rfl huser id hid
      cases hmem
  | @shared userId userId' ids h huser huser' =>
      obtain ⟨l, rest, htrace, hl, hrest⟩ := Scene.told_eq_cons htold
      obtain ⟨l', rest', htrace', hl', -⟩ := Scene.told_eq_cons hrest
      dsimp only at htrace htrace'
      subst htrace'
      have hsplit : s.trace = (l ++ ⟨i, .conversationIdsShared i userId' ids, []⟩ :: l') ++
          ⟨i, .conversationIdsOf i userId, ids⟩ :: rest' := by
        rw [htrace, List.append_assoc, List.cons_append]
      refine ⟨_, _, rest', hsplit, rfl, rfl, ?_, fun w hfact id hid => ?_⟩
      · intro e he htid
        rcases List.mem_append.mp he with he | he
        · exact hothers hl e he htid
        · rcases List.mem_cons.mp he with rfl | he
          · rfl
          · exact hothers hl' e he htid
      · have hkey := hfact _ rest' ⟨_, hsplit.symm⟩ List.suffix_rfl huser id hid
        have hmem := hfact _ _ ⟨l, htrace.symm⟩
          ((List.suffix_cons _ rest').trans (List.suffix_append l' _)) huser' id hid hkey
        cases hmem
  | @oldest userId userId' ids ids' h huser huser' =>
      obtain ⟨l, rest, htrace, hl, hrest⟩ := Scene.told_eq_cons htold
      obtain ⟨l', rest', htrace', hl', hrest'⟩ := Scene.told_eq_cons hrest
      dsimp only at htrace htrace'
      subst htrace'
      obtain ⟨l'', rest'', htrace'', hl'', -⟩ := Scene.told_eq_cons hrest'
      dsimp only at htrace''
      subst htrace''
      have hsplit' : s.trace = (l ++ ⟨i, .findOldest i ids', none⟩ :: l') ++
          ⟨i, .conversationIdsShared i userId' ids, ids'⟩ ::
            (l'' ++ ⟨i, .conversationIdsOf i userId, ids⟩ :: rest'') := by
        rw [htrace, List.append_assoc, List.cons_append]
      have hsplit : s.trace = (l ++ ⟨i, .findOldest i ids', none⟩ :: l' ++
          ⟨i, .conversationIdsShared i userId' ids, ids'⟩ :: l'') ++
            ⟨i, .conversationIdsOf i userId, ids⟩ :: rest'' := by
        rw [hsplit']
        simp only [List.append_assoc, List.cons_append]
      have hlater : rest'' <:+ l'' ++ ⟨i, .conversationIdsOf i userId, ids⟩ :: rest'' :=
        (List.suffix_cons _ rest'').trans (List.suffix_append l'' _)
      refine ⟨_, _, rest'', hsplit, rfl, rfl, ?_, fun w hfact id hid => ?_⟩
      · intro e he htid
        simp only [List.mem_append, List.mem_cons] at he
        rcases he with (he | rfl | he) | rfl | he
        · exact hothers hl e he htid
        · rfl
        · exact hothers hl' e he htid
        · rfl
        · exact hothers hl'' e he htid
      · have hkey := hfact _ rest'' ⟨_, hsplit.symm⟩ List.suffix_rfl huser id hid
        have hshared := hfact _ _ ⟨_, hsplit'.symm⟩ hlater huser' id hid hkey
        exact hfact _ _ ⟨l, htrace.symm⟩
          (hlater.trans ((List.suffix_cons _ _).trans (List.suffix_append l' _))) id hid hshared

/-- Whoever creates a conversation is alone with it: the two have none, and
everybody else who has created one has ended. -/
theorem Orderly.alone (ho : Orderly tasks a b w₀ s) {tx : ι} {type : ConversationType}
    {roomId : Option RoomId} {connectionId : Option ConnectionId}
    (horder : (PeerCmd.insertConversation tx type roomId connectionId).InOrder a b (tasks i) i
      (s.told i))
    (hattentive : Attentive tasks a b i (.insertConversation tx type roomId connectionId) s) :
    (∀ id, ¬ Between a b s.committed id) ∧ ∀ j id, j ≠ i → HasCreated j id s.trace →
      Ended j s.trace := by
  obtain ⟨l, e, rest, htrace, htid, hstage, hl, hnone⟩ := newest_lookUp horder.needs.2.1
  have hsuffix : e :: rest <:+ s.trace := ⟨l, htrace.symm⟩
  have hrest : rest <:+ s.trace := (List.suffix_cons e rest).trans hsuffix
  have hended : ∀ j id, j ≠ i → HasCreated j id s.trace → Ended j rest := by
    intro j id hne hcreated
    rcases hattentive j id hne hcreated with
        ⟨key, hi, hj⟩ | ⟨e', rest', hsuffix', htid', hstage', hj⟩
    · -- the lock was taken before the look-up, when the other one had ended
      have hmem : ⟨i, .lock i key, true⟩ ∈ rest := by
        rw [HasLocked, htrace] at hi
        rcases List.mem_append.mp hi with hi | hi
        · cases hl _ hi rfl
        · rcases List.mem_cons.mp hi with rfl | hi
          · cases hstage
          · exact hi
      obtain ⟨l', rest', rfl⟩ := List.append_of_mem hmem
      have hlock : ⟨i, .lock i key, true⟩ :: rest' <:+ s.trace :=
        (List.suffix_append l' _).trans hrest
      rcases ho.exclusive i key rest' hlock j hne hj with hj | hi
      · exact hj.mono ((List.suffix_cons _ rest').trans (List.suffix_append l' _))
      · exact absurd hi (not_ended horder)
    · -- no look-up of the call is newer
      rcases List.suffix_or_suffix_of_suffix hsuffix' hsuffix with hle | hle
      · rcases List.suffix_cons_iff.mp hle with heq | hle
        · rw [← (List.cons_eq_cons.mp heq).2]
          exact hj
        · exact hj.mono ((List.suffix_cons e' rest').trans hle)
      · rcases List.suffix_cons_iff.mp hle with heq | hle
        · rw [(List.cons_eq_cons.mp heq).2]
          exact hj
        · obtain ⟨x, hx⟩ := hsuffix'
          obtain ⟨y, rfl⟩ := hle
          have hl' : l = x ++ e' :: y := by
            have heq : l ++ e :: rest = (x ++ e' :: y) ++ e :: rest := by
              rw [← htrace, ← hx, List.append_assoc, List.cons_append]
            exact List.append_cancel_right heq
          have htwo := hl e' (hl' ▸ List.mem_append_right x List.mem_cons_self) htid'
          rw [hstage'] at htwo
          cases htwo
  refine ⟨?_, fun j id hne hcreated => (hended j id hne hcreated).mono hrest⟩
  refine hnone _ fun e' rest' hsuffix' hle => ho.remembers e' rest' hsuffix' ?_
  intro j id hcreated hj
  by_cases hne : j = i
  · subst hne
    exact absurd hj (not_ended horder)
  · exact (hended j id hne hcreated).mono hle

section Step

variable (horder : c.InOrder a b (tasks i) i (s.told i))

include horder

theorem Orderly.remembers_after (ho : Orderly tasks a b w₀ s)
    (hattentive : Attentive tasks a b i c s) {e : PeerEvent ι} {rest : List (PeerEvent ι)}
    (hsuffix : e :: rest <:+ (s.after (execPeer planner) i c).trace)
    (hended : ∀ j id, HasCreated j id (s.after (execPeer planner) i c).trace →
      Ended j (s.after (execPeer planner) i c).trace → Ended j rest) :
    Fact tasks a b (s.after (execPeer planner) i c).world.sessions.committed e := by
  have hold : Fact tasks a b s.committed e ∧ rest <:+ s.trace := by
    rcases List.suffix_cons_iff.mp hsuffix with heq | hsuffix
    · obtain ⟨rfl, rfl⟩ := List.cons_eq_cons.mp heq
      exact ⟨fact_exec (ho.view horder) hattentive, List.suffix_rfl⟩
    · refine ⟨ho.remembers e rest hsuffix fun j id hcreated hj => ?_,
        (List.suffix_cons e rest).trans hsuffix⟩
      exact hended j id hcreated.cons hj.cons
  refine hold.1.mono fun id hid => ?_
  rcases (ho.committed_after horder).2.1 id hid with hid | ⟨hend, hcreated⟩
  · exact hid
  · have hi := hended i id hcreated.cons (ended_cons.mpr (.inl ⟨rfl, hend⟩))
    exact absurd (hi.mono hold.2) (not_ended horder)

theorem Orderly.pending_after (ho : Orderly tasks a b w₀ s)
    (hattentive : Attentive tasks a b i c s) {j : ι} {id : ConversationId}
    (hcreated : HasCreated j id (s.after (execPeer planner) i c).trace)
    (hopen : ¬ Ended j (s.after (execPeer planner) i c).trace) :
    (∀ id', ¬ Between a b (s.after (execPeer planner) i c).world.sessions.committed id') ∧
      ∀ k id', k ≠ j → HasCreated k id' (s.after (execPeer planner) i c).trace →
        Ended k (s.after (execPeer planner) i c).trace := by
  have hi := not_ended horder
  rcases hasCreated_after hcreated with hold | ⟨rfl, -, ⟨tx, type, roomId, connectionId, rfl⟩, -⟩
  · obtain ⟨hnone, hothers⟩ := ho.pending j id hold fun h => hopen h.cons
    constructor
    · intro id' hid'
      rcases (ho.committed_after horder).2.1 id' hid' with hid' | ⟨hend, hcreated'⟩
      · exact hnone id' hid'
      · by_cases hij : i = j
        · subst hij
          exact hopen (ended_cons.mpr (.inl ⟨rfl, hend⟩))
        · exact hi (hothers i id' hij hcreated')
    · intro k id' hne hk
      rcases hasCreated_after hk with hk | ⟨rfl, -, ⟨tx, type, roomId, connectionId, rfl⟩, -⟩
      · exact (hothers k id' hne hk).cons
      · -- two creations at a time
        exact absurd ((ho.alone horder hattentive).2 j id (Ne.symm hne) hold).cons hopen
  · obtain ⟨hnone, hothers⟩ := ho.alone horder hattentive
    constructor
    · intro id' hid'
      rcases (ho.committed_after horder).2.1 id' hid' with hid' | ⟨hend, -⟩
      · exact hnone id' hid'
      · cases hend
    · intro k id' hne hk
      rcases hasCreated_after hk with hk | ⟨rfl, -, -, -⟩
      · exact (hothers k id' hne hk).cons
      · exact absurd rfl hne

theorem Orderly.one_after (ho : Orderly tasks a b w₀ s) :
    OneConversation a b (s.after (execPeer planner) i c).world.sessions.committed := by
  intro id id' hid hid'
  have hcommitted : ∀ id, Between a b (s.after (execPeer planner) i c).world.sessions.committed id →
      Between a b s.committed id ∨ c.stage = 4 ∧ HasCreated i id s.trace :=
    (ho.committed_after horder).2.1
  rcases hcommitted id hid with hid | ⟨hend, hcreated⟩
  · rcases hcommitted id' hid' with hid' | ⟨hend, hcreated⟩
    · exact ho.one id id' hid hid'
    · exact absurd hid ((ho.pending i id' hcreated (not_ended horder)).1 id)
  · rcases hcommitted id' hid' with hid' | ⟨-, hcreated'⟩
    · exact absurd hid' ((ho.pending i id hcreated (not_ended horder)).1 id')
    · exact ho.created i id id' hcreated hcreated'

/-- **One statement** of an attentive call keeps the invariant. -/
theorem Orderly.after (ho : Orderly tasks a b w₀ s) (hrun : Runnable i c s)
    (hattentive : Attentive tasks a b i c s) :
    Orderly tasks a b w₀ (s.after (execPeer planner) i c) where
  rooms := (ho.committed_after horder).2.2.trans ho.rooms
  listed _ _ _ h := ho.listed_after horder h
  locks _ _ hlocked hended := ho.locks_after horder hrun hlocked hended
  exclusive _ _ _ hrest _ hne hlocked := ho.exclusive_after horder hrun hrest hne hlocked
  safe _ _ hchange := ho.safe_after horder hchange
  quiet _ h := ho.quiet_after horder h
  found _ _ h := ho.found_after horder h
  created _ _ _ h h' := ho.created_after horder h h'
  remembers _ _ hsuffix hended := ho.remembers_after horder hattentive hsuffix hended
  pending _ _ hcreated hopen := ho.pending_after horder hattentive hcreated hopen
  one := ho.one_after horder

end Step

end Orderly

/-! ### Whole runs -/

section Runs

variable [DecidableEq ι]

/-- All calls at their start. -/
def peerCalls (tasks : ι → PeerTask) (w : Backend) :
    Conf ι (PeerCmd ι) PeerCmd.Reply (Option PeerResult) (PeerSessions ι) :=
  ⟨fun i => (tasks i).program i, ⟨⟨⟨w, fun _ => []⟩, fun _ => none⟩, []⟩⟩

variable {planner : PeerPlanner} {tasks : ι → PeerTask} {a b : UserId} {w : Backend}
  {sched : List ι}

omit [DecidableEq ι] in
theorem orderly_start (hone : OneConversation a b w) :
    Orderly tasks a b w (peerCalls tasks w).scene where
  rooms := rfl
  listed _ _ _ h := by cases h
  locks _ _ h := by cases h
  exclusive _ _ _ h := by cases List.suffix_nil.mp h
  safe _ _ h := by cases h
  quiet _ _ := rfl
  found _ _ h := by
    obtain ⟨ids, h⟩ := h
    cases h
  created _ _ _ h := by
    obtain ⟨type, roomId, connectionId, h⟩ := h
    cases h
  remembers _ _ h := by cases List.suffix_nil.mp h
  pending _ _ h := by
    obtain ⟨type, roomId, connectionId, h⟩ := h
    cases h
  one := hone

/-- **One conversation for each pair.** If the calls of a run are attentive, the
two never have more than one. -/
theorem oneConversation_of_attentive (hne : a ≠ b) (hof : ∀ i, (tasks i).IsOf a b w)
    (hone : OneConversation a b w)
    (hm : (peerCalls tasks w).Meets (execPeer planner)
      (fun i c s => Runnable i c s ∧ Attentive tasks a b i c s) sched) :
    OneConversation a b
      ((peerCalls tasks w).runs (execPeer planner) sched).scene.world.sessions.committed := by
  have hlicensed : (peerCalls tasks w).Licensed (execPeer planner)
      (fun i => PeerCmd.Licence a b (tasks i) i) fun _ _ _ => True :=
    fun i => licensed_program hne (hof i)
  refine (hlicensed.runs_inv (I := Orderly tasks a b w) ?_ (orderly_start hone) hm).one
  rintro s i c ho (hstrange | horder) ⟨hrun, hattentive⟩
  · -- the room is that of the two
    obtain ⟨roomId, hostUserId, htask, userIds, hmem, htwo⟩ := hstrange
    have hlisted := ho.listed i roomId userIds (Scene.mem_told.mp hmem)
    have hroom := hof i
    rw [htask] at hroom
    exact absurd (hlisted ▸ hroom.2) htwo
  · exact ho.after horder hrun hattentive

end Runs

namespace Sample

def gil : UserId := ⟨"gil", by decide⟩
def pia : UserId := ⟨"pia", by decide⟩
def bond : ConnectionId := ⟨"bond", by decide⟩
def thread (n : ℕ) : ConversationId := ⟨"thread " ++ toString n, by simp⟩

/-- The two are not connected, and have no conversation. -/
def untied : Backend where
  chat := { uuids := thread, clock := fun n => 60 + n }

def tied : ConnectionTable where
  rows := [⟨bond, gil, pia, .accepted⟩]
  unique := by decide
  directions := by decide
  noSelf := by decide

def firstRow : PeerPlanner := ⟨⟨id, List.Perm.refl⟩, ⟨id, List.Perm.refl⟩⟩

/-- The two have a chat, are connected, and open their chat again. -/
def reopening : Fin 3 → PeerTask
  | 0 => .peer gil pia
  | 1 => .connections tied
  | 2 => .peer gil pia

/-- How many commands each of them issues. -/
def commands : Fin 3 → ℕ
  | 0 => 5
  | 1 => 1
  | 2 => 6

def oneByOne : List (Fin 3) := (List.finRange 3).flatMap fun i => List.replicate (commands i) i

/-- They have two chats now: the first belongs to no connection. -/
theorem not_oneConversation_reopening :
    (peerCalls reopening untied).Meets (execPeer firstRow) Runnable oneByOne ∧
      ¬ OneConversation gil pia ((peerCalls reopening untied).runs (execPeer firstRow)
        oneByOne).scene.world.sessions.committed := by
  constructor
  · have heach : oneByOne = [0, 0, 0, 0, 0, 1, 2, 2, 2, 2, 2, 2] := by decide
    simp only [heach, Conf.meets_cons, Conf.meets_nil]
    exact ⟨trivial, trivial, trivial, trivial, trivial, trivial, trivial, rfl, trivial, trivial,
      trivial, trivial, trivial⟩
  · obtain ⟨w, hw⟩ : ∃ w, w = ((peerCalls reopening untied).runs (execPeer firstRow)
      oneByOne).scene.world.sessions.committed := ⟨_, rfl⟩
    rw [← hw]
    have hrows : w.chat.conversations.rows.map (fun row => (row.id, row.isPeer)) =
        [(thread 1, true), (thread 0, true)] := by rw [hw]; rfl
    have husers : w.chat.participantsOf (thread 0) = [pia, gil] ∧
        w.chat.participantsOf (thread 1) = [pia, gil] := by rw [hw]; decide
    have hbetween (n : ℕ) (h : (thread n, true) ∈
        w.chat.conversations.rows.map (fun row => (row.id, row.isPeer)))
        (hn : w.chat.participantsOf (thread n) = [pia, gil]) : Between gil pia w (thread n) := by
      obtain ⟨row, hrow, heq⟩ := List.mem_map.mp h
      obtain ⟨hid, hpeer⟩ := Prod.mk.inj heq
      exact ⟨⟨row, hrow, hid, hpeer⟩, fun userId => by rw [hn]; simp [or_comm]⟩
    intro hone
    have hsame := hone (thread 0) (thread 1) (hbetween 0 (by simp [hrows]) husers.1)
      (hbetween 1 (by simp [hrows]) husers.2)
    revert hsame
    decide

/-- The two are connected, and have no conversation. -/
def connected : Backend := { untied with connections := tied }

/-- Both open their chat at the same time. -/
def opening (i : Bool) : PeerTask := if i then .peer gil pia else .peer pia gil

/-- Both have found their connection before either locks it; the second waits
for the first to commit. -/
def waiting : List Bool :=
  [true, false, true, true, true, true, true, false, false, false]

/-- The second finds what the first has created. -/
theorem oneConversation_opening :
    OneConversation gil pia ((peerCalls opening connected).runs (execPeer firstRow)
      waiting).scene.world.sessions.committed ∧
      ((peerCalls opening connected).runs (execPeer firstRow) waiting).threads false =
        .done (some (.ok (thread 0))) := by
  refine ⟨oneConversation_of_attentive (by decide) ?_ ?_ ?_, rfl⟩
  · intro i
    cases i with
    | true => exact .inl ⟨rfl, rfl⟩
    | false => exact .inr ⟨rfl, rfl⟩
  · rintro id id' ⟨⟨row, hrow, -⟩, -⟩
    cases hrow
  · have hfirst : ∀ e ∈ ((peerCalls opening connected).runs (execPeer firstRow)
        [true, false, true, true]).scene.trace, e.tid = false → e.cmd.stage < 3 := by decide
    simp only [waiting, Conf.meets_cons, Conf.meets_nil]
    refine ⟨⟨trivial, trivial⟩, ⟨trivial, trivial⟩, ⟨rfl, trivial⟩, ⟨trivial, ?_⟩, ⟨trivial, ?_⟩,
      ⟨trivial, trivial⟩, ⟨trivial, trivial⟩, ⟨rfl, trivial⟩, ⟨trivial, ?_⟩, ⟨trivial, trivial⟩,
      trivial⟩
    · rintro - - id ⟨⟨row, hrow, -⟩, -⟩
      cases hrow
    · rintro j id hne ⟨type, roomId, connectionId, hmem⟩
      obtain rfl : j = false := Bool.eq_false_of_not_eq_true hne
      exact absurd (hfirst _ hmem rfl) (by simp [PeerCmd.stage])
    · exact fun _ hnone => absurd rfl (hnone _ List.mem_cons_self rfl)

end Sample

end Greetup.Chat
