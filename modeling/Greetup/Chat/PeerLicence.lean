import Greetup.Chat.PeerRows

/-!
Calls about one pair of users, and what each of their transactions has been told
before it writes.
-/

namespace Greetup.Chat

open Interleaving Prog
open Connections (UserId ConnectionId ConnectionTable)
open Rooms (RoomId)

variable {ι : Type}

/-! ### Calls -/

inductive PeerTask
  | peer (userA userB : UserId)
  | room (roomId : RoomId) (hostUserId : UserId)
  | connections (rows : ConnectionTable)

/-- The connections of the users are changed by others, all at once. -/
def changeConnections (connections : ConnectionTable) : PeerM ι (Option PeerResult) := do
  issuePeer (.setConnections connections)
  return none

def PeerTask.program (tx : ι) : PeerTask → PeerM ι (Option PeerResult)
  | .peer userA userB => some <$> findOrCreatePeerConversation tx userA userB
  | .room roomId hostUserId => some <$> getOrCreateRoomConversation tx roomId .direct hostUserId
  | .connections rows => changeConnections rows

def PeerTask.isPeer : PeerTask → Bool
  | .peer _ _ => true
  | _ => false

/-- The users of a room are these two. -/
def AreTwo (a b : UserId) (userIds : List UserId) : Prop :=
  ∀ userId, userId ∈ userIds ↔ userId = a ∨ userId = b

/-- The call is about these two: for their chat, or for a direct room of theirs. -/
def PeerTask.IsOf (a b : UserId) (w : Backend) : PeerTask → Prop
  | .peer userA userB => userA = a ∧ userB = b ∨ userA = b ∧ userB = a
  | .room roomId hostUserId =>
      (hostUserId = a ∨ hostUserId = b) ∧ AreTwo a b (w.participantsOfRoom roomId)
  | .connections _ => True

/-! ### What a transaction has been told -/

/-- The transaction that a statement is of. -/
def PeerCmd.tx : PeerCmd ι → Option ι
  | .lock tx _ | .findAcceptedConnection tx _ _ | .listRoomParticipants tx _ | .findByRoom tx _
  | .findByConnection tx _ | .conversationIdsOf tx _ | .conversationIdsShared tx _ _
  | .findOldest tx _ | .linkRoom tx _ _ | .promote tx _ _ _ | .insertConversation tx _ _ _
  | .insertParticipants tx _ _ | .commit tx | .rollback tx => some tx
  | .setConnections _ => none

/-- A transaction prepares, then looks up conversations, narrows down what it
has found, writes, and ends. -/
def PeerCmd.stage : PeerCmd ι → ℕ
  | .lock _ _ | .findAcceptedConnection _ _ _ | .listRoomParticipants _ _ | .findByRoom _ _
  | .setConnections _ => 0
  | .findByConnection _ _ | .conversationIdsOf _ _ => 1
  | .conversationIdsShared _ _ _ | .findOldest _ _ => 2
  | .linkRoom _ _ _ | .promote _ _ _ _ | .insertConversation _ _ _ _
  | .insertParticipants _ _ _ => 3
  | .commit _ | .rollback _ => 4

abbrev PeerTold (ι : Type) := Told (PeerCmd ι) PeerCmd.Reply

section Licence

variable (a b : UserId) (task : PeerTask) (i : ι)

/-- The look-up of the call has found nothing; the newest reply comes first. -/
inductive FoundNone : List (PeerTold ι) → Prop
  | byConnection {connectionId h} (hpeer : task.isPeer = true) :
      FoundNone (⟨.findByConnection i connectionId, none⟩ :: h)
  | ofUser {userId h} (huser : userId = a ∨ userId = b) :
      FoundNone (⟨.conversationIdsOf i userId, []⟩ :: h)
  | shared {userId userId' ids h} (huser : userId = a ∨ userId = b)
      (huser' : userId' = a ∨ userId' = b) :
      FoundNone (⟨.conversationIdsShared i userId' ids, []⟩ ::
        ⟨.conversationIdsOf i userId, ids⟩ :: h)
  | oldest {userId userId' ids ids' h} (huser : userId = a ∨ userId = b)
      (huser' : userId' = a ∨ userId' = b) :
      FoundNone (⟨.findOldest i ids', none⟩ :: ⟨.conversationIdsShared i userId' ids, ids'⟩ ::
        ⟨.conversationIdsOf i userId, ids⟩ :: h)

/-- What a call must have been told for a statement. -/
def PeerCmd.Needs (h : List (PeerTold ι)) : PeerCmd ι → Prop
  | .promote _ id _ _ => ∃ ids, ⟨.findOldest i ids, some id⟩ ∈ h
  | .insertConversation _ type _ _ =>
      type ≠ .roomSpace ∧ FoundNone a b task i h ∧ ∀ e ∈ h, e.1.stage < 3
  | .insertParticipants _ id _ =>
      ∃ type roomId connectionId, ⟨.insertConversation i type roomId connectionId, some id⟩ ∈ h
  | _ => True

/-- The call has been told of other users in the room. -/
def Strange (h : List (PeerTold ι)) : Prop :=
  ∃ roomId hostUserId, task = .room roomId hostUserId ∧ ∃ userIds,
    ⟨.listRoomParticipants i roomId, userIds⟩ ∈ h ∧ ¬ AreTwo a b userIds

structure PeerCmd.InOrder (h : List (PeerTold ι)) (c : PeerCmd ι) : Prop where
  tx : ∀ tx, c.tx = some tx → tx = i
  stage : ∀ e ∈ h, e.1.stage ≤ c.stage ∧ e.1.stage < 4
  needs : c.Needs a b task i h

def PeerCmd.Licence (h : List (PeerTold ι)) (c : PeerCmd ι) : Prop :=
  Strange a b task i h ∨ c.InOrder a b task i h

end Licence

/-- No statement so far was of a later stage. -/
def Reading (n : ℕ) (h : List (PeerTold ι)) : Prop := ∀ e ∈ h, e.1.stage ≤ n

theorem Reading.cons {n : ℕ} {e : PeerTold ι} {h : List (PeerTold ι)} (hh : Reading n h)
    (he : e.1.stage ≤ n) : Reading n (e :: h) := List.forall_mem_cons.mpr ⟨he, hh⟩

theorem Reading.mono {m n : ℕ} {h : List (PeerTold ι)} (hh : Reading m h) (hle : m ≤ n) :
    Reading n h := fun e he => (hh e he).trans hle

theorem licence_of_reading {a b : UserId} {task : PeerTask} {i : ι} {h : List (PeerTold ι)} {n : ℕ}
    {c : PeerCmd ι} (hread : Reading n h) (hlt : n < 4) (htx : c.tx = some i)
    (hstage : n ≤ c.stage) (hneeds : c.Needs a b task i h) : c.Licence a b task i h :=
  .inr
    { tx := fun _ heq => Option.some.inj (heq.symm.trans htx)
      stage := fun e he => ⟨(hread e he).trans hstage, (hread e he).trans_lt hlt⟩
      needs := hneeds }

section Programs

variable [DecidableEq ι] {planner : PeerPlanner} {a b : UserId} {task : PeerTask} {i : ι}
  {h : List (PeerTold ι)}

theorem licensed_returning (hread : Reading 3 h) (id : ConversationId) :
    (returning i id).Licensed (execPeer planner) (PeerCmd.Licence a b task i)
      (fun _ _ => True) h :=
  ⟨licence_of_reading hread (by decide) rfl (by simp [PeerCmd.stage]) trivial, fun _ => trivial⟩

theorem licensed_create (hread : Reading 2 h) (hfound : FoundNone a b task i h)
    {type : ConversationType} (htype : type ≠ .roomSpace) (roomId : Option RoomId)
    (connectionId : Option ConnectionId) (userIds : List UserId) :
    (create i type roomId connectionId userIds).Licensed (execPeer planner)
      (PeerCmd.Licence a b task i) (fun _ _ => True) h := by
  refine ⟨licence_of_reading hread (by decide) rfl (by simp [PeerCmd.stage])
    ⟨htype, hfound, fun e he => Nat.lt_succ_of_le (hread e he)⟩, fun s => ?_⟩
  obtain ⟨id, hid⟩ : ∃ id, id =
      (execPeer planner (.insertConversation i type roomId connectionId) s).1 := ⟨_, rfl⟩
  rw [← hid]
  have hinserted : Reading 3 (⟨.insertConversation i type roomId connectionId, id⟩ :: h) :=
    (hread.mono (by decide)).cons le_rfl
  show (populate i userIds id).Licensed _ _ _ _
  cases id with
  | none =>
      exact ⟨licence_of_reading hinserted (by decide) rfl (by simp [PeerCmd.stage]) trivial,
        fun _ => trivial⟩
  | some id =>
      exact ⟨licence_of_reading hinserted (by decide) rfl le_rfl
        ⟨type, roomId, connectionId, List.mem_cons_self⟩,
        fun _ => licensed_returning (hinserted.cons le_rfl) id⟩

/-- What the look-up of a pair has been told. -/
structure LookedUp (a b : UserId) (task : PeerTask) (i : ι) (h : List (PeerTold ι))
    (found : Option ConversationId) : Prop where
  reading : Reading 2 h
  none : found = none → FoundNone a b task i h
  some : ∀ id, found = some id → ∃ ids, ⟨.findOldest i ids, some id⟩ ∈ h

theorem licensed_findExisting {userA userB : UserId} (hread : Reading 1 h)
    (hA : userA = a ∨ userA = b) (hB : userB = a ∨ userB = b) :
    (findExistingPeerConversationId i userA userB).Licensed (execPeer planner)
      (PeerCmd.Licence a b task i) (LookedUp a b task i) h := by
  refine ⟨licence_of_reading hread (by decide) rfl le_rfl trivial, fun s => ?_⟩
  obtain ⟨ids, hids⟩ : ∃ ids, ids = (execPeer planner (.conversationIdsOf i userA) s).1 := ⟨_, rfl⟩
  rw [← hids]
  have hread1 : Reading 2 (⟨.conversationIdsOf i userA, ids⟩ :: h) :=
    (hread.mono (by decide)).cons (by simp [PeerCmd.stage])
  show (findExistingAmong i userB ids).Licensed _ _ _ _
  rw [findExistingAmong]
  split
  · rename_i hnil
    subst hnil
    exact ⟨hread1, fun _ => .ofUser hA, fun _ h => by cases h⟩
  · refine ⟨licence_of_reading hread1 (by decide) rfl le_rfl trivial, fun s => ?_⟩
    obtain ⟨shared, hshared⟩ : ∃ shared, shared =
      (execPeer planner (.conversationIdsShared i userB ids) s).1 := ⟨_, rfl⟩
    rw [← hshared]
    have hread2 : Reading 2 (⟨.conversationIdsShared i userB ids, shared⟩ ::
      ⟨.conversationIdsOf i userA, ids⟩ :: h) := hread1.cons le_rfl
    show (findExistingShared i shared).Licensed _ _ _ _
    rw [findExistingShared]
    split
    · rename_i hnil
      subst hnil
      exact ⟨hread2, fun _ => .shared hA hB, fun _ h => by cases h⟩
    · refine ⟨licence_of_reading hread2 (by decide) rfl le_rfl trivial, fun s => ?_⟩
      obtain ⟨found, hfound⟩ : ∃ found, found = (execPeer planner (.findOldest i shared) s).1 :=
        ⟨_, rfl⟩
      rw [← hfound]
      refine ⟨hread2.cons le_rfl, ?_, ?_⟩
      · rintro rfl
        exact .oldest hA hB
      · rintro id rfl
        exact ⟨shared, List.mem_cons_self⟩

/-- Whatever was found is linked to the room, or promoted. -/
theorem licensed_write (c : PeerCmd ι) (hread : Reading 2 h) (htx : c.tx = some i)
    (hstage : c.stage = 3) (hneeds : c.Needs a b task i h) (id : ConversationId) :
    (issuePeer c >>= fun _ => returning i id).Licensed (execPeer planner)
      (PeerCmd.Licence a b task i) (fun _ _ => True) h :=
  ⟨licence_of_reading hread (by decide) htx (by omega) hneeds,
    fun _ => licensed_returning ((hread.mono (by decide)).cons hstage.le) id⟩

theorem licensed_findOrCreateFor {userA userB : UserId} (hpeer : task.isPeer = true)
    (hread : Reading 0 h) (hA : userA = a ∨ userA = b) (hB : userB = a ∨ userB = b) :
    ∀ connection, (findOrCreateFor i userA userB connection).Licensed (execPeer planner)
      (PeerCmd.Licence a b task i) (fun _ _ => True) h
  | none => by
      refine (licensed_findExisting (hread.mono (by decide)) hA hB).bind fun h' found hfound => ?_
      cases found with
      | none => exact licensed_create hfound.reading (hfound.none rfl) (by decide) _ _ _
      | some id => exact licensed_returning (hfound.reading.mono (by decide)) id
  | some connectionId => by
      refine ⟨licence_of_reading hread (by decide) rfl le_rfl trivial, fun s => ?_⟩
      have hread1 : Reading 0 (⟨.lock i (.connection connectionId),
        (execPeer planner (.lock i (.connection connectionId)) s).1⟩ :: h) := hread.cons le_rfl
      refine ⟨licence_of_reading hread1 (by decide) rfl (by simp [PeerCmd.stage]) trivial,
        fun s => ?_⟩
      obtain ⟨existing, hexisting⟩ : ∃ existing, existing =
        (execPeer planner (.findByConnection i connectionId) s).1 := ⟨_, rfl⟩
      rw [← hexisting]
      have hread2 : Reading 1 (⟨.findByConnection i connectionId, existing⟩ :: _) :=
        (hread1.mono (by decide)).cons le_rfl
      show (reuseConnection i userA userB connectionId existing).Licensed _ _ _ _
      cases existing with
      | none =>
          exact licensed_create (hread2.mono (by decide)) (.byConnection hpeer) (by decide) _ _ _
      | some id => exact licensed_returning (hread2.mono (by decide)) id

theorem licensed_createForPair {roomId : RoomId} {hostUserId otherUserId : UserId}
    (hread : Reading 0 h) (hhost : hostUserId = a ∨ hostUserId = b)
    (hother : otherUserId = a ∨ otherUserId = b) (userIds : List UserId) :
    ∀ connection, (createForPair i roomId hostUserId otherUserId userIds connection).Licensed
      (execPeer planner) (PeerCmd.Licence a b task i) (fun _ _ => True) h
  | none => by
      refine (licensed_findExisting (hread.mono (by decide)) hhost hother).bind
        fun h' found hfound => ?_
      cases found with
      | none => exact licensed_create hfound.reading (hfound.none rfl) (by decide) _ _ _
      | some id => exact licensed_write (.linkRoom i id roomId) hfound.reading rfl rfl trivial id
  | some connectionId => by
      refine ⟨licence_of_reading hread (by decide) rfl le_rfl trivial, fun s => ?_⟩
      have hread1 : Reading 0 (⟨.lock i (.connection connectionId),
        (execPeer planner (.lock i (.connection connectionId)) s).1⟩ :: h) := hread.cons le_rfl
      refine ⟨licence_of_reading hread1 (by decide) rfl (by simp [PeerCmd.stage]) trivial,
        fun s => ?_⟩
      obtain ⟨existing, hexisting⟩ : ∃ existing, existing =
        (execPeer planner (.findByConnection i connectionId) s).1 := ⟨_, rfl⟩
      rw [← hexisting]
      have hread2 : Reading 1 (⟨.findByConnection i connectionId, existing⟩ :: _) :=
        (hread1.mono (by decide)).cons le_rfl
      show (linkOrPromote i roomId connectionId hostUserId otherUserId userIds existing).Licensed
        _ _ _ _
      cases existing with
      | some id =>
          exact licensed_write (.linkRoom i id roomId) (hread2.mono (by decide)) rfl rfl trivial id
      | none =>
          refine (licensed_findExisting hread2 hhost hother).bind fun h' found hfound => ?_
          cases found with
          | none => exact licensed_create hfound.reading (hfound.none rfl) (by decide) _ _ _
          | some id =>
              exact licensed_write (.promote i id connectionId roomId) hfound.reading rfl rfl
                (hfound.some id rfl) id

/-- Where the room is not that of the two, nothing more is said. -/
theorem licensed_of_strange {α : Type} {p : PeerM ι α} (hstrange : Strange a b task i h) :
    p.Licensed (execPeer planner) (PeerCmd.Licence a b task i) (fun _ _ => True) h := by
  obtain ⟨roomId, hostUserId, htask, userIds, hmem, htwo⟩ := hstrange
  refine (Uses.licensed_of_subset (uses_true p) (fun h' hsub c _ => ?_)
    (List.Subset.refl h)).mono fun _ _ _ => trivial
  exact .inl ⟨roomId, hostUserId, htask, userIds, hsub hmem, htwo⟩

/-- Besides its host there is one other user in the room. -/
theorem other_of_areTwo {userIds : List UserId} (hostUserId : UserId) (hne : a ≠ b)
    (htwo : AreTwo a b userIds) :
    ∃ otherUserId, userIds.find? (· ≠ hostUserId) = some otherUserId ∧
      (otherUserId = a ∨ otherUserId = b) := by
  cases hfind : userIds.find? (· ≠ hostUserId) with
  | none =>
      have hall := List.find?_eq_none.mp hfind
      have ha := hall a ((htwo a).mpr (.inl rfl))
      have hb := hall b ((htwo b).mpr (.inr rfl))
      rw [decide_eq_true_eq, not_not] at ha hb
      exact absurd (ha.trans hb.symm) hne
  | some otherUserId =>
      exact ⟨otherUserId, rfl, (htwo otherUserId).mp (List.mem_of_find?_eq_some hfind)⟩

theorem licensed_getOrCreateRoomConversation {roomId : RoomId} {hostUserId : UserId} (hne : a ≠ b)
    (htask : task = .room roomId hostUserId) (hhost : hostUserId = a ∨ hostUserId = b) :
    (getOrCreateRoomConversation i roomId .direct hostUserId).Licensed (execPeer planner)
      (PeerCmd.Licence a b task i) (fun _ _ => True) [] := by
  have hnil : Reading (ι := ι) 0 [] := fun _ he => by cases he
  refine ⟨licence_of_reading hnil (by decide) rfl le_rfl trivial, fun s => ?_⟩
  have hread1 : Reading 0 [⟨.lock i (.room roomId),
    (execPeer planner (.lock i (.room roomId)) s).1⟩] := hnil.cons le_rfl
  refine ⟨licence_of_reading hread1 (by decide) rfl le_rfl trivial, fun s => ?_⟩
  obtain ⟨existing, hexisting⟩ : ∃ existing, existing =
    (execPeer planner (.findByRoom i roomId) s).1 := ⟨_, rfl⟩
  rw [← hexisting]
  have hread2 : Reading 0 (⟨.findByRoom i roomId, existing⟩ :: _) := hread1.cons le_rfl
  show (reuseOrCreate i roomId .direct hostUserId existing).Licensed _ _ _ _
  cases existing with
  | some id => exact licensed_returning (hread2.mono (by decide)) id
  | none =>
      refine ⟨licence_of_reading hread2 (by decide) rfl le_rfl trivial, fun s => ?_⟩
      obtain ⟨userIds, huserIds⟩ : ∃ userIds, userIds =
        (execPeer planner (.listRoomParticipants i roomId) s).1 := ⟨_, rfl⟩
      rw [← huserIds]
      have hread3 : Reading 0 (⟨.listRoomParticipants i roomId, userIds⟩ :: _) :=
        hread2.cons le_rfl
      by_cases htwo : AreTwo a b userIds
      · obtain ⟨otherUserId, hfind, hother⟩ := other_of_areTwo hostUserId hne htwo
        show (createForOthers i roomId hostUserId userIds _).Licensed _ _ _ _
        rw [hfind]
        refine ⟨licence_of_reading hread3 (by decide) rfl le_rfl trivial, fun s => ?_⟩
        exact licensed_createForPair (hread3.cons le_rfl) hhost hother userIds _
      · exact licensed_of_strange
          ⟨roomId, hostUserId, htask, userIds, List.mem_cons_self, htwo⟩

/-- **Licence.** Every call of the pair has been told what it must have been
told, statement by statement. -/
theorem licensed_program {w : Backend} (hne : a ≠ b) (hof : task.IsOf a b w) :
    (task.program i).Licensed (execPeer planner) (PeerCmd.Licence a b task i)
      (fun _ _ => True) [] := by
  have hnil : Reading (ι := ι) 0 [] := fun _ he => by cases he
  cases task with
  | peer userA userB =>
      have hpair : userA ≠ userB ∧ (userA = a ∨ userA = b) ∧ (userB = a ∨ userB = b) := by
        rcases hof with ⟨rfl, rfl⟩ | ⟨rfl, rfl⟩
        · exact ⟨hne, .inl rfl, .inr rfl⟩
        · exact ⟨hne.symm, .inr rfl, .inl rfl⟩
      refine Licensed.map ?_
      rw [findOrCreatePeerConversation, if_neg hpair.1]
      refine ⟨licence_of_reading hnil (by decide) rfl le_rfl trivial, fun s => ?_⟩
      exact licensed_findOrCreateFor rfl (hnil.cons le_rfl) hpair.2.1 hpair.2.2 _
  | room roomId hostUserId =>
      exact Licensed.map (licensed_getOrCreateRoomConversation hne rfl hof.1)
  | connections rows =>
      have horder : (PeerCmd.setConnections (ι := ι) rows).InOrder a b (.connections rows) i [] :=
        ⟨fun _ h => (by cases h), fun _ he => (by cases he), trivial⟩
      exact ⟨.inr horder, fun _ => trivial⟩

end Programs

end Greetup.Chat
