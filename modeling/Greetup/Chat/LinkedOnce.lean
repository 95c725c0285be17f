import Greetup.Chat.Expansion
import Greetup.Chat.OnePerPair
import Greetup.Chat.Within

/-!
Of the conversations at most one is that of a given room, as long as one call
is over before the next one begins.
-/

namespace Greetup.Chat

open Interleaving Prog
open Connections (UserId ConnectionId)
open Rooms (RoomId RoomType)

/-- No conversation is that of the room. -/
def Unlinked (roomId : RoomId) (w : Backend) : Prop :=
  ∀ row ∈ w.chat.conversations.rows, row.roomId ≠ some roomId

def LinkedOnce (roomId : RoomId) (w : Backend) : Prop :=
  ∀ row ∈ w.chat.conversations.rows, ∀ row' ∈ w.chat.conversations.rows,
    row.roomId = some roomId → row'.roomId = some roomId → row = row'

section Rows

variable {roomId : RoomId} {w w' : Backend}

theorem Unlinked.linkedOnce (h : Unlinked roomId w) : LinkedOnce roomId w :=
  fun row hrow _ _ hroom _ => absurd hroom (h row hrow)

theorem Unlinked.congr (h : Unlinked roomId w)
    (heq : w'.chat.conversations = w.chat.conversations) : Unlinked roomId w' := by
  rw [Unlinked, heq]
  exact h

theorem LinkedOnce.congr (h : LinkedOnce roomId w)
    (heq : w'.chat.conversations = w.chat.conversations) : LinkedOnce roomId w' := by
  rw [LinkedOnce, heq]
  exact h

/-- A conversation that is linked, if its row does not change in this, leaves
the room with the conversations it had. -/
theorem LinkedOnce.updateConversation (h : LinkedOnce roomId w) {id : ConversationId}
    {f : ConversationRow → ConversationRow} {hf : ∀ row, (f row).id = row.id}
    (hroom : ∀ row, (f row).roomId = row.roomId) :
    LinkedOnce roomId (w.updateConversation id f hf) := by
  intro row₁ hrow₁ row₂ hrow₂ hroom₁ hroom₂
  obtain ⟨old₁, hold₁, rfl⟩ := mem_updateConversation.mp hrow₁
  obtain ⟨old₂, hold₂, rfl⟩ := mem_updateConversation.mp hrow₂
  have hlinked : ∀ row, (if row.id = id then f row else row).roomId = row.roomId := by
    intro row
    split
    · exact hroom row
    · rfl
  rw [hlinked] at hroom₁ hroom₂
  rw [h old₁ hold₁ old₂ hold₂ hroom₁ hroom₂]

/-- One conversation is linked to a room; if it is the room in question, that
had none. -/
theorem LinkedOnce.link (h : LinkedOnce roomId w) {id : ConversationId} {target : RoomId}
    {f : ConversationRow → ConversationRow} {hf : ∀ row, (f row).id = row.id}
    (hroom : ∀ row, (f row).roomId = some target) (hnew : target = roomId → Unlinked roomId w) :
    LinkedOnce roomId (w.updateConversation id f hf) := by
  intro row₁ hrow₁ row₂ hrow₂ hroom₁ hroom₂
  obtain ⟨old₁, hold₁, rfl⟩ := mem_updateConversation.mp hrow₁
  obtain ⟨old₂, hold₂, rfl⟩ := mem_updateConversation.mp hrow₂
  by_cases htarget : target = roomId
  · -- only the target is linked now
    have hunlinked := hnew htarget
    have hid : ∀ row ∈ w.chat.conversations.rows,
        (if row.id = id then f row else row).roomId = some roomId → row.id = id := by
      intro row hrow hlinked
      by_contra hne
      rw [if_neg hne] at hlinked
      exact hunlinked row hrow hlinked
    have hsame := (hid old₁ hold₁ hroom₁).trans (hid old₂ hold₂ hroom₂).symm
    rw [Sql.Table.eq_of_key hold₁ hold₂ hsame]
  · -- what is linked to the room is not the target
    have hid : ∀ row, (if row.id = id then f row else row).roomId = some roomId →
        row.id ≠ id ∧ row.roomId = some roomId := by
      intro row hlinked
      split at hlinked
      · rw [hroom] at hlinked
        exact absurd (Option.some.inj hlinked) htarget
      · exact ⟨‹_›, hlinked⟩
    obtain ⟨hne₁, hlinked₁⟩ := hid old₁ hroom₁
    obtain ⟨hne₂, hlinked₂⟩ := hid old₂ hroom₂
    rw [if_neg hne₁, if_neg hne₂]
    exact h old₁ hold₁ old₂ hold₂ hlinked₁ hlinked₂

theorem mem_insertConversation {row row' : ConversationRow}
    (h : row' ∈ (w.insertConversation row).chat.conversations.rows) :
    row' = row ∨ row' ∈ w.chat.conversations.rows := by
  rw [Backend.insertConversation] at h
  split at h
  · exact List.mem_cons.mp h
  · exact .inr h

theorem LinkedOnce.insertConversation (h : LinkedOnce roomId w) {row : ConversationRow}
    (hnew : row.roomId = some roomId → Unlinked roomId w) :
    LinkedOnce roomId (w.insertConversation row) := by
  intro row₁ hrow₁ row₂ hrow₂ hroom₁ hroom₂
  rcases mem_insertConversation hrow₁ with rfl | hold₁ <;>
    rcases mem_insertConversation hrow₂ with rfl | hold₂
  · rfl
  · exact absurd hroom₂ (hnew hroom₁ row₂ hold₂)
  · exact absurd hroom₁ (hnew hroom₂ row₁ hold₁)
  · exact h row₁ hold₁ row₂ hold₂ hroom₁ hroom₂

end Rows

/-! ### A transaction alone -/

/-- The transaction has written nothing so far, and may link one conversation
to `target`. -/
structure Ready (roomId : RoomId) (target : Option RoomId) (s : PeerSessions Unit) : Prop where
  writes : s.sessions.writes () = []
  once : LinkedOnce roomId s.sessions.committed
  unlinked : target = some roomId → Unlinked roomId s.sessions.committed

section Alone

variable {planner : PeerPlanner} {roomId : RoomId} {target : Option RoomId}
  {s : PeerSessions Unit}

theorem Ready.view (h : Ready roomId target s) : s.view () = s.sessions.committed :=
  Sql.Sessions.view_of_nil h.writes

theorem Ready.exec (h : Ready roomId target s) {c : PeerCmd Unit} (hc : c.stage < 3) :
    Ready roomId target (execPeer planner c s).2 where
  writes := by rw [exec_writes_of_reading hc, h.writes]
  once := h.once.congr (exec_committed (hc.trans (by decide))).1.1
  unlinked htarget := (h.unlinked htarget).congr (exec_committed (hc.trans (by decide))).1.1

theorem Ready.run (h : Ready roomId target s) {α : Type} {p : PeerM Unit α}
    (hp : p.Uses (·.stage < 3)) : Ready roomId target (p.run (execPeer planner) s).2 :=
  hp.run_keeps (I := Ready roomId target) (fun _ hc _ hs => Ready.exec hs hc) h

/-- The transaction ends with at most one conversation linked to the room. -/
def EndsLinkedOnce (planner : PeerPlanner) (roomId : RoomId) (p : PeerM Unit PeerResult)
    (s : PeerSessions Unit) : Prop :=
  LinkedOnce roomId (p.run (execPeer planner) s).2.sessions.committed

theorem endsLinkedOnce_returning (id : ConversationId) (h : LinkedOnce roomId (s.view ())) :
    EndsLinkedOnce planner roomId (returning () id) s := h

theorem Ready.returning (h : Ready roomId target s) (id : ConversationId) :
    EndsLinkedOnce planner roomId (returning () id) s := by
  refine endsLinkedOnce_returning id ?_
  rw [h.view]
  exact h.once

theorem Ready.create (h : Ready roomId target s) (type : ConversationType)
    (connectionId : Option ConnectionId) (userIds : List UserId) :
    EndsLinkedOnce planner roomId (create () type target connectionId userIds) s := by
  rw [Chat.create, EndsLinkedOnce, run_bind, run_perform, execPeer]
  split
  · -- the id is taken, and the transaction rolled back
    exact h.once
  · show LinkedOnce roomId (PeerSessions.view _ ())
    rw [PeerSessions.view]
    show LinkedOnce roomId (Sql.Sessions.view (Sql.Sessions.write _ _ _) _)
    rw [Sql.Sessions.view_write_self]
    refine LinkedOnce.congr ?_ (insertParticipants_conversations _ _)
    show LinkedOnce roomId (Sql.Sessions.view (Sql.Sessions.write _ _ _) _)
    rw [Sql.Sessions.view_write_self]
    have hview : s.drawUuid.sessions.view () = s.sessions.committed.drawUuid :=
      Sql.Sessions.view_of_nil h.writes
    rw [hview]
    refine LinkedOnce.insertConversation ?_ fun htarget => ?_
    · exact h.once.congr rfl
    · exact (h.unlinked htarget).congr rfl

theorem Ready.write {room : RoomId} (h : Ready roomId (some room) s) {id : ConversationId}
    {f : ConversationRow → ConversationRow} {hf : ∀ row, (f row).id = row.id}
    (hroom : ∀ row, (f row).roomId = some room) :
    LinkedOnce roomId ((s.write () (·.updateConversation id f hf)).view ()) := by
  rw [PeerSessions.view, PeerSessions.write, Sql.Sessions.view_write_self,
    Sql.Sessions.view_of_nil h.writes]
  exact h.once.link hroom fun heq => h.unlinked (congrArg some heq)

theorem Ready.linkTo {room : RoomId} (h : Ready roomId (some room) s) (id : ConversationId) :
    EndsLinkedOnce planner roomId (linkTo () room id) s :=
  h.write fun _ => rfl

theorem uses_findExisting (userA userB : UserId) :
    (findExistingPeerConversationId (ι := Unit) () userA userB).Uses (·.stage < 3) := by
  refine ⟨by simp [PeerCmd.stage], fun ids => ?_⟩
  show (findExistingAmong () userB ids).Uses _
  rw [findExistingAmong]
  split
  · trivial
  · refine ⟨by simp [PeerCmd.stage], fun shared => ?_⟩
    show (findExistingShared () shared).Uses _
    rw [findExistingShared]
    split
    · trivial
    · exact ⟨by simp [PeerCmd.stage], fun _ => trivial⟩

/-- What is only read first does not matter. -/
theorem Ready.bind (h : Ready roomId target s) {α : Type} {p : PeerM Unit α}
    {f : α → PeerM Unit PeerResult} (hp : p.Uses (·.stage < 3))
    (hf : ∀ a s, Ready roomId target s → EndsLinkedOnce planner roomId (f a) s) :
    EndsLinkedOnce planner roomId (p >>= f) s := by
  rw [EndsLinkedOnce, run_bind]
  exact hf _ _ (h.run hp)

theorem Ready.issue (h : Ready roomId target s) {c : PeerCmd Unit}
    {f : c.Reply → PeerM Unit PeerResult} (hc : c.stage < 3)
    (hf : ∀ r s, Ready roomId target s → EndsLinkedOnce planner roomId (f r) s) :
    EndsLinkedOnce planner roomId (issuePeer c >>= f) s :=
  h.bind ⟨hc, fun _ => trivial⟩ hf

/-! ### For the list of chats -/

theorem Ready.findOrCreateFor (h : Ready roomId none s) (userA userB : UserId) :
    ∀ connection, EndsLinkedOnce planner roomId (findOrCreateFor () userA userB connection) s
  | some connectionId => by
      rw [Chat.findOrCreateFor]
      refine h.issue (by simp [PeerCmd.stage]) fun _ s hs => ?_
      refine hs.issue (by simp [PeerCmd.stage]) fun existing s hs => ?_
      cases existing with
      | some id => exact hs.returning id
      | none => exact hs.create _ _ _
  | none => by
      rw [Chat.findOrCreateFor]
      refine h.bind (uses_findExisting userA userB) fun existing s hs => ?_
      cases existing with
      | some id => exact hs.returning id
      | none => exact hs.create _ _ _

theorem Ready.findOrCreatePeerConversation (h : Ready roomId none s) (userA userB : UserId) :
    EndsLinkedOnce planner roomId (findOrCreatePeerConversation () userA userB) s := by
  rw [Chat.findOrCreatePeerConversation]
  split
  · exact h.once
  · exact h.issue (by simp [PeerCmd.stage]) fun connection s hs =>
      hs.findOrCreateFor userA userB connection

/-! ### For a room -/

section Room

variable {room : RoomId}

theorem Ready.createForPair (h : Ready roomId (some room) s) (hostUserId otherUserId : UserId)
    (userIds : List UserId) : ∀ connection, EndsLinkedOnce planner roomId
      (createForPair () room hostUserId otherUserId userIds connection) s
  | some connectionId => by
      rw [Chat.createForPair]
      refine h.issue (by simp [PeerCmd.stage]) fun _ s hs => ?_
      refine hs.issue (by simp [PeerCmd.stage]) fun existing s hs => ?_
      cases existing with
      | some id => exact hs.linkTo id
      | none =>
          refine hs.bind (uses_findExisting hostUserId otherUserId) fun existing s hs => ?_
          cases existing with
          | some id => exact hs.write fun _ => rfl
          | none => exact hs.create _ _ _
  | none => by
      rw [Chat.createForPair]
      refine h.bind (uses_findExisting hostUserId otherUserId) fun existing s hs => ?_
      cases existing with
      | some id => exact hs.linkTo id
      | none => exact hs.create _ _ _

theorem Ready.createDirectRoomConversation (h : Ready roomId (some room) s) (hostUserId : UserId) :
    EndsLinkedOnce planner roomId (createDirectRoomConversation () room hostUserId) s := by
  rw [Chat.createDirectRoomConversation]
  refine h.issue (by simp [PeerCmd.stage]) fun userIds s hs => ?_
  cases userIds.find? (· ≠ hostUserId) with
  | none => exact hs.create _ _ _
  | some otherUserId =>
      exact hs.issue (by simp [PeerCmd.stage]) fun connection s hs =>
        hs.createForPair hostUserId otherUserId userIds connection

theorem Ready.createSpaceRoomConversation (h : Ready roomId (some room) s) :
    EndsLinkedOnce planner roomId (createSpaceRoomConversation () room) s :=
  h.issue (by simp [PeerCmd.stage]) fun _ _ hs => hs.create _ _ _

/-- Whatever order the rows come in, the room is seen to have no conversation
only if it has none. -/
theorem unlinked_of_findByRoom (h : (execPeer planner (.findByRoom () room) s).1 = none) :
    Unlinked room (s.view ()) := by
  have hnil := Arrangement.eq_nil_of_head? (Option.map_eq_none_iff.mp h)
  intro row hrow hroom
  refine List.filter_eq_nil_iff.mp hnil row hrow ?_
  exact decide_eq_true hroom

theorem Ready.getOrCreateRoomConversation (h : Ready roomId none s) (roomType : RoomType)
    (hostUserId : UserId) :
    EndsLinkedOnce planner roomId (getOrCreateRoomConversation () room roomType hostUserId) s := by
  rw [Chat.getOrCreateRoomConversation]
  refine h.issue (by simp [PeerCmd.stage]) fun _ s hs => ?_
  rw [EndsLinkedOnce, run_bind, run_perform]
  have hread : Ready roomId none (execPeer planner (.findByRoom () room) s).2 :=
    hs.exec (by simp [PeerCmd.stage])
  cases hfound : (execPeer planner (.findByRoom () room) s).1 with
  | some id => exact hread.returning id
  | none =>
      -- the room has no conversation, and one is linked to it
      have hready : Ready roomId (some room) (execPeer planner (.findByRoom () room) s).2 :=
        { hread with
          unlinked := fun heq => by
            have hunlinked := unlinked_of_findByRoom hfound
            rw [Option.some.inj heq, hs.view] at hunlinked
            exact hunlinked }
      show EndsLinkedOnce planner roomId (reuseOrCreate () room roomType hostUserId none) _
      rw [reuseOrCreate]
      split
      · exact hready.createDirectRoomConversation hostUserId
      · exact hready.createSpaceRoomConversation

end Room

end Alone

/-! ### Any run -/

theorem handle_conversations (socket : Socket) (event : ClientEvent) (w : World) :
    ((handle socket event).run exec w).2.conversations = w.conversations :=
  (within_handle socket event).run_keeps (I := fun w' => w'.conversations = w.conversations)
    (fun c _ w' hw' => (exec_conversations c w').trans hw') rfl

section Step

variable {planner : PeerPlanner} {roomId room : RoomId} {w w' : Backend}
  {inviteeUserId inviterUserId userId : UserId} {conversationId : ConversationId}

theorem insertMessage_conversations (w : World) (senderId : UserId) (messageType : MessageType)
    (content : Option String) :
    (w.insertMessage conversationId senderId messageType content).2.conversations =
      w.conversations :=
  exec_conversations (.insertMessage conversationId senderId messageType content) w

theorem expandConversation_conversations
    (h : expandConversation w inviteeUserId inviterUserId conversationId = .ok w') :
    w'.chat.conversations = (w.updateConversation conversationId
      ({ · with type := .roomSpace, connectionId := none }) fun _ => rfl).chat.conversations := by
  rw [expandConversation] at h
  split at h
  · cases h
  · rename_i message chat hinsert
    rw [← Except.ok.inj h]
    have hchat := congrArg Prod.snd hinsert
    dsimp only at hchat
    show chat.conversations = _
    rw [← hchat, insertMessage_conversations]
    rfl

theorem LinkedOnce.createExpanded (h : LinkedOnce roomId w)
    (hnew : room = roomId → Unlinked roomId w)
    (hrun : createExpanded w room inviterUserId = .ok w') : LinkedOnce roomId w' := by
  rw [Chat.createExpanded] at hrun
  dsimp only at hrun
  split at hrun
  · cases hrun
  · split at hrun
    · cases hrun
    · rename_i message chat hinsert
      rw [← Except.ok.inj hrun]
      have hdrawn : LinkedOnce roomId w.drawUuid := h.congr rfl
      have hcreated : LinkedOnce roomId (w.drawUuid.insertConversation
          ⟨w.chat.uuids w.chat.uuidsDrawn, .roomSpace, some room, none,
            w.chat.clock w.chat.uuidsDrawn⟩) := by
        refine hdrawn.insertConversation fun heq => ?_
        exact (hnew (Option.some.inj heq)).congr rfl
      refine hcreated.congr ?_
      have hchat := congrArg Prod.snd hinsert
      dsimp only at hchat
      show chat.conversations = _
      rw [← hchat, insertMessage_conversations, insertParticipants_conversations]

theorem conversationOfRoom_eq_some {row : ConversationRow}
    (h : w.conversationOfRoom planner roomId = some row) :
    row ∈ w.chat.conversations.rows ∧ row.roomId = some roomId := by
  have hmem := Arrangement.mem_of_head? h
  rw [List.mem_filter] at hmem
  exact ⟨hmem.1, of_decide_eq_true hmem.2⟩

theorem unlinked_of_conversationOfRoom (h : w.conversationOfRoom planner roomId = none) :
    Unlinked roomId w := by
  have hnil := Arrangement.eq_nil_of_head? h
  intro row hrow hroom
  refine List.filter_eq_nil_iff.mp hnil row hrow ?_
  exact decide_eq_true hroom

theorem LinkedOnce.expand (h : LinkedOnce roomId w)
    (hrun : runExpandDirectAcceptTransaction planner w room inviteeUserId inviterUserId = .ok w') :
    LinkedOnce roomId w' := by
  rw [runExpandDirectAcceptTransaction] at hrun
  split at hrun
  · dsimp only at hrun
    have hroom : LinkedOnce roomId
        ((w.setRoomType room .space).upsertRoomParticipant room inviteeUserId) := h.congr rfl
    split at hrun
    · rename_i conversation _
      have hfound : LinkedOnce roomId (((w.setRoomType room .space).upsertRoomParticipant room
          inviteeUserId).updateConversation conversation.id
            ({ · with type := .roomSpace, connectionId := none }) fun _ => rfl) :=
        hroom.updateConversation fun _ => rfl
      exact hfound.congr (expandConversation_conversations hrun)
    · rename_i hnone
      refine hroom.createExpanded (fun heq => ?_) hrun
      exact heq ▸ unlinked_of_conversationOfRoom hnone
  · cases hrun

theorem ensureRoomConversationParticipant_conversations :
    (ensureRoomConversationParticipant planner w roomId userId).chat.conversations =
      w.chat.conversations := by
  rw [ensureRoomConversationParticipant]
  split
  · rfl
  · split <;> rfl

theorem ready_start {target : Option RoomId} (h : LinkedOnce roomId w)
    (hunlinked : target = some roomId → Unlinked roomId w) :
    Ready roomId target { sessions := { committed := w } } :=
  ⟨rfl, h, hunlinked⟩

/-- **Call by call, a room never has two conversations.** -/
theorem LinkedOnce.step (h : LinkedOnce roomId w) (event : RoomEvent) :
    LinkedOnce roomId (event.step planner w) := by
  have hready : Ready roomId none { sessions := { committed := w } } := ready_start h (by simp)
  cases event with
  | chat socket event => exact h.congr (handle_conversations socket event w.chat)
  | openRoom room roomType hostUserId =>
      exact hready.getOrCreateRoomConversation roomType hostUserId
  | openChat userA userB => exact hready.findOrCreatePeerConversation userA userB
  | join room userId => exact h.congr ensureRoomConversationParticipant_conversations
  | expand room inviteeUserId inviterUserId =>
      rw [RoomEvent.step]
      split
      · rename_i w' hrun
        exact h.expand hrun
      · exact h
  | others => exact h.congr rfl

theorem LinkedOnce.after (h : LinkedOnce roomId w) (events : List RoomEvent) :
    LinkedOnce roomId (w.after planner events) :=
  Backend.after_keeps (P := fun _ => True) (fun _ event _ hw => hw.step event) h fun _ _ => trivial

end Step

end Greetup.Chat
