import Greetup.Chat.LinkedOnce
import Greetup.Chat.Scroll

/-!
What becomes of the conversation of two users when a room of theirs is expanded:
whether it stays theirs, and what those who come later are shown of it.
-/

namespace Greetup.Chat

open Interleaving Prog
open Connections (UserId)
open Rooms (RoomId)

/-! ### What stays private -/

/-- The conversation is that of the room. -/
def IsLinked (roomId : RoomId) (w : Backend) (id : ConversationId) : Prop :=
  ∃ row ∈ w.chat.conversations.rows, row.id = id ∧ row.roomId = some roomId

/-- Whatever cursor the user sends, none of these messages is on the page. -/
def NeverShows (order : MessageOrder) (w : World) (id : ConversationId) (userId : UserId)
    (earlier : List MessageRow) : Prop :=
  ∀ cursor limit page, w.getMessages order id userId cursor limit = .ok page →
    ∀ message ∈ page.messages, message.row.id ∉ earlier.map MessageRow.id

/-- In `w'` the conversation is of the type and of the connection of which it
was in `w`, and it is one of these two alone. -/
def StillTheirs (a b : UserId) (id : ConversationId) (w w' : Backend) : Prop :=
  (∃ row ∈ w.chat.conversations.rows, ∃ row' ∈ w'.chat.conversations.rows,
    row.id = id ∧ row'.id = id ∧ row'.type = row.type ∧ row'.connectionId = row.connectionId) ∧
    AreTwo a b (w'.chat.participantsOf id)

/-- What happens once the room is a space: messages, and users who join it. -/
def RoomEvent.InSpace (roomId : RoomId) : RoomEvent → Prop
  | .chat _ _ | .others _ _ _ => True
  | .join room _ => room = roomId
  | _ => False

/-- The conversation of `a` and `b`, as it is in `w`, stays their own when the
room is expanded: then it is as in `w'`. -/
structure KeepsPrivate (planner : PeerPlanner) (order : MessageOrder) (a b : UserId)
    (roomId : RoomId) (inviteeUserId : UserId) (id : ConversationId) (w w' : Backend) : Prop where
  fromInvitee : ∀ later, (∀ event ∈ later, event.InSpace roomId) →
    NeverShows order (w'.after planner later).chat id inviteeUserId (w.chat.messagesIn id)
  fromJoining : ∀ before later userId, (∀ event ∈ before, event.InSpace roomId) →
    (∀ event ∈ later, event.InSpace roomId) →
    userId ∉ (w'.after planner before).chat.participantsOf id →
    NeverShows order
      ((w'.after planner before).after planner (.join roomId userId :: later)).chat id
      userId ((w'.after planner before).chat.messagesIn id)
  theirs : ∀ later, (∀ event ∈ later, event.InSpace roomId) →
    StillTheirs a b id w (w'.after planner later)

/-! ### Those who take part -/

section Participants

variable {w w' : Backend} {id target : ConversationId} {userId : UserId}

/-- No event of a client lets anybody take part. -/
theorem handle_participantsOf (socket : Socket) (event : ClientEvent) (w : World) :
    ((handle socket event).run exec w).2.participantsOf id = w.participantsOf id :=
  (within_handle socket event).run_keeps (I := fun w' => w'.participantsOf id = w.participantsOf id)
    (fun c _ w' hw' => (exec_participantsOf c w').trans hw') rfl

theorem insertParticipant_areTwo {a b : UserId} (hne : id ≠ target) :
    AreTwo a b ((w.insertParticipant { conversationId := target, userId }).chat.participantsOf id) ↔
      AreTwo a b (w.chat.participantsOf id) := by
  refine forall_congr' fun user => iff_congr ?_ Iff.rfl
  exact mem_participantsOf_insertParticipants hne [userId] user

theorem getMessages_of_absent (order : MessageOrder) {w : World} (h : userId ∉ w.participantsOf id)
    (earlier : List MessageRow) : NeverShows order w id userId earlier := by
  intro cursor limit page hpage
  have hnot : w.isParticipant id userId = false := by
    rw [World.isParticipant, Option.any_eq_false]
    intro row hrow
    obtain ⟨hmem, hkey⟩ := Sql.Table.mem_of_find hrow
    obtain ⟨hid, huser⟩ := Prod.mk.inj hkey
    refine absurd (List.mem_map.mpr ⟨row, ?_, huser⟩) h
    exact List.mem_filter.mpr ⟨hmem, decide_eq_true hid⟩
  rw [World.getMessages, hnot, if_neg Bool.false_ne_true] at hpage
  cases hpage

end Participants

/-! ### A conversation of another room, or of none -/

/-- The conversation has this row, and is not that of the room; only these two
take part in it. -/
structure Apart (a b : UserId) (roomId : RoomId) (row : ConversationRow) (w : Backend) : Prop where
  mem : row ∈ w.chat.conversations.rows
  elsewhere : row.roomId ≠ some roomId
  areTwo : AreTwo a b (w.chat.participantsOf row.id)

section Apart

variable {planner : PeerPlanner} {order : MessageOrder} {a b inviteeUserId inviterUserId : UserId}
  {roomId : RoomId} {row : ConversationRow} {w w' : Backend}

theorem Apart.congr (h : Apart a b roomId row w)
    (hconversations : w'.chat.conversations = w.chat.conversations)
    (hparticipants : w'.chat.participantsOf row.id = w.chat.participantsOf row.id) :
    Apart a b roomId row w' where
  mem := hconversations ▸ h.mem
  elsewhere := h.elsewhere
  areTwo := hparticipants ▸ h.areTwo

/-- What the room has is another conversation. -/
theorem Apart.ne (h : Apart a b roomId row w) {conversation : ConversationRow}
    (hfound : w.conversationOfRoom planner roomId = some conversation) :
    row.id ≠ conversation.id := by
  obtain ⟨hmem, hroom⟩ := conversationOfRoom_eq_some hfound
  intro heq
  rw [Sql.Table.eq_of_key h.mem hmem heq] at h
  exact h.elsewhere hroom

theorem Apart.insertParticipant (h : Apart a b roomId row w) {target : ConversationId}
    (hne : row.id ≠ target) (userId : UserId) :
    Apart a b roomId row (w.insertParticipant { conversationId := target, userId }) where
  mem := h.mem
  elsewhere := h.elsewhere
  areTwo := (insertParticipant_areTwo hne).mpr h.areTwo

theorem Apart.join (h : Apart a b roomId row w) (userId : UserId) :
    Apart a b roomId row (ensureRoomConversationParticipant planner w roomId userId) := by
  rw [ensureRoomConversationParticipant]
  split
  · exact h
  · rename_i conversation hfound
    split
    · exact h
    · exact h.insertParticipant (h.ne hfound) userId

theorem Apart.step (h : Apart a b roomId row w) (event : RoomEvent) (hin : event.InSpace roomId) :
    Apart a b roomId row (event.step planner w) := by
  cases event with
  | chat socket event =>
      exact h.congr (handle_conversations socket event w.chat)
        (handle_participantsOf socket event w.chat)
  | join room userId =>
      cases hin
      exact h.join userId
  | others => exact h.congr rfl rfl
  | openRoom | openChat | expand => exact hin.elim

theorem Apart.after (h : Apart a b roomId row w) {later : List RoomEvent}
    (hlater : ∀ event ∈ later, event.InSpace roomId) :
    Apart a b roomId row (w.after planner later) :=
  Backend.after_keeps (fun _ event hin hw => hw.step event hin) h hlater

theorem Apart.updateConversation (h : Apart a b roomId row w) {target : ConversationId}
    (hne : row.id ≠ target) {f : ConversationRow → ConversationRow}
    {hf : ∀ row, (f row).id = row.id} :
    Apart a b roomId row (w.updateConversation target f hf) where
  mem := mem_updateConversation.mpr ⟨row, h.mem, if_neg hne⟩
  elsewhere := h.elsewhere
  areTwo := h.areTwo

theorem Apart.insertMessage (h : Apart a b roomId row w) {target : ConversationId}
    {message : Option MessageRow} {chat : World}
    (hinsert : w.chat.insertMessage target inviterUserId .system none = (message, chat)) :
    Apart a b roomId row (w.setChat chat) := by
  have hchat : (w.chat.insertMessage target inviterUserId .system none).2 = chat :=
    congrArg Prod.snd hinsert
  refine h.congr ?_ ?_
  · show chat.conversations = _
    rw [← hchat]
    exact exec_conversations (.insertMessage target inviterUserId .system none) w.chat
  · show chat.participantsOf row.id = _
    rw [← hchat]
    exact exec_participantsOf (.insertMessage target inviterUserId .system none) w.chat

theorem Apart.expandConversation (h : Apart a b roomId row w) {target : ConversationId}
    (hne : row.id ≠ target)
    (hrun : expandConversation w inviteeUserId inviterUserId target = .ok w') :
    Apart a b roomId row w' := by
  rw [Chat.expandConversation] at hrun
  split at hrun
  · cases hrun
  · rename_i message chat hinsert
    rw [← Except.ok.inj hrun]
    have hspace : Apart a b roomId row (w.updateConversation target
        ({ · with type := .roomSpace, connectionId := none }) fun _ => rfl) :=
      h.updateConversation hne
    have hjoined := (hspace.insertParticipant hne inviteeUserId).insertMessage hinsert
    refine hjoined.congr rfl ?_
    exact participantsOf_updateParticipant
      (f := ({ · with joinedFromMessageId := some message.id })) chat inviteeUserId fun _ => rfl

theorem Apart.createExpanded (h : Apart a b roomId row w)
    (hrun : createExpanded w roomId inviterUserId = .ok w') : Apart a b roomId row w' := by
  rw [Chat.createExpanded] at hrun
  dsimp only at hrun
  split at hrun
  · cases hrun
  · rename_i hfresh
    split at hrun
    · cases hrun
    · rename_i message chat hinsert
      rw [← Except.ok.inj hrun]
      have hne : row.id ≠ w.chat.uuids w.chat.uuidsDrawn :=
        fun heq => hfresh (List.mem_map.mpr ⟨row, h.mem, heq⟩)
      have hcreated : Apart a b roomId row (w.drawUuid.insertConversation
          ⟨w.chat.uuids w.chat.uuidsDrawn, .roomSpace, some roomId, none,
            w.chat.clock w.chat.uuidsDrawn⟩) := by
        rw [Backend.insertConversation]
        split
        · exact ⟨List.mem_cons_of_mem _ h.mem, h.elsewhere, h.areTwo⟩
        · exact h.congr rfl rfl
      refine Apart.insertMessage (w := Backend.insertParticipants _ _ _) ?_ hinsert
      refine ⟨?_, h.elsewhere, fun userId => ?_⟩
      · rw [insertParticipants_conversations]
        exact hcreated.mem
      · rw [mem_participantsOf_insertParticipants hne]
        exact hcreated.areTwo userId

theorem Apart.expand (h : Apart a b roomId row w)
    (hrun : runExpandDirectAcceptTransaction planner w roomId inviteeUserId inviterUserId =
      .ok w') :
    Apart a b roomId row w' := by
  rw [runExpandDirectAcceptTransaction] at hrun
  split at hrun
  · dsimp only at hrun
    have hroom : Apart a b roomId row
        ((w.setRoomType roomId .space).upsertRoomParticipant roomId inviteeUserId) :=
      h.congr rfl rfl
    split at hrun
    · rename_i conversation hfound
      exact hroom.expandConversation (hroom.ne hfound) hrun
    · exact hroom.createExpanded hrun
  · cases hrun

theorem Apart.keepsPrivate (h : Apart a b roomId row w) (hmem : row ∈ w'.chat.conversations.rows)
    (hinvitee : inviteeUserId ≠ a ∧ inviteeUserId ≠ b) :
    KeepsPrivate planner order a b roomId inviteeUserId row.id w' w where
  fromInvitee later hlater := by
    refine getMessages_of_absent order (fun hin => ?_) _
    exact absurd (((h.after hlater).areTwo inviteeUserId).mp hin) (not_or.mpr hinvitee)
  fromJoining before later userId hbefore hlater hout := by
    have hapart : Apart a b roomId row (w.after planner before) := h.after hbefore
    refine getMessages_of_absent order (fun hin => hout ?_) _
    have hjoined : Apart a b roomId row ((w.after planner before).after planner
        (.join roomId userId :: later)) :=
      hapart.after (List.forall_mem_cons.mpr ⟨rfl, hlater⟩)
    exact (hapart.areTwo userId).mpr ((hjoined.areTwo userId).mp hin)
  theirs later hlater := by
    have hafter : Apart a b roomId row (w.after planner later) := h.after hlater
    exact ⟨⟨row, hmem, row, hafter.mem, rfl, rfl, rfl, rfl⟩, hafter.areTwo⟩

end Apart

/-! ### The conversation of the room -/

/-- The user takes part in the conversation, none of it is hidden from them, and
the message belongs to it. -/
structure Shows (id : ConversationId) (userId : UserId) (messageId : MessageId) (w : World) :
    Prop where
  member : ∃ row ∈ w.participants.rows,
    row.key = (id, userId) ∧ row.leftAt = none ∧ row.historyHiddenBeforeAt = none
  message : w.Holds id messageId

section Shows

variable {planner : PeerPlanner} {order : MessageOrder} {roomId : RoomId} {w : World}
  {id : ConversationId} {userId : UserId} {messageId : MessageId}

theorem holds_iff : w.Holds id messageId ↔
    ∃ row ∈ w.messages.rows, row.conversationId = id ∧ row.id = messageId := by
  simp [World.Holds, World.messagesIn, and_assoc]

theorem Shows.updateParticipant (h : Shows id userId messageId w) {target : ConversationId}
    {user : UserId} {f : ParticipantRow → ParticipantRow} {hf : ∀ row, (f row).key = row.key}
    (hleft : ∀ row, row.leftAt = none → (f row).leftAt = none)
    (hhidden : ∀ row, (f row).historyHiddenBeforeAt = row.historyHiddenBeforeAt) :
    Shows id userId messageId (w.updateParticipant target user f hf) where
  member := by
    obtain ⟨row, hrow, hkey, hpresent, hseen⟩ := h.member
    have hmem : (if row.key = (target, user) then f row else row) ∈
        (w.updateParticipant target user f hf).participants.rows := by
      show _ ∈ (w.participants.update _ f hf).rows
      rw [Sql.Table.mem_update]
      exact ⟨row, hrow, by simp only [decide_eq_true_eq]⟩
    refine ⟨_, hmem, ?_⟩
    split
    · exact ⟨(hf row).trans hkey, hleft row hpresent, (hhidden row).trans hseen⟩
    · exact ⟨hkey, hpresent, hseen⟩
  message := h.message

theorem Shows.updateMessage (h : Shows id userId messageId w) {target : MessageId}
    {f : MessageRow → MessageRow} {hf : ∀ row, (f row).id = row.id}
    (hsame : ∀ row, (f row).conversationId = row.conversationId) :
    Shows id userId messageId (w.updateMessage target f hf) where
  member := h.member
  message := by
    obtain ⟨row, hrow, hid, hmessage⟩ := holds_iff.mp h.message
    have hmem : (if row.id = target then f row else row) ∈
        (w.updateMessage target f hf).messages.rows := by
      show _ ∈ (w.messages.update _ f hf).rows
      rw [Sql.Table.mem_update]
      exact ⟨row, hrow, by simp only [decide_eq_true_eq]⟩
    refine holds_iff.mpr ⟨_, hmem, ?_⟩
    split
    · exact ⟨(hsame row).trans hid, (hf row).trans hmessage⟩
    · exact ⟨hid, hmessage⟩

theorem Shows.exec (h : Shows id userId messageId w) (c : Cmd) :
    Shows id userId messageId (exec c w).2 := by
  cases c with
  | rejoin | updateLastRead =>
      exact h.updateParticipant (by simp) (by simp)
  | updateContent | softDelete =>
      exact h.updateMessage (by simp)
  | insertMessage conversationId senderId messageType content =>
      rw [Chat.exec, World.insertMessage]
      dsimp only
      split
      · refine ⟨h.member, ?_⟩
        obtain ⟨row, hrow, hheld⟩ := holds_iff.mp h.message
        exact holds_iff.mpr ⟨row, List.mem_cons_of_mem _ hrow, hheld⟩
      · exact ⟨h.member, h.message⟩
  | insertReaction | insertReceipt =>
      rw [Chat.exec]
      split <;> exact ⟨h.member, h.message⟩
  | _ => exact ⟨h.member, h.message⟩

theorem Shows.step {w : Backend} (h : Shows id userId messageId w.chat) (event : RoomEvent)
    (hin : event.InSpace roomId) : Shows id userId messageId (event.step planner w).chat := by
  cases event with
  | chat socket event =>
      exact (within_handle socket event).run_keeps (I := Shows id userId messageId)
        (fun c _ _ hw => hw.exec c) h
  | join room user =>
      rw [RoomEvent.step, ensureRoomConversationParticipant]
      split
      · exact h
      · split
        · exact h
        · obtain ⟨row, hrow, hseen⟩ := h.member
          exact ⟨⟨row, mem_insertParticipant.mpr (.inl hrow), hseen⟩, h.message⟩
  | others => exact h
  | openRoom | openChat | expand => exact hin.elim

theorem Shows.after {w : Backend} (h : Shows id userId messageId w.chat) {later : List RoomEvent}
    (hlater : ∀ event ∈ later, event.InSpace roomId) :
    Shows id userId messageId (w.after planner later).chat :=
  Backend.after_keeps (I := fun w => Shows id userId messageId w.chat)
    (fun _ event hin hw => Shows.step hw event hin) h hlater

/-- On one page that is long enough there is all that is not hidden. -/
theorem Shows.onPage (h : Shows id userId messageId w) (order : MessageOrder) :
    ∃ page, w.getMessages order id userId none w.messages.rows.length = .ok page ∧
      ∃ message ∈ page.messages, message.row.id = messageId := by
  obtain ⟨row, hrow, hkey, hpresent, hseen⟩ := h.member
  have hfind : w.participant id userId = some row := Sql.Table.find_eq_some.mpr ⟨hrow, hkey⟩
  have hmember : w.isParticipant id userId = true := by
    rw [World.isParticipant, hfind, Option.any_some, hpresent]
    rfl
  have hhidden : w.hiddenBeforeAt id userId = none := by
    rw [World.hiddenBeforeAt, hfind, Option.bind_some, hseen]
    rfl
  obtain ⟨message, hmessage, hconversation, hid⟩ := holds_iff.mp h.message
  rw [World.getMessages, if_pos hmember, hhidden]
  refine ⟨_, rfl, ⟨message, w.reactionsOf message.id⟩, List.mem_map.mpr ⟨message, ?_, rfl⟩, hid⟩
  rw [World.getMessageRows]
  dsimp only
  have hlength := (order.perm (w.messages.rows.filter fun row =>
    row.conversationId = id ∧ (none : Option Date).all (Date.toTimestamp · < row.createdAt) ∧
      (none : Option Date).all (row.createdAt < Date.toTimestamp ·))).length_eq
  have hle := List.length_filter_le (fun row : MessageRow => decide (row.conversationId = id ∧
    (none : Option Date).all (Date.toTimestamp · < row.createdAt) ∧
      (none : Option Date).all (row.createdAt < Date.toTimestamp ·))) w.messages.rows
  rw [List.take_of_length_le (by omega), decide_eq_false (by omega), if_neg Bool.false_ne_true,
    List.mem_reverse, (order.perm _).mem_iff, List.mem_filter]
  exact ⟨hmessage, decide_eq_true ⟨hconversation, rfl, rfl⟩⟩

end Shows

section Linked

variable {planner : PeerPlanner} {order : MessageOrder} {a b inviteeUserId inviterUserId : UserId}
  {roomId : RoomId} {id : ConversationId} {w w' : Backend}

/-- The one conversation of the room is found. -/
theorem conversationOfRoom_of_linked (planner : PeerPlanner) (honce : LinkedOnce roomId w)
    (hlinked : IsLinked roomId w id) :
    ∃ row, w.conversationOfRoom planner roomId = some row ∧ row.id = id := by
  obtain ⟨row, hrow, hid, hroom⟩ := hlinked
  cases hfound : w.conversationOfRoom planner roomId with
  | none => exact absurd hroom (unlinked_of_conversationOfRoom hfound row hrow)
  | some row' =>
      obtain ⟨hrow', hroom'⟩ := conversationOfRoom_eq_some hfound
      exact ⟨row', rfl, honce row' hrow' row hrow hroom' hroom ▸ hid⟩

theorem expand_of_linked (honce : LinkedOnce roomId w) (hlinked : IsLinked roomId w id)
    (hrun : runExpandDirectAcceptTransaction planner w roomId inviteeUserId inviterUserId =
      .ok w') :
    expandConversation ((w.setRoomType roomId .space).upsertRoomParticipant roomId inviteeUserId)
      inviteeUserId inviterUserId id = .ok w' := by
  rw [runExpandDirectAcceptTransaction] at hrun
  split at hrun
  · dsimp only at hrun
    have honce' : LinkedOnce roomId
        ((w.setRoomType roomId .space).upsertRoomParticipant roomId inviteeUserId) :=
          honce.congr rfl
    obtain ⟨row, hfound, rfl⟩ := conversationOfRoom_of_linked planner honce' hlinked
    rw [hfound] at hrun
    exact hrun
  · cases hrun

/-- It has become the conversation of a space. -/
theorem type_of_expandConversation
    (hrun : expandConversation w inviteeUserId inviterUserId id = .ok w') {row : ConversationRow}
    (hrow : row ∈ w'.chat.conversations.rows) (hid : row.id = id) : row.type = .roomSpace := by
  rw [expandConversation_conversations hrun] at hrow
  obtain ⟨old, -, rfl⟩ := mem_updateConversation.mp hrow
  by_cases hold : old.id = id
  · rw [if_pos hold]
  · rw [if_neg hold] at hid
    exact absurd hid hold

/-- Nothing is hidden from the invitee. -/
theorem shows_of_expandConversation
    (hrun : expandConversation w inviteeUserId inviterUserId id = .ok w')
    (hout : inviteeUserId ∉ w.chat.participantsOf id) {messageId : MessageId}
    (hheld : w.chat.Holds id messageId) : Shows id inviteeUserId messageId w'.chat := by
  rw [expandConversation] at hrun
  split at hrun
  · cases hrun
  · rename_i message chat hinsert
    rw [← Except.ok.inj hrun]
    have hjoined : Shows id inviteeUserId messageId ((w.updateConversation id
        ({ · with type := .roomSpace, connectionId := none }) fun _ => rfl).insertParticipant
          { conversationId := id, userId := inviteeUserId }).chat := by
      refine ⟨⟨_, mem_insertParticipant.mpr (.inr ⟨rfl, fun hkey => hout ?_⟩), rfl, rfl, rfl⟩,
        hheld⟩
      obtain ⟨row, hrow, heq⟩ := List.mem_map.mp hkey
      obtain ⟨hid, huser⟩ := Prod.mk.inj heq
      exact mem_participantsOf.mpr ⟨row, hrow, hid, huser⟩
    have hchat := hjoined.exec (.insertMessage id inviterUserId .system none)
    rw [exec, hinsert] at hchat
    exact hchat.updateParticipant (fun _ h => h) fun _ => rfl

/-- **An expanded room takes the conversation of the two along**: it stays
private if and only if it is not that of the room. If it is, the invitee is
shown all that the two have written. -/
theorem expansion_keepsPrivate_iff {w₀ : Backend} (history : List RoomEvent)
    (hnew : Unlinked roomId w₀) (htheirs : Between a b (w₀.after planner history) id)
    (hinvitee : inviteeUserId ≠ a ∧ inviteeUserId ≠ b)
    (hrun : runExpandDirectAcceptTransaction planner (w₀.after planner history) roomId inviteeUserId
      inviterUserId = .ok w') :
    (KeepsPrivate planner order a b roomId inviteeUserId id (w₀.after planner history) w' ↔
      ¬ IsLinked roomId (w₀.after planner history) id) ∧
    (IsLinked roomId (w₀.after planner history) id →
      ∀ later, (∀ event ∈ later, event.InSpace roomId) →
        (NeverShows order (w'.after planner later).chat id inviteeUserId
          ((w₀.after planner history).chat.messagesIn id) ↔
        (w₀.after planner history).chat.messagesIn id = [])) := by
  have honce : LinkedOnce roomId (w₀.after planner history) := hnew.linkedOnce.after history
  obtain ⟨w, hw⟩ : ∃ w, w = w₀.after planner history := ⟨_, rfl⟩
  rw [← hw] at htheirs hrun honce ⊢
  obtain ⟨⟨row, hrow, rfl, hpeer⟩, hareTwo⟩ := htheirs
  refine ⟨⟨fun hkeeps hlinked => ?_, fun hlinked => ?_⟩, fun hlinked later hlater => ?_⟩
  · obtain ⟨⟨row₁, hrow₁, row₂, hrow₂, hid₁, hid₂, htype, -⟩, -⟩ := hkeeps.theirs [] (by simp)
    have hspace := type_of_expandConversation (expand_of_linked honce hlinked hrun) hrow₂ hid₂
    rw [Sql.Table.eq_of_key hrow₁ hrow hid₁, hspace] at htype
    rw [ConversationRow.isPeer, ← htype] at hpeer
    exact absurd hpeer (by decide)
  · have hapart : Apart a b roomId row w :=
      ⟨hrow, fun hroom => hlinked ⟨row, hrow, rfl, hroom⟩, hareTwo⟩
    exact (hapart.expand hrun).keepsPrivate hrow hinvitee
  · constructor
    · intro hnever
      by_contra hsome
      obtain ⟨message, hmessage⟩ := List.exists_mem_of_ne_nil _ hsome
      have hheld : w.chat.Holds row.id message.id := List.mem_map_of_mem hmessage
      have hshows : Shows row.id inviteeUserId message.id w'.chat :=
        shows_of_expandConversation (expand_of_linked honce hlinked hrun)
          (fun hin => absurd ((hareTwo _).mp hin) (not_or.mpr hinvitee)) hheld
      have hlast : Shows row.id inviteeUserId message.id (w'.after planner later).chat :=
        hshows.after hlater
      obtain ⟨page, hpage, shown, hshown, hid⟩ := hlast.onPage order
      refine hnever none _ page hpage shown hshown ?_
      rw [hid]
      exact hheld
    · intro hnil cursor limit page _ message _
      rw [hnil]
      exact List.not_mem_nil

end Linked

namespace Sample

def wes : UserId := ⟨"wes", by decide⟩
def ida : UserId := ⟨"ida", by decide⟩
def rob : UserId := ⟨"rob", by decide⟩
def cellar : RoomId := ⟨"cellar", by decide⟩
def diary : ConversationId := ⟨"diary", by decide⟩
def leaf (n : ℕ) : Matching.Text := ⟨"leaf " ++ toString n, by simp⟩

/-- `wes` has written to `ida`; now they are in a direct room. -/
def confiding : Backend where
  chat :=
    { conversations := ⟨[{ id := diary, type := .roomDirect, roomId := none, connectionId := none
                           createdAt := 30 }], by decide⟩
      participants := ⟨[{ conversationId := diary, userId := wes },
        { conversationId := diary, userId := ida }], by decide⟩
      messages := ⟨[{ id := leaf 0, conversationId := diary, senderId := wes, messageType := .text
                      content := some "between us", createdAt := 31 }], by decide⟩
      uuids := fun n => leaf (n + 1)
      clock := fun n => 40 + n }
  roomType := fun roomId => if roomId = cellar then some .direct else none
  roomParticipants := [{ roomId := cellar, userId := wes }, { roomId := cellar, userId := ida }]

theorem between_confiding : Between wes ida confiding diary := by
  refine ⟨⟨_, List.mem_singleton_self _, rfl, by decide⟩, fun userId => ?_⟩
  show userId ∈ [wes, ida] ↔ _
  simp

/-- The room opens its chat, and `rob` is invited: he is shown what `wes` has
written. -/
theorem not_keepsPrivate_confiding :
    Unlinked cellar confiding ∧
      Between wes ida (confiding.after firstRow [.openRoom cellar .direct wes]) diary ∧
      ∃ w', runExpandDirectAcceptTransaction firstRow
          (confiding.after firstRow [.openRoom cellar .direct wes]) cellar rob ida = .ok w' ∧
        ¬ KeepsPrivate firstRow newestFirst wes ida cellar rob diary
          (confiding.after firstRow [.openRoom cellar .direct wes]) w' := by
  have hopened : (confiding.after firstRow [.openRoom cellar .direct wes]).chat =
      (confiding.updateConversation diary ({ · with roomId := some cellar })
        fun _ => rfl).chat := by
    rfl
  refine ⟨by simp [Unlinked, confiding], ?_, _, rfl, fun hkeeps => ?_⟩
  · refine ⟨?_, ?_⟩
    · rw [hopened]
      exact ⟨_, List.mem_singleton_self _, rfl, by decide⟩
    · rw [hopened]
      exact between_confiding.2
  · have hnever := hkeeps.fromInvitee [] (by simp) none 9 _ rfl
    revert hnever
    decide

/-- The room has not opened its chat: what `wes` has written stays with `ida`. -/
theorem keepsPrivate_confiding :
    ∃ w', runExpandDirectAcceptTransaction firstRow confiding cellar rob ida = .ok w' ∧
      KeepsPrivate firstRow newestFirst wes ida cellar rob diary confiding w' := by
  refine ⟨_, rfl, ?_⟩
  refine (expansion_keepsPrivate_iff [] ?_ between_confiding ?_ rfl).1.mpr ?_
  · simp [Unlinked]
  · decide
  · show ¬ IsLinked cellar confiding diary
    simp [IsLinked, confiding]

end Sample

end Greetup.Chat
