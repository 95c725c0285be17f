import Greetup.Chat.Types
import Greetup.Interleaving.Licence

/-!
What the chat acts on: its tables, its Redis keys and its sockets; and the
statements, commands and emits that act on them.
-/

namespace Greetup.Chat

open Interleaving
open Matching (Text)
open Connections (UserId ConnectionId)
open Rooms (RoomId)

abbrev SocketId := Text

/-! ### What is emitted -/

inductive ChatError
  | unauthorized
  | notFound
  | messagingBlocked
  | rateLimited
  | internalError
  deriving DecidableEq

/-- The events that the server emits, with the message that they are about. -/
inductive ServerEvent
  | messageNew (messageId : MessageId)
  | conversationActivity
  | unreadSync (unreadCount : ℕ)
  | messageRead (messageId : MessageId) (userId : UserId)
  | typingStart (userId : UserId)
  | typingStop (userId : UserId)
  | reactionUpdate (messageId : MessageId) (reactions : List ReactionRow)
  | messageEdited (messageId : MessageId)
  | messageDeleted (messageId : MessageId) (deletedForAll : Bool)
  | warning (code : ChatError)
  | error (code : ChatError)
  deriving DecidableEq

/-- The message that was read, reacted to, edited or deleted. -/
def ServerEvent.operatedOn : ServerEvent → Option MessageId
  | .messageRead messageId _ | .reactionUpdate messageId _ | .messageEdited messageId
  | .messageDeleted messageId _ => some messageId
  | _ => none

/-- Whom an event is sent to: a user, for taking part in a conversation; the
sockets that have joined a conversation; a user or a socket of the caller. -/
inductive Audience
  | participant (conversationId : ConversationId) (userId : UserId)
  | room (conversationId : ConversationId)
  | user (userId : UserId)
  | socket (socketId : SocketId)
  deriving DecidableEq

/-- The conversation by which the audience was chosen. -/
def Audience.conversationId : Audience → Option ConversationId
  | .participant conversationId _ | .room conversationId => some conversationId
  | _ => none

structure Delivery where
  audience : Audience
  event : ServerEvent
  deriving DecidableEq

/-! ### The store -/

structure World where
  conversations : Sql.Table ConversationRow.id := .empty
  participants : Sql.Table ParticipantRow.key := .empty
  /-- newest first -/
  messages : Sql.Table MessageRow.id := .empty
  reactions : List ReactionRow := []
  /-- `message_read_receipts` -/
  receipts : List (MessageId × UserId) := []
  blocks : Connections.BlockTable := .empty
  /-- `unreadCounts(userId)`, by conversation -/
  unread : UserId → ConversationId → ℕ := fun _ _ => 0
  /-- `typingMember(conversationId, userId)` -/
  typing : ConversationId → UserId → Bool := fun _ _ => false
  /-- `messageRate(userId)` -/
  messageRate : UserId → ℕ := fun _ => 0
  /-- the rooms `conv:{conversationId}` that a socket has joined -/
  joined : SocketId → Finset ConversationId := fun _ => ∅
  /-- the ids that the database gives to new rows, one after the other -/
  uuids : ℕ → Text
  uuidsDrawn : ℕ := 0
  /-- the time at which they are drawn -/
  clock : ℕ → Timestamp
  sent : List Delivery := []

/-- A conversation as it is read, with the users of its participants. -/
structure Conversation where
  row : ConversationRow
  participants : List UserId
  deriving DecidableEq

namespace World

variable (w : World)

def participant (conversationId : ConversationId) (userId : UserId) : Option ParticipantRow :=
  w.participants.find (conversationId, userId)

/-- The user takes part in the conversation and has not left it. -/
def isParticipant (conversationId : ConversationId) (userId : UserId) : Bool :=
  (w.participant conversationId userId).any (·.leftAt = none)

def participantsOf (conversationId : ConversationId) : List UserId :=
  (w.participants.rows.filter (·.conversationId = conversationId)).map (·.userId)

def findConversation (id : ConversationId) : Option Conversation :=
  (w.conversations.find id).map fun row => ⟨row, w.participantsOf id⟩

def isBlockedBy (blockerId blockedId : UserId) : Bool :=
  w.blocks.rows.contains ⟨blockerId, blockedId⟩

def setMessages (messages : Sql.Table MessageRow.id) : World := { w with messages }

def setParticipants (participants : Sql.Table ParticipantRow.key) : World :=
  { w with participants }

/-- `UPDATE conversation_participants … WHERE conversation_id = … AND user_id = …` -/
def updateParticipant (conversationId : ConversationId) (userId : UserId)
    (f : ParticipantRow → ParticipantRow) (hf : ∀ row, (f row).key = row.key) : World :=
  w.setParticipants (w.participants.update (·.key = (conversationId, userId)) f hf)

/-- A new message, unless its id is taken or there is no such conversation. -/
def insertMessage (conversationId : ConversationId) (senderId : UserId) (messageType : MessageType)
    (content : Option String) : Option MessageRow × World :=
  let row : MessageRow :=
    { id := w.uuids w.uuidsDrawn, conversationId, senderId, messageType, content
      createdAt := w.clock w.uuidsDrawn }
  let w₁ := { w with uuidsDrawn := w.uuidsDrawn + 1 }
  if h : row.id ∉ w.messages.rows.map MessageRow.id ∧
      (w.conversations.find conversationId).isSome then
    (some row,
    w₁.setMessages ⟨row :: w.messages.rows, List.nodup_cons.mpr ⟨h.1, w.messages.unique⟩⟩)
  else (none, w₁)

def updateMessage (id : MessageId) (f : MessageRow → MessageRow) (hf : ∀ row, (f row).id = row.id) :
    World :=
  w.setMessages (w.messages.update (·.id = id) f hf)

def reactionsOf (messageId : MessageId) : List ReactionRow :=
  w.reactions.filter (·.messageId = messageId)

end World

/-! ### Statements, commands and emits -/

inductive Cmd
  | hasParticipantRecord (conversationId : ConversationId) (userId : UserId)
  | isParticipant (conversationId : ConversationId) (userId : UserId)
  | rejoin (conversationId : ConversationId) (userId : UserId)
  | updateLastRead (conversationId : ConversationId) (userId : UserId) (messageId : MessageId)
  | findConversation (conversationId : ConversationId)
  | isBlockedBy (blockerId blockedId : UserId)
  | findMessage (messageId : MessageId)
  | insertMessage (conversationId : ConversationId) (senderId : UserId) (messageType : MessageType)
      (content : Option String)
  | updateContent (messageId : MessageId) (content : String)
  | softDelete (messageId : MessageId) (deleteForAll : Bool)
  | insertReaction (row : ReactionRow)
  | deleteReaction (row : ReactionRow)
  | getReactions (messageId : MessageId)
  | insertReceipt (messageId : MessageId) (userId : UserId)
  | incrUnread (userId : UserId) (conversationId : ConversationId)
  | resetUnread (userId : UserId) (conversationId : ConversationId)
  | getUnread (userId : UserId) (conversationId : ConversationId)
  | setTyping (conversationId : ConversationId) (userId : UserId) (isTyping : Bool)
  | incrMessageRate (userId : UserId)
  | join (socketId : SocketId) (conversationId : ConversationId)
  | leave (socketId : SocketId) (conversationId : ConversationId)
  | emit (delivery : Delivery)

/-- A write that a key or a foreign key forbids throws. -/
@[reducible] def Cmd.Reply : Cmd → Type
  | .hasParticipantRecord _ _ | .isParticipant _ _ | .isBlockedBy _ _ => Bool
  | .findConversation _ => Option Conversation
  | .findMessage _ | .insertMessage _ _ _ _ => Option MessageRow
  | .insertReaction _ | .insertReceipt _ _ => Bool
  | .getReactions _ => List ReactionRow
  | .getUnread _ _ | .incrMessageRate _ => ℕ
  | _ => Unit

def exec : (c : Cmd) → World → c.Reply × World
  | .hasParticipantRecord conversationId userId, w =>
      ((w.participant conversationId userId).isSome, w)
  | .isParticipant conversationId userId, w => (w.isParticipant conversationId userId, w)
  | .rejoin conversationId userId, w =>
      ((), w.updateParticipant conversationId userId ({ · with leftAt := none }) fun _ => rfl)
  | .updateLastRead conversationId userId messageId, w =>
      ((), w.updateParticipant conversationId userId
        ({ · with lastReadMessageId := some messageId }) fun _ => rfl)
  | .findConversation conversationId, w => (w.findConversation conversationId, w)
  | .isBlockedBy blockerId blockedId, w => (w.isBlockedBy blockerId blockedId, w)
  | .findMessage messageId, w => (w.messages.find messageId, w)
  | .insertMessage conversationId senderId messageType content, w =>
      w.insertMessage conversationId senderId messageType content
  | .updateContent messageId content, w =>
      ((), w.updateMessage messageId ({ · with content := some content }) fun _ => rfl)
  | .softDelete messageId deleteForAll, w =>
      ((), w.updateMessage messageId
        ({ · with isDeleted := true, deletedForAll := deleteForAll, content := none })
        fun _ => rfl)
  | .insertReaction row, w =>
      if (w.messages.find row.messageId).isSome then
        (true, { w with reactions := w.reactions.insert row })
      else (false, w)
  | .deleteReaction row, w => ((), { w with reactions := w.reactions.filter (· ≠ row) })
  | .getReactions messageId, w => (w.reactionsOf messageId, w)
  | .insertReceipt messageId userId, w =>
      if (w.messages.find messageId).isSome then
        (true, { w with receipts := w.receipts.insert (messageId, userId) })
      else (false, w)
  | .incrUnread userId conversationId, w =>
      ((), { w with
        unread := Function.update w.unread userId
          (Function.update (w.unread userId) conversationId (w.unread userId conversationId + 1)) })
  | .resetUnread userId conversationId, w =>
      ((), { w with
        unread := Function.update w.unread userId
          (Function.update (w.unread userId) conversationId 0) })
  | .getUnread userId conversationId, w => (w.unread userId conversationId, w)
  | .setTyping conversationId userId isTyping, w =>
      ((), { w with
        typing := Function.update w.typing conversationId
          (Function.update (w.typing conversationId) userId isTyping) })
  | .incrMessageRate userId, w =>
      (w.messageRate userId + 1,
        { w with messageRate := Function.update w.messageRate userId (w.messageRate userId + 1) })
  | .join socketId conversationId, w =>
      ((), { w with
        joined := Function.update w.joined socketId (insert conversationId (w.joined socketId)) })
  | .leave socketId conversationId, w =>
      ((), { w with
        joined := Function.update w.joined socketId ((w.joined socketId).erase conversationId) })
  | .emit delivery, w => ((), { w with sent := w.sent ++ [delivery] })

abbrev M := Prog Cmd Cmd.Reply

/-- The program that issues one command. -/
abbrev issue (c : Cmd) : M c.Reply := Prog.perform c

end Greetup.Chat
