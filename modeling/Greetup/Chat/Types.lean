import Greetup.Connections.Store
import Greetup.Rooms.Types
import Mathlib.Order.GaloisConnection.Basic

/-!
The rows of a chat: conversations, those who take part in them, and messages.
-/

namespace Greetup.Chat

open Matching (Text)
open Connections (UserId ConnectionId)
open Rooms (RoomId)

abbrev ConversationId := Text
abbrev MessageId := Text

/-! ### Times -/

/-- A timestamp of the database, in microseconds. -/
abbrev Timestamp := ℕ

/-- A timestamp as the server reads it, in milliseconds. -/
abbrev Date := ℕ

namespace Date

/-- What lies between two milliseconds is cut off. -/
def ofTimestamp (t : Timestamp) : Date := t / 1000

def toTimestamp (d : Date) : Timestamp := d * 1000

theorem galois : GaloisConnection toTimestamp ofTimestamp :=
  fun _ _ => (Nat.le_div_iff_mul_le (by decide)).symm

end Date

/-! ### Rows -/

/-- `conversation_type` -/
inductive ConversationType
  | roomDirect
  | roomSpace
  | connection
  deriving DecidableEq

structure ConversationRow where
  id : ConversationId
  type : ConversationType
  roomId : Option RoomId
  connectionId : Option ConnectionId
  createdAt : Timestamp
  deriving DecidableEq

structure ParticipantRow where
  conversationId : ConversationId
  userId : UserId
  leftAt : Option Timestamp := none
  historyHiddenBeforeAt : Option Timestamp := none
  lastReadMessageId : Option MessageId := none
  joinedFromMessageId : Option MessageId := none
  deriving DecidableEq

/-- The primary key of `conversation_participants`. -/
def ParticipantRow.key (row : ParticipantRow) : ConversationId × UserId :=
  (row.conversationId, row.userId)

/-- `message_type` -/
inductive MessageType
  | text
  | image
  | video
  | file
  | voice
  | gif
  | system
  deriving DecidableEq

/-- A message; a system message has no content, and neither has one that was
deleted. -/
structure MessageRow where
  id : MessageId
  conversationId : ConversationId
  senderId : UserId
  messageType : MessageType
  content : Option String
  isDeleted : Bool := false
  deletedForAll : Bool := false
  createdAt : Timestamp
  deriving DecidableEq

structure ReactionRow where
  messageId : MessageId
  userId : UserId
  emoji : String
  deriving DecidableEq

end Greetup.Chat
