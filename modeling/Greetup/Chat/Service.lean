import Greetup.Chat.Store

/-!
The services of the chat: to send a message, to mark it read, to edit and delete
it, to react to it, and to type.
-/

namespace Greetup.Chat

open Interleaving
open Connections (UserId)

/-! ### Errors -/

/-- What a service returns or throws. -/
abbrev Thrown (α : Type) := Except ChatError α

def throwing {α : Type} (error : ChatError) : M (Thrown α) := return .error error

/-- What follows, unless an error was thrown. -/
def continueWith {α β : Type} (f : α → M (Thrown β)) : Thrown α → M (Thrown β)
  | .error error => throwing error
  | .ok a => f a

/-! ### Guards -/

/-- The other participant in a 1:1 thread. -/
def getDmPeerUserId (conversation : Conversation) (viewerId : UserId) : Option UserId :=
  if conversation.row.type = .roomSpace then none
  else
    match conversation.participants.filter (· ≠ viewerId) with
    | [peerId] => some peerId
    | _ => none

def assertMessagingAllowed (viewerId peerUserId : UserId) : M (Thrown Unit) := do
  let youBlocked ← issue (.isBlockedBy viewerId peerUserId)
  let blockedYou ← issue (.isBlockedBy peerUserId viewerId)
  if youBlocked || blockedYou then throwing .messagingBlocked else return .ok ()

def assertNotBlocked (senderId : UserId) : Option Conversation → M (Thrown Unit)
  | none => throwing .notFound
  | some conversation =>
      match getDmPeerUserId conversation senderId with
      | none => return .ok ()
      | some peerId => assertMessagingAllowed senderId peerId

def assertCanMessageInConversation (conversationId : ConversationId) (senderId : UserId) :
    M (Thrown Unit) := do
  let conversation ← issue (.findConversation conversationId)
  assertNotBlocked senderId conversation

/-! ### New messages -/

def countFor (conversationId : ConversationId) (senderId userId : UserId) : M Unit :=
  if userId = senderId then return ()
  else do
    issue (.rejoin conversationId userId)
    issue (.incrUnread userId conversationId)

def countForAll (conversationId : ConversationId) (senderId : UserId) : List UserId → M Unit
  | [] => return ()
  | userId :: userIds => do
      countFor conversationId senderId userId
      countForAll conversationId senderId userIds

def countForOthers (conversationId : ConversationId) (senderId : UserId) :
    Option Conversation → M Unit
  | none => return ()
  | some conversation => countForAll conversationId senderId conversation.participants

/-- The message is counted as unread for all participants but its sender. -/
def counted (conversationId : ConversationId) (senderId : UserId) :
    Option MessageRow → M (Thrown (MessageRow × Option Conversation))
  | none => throwing .internalError
  | some message => do
      let conversation ← issue (.findConversation conversationId)
      countForOthers conversationId senderId conversation
      return .ok (message, conversation)

def insertAndCount (conversationId : ConversationId) (senderId : UserId) (messageType : MessageType)
    (content : Option String) : M (Thrown (MessageRow × Option Conversation)) := do
  let message ← issue (.insertMessage conversationId senderId messageType content)
  counted conversationId senderId message

def sendAs (conversationId : ConversationId) (senderId : UserId) (messageType : MessageType)
    (content : String) (canAccess : Bool) : M (Thrown (MessageRow × Option Conversation)) :=
  if canAccess then do
    issue (.rejoin conversationId senderId)
    let allowed ← assertCanMessageInConversation conversationId senderId
    continueWith (fun _ => insertAndCount conversationId senderId messageType (some content))
      allowed
  else throwing .unauthorized

/-- Whoever has a record in the conversation may send, and takes part again. -/
def send (conversationId : ConversationId) (senderId : UserId) (messageType : MessageType)
    (content : String) : M (Thrown MessageRow) := do
  let canAccess ← issue (.hasParticipantRecord conversationId senderId)
  let sent ← sendAs conversationId senderId messageType content canAccess
  return sent.map Prod.fst

def emitTo (audience : Audience) (event : ServerEvent) : M Unit := issue (.emit ⟨audience, event⟩)

/-- The number of unread messages of a participant, sent to that participant. -/
def syncUnread (conversationId : ConversationId) (userId : UserId) : M Unit := do
  let unreadCount ← issue (.getUnread userId conversationId)
  emitTo (.participant conversationId userId) (.unreadSync unreadCount)

/-- A new message is announced to the participants, one after the other. -/
def announceTo (conversationId : ConversationId) (senderId userId : UserId) : M Unit := do
  emitTo (.participant conversationId userId) .conversationActivity
  if userId = senderId then return () else syncUnread conversationId userId

def announceToAll (conversationId : ConversationId) (senderId : UserId) : List UserId → M Unit
  | [] => return ()
  | userId :: userIds => do
      announceTo conversationId senderId userId
      announceToAll conversationId senderId userIds

def emitToParticipantUsers (conversationId : ConversationId) (event : ServerEvent) :
    List UserId → M Unit
  | [] => return ()
  | userId :: userIds => do
      emitTo (.participant conversationId userId) event
      emitToParticipantUsers conversationId event userIds

/-- A system message, to one participant after the other. -/
def publishTo (conversationId : ConversationId) (senderId : UserId) (messageId : MessageId) :
    List UserId → M Unit
  | [] => return ()
  | userId :: userIds => do
      emitTo (.participant conversationId userId) (.messageNew messageId)
      announceTo conversationId senderId userId
      publishTo conversationId senderId messageId userIds

def publish (conversationId : ConversationId) (senderId : UserId) :
    MessageRow × Option Conversation → M (Thrown MessageRow)
  | (message, none) => return .ok message
  | (message, some conversation) => do
      publishTo conversationId senderId message.id conversation.participants
      return .ok message

def publishAs (conversationId : ConversationId) (senderId : UserId) (isMember : Bool) :
    M (Thrown MessageRow) :=
  if isMember then do
    let message ← insertAndCount conversationId senderId .system none
    continueWith (publish conversationId senderId) message
  else throwing .unauthorized

def publishSystemMessage (conversationId : ConversationId) (senderId : UserId) :
    M (Thrown MessageRow) := do
  let isMember ← issue (.isParticipant conversationId senderId)
  publishAs conversationId senderId isMember

/-! ### Read -/

def markReadAs (conversationId : ConversationId) (messageId : MessageId) (userId : UserId)
    (inserted : Bool) : M (Thrown Unit) :=
  if inserted then do
    issue (.updateLastRead conversationId userId messageId)
    issue (.resetUnread userId conversationId)
    return .ok ()
  else throwing .internalError

def markRead (conversationId : ConversationId) (messageId : MessageId) (userId : UserId) :
    M (Thrown Unit) := do
  let inserted ← issue (.insertReceipt messageId userId)
  markReadAs conversationId messageId userId inserted

/-! ### Edited and deleted messages -/

/-- What was there is decrypted for the history of edits, which fails if there
is nothing. -/
def editContent (messageId : MessageId) (content : String) (message : MessageRow) :
    M (Thrown MessageRow) :=
  match message.content with
  | none => throwing .internalError
  | some _ => do
      issue (.updateContent messageId content)
      return .ok { message with content := some content }

def editExisting (messageId : MessageId) (senderId : UserId) (content : String) :
    Option MessageRow → M (Thrown MessageRow)
  | none => throwing .notFound
  | some message =>
      if message.senderId ≠ senderId then throwing .unauthorized
      else do
        let allowed ← assertCanMessageInConversation message.conversationId senderId
        continueWith (fun _ => editContent messageId content message) allowed

def editMessage (messageId : MessageId) (senderId : UserId) (content : String) :
    M (Thrown MessageRow) := do
  let existing ← issue (.findMessage messageId)
  editExisting messageId senderId content existing

def deleteExisting (messageId : MessageId) (senderId : UserId) (deleteForAll : Bool) :
    Option MessageRow → M (Thrown Unit)
  | none => throwing .notFound
  | some message =>
      if message.senderId ≠ senderId then throwing .unauthorized
      else do
        issue (.softDelete messageId deleteForAll)
        return .ok ()

def deleteMessage (messageId : MessageId) (senderId : UserId) (deleteForAll : Bool) :
    M (Thrown Unit) := do
  let existing ← issue (.findMessage messageId)
  deleteExisting messageId senderId deleteForAll existing

/-! ### Reactions -/

/-- For those who take part in the conversation that is named. -/
def asMember (conversationId : ConversationId) (userId : UserId)
    (change : M (Thrown (List ReactionRow))) (isMember : Bool) : M (Thrown (List ReactionRow)) :=
  if isMember then do
    let allowed ← assertCanMessageInConversation conversationId userId
    continueWith (fun _ => change) allowed
  else throwing .unauthorized

def reactionAdded (messageId : MessageId) (inserted : Bool) : M (Thrown (List ReactionRow)) :=
  if inserted then do
    let reactions ← issue (.getReactions messageId)
    return .ok reactions
  else throwing .internalError

def addReaction (messageId : MessageId) (conversationId : ConversationId) (userId : UserId)
    (emoji : String) : M (Thrown (List ReactionRow)) := do
  let isMember ← issue (.isParticipant conversationId userId)
  asMember conversationId userId
    (issue (.insertReaction ⟨messageId, userId, emoji⟩) >>= reactionAdded messageId) isMember

def reactionRemoved (messageId : MessageId) : M (Thrown (List ReactionRow)) := do
  let reactions ← issue (.getReactions messageId)
  return .ok reactions

def removeReaction (messageId : MessageId) (conversationId : ConversationId) (userId : UserId)
    (emoji : String) : M (Thrown (List ReactionRow)) := do
  let isMember ← issue (.isParticipant conversationId userId)
  asMember conversationId userId
    (issue (.deleteReaction ⟨messageId, userId, emoji⟩) >>= fun _ => reactionRemoved messageId)
    isMember

/-! ### Typing -/

def setTyping (conversationId : ConversationId) (userId : UserId) (isTyping : Bool) :
    M (Thrown Unit) := do
  let allowed ← assertCanMessageInConversation conversationId userId
  continueWith (fun _ => .ok <$> issue (.setTyping conversationId userId isTyping)) allowed

end Greetup.Chat
