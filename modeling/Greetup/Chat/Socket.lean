import Greetup.Chat.Service

/-!
The events that a client sends over its chat socket, and their handlers.
-/

namespace Greetup.Chat

open Connections (UserId)

def chatRateLimit : ℕ := 60

/-- The events of a client, each with the ids that the client has put into it. -/
inductive ClientEvent
  | roomJoin (conversationId : ConversationId)
  | roomLeave (conversationId : ConversationId)
  | messageSend (conversationId : ConversationId) (messageType : MessageType) (content : String)
  | messageRead (conversationId : ConversationId) (messageId : MessageId)
  | typingStart (conversationId : ConversationId)
  | typingStop (conversationId : ConversationId)
  | reactionAdd (conversationId : ConversationId) (messageId : MessageId) (emoji : String)
  | reactionRemove (conversationId : ConversationId) (messageId : MessageId) (emoji : String)
  | messageEdit (conversationId : ConversationId) (messageId : MessageId) (content : String)
  | messageDelete (conversationId : ConversationId) (messageId : MessageId) (deleteForAll : Bool)
  deriving DecidableEq

/-- What the handlers know of the socket: its id and its user. -/
structure Socket where
  id : SocketId
  userId : UserId

variable (socket : Socket)

def Socket.emit (event : ServerEvent) : M Unit := emitTo (.socket socket.id) event

/-- Only these errors are named to the client. -/
def isClientSafeChatError : ChatError → Bool
  | .unauthorized | .messagingBlocked | .notFound => true
  | _ => false

def handleError (error : ChatError) : M Unit :=
  if isClientSafeChatError error then socket.emit (.error error)
  else socket.emit (.error .internalError)

def caught : Thrown Unit → M Unit
  | .error error => handleError socket error
  | .ok () => return ()

/-! ### Send -/

def emitNewMessage (conversationId : ConversationId) (message : MessageRow) :
    Option Conversation → M (Thrown Unit)
  | none => do
      emitTo (.user socket.userId) (.messageNew message.id)
      return .ok ()
  | some conversation => do
      emitToParticipantUsers conversationId (.messageNew message.id) conversation.participants
      announceToAll conversationId socket.userId conversation.participants
      return .ok ()

def announceMessage (conversationId : ConversationId) (message : MessageRow) : M (Thrown Unit) := do
  emitTo (.room conversationId) (.typingStop socket.userId)
  let conversation ← issue (.findConversation conversationId)
  emitNewMessage socket conversationId message conversation

def afterSend (conversationId : ConversationId) (message : MessageRow) : M (Thrown Unit) := do
  let typing ← setTyping conversationId socket.userId false
  continueWith (fun _ => announceMessage socket conversationId message) typing

def onMessageSend (conversationId : ConversationId) (messageType : MessageType)
    (content : String) : M Unit := do
  let count ← issue (.incrMessageRate socket.userId)
  if count ≤ chatRateLimit then
    let sent ← send conversationId socket.userId messageType content
    let announced ← continueWith (afterSend socket conversationId) sent
    caught socket announced
  else socket.emit (.warning .rateLimited)

/-! ### Read and typing -/

def announceRead (conversationId : ConversationId) (messageId : MessageId) : M (Thrown Unit) := do
  emitTo (.room conversationId) (.messageRead messageId socket.userId)
  emitTo (.user socket.userId) (.unreadSync 0)
  return .ok ()

def onMessageRead (conversationId : ConversationId) (messageId : MessageId) : M Unit := do
  let read ← markRead conversationId messageId socket.userId
  let announced ← continueWith (fun _ => announceRead socket conversationId messageId) read
  caught socket announced

def onTyping (conversationId : ConversationId) (isTyping : Bool) (event : ServerEvent) :
    M Unit := do
  let typing ← setTyping conversationId socket.userId isTyping
  let announced ← continueWith
    (fun _ => .ok <$> emitTo (.room conversationId) event) typing
  caught socket announced

/-! ### Reactions -/

def emitReactions (conversationId : ConversationId) (messageId : MessageId)
    (reactions : List ReactionRow) : Option Conversation → M (Thrown Unit)
  | none => return .ok ()
  | some conversation => do
      emitToParticipantUsers conversationId (.reactionUpdate messageId reactions)
        conversation.participants
      return .ok ()

def emitReactionUpdateToParticipants (conversationId : ConversationId) (messageId : MessageId)
    (reactions : List ReactionRow) : M (Thrown Unit) := do
  let conversation ← issue (.findConversation conversationId)
  emitReactions conversationId messageId reactions conversation

/-- Both handlers of reactions, with the service that they call. -/
def onReaction (conversationId : ConversationId) (messageId : MessageId)
    (service : M (Thrown (List ReactionRow))) : M Unit := do
  let reactions ← service
  let announced ← continueWith (emitReactionUpdateToParticipants conversationId messageId) reactions
  caught socket announced

/-! ### Edit and delete -/

def emitEdited (conversationId : ConversationId) (messageId : MessageId) :
    Option Conversation → M (Thrown Unit)
  | none => return .ok ()
  | some conversation => do
      emitToParticipantUsers conversationId (.messageEdited messageId) conversation.participants
      emitToParticipantUsers conversationId .conversationActivity conversation.participants
      return .ok ()

def announceEdited (conversationId : ConversationId) (updated : MessageRow) :
    M (Thrown Unit) := do
  let conversation ← issue (.findConversation conversationId)
  emitEdited conversationId updated.id conversation

def onMessageEdit (conversationId : ConversationId) (messageId : MessageId) (content : String) :
    M Unit := do
  let updated ← editMessage messageId socket.userId content
  let announced ← continueWith (announceEdited conversationId) updated
  caught socket announced

def emitDeleted (conversationId : ConversationId) (messageId : MessageId) (deleteForAll : Bool) :
    Option Conversation → M Unit
  | none =>
      if deleteForAll then return () else socket.emit (.messageDeleted messageId deleteForAll)
  | some conversation => do
      if deleteForAll then
        emitToParticipantUsers conversationId (.messageDeleted messageId deleteForAll)
          conversation.participants
      else socket.emit (.messageDeleted messageId deleteForAll)
      emitToParticipantUsers conversationId .conversationActivity conversation.participants

def announceDeleted (conversationId : ConversationId) (messageId : MessageId)
    (deleteForAll : Bool) : M (Thrown Unit) := do
  let conversation ← issue (.findConversation conversationId)
  .ok <$> emitDeleted socket conversationId messageId deleteForAll conversation

def onMessageDelete (conversationId : ConversationId) (messageId : MessageId)
    (deleteForAll : Bool) : M Unit := do
  let deleted ← deleteMessage messageId socket.userId deleteForAll
  let announced ←
      continueWith (fun _ => announceDeleted socket conversationId messageId deleteForAll)
    deleted
  caught socket announced

/-! ### All events -/

/-- `registerChatSocketHandlers` -/
def handle : ClientEvent → M Unit
  | .roomJoin conversationId => issue (.join socket.id conversationId)
  | .roomLeave conversationId => issue (.leave socket.id conversationId)
  | .messageSend conversationId messageType content =>
      onMessageSend socket conversationId messageType content
  | .messageRead conversationId messageId => onMessageRead socket conversationId messageId
  | .typingStart conversationId =>
      onTyping socket conversationId true (.typingStart socket.userId)
  | .typingStop conversationId => onTyping socket conversationId false (.typingStop socket.userId)
  | .reactionAdd conversationId messageId emoji =>
      onReaction socket conversationId messageId
        (addReaction messageId conversationId socket.userId emoji)
  | .reactionRemove conversationId messageId emoji =>
      onReaction socket conversationId messageId
        (removeReaction messageId conversationId socket.userId emoji)
  | .messageEdit conversationId messageId content =>
      onMessageEdit socket conversationId messageId content
  | .messageDelete conversationId messageId deleteForAll =>
      onMessageDelete socket conversationId messageId deleteForAll

end Greetup.Chat
