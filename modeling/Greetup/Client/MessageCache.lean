import Greetup.Chat.Types
import Mathlib.Logic.Function.Basic

/-!
The messages that the client keeps of its conversations: pages of what it has
fetched, the newest first, to which it adds what it sends and what it is told
over the socket.

A message that has been sent is shown at once, under an id of the client's own,
and is replaced by the one that the server sends back.
-/

namespace Greetup.Client

open Matching (Text)
open Connections (UserId)
open Chat (ConversationId MessageId)

inductive CachedId
  /-- `temp_`, and the time at which the message was sent, in milliseconds -/
  | temp (millis : ℕ)
  /-- A UUID -/
  | server (messageId : MessageId)
  deriving DecidableEq

/-- `startsWith('temp_')` -/
def CachedId.isTemp : CachedId → Bool
  | .temp _ => true
  | .server _ => false

inductive MessageStatus
  | sending
  | delivered
  | read
  | failed
  deriving DecidableEq

structure Reaction where
  userId : UserId
  emoji : String
  deriving DecidableEq

structure Message where
  id : CachedId
  conversationId : ConversationId
  senderId : UserId
  content : String
  reactions : Option (List Reaction) := none
  status : Option MessageStatus := none
  deriving DecidableEq

structure MessagesPage where
  messages : List Message
  nextCursor : Option MessageId := none
  deriving DecidableEq

/-- The pages of a conversation. -/
abbrev MessagesCache := List MessagesPage

/-- The conversations of which there is a cache. -/
abbrev QueryClient := ConversationId → Option MessagesCache

/-! ### One page -/

/-- It is shown as being sent. -/
def Message.awaits (content : String) (m : Message) : Bool :=
  m.id.isTemp && m.status == some .sending && m.content == content

/-- Without a user nothing is recognised as one's own. -/
def patchDraftNewMessage (draft : MessagesPage) (msg : Message) (currentUserId : Option UserId) :
    MessagesPage :=
  match if currentUserId = some msg.senderId
    then draft.messages.findIdx? (·.awaits msg.content) else none with
  | some tempIdx =>
      { draft with messages := draft.messages.modify tempIdx fun m => { msg with
          reactions := some ((msg.reactions <|> m.reactions).getD [])
          status := some .delivered } }
  | none =>
      if draft.messages.any (·.id == msg.id) then draft
      else { draft with messages := draft.messages ++ [{ msg with status := some .delivered }] }

/-! ### All pages -/

def patchFirstPage (data : MessagesCache) (patcher : MessagesPage → MessagesPage) :
    MessagesCache :=
  match data with
  | [] => []
  | page :: pages => patcher page :: pages

def patchAllPages (data : MessagesCache) (patcher : MessagesPage → MessagesPage) :
    MessagesCache :=
  data.map patcher

section Mutate

variable (qc : QueryClient) (conversationId : ConversationId)

/-- `seed` is the page of a cache that is created if there is none; without it
none is created. -/
def mutateMessagesCache (mutator : MessagesCache → MessagesCache) (seed : Option MessagesPage) :
    QueryClient :=
  match qc conversationId with
  | none =>
      match seed with
      | none => qc
      | some page => Function.update qc conversationId (some (mutator [page]))
  | some existing => Function.update qc conversationId (some (mutator existing))

def pushOptimisticMessage (message : Message) : QueryClient :=
  mutateMessagesCache qc conversationId
    (patchFirstPage · fun draft =>
      if draft.messages.any (·.id == message.id) then draft
      else { draft with messages := draft.messages ++ [message] })
    (some { messages := [message] })

/-- `changes` is what is assigned to the message. -/
def patchMessageInCache (messageId : CachedId) (changes : Message → Message) : QueryClient :=
  mutateMessagesCache qc conversationId
    (patchAllPages · fun draft =>
      match draft.messages.findIdx? (·.id == messageId) with
      | none => draft
      | some i => { draft with messages := draft.messages.modify i changes })
    none

end Mutate

def applySocketNewMessage (qc : QueryClient) (msg : Message) (currentUserId : Option UserId) :
    QueryClient :=
  mutateMessagesCache qc msg.conversationId
    (patchFirstPage · fun draft => patchDraftNewMessage draft msg currentUserId)
    (some { messages := [{ msg with status := some .delivered }] })

/-! ### Sending -/

def buildOptimisticMessage (tempId : CachedId) (conversationId : ConversationId) (content : String)
    (me : UserId) : Message where
  id := tempId
  conversationId := conversationId
  senderId := me
  content := content
  status := some .sending

/-- What `sendMessage` does before the server has answered; `millis` is the time. -/
def sendMessage (qc : QueryClient) (conversationId : ConversationId) (content : String)
    (me : UserId) (millis : ℕ) : QueryClient :=
  pushOptimisticMessage qc conversationId
    (buildOptimisticMessage (.temp millis) conversationId content me)

/-- What it does when the server has refused the message. -/
def sendFailed (qc : QueryClient) (conversationId : ConversationId) (millis : ℕ) : QueryClient :=
  patchMessageInCache qc conversationId (.temp millis) fun m => { m with status := some .failed }

end Greetup.Client
