import Greetup.Chat.Latest
import Greetup.Chat.Scroll
import Mathlib.Algebra.Order.Ring.Unbundled.Rat

/-!
The messages of a conversation as they are read: on the pages of the
conversation, and as previews in the inbox of a user.
-/

namespace Greetup.Chat

open Connections (UserId)
open Matching (Json JsonRecord trim toTrimmedString)

/-! ### Previews of system messages -/

section Payload

-- `String(n)`
variable (numberText : ℚ → String)

/-- `padStart(2, "0")` -/
def padTwo (s : String) : String := String.ofList (List.replicate (2 - s.length) '0') ++ s

def isText (value : Json) (text : String) : Bool :=
  match value with
  | .str s => s = text
  | _ => false

def modeLabel (mode : Json) : String := if isText mode "video" then "Video call" else "Voice call"

def formatDuration (durationSec : ℚ) : String :=
  if durationSec < 60 then "0:" ++ padTwo (numberText (max 0 durationSec))
  else
    let mins := (durationSec / 60).floor
    let secs := durationSec - 60 * mins
    if mins < 60 then
      if 0 < secs then numberText mins ++ ":" ++ padTwo (numberText secs)
      else numberText mins ++ " min"
    else
      let hours := mins / 60
      let remMins := mins % 60
      numberText hours ++ ":" ++ padTwo (numberText remMins) ++ ":" ++ padTwo (numberText secs)

def isConnectionCallSystemPayload (o : JsonRecord) : Bool :=
  isText (o.get "event") "connection_call" &&
    (isText (o.get "mode") "audio" || isText (o.get "mode") "video") &&
    (isText (o.get "status") "completed" || isText (o.get "status") "missed" ||
      isText (o.get "status") "declined" || isText (o.get "status") "cancelled") &&
    match o.get "initiatorUserId" with
    | .str _ => true
    | _ => false

/-- `payload.durationSec ?? 0`; what is no number counts as none. -/
def durationOf : Json → ℚ
  | .num q => q
  | _ => 0

/-- Neutral inbox preview (no viewer context). -/
def connectionCallInboxPreview (payload : JsonRecord) : String :=
  let label := modeLabel (payload.get "mode")
  let status := payload.get "status"
  if isText status "completed" then
    let dur := durationOf (payload.get "durationSec")
    if 0 < dur then label ++ " · " ++ formatDuration numberText dur else label
  else if isText status "missed" then
    "Missed " ++ (if isText (payload.get "mode") "video" then "video" else "voice") ++ " call"
  else if isText status "declined" then label ++ " declined"
  else if isText status "cancelled" then label ++ " cancelled"
  else label

def systemPayloadPreview : Json → Option String
  | .null => none
  | .str s => if 0 < (trim s).length then some (trim s) else none
  | .obj o =>
      match toTrimmedString (JsonRecord.get o "text") <|>
          toTrimmedString (JsonRecord.get o "message") <|>
          toTrimmedString (JsonRecord.get o "body") with
      | some text => some text
      | none =>
          if isText (JsonRecord.get o "event") "user_added" then some "Someone joined the space"
          else if isConnectionCallSystemPayload o then
            some (connectionCallInboxPreview numberText o)
          else some "System message"
  | _ => some "System message"

end Payload

/-! ### Messages as they are read -/

structure ReadMessage where
  id : MessageId
  conversationId : ConversationId
  senderId : UserId
  content : String
  messageType : MessageType
  isDeleted : Bool
  deletedForAll : Bool
  createdAt : Date
  deriving DecidableEq

/-- The columns of a message are decrypted, unless it is deleted. -/
def toMessageRow (raw : MessageRow) : ReadMessage where
  id := raw.id
  conversationId := raw.conversationId
  senderId := raw.senderId
  content :=
    if raw.messageType = .system then ""
    else if !raw.isDeleted && !raw.deletedForAll then raw.content.getD "" else ""
  messageType := raw.messageType
  isDeleted := raw.isDeleted
  deletedForAll := raw.deletedForAll
  createdAt := Date.ofTimestamp raw.createdAt

/-- A page as a client gets it, each message with its reactions. -/
structure ReadPage where
  messages : List (ReadMessage × List ReactionRow)
  nextCursor : Option Date
  deriving DecidableEq

def World.readMessages (w : World) (order : MessageOrder) (conversationId : ConversationId)
    (userId : UserId) (cursor : Option Date) (limit : ℕ) : Thrown ReadPage :=
  (w.getMessages order conversationId userId cursor limit).map fun page =>
    { messages := page.messages.map fun message => (toMessageRow message.row, message.reactions)
      nextCursor := page.nextCursor }

/-! ### Previews -/

section Previews

-- the column `system_payload`, which no statement changes, by the id of the message
variable (numberText : ℚ → String) (payloads : MessageId → Json)

def inboxPreviewFromMessageRow (row : ReadMessage) : Option String :=
  if row.isDeleted || row.deletedForAll then none
  else
    match row.messageType with
    | .text => if 0 < (trim row.content).length then some (trim row.content) else none
    | .image => some "Photo"
    | .video => some "Video"
    | .file => some "File"
    | .voice => some "Voice message"
    | .gif => some "GIF"
    | .system => systemPayloadPreview numberText (payloads row.id)

namespace World

variable (w : World) (arrangement : Arrangement MessageRow)

/-- `map.get(id) ?? null` -/
def inboxPreviewsForConversationIds (conversationIds : List String) (id : String) :
    Option String :=
  let unique := conversationIds.dedup.filter (· ≠ "")
  if id ∈ unique then
    (w.findLatestByConversationIds arrangement unique id).bind fun raw =>
      inboxPreviewFromMessageRow numberText payloads (toMessageRow raw)
  else none

/-- The conversations in which a user takes part. -/
def conversationsOf (userId : UserId) : List ConversationId :=
  (w.participants.rows.filter fun row => row.userId = userId ∧ row.leftAt = none).map
    (·.conversationId)

/-- The previews in the inbox of a user. -/
def inboxPreviews (userId : UserId) : String → Option String :=
  w.inboxPreviewsForConversationIds numberText payloads arrangement
    ((w.conversationsOf userId).map (·.val))

end World

end Previews

end Greetup.Chat
