import Greetup.Chat.PeerConversation
import Greetup.Chat.Socket

/-!
A direct room becomes a space: the transaction that takes a third user into the
room and into its conversation, and what else happens to the conversations one
call after the other.
-/

namespace Greetup.Chat

open Interleaving
open Connections (UserId ConnectionTable)
open Rooms (RoomId RoomType)

namespace Backend

variable (planner : PeerPlanner) (w : Backend)

/-! ### Changes of the tables -/

def setChat (chat : World) : Backend := { w with chat }

def setRoomType (roomId : RoomId) (type : RoomType) : Backend :=
  { w with roomType := Function.update w.roomType roomId (some type) }

/-- Who was in the room before and has left is back in it. -/
def upsertRoomParticipant (roomId : RoomId) (userId : UserId) : Backend :=
  let isRow (row : RoomParticipantRow) : Bool := row.roomId = roomId ∧ row.userId = userId
  { w with
    roomParticipants :=
      if w.roomParticipants.any isRow then
        w.roomParticipants.map fun row => if isRow row then { row with hasLeft := false } else row
      else { roomId, userId } :: w.roomParticipants }

/-- The users who are in the room. -/
def activeParticipantsOf (roomId : RoomId) : List UserId :=
  (w.roomParticipants.filter fun row => row.roomId = roomId ∧ ¬ row.hasLeft).map (·.userId)

/-- A conversation of the room. -/
def conversationOfRoom (roomId : RoomId) : Option ConversationRow :=
  (planner.conversations.arrange
    (w.chat.conversations.rows.filter (·.roomId = some roomId))).head?

/-- The participant is marked as one who has come with a message. -/
def markJoined (conversationId : ConversationId) (userId : UserId) (messageId : MessageId) :
    Backend :=
  w.setChat (w.chat.updateParticipant conversationId userId
    ({ · with joinedFromMessageId := some messageId }) fun _ => rfl)

end Backend

/-! ### The transaction -/

inductive ExpandError
  | notDirect
  | internalError
  deriving DecidableEq

section Expand

variable (planner : PeerPlanner) (w : Backend) (roomId : RoomId)
  (inviteeUserId inviterUserId : UserId)

/-- The conversation of the room is made that of a space, with the invitee in
it. -/
def expandConversation (conversationId : ConversationId) : Except ExpandError Backend :=
  let w₁ := w.updateConversation conversationId
    ({ · with type := .roomSpace, connectionId := none }) fun _ => rfl
  let w₂ := w₁.insertParticipant { conversationId, userId := inviteeUserId }
  match w₂.chat.insertMessage conversationId inviterUserId .system none with
  | (none, _) => .error .internalError
  | (some message, chat) =>
      .ok ((w₂.setChat chat).markJoined conversationId inviteeUserId message.id)

/-- The room has no conversation yet. -/
def createExpanded : Except ExpandError Backend :=
  let row : ConversationRow :=
    { id := w.chat.uuids w.chat.uuidsDrawn, type := .roomSpace, roomId := some roomId
      connectionId := none, createdAt := w.chat.clock w.chat.uuidsDrawn }
  if row.id ∈ w.chat.conversations.rows.map ConversationRow.id then .error .internalError
  else
    let w₁ := (w.drawUuid.insertConversation row).insertParticipants row.id
      (w.activeParticipantsOf roomId)
    match w₁.chat.insertMessage row.id inviterUserId .system none with
    | (none, _) => .error .internalError
    | (some _, chat) => .ok (w₁.setChat chat)

def runExpandDirectAcceptTransaction : Except ExpandError Backend :=
  if w.roomType roomId = some .direct then
    let w₁ := (w.setRoomType roomId .space).upsertRoomParticipant roomId inviteeUserId
    match w₁.conversationOfRoom planner roomId with
    | some conversation => expandConversation w₁ inviteeUserId inviterUserId conversation.id
    | none => createExpanded w₁ roomId inviterUserId
  else .error .notDirect

/-- Who joins the room takes part in its conversation. -/
def ensureRoomConversationParticipant (userId : UserId) : Backend :=
  match w.conversationOfRoom planner roomId with
  | none => w
  | some conversation =>
      if (w.chat.participant conversation.id userId).isSome then w
      else w.insertParticipant { conversationId := conversation.id, userId }

end Expand

/-! ### One call after the other -/

/-- A call of a transaction with nothing in between. -/
def Backend.transact (planner : PeerPlanner) (w : Backend) (p : PeerM Unit PeerResult) : Backend :=
  (p.run (execPeer planner) { sessions := { committed := w } }).2.sessions.committed

/-- What happens to the conversations; `others` are changes of the tables that
are not of the chat. -/
inductive RoomEvent
  | chat (socket : Socket) (event : ClientEvent)
  | openRoom (roomId : RoomId) (roomType : RoomType) (hostUserId : UserId)
  | openChat (userA userB : UserId)
  | join (roomId : RoomId) (userId : UserId)
  | expand (roomId : RoomId) (inviteeUserId inviterUserId : UserId)
  | others (connections : ConnectionTable) (roomType : RoomId → Option RoomType)
      (roomParticipants : List RoomParticipantRow)

def RoomEvent.step (planner : PeerPlanner) (w : Backend) : RoomEvent → Backend
  | .chat socket event => w.setChat ((handle socket event).run exec w.chat).2
  | .openRoom roomId roomType hostUserId =>
      w.transact planner (getOrCreateRoomConversation () roomId roomType hostUserId)
  | .openChat userA userB => w.transact planner (findOrCreatePeerConversation () userA userB)
  | .join roomId userId => ensureRoomConversationParticipant planner w roomId userId
  | .expand roomId inviteeUserId inviterUserId =>
      match runExpandDirectAcceptTransaction planner w roomId inviteeUserId inviterUserId with
      | .ok w' => w'
      | .error _ => w
  | .others connections roomType roomParticipants =>
      { w with connections, roomType, roomParticipants }

def Backend.after (planner : PeerPlanner) (w : Backend) (events : List RoomEvent) : Backend :=
  events.foldl (RoomEvent.step planner) w

/-- A property that every event of the run keeps holds at its end. -/
theorem Backend.after_keeps {planner : PeerPlanner} {I : Backend → Prop} {P : RoomEvent → Prop}
    (hstep : ∀ w event, P event → I w → I (event.step planner w)) {w : Backend} (hw : I w)
    {events : List RoomEvent} (hevents : ∀ event ∈ events, P event) :
    I (w.after planner events) := by
  induction events generalizing w with
  | nil => exact hw
  | cons event events ih =>
      exact ih (hstep w event (hevents event List.mem_cons_self) hw)
        fun e he => hevents e (List.mem_cons_of_mem _ he)

end Greetup.Chat
