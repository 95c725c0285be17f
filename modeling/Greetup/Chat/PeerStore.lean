import Greetup.Chat.Store
import Greetup.Sql.Locks
import Greetup.Sql.ReadCommitted
import Mathlib.Data.List.Sort

/-!
The tables behind the conversations of rooms and of pairs of users, and the
statements of the transactions that look a conversation up or create it.
-/

namespace Greetup.Chat

open Interleaving
open Connections (UserId ConnectionId ConnectionRow ConnectionTable)
open Rooms (RoomId RoomType)

/-! ### The store -/

/-- A row of `room_participants`. -/
structure RoomParticipantRow where
  roomId : RoomId
  userId : UserId
  hasLeft : Bool := false
  deriving DecidableEq

/-- A conversation of two users. -/
def ConversationRow.isPeer (row : ConversationRow) : Bool :=
  row.type = .roomDirect || row.type = .connection

structure Backend where
  chat : World
  connections : ConnectionTable := .empty
  roomType : RoomId → Option RoomType := fun _ => none
  roomParticipants : List RoomParticipantRow := []

namespace Backend

variable (w : Backend)

def setConversations (conversations : Sql.Table ConversationRow.id) : Backend :=
  { w with chat.conversations := conversations }

def setParticipants (participants : Sql.Table ParticipantRow.key) : Backend :=
  { w with chat.participants := participants }

/-- A new conversation, unless its id is taken. -/
def insertConversation (row : ConversationRow) : Backend :=
  if h : row.id ∉ w.chat.conversations.rows.map ConversationRow.id then
    w.setConversations
      ⟨row :: w.chat.conversations.rows, List.nodup_cons.mpr ⟨h, w.chat.conversations.unique⟩⟩
  else w

/-- `ON CONFLICT DO NOTHING` -/
def insertParticipant (row : ParticipantRow) : Backend :=
  w.setParticipants (w.chat.participants.insert row id fun _ => rfl)

def insertParticipants (conversationId : ConversationId) (userIds : List UserId) : Backend :=
  userIds.foldl (fun w userId => w.insertParticipant { conversationId, userId }) w

def updateConversation (id : ConversationId) (f : ConversationRow → ConversationRow)
    (hf : ∀ row, (f row).id = row.id) : Backend :=
  w.setConversations (w.chat.conversations.update (·.id = id) f hf)

def drawUuid : Backend := { w with chat.uuidsDrawn := w.chat.uuidsDrawn + 1 }

/-- The users of the room, those who have left it among them. -/
def participantsOfRoom (roomId : RoomId) : List UserId :=
  (w.roomParticipants.filter (·.roomId = roomId)).map (·.userId)

def conversationIdsOf (userId : UserId) : List ConversationId :=
  (w.chat.participants.rows.filter (·.userId = userId)).map (·.conversationId)

end Backend

/-! ### Statements -/

/-- A row that a transaction locks. -/
inductive LockKey
  | room (id : RoomId)
  | connection (id : ConnectionId)
  deriving DecidableEq

/-- A statement of the transaction of the connection `tx`, or a change of the
connections by others. -/
inductive PeerCmd (ι : Type)
  | lock (tx : ι) (key : LockKey)
  | findAcceptedConnection (tx : ι) (userA userB : UserId)
  | listRoomParticipants (tx : ι) (roomId : RoomId)
  | findByRoom (tx : ι) (roomId : RoomId)
  | findByConnection (tx : ι) (connectionId : ConnectionId)
  | conversationIdsOf (tx : ι) (userId : UserId)
  | conversationIdsShared (tx : ι) (userId : UserId) (ids : List ConversationId)
  | findOldest (tx : ι) (ids : List ConversationId)
  | linkRoom (tx : ι) (id : ConversationId) (roomId : RoomId)
  | promote (tx : ι) (id : ConversationId) (connectionId : ConnectionId) (roomId : RoomId)
  | insertConversation (tx : ι) (type : ConversationType) (roomId : Option RoomId)
      (connectionId : Option ConnectionId)
  | insertParticipants (tx : ι) (id : ConversationId) (userIds : List UserId)
  | commit (tx : ι)
  | rollback (tx : ι)
  | setConnections (connections : ConnectionTable)

@[reducible] def PeerCmd.Reply {ι : Type} : PeerCmd ι → Type
  | .lock _ _ => Bool
  | .findAcceptedConnection _ _ _ => Option ConnectionId
  | .listRoomParticipants _ _ => List UserId
  | .findByRoom _ _ | .findByConnection _ _ | .findOldest _ _ => Option ConversationId
  | .insertConversation _ _ _ _ => Option ConversationId
  | .conversationIdsOf _ _ | .conversationIdsShared _ _ _ => List ConversationId
  | _ => Unit

/-- The order in which the database returns the rows of a query that does not
settle it. -/
structure Arrangement (ρ : Type) where
  arrange : List ρ → List ρ
  perm : ∀ rows, (arrange rows).Perm rows

structure PeerPlanner where
  connections : Arrangement ConnectionRow
  conversations : Arrangement ConversationRow

/-- The database, the open transactions and the locks that they hold. -/
structure PeerSessions (ι : Type) where
  sessions : Sql.Sessions ι Backend
  locks : Sql.Locks LockKey ι := fun _ => none

namespace PeerSessions

variable {ι : Type} [DecidableEq ι] (s : PeerSessions ι) (tx : ι)

def view : Backend := s.sessions.view tx

def write (change : Backend → Backend) : PeerSessions ι :=
  { s with sessions := s.sessions.write tx change }

/-- The row that an insertion adds, with the id and the time that are drawn for
it. -/
def newConversation (type : ConversationType) (roomId : Option RoomId)
    (connectionId : Option ConnectionId) : ConversationRow :=
  let w := s.sessions.committed.chat
  { id := w.uuids w.uuidsDrawn, type, roomId, connectionId, createdAt := w.clock w.uuidsDrawn }

def drawUuid : PeerSessions ι :=
  { s with sessions := s.sessions.autocommit s.sessions.committed.drawUuid }

def endTransaction (sessions : Sql.Sessions ι Backend) : PeerSessions ι :=
  { sessions, locks := s.locks.release tx }

end PeerSessions

/-- The row is there to be locked. -/
def Backend.hasRow (w : Backend) : LockKey → Bool
  | .room id => (w.roomType id).isSome
  | .connection id => (w.connections.find id).isSome

def execPeer {ι : Type} [DecidableEq ι] (planner : PeerPlanner) :
    (c : PeerCmd ι) → PeerSessions ι → c.Reply × PeerSessions ι
  | .lock tx key, s =>
      if (s.view tx).hasRow key then (true, { s with locks := s.locks.acquire tx key })
      else (false, s)
  | .findAcceptedConnection tx userA userB, s =>
      (((planner.connections.arrange ((s.view tx).connections.rows.filter fun row =>
        row.status = .accepted ∧ row.isBetween userA userB)).head?).map (·.id), s)
  | .listRoomParticipants tx roomId, s => ((s.view tx).participantsOfRoom roomId, s)
  | .findByRoom tx roomId, s =>
      (((planner.conversations.arrange ((s.view tx).chat.conversations.rows.filter
        (·.roomId = some roomId))).head?).map (·.id), s)
  | .findByConnection tx connectionId, s =>
      (((planner.conversations.arrange ((s.view tx).chat.conversations.rows.filter fun row =>
        row.type = .connection ∧ row.connectionId = some connectionId)).head?).map (·.id), s)
  | .conversationIdsOf tx userId, s => ((s.view tx).conversationIdsOf userId, s)
  | .conversationIdsShared tx userId ids, s =>
      (((s.view tx).conversationIdsOf userId).filter (· ∈ ids), s)
  | .findOldest tx ids, s =>
      ((((planner.conversations.arrange ((s.view tx).chat.conversations.rows.filter fun row =>
        row.id ∈ ids ∧ row.isPeer)).insertionSort fun a b => a.createdAt ≤ b.createdAt).head?).map
          (·.id), s)
  | .linkRoom tx id roomId, s =>
      ((), s.write tx (·.updateConversation id ({ · with roomId := some roomId }) fun _ => rfl))
  | .promote tx id connectionId roomId, s =>
      ((), s.write tx (·.updateConversation id ({ · with
        type := .connection, connectionId := some connectionId, roomId := some roomId })
        fun _ => rfl))
  | .insertConversation tx type roomId connectionId, s =>
      let row := s.newConversation type roomId connectionId
      if row.id ∈ (s.view tx).chat.conversations.rows.map ConversationRow.id then
        (none, s.drawUuid)
      else (some row.id, s.drawUuid.write tx (·.insertConversation row))
  | .insertParticipants tx id userIds, s => ((), s.write tx (·.insertParticipants id userIds))
  | .commit tx, s =>
      ((), s.endTransaction tx (s.sessions.commit tx))
  | .rollback tx, s => ((), s.endTransaction tx (s.sessions.rollback tx))
  | .setConnections connections, s =>
      ((), { s with
        sessions := s.sessions.autocommit { s.sessions.committed with connections } })

abbrev PeerM (ι : Type) := Prog (PeerCmd ι) PeerCmd.Reply

abbrev issuePeer {ι : Type} (c : PeerCmd ι) : PeerM ι c.Reply := Prog.perform c

end Greetup.Chat
