import Greetup.Chat.PeerStore

/-!
The two transactions that look up the conversation of two users, or create it:
for the list of their chats, and for a direct room of theirs.
-/

namespace Greetup.Chat

open Interleaving
open Connections (UserId ConnectionId)
open Rooms (RoomId RoomType)

variable {ι : Type} (tx : ι)

/-! ### Looking it up -/

def findExistingShared (ids : List ConversationId) : PeerM ι (Option ConversationId) :=
  if ids = [] then return none
  else issuePeer (.findOldest tx ids)

def findExistingAmong (userB : UserId) (ids : List ConversationId) :
    PeerM ι (Option ConversationId) :=
  if ids = [] then return none
  else do
    let shared ← issuePeer (.conversationIdsShared tx userB ids)
    findExistingShared tx shared

/-- The oldest conversation, of a direct room or of a connection, that both have
a record in. -/
def findExistingPeerConversationId (userA userB : UserId) : PeerM ι (Option ConversationId) := do
  let ids ← issuePeer (.conversationIdsOf tx userA)
  findExistingAmong tx userB ids

/-! ### Creating it -/

inductive PeerError
  | invalidPeer
  | internalError
  deriving DecidableEq

abbrev PeerResult := Except PeerError ConversationId

/-- The transaction is committed, and the conversation returned. -/
def returning (id : ConversationId) : PeerM ι PeerResult := do
  issuePeer (.commit tx)
  return .ok id

/-- Both take part in the new conversation. -/
def populate (userIds : List UserId) : Option ConversationId → PeerM ι PeerResult
  | none => do
      issuePeer (.rollback tx)
      return .error .internalError
  | some id => do
      issuePeer (.insertParticipants tx id userIds)
      returning tx id

def create (type : ConversationType) (roomId : Option RoomId) (connectionId : Option ConnectionId)
    (userIds : List UserId) : PeerM ι PeerResult := do
  let id ← issuePeer (.insertConversation tx type roomId connectionId)
  populate tx userIds id

/-! ### For the list of chats -/

def reuseConnection (userA userB : UserId) (connectionId : ConnectionId) :
    Option ConversationId → PeerM ι PeerResult
  | some id => returning tx id
  | none => create tx .connection none (some connectionId) [userA, userB]

def reusePeer (userA userB : UserId) : Option ConversationId → PeerM ι PeerResult
  | some id => returning tx id
  | none => create tx .roomDirect none none [userA, userB]

/-- For a connection its conversation is looked up by the connection alone. -/
def findOrCreateFor (userA userB : UserId) : Option ConnectionId → PeerM ι PeerResult
  | some connectionId => do
      let _ ← issuePeer (.lock tx (.connection connectionId))
      let existing ← issuePeer (.findByConnection tx connectionId)
      reuseConnection tx userA userB connectionId existing
  | none => do
      let existing ← findExistingPeerConversationId tx userA userB
      reusePeer tx userA userB existing

def findOrCreatePeerConversation (userA userB : UserId) : PeerM ι PeerResult :=
  if userA = userB then return .error .invalidPeer
  else do
    let connection ← issuePeer (.findAcceptedConnection tx userA userB)
    findOrCreateFor tx userA userB connection

/-! ### For a room -/

def linkTo (roomId : RoomId) (id : ConversationId) : PeerM ι PeerResult := do
  issuePeer (.linkRoom tx id roomId)
  returning tx id

def promoteOrCreate (roomId : RoomId) (connectionId : ConnectionId) (userIds : List UserId) :
    Option ConversationId → PeerM ι PeerResult
  | some id => do
      issuePeer (.promote tx id connectionId roomId)
      returning tx id
  | none => create tx .connection (some roomId) (some connectionId) userIds

/-- A conversation of the pair is made that of the connection. -/
def linkOrPromote (roomId : RoomId) (connectionId : ConnectionId) (hostUserId otherUserId : UserId)
    (userIds : List UserId) : Option ConversationId → PeerM ι PeerResult
  | some id => linkTo tx roomId id
  | none => do
      let existing ← findExistingPeerConversationId tx hostUserId otherUserId
      promoteOrCreate tx roomId connectionId userIds existing

def linkOrCreate (roomId : RoomId) (userIds : List UserId) :
    Option ConversationId → PeerM ι PeerResult
  | some id => linkTo tx roomId id
  | none => create tx .roomDirect (some roomId) none userIds

def createForPair (roomId : RoomId) (hostUserId otherUserId : UserId) (userIds : List UserId) :
    Option ConnectionId → PeerM ι PeerResult
  | some connectionId => do
      let _ ← issuePeer (.lock tx (.connection connectionId))
      let existing ← issuePeer (.findByConnection tx connectionId)
      linkOrPromote tx roomId connectionId hostUserId otherUserId userIds existing
  | none => do
      let existing ← findExistingPeerConversationId tx hostUserId otherUserId
      linkOrCreate tx roomId userIds existing

def createForOthers (roomId : RoomId) (hostUserId : UserId) (userIds : List UserId) :
    Option UserId → PeerM ι PeerResult
  | none => create tx .roomDirect (some roomId) none userIds
  | some otherUserId => do
      let connection ← issuePeer (.findAcceptedConnection tx hostUserId otherUserId)
      createForPair tx roomId hostUserId otherUserId userIds connection

def createDirectRoomConversation (roomId : RoomId) (hostUserId : UserId) : PeerM ι PeerResult := do
  let userIds ← issuePeer (.listRoomParticipants tx roomId)
  createForOthers tx roomId hostUserId userIds (userIds.find? (· ≠ hostUserId))

def createSpaceRoomConversation (roomId : RoomId) : PeerM ι PeerResult := do
  let userIds ← issuePeer (.listRoomParticipants tx roomId)
  create tx .roomSpace (some roomId) none userIds

def reuseOrCreate (roomId : RoomId) (roomType : RoomType) (hostUserId : UserId) :
    Option ConversationId → PeerM ι PeerResult
  | some id => returning tx id
  | none =>
      if roomType = .direct then createDirectRoomConversation tx roomId hostUserId
      else createSpaceRoomConversation tx roomId

def getOrCreateRoomConversation (roomId : RoomId) (roomType : RoomType) (hostUserId : UserId) :
    PeerM ι PeerResult := do
  let _ ← issuePeer (.lock tx (.room roomId))
  let existing ← issuePeer (.findByRoom tx roomId)
  reuseOrCreate tx roomId roomType hostUserId existing

end Greetup.Chat
