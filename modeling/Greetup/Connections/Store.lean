import Greetup.Interleaving.Licence
import Greetup.Matching.Host
import Greetup.Sql.Table
import Mathlib.Data.Finset.Basic

/-!
The connections between users and their blocks: the two tables, the sets that
Redis keeps of them for the matching service, and the statements that read and
write both.
-/

namespace Greetup.Connections

open Interleaving
open Matching (Text)

abbrev UserId := Text
abbrev ConnectionId := Text

/-! ### Rows -/

/-- `connection_status` -/
inductive ConnectionStatus
  | pending
  | accepted
  | rejected
  | cancelled
  deriving DecidableEq

structure ConnectionRow where
  id : ConnectionId
  requesterId : UserId
  addresseeId : UserId
  status : ConnectionStatus
  deriving DecidableEq

namespace ConnectionRow

variable (row : ConnectionRow)

def direction : UserId × UserId := (row.requesterId, row.addresseeId)

/-- The row is between the two, in either direction. -/
def isBetween (a b : UserId) : Bool :=
  row.requesterId = a && row.addresseeId = b || row.requesterId = b && row.addresseeId = a

/-- A request is open, or was accepted. -/
def isLive : Bool := row.status = .pending || row.status = .accepted

end ConnectionRow

/-- `user_connections`, with its unique index on the direction and its check. -/
structure ConnectionTable extends Sql.Table ConnectionRow.id where
  directions : (rows.map ConnectionRow.direction).Nodup
  noSelf : ∀ row ∈ rows, row.requesterId ≠ row.addresseeId

namespace ConnectionTable

variable (t : ConnectionTable)

def empty : ConnectionTable where
  rows := []
  unique := List.nodup_nil
  directions := List.nodup_nil
  noSelf := by simp

/-- `UPDATE … SET status = status WHERE p` -/
def setStatus (p : ConnectionRow → Bool) (status : ConnectionStatus) : ConnectionTable where
  toTable := t.toTable.update p ({ · with status }) fun _ => rfl
  directions := by
    have hkeep : (ConnectionRow.direction ∘ fun row : ConnectionRow =>
        if p row then { row with status } else row) = ConnectionRow.direction := by
      funext row
      show ConnectionRow.direction (if p row then _ else row) = _
      split <;> rfl
    show ((t.rows.map _).map ConnectionRow.direction).Nodup
    rw [List.map_map, hkeep]
    exact t.directions
  noSelf := by
    intro row hrow
    obtain ⟨row', hrow', rfl⟩ := List.mem_map.mp hrow
    have hne := t.noSelf row' hrow'
    split
    · exact hne
    · exact hne

/-- `DELETE … WHERE id = id` -/
def delete (id : ConnectionId) : ConnectionTable where
  rows := t.rows.filter (·.id ≠ id)
  unique := t.unique.sublist (List.filter_sublist.map _)
  directions := t.directions.sublist (List.filter_sublist.map _)
  noSelf row hrow := t.noSelf row (List.mem_of_mem_filter hrow)

/-- The row gets a new direction and is pending, unless the index or the check
forbids it. -/
def redirect (id : ConnectionId) (requesterId addresseeId : UserId) : Option ConnectionTable :=
  let table := t.toTable.update (·.id = id)
    ({ · with requesterId, addresseeId, status := .pending }) fun _ => rfl
  if h : (table.rows.map ConnectionRow.direction).Nodup ∧ requesterId ≠ addresseeId then
    some
      { toTable := table
        directions := h.1
        noSelf := by
          intro row hrow
          obtain ⟨row', hrow', rfl⟩ := List.mem_map.mp hrow
          split
          · exact h.2
          · exact t.noSelf row' hrow' }
  else none

/-- `INSERT`, unless a unique index or the check forbids it. -/
def insert (row : ConnectionRow) : Option ConnectionTable :=
  if h : row.id ∉ t.rows.map ConnectionRow.id ∧
      row.direction ∉ t.rows.map ConnectionRow.direction ∧
      row.requesterId ≠ row.addresseeId then
    some
      { rows := row :: t.rows
        unique := List.nodup_cons.mpr ⟨h.1, t.unique⟩
        directions := List.nodup_cons.mpr ⟨h.2.1, t.directions⟩
        noSelf := List.forall_mem_cons.mpr ⟨h.2.2, t.noSelf⟩ }
  else none

end ConnectionTable

structure BlockRow where
  blockerId : UserId
  blockedId : UserId
  deriving DecidableEq

/-- `user_blocks`, with its unique index and its check. -/
structure BlockTable where
  rows : List BlockRow
  unique : rows.Nodup
  noSelf : ∀ row ∈ rows, row.blockerId ≠ row.blockedId

namespace BlockTable

variable (t : BlockTable)

def empty : BlockTable := ⟨[], List.nodup_nil, by simp⟩

def insert (row : BlockRow) : Option BlockTable :=
  if h : row ∉ t.rows ∧ row.blockerId ≠ row.blockedId then
    some
      { rows := row :: t.rows
        unique := List.nodup_cons.mpr ⟨h.1, t.unique⟩
        noSelf := List.forall_mem_cons.mpr ⟨h.2, t.noSelf⟩ }
  else none

def delete (row : BlockRow) : BlockTable where
  rows := t.rows.filter (· ≠ row)
  unique := t.unique.filter _
  noSelf row' hrow := t.noSelf row' (List.mem_of_mem_filter hrow)

end BlockTable

/-! ### The store -/

/-- What leaves the module: pushes to sockets and notifications. -/
inductive Outgoing
  | connectionUpdated (recipientUserId peerUserId : UserId) (connectionId : ConnectionId)
      (status : Option ConnectionStatus)
  | connectionRequestReceived (recipientUserId actorUserId : UserId) (connectionId : ConnectionId)
      (dedupeSalt : Option String)
  | connectionRequestAccepted (recipientUserId actorUserId : UserId) (connectionId : ConnectionId)
  | messagingBlock (blockerUserId blockedUserId : UserId) (blocked : Bool)
  deriving DecidableEq

structure World where
  connections : ConnectionTable := .empty
  /-- the connections that a conversation refers to -/
  linked : ConnectionId → Bool := fun _ => false
  blocks : BlockTable := .empty
  /-- `user:blocks:outgoing:{userId}` -/
  outgoing : UserId → Finset UserId := fun _ => ∅
  /-- `user:blocks:incoming:{userId}` -/
  incoming : UserId → Finset UserId := fun _ => ∅
  /-- `connectionPeers(userId)` -/
  connectionPeers : UserId → Finset UserId := fun _ => ∅
  /-- the ids that the database gives to new rows, one after the other -/
  uuids : ℕ → ConnectionId
  uuidsDrawn : ℕ := 0
  sent : List Outgoing := []

namespace World

variable (w : World)

def isBlockedBy (blockerId blockedId : UserId) : Bool :=
  w.blocks.rows.contains ⟨blockerId, blockedId⟩

def setConnections (connections : ConnectionTable) : World := { w with connections }

def setBlocks (blocks : BlockTable) : World := { w with blocks }

/-- The two are connected. -/
def Connected (a b : UserId) : Prop :=
  ∃ row ∈ w.connections.rows, row.isBetween a b ∧ row.status = .accepted

instance (a b : UserId) : Decidable (w.Connected a b) := inferInstanceAs (Decidable (∃ _ ∈ _, _))

end World

namespace Sample

def mia : UserId := ⟨"mia", by decide⟩
def noa : UserId := ⟨"noa", by decide⟩
def tie : ConnectionId := ⟨"tie", by decide⟩

/-- Nobody is connected yet, and the first connection will be `tie`. -/
def fresh : World where
  uuids := fun _ => tie

end Sample

/-- The order in which the database returns the rows of a query without an
`ORDER BY`. -/
structure Planner where
  arrange : List ConnectionRow → List ConnectionRow
  perm : ∀ rows, (arrange rows).Perm rows

def Planner.inOrder : Planner := ⟨id, fun _ => .refl _⟩

/-! ### Statements -/

inductive Cmd
  | isEitherBlocked (a b : UserId)
  | isBlockedBy (blockerId blockedId : UserId)
  | insertBlock (blockerId blockedId : UserId)
  | removeBlock (blockerId blockedId : UserId)
  | listBlockedUserIds (userId : UserId)
  | listBlockerUserIds (userId : UserId)
  | findAllBetween (a b : UserId)
  | findConnection (id : ConnectionId)
  | findAcceptedPeerIdColumns (userId : UserId)
  | updateStatusById (id : ConnectionId) (status : ConnectionStatus)
  | deleteById (id : ConnectionId)
  | setAsPendingRequest (id : ConnectionId) (requesterId addresseeId : UserId)
  | insertPendingRequest (requesterId addresseeId : UserId)
  | cancelAcceptedConnectionAsPeer (id : ConnectionId) (viewerId : UserId)
  | cancelPendingOutgoingRequest (id : ConnectionId) (requesterId : UserId)
  | redisAddUserBlock (blockerId blockedId : UserId)
  | redisRemoveUserBlock (blockerId blockedId : UserId)
  | redisReplaceUserBlocks (userId : UserId) (outgoing incoming : List UserId)
  | addPeer (userId peerUserId : UserId)
  | removePeer (userId peerUserId : UserId)
  | replacePeers (userId : UserId) (peerIds : List UserId)
  | send (message : Outgoing)

/-- An update or a deletion replies with the row it has found; the services do
not look at it. A write that an index, a check or a foreign key forbids throws. -/
@[reducible] def Cmd.Reply : Cmd → Type
  | .isEitherBlocked _ _ | .isBlockedBy _ _ | .insertBlock _ _ | .removeBlock _ _ => Bool
  | .listBlockedUserIds _ | .listBlockerUserIds _ => List UserId
  | .findAllBetween _ _ | .findAcceptedPeerIdColumns _ => List ConnectionRow
  | .findConnection _ => Option ConnectionRow
  | .updateStatusById _ _ => Option ConnectionRow
  | .deleteById _ | .setAsPendingRequest _ _ _ => Except Unit (Option ConnectionRow)
  | .insertPendingRequest _ _ => Option ConnectionId
  | .cancelAcceptedConnectionAsPeer _ _ => Option ConnectionRow
  | .cancelPendingOutgoingRequest _ _ => Option ConnectionRow
  | _ => Unit

namespace World

variable (w : World)

/-- The status of one row, if it satisfies `p`. -/
def updateStatus (id : ConnectionId) (p : ConnectionRow → Bool) (status : ConnectionStatus) :
    Option ConnectionRow × World :=
  ((w.connections.find id).filter p,
    w.setConnections (w.connections.setStatus (fun row => row.id = id && p row) status))

def insertConnection (requesterId addresseeId : UserId) : Option ConnectionId × World :=
  let id := w.uuids w.uuidsDrawn
  let w₁ := { w with uuidsDrawn := w.uuidsDrawn + 1 }
  match w.connections.insert ⟨id, requesterId, addresseeId, .pending⟩ with
  | none => (none, w₁)
  | some connections => (some id, w₁.setConnections connections)

def redirect (id : ConnectionId) (requesterId addresseeId : UserId) :
    Except Unit (Option ConnectionRow) × World :=
  match w.connections.redirect id requesterId addresseeId with
  | none => (.error (), w)
  | some connections => (.ok (w.connections.find id), w.setConnections connections)

end World

def exec (planner : Planner) : (c : Cmd) → World → c.Reply × World
  | .isEitherBlocked a b, w => (w.isBlockedBy a b || w.isBlockedBy b a, w)
  | .isBlockedBy blockerId blockedId, w => (w.isBlockedBy blockerId blockedId, w)
  | .insertBlock blockerId blockedId, w =>
      match w.blocks.insert ⟨blockerId, blockedId⟩ with
      | none => (false, w)
      | some blocks => (true, w.setBlocks blocks)
  | .removeBlock blockerId blockedId, w =>
      (w.isBlockedBy blockerId blockedId, w.setBlocks (w.blocks.delete ⟨blockerId, blockedId⟩))
  | .listBlockedUserIds userId, w =>
      ((w.blocks.rows.filter (·.blockerId = userId)).map (·.blockedId), w)
  | .listBlockerUserIds userId, w =>
      ((w.blocks.rows.filter (·.blockedId = userId)).map (·.blockerId), w)
  | .findAllBetween a b, w => (planner.arrange (w.connections.rows.filter (·.isBetween a b)), w)
  | .findConnection id, w => (w.connections.find id, w)
  | .findAcceptedPeerIdColumns userId, w =>
      (w.connections.rows.filter fun row =>
        row.status = .accepted && (row.requesterId = userId || row.addresseeId = userId), w)
  | .updateStatusById id status, w => w.updateStatus id (fun _ => true) status
  | .deleteById id, w =>
      if w.linked id then (.error (), w)
      else (.ok (w.connections.find id), w.setConnections (w.connections.delete id))
  | .setAsPendingRequest id requesterId addresseeId, w => w.redirect id requesterId addresseeId
  | .insertPendingRequest requesterId addresseeId, w => w.insertConnection requesterId addresseeId
  | .cancelAcceptedConnectionAsPeer id viewerId, w =>
      w.updateStatus id (fun row => row.requesterId = viewerId || row.addresseeId = viewerId)
        .cancelled
  | .cancelPendingOutgoingRequest id requesterId, w =>
      w.updateStatus id (·.requesterId = requesterId) .cancelled
  | .redisAddUserBlock blockerId blockedId, w =>
      ((), { w with
        outgoing := Function.update w.outgoing blockerId (insert blockedId (w.outgoing blockerId))
        incoming :=
          Function.update w.incoming blockedId (insert blockerId (w.incoming blockedId)) })
  | .redisRemoveUserBlock blockerId blockedId, w =>
      ((), { w with
        outgoing := Function.update w.outgoing blockerId ((w.outgoing blockerId).erase blockedId)
        incoming := Function.update w.incoming blockedId ((w.incoming blockedId).erase blockerId) })
  | .redisReplaceUserBlocks userId outgoing incoming, w =>
      ((), { w with
        outgoing := Function.update w.outgoing userId outgoing.toFinset
        incoming := Function.update w.incoming userId incoming.toFinset })
  | .addPeer userId peerUserId, w =>
      ((), { w with
        connectionPeers :=
          Function.update w.connectionPeers userId (insert peerUserId (w.connectionPeers userId)) })
  | .removePeer userId peerUserId, w =>
      ((), { w with
        connectionPeers :=
          Function.update w.connectionPeers userId ((w.connectionPeers userId).erase peerUserId) })
  | .replacePeers userId peerIds, w =>
      ((), { w with
        connectionPeers := Function.update w.connectionPeers userId peerIds.toFinset })
  | .send message, w => ((), { w with sent := w.sent ++ [message] })

theorem exec_deleteById (planner : Planner) (id : ConnectionId) (w : World) :
    (exec planner (.deleteById id) w).2 =
      if w.linked id then w else w.setConnections (w.connections.delete id) := by
  rw [exec]
  split <;> rfl

abbrev M := Prog Cmd Cmd.Reply

/-- What a caller has been told, newest first. -/
abbrev History := List (Told Cmd Cmd.Reply)

/-- The program that issues one statement. -/
abbrev issue (c : Cmd) : M c.Reply := Prog.perform c

end Greetup.Connections
