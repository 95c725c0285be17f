import Greetup.OpenToConnect.RequestTable
import Greetup.Matching.Orchestrator
import Greetup.Rooms.Access
import Greetup.Interleaving.Expansion

/-!
Requests to connect: how a request comes about, and what becomes of it.

The requester cancels it, or the target rejects or accepts it. Whoever decides
looks at the request first and writes the decision last, on the condition that
the request is still pending then; a room is set up in between.
-/

namespace Greetup.OpenToConnect

open Interleaving (Prog)
open Matching (Text UserMatchState)
open Rooms (UserId RoomId)

inductive RequestError
  | requestNotFound
  | noLongerPending
  | requestExpired
  | inCall (label : String)
  | matchCategoryNotConfigured
  | yourself
  | blocked
  | notOpen
  | matchEngineUnavailable
  | declinedRecently
  | alreadyPending
  | tooManyPending
  | tooManyRequests
  | constraintViolated
  | userNotFound
  deriving DecidableEq

structure ConnectRequestPeer where
  userId : UserId
  username : String
  displayName : Option String := none
  name : String
  image : Option String := none
  deriving DecidableEq

structure ActivityTag where
  activityId : Text
  name : String
  displayName : String
  emoji : Option String := none
  detail : Option String := none
  deriving DecidableEq

structure ConnectRequesterPreview where
  headline : Option String := none
  activities : List ActivityTag := []
  lookingFor : List String := []
  profession : Option String := none
  sharedInterests : List String := []
  deriving DecidableEq

structure ConnectRequestItem where
  row : ConnectRequest
  peer : ConnectRequestPeer
  requesterPreview : Option ConnectRequesterPreview := none
  deriving DecidableEq

inductive RequestEvent
  | requestReceived (row : ConnectRequest) (requester : ConnectRequestPeer)
      (requesterPreview : ConnectRequesterPreview)
  | requestResponded (requestId : ConnectRequestId) (accepted : Bool) (roomId : Option RoomId)
      (peerUserId : UserId)
  | requestCancelled (requestId : ConnectRequestId)

/-! ### The world -/

structure OtcWorld where
  rooms : Rooms.World := {}
  requests : RequestTable := .empty
  /-- `attemptId` and `pairId` of `room:{id}` -/
  attemptId : RoomId → Option ConnectRequestId := fun _ => none
  /-- of the matching engine -/
  matchState : UserId → UserMatchState := fun _ => .idle
  /-- The matching engine answers a cancellation. -/
  matchEngine : Bool := true
  /-- the category `match` is active -/
  matchCategory : Bool := true
  /-- One of the two has blocked the other. -/
  eitherBlocked : UserId → UserId → Bool := fun _ _ => false
  /-- `otc:rate:outbound:{userId}` -/
  outboundCount : UserId → ℕ := fun _ => 0
  users : UserId → Option ConnectRequestPeer := fun _ => none
  /-- what `buildConnectRequesterPreview` finds of the requester for the target -/
  previews : UserId → UserId → ConnectRequesterPreview := fun _ _ => {}
  emitted : List (UserId × RequestEvent) := []

/-- `CONNECT_REQUEST_TTL_MS` -/
def connectRequestTtlMs : ℤ := 5 * 60 * 1000

/-- `CONNECT_REQUEST_OUTBOUND_RATE_LIMIT` -/
def connectRequestOutboundRateLimit : ℕ := 10

/-- `CONNECT_REQUEST_REJECT_COOLDOWN_MS` -/
def connectRequestRejectCooldownMs : ℤ := 15 * 60 * 1000

/-- A live room of the two, in one transaction. -/
def createMatchPairRoom (w : Rooms.World) (roomId : RoomId) (hostUserId peerUserId : UserId) :
    Rooms.World :=
  let room : Rooms.RoomRow :=
    { id := roomId, hostUserId, title := "Match", visibility := .private_, maxParticipants := 2
      status := .live, startedAt := some w.clock, rtcRoomId := some roomId
      advancedOptions := Rooms.mergeRoomAdvancedOptions {}
      roomType := .direct, sessionKind := .match_ }
  ((w.setRooms (w.rooms.insert room id Rooms.World.roomKey_id)).insertParticipant
    ⟨roomId, hostUserId, .host, none⟩ id Rooms.World.participantKey_id).insertParticipant
      ⟨roomId, peerUserId, .participant, none⟩ id Rooms.World.participantKey_id

namespace OtcWorld

variable (w : OtcWorld)

/-- Whether a row was updated is all that is looked at of it. -/
def respond (requestId : ConnectRequestId) (outcome : RequestOutcome) (roomId : Option RoomId) :
    Bool × OtcWorld :=
  ((w.requests.find requestId).any (·.status = .pending),
    { w with requests := w.requests.respond requestId outcome roomId w.rooms.clock })

def createPending (requesterUserId targetUserId : UserId) (message : Option String)
    (expiresAt : ℤ) : Option ConnectRequest × OtcWorld :=
  match w.requests.createPending requesterUserId targetUserId message expiresAt w.rooms.clock with
  | none => (none, w)
  | some (row, requests) => (some row, { w with requests })

/-- Both hashes are there. -/
def isUserVisibleInDiscovery (userId : UserId) : Bool :=
  w.rooms.online userId && w.rooms.discoverable userId

/-- The window of the counter is over when it is zero again. -/
def consumeRateLimit (userId : UserId) (limit : ℕ) : Bool × OtcWorld :=
  let count := w.outboundCount userId + 1
  (decide (count ≤ limit), { w with outboundCount := Function.update w.outboundCount userId count })

def hsetMatchRoom (roomId : RoomId) (requestId : ConnectRequestId) (userA userB : UserId) :
    OtcWorld :=
  let session : Rooms.SessionRoom :=
    { sessionKind := some .match_, roomId := some roomId, userA := some userA, userB := some userB
      openToConnectOrigin := some true }
  { w with
    rooms := w.rooms.setSessionRoom roomId
      (some (((w.rooms.sessionRooms roomId).getD {}).hset session))
    attemptId := Function.update w.attemptId roomId (some requestId) }

end OtcWorld

/-! ### Commands -/

inductive OtcCmd
  | rooms (c : Rooms.Cmd)
  | findById (requestId : ConnectRequestId)
  | respond (requestId : ConnectRequestId) (outcome : RequestOutcome) (roomId : Option RoomId)
  | findRecentRejected (requesterUserId targetUserId : UserId) (since : ℤ)
  | findPendingBetween (requesterUserId targetUserId : UserId)
  | countInboundPending (targetUserId : UserId) (now : ℤ)
  | createPending (requesterUserId targetUserId : UserId) (message : Option String)
      (expiresAt : ℤ)
  | listInboundPending (targetUserId : UserId) (now : ℤ)
  | listOutboundRecent (requesterUserId : UserId) (limit : ℕ)
  | isEitherBlocked (userA userB : UserId)
  | isUserVisibleInDiscovery (userId : UserId)
  | consumeRateLimit (userId : UserId) (limit : ℕ)
  | loadPeersByUserIds (userIds : List UserId)
  | buildConnectRequesterPreview (requesterUserId targetUserId : UserId)
  | cancelMatch (userId : UserId)
  | getUserMatchState (userId : UserId)
  | hasMatchCategory
  | createMatchPairRoom (roomId : RoomId) (hostUserId peerUserId : UserId)
  | hsetMatchRoom (roomId : RoomId) (requestId : ConnectRequestId) (userA userB : UserId)
  /-- The hash gets its TTL. -/
  | expireMatchRoom (roomId : RoomId)
  | emit (userId : UserId) (event : RequestEvent)

@[reducible] def OtcCmd.Reply : OtcCmd → Type
  | .rooms c => c.Reply
  | .findById _ => Option ConnectRequest
  | .respond _ _ _ => Bool
  | .findRecentRejected _ _ _ => Option ConnectRequest
  | .findPendingBetween _ _ => Option ConnectRequest
  | .countInboundPending _ _ => ℕ
  | .createPending _ _ _ _ => Option ConnectRequest
  | .listInboundPending _ _ => List ConnectRequest
  | .listOutboundRecent _ _ => List ConnectRequest
  | .isEitherBlocked _ _ => Bool
  | .isUserVisibleInDiscovery _ => Bool
  | .consumeRateLimit _ _ => Bool
  | .loadPeersByUserIds _ => UserId → Option ConnectRequestPeer
  | .buildConnectRequesterPreview _ _ => ConnectRequesterPreview
  | .cancelMatch _ => Bool
  | .getUserMatchState _ => UserMatchState
  | .hasMatchCategory => Bool
  | _ => Unit

variable (planner : Rooms.Planner)

def execOtc : (c : OtcCmd) → OtcWorld → c.Reply × OtcWorld
  | .rooms c, w => ((Rooms.exec planner c w.rooms).1,
      { w with rooms := (Rooms.exec planner c w.rooms).2 })
  | .findById requestId, w => (w.requests.find requestId, w)
  | .respond requestId outcome roomId, w => w.respond requestId outcome roomId
  | .findRecentRejected requesterUserId targetUserId since, w =>
      (w.requests.findRecentRejected requesterUserId targetUserId since, w)
  | .findPendingBetween requesterUserId targetUserId, w =>
      (w.requests.findPendingBetween requesterUserId targetUserId, w)
  | .countInboundPending targetUserId now, w => (w.requests.countInboundPending targetUserId now, w)
  | .createPending requesterUserId targetUserId message expiresAt, w =>
      w.createPending requesterUserId targetUserId message expiresAt
  | .listInboundPending targetUserId now, w => (w.requests.listInboundPending targetUserId now, w)
  | .listOutboundRecent requesterUserId limit, w =>
      (w.requests.listOutboundRecent requesterUserId limit, w)
  | .isEitherBlocked userA userB, w => (w.eitherBlocked userA userB, w)
  | .isUserVisibleInDiscovery userId, w => (w.isUserVisibleInDiscovery userId, w)
  | .consumeRateLimit userId limit, w => w.consumeRateLimit userId limit
  | .loadPeersByUserIds userIds, w =>
      (fun userId => if userId ∈ userIds then w.users userId else none, w)
  | .buildConnectRequesterPreview requesterUserId targetUserId, w =>
      (w.previews requesterUserId targetUserId, w)
  | .cancelMatch userId, w =>
      (w.matchEngine, { w with
        matchState := if w.matchEngine then Function.update w.matchState userId .idle
          else w.matchState })
  | .getUserMatchState userId, w => (w.matchState userId, w)
  | .hasMatchCategory, w => (w.matchCategory, w)
  | .createMatchPairRoom roomId hostUserId peerUserId, w =>
      ((), { w with
        rooms := OpenToConnect.createMatchPairRoom w.rooms roomId hostUserId peerUserId })
  | .hsetMatchRoom roomId requestId userA userB, w =>
      ((), w.hsetMatchRoom roomId requestId userA userB)
  | .expireMatchRoom _, w => ((), w)
  | .emit userId event, w => ((), { w with emitted := (userId, event) :: w.emitted })

abbrev OtcM := Prog OtcCmd OtcCmd.Reply

abbrev issueOtc (c : OtcCmd) : OtcM c.Reply := Prog.perform c

def lift {α : Type} (p : Rooms.M α) : OtcM α := p.expand fun c => issueOtc (.rooms c)

/-! ### The services -/

/-- The two reads do not wait for each other; nothing here changes what they read. -/
def assertUserNotBusy (userId : UserId) (label : String) : OtcM (Except RequestError Unit) := do
  let matchState ← issueOtc (.getUserMatchState userId)
  let activeRoomId ← issueOtc (.rooms (.getUserActiveRtcRoom userId))
  match matchState, activeRoomId with
  | .matched _ _, _ | _, some _ => return .error (.inCall label)
  | _, _ => return .ok ()

def provisionOpenToConnectRoom (requesterUserId targetUserId : UserId)
    (connectRequestId : ConnectRequestId) : OtcM (Except RequestError RoomId) := do
  if ← issueOtc .hasMatchCategory then
    let roomId ← issueOtc (.rooms .randomUUID)
    issueOtc (.createMatchPairRoom roomId requesterUserId targetUserId)
    lift (Rooms.syncGuestMatchRoomSessionCap roomId)
    issueOtc (.hsetMatchRoom roomId connectRequestId requesterUserId targetUserId)
    issueOtc (.expireMatchRoom roomId)
    return .ok roomId
  else return .error .matchCategoryNotConfigured

def rejectRequest (row : ConnectRequest) (requestId : ConnectRequestId) :
    OtcM (Except RequestError (Option RoomId)) := do
  if ← issueOtc (.respond requestId .rejected none) then
    issueOtc (.emit row.requesterUserId
      (.requestResponded requestId false none row.targetUserId))
    return .ok none
  else return .error .noLongerPending

/-- The decision is written, with the room that has been set up for it. -/
def acceptIn (row : ConnectRequest) (requestId : ConnectRequestId) (roomId : RoomId) :
    OtcM (Except RequestError (Option RoomId)) := do
  if ← issueOtc (.respond requestId .accepted (some roomId)) then
    issueOtc (.emit row.requesterUserId
      (.requestResponded requestId true (some roomId) row.targetUserId))
    issueOtc (.emit row.targetUserId
      (.requestResponded requestId true (some roomId) row.requesterUserId))
    return .ok (some roomId)
  else return .error .noLongerPending

def acceptRequest (row : ConnectRequest) (requestId : ConnectRequestId) :
    OtcM (Except RequestError (Option RoomId)) := do
  match ← provisionOpenToConnectRoom row.requesterUserId row.targetUserId requestId with
  | .error error => return .error error
  | .ok roomId => acceptIn row requestId roomId

/-- What follows once the request is known to be pending and not expired. -/
def decideRequest (row : ConnectRequest) (requestId : ConnectRequestId) (accept : Bool) :
    OtcM (Except RequestError (Option RoomId)) := do
  match ← assertUserNotBusy row.targetUserId "You" with
  | .error error => return .error error
  | .ok _ =>
      match ← assertUserNotBusy row.requesterUserId "They" with
      | .error error => return .error error
      | .ok _ => if accept then acceptRequest row requestId else rejectRequest row requestId

def respondUnlessExpired (row : ConnectRequest) (requestId : ConnectRequestId) (accept : Bool) :
    OtcM (Except RequestError (Option RoomId)) := do
  let now ← issueOtc (.rooms .now)
  if row.expiresAt ≤ now then
    let _ ← issueOtc (.respond requestId .expired none)
    return .error .requestExpired
  else decideRequest row requestId accept

def respondConnectRequestService (targetUserId : UserId) (requestId : ConnectRequestId)
    (accept : Bool) : OtcM (Except RequestError (Option RoomId)) := do
  match ← issueOtc (.findById requestId) with
  | none => return .error .requestNotFound
  | some row =>
      if row.targetUserId ≠ targetUserId then return .error .requestNotFound
      else if row.status ≠ .pending then return .error .noLongerPending
      else respondUnlessExpired row requestId accept

def cancelPending (row : ConnectRequest) (requestId : ConnectRequestId) :
    OtcM (Except RequestError (Option RoomId)) := do
  if ← issueOtc (.respond requestId .cancelled none) then
    issueOtc (.emit row.targetUserId (.requestCancelled requestId))
    return .ok none
  else return .error .noLongerPending

/-- It returns nothing. -/
def cancelConnectRequestService (requesterUserId : UserId) (requestId : ConnectRequestId) :
    OtcM (Except RequestError (Option RoomId)) := do
  match ← issueOtc (.findById requestId) with
  | none => return .error .requestNotFound
  | some row =>
      if row.requesterUserId ≠ requesterUserId then return .error .requestNotFound
      else if row.status ≠ .pending then return .error .noLongerPending
      else cancelPending row requestId

/-! ### Creating -/

/-- What follows is only done if nothing was thrown. -/
def andThen {α β : Type} (p : OtcM (Except RequestError α))
    (f : α → OtcM (Except RequestError β)) : OtcM (Except RequestError β) := do
  match ← p with
  | .error error => return .error error
  | .ok a => f a

def throwIf (refused : Bool) (error : RequestError) : OtcM (Except RequestError Unit) :=
  return if refused then .error error else .ok ()

def assertNotBlocked (requesterUserId targetUserId : UserId) :
    OtcM (Except RequestError Unit) := do
  throwIf (← issueOtc (.isEitherBlocked requesterUserId targetUserId)) .blocked

def assertTargetIsOpen (targetUserId : UserId) : OtcM (Except RequestError Unit) := do
  throwIf (!(← issueOtc (.isUserVisibleInDiscovery targetUserId))) .notOpen

/-- The room is cleared in either case. -/
def cancelMatchService (userId : UserId) : OtcM (Except RequestError Unit) := do
  let cancelled ← issueOtc (.cancelMatch userId)
  issueOtc (.rooms (.clearUserActiveRtcRoom userId))
  throwIf (!cancelled) .matchEngineUnavailable

def stopSearching (requesterUserId : UserId) : OtcM (Except RequestError Unit) := do
  match ← issueOtc (.getUserMatchState requesterUserId) with
  | .searching _ | .proposed _ _ _ _ => cancelMatchService requesterUserId
  | _ => return .ok ()

def assertNotDeclined (requesterUserId targetUserId : UserId) :
    OtcM (Except RequestError Unit) := do
  let now ← issueOtc (.rooms .now)
  let recentReject ← issueOtc (.findRecentRejected requesterUserId targetUserId
    (now - connectRequestRejectCooldownMs))
  throwIf recentReject.isSome .declinedRecently

def assertNonePending (requesterUserId targetUserId : UserId) :
    OtcM (Except RequestError Unit) := do
  throwIf (← issueOtc (.findPendingBetween requesterUserId targetUserId)).isSome .alreadyPending

def assertInboxNotFull (targetUserId : UserId) : OtcM (Except RequestError Unit) := do
  let now ← issueOtc (.rooms .now)
  let inboundCount ← issueOtc (.countInboundPending targetUserId now)
  throwIf (RequestTable.connectRequestMaxInboundPending ≤ inboundCount) .tooManyPending

def assertOutboundRateLimit (requesterUserId : UserId) : OtcM (Except RequestError Unit) := do
  let allowed ← issueOtc (.consumeRateLimit requesterUserId connectRequestOutboundRateLimit)
  throwIf (!allowed) .tooManyRequests

structure CreateConnectRequestBody where
  /-- without the white space around it -/
  targetUserId : UserId
  message : Option String := none

def CreateConnectRequestBody.trimmedMessage (body : CreateConnectRequestBody) : Option String :=
  match body.message with
  | none => none
  | some message => if Matching.trim message = "" then none else some (Matching.trim message)

/-- The target is told. -/
def announce (row : ConnectRequest) : OtcM (Except RequestError ConnectRequestItem) := do
  let peers ← issueOtc (.loadPeersByUserIds [row.targetUserId, row.requesterUserId])
  match peers row.requesterUserId, peers row.targetUserId with
  | some requester, some target => do
      let requesterPreview ←
        issueOtc (.buildConnectRequesterPreview row.requesterUserId row.targetUserId)
      issueOtc (.emit row.targetUserId (.requestReceived row requester requesterPreview))
      return .ok { row, peer := target }
  | _, _ => return .error .userNotFound

def insertPending (requesterUserId : UserId) (body : CreateConnectRequestBody) :
    OtcM (Except RequestError ConnectRequestItem) := do
  let now ← issueOtc (.rooms .now)
  match ← issueOtc (.createPending requesterUserId body.targetUserId body.trimmedMessage
      (now + connectRequestTtlMs)) with
  | none => return .error .constraintViolated
  | some row => announce row

def createConnectRequestService (requesterUserId : UserId) (body : CreateConnectRequestBody) :
    OtcM (Except RequestError ConnectRequestItem) :=
  let targetUserId := body.targetUserId
  andThen (throwIf (targetUserId = requesterUserId) .yourself) fun _ =>
  andThen (assertNotBlocked requesterUserId targetUserId) fun _ =>
  andThen (assertUserNotBusy requesterUserId "You") fun _ =>
  andThen (assertUserNotBusy targetUserId "They") fun _ =>
  andThen (assertTargetIsOpen targetUserId) fun _ =>
  andThen (stopSearching requesterUserId) fun _ =>
  andThen (assertNotDeclined requesterUserId targetUserId) fun _ =>
  andThen (assertNonePending requesterUserId targetUserId) fun _ =>
  andThen (assertInboxNotFull targetUserId) fun _ =>
  andThen (assertOutboundRateLimit requesterUserId) fun _ =>
  insertPending requesterUserId body

/-! ### Listing -/

/-- One item for each row whose requester there is. -/
def inboundItems (targetUserId : UserId) (peers : UserId → Option ConnectRequestPeer) :
    List ConnectRequest → OtcM (List ConnectRequestItem)
  | [] => return []
  | row :: rows => do
      match peers row.requesterUserId with
      | none => inboundItems targetUserId peers rows
      | some peer => do
          let requesterPreview ←
            issueOtc (.buildConnectRequesterPreview row.requesterUserId targetUserId)
          let items ← inboundItems targetUserId peers rows
          return { row, peer, requesterPreview := some requesterPreview } :: items

def listInboundConnectRequestsService (targetUserId : UserId) : OtcM (List ConnectRequestItem) := do
  let now ← issueOtc (.rooms .now)
  let rows ← issueOtc (.listInboundPending targetUserId now)
  let peers ← issueOtc (.loadPeersByUserIds (rows.map (·.requesterUserId)))
  inboundItems targetUserId peers rows

def listOutboundConnectRequestsService (requesterUserId : UserId) :
    OtcM (List ConnectRequestItem) := do
  let rows ← issueOtc (.listOutboundRecent requesterUserId 20)
  let peers ← issueOtc (.loadPeersByUserIds (rows.map (·.targetUserId)))
  return rows.filterMap fun row => (peers row.targetUserId).map fun peer => { row, peer }

end Greetup.OpenToConnect
