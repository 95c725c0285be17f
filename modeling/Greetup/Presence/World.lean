import Greetup.Profile.SnapshotCache
import Greetup.Matching.Types
import Mathlib.Data.List.AList

/-!
Who is online: the sockets of the users, the keys in Redis that are kept of
them, and the timers that run for users whose sockets have gone.

Times are milliseconds. A key with a TTL is there until its time is over, which
the clock decides when it moves on.
-/

namespace Greetup.Presence

open Interleaving (Prog)
open Matching (Text Host UserId)

abbrev SocketId := Text

/-- The payload of `user:connected` and `user:disconnected`. -/
structure Socket where
  socketId : SocketId
  userId : UserId
  ip : String
  deriving DecidableEq

/-- A field of a presence hash. -/
abbrev IpField := String

/-- The fallback makes the field of an unknown IP one of the socket's own. -/
def normalizeIpField [Host] (ip : Option String) (socketId : SocketId) : IpField :=
  let value := Matching.normalize (ip.getD "")
  if value = "" || value = "undefined" || value = "null" || value = "unknown" then
    "unknown:" ++ socketId.val
  else value

def Socket.ipField [Host] (socket : Socket) : IpField :=
  normalizeIpField (some socket.ip) socket.socketId

/-- A socket that there is or has been. -/
structure Connection where
  socket : Socket
  disconnectedAt : Option ℕ := none
  deriving DecidableEq

/-- A hash without fields is no key. -/
structure PresenceHash where
  fields : AList fun _ : IpField => SocketId := ∅
  expiresAt : ℕ := 0

/-! ### The index of those who are open to connect -/

/-- Activities have ids without commas or white space. -/
def IsActivityId (id : List Char) : Prop :=
  id ≠ [] ∧ ',' ∉ id ∧ ∀ c ∈ id, Matching.isWhiteSpace c = false

instance (id : List Char) : Decidable (IsActivityId id) := inferInstanceAs (Decidable (_ ∧ _))

abbrev ActivityId := { id : List Char // IsActivityId id }

structure OpenToConnectTags where
  userId : UserId
  activityIds : List ActivityId

/-- `activityIds.join(",")` -/
def joinActivityIds (activityIds : List ActivityId) : List Char :=
  [','].intercalate (activityIds.map (·.val))

def parseActivityIdsFromHash (raw : Option (List Char)) : List (List Char) :=
  match raw with
  | none => []
  | some raw =>
      if Matching.trimChars raw = [] then []
      else ((raw.splitOn ',').map Matching.trimChars).filter (· ≠ [])

structure OtcHash where
  activityIds : List Char
  expiresAt : ℕ

/-! ### Searching -/

inductive MatchStatus
  | idle
  | searching
  | proposed
  | matched
  deriving DecidableEq

structure MatchState where
  status : MatchStatus := .idle
  requestId : Option Text := none
  roomId : Option Text := none

/-- The status that is emitted when a socket connects. -/
def MatchState.restored (state : MatchState) : MatchStatus :=
  match state.status with
  | .searching => if state.requestId.isSome then .searching else .idle
  | .proposed => if state.requestId.isSome then .proposed else .idle
  | .matched => if state.roomId.isSome then .matched else .idle
  | .idle => .idle

structure Timer where
  id : ℕ
  userId : UserId
  setAt : ℕ
  deriving DecidableEq

/-! ### The world -/

structure World where
  now : ℕ := 0
  sockets : List Connection := []
  /-- `online_users:{userId}` -/
  presence : UserId → PresenceHash := fun _ => {}
  /-- `all_online_users` -/
  onlineUsers : List UserId := []
  /-- `user:last_seen:{userId}` -/
  userLastSeen : UserId → Option ℕ := fun _ => none
  /-- `otc:user:{userId}` -/
  otcUser : UserId → Option OtcHash := fun _ => none
  /-- `otc:online` -/
  otcOnline : List UserId := []
  /-- `otc:activity:{activityId}` -/
  otcActivity : List Char → List UserId := fun _ => []
  /-- the tags of the users who are open to connect, as the database has them -/
  tags : UserId → Option (List ActivityId) := fun _ => none
  profiles : Profile.ProfileWorld UserId (Option Text) Text := ⟨fun _ => none, fun _ => none⟩
  /-- of the matching engine -/
  matchState : UserId → MatchState := fun _ => {}
  timers : List Timer := []
  nextTimer : ℕ := 0
  gracePeriodTimers : UserId → Option ℕ := fun _ => none
  matchStateOnConnectLastAt : UserId → ℕ := fun _ => 0
  /-- the match states that were emitted -/
  emitted : List (UserId × MatchStatus) := []

/-- `60 * 1` -/
def presenceTtl : ℕ := 60 * 1000

/-- `OPEN_TO_CONNECT_USER_TTL_SEC` -/
def openToConnectUserTtl : ℕ := 120 * 1000

/-- `MATCH_GRACE_MS` -/
def matchGraceMs : ℕ := 12000

/-- `MATCH_STATE_ON_CONNECT_DEBOUNCE_MS` -/
def matchStateOnConnectDebounceMs : ℕ := 5000

namespace World

variable (w : World)

/-- The sockets in the room `user:{userId}`. -/
def socketsOf (userId : UserId) : List Connection :=
  w.sockets.filter fun c => c.socket.userId = userId && c.disconnectedAt.isNone

def Connected (userId : UserId) : Prop := w.socketsOf userId ≠ []

/-- `EXISTS` of the presence hash. -/
def isUserOnline (userId : UserId) : Bool := !(w.presence userId).fields.entries.isEmpty

def setPresence (userId : UserId) (hash : PresenceHash) : World :=
  { w with presence := Function.update w.presence userId hash }

def join (socket : Socket) : World := { w with sockets := { socket } :: w.sockets }

def leave (socket : Socket) : World :=
  { w with sockets := w.sockets.map fun c =>
      if c.socket = socket && c.disconnectedAt.isNone then { c with disconnectedAt := some w.now }
      else c }

/-- Time passes, and keys expire. -/
def elapse (ms : ℕ) : World :=
  { w with
    now := w.now + ms
    presence := fun userId =>
      if (w.presence userId).expiresAt ≤ w.now + ms then {} else w.presence userId
    otcUser := fun userId => (w.otcUser userId).filter fun hash => w.now + ms < hash.expiresAt }

/-- The transaction of `userConnected`. -/
def setOnline (userId : UserId) (ipField : IpField) (socketId : SocketId) (lastSeen : ℕ) : World :=
  { w.setPresence userId {
      fields := (["undefined", "null", ""].foldl (fun fields field => fields.erase field)
        (w.presence userId).fields).insert ipField socketId
      expiresAt := w.now + presenceTtl } with
    onlineUsers := w.onlineUsers.insert userId
    userLastSeen := Function.update w.userLastSeen userId (some lastSeen) }

/-- `EXPIRE` of the presence hash, which does nothing unless it is there. -/
def refreshPresence (userId : UserId) : World :=
  if w.isUserOnline userId then
    w.setPresence userId { w.presence userId with expiresAt := w.now + presenceTtl }
  else w

/-- `REMOVE_IP_IF_SOCKET_MATCHES` -/
def removeIpIfSocketMatches (userId : UserId) (ipField : IpField) (socketId : SocketId) :
    Bool × World :=
  if (w.presence userId).fields.lookup ipField = some socketId then
    (true, w.setPresence userId
      { w.presence userId with fields := (w.presence userId).fields.erase ipField })
  else (false, w)

/-- The transaction of `userDisconnected`. -/
def setOffline (userId : UserId) (lastSeen : ℕ) : World :=
  { w.setPresence userId {} with
    onlineUsers := w.onlineUsers.filter (· ≠ userId)
    userLastSeen := Function.update w.userLastSeen userId (some lastSeen) }

/-- The transaction of `syncUserToIndex`. -/
def indexUser (userId : UserId) (activityIds : List ActivityId) : World :=
  let hash : OtcHash := ⟨joinActivityIds activityIds, w.now + openToConnectUserTtl⟩
  { w with
    otcOnline := w.otcOnline.insert userId
    otcUser := Function.update w.otcUser userId (some hash)
    otcActivity := fun id =>
      if id ∈ activityIds.map (·.val) then (w.otcActivity id).insert userId
      else w.otcActivity id }

/-- The transaction of `removeUserFromIndex`. -/
def unindexUser (userId : UserId) (activityIds : List (List Char)) : World :=
  { w with
    otcOnline := w.otcOnline.filter (· ≠ userId)
    otcUser := Function.update w.otcUser userId none
    otcActivity := fun id =>
      if id ∈ activityIds then (w.otcActivity id).filter (· ≠ userId) else w.otcActivity id }

def refreshIndexed (userId : UserId) : World :=
  { w with
    otcUser := Function.update w.otcUser userId
      ((w.otcUser userId).map ({ · with expiresAt := w.now + openToConnectUserTtl })) }

/-- The timer of the user in the map is cleared, and the entry deleted. -/
def clearGracePeriod (userId : UserId) : World :=
  match w.gracePeriodTimers userId with
  | none => w
  | some id =>
      { w with
        timers := w.timers.filter (·.id ≠ id)
        gracePeriodTimers := Function.update w.gracePeriodTimers userId none }

/-- `setTimeout`, and the entry of the map. -/
def setGracePeriod (userId : UserId) : World :=
  { w with
    timers := ⟨w.nextTimer, userId, w.now⟩ :: w.timers
    nextTimer := w.nextTimer + 1
    gracePeriodTimers := Function.update w.gracePeriodTimers userId (some w.nextTimer) }

/-- A timer that is due runs its callback up to the call of
`cancelMatchService`, for the user that is returned. -/
def runTimer (id : ℕ) : Option UserId × World :=
  match w.timers.find? (·.id = id) with
  | none => (none, w)
  | some timer =>
      if timer.setAt + matchGraceMs ≤ w.now then
        (if (w.socketsOf timer.userId).length > 0 then none else some timer.userId,
          { w with
            timers := w.timers.filter (·.id ≠ id)
            gracePeriodTimers := Function.update w.gracePeriodTimers timer.userId none })
      else (none, w)

/-- `shouldSkipMatchStateRestore` -/
def shouldSkipMatchStateRestore (userId : UserId) : Bool × World :=
  if (w.socketsOf userId).length > 1 then (true, w)
  else if w.now - w.matchStateOnConnectLastAt userId < matchStateOnConnectDebounceMs then (true, w)
  else (false, { w with
    matchStateOnConnectLastAt := Function.update w.matchStateOnConnectLastAt userId w.now })

end World

/-! ### Commands -/

inductive Cmd
  | connection (socket : Socket)
  | disconnect (socket : Socket)
  | elapse (ms : ℕ)
  | setOnline (userId : UserId) (ipField : IpField) (socketId : SocketId) (lastSeen : ℕ)
  | existsPresence (userId : UserId)
  | expirePresence (userId : UserId)
  | removeIpIfSocketMatches (userId : UserId) (ipField : IpField) (socketId : SocketId)
  | hlen (userId : UserId)
  | setOffline (userId : UserId) (lastSeen : ℕ)
  | existsEach (userIds : List UserId)
  | sremOnlineUsers (userIds : List UserId)
  | buildTagsForUser (userId : UserId)
  | hgetActivityIds (userId : UserId)
  | indexUser (tags : OpenToConnectTags)
  | unindexUser (userId : UserId) (activityIds : List (List Char))
  | existsIndexed (userId : UserId)
  | expireIndexed (userId : UserId)
  | smembersIndexed (activityId : Option (List Char))
  | visibleEach (userIds : List UserId)
  | snapshot (c : Profile.SnapshotCmd UserId (Option Text) Text)
  | getUserMatchState (userId : UserId)
  | cancelMatch (userId : UserId)
  /-- The state of the user in the matching engine has become another. -/
  | matchState (userId : UserId) (state : MatchState)
  | cancelGracePeriod (userId : UserId)
  | setGracePeriod (userId : UserId)
  | runTimer (id : ℕ)
  | shouldSkipMatchStateRestore (userId : UserId)
  | emitMatchState (userId : UserId) (status : MatchStatus)

@[reducible] def Cmd.Reply : Cmd → Type
  | .connection _ | .disconnect _ | .hlen _ => ℕ
  | .existsPresence _ | .removeIpIfSocketMatches _ _ _ | .existsIndexed _ => Bool
  | .existsEach _ => List Bool
  | .buildTagsForUser _ => Option OpenToConnectTags
  | .hgetActivityIds _ => Option (List Char)
  | .smembersIndexed _ => List UserId
  | .visibleEach _ => List (Bool × Bool)
  | .snapshot c => c.Reply
  | .getUserMatchState _ => MatchState
  | .runTimer _ => Option UserId
  | .shouldSkipMatchStateRestore _ => Bool
  | _ => Unit

def exec : (c : Cmd) → World → c.Reply × World
  | .connection socket, w => (w.now, w.join socket)
  | .disconnect socket, w => (w.now, w.leave socket)
  | .elapse ms, w => ((), w.elapse ms)
  | .setOnline userId ipField socketId lastSeen, w =>
      ((), w.setOnline userId ipField socketId lastSeen)
  | .existsPresence userId, w => (w.isUserOnline userId, w)
  | .expirePresence userId, w => ((), w.refreshPresence userId)
  | .removeIpIfSocketMatches userId ipField socketId, w =>
      w.removeIpIfSocketMatches userId ipField socketId
  | .hlen userId, w => ((w.presence userId).fields.entries.length, w)
  | .setOffline userId lastSeen, w => ((), w.setOffline userId lastSeen)
  | .existsEach userIds, w => (userIds.map w.isUserOnline, w)
  | .sremOnlineUsers userIds, w =>
      ((), { w with onlineUsers := w.onlineUsers.filter fun userId => !userIds.contains userId })
  | .buildTagsForUser userId, w => ((w.tags userId).map (⟨userId, ·⟩), w)
  | .hgetActivityIds userId, w => ((w.otcUser userId).map (·.activityIds), w)
  | .indexUser tags, w => ((), w.indexUser tags.userId tags.activityIds)
  | .unindexUser userId activityIds, w => ((), w.unindexUser userId activityIds)
  | .existsIndexed userId, w => ((w.otcUser userId).isSome, w)
  | .expireIndexed userId, w => ((), w.refreshIndexed userId)
  | .smembersIndexed none, w => (w.otcOnline, w)
  | .smembersIndexed (some activityId), w => (w.otcActivity activityId, w)
  | .visibleEach userIds, w =>
      (userIds.map fun userId => (w.isUserOnline userId, (w.otcUser userId).isSome), w)
  | .snapshot c, w => ((Profile.execSnapshot id c w.profiles).1,
      { w with profiles := (Profile.execSnapshot id c w.profiles).2 })
  | .getUserMatchState userId, w => (w.matchState userId, w)
  | .cancelMatch userId, w =>
      ((), { w with matchState := Function.update w.matchState userId {} })
  | .matchState userId state, w =>
      ((), { w with matchState := Function.update w.matchState userId state })
  | .cancelGracePeriod userId, w => ((), w.clearGracePeriod userId)
  | .setGracePeriod userId, w => ((), w.setGracePeriod userId)
  | .runTimer id, w => w.runTimer id
  | .shouldSkipMatchStateRestore userId, w => w.shouldSkipMatchStateRestore userId
  | .emitMatchState userId status, w => ((), { w with emitted := (userId, status) :: w.emitted })

abbrev M := Prog Cmd Cmd.Reply

abbrev issue (c : Cmd) : M c.Reply := Prog.perform c

end Greetup.Presence
