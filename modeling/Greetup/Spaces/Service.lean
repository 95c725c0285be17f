import Greetup.Spaces.World

/-!
The services: creating a space, editing and cancelling a scheduled one, inviting
somebody to a live room, and telling of all that.
-/

namespace Greetup.Spaces

open Interleaving
open Interleaving.Prog
open Matching (Host Text trim)
open Rooms (UserId RoomId RoomStatus RoomType RoomVisibility mergeRoomAdvancedOptions)

/-! ### Notifications -/

/-- Insert notification row; emit realtime event when a row was created. -/
def dispatchNotification (input : CreateNotificationInput) : SpaceM Unit := do
  match ← issue (.createNotification input) with
  | some created => issue (.emitToUser input.recipientUserId created)
  | none => return ()

def dispatchNotificationWithActor (actorUserId : UserId) (nameFallback : String)
    (build : String → CreateNotificationInput) : SpaceM Unit := do
  let actorName ← issue (.findActorSnapshotByUserId actorUserId)
  dispatchNotification (build (actorName.getD nameFallback))

/-- Client route for joining a space room from a notification. -/
def spaceRoomNotificationDeepLink (roomId : RoomId) : String := "/space/" ++ roomId.val

def spaceInviteReceived (recipientUserId actorUserId : UserId) (roomId : RoomId)
    (roomTitle actorName : String) : CreateNotificationInput where
  recipientUserId := recipientUserId
  actorUserId := actorUserId
  type := .spaceInviteReceived
  entityId := roomId
  title := "Space invite"
  body := actorName ++ " invited you to \"" ++ roomTitle ++ "\"."
  deepLink := spaceRoomNotificationDeepLink roomId
  dedupeKey := .spaceInviteReceived roomId recipientUserId

def notifySpaceInviteReceived (recipientUserId actorUserId : UserId) (roomId : RoomId)
    (roomTitle : String) : SpaceM Unit :=
  dispatchNotificationWithActor actorUserId "Someone"
    (spaceInviteReceived recipientUserId actorUserId roomId roomTitle)

def spaceStarted (recipientUserId actorUserId : UserId) (roomId : RoomId)
    (roomTitle actorName : String) : CreateNotificationInput where
  recipientUserId := recipientUserId
  actorUserId := actorUserId
  type := .spaceStarted
  entityId := roomId
  title := "Space is live"
  body := actorName ++ " started \"" ++ roomTitle ++ "\". Tap to join."
  deepLink := spaceRoomNotificationDeepLink roomId
  dedupeKey := .spaceStarted roomId recipientUserId

def notifySpaceStarted (recipientUserId actorUserId : UserId) (roomId : RoomId)
    (roomTitle : String) : SpaceM Unit :=
  dispatchNotificationWithActor actorUserId "Host"
    (spaceStarted recipientUserId actorUserId roomId roomTitle)

def connectionRequestReceived (recipientUserId actorUserId : UserId) (connectionId : Text)
    (dedupeSalt : Option String) (actorName : String) : CreateNotificationInput where
  recipientUserId := recipientUserId
  actorUserId := actorUserId
  type := .connectionRequestReceived
  entityId := connectionId
  title := "New connection request"
  body := actorName ++ " sent you a connection request."
  deepLink := "/connections?filter=pending_incoming"
  dedupeKey := .connectionRequestReceived connectionId recipientUserId
    (dedupeSalt.getD "default")

def notifyConnectionRequestReceived (recipientUserId actorUserId : UserId) (connectionId : Text)
    (dedupeSalt : Option String) : SpaceM Unit :=
  dispatchNotificationWithActor actorUserId "Someone"
    (connectionRequestReceived recipientUserId actorUserId connectionId dedupeSalt)

def connectionRequestAccepted (recipientUserId actorUserId : UserId) (connectionId : Text)
    (actorName : String) : CreateNotificationInput where
  recipientUserId := recipientUserId
  actorUserId := actorUserId
  type := .connectionRequestAccepted
  entityId := connectionId
  title := "Connection accepted"
  body := actorName ++ " accepted your connection request."
  deepLink := "/connections?filter=accepted"
  dedupeKey := .connectionRequestAccepted connectionId recipientUserId

def notifyConnectionRequestAccepted (recipientUserId actorUserId : UserId) (connectionId : Text) :
    SpaceM Unit :=
  dispatchNotificationWithActor actorUserId "Someone"
    (connectionRequestAccepted recipientUserId actorUserId connectionId)

/-- Notifies everyone tied to the space when it goes live. The order in which
what is awaited together makes progress is left to `turns`. -/
def notifySpaceStartedToAssociatedUsers (roomId : RoomId) (hostUserId : UserId)
    (roomTitle : String) (turns : List ℕ) : SpaceM Unit := do
  match ← together turns [issue (.listActiveFriendInviteeUserIds roomId),
      issue (.listActiveParticipantUserIds roomId)] with
  | [inviteeUserIds, participantUserIds] =>
    let recipientUserIds :=
      collectSpaceStartedRecipientUserIds hostUserId inviteeUserIds participantUserIds
    let _ ← together turns (recipientUserIds.map fun recipientUserId =>
      notifySpaceStarted recipientUserId hostUserId roomId roomTitle)
  | _ => return ()

/-! ### Invitees -/

/-- User ids with whom the user has an accepted connection, either direction. -/
def getAcceptedPeerIdsForUser (userId : UserId) : SpaceM (List UserId) := do
  let rows ← issue (.findAcceptedPeerIdColumns userId)
  return rows.map fun row => if row.1 = userId then row.2 else row.1

def resolveValidatedInviteeIds (hostUserId : UserId) (invitedUserIds : List String) :
    SpaceM (Except SpaceError (List UserId)) := do
  let unique := normalizeInviteeIds hostUserId invitedUserIds
  if unique = [] then return .ok []
  else
    let peerIds ← getAcceptedPeerIdsForUser hostUserId
    if unique.all peerIds.contains then return .ok unique
    else return .error (createSpaceError "You can only invite users you are connected with"
      .invalidInvitees)

/-- The preferences of a user, as the map has them. -/
def preferencesOf (prefs : UserId → Option RoomInvitePreferences) (userId : UserId) :
    RoomInvitePreferences :=
  (prefs userId).getD .default

def assertInviteesAllowRoomInvitesFromHost (hostUserId : UserId) (inviteeIds : List UserId) :
    SpaceM (Except SpaceError Unit) := do
  if inviteeIds = [] then return .ok ()
  else
    let prefs ← issue (.getRoomInvitePreferencesForUsers inviteeIds)
    if inviteeIds.all fun id => canHostInviteUserToRoom hostUserId (preferencesOf prefs id) then
      return .ok ()
    else return .error (createSpaceError
      ("One or more people do not allow room invites from you. Change who can invite them in " ++
        "Profile, or remove them from the invite list.") .inviteeRestrictedRoomInvites)

/-! ### Creating -/

structure CreatedSpace where
  room : SpaceRow
  friendInvitesCreated : ℕ

def provisionIfLive (row : SpaceRow) (session : SpaceSession) : SpaceM Unit :=
  if row.status = .live then issue (.provisionSessionRoomRedis row.id session) else return ()

/-- The invitees of a space that is live hear that it has started. -/
def tellInvitees (hostUserId : UserId) (row : SpaceRow) (roomTitle : String)
    (inviteeIds : List UserId) (turns : List ℕ) : SpaceM Unit :=
  if inviteeIds = [] then return ()
  else if row.status = .live then
    notifySpaceStartedToAssociatedUsers row.id hostUserId roomTitle turns
  else do
    let _ ← together turns (inviteeIds.map fun inviteeUserId =>
      notifySpaceInviteReceived inviteeUserId hostUserId row.id roomTitle)

/-- What is left when the request has passed its checks. -/
def writeSpace (hostUserId : UserId) (body : CreateSpaceBody) (code : String) (turns : List ℕ)
    (now : ℤ) (inviteeIds : List UserId) : SpaceM CreatedSpace := do
  let isInstant := body.scheduleMode = .instant
  let advancedOptions := mergeRoomAdvancedOptions body.advancedOptions
  let roomType := body.roomType.getD .space
  let row ← issue (.createRoomWithHostAndInvites
    { categoryId := body.categoryId, hostUserId, title := body.title
      description := body.description, visibility := body.visibility
      maxParticipants := body.maxParticipants
      scheduledStartAt := if body.scheduleMode = .scheduled then body.scheduledStartAt else none
      scheduledEndAt := body.scheduledEndAt
      status := if isInstant then .live else .scheduled
      startedAt := if isInstant then some now else none
      inviteCode := if body.visibility = .private_ then some code else none
      advancedOptions, inviteeUserIds := inviteeIds, roomType })
  provisionIfLive row
    ⟨hostUserId, roomType, trim body.title, advancedOptions.shouldHostStartMeeting ≠ some false⟩
  tellInvitees hostUserId row (trim body.title) inviteeIds turns
  return ⟨row, inviteeIds.length⟩

/-- `code` is what `randomInviteCode` draws. -/
def createSpaceService [Host] (hostUserId : UserId) (body : CreateSpaceBody) (code : String)
    (turns : List ℕ) : SpaceM (Except SpaceError CreatedSpace) := do
  match ← issue (.findActiveCategoryById body.categoryId) with
  | none => return .error (createSpaceError "Category not found or inactive" .categoryNotFound)
  | some category =>
    if !isRoomCategoryPickable category.slug then
      return .error (createSpaceError "Category not available for spaces" .categoryNotFound)
    else
      let now ← issue .now
      if body.scheduleMode = .scheduled ∧ body.scheduledStartAt.any (· ≤ now) then
        return .error (createSpaceError "Scheduled start must be in the future" .invalidSchedule)
      else
        andThen (resolveValidatedInviteeIds hostUserId body.invitedUserIds) fun inviteeIds =>
          if body.maxParticipants - 1 < inviteeIds.length then
            return .error (createSpaceError (invitesExceedCapacityMessage body.maxParticipants)
              .invitesExceedCapacity)
          else
            andThen (assertInviteesAllowRoomInvitesFromHost hostUserId inviteeIds) fun () =>
              .ok <$> writeSpace hostUserId body code turns now inviteeIds

/-! ### Editing -/

def spaceNotEditable : SpaceError := ⟨"Space not found, or you cannot edit it", .roomNotFound, 404⟩

def UpdateRefusal.error : UpdateRefusal → SpaceError
  | .notFound => spaceNotEditable
  | .invalidSchedule => ⟨"Scheduled start must be in the future", .invalidSchedule, 400⟩
  | .roomFull =>
      ⟨"Cannot set seats below the number of people already in this space", .roomFull, 400⟩
  | .invalidEnd => ⟨"scheduledEndAt must be after scheduledStartAt", .invalidEnd, 400⟩

/-- The error of the other service, with the status of this one. -/
def wrapInviteErrors {α : Type} (p : SpaceM (Except SpaceError α)) : SpaceM (Except SpaceError α) :=
  (Except.mapError fun error => { error with statusCode := 400 }) <$> p

def validateCategory [Host] (categoryId : Option String) : SpaceM (Except SpaceError Unit) :=
  match categoryId with
  | none => return .ok ()
  | some categoryId => do
    match ← issue (.findActiveCategoryById categoryId) with
    | none => return .error ⟨"Category not found or inactive", .categoryNotFound, 404⟩
    | some category =>
      if !isRoomCategoryPickable category.slug then
        return .error ⟨"Category not available for spaces", .categoryNotFound, 404⟩
      else return .ok ()

/-- The invitees, if the request has a list of them. -/
def validateInvitees (hostUserId : UserId) (nextMaxParticipants : ℕ)
    (invitedUserIds : Option (List String)) : SpaceM (Except SpaceError (Option (List UserId))) :=
  match invitedUserIds with
  | none => return .ok none
  | some invitedUserIds =>
    if nextMaxParticipants - 1 < invitedUserIds.length then
      return .error ⟨invitesExceedCapacityMessage nextMaxParticipants, .invitesExceedCapacity, 400⟩
    else
      andThen (wrapInviteErrors (resolveValidatedInviteeIds hostUserId invitedUserIds))
        fun inviteeIds =>
          andThen (wrapInviteErrors (assertInviteesAllowRoomInvitesFromHost hostUserId inviteeIds))
            fun () => return .ok (some inviteeIds)

/-- One after the other, those who were not pending before. -/
def notifyInvitees (hostUserId : UserId) (roomId : RoomId) (roomTitle : String)
    (beforePending : List UserId) : List UserId → SpaceM Unit
  | [] => return ()
  | inviteeUserId :: rest =>
    if beforePending.contains inviteeUserId then
      notifyInvitees hostUserId roomId roomTitle beforePending rest
    else do
      notifySpaceInviteReceived inviteeUserId hostUserId roomId roomTitle
      notifyInvitees hostUserId roomId roomTitle beforePending rest

def UpdateScheduledSpaceBody.params (body : UpdateScheduledSpaceBody) (hostUserId : UserId)
    (room : SpaceRow) (code : String) (inviteeIds : Option (List UserId)) :
    UpdateScheduledSpaceParams where
  roomId := room.id
  hostUserId := hostUserId
  title := body.title
  categoryId := body.categoryId
  description := body.description.map fun description =>
    description.bind fun description =>
      if trim description = "" then none else some (trim description)
  visibility := body.visibility
  maxParticipants := body.maxParticipants
  scheduledStartAt := body.scheduledStartAt
  scheduledEndAt := body.scheduledEndAt
  advancedOptionsPatch := body.advancedOptions
  inviteCode :=
    match body.visibility with
    | some .public_ => some none
    | some .private_ =>
        if room.visibility = .public_ ∨ room.inviteCode = none then some (some code) else none
    | none => none
  invitedUserIds := inviteeIds

/-- What is left when the request has passed its checks. -/
def writeScheduledSpace (hostUserId : UserId) (room : SpaceRow) (body : UpdateScheduledSpaceBody)
    (code : String) (inviteeIds : Option (List UserId)) : SpaceM (Except SpaceError SpaceRow) := do
  let beforePending ← issue (.listPendingInviteeUserIds room.id)
  match ← issue (.updateScheduledSpaceByHost (body.params hostUserId room code inviteeIds)) with
  | .error refusal => return .error refusal.error
  | .ok row =>
    notifyInvitees hostUserId room.id ((body.title.map trim).getD room.title) beforePending
      (inviteeIds.getD [])
    return .ok row

def updateScheduledSpaceService [Host] (hostUserId : UserId) (roomId : RoomId)
    (body : UpdateScheduledSpaceBody) (code : String) : SpaceM (Except SpaceError SpaceRow) := do
  match ← issue (.findRoomById roomId) with
  | none => return .error spaceNotEditable
  | some room =>
    if room.hostUserId ≠ hostUserId ∨ room.roomType ≠ .space ∨ room.status ≠ .scheduled then
      return .error spaceNotEditable
    else
      andThen (validateCategory body.categoryId) fun () =>
        andThen (validateInvitees hostUserId (body.maxParticipants.getD room.maxParticipants)
            body.invitedUserIds) fun inviteeIds =>
          writeScheduledSpace hostUserId room body code inviteeIds

def deleteScheduledSpaceService (hostUserId : UserId) (roomId : RoomId) :
    SpaceM (Except SpaceError Unit) := do
  if ← issue (.cancelScheduledSpaceByHost roomId hostUserId) then return .ok ()
  else return .error ⟨"Space not found, or you cannot delete it", .roomNotFound, 404⟩

/-! ### Inviting to a live room -/

def findDisplayLabels : List UserId → SpaceM (List String)
  | [] => return []
  | userId :: rest => do
    let name ← issue (.findDisplayLabelForUser userId)
    let names ← findDisplayLabels rest
    return name :: names

def emitInviteSocket (roomId : RoomId) (inviterUserId inviteeUserId : UserId) (roomTitle : String) :
    SpaceM Unit := do
  let inviterDisplayName ← issue (.findDisplayLabelForUser inviterUserId)
  let participants ← issue (.listActiveParticipantUserIds roomId)
  let names ← findDisplayLabels (participants.filter (· ≠ inviteeUserId))
  issue (.emitRoomInvite roomId inviterUserId inviteeUserId inviterDisplayName roomTitle names)

/-- Unless an invite is pending already, one is written. -/
def sendRoomInvite (inviterUserId : UserId) (room : SpaceRow) (inviteeUserId : UserId) :
    SpaceM (Except SpaceError Unit) := do
  if ← issue (.isUserRoomParticipant room.id inviteeUserId) then
    return .error ⟨"User is already in this room", .alreadyInRoom, 400⟩
  else
    let existing ← issue (.findFriendInviteByRoomAndInvitee room.id inviteeUserId)
    if existing.any (·.status = .pending) then
      .ok <$> emitInviteSocket room.id inviterUserId inviteeUserId room.title
    else
      issue (.upsertPendingFriendInvite room.id inviterUserId inviteeUserId)
      .ok <$> emitInviteSocket room.id inviterUserId inviteeUserId room.title

/-- Whether the invitee can be reached. -/
def assertReachable (roomId : RoomId) (inviteeUserId : UserId) :
    SpaceM (Except SpaceError Unit) := do
  if ← issue (.existsPresence inviteeUserId) then
    let liveRoomId ← issue (.peersCallStatusForUser inviteeUserId)
    if liveRoomId.any (· ≠ roomId) then
      return .error ⟨"User is already in another call", .inviteeBusy, 400⟩
    else return .ok ()
  else return .error ⟨"User is offline", .inviteeOffline, 400⟩

def assertConnected (inviterUserId inviteeUserId : UserId) : SpaceM (Except SpaceError Unit) := do
  let peers ← getAcceptedPeerIdsForUser inviterUserId
  if peers.contains inviteeUserId then
    let prefs ← issue (.getRoomInvitePreferencesForUsers [inviteeUserId])
    if canHostInviteUserToRoom inviterUserId (preferencesOf prefs inviteeUserId) then
      return .ok ()
    else return .error ⟨"This person does not accept invites from you", .inviteBlocked, 403⟩
  else return .error ⟨"You are not connected with this person", .notConnection, 403⟩

def createRoomInviteService (inviterUserId : UserId) (roomId : RoomId) (inviteeUserId : UserId) :
    SpaceM (Except SpaceError Unit) := do
  if inviteeUserId = inviterUserId then return .error ⟨"Invalid invitee", .notConnection, 400⟩
  else
    match ← issue (.findRoomById roomId) with
    | none => return .error ⟨"Room not found", .roomNotFound, 404⟩
    | some room =>
      if room.status ≠ .live then return .error ⟨"Room is not live", .roomNotLive, 400⟩
      else if ← issue (.isUserRoomParticipant roomId inviterUserId) then
        andThen (assertConnected inviterUserId inviteeUserId) fun () =>
          andThen (assertReachable roomId inviteeUserId) fun () =>
            sendRoomInvite inviterUserId room inviteeUserId
      else return .error ⟨"You are not in this room", .notParticipant, 403⟩

/-! ### What runs at the same time -/

inductive Task
  | createSpace (hostUserId : UserId) (body : CreateSpaceBody) (code : String) (turns : List ℕ)
  | updateScheduledSpace (hostUserId : UserId) (roomId : RoomId) (body : UpdateScheduledSpaceBody)
      (code : String)
  | deleteScheduledSpace (hostUserId : UserId) (roomId : RoomId)
  | createRoomInvite (inviterUserId : UserId) (roomId : RoomId) (inviteeUserId : UserId)
  /-- a space goes live -/
  | spaceStarted (roomId : RoomId) (hostUserId : UserId) (roomTitle : String) (turns : List ℕ)
  | connectionRequestReceived (recipientUserId actorUserId : UserId) (connectionId : Text)
      (dedupeSalt : Option String)
  | connectionRequestAccepted (recipientUserId actorUserId : UserId) (connectionId : Text)
  | markRead (userId : UserId) (key : DedupeKey)
  | markAllRead (userId : UserId)
  | change (f : Elsewhere → Elsewhere)
  | changeRooms (f : SpaceTable → SpaceTable)
  | changeParticipants (f : Rooms.ParticipantTable → Rooms.ParticipantTable)
  | answerInvite (roomId : RoomId) (inviteeUserId : UserId) (status : FriendInviteStatus)
  | tick (ms : ℕ)

inductive Outcome
  | created (result : Except SpaceError CreatedSpace)
  | updated (result : Except SpaceError SpaceRow)
  | answered (result : Except SpaceError Unit)
  | finished

def finish {α : Type} (p : SpaceM α) : SpaceM Outcome := (fun _ => Outcome.finished) <$> p

def Task.program [Host] : Task → SpaceM Outcome
  | .createSpace hostUserId body code turns =>
      Outcome.created <$> createSpaceService hostUserId body code turns
  | .updateScheduledSpace hostUserId roomId body code =>
      Outcome.updated <$> updateScheduledSpaceService hostUserId roomId body code
  | .deleteScheduledSpace hostUserId roomId =>
      Outcome.answered <$> deleteScheduledSpaceService hostUserId roomId
  | .createRoomInvite inviterUserId roomId inviteeUserId =>
      Outcome.answered <$> createRoomInviteService inviterUserId roomId inviteeUserId
  | .spaceStarted roomId hostUserId roomTitle turns =>
      finish (notifySpaceStartedToAssociatedUsers roomId hostUserId roomTitle turns)
  | .connectionRequestReceived recipientUserId actorUserId connectionId dedupeSalt =>
      finish (notifyConnectionRequestReceived recipientUserId actorUserId connectionId dedupeSalt)
  | .connectionRequestAccepted recipientUserId actorUserId connectionId =>
      finish (notifyConnectionRequestAccepted recipientUserId actorUserId connectionId)
  | .markRead userId key => finish (issue (.markRead userId key))
  | .markAllRead userId => finish (issue (.markAllRead userId))
  | .change f => finish (issue (.change f))
  | .changeRooms f => finish (issue (.changeRooms f))
  | .changeParticipants f => finish (issue (.changeParticipants f))
  | .answerInvite roomId inviteeUserId status =>
      finish (issue (.answerInvite roomId inviteeUserId status))
  | .tick ms => finish (issue (.tick ms))

def begun [Host] {ι : Type} (tasks : ι → Task) (w₀ : World) :
    Conf ι Cmd Cmd.Reply Outcome World where
  threads i := (tasks i).program
  scene := ⟨w₀, []⟩

end Greetup.Spaces
