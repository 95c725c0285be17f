import Greetup.Chess.World

/-!
The six requests of the chess activity, each the sequence of its awaits.
-/

namespace Greetup.Chess

open Greetup.Interleaving Prog
open Rooms (UserId RoomId)

abbrev M := Prog Cmd Cmd.Reply

/-- Issue one command. -/
abbrev issue (c : Cmd) : M c.Reply := perform c

/-- A handler of the chess service: its result, or the error it throws. -/
abbrev Handler := M (Except DirectRoomChessError Result)

/-! ### Checks -/

/-- The end of the guardrail: a participant and a peer. -/
def findActivePeer (roomId : RoomId) (userId : UserId) (isParticipant : Bool) :
    M (Except RoomActivityError UserId) :=
  if isParticipant then do
    let participants ← issue (.listActiveParticipantUserIds roomId)
    match participants.find? (· ≠ userId) with
    | none => return .error ⟨"No active peer found in this direct call", "PEER_NOT_FOUND", 400⟩
    | some peerUserId => return .ok peerUserId
  else return .error ⟨"You are not in this room", "NOT_PARTICIPANT", 403⟩

/-- Shared room-activity guardrail for 1:1 activities; the peer of the user. -/
def ensureDirectRoomActivityContext (roomId : RoomId) (userId : UserId) :
    M (Except RoomActivityError UserId) := do
  match ← issue (.findRoomById roomId) with
  | none => return .error ⟨"Room not found", "ROOM_NOT_FOUND", 404⟩
  | some room =>
    if room.status ≠ .live then
      return .error ⟨"Room is not live", "ROOM_NOT_LIVE", 400⟩
    else if room.roomType ≠ .direct then
      return .error ⟨"Activities are available only in direct calls", "NOT_DIRECT", 400⟩
    else
      let isParticipant ← issue (.isUserRoomParticipant roomId userId)
      findActivePeer roomId userId isParticipant

/-- The guardrail with the `catch` of every handler, then the handler's body. -/
def withContext (roomId : RoomId) (userId : UserId) (body : UserId → Handler) : Handler := do
  match ← ensureDirectRoomActivityContext roomId userId with
  | .error error => return .error (toChessError error)
  | .ok peerUserId => body peerUserId

def invitePending : DirectRoomChessError :=
  ⟨"A chess invite is already pending", "INVITE_PENDING", 409⟩

def gameAlreadyActive : DirectRoomChessError :=
  ⟨"A chess game is already active", "GAME_ALREADY_ACTIVE", 409⟩

def checkNoGame (active : ActiveHash) : Except DirectRoomChessError Unit :=
  if active.game.isSome then .error gameAlreadyActive else .ok ()

/-- The checks before an invite is made. -/
def checkFree (pendingRequestId : Option RequestId) (active : ActiveHash) :
    Except DirectRoomChessError Unit :=
  if pendingRequestId.isSome then .error invitePending else checkNoGame active

/-- The checks on the invite that is answered. The inviter is written with the
other fields of the invitation, so its absence is no case of its own. -/
def checkInvite (roomId : RoomId) (inviteeUserId : UserId) (invite : InviteHash) :
    Except DirectRoomChessError Invitation :=
  match invite.invitation with
  | none => .error ⟨"Invite not found", "INVITE_NOT_FOUND", 404⟩
  | some invitation =>
    if invitation.roomId ≠ roomId then
      .error ⟨"Invite does not belong to this room", "INVITE_NOT_FOUND", 404⟩
    else if invitation.inviteeUserId ≠ inviteeUserId then
      .error ⟨"This invite is not for you", "NOT_YOUR_INVITE", 403⟩
    else if invite.status ≠ some .pending then
      .error ⟨"This invite is no longer pending", "INVITE_NOT_PENDING", 409⟩
    else .ok invitation

/-- The checks on the active game that resigning, moving and offering a draw
have in common. -/
def checkActive (roomId : RoomId) (gameId : GameId) (userId : UserId) (active : ActiveHash) :
    Except DirectRoomChessError Game :=
  match active.game with
  | none => .error ⟨"No active chess game found", "GAME_NOT_ACTIVE", 404⟩
  | some game =>
    if game.roomId ≠ roomId ∨ game.gameId ≠ gameId then
      .error ⟨"Game id does not match active chess game", "GAME_MISMATCH", 409⟩
    else if userId ≠ game.whiteUserId ∧ userId ≠ game.blackUserId then
      .error ⟨"You are not in this chess game", "NOT_PARTICIPANT", 403⟩
    else .ok game

/-- A turn is stored, and it is not the user's. -/
def ActiveHash.notYourTurn (active : ActiveHash) (userId : UserId) : Bool :=
  (active.position.map (·.turnUserId)).any (· ≠ userId)

/-- `toMoveNumber(active.moveNumber)` -/
def ActiveHash.moveNumber (active : ActiveHash) : ℕ := (active.position.map (·.moveNumber)).getD 0

def checkMove (roomId : RoomId) (userId : UserId) (body : ChessMoveBody) (active : ActiveHash) :
    Except DirectRoomChessError Game :=
  match checkActive roomId body.gameId userId active with
  | .error error => .error error
  | .ok game =>
    if active.notYourTurn userId then .error ⟨"Not your turn", "NOT_YOUR_TURN", 409⟩
    else .ok game

/-- A check that may throw, then the rest of the handler. -/
def afterCheck {α : Type} (check : Except DirectRoomChessError α) (body : α → Handler) : Handler :=
  match check with
  | .error error => return .error error
  | .ok a => body a

@[simp] theorem afterCheck_error {α : Type} (error : DirectRoomChessError) (body : α → Handler) :
    afterCheck (.error error) body = .done (.error error) := rfl

@[simp] theorem afterCheck_ok {α : Type} (a : α) (body : α → Handler) :
    afterCheck (.ok a) body = body a := rfl

/-! ### Invites -/

/-- What follows `SET NX` of the pending key. -/
def storeInvite (invitation : Invitation) (pendingClaimed : Bool) : Handler :=
  if pendingClaimed then do
    issue (.hsetInvite invitation)
    issue (.expireInvite invitation.requestId)
    let inviterDisplayName ← issue (.findUserDisplayLabel invitation.inviterUserId)
    issue (.emit (.invite invitation.inviteeUserId
      { requestId := invitation.requestId, roomId := invitation.roomId,
        inviterUserId := invitation.inviterUserId, inviterDisplayName }))
    return .ok (.invite invitation.requestId invitation.inviteeUserId)
  else return .error invitePending

def createDirectRoomChessInvite (roomId : RoomId) (inviterUserId : UserId) : Handler :=
  withContext roomId inviterUserId fun inviteeUserId => do
    let pendingRequestId ← issue (.getPending roomId)
    let activeGame ← issue (.hgetallActive roomId)
    afterCheck (checkFree pendingRequestId activeGame) fun _ => do
      let requestId ← issue .randomUUID
      let pendingClaimed ← issue (.setPendingNX roomId requestId)
      storeInvite { requestId, roomId, inviterUserId, inviteeUserId } pendingClaimed

def declineInvite (roomId : RoomId) (requestId : RequestId) (inviteeUserId inviterUserId : UserId) :
    Handler := do
  issue (.hsetInviteStatus requestId .declined none)
  issue (.delPending roomId)
  issue (.expireInvite requestId)
  issue (.emit (.declined inviterUserId { requestId, roomId, inviteeUserId }))
  return .ok (.respond roomId false none)

def acceptInvite (roomId : RoomId) (requestId : RequestId) (inviteeUserId inviterUserId : UserId) :
    Handler := do
  let existingActive ← issue (.hgetallActive roomId)
  afterCheck (checkNoGame existingActive) fun _ => do
    let gameId ← issue .randomUUID
    let game : Game :=
      { gameId, roomId, whiteUserId := inviterUserId, blackUserId := inviteeUserId,
        startedByUserId := inviteeUserId }
    issue (.hsetActiveGame roomId game)
    issue (.expireActive roomId)
    issue (.hsetInviteStatus requestId .accepted (some gameId))
    issue (.delPending roomId)
    issue (.expireInvite requestId)
    issue (.emit (.started inviterUserId inviteeUserId game game.initialPosition))
    return .ok (.respond roomId true (some gameId))

def respondDirectRoomChessInvite (roomId : RoomId) (requestId : RequestId)
    (inviteeUserId : UserId) (accept : Bool) : Handler :=
  withContext roomId inviteeUserId fun _ => do
    let invite ← issue (.hgetallInvite requestId)
    afterCheck (checkInvite roomId inviteeUserId invite) fun invitation =>
      if accept then acceptInvite roomId requestId inviteeUserId invitation.inviterUserId
      else declineInvite roomId requestId inviteeUserId invitation.inviterUserId

/-! ### A game -/

def endDirectRoomChessGame (roomId : RoomId) (gameId : GameId) (endedByUserId : UserId) :
    Handler :=
  withContext roomId endedByUserId fun _ => do
    let active ← issue (.hgetallActive roomId)
    afterCheck (checkActive roomId gameId endedByUserId active) fun game => do
      issue (.delActive roomId)
      issue (.emit (.ended game.whiteUserId game.blackUserId
        { roomId, gameId, endedByUserId, winnerUserId := some (game.opponent endedByUserId),
          result := .resign }))
      return .ok (.ended roomId)

/-- The move that the client says ends the game. -/
def finalMove (roomId : RoomId) (movedByUserId : UserId) (body : ChessMoveBody) (game : Game)
    (moveNumber : ℕ) : Handler := do
  issue (.delActive roomId)
  issue (.emit (.ended game.whiteUserId game.blackUserId
    { roomId, gameId := body.gameId, endedByUserId := movedByUserId,
      winnerUserId := body.winnerUserId, result := body.result.toGameResult }))
  return .ok (.moved roomId body.gameId moveNumber body.fen body.turn true)

def ordinaryMove (roomId : RoomId) (movedByUserId : UserId) (body : ChessMoveBody) (game : Game)
    (moveNumber : ℕ) : Handler := do
  issue (.hsetActiveMove roomId
    { game := body.gameId, fen := body.fen, turn := body.turn,
      turnUserId := game.player body.turn, moveNumber }
    { game := body.gameId, lastMoveSan := body.san })
  issue (.expireActive roomId)
  issue (.emit (.moved game.whiteUserId game.blackUserId
    { roomId, gameId := body.gameId, movedByUserId, fromSquare := body.fromSquare,
      toSquare := body.toSquare, san := body.san, fen := body.fen, turn := body.turn,
      moveNumber }))
  return .ok (.moved roomId body.gameId moveNumber body.fen body.turn false)

def moveDirectRoomChessGame (roomId : RoomId) (movedByUserId : UserId) (body : ChessMoveBody) :
    Handler :=
  withContext roomId movedByUserId fun _ => do
    let active ← issue (.hgetallActive roomId)
    afterCheck (checkMove roomId movedByUserId body active) fun game =>
      if body.isGameOver then finalMove roomId movedByUserId body game (active.moveNumber + 1)
      else ordinaryMove roomId movedByUserId body game (active.moveNumber + 1)

/-! ### Draws -/

def offerDirectRoomChessDraw (roomId : RoomId) (gameId : GameId) (offeredByUserId : UserId) :
    Handler :=
  withContext roomId offeredByUserId fun _ => do
    let active ← issue (.hgetallActive roomId)
    afterCheck (checkActive roomId gameId offeredByUserId active) fun game => do
      match ← issue (.hgetallDraw roomId gameId) with
      | some _ => return .error ⟨"Draw offer already pending", "DRAW_ALREADY_PENDING", 409⟩
      | none =>
        let targetUserId := game.opponent offeredByUserId
        issue (.hsetDraw { roomId, gameId, offeredByUserId, targetUserId })
        issue (.expireDraw roomId gameId)
        issue (.emit (.drawOffered targetUserId { roomId, gameId, offeredByUserId }))
        return .ok (.drawOffered roomId gameId)

/-- The game of the accepted draw, when it is still the active one. -/
def ActiveHash.gameOf (active : ActiveHash) (gameId : GameId) : Option Game :=
  active.game.filter (·.gameId = gameId)

def acceptDraw (roomId : RoomId) (gameId : GameId) (responderUserId : UserId) : Handler := do
  let active ← issue (.hgetallActive roomId)
  match active.gameOf gameId with
  | none => return .ok (.drawResponded roomId gameId true)
  | some game =>
    issue (.delActive roomId)
    issue (.emit (.ended game.whiteUserId game.blackUserId
      { roomId, gameId, endedByUserId := responderUserId, winnerUserId := none,
        result := .draw }))
    return .ok (.drawResponded roomId gameId true)

def respondDirectRoomChessDraw (roomId : RoomId) (gameId : GameId) (responderUserId : UserId)
    (accept : Bool) : Handler :=
  withContext roomId responderUserId fun _ => do
    match ← issue (.hgetallDraw roomId gameId) with
    | none => return .error ⟨"No pending draw offer", "DRAW_NOT_PENDING", 404⟩
    | some offer =>
      if offer.targetUserId ≠ responderUserId then
        return .error ⟨"Draw offer is not for you", "DRAW_NOT_FOR_YOU", 403⟩
      else
        issue (.delDraw roomId gameId)
        if accept then acceptDraw roomId gameId responderUserId
        else
          issue (.emit (.drawRejected offer.offeredByUserId
            { roomId, gameId, rejectedByUserId := responderUserId }))
          return .ok (.drawResponded roomId gameId false)

/-! ### Requests -/

/-- The route a request is posted to. -/
def handle (request : Request) : Handler :=
  match request.body with
  | .invite => createDirectRoomChessInvite request.roomId request.userId
  | .respond requestId accept =>
    respondDirectRoomChessInvite request.roomId requestId request.userId accept
  | .end_ gameId => endDirectRoomChessGame request.roomId gameId request.userId
  | .move body => moveDirectRoomChessGame request.roomId request.userId body
  | .drawOffer gameId => offerDirectRoomChessDraw request.roomId gameId request.userId
  | .drawRespond gameId accept =>
    respondDirectRoomChessDraw request.roomId gameId request.userId accept

end Greetup.Chess
