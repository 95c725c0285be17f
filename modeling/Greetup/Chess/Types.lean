import Greetup.Rooms.Types

/-!
The records of a chess game in a direct call: what is kept in Redis, what is
sent to the players, what the request bodies hold, and how a request fails.
-/

namespace Greetup.Chess

open Rooms (UserId RoomId RoomStatus RoomType)

/-- The ids `randomUUID` hands out, numbered in the order in which it does. -/
structure Uuid where
  index : ℕ
  deriving DecidableEq

abbrev RequestId := Uuid
abbrev GameId := Uuid

inductive Turn
  | w
  | b
  deriving DecidableEq

/-- `CHESS_INITIAL_FEN` -/
def initialFen : String := "rnbqkbnr/pppppppp/8/8/8/8/PPPPPPPP/RNBQKBNR w KQkq - 0 1"

/-! ### Redis hashes -/

inductive InviteStatus
  | pending
  | accepted
  | declined
  deriving DecidableEq

/-- The fields of `room:chess:invite:{requestId}` that are written once, when
the invite is made. -/
structure Invitation where
  requestId : RequestId
  roomId : RoomId
  inviterUserId : UserId
  inviteeUserId : UserId
  deriving DecidableEq

structure InviteHash where
  invitation : Option Invitation := none
  status : Option InviteStatus := none
  gameId : Option GameId := none
  deriving DecidableEq

/-- The fields of `room:chess:active:{roomId}` that are written when a game
starts and not again. -/
structure Game where
  gameId : GameId
  roomId : RoomId
  whiteUserId : UserId
  blackUserId : UserId
  startedByUserId : UserId
  deriving DecidableEq

/-- The fields every move overwrites. `game` is not stored: it says for which
game they were written. -/
structure Position where
  game : GameId
  fen : String
  turn : Turn
  turnUserId : UserId
  moveNumber : ℕ
  deriving DecidableEq

/-- The field that a move adds, with the game it was written for. -/
structure LastMove where
  game : GameId
  lastMoveSan : String
  deriving DecidableEq

structure ActiveHash where
  game : Option Game := none
  position : Option Position := none
  lastMove : Option LastMove := none
  deriving DecidableEq

/-- `room:chess:draw:{roomId}:{gameId}` -/
structure DrawOffer where
  roomId : RoomId
  gameId : GameId
  offeredByUserId : UserId
  targetUserId : UserId
  deriving DecidableEq

/-- What the hash of a game holds as the game starts. -/
def Game.initialPosition (game : Game) : Position where
  game := game.gameId
  fen := initialFen
  turn := .w
  turnUserId := game.whiteUserId
  moveNumber := 0

def Game.player (game : Game) : Turn → UserId
  | .w => game.whiteUserId
  | .b => game.blackUserId

/-- The other player, for one of the two. -/
def Game.opponent (game : Game) (userId : UserId) : UserId :=
  if userId = game.whiteUserId then game.blackUserId else game.whiteUserId

/-! ### Request bodies -/

inductive MoveResult
  | checkmate
  | stalemate
  | draw
  deriving DecidableEq

/-- `length` of a string, in UTF-16 code units: two for a supplementary
character. -/
def utf16Length (s : String) : ℕ :=
  s.toList.length + s.toList.countP (0x10000 ≤ ·.toNat)

/-- A body that `chessMoveBodySchema` accepts; `fromSquare` and `toSquare` are
its fields `from` and `to`. -/
structure ChessMoveBody where
  gameId : GameId
  fromSquare : String
  toSquare : String
  san : String
  fen : String
  turn : Turn
  isGameOver : Bool
  winnerUserId : Option UserId
  result : MoveResult
  from_length : utf16Length fromSquare = 2
  to_length : utf16Length toSquare = 2
  san_length : 1 ≤ utf16Length san ∧ utf16Length san ≤ 24
  fen_length : 1 ≤ utf16Length fen ∧ utf16Length fen ≤ 128

/-- A request body with the route it is posted to, below
`/api/room/:roomId/activity/chess`. -/
inductive Body
  | invite
  | respond (requestId : RequestId) (accept : Bool)
  | end_ (gameId : GameId)
  | move (body : ChessMoveBody)
  | drawOffer (gameId : GameId)
  | drawRespond (gameId : GameId) (accept : Bool)

structure Request where
  roomId : RoomId
  userId : UserId
  body : Body

/-! ### Socket events -/

inductive GameResult
  | checkmate
  | stalemate
  | draw
  | resign
  deriving DecidableEq

def MoveResult.toGameResult : MoveResult → GameResult
  | .checkmate => .checkmate
  | .stalemate => .stalemate
  | .draw => .draw

structure InvitePayload where
  requestId : RequestId
  roomId : RoomId
  inviterUserId : UserId
  inviterDisplayName : String
  deriving DecidableEq

structure DeclinedPayload where
  requestId : RequestId
  roomId : RoomId
  inviteeUserId : UserId
  deriving DecidableEq

/-- `fromSquare` and `toSquare` are its fields `from` and `to`. -/
structure MovedPayload where
  roomId : RoomId
  gameId : GameId
  movedByUserId : UserId
  fromSquare : String
  toSquare : String
  san : String
  fen : String
  turn : Turn
  moveNumber : ℕ
  deriving DecidableEq

structure EndedPayload where
  roomId : RoomId
  gameId : GameId
  endedByUserId : UserId
  winnerUserId : Option UserId
  result : GameResult
  deriving DecidableEq

structure DrawOfferedPayload where
  roomId : RoomId
  gameId : GameId
  offeredByUserId : UserId
  deriving DecidableEq

structure DrawRejectedPayload where
  roomId : RoomId
  gameId : GameId
  rejectedByUserId : UserId
  deriving DecidableEq

/-- What is emitted, with the user or the two users it goes to. -/
inductive Emission
  | invite (inviteeUserId : UserId) (payload : InvitePayload)
  | declined (inviterUserId : UserId) (payload : DeclinedPayload)
  | started (inviterUserId inviteeUserId : UserId) (game : Game) (position : Position)
  | moved (whiteUserId blackUserId : UserId) (payload : MovedPayload)
  | ended (whiteUserId blackUserId : UserId) (payload : EndedPayload)
  | drawOffered (targetUserId : UserId) (payload : DrawOfferedPayload)
  | drawRejected (offeredByUserId : UserId) (payload : DrawRejectedPayload)
  deriving DecidableEq

/-! ### Results and errors -/

inductive Result
  | invite (requestId : RequestId) (inviteeUserId : UserId)
  | respond (roomId : RoomId) (started : Bool) (gameId : Option GameId)
  | ended (roomId : RoomId)
  | moved (roomId : RoomId) (gameId : GameId) (moveNumber : ℕ) (fen : String) (turn : Turn)
      (isGameOver : Bool)
  | drawOffered (roomId : RoomId) (gameId : GameId)
  | drawResponded (roomId : RoomId) (gameId : GameId) (accepted : Bool)
  deriving DecidableEq

structure RoomActivityError where
  message : String
  code : String
  statusCode : ℕ
  deriving DecidableEq

structure DirectRoomChessError where
  message : String
  code : String
  statusCode : ℕ
  deriving DecidableEq

def toChessError (error : RoomActivityError) : DirectRoomChessError where
  message :=
    if error.code = "NOT_DIRECT" then "Chess is available only in direct calls" else error.message
  code := error.code
  statusCode := error.statusCode

/-! ### The database -/

structure RoomRow where
  status : RoomStatus
  roomType : RoomType
  deriving DecidableEq

/-- What the rooms repository can read at one moment. -/
structure Database where
  findRoomById : RoomId → Option RoomRow
  listActiveParticipantUserIds : RoomId → List UserId
  findUserDisplayLabel : UserId → String

/-- Whether the room has a participant row of the user that is not left. -/
def Database.isUserRoomParticipant (db : Database) (roomId : RoomId) (userId : UserId) : Bool :=
  (db.listActiveParticipantUserIds roomId).contains userId

end Greetup.Chess
