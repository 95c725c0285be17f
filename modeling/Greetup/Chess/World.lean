import Greetup.Chess.Types
import Greetup.Interleaving.Schedule

/-!
Redis as the chess service uses it, and its commands. The database is read by
the service and written by others, so each query is answered by the database
as it is at that moment.
-/

namespace Greetup.Chess

open Rooms (UserId RoomId)

structure Redis where
  /-- `room:chess:pending:{roomId}` -/
  pending : RoomId → Option RequestId := fun _ => none
  /-- `room:chess:invite:{requestId}` -/
  invite : RequestId → InviteHash := fun _ => {}
  /-- `room:chess:active:{roomId}` -/
  active : RoomId → ActiveHash := fun _ => {}
  /-- `room:chess:draw:{roomId}:{gameId}` -/
  draw : RoomId → GameId → Option DrawOffer := fun _ _ => none

namespace Redis

variable (redis : Redis)

def setPending (roomId : RoomId) (requestId : Option RequestId) : Redis :=
  { redis with pending := Function.update redis.pending roomId requestId }

def setInvite (requestId : RequestId) (invite : InviteHash) : Redis :=
  { redis with invite := Function.update redis.invite requestId invite }

def setActive (roomId : RoomId) (active : ActiveHash) : Redis :=
  { redis with active := Function.update redis.active roomId active }

def setDraw (roomId : RoomId) (gameId : GameId) (offer : Option DrawOffer) : Redis :=
  { redis with
    draw := Function.update redis.draw roomId (Function.update (redis.draw roomId) gameId offer) }

end Redis

structure World where
  redis : Redis := {}
  /-- how many ids `randomUUID` has handed out -/
  issued : ℕ := 0
  /-- how many queries the database has answered -/
  queries : ℕ := 0
  /-- what has been emitted, oldest first -/
  sent : List Emission := []

/-! ### Commands -/

inductive Cmd
  -- the database
  | findRoomById (roomId : RoomId)
  | isUserRoomParticipant (roomId : RoomId) (userId : UserId)
  | listActiveParticipantUserIds (roomId : RoomId)
  | findUserDisplayLabel (userId : UserId)
  -- Redis
  | getPending (roomId : RoomId)
  | setPendingNX (roomId : RoomId) (requestId : RequestId)
  | delPending (roomId : RoomId)
  | hgetallInvite (requestId : RequestId)
  | hsetInvite (invitation : Invitation)
  | hsetInviteStatus (requestId : RequestId) (status : InviteStatus) (gameId : Option GameId)
  | expireInvite (requestId : RequestId)
  | hgetallActive (roomId : RoomId)
  | hsetActiveGame (roomId : RoomId) (game : Game)
  | hsetActiveMove (roomId : RoomId) (position : Position) (lastMove : LastMove)
  | expireActive (roomId : RoomId)
  | delActive (roomId : RoomId)
  | hgetallDraw (roomId : RoomId) (gameId : GameId)
  | hsetDraw (offer : DrawOffer)
  | expireDraw (roomId : RoomId) (gameId : GameId)
  | delDraw (roomId : RoomId) (gameId : GameId)
  -- the rest of the process
  | randomUUID
  | emit (emission : Emission)

@[reducible] def Cmd.Reply : Cmd → Type
  | .findRoomById _ => Option RoomRow
  | .isUserRoomParticipant _ _ => Bool
  | .listActiveParticipantUserIds _ => List UserId
  | .findUserDisplayLabel _ => String
  | .getPending _ => Option RequestId
  | .setPendingNX _ _ => Bool
  | .hgetallInvite _ => InviteHash
  | .hgetallActive _ => ActiveHash
  | .hgetallDraw _ _ => Option DrawOffer
  | .randomUUID => Uuid
  | _ => Unit

namespace World

variable (w : World)

def query : World := { w with queries := w.queries + 1 }

def setRedis (redis : Redis) : World := { w with redis := redis }

def setPending (roomId : RoomId) (requestId : Option RequestId) : World :=
  w.setRedis (w.redis.setPending roomId requestId)

def setInvite (requestId : RequestId) (invite : InviteHash) : World :=
  w.setRedis (w.redis.setInvite requestId invite)

def setActive (roomId : RoomId) (active : ActiveHash) : World :=
  w.setRedis (w.redis.setActive roomId active)

def setDraw (roomId : RoomId) (gameId : GameId) (offer : Option DrawOffer) : World :=
  w.setRedis (w.redis.setDraw roomId gameId offer)

def send (emission : Emission) : World := { w with sent := w.sent ++ [emission] }

def issueId : World := { w with issued := w.issued + 1 }

section

variable (q q' : RequestId) (invite : InviteHash) (r r' : RoomId) (active : ActiveHash)

@[grind =] theorem setInvite_invite :
    (w.setInvite q invite).redis.invite q' = if q' = q then invite else w.redis.invite q' :=
  Function.update_apply ..

@[simp, grind =] theorem setInvite_active :
    (w.setInvite q invite).redis.active = w.redis.active := rfl

@[simp, grind =] theorem setInvite_issued : (w.setInvite q invite).issued = w.issued := rfl

@[grind =] theorem setActive_active :
    (w.setActive r active).redis.active r' = if r' = r then active else w.redis.active r' :=
  Function.update_apply ..

@[simp, grind =] theorem setActive_invite :
    (w.setActive r active).redis.invite = w.redis.invite := rfl

@[simp, grind =] theorem setActive_issued : (w.setActive r active).issued = w.issued := rfl

@[simp, grind =] theorem issueId_redis : w.issueId.redis = w.redis := rfl

@[simp, grind =] theorem issueId_issued : w.issueId.issued = w.issued + 1 := rfl

end

end World

/-- One atomic step: the answer to a command and the world after it. -/
def exec (db : ℕ → Database) : (c : Cmd) → World → c.Reply × World
  | .findRoomById r, w => ((db w.queries).findRoomById r, w.query)
  | .isUserRoomParticipant r u, w => ((db w.queries).isUserRoomParticipant r u, w.query)
  | .listActiveParticipantUserIds r, w =>
    ((db w.queries).listActiveParticipantUserIds r, w.query)
  | .findUserDisplayLabel u, w => ((db w.queries).findUserDisplayLabel u, w.query)
  | .getPending r, w => (w.redis.pending r, w)
  | .setPendingNX r q, w =>
    if w.redis.pending r = none then (true, w.setPending r (some q)) else (false, w)
  | .delPending r, w => ((), w.setPending r none)
  | .hgetallInvite q, w => (w.redis.invite q, w)
  | .hsetInvite invitation, w =>
    ((), w.setInvite invitation.requestId
      { w.redis.invite invitation.requestId with
        invitation := some invitation
        status := some .pending })
  | .hsetInviteStatus q status gameId, w =>
    ((), w.setInvite q
      { w.redis.invite q with
        status := some status
        gameId := gameId.or (w.redis.invite q).gameId })
  | .expireInvite _, w => ((), w)
  | .hgetallActive r, w => (w.redis.active r, w)
  | .hsetActiveGame r game, w =>
    ((), w.setActive r
      { w.redis.active r with
        game := some game
        position := some game.initialPosition })
  | .hsetActiveMove r position lastMove, w =>
    ((), w.setActive r
      { w.redis.active r with
        position := some position
        lastMove := some lastMove })
  | .expireActive _, w => ((), w)
  | .delActive r, w => ((), w.setActive r {})
  | .hgetallDraw r g, w => (w.redis.draw r g, w)
  | .hsetDraw offer, w => ((), w.setDraw offer.roomId offer.gameId (some offer))
  | .expireDraw _ _, w => ((), w)
  | .delDraw r g, w => ((), w.setDraw r g none)
  | .randomUUID, w => (⟨w.issued⟩, w.issueId)
  | .emit emission, w => ((), w.send emission)

end Greetup.Chess
