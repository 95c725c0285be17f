import Greetup.Chess.Service

/-!
Requests served one at a time, each alone on the store, and keys that expire in
between: everything that one of them can do to the games.
-/

namespace Greetup.Chess

open Greetup.Interleaving Prog
open Rooms (UserId RoomId)

/-- A key of the chess activity, each of which has a time to live. -/
inductive Key
  | pending (roomId : RoomId)
  | invite (requestId : RequestId)
  | active (roomId : RoomId)
  | draw (roomId : RoomId) (gameId : GameId)

def World.expire (w : World) : Key → World
  | .pending r => w.setPending r none
  | .invite q => w.setInvite q {}
  | .active r => w.setActive r {}
  | .draw r g => w.setDraw r g none

inductive Input
  | request (request : Request)
  | expiry (key : Key)

def serve (db : ℕ → Database) (w : World) : Input → World
  | .request request => ((handle request).run (exec db) w).2
  | .expiry key => w.expire key

/-- The game a `started`, `moved` or `ended` event is about. -/
def Emission.gameId : Emission → Option GameId
  | .started _ _ game _ => some game.gameId
  | .moved _ _ payload => some payload.gameId
  | .ended _ _ payload => some payload.gameId
  | _ => none

/-- The winner a request announces when it ends a game. -/
def Input.winner (game : Game) : Input → Option UserId
  | .request ⟨_, userId, .end_ _⟩ => some (game.opponent userId)
  | .request ⟨_, _, .move body⟩ => body.winnerUserId
  | _ => none

/-! ### What serving one input can do -/

/-- What every input leaves: ids are not handed out again, and an invite is not
sent to the inviter. -/
structure Onward (w w' : World) : Prop where
  issued : w.issued ≤ w'.issued
  invited : ∀ q i, (w'.redis.invite q).invitation = some i →
    (w.redis.invite q).invitation = some i ∨ i.inviterUserId ≠ i.inviteeUserId

/-- Everything that an input can do to the games. -/
inductive Serves (w w' : World) : Input → Prop
  | quiet {input : Input} (emissions : List Emission)
      (hactive : w'.redis.active = w.redis.active)
      (hsent : w'.sent = w.sent ++ emissions)
      (hquiet : ∀ e ∈ emissions, e.gameId = none) : Serves w w' input
  | forgotten {input : Input} (r : RoomId)
      (hactive : w'.redis.active = Function.update w.redis.active r {})
      (hsent : w'.sent = w.sent) : Serves w w' input
  | started {input : Input} (r : RoomId) (game : Game) (q : RequestId) (i : Invitation)
      (hnone : (w.redis.active r).game = none)
      (hid : game.gameId = ⟨w.issued⟩) (hissued : w.issued < w'.issued)
      (hroom : game.roomId = r) (hinvite : (w.redis.invite q).invitation = some i)
      (hwhite : game.whiteUserId = i.inviterUserId) (hblack : game.blackUserId = i.inviteeUserId)
      (hactive : w'.redis.active = Function.update w.redis.active r
        { w.redis.active r with game := some game, position := some game.initialPosition })
      (hsent : w'.sent =
        w.sent ++ [.started game.whiteUserId game.blackUserId game game.initialPosition]) :
      Serves w w' input
  | moved (r : RoomId) (u : UserId) (body : ChessMoveBody) (game : Game) (position : Position)
      (lastMove : LastMove) (payload : MovedPayload)
      (hgame : (w.redis.active r).game = some game) (hid : payload.gameId = game.gameId)
      (hturn : (w.redis.active r).notYourTurn payload.movedByUserId = false)
      (hnumber : payload.moveNumber = (w.redis.active r).moveNumber + 1)
      (hnext : position.turnUserId = game.player payload.turn)
      (hposition : position.moveNumber = payload.moveNumber)
      (hactive : w'.redis.active = Function.update w.redis.active r
        { w.redis.active r with position := some position, lastMove := some lastMove })
      (hsent : w'.sent = w.sent ++ [.moved game.whiteUserId game.blackUserId payload]) :
      Serves w w' (.request ⟨r, u, .move body⟩)
  | ended {input : Input} (r : RoomId) (game : Game) (payload : EndedPayload)
      (hgame : (w.redis.active r).game = some game) (hid : payload.gameId = game.gameId)
      (hwinner : payload.winnerUserId = input.winner game)
      (hactive : w'.redis.active = Function.update w.redis.active r {})
      (hsent : w'.sent = w.sent ++ [.ended game.whiteUserId game.blackUserId payload]) :
      Serves w w' input

/-- What serving an input comes to. -/
structure Served (w w' : World) (input : Input) : Prop where
  onward : Onward w w'
  serves : Serves w w' input

section Served

variable {w w' : World} {input : Input}

/-- Nothing but the database has been asked. -/
theorem Served.of_queries {n : ℕ} (h : Served { w with queries := n } w' input) :
    Served w w' input := by
  refine ⟨⟨h.onward.issued, h.onward.invited⟩, ?_⟩
  cases h.serves with
  | quiet emissions hactive hsent hquiet => exact .quiet emissions hactive hsent hquiet
  | forgotten r hactive hsent => exact .forgotten r hactive hsent
  | started r game q i hnone hid hissued hroom hinvite hwhite hblack hactive hsent =>
      exact .started r game q i hnone hid hissued hroom hinvite hwhite hblack hactive hsent
  | moved r u body game position lastMove payload hgame hid hturn hnumber hnext hposition hactive
      hsent =>
      exact .moved r u body game position lastMove payload hgame hid hturn hnumber hnext hposition
        hactive hsent
  | ended r game payload hgame hid hwinner hactive hsent =>
      exact .ended r game payload hgame hid hwinner hactive hsent

theorem Onward.of_eq (hissued : w'.issued = w.issued) (hinvite : w'.redis.invite = w.redis.invite) :
    Onward w w' :=
  ⟨hissued.ge, fun _ _ hi => .inl (hinvite ▸ hi)⟩

/-- Nothing a game depends on has changed. -/
theorem Served.of_same (hactive : w'.redis.active = w.redis.active) (hsent : w'.sent = w.sent)
    (honward : Onward w w') : Served w w' input :=
  ⟨honward, .quiet [] hactive (by rw [hsent, List.append_nil]) (by simp)⟩

/-- The status of an invite changes, not who is invited. -/
theorem Onward.setStatus {q : RequestId} {status : InviteStatus} {gameId : Option GameId}
    (hissued : w.issued ≤ w'.issued)
    (hinvite : w'.redis.invite = Function.update w.redis.invite q
      { w.redis.invite q with
        status := some status
        gameId := gameId.or (w.redis.invite q).gameId }) : Onward w w' := by
  refine ⟨hissued, fun q' i hi => .inl ?_⟩
  rw [hinvite] at hi
  by_cases hq : q' = q
  · subst hq
    rwa [Function.update_self] at hi
  · rwa [Function.update_of_ne hq] at hi

end Served

section Serve

variable (db : ℕ → Database) (w : World)

theorem run_findActivePeer (r : RoomId) (u : UserId) (isParticipant : Bool) :
    ∃ n, ((findActivePeer r u isParticipant).run (exec db) w).2 = { w with queries := n } ∧
      ∀ peer, ((findActivePeer r u isParticipant).run (exec db) w).1 = .ok peer → peer ≠ u := by
  cases isParticipant with
  | false => exact ⟨_, rfl, fun peer h => by cases h⟩
  | true =>
      simp only [findActivePeer, if_true, run_bind, run_perform, exec]
      cases hfind : ((db w.queries).listActiveParticipantUserIds r).find? (· ≠ u) with
      | none => exact ⟨_, rfl, fun peer h => by cases h⟩
      | some peer =>
          refine ⟨_, rfl, fun peer' h => ?_⟩
          cases h
          simpa using List.find?_some hfind

theorem run_ensureDirectRoomActivityContext (r : RoomId) (u : UserId) :
    ∃ n, ((ensureDirectRoomActivityContext r u).run (exec db) w).2 = { w with queries := n } ∧
      ∀ peer, ((ensureDirectRoomActivityContext r u).run (exec db) w).1 = .ok peer → peer ≠ u := by
  simp only [ensureDirectRoomActivityContext, run_bind, run_perform, exec]
  cases (db w.queries).findRoomById r with
  | none => exact ⟨_, rfl, fun peer h => by cases h⟩
  | some room =>
      dsimp only
      split
      · exact ⟨_, rfl, fun peer h => by cases h⟩
      split
      · exact ⟨_, rfl, fun peer h => by cases h⟩
      exact run_findActivePeer db w.query.query r u _

/-- Served alone, a handler runs its body in the store it was called in, or
throws. -/
theorem run_withContext (r : RoomId) (u : UserId) (body : UserId → Handler) :
    ∃ n, (∃ error, (withContext r u body).run (exec db) w =
        (.error error, { w with queries := n })) ∨
      ∃ peer, peer ≠ u ∧
        (withContext r u body).run (exec db) w = (body peer).run (exec db)
          { w with queries := n } := by
  obtain ⟨n, hworld, hpeer⟩ := run_ensureDirectRoomActivityContext db w r u
  refine ⟨n, ?_⟩
  rw [withContext, run_bind, hworld]
  cases hresult : ((ensureDirectRoomActivityContext r u).run (exec db) w).1 with
  | error error => exact .inl ⟨_, rfl⟩
  | ok peer => exact .inr ⟨peer, hpeer peer hresult, rfl⟩

theorem served_withContext {r : RoomId} {u : UserId} {body : UserId → Handler} {input : Input}
    (h : ∀ peer, peer ≠ u → ∀ w, Served w ((body peer).run (exec db) w).2 input) :
    Served w ((withContext r u body).run (exec db) w).2 input := by
  obtain ⟨n, ⟨error, hrun⟩ | ⟨peer, hpeer, hrun⟩⟩ := run_withContext db w r u body
  · rw [hrun]
    exact .of_same rfl rfl (.of_eq rfl rfl)
  · rw [hrun]
    exact (h peer hpeer _).of_queries

theorem served_createDirectRoomChessInvite (r : RoomId) (u : UserId) (input : Input) :
    Served w ((createDirectRoomChessInvite r u).run (exec db) w).2 input := by
  refine served_withContext db w fun peer hpeer w => ?_
  simp only [run_bind, run_perform, exec]
  cases checkFree (w.redis.pending r) (w.redis.active r) with
  | error error => exact .of_same rfl rfl (.of_eq rfl rfl)
  | ok =>
      simp only [afterCheck_ok, run_bind, run_perform, exec]
      split
      · refine ⟨⟨Nat.le_succ _, fun q i hi => ?_⟩, ?_⟩
        · by_cases hq : q = ⟨w.issued⟩
          · subst hq
            obtain rfl := Option.some.inj ((congrArg InviteHash.invitation
              (Function.update_self ..)).symm.trans hi)
            exact .inr hpeer.symm
          · refine .inl (Eq.trans ?_ hi)
            exact (congrArg InviteHash.invitation (Function.update_of_ne hq ..)).symm
        · exact .quiet [_] rfl rfl (by simp [Emission.gameId])
      · exact .of_same rfl rfl ⟨Nat.le_succ _, fun q i hi => .inl hi⟩

/-- An invite that passes the checks is stored, and is still pending. -/
theorem of_checkInvite {r : RoomId} {u : UserId} {invite : InviteHash} {i : Invitation}
    (h : checkInvite r u invite = .ok i) :
    invite.invitation = some i ∧ i.roomId = r ∧ i.inviteeUserId = u ∧
      invite.status = some .pending := by
  cases hi : invite.invitation with
  | none =>
      rw [checkInvite, hi] at h
      cases h
  | some i' =>
      simp only [checkInvite, hi] at h
      split at h
      · cases h
      rename_i hroom
      split at h
      · cases h
      rename_i hinvitee
      split at h
      · cases h
      rename_i hstatus
      cases h
      exact ⟨rfl, not_not.mp hroom, not_not.mp hinvitee, not_not.mp hstatus⟩

/-- A game that passes the checks is the active one, and the user plays it. -/
theorem of_checkActive {r : RoomId} {g : GameId} {u : UserId} {active : ActiveHash} {game : Game}
    (h : checkActive r g u active = .ok game) :
    active.game = some game ∧ game.roomId = r ∧ game.gameId = g ∧
      (u = game.whiteUserId ∨ u = game.blackUserId) := by
  cases hgame : active.game with
  | none =>
      rw [checkActive, hgame] at h
      cases h
  | some game' =>
      simp only [checkActive, hgame] at h
      split at h
      · cases h
      rename_i hid
      split at h
      · cases h
      rename_i hplayer
      cases h
      obtain ⟨hroom, hid⟩ := not_or.mp hid
      exact ⟨rfl, not_not.mp hroom, not_not.mp hid, by tauto⟩

theorem of_checkMove {r : RoomId} {u : UserId} {body : ChessMoveBody} {active : ActiveHash}
    {game : Game} (h : checkMove r u body active = .ok game) :
    checkActive r body.gameId u active = .ok game ∧ active.notYourTurn u = false := by
  cases hactive : checkActive r body.gameId u active with
  | error error =>
      rw [checkMove, hactive] at h
      cases h
  | ok game' =>
      simp only [checkMove, hactive] at h
      split at h
      · cases h
      cases h
      rename_i hturn
      exact ⟨rfl, eq_false_of_ne_true hturn⟩

theorem served_respondDirectRoomChessInvite (r : RoomId) (q : RequestId) (u : UserId)
    (accept : Bool) (input : Input) :
    Served w ((respondDirectRoomChessInvite r q u accept).run (exec db) w).2 input := by
  refine served_withContext db w fun peer _ w => ?_
  simp only [run_bind, run_perform, exec]
  cases hinvite : checkInvite r u (w.redis.invite q) with
  | error error => exact .of_same rfl rfl (.of_eq rfl rfl)
  | ok i =>
      obtain ⟨hi, -, hinvitee, -⟩ := of_checkInvite hinvite
      cases accept with
      | false => exact ⟨.setStatus le_rfl rfl, .quiet [_] rfl rfl (by simp [Emission.gameId])⟩
      | true =>
          simp only [afterCheck_ok, acceptInvite, if_true, run_bind, run_perform, exec]
          cases hnone : (w.redis.active r).game with
          | some game =>
              rw [show checkNoGame (w.redis.active r) = .error gameAlreadyActive by
                rw [checkNoGame, hnone]; rfl]
              exact .of_same rfl rfl (.of_eq rfl rfl)
          | none =>
              rw [show checkNoGame (w.redis.active r) = .ok () by rw [checkNoGame, hnone]; rfl]
              refine ⟨.setStatus (Nat.le_succ _) rfl, ?_⟩
              exact .started r _ q i hnone rfl (Nat.lt_succ_self _) rfl hi rfl hinvitee.symm rfl rfl

theorem served_endDirectRoomChessGame (r : RoomId) (g : GameId) (u : UserId) :
    Served w ((endDirectRoomChessGame r g u).run (exec db) w).2
      (.request ⟨r, u, .end_ g⟩) := by
  refine served_withContext db w fun peer _ w => ?_
  simp only [run_bind, run_perform, exec]
  cases hactive : checkActive r g u (w.redis.active r) with
  | error error => exact .of_same rfl rfl (.of_eq rfl rfl)
  | ok game =>
      obtain ⟨hgame, -, hid, -⟩ := of_checkActive hactive
      exact ⟨.of_eq rfl rfl, .ended r game _ hgame hid.symm rfl rfl rfl⟩

theorem served_moveDirectRoomChessGame (r : RoomId) (u : UserId) (body : ChessMoveBody) :
    Served w ((moveDirectRoomChessGame r u body).run (exec db) w).2
      (.request ⟨r, u, .move body⟩) := by
  refine served_withContext db w fun peer _ w => ?_
  simp only [run_bind, run_perform, exec]
  cases hmove : checkMove r u body (w.redis.active r) with
  | error error => exact .of_same rfl rfl (.of_eq rfl rfl)
  | ok game =>
      obtain ⟨hactive, hturn⟩ := of_checkMove hmove
      obtain ⟨hgame, -, hid, -⟩ := of_checkActive hactive
      refine ⟨?_, ?_⟩
      · cases body.isGameOver <;> exact .of_eq rfl rfl
      · cases hover : body.isGameOver with
        | true => exact .ended r game _ hgame hid.symm rfl rfl rfl
        | false => exact .moved r u body game _ _ _ hgame hid.symm hturn rfl rfl rfl rfl rfl

theorem served_offerDirectRoomChessDraw (r : RoomId) (g : GameId) (u : UserId) (input : Input) :
    Served w ((offerDirectRoomChessDraw r g u).run (exec db) w).2 input := by
  refine served_withContext db w fun peer _ w => ?_
  simp only [run_bind, run_perform, exec]
  cases checkActive r g u (w.redis.active r) with
  | error error => exact .of_same rfl rfl (.of_eq rfl rfl)
  | ok game =>
      simp only [afterCheck_ok, run_bind, run_perform, exec]
      cases w.redis.draw r g with
      | some offer => exact .of_same rfl rfl (.of_eq rfl rfl)
      | none => exact ⟨.of_eq rfl rfl, .quiet [_] rfl rfl (by simp [Emission.gameId])⟩

theorem served_respondDirectRoomChessDraw (r : RoomId) (g : GameId) (u : UserId)
    (accept : Bool) :
    Served w ((respondDirectRoomChessDraw r g u accept).run (exec db) w).2
      (.request ⟨r, u, .drawRespond g accept⟩) := by
  refine served_withContext db w fun peer _ w => ?_
  simp only [run_bind, run_perform, exec]
  cases w.redis.draw r g with
  | none => exact .of_same rfl rfl (.of_eq rfl rfl)
  | some offer =>
      dsimp only
      split
      · exact .of_same rfl rfl (.of_eq rfl rfl)
      cases accept with
      | false => exact ⟨.of_eq rfl rfl, .quiet [_] rfl rfl (by simp [Emission.gameId])⟩
      | true =>
          simp only [acceptDraw, if_true, run_bind, run_perform, exec]
          cases hgame : ((w.setDraw r g none).redis.active r).gameOf g with
          | none => exact .of_same rfl rfl (.of_eq rfl rfl)
          | some game =>
              obtain ⟨hactive, hid⟩ := Option.filter_eq_some_iff.mp hgame
              exact ⟨.of_eq rfl rfl,
                .ended r game _ hactive (of_decide_eq_true hid).symm rfl rfl rfl⟩

theorem served (input : Input) : Served w (serve db w input) input := by
  cases input with
  | request request =>
      obtain ⟨r, u, body⟩ := request
      cases body with
      | invite => exact served_createDirectRoomChessInvite db w r u _
      | respond q accept => exact served_respondDirectRoomChessInvite db w r q u accept _
      | end_ g => exact served_endDirectRoomChessGame db w r g u
      | move body => exact served_moveDirectRoomChessGame db w r u body
      | drawOffer g => exact served_offerDirectRoomChessDraw db w r g u _
      | drawRespond g accept => exact served_respondDirectRoomChessDraw db w r g u accept
  | expiry key =>
      cases key with
      | pending r => exact .of_same rfl rfl (.of_eq rfl rfl)
      | active r => exact ⟨.of_eq rfl rfl, .forgotten r rfl rfl⟩
      | draw r g => exact .of_same rfl rfl (.of_eq rfl rfl)
      | invite q =>
          refine .of_same rfl rfl ⟨le_rfl, fun q' i hi => ?_⟩
          by_cases hq : q' = q
          · subst hq
            have hnone : none = some i :=
              (congrArg InviteHash.invitation (Function.update_self ..)).symm.trans hi
            cases hnone
          · exact .inl ((congrArg InviteHash.invitation
              (Function.update_of_ne hq ..)).symm.trans hi)

end Serve

namespace Sample

def ann : UserId := ⟨"player-ann", by decide⟩
def ben : UserId := ⟨"player-ben", by decide⟩
def call : RoomId := ⟨"chess-call", by decide⟩

/-- A live direct call of the two players, at every moment. -/
def inCall (_ : ℕ) : Database where
  findRoomById _ := some ⟨.live, .direct⟩
  listActiveParticipantUserIds _ := [ann, ben]
  findUserDisplayLabel _ := "Member"

end Sample

end Greetup.Chess
