import Greetup.Chess.Serving

/-!
Whose turn it is, when the requests are processed one at a time.

The server keeps the player to move in `turnUserId` and lets nobody else move.
It takes the next turn, and the winner of a final move, from the body of the
move. So the players alternate exactly as far as the bodies say so, and the
announced winner is what the client of the final move announced.
-/

namespace Greetup.Chess

open Rooms (UserId RoomId)

/-! ### Runs -/

/-- The store and every emission so far, oldest first, with the input that
caused it. -/
structure History where
  world : World := {}
  log : List (Input × Emission) := []

def History.step (db : ℕ → Database) (h : History) (input : Input) : History where
  world := serve db h.world input
  log := h.log ++ ((serve db h.world input).sent.drop h.world.sent.length).map (input, ·)

/-- The history of a run from an empty store. -/
def played (db : ℕ → Database) (inputs : List Input) : History :=
  inputs.foldl (History.step db) {}

/-! ### What is announced of a game -/

def Emission.game : Emission → Option Game
  | .started _ _ game _ => some game
  | _ => none

def Emission.movedIn (gameId : GameId) : Emission → Option MovedPayload
  | .moved _ _ payload => if payload.gameId = gameId then some payload else none
  | _ => none

def Emission.endedPayload : Emission → Option EndedPayload
  | .ended _ _ payload => some payload
  | _ => none

/-- The accepted non-final moves of a game, in the order in which they were
announced. -/
def moves (gameId : GameId) (log : List (Input × Emission)) : List MovedPayload :=
  log.filterMap (·.2.movedIn gameId)

/-- The game was started in the run. -/
def Started (game : Game) (log : List (Input × Emission)) : Prop :=
  ∃ x ∈ log, x.2.game = some game

/-! ### The discipline, as it is meant and as it is kept -/

/-- White has the moves at even places, black the others. -/
def Alternates (game : Game) (ms : List MovedPayload) : Prop :=
  ∀ i m, ms[i]? = some m →
    m.movedByUserId = game.player (if i % 2 = 0 then .w else .b)

/-- Turns alternate, moves are numbered, and a player or nobody wins. -/
structure Disciplined (log : List (Input × Emission)) : Prop where
  alternates : ∀ game, Started game log → Alternates game (moves game.gameId log)
  numbered : ∀ game, Started game log → ∀ i m, (moves game.gameId log)[i]? = some m →
    m.moveNumber = i + 1
  winner : ∀ game, Started game log → ∀ x ∈ log, ∀ payload, x.2.endedPayload = some payload →
    payload.gameId = game.gameId →
    payload.winnerUserId = none ∨ payload.winnerUserId = some game.whiteUserId ∨
      payload.winnerUserId = some game.blackUserId

/-- White to begin with, then whoever the last move gave the turn to. -/
def nextMover (game : Game) (ms : List MovedPayload) : UserId :=
  match ms.getLast? with
  | none => game.whiteUserId
  | some m => game.player m.turn

/-- Each move is made by the player the previous ones left the turn to, and
numbered. -/
inductive Follows (game : Game) : List MovedPayload → Prop
  | nil : Follows game []
  | snoc {ms : List MovedPayload} {m : MovedPayload} (hms : Follows game ms)
      (hmover : m.movedByUserId = nextMover game ms) (hnumber : m.moveNumber = ms.length + 1) :
      Follows game (ms ++ [m])

/-- Every move but the last gives the turn to the opponent of who made it. -/
def PassesTurn (game : Game) (ms : List MovedPayload) : Prop :=
  ∀ i m, i + 1 < ms.length → ms[i]? = some m →
    game.player m.turn = game.opponent m.movedByUserId

/-- The turns go as the moves say, and so the players alternate exactly when
every move but the last passes the turn on; the winner is the opponent of who
resigned, nobody after a draw, and whom the final move names. -/
structure Directed (log : List (Input × Emission)) : Prop where
  follows : ∀ game, Started game log → Follows game (moves game.gameId log)
  alternates : ∀ game, Started game log →
    (Alternates game (moves game.gameId log) ↔ PassesTurn game (moves game.gameId log))
  numbered : ∀ game, Started game log → ∀ i m, (moves game.gameId log)[i]? = some m →
    m.moveNumber = i + 1
  winner : ∀ game, Started game log → ∀ x ∈ log, ∀ payload, x.2.endedPayload = some payload →
    payload.gameId = game.gameId → payload.winnerUserId = x.1.winner game

/-- A final move says that one of the players has won, or nobody. -/
def Input.NamesPlayer (game : Game) : Input → Prop
  | .request ⟨_, _, .move body⟩ => body.winnerUserId = none ∨
      body.winnerUserId = some game.whiteUserId ∨ body.winnerUserId = some game.blackUserId
  | _ => True

/-- Whatever has ended the game names a player. -/
def EndsForPlayer (game : Game) (log : List (Input × Emission)) : Prop :=
  ∀ x ∈ log, ∀ payload, x.2.endedPayload = some payload → payload.gameId = game.gameId →
    x.1.NamesPlayer game

/-! ### What the history records -/

section Record

variable {log : List (Input × Emission)} {game : Game} {g : GameId}

theorem moves_append (log' : List (Input × Emission)) :
    moves g (log ++ log') = moves g log ++ moves g log' := List.filterMap_append

theorem moves_eq_nil (h : ∀ x ∈ log, x.2.gameId ≠ some g) : moves g log = [] := by
  refine List.filterMap_eq_nil_iff.mpr fun x hx => ?_
  have hne := h x hx
  cases hemission : x.2 with
  | moved white black payload =>
      rw [hemission] at hne
      exact if_neg fun hid => hne (congrArg some hid)
  | _ => rfl

theorem Started.append (h : Started game log) (log' : List (Input × Emission)) :
    Started game (log ++ log') := by
  obtain ⟨x, hx, hgame⟩ := h
  exact ⟨x, List.mem_append_left _ hx, hgame⟩

theorem Started.of_append {log' : List (Input × Emission)} (h : Started game (log ++ log')) :
    Started game log ∨ Started game log' := by
  obtain ⟨x, hx, hgame⟩ := h
  rcases List.mem_append.mp hx with hx | hx
  · exact .inl ⟨x, hx, hgame⟩
  · exact .inr ⟨x, hx, hgame⟩

theorem Emission.gameId_of_game {e : Emission} (h : e.game = some game) :
    e.gameId = some game.gameId := by
  cases e with
  | started white black game' position =>
      cases h
      rfl
  | _ => cases h

theorem Emission.gameId_of_endedPayload {e : Emission} {payload : EndedPayload}
    (h : e.endedPayload = some payload) : e.gameId = some payload.gameId := by
  cases e with
  | ended white black payload' =>
      cases h
      rfl
  | _ => cases h

/-- What the store knows of each active game is what the log says of it. -/
structure Recorded (h : History) : Prop where
  old : ∀ x ∈ h.log, ∀ g, x.2.gameId = some g → g.index < h.world.issued
  invited : ∀ q i, (h.world.redis.invite q).invitation = some i →
    i.inviterUserId ≠ i.inviteeUserId
  active : ∀ r game, (h.world.redis.active r).game = some game →
    game.roomId = r ∧ Started game h.log ∧
      ∃ p, (h.world.redis.active r).position = some p ∧
        p.turnUserId = nextMover game (moves game.gameId h.log) ∧
        p.moveNumber = (moves game.gameId h.log).length
  distinct : ∀ game game', Started game h.log → Started game' h.log →
    game.gameId = game'.gameId → game = game'
  opposed : ∀ game, Started game h.log → game.whiteUserId ≠ game.blackUserId
  follows : ∀ game, Started game h.log → Follows game (moves game.gameId h.log)
  winner : ∀ game, Started game h.log → ∀ x ∈ h.log, ∀ payload,
    x.2.endedPayload = some payload → payload.gameId = game.gameId →
    payload.winnerUserId = x.1.winner game

namespace Recorded

variable {h : History} {w' : World} {input : Input}

theorem empty : Recorded {} := by
  constructor
  · intro x hx
    cases hx
  · intro q i hi
    cases hi
  · intro r game hgame
    cases hgame
  · rintro game game' ⟨x, hx, -⟩
    cases hx
  all_goals
    rintro game ⟨x, hx, -⟩
    cases hx

/-- Emissions about no game, while the active games stay or disappear. -/
theorem after_quiet (hrec : Recorded h) (honward : Onward h.world w') {es : List Emission}
    (hquiet : ∀ e ∈ es, e.gameId = none)
    (hactive : ∀ r game, (w'.redis.active r).game = some game →
      w'.redis.active r = h.world.redis.active r) :
    Recorded ⟨w', h.log ++ es.map (input, ·)⟩ := by
  have hnew : ∀ x ∈ es.map (input, ·), x.2.gameId = none := by
    intro x hx
    obtain ⟨e, he, rfl⟩ := List.mem_map.mp hx
    exact hquiet e he
  have hmoves : ∀ g, moves g (h.log ++ es.map (input, ·)) = moves g h.log := by
    intro g
    have hnil : moves g (es.map (input, ·)) = [] := by
      refine moves_eq_nil fun x hx hg => ?_
      rw [hnew x hx] at hg
      cases hg
    rw [moves_append, hnil, List.append_nil]
  have hstarted : ∀ game, Started game (h.log ++ es.map (input, ·)) → Started game h.log := by
    intro game hgame
    rcases hgame.of_append with hold | ⟨x, hx, hx'⟩
    · exact hold
    · have hid := Emission.gameId_of_game hx'
      rw [hnew x hx] at hid
      cases hid
  constructor
  · intro x hx g hg
    rcases List.mem_append.mp hx with hx | hx
    · exact (hrec.old x hx g hg).trans_le honward.issued
    · rw [hnew x hx] at hg
      cases hg
  · intro q i hi
    rcases honward.invited q i hi with hold | hne
    · exact hrec.invited q i hold
    · exact hne
  · intro r game hgame
    have hsame := hactive r game hgame
    obtain ⟨hroom, hstart, p, hp, hturn, hnumber⟩ := hrec.active r game (hsame ▸ hgame)
    refine ⟨hroom, hstart.append _, p, hsame ▸ hp, ?_, ?_⟩
    · rw [hmoves]
      exact hturn
    · rw [hmoves]
      exact hnumber
  · intro game game' hgame hgame'
    exact hrec.distinct game game' (hstarted game hgame) (hstarted game' hgame')
  · intro game hgame
    exact hrec.opposed game (hstarted game hgame)
  · intro game hgame
    rw [hmoves]
    exact hrec.follows game (hstarted game hgame)
  · intro game hgame x hx payload hpayload hid
    rcases List.mem_append.mp hx with hx | hx
    · exact hrec.winner game (hstarted game hgame) x hx payload hpayload hid
    · have hid := Emission.gameId_of_endedPayload hpayload
      rw [hnew x hx] at hid
      cases hid

/-- One emission about a started game leaves every other game's moves. -/
theorem moves_of_ne {x : Input × Emission} {log : List (Input × Emission)} {g : GameId}
    (hx : x.2.gameId ≠ some g) : moves g (log ++ [x]) = moves g log := by
  have hnil : moves g [x] = [] := by
    refine moves_eq_nil fun y hy => ?_
    rw [List.mem_singleton.mp hy]
    exact hx
  rw [moves_append, hnil, List.append_nil]

theorem started_of_ne {x : Input × Emission} {log : List (Input × Emission)} {game : Game}
    (hx : x.2.game = none) (h : Started game (log ++ [x])) : Started game log := by
  rcases h.of_append with hold | ⟨y, hy, hgame⟩
  · exact hold
  · rw [List.mem_singleton.mp hy, hx] at hgame
    cases hgame

/-- A game starts in a room that has none. -/
theorem after_started (hrec : Recorded h) (honward : Onward h.world w') {r : RoomId} {game : Game}
    {q : RequestId} {i : Invitation}
    (hid : game.gameId = ⟨h.world.issued⟩) (hissued : h.world.issued < w'.issued)
    (hroom : game.roomId = r) (hinvite : (h.world.redis.invite q).invitation = some i)
    (hwhite : game.whiteUserId = i.inviterUserId) (hblack : game.blackUserId = i.inviteeUserId)
    (hactive : w'.redis.active = Function.update h.world.redis.active r
      { h.world.redis.active r with game := some game, position := some game.initialPosition }) :
    Recorded ⟨w', h.log ++
      [(input, .started game.whiteUserId game.blackUserId game game.initialPosition)]⟩ := by
  have hfresh : ∀ x ∈ h.log, x.2.gameId ≠ some game.gameId := by
    intro x hx hx'
    have hlt := hrec.old x hx _ hx'
    rw [hid] at hlt
    exact lt_irrefl _ hlt
  have hother : ∀ game', Started game' h.log → game'.gameId ≠ game.gameId := by
    rintro game' ⟨x, hx, hgame⟩ heq
    exact hfresh x hx (heq ▸ Emission.gameId_of_game hgame)
  have hcases : ∀ game', Started game' (h.log ++
      [(input, .started game.whiteUserId game.blackUserId game game.initialPosition)]) →
      Started game' h.log ∨ game' = game := by
    intro game' hgame'
    rcases hgame'.of_append with hold | ⟨x, hx, hx'⟩
    · exact .inl hold
    · rw [List.mem_singleton.mp hx] at hx'
      cases hx'
      exact .inr rfl
  have hmoves : ∀ g, moves g (h.log ++
      [(input, .started game.whiteUserId game.blackUserId game game.initialPosition)]) =
      moves g h.log := by
    intro g
    rw [moves_append]
    exact List.append_nil _
  have hnil : moves game.gameId h.log = [] := moves_eq_nil hfresh
  constructor
  · intro x hx g hg
    rcases List.mem_append.mp hx with hx | hx
    · exact (hrec.old x hx g hg).trans hissued
    · rw [List.mem_singleton.mp hx] at hg
      cases hg
      rw [hid]
      exact hissued
  · intro q i hi
    rcases honward.invited q i hi with hold | hne
    · exact hrec.invited q i hold
    · exact hne
  · intro r' game' hgame'
    rw [hactive] at hgame' ⊢
    rw [hmoves]
    by_cases hr : r' = r
    · subst hr
      rw [Function.update_self] at hgame' ⊢
      cases hgame'
      refine ⟨hroom, ⟨_, List.mem_append_right _ (List.mem_singleton_self _), rfl⟩, _, rfl, ?_, ?_⟩
      · rw [hnil]
        rfl
      · rw [hnil]
        rfl
    · rw [Function.update_of_ne hr] at hgame' ⊢
      obtain ⟨hroom', hstart, hposition⟩ := hrec.active r' game' hgame'
      exact ⟨hroom', hstart.append _, hposition⟩
  · intro game₁ game₂ h₁ h₂ heq
    rcases hcases game₁ h₁ with hold₁ | heq₁
    · rcases hcases game₂ h₂ with hold₂ | heq₂
      · exact hrec.distinct game₁ game₂ hold₁ hold₂ heq
      · exact absurd (heq.trans (congrArg Game.gameId heq₂)) (hother game₁ hold₁)
    · rcases hcases game₂ h₂ with hold₂ | heq₂
      · exact absurd (heq.symm.trans (congrArg Game.gameId heq₁)) (hother game₂ hold₂)
      · exact heq₁.trans heq₂.symm
  · intro game' hgame'
    rcases hcases game' hgame' with hold | rfl
    · exact hrec.opposed game' hold
    · rw [hwhite, hblack]
      exact hrec.invited q i hinvite
  · intro game' hgame'
    rw [hmoves]
    rcases hcases game' hgame' with hold | rfl
    · exact hrec.follows game' hold
    · rw [hnil]
      exact .nil
  · intro game' hgame' x hx payload hpayload heq
    rcases List.mem_append.mp hx with hmem | hmem
    · have hid' := Emission.gameId_of_endedPayload hpayload
      rcases hcases game' hgame' with hold | rfl
      · exact hrec.winner game' hold x hmem payload hpayload heq
      · rw [heq] at hid'
        exact absurd hid' (hfresh x hmem)
    · rw [List.mem_singleton.mp hmem] at hpayload
      cases hpayload

theorem next_append (game : Game) (ms : List MovedPayload) (m : MovedPayload) :
    nextMover game (ms ++ [m]) = game.player m.turn := by
  rw [nextMover, List.getLast?_append_of_ne_nil _ (List.cons_ne_nil _ _)]
  rfl

/-- The player to move makes a move. -/
theorem after_moved (hrec : Recorded h) (honward : Onward h.world w') {r : RoomId} {game : Game}
    {position : Position} {lastMove : LastMove} {payload : MovedPayload}
    (hgame : (h.world.redis.active r).game = some game) (hid : payload.gameId = game.gameId)
    (hturn : (h.world.redis.active r).notYourTurn payload.movedByUserId = false)
    (hnumber : payload.moveNumber = (h.world.redis.active r).moveNumber + 1)
    (hnext : position.turnUserId = game.player payload.turn)
    (hposition : position.moveNumber = payload.moveNumber)
    (hactive : w'.redis.active = Function.update h.world.redis.active r
      { h.world.redis.active r with position := some position, lastMove := some lastMove }) :
    Recorded ⟨w', h.log ++ [(input, .moved game.whiteUserId game.blackUserId payload)]⟩ := by
  obtain ⟨hroom, hstart, p, hp, hpturn, hpnumber⟩ := hrec.active r game hgame
  have hmover : payload.movedByUserId = nextMover game (moves game.gameId h.log) := by
    rw [ActiveHash.notYourTurn, hp] at hturn
    simp only [Option.map_some, Option.any_some, decide_not, Bool.not_eq_false',
      decide_eq_true_eq] at hturn
    exact hturn.symm.trans hpturn
  have hcount : payload.moveNumber = (moves game.gameId h.log).length + 1 := by
    rw [hnumber, ActiveHash.moveNumber, hp, ← hpnumber]
    rfl
  have hmoves : moves game.gameId (h.log ++
      [(input, .moved game.whiteUserId game.blackUserId payload)]) =
      moves game.gameId h.log ++ [payload] := by
    have hsingle : moves game.gameId
        [(input, .moved game.whiteUserId game.blackUserId payload)] = [payload] := by
      simp [moves, Emission.movedIn, hid]
    rw [moves_append, hsingle]
  have hothers : ∀ g, g ≠ game.gameId → moves g (h.log ++
      [(input, .moved game.whiteUserId game.blackUserId payload)]) = moves g h.log :=
    fun g hg => moves_of_ne fun heq => hg (hid ▸ (Option.some.inj heq).symm)
  have hstarted : ∀ game', Started game' (h.log ++
      [(input, .moved game.whiteUserId game.blackUserId payload)]) → Started game' h.log :=
    fun game' => started_of_ne rfl
  constructor
  · intro x hx g hg
    rcases List.mem_append.mp hx with hx | hx
    · exact (hrec.old x hx g hg).trans_le honward.issued
    · rw [List.mem_singleton.mp hx] at hg
      cases hg
      obtain ⟨y, hy, hy'⟩ := hstart
      rw [hid]
      exact (hrec.old y hy _ (Emission.gameId_of_game hy')).trans_le honward.issued
  · intro q i hi
    rcases honward.invited q i hi with hold | hne
    · exact hrec.invited q i hold
    · exact hne
  · intro r' game' hgame'
    rw [hactive] at hgame' ⊢
    by_cases hr : r' = r
    · subst hr
      rw [Function.update_self] at hgame' ⊢
      obtain rfl := Option.some.inj (hgame.symm.trans hgame')
      refine ⟨hroom, hstart.append _, position, rfl, ?_, ?_⟩
      · rw [hmoves, next_append]
        exact hnext
      · rw [hmoves, List.length_append, hposition]
        exact hcount
    · rw [Function.update_of_ne hr] at hgame' ⊢
      obtain ⟨hroom', hstart', hposition'⟩ := hrec.active r' game' hgame'
      have hne : game'.gameId ≠ game.gameId := by
        intro heq
        rw [hrec.distinct game' game hstart' hstart heq] at hroom'
        exact hr (hroom'.symm.trans hroom)
      rw [hothers _ hne]
      exact ⟨hroom', hstart'.append _, hposition'⟩
  · intro game₁ game₂ h₁ h₂
    exact hrec.distinct game₁ game₂ (hstarted game₁ h₁) (hstarted game₂ h₂)
  · intro game' hgame'
    exact hrec.opposed game' (hstarted game' hgame')
  · intro game' hgame'
    by_cases heq : game'.gameId = game.gameId
    · obtain rfl := hrec.distinct game' game (hstarted game' hgame') hstart heq
      rw [hmoves]
      exact (hrec.follows game' hstart).snoc hmover hcount
    · rw [hothers _ heq]
      exact hrec.follows game' (hstarted game' hgame')
  · intro game' hgame' x hx payload' hpayload heq
    rcases List.mem_append.mp hx with hx | hx
    · exact hrec.winner game' (hstarted game' hgame') x hx payload' hpayload heq
    · rw [List.mem_singleton.mp hx] at hpayload
      cases hpayload

/-- A game ends. -/
theorem after_ended (hrec : Recorded h) (honward : Onward h.world w') {r : RoomId} {game : Game}
    {payload : EndedPayload} (hgame : (h.world.redis.active r).game = some game)
    (hid : payload.gameId = game.gameId) (hwinner : payload.winnerUserId = input.winner game)
    (hactive : w'.redis.active = Function.update h.world.redis.active r {}) :
    Recorded ⟨w', h.log ++ [(input, .ended game.whiteUserId game.blackUserId payload)]⟩ := by
  obtain ⟨hroom, hstart, hposition⟩ := hrec.active r game hgame
  have hmoves : ∀ g, moves g (h.log ++
      [(input, .ended game.whiteUserId game.blackUserId payload)]) = moves g h.log := by
    intro g
    rw [moves_append]
    exact List.append_nil _
  have hstarted : ∀ game', Started game' (h.log ++
      [(input, .ended game.whiteUserId game.blackUserId payload)]) → Started game' h.log :=
    fun game' => started_of_ne rfl
  constructor
  · intro x hx g hg
    rcases List.mem_append.mp hx with hx | hx
    · exact (hrec.old x hx g hg).trans_le honward.issued
    · rw [List.mem_singleton.mp hx] at hg
      cases hg
      obtain ⟨y, hy, hy'⟩ := hstart
      rw [hid]
      exact (hrec.old y hy _ (Emission.gameId_of_game hy')).trans_le honward.issued
  · intro q i hi
    rcases honward.invited q i hi with hold | hne
    · exact hrec.invited q i hold
    · exact hne
  · intro r' game' hgame'
    rw [hactive] at hgame' ⊢
    by_cases hr : r' = r
    · subst hr
      rw [Function.update_self] at hgame'
      cases hgame'
    · rw [Function.update_of_ne hr] at hgame' ⊢
      rw [hmoves]
      obtain ⟨hroom', hstart', hposition'⟩ := hrec.active r' game' hgame'
      exact ⟨hroom', hstart'.append _, hposition'⟩
  · intro game₁ game₂ h₁ h₂
    exact hrec.distinct game₁ game₂ (hstarted game₁ h₁) (hstarted game₂ h₂)
  · intro game' hgame'
    exact hrec.opposed game' (hstarted game' hgame')
  · intro game' hgame'
    rw [hmoves]
    exact hrec.follows game' (hstarted game' hgame')
  · intro game' hgame' x hx payload' hpayload heq
    rcases List.mem_append.mp hx with hx | hx
    · exact hrec.winner game' (hstarted game' hgame') x hx payload' hpayload heq
    · rw [List.mem_singleton.mp hx] at hpayload ⊢
      cases hpayload
      rw [hrec.distinct game' game (hstarted game' hgame') hstart (heq.symm.trans hid)]
      exact hwinner

theorem step (hrec : Recorded h) (db : ℕ → Database) (input : Input) :
    Recorded (h.step db input) := by
  obtain ⟨honward, hserves⟩ := served db h.world input
  rw [History.step]
  generalize serve db h.world input = w' at honward hserves
  cases hserves with
  | quiet emissions hactive hsent hquiet =>
      rw [hsent, List.drop_left]
      exact hrec.after_quiet honward hquiet fun r _ _ => congrFun hactive r
  | forgotten r hactive hsent =>
      rw [hsent, List.drop_length]
      refine hrec.after_quiet honward (by simp) fun r' game hgame => ?_
      rw [hactive] at hgame ⊢
      by_cases hr : r' = r
      · subst hr
        rw [Function.update_self] at hgame
        cases hgame
      · rw [Function.update_of_ne hr]
  | started r game q i hnone hid hissued hroom hinvite hwhite hblack hactive hsent =>
      rw [hsent, List.drop_left]
      exact hrec.after_started honward hid hissued hroom hinvite hwhite hblack hactive
  | moved r u body game position lastMove payload hgame hid hturn hnumber hnext hposition hactive
      hsent =>
      rw [hsent, List.drop_left]
      exact hrec.after_moved honward hgame hid hturn hnumber hnext hposition hactive
  | ended r game payload hgame hid hwinner hactive hsent =>
      rw [hsent, List.drop_left]
      exact hrec.after_ended honward hgame hid hwinner hactive

end Recorded

theorem recorded_played (db : ℕ → Database) (inputs : List Input) :
    Recorded (played db inputs) := by
  suffices ∀ h, Recorded h → Recorded (inputs.foldl (History.step db) h) from this {} .empty
  induction inputs with
  | nil => exact fun h hrec => hrec
  | cons input inputs ih => exact fun h hrec => ih (h.step db input) (hrec.step db input)

end Record

/-! ### Turns -/

section Follows

variable {game : Game} {ms : List MovedPayload}

theorem Follows.number (h : Follows game ms) {i : ℕ} {m : MovedPayload} (hi : ms[i]? = some m) :
    m.moveNumber = i + 1 := by
  induction h with
  | nil => cases hi
  | snoc hms hmover hnumber ih =>
      rename_i ms last
      rcases lt_trichotomy i ms.length with hlt | heq | hgt
      · exact ih ((List.getElem?_append_left hlt).symm.trans hi)
      · subst heq
        rw [List.getElem?_concat_length, Option.some.injEq] at hi
        rw [← hi]
        exact hnumber
      · have hlt := (List.getElem?_eq_some_iff.mp hi).1
        simp only [List.length_append, List.length_singleton] at hlt
        omega

theorem Follows.first (h : Follows game ms) {m : MovedPayload} (hm : ms[0]? = some m) :
    m.movedByUserId = game.whiteUserId := by
  induction h with
  | nil => cases hm
  | snoc hms hmover hnumber ih =>
      rename_i ms last
      cases ms with
      | nil =>
          cases hm
          exact hmover
      | cons first rest => exact ih hm

theorem Follows.next (h : Follows game ms) {i : ℕ} {m m' : MovedPayload}
    (hm : ms[i]? = some m) (hm' : ms[i + 1]? = some m') :
    m'.movedByUserId = game.player m.turn := by
  induction h with
  | nil => cases hm
  | snoc hms hmover hnumber ih =>
      rename_i ms last
      have hlt := (List.getElem?_eq_some_iff.mp hm').1
      simp only [List.length_append, List.length_singleton] at hlt
      rcases Nat.lt_or_ge (i + 1) ms.length with hin | hout
      · rw [List.getElem?_append_left (by omega)] at hm hm'
        exact ih hm hm'
      · have hlen : ms.length = i + 1 := by omega
        rw [← hlen, List.getElem?_concat_length, Option.some.injEq] at hm'
        rw [List.getElem?_append_left (by omega)] at hm
        rw [← hm', hmover, nextMover, List.getLast?_eq_getElem?, hlen, Nat.add_sub_cancel, hm]

theorem Game.opponent_player (hne : game.whiteUserId ≠ game.blackUserId) (turn : Turn) :
    game.opponent (game.player turn) = game.player (if turn = .w then .b else .w) := by
  cases turn with
  | w => exact if_pos rfl
  | b => exact if_neg hne.symm

/-- The opponent of who moves at one place moves at the next. -/
theorem Game.opponent_at (hne : game.whiteUserId ≠ game.blackUserId) (i : ℕ) :
    game.opponent (game.player (if i % 2 = 0 then .w else .b)) =
      game.player (if (i + 1) % 2 = 0 then .w else .b) := by
  rw [Game.opponent_player hne]
  rcases Nat.mod_two_eq_zero_or_one i with hi | hi
  · have hsucc : (i + 1) % 2 = 1 := by omega
    simp [hi, hsucc]
  · have hsucc : (i + 1) % 2 = 0 := by omega
    simp [hi, hsucc]

/-- The players alternate exactly as far as every move passes the turn on. -/
theorem Follows.alternates_iff (h : Follows game ms) (hne : game.whiteUserId ≠ game.blackUserId) :
    Alternates game ms ↔ PassesTurn game ms := by
  constructor
  · intro halt i m hlt hm
    obtain ⟨m', hm'⟩ : ∃ m', ms[i + 1]? = some m' := ⟨_, List.getElem?_eq_getElem hlt⟩
    have hnext := h.next hm hm'
    rw [← hnext, halt (i + 1) m' hm', halt i m hm, Game.opponent_at hne]
  · intro hpass i
    induction i with
    | zero =>
        intro m hm
        exact h.first hm
    | succ i ih =>
        intro m' hm'
        have hlt := (List.getElem?_eq_some_iff.mp hm').1
        obtain ⟨m, hm⟩ : ∃ m, ms[i]? = some m := ⟨_, List.getElem?_eq_getElem (by omega)⟩
        rw [h.next hm hm', hpass i m hlt hm, ih m hm, Game.opponent_at hne]

end Follows

/-- **Turns.** In every run the turns of every game go as its moves say. -/
theorem directed_played (db : ℕ → Database) (inputs : List Input) :
    Directed (played db inputs).log where
  follows := (recorded_played db inputs).follows
  alternates game hgame :=
    ((recorded_played db inputs).follows game hgame).alternates_iff
      ((recorded_played db inputs).opposed game hgame)
  numbered game hgame _ _ hi := ((recorded_played db inputs).follows game hgame).number hi
  winner := (recorded_played db inputs).winner

/-! ### When the discipline is kept -/

theorem Game.opponent_eq (game : Game) (userId : UserId) :
    game.opponent userId = game.whiteUserId ∨ game.opponent userId = game.blackUserId := by
  rw [Game.opponent]
  split
  · exact .inr rfl
  · exact .inl rfl

/-- Who resigns names the opponent and a draw names nobody; only a final move
can name anybody else. -/
theorem Input.winner_iff (game : Game) (input : Input) :
    (input.winner game = none ∨ input.winner game = some game.whiteUserId ∨
      input.winner game = some game.blackUserId) ↔ input.NamesPlayer game := by
  cases input with
  | expiry key => exact iff_of_true (.inl rfl) trivial
  | request request =>
      obtain ⟨roomId, userId, action⟩ := request
      cases action with
      | move body => exact Iff.rfl
      | end_ gameId =>
          refine iff_of_true (.inr ?_) trivial
          exact (game.opponent_eq userId).imp (congrArg some) (congrArg some)
      | _ => exact iff_of_true (.inl rfl) trivial

/-- **The discipline** is kept exactly in the runs in which every accepted move
but the last of a game leaves the turn to the opponent, and the final moves name
a player or nobody. -/
theorem disciplined_iff_passesTurn (db : ℕ → Database) (inputs : List Input) :
    Disciplined (played db inputs).log ↔ ∀ game, Started game (played db inputs).log →
      PassesTurn game (moves game.gameId (played db inputs).log) ∧
        EndsForPlayer game (played db inputs).log := by
  have hdirected := directed_played db inputs
  constructor
  · intro h game hgame
    refine ⟨(hdirected.alternates game hgame).mp (h.alternates game hgame), ?_⟩
    intro x hx payload hpayload hid
    rw [← Input.winner_iff, ← hdirected.winner game hgame x hx payload hpayload hid]
    exact h.winner game hgame x hx payload hpayload hid
  · intro h
    constructor
    · exact fun game hgame => (hdirected.alternates game hgame).mpr (h game hgame).1
    · exact hdirected.numbered
    · intro game hgame x hx payload hpayload hid
      rw [hdirected.winner game hgame x hx payload hpayload hid]
      exact (Input.winner_iff game x.1).mpr ((h game hgame).2 x hx payload hpayload hid)

/-! ### A run that does not alternate -/

namespace Sample

def eve : UserId := ⟨"onlooker-eve", by decide⟩

/-- The body of a first move that leaves the turn with the mover's colour. -/
def keepsTurn (isGameOver : Bool) (winnerUserId : Option UserId) : ChessMoveBody where
  gameId := ⟨1⟩
  fromSquare := "e2"
  toSquare := "e4"
  san := "e4"
  fen := "rnbqkbnr/pppppppp/8/8/4P3/8/PPPP1PPP/RNBQKBNR w KQkq - 0 1"
  turn := .w
  isGameOver
  winnerUserId
  result := .checkmate
  from_length := by decide
  to_length := by decide
  san_length := by decide
  fen_length := by decide +kernel

/-- Ann invites Ben, who accepts; she moves twice in a row and then announces
that somebody else has won. -/
def annAlone : List Input :=
  [.request ⟨call, ann, .invite⟩, .request ⟨call, ben, .respond ⟨0⟩ true⟩,
    .request ⟨call, ann, .move (keepsTurn false none)⟩,
    .request ⟨call, ann, .move (keepsTurn false none)⟩,
    .request ⟨call, ann, .move (keepsTurn true (some eve))⟩]

def game : Game where
  gameId := ⟨1⟩
  roomId := call
  whiteUserId := ann
  blackUserId := ben
  startedByUserId := ben

theorem annAlone_log :
    Started game (played inCall annAlone).log ∧
      (moves game.gameId (played inCall annAlone).log).map (·.movedByUserId) = [ann, ann] ∧
      ∃ x ∈ (played inCall annAlone).log, (x.2.endedPayload.map fun payload =>
        (payload.gameId, payload.winnerUserId)) = some (game.gameId, some eve) := by
  unfold Started
  decide +kernel

/-- Neither does the run alternate nor has a player won at its end. -/
theorem annAlone_not_disciplined :
    ¬ Disciplined (played inCall annAlone).log ∧
      ¬ Alternates game (moves game.gameId (played inCall annAlone).log) ∧
      ∃ x ∈ (played inCall annAlone).log, ∃ payload, x.2.endedPayload = some payload ∧
        payload.gameId = game.gameId ∧ payload.winnerUserId = some eve ∧
        eve ≠ game.whiteUserId ∧ eve ≠ game.blackUserId := by
  obtain ⟨hstart, hmovers, x, hx, hwinner⟩ := annAlone_log
  have halt : ¬ Alternates game (moves game.gameId (played inCall annAlone).log) := by
    intro h
    have hmap := congrArg (·[1]?) hmovers
    simp only [List.getElem?_map] at hmap
    obtain ⟨m, hm, hmover⟩ := Option.map_eq_some_iff.mp hmap
    have hblack : ann = ben := hmover.symm.trans (h 1 m hm)
    exact absurd hblack (by decide)
  obtain ⟨payload, hpayload, hpair⟩ := Option.map_eq_some_iff.mp hwinner
  obtain ⟨hid, hwin⟩ := Prod.mk.inj hpair
  exact ⟨fun h => halt (h.alternates game hstart), halt, x, hx, payload, hpayload, hid, hwin,
    by decide, by decide⟩

end Sample

end Greetup.Chess
