import Greetup.Chess.Serving
import Greetup.Interleaving.Ledger

/-!
The life of a game when requests overlap.

A handler reads what it needs, checks it, and only then writes; nothing holds
the two together. What is wanted of a game, that it starts once, ends once and
is gone after that, therefore rests on four pairs of requests not overlapping:
two that accept one invite, two that end one game, one that ends a game and one
that moves in it, each way round.
-/

namespace Greetup.Chess

open Greetup.Interleaving Prog
open Rooms (UserId RoomId)

/-! ### The ledger of a game -/

/-- What the commands of a request leave in the ledger. -/
inductive Mark
  | readInvite (q : RequestId)
  | readActive (r : RoomId)
  | drew (id : Uuid)
  | invited (q : RequestId)
  | accepted (q : RequestId)
  /-- a game is stored for an invite -/
  | stored (q : RequestId) (r : RoomId) (g : GameId)
  | played (g : GameId)
  | deleted (g : GameId)
  /-- a game is announced for an invite -/
  | started (q : RequestId)
  | moved (g : GameId)
  | ended (g : GameId)
  deriving DecidableEq

/-- The invite a request answers. -/
def Body.requestId : Body → Option RequestId
  | .respond q _ => some q
  | _ => none

/-- The game a request is about. -/
def Body.gameId : Body → Option GameId
  | .end_ g => some g
  | .move body => some body.gameId
  | .drawOffer g => some g
  | .drawRespond g _ => some g
  | _ => none

/-- The mark a command leaves when a request with this body issues it. -/
def Cmd.mark (body : Body) : (c : Cmd) → c.Reply → Option Mark
  | .hgetallInvite q, _ => some (.readInvite q)
  | .hgetallActive r, _ => some (.readActive r)
  | .randomUUID, id => some (.drew id)
  | .hsetInvite i, _ => some (.invited i.requestId)
  | .hsetInviteStatus q .accepted _, _ => some (.accepted q)
  | .hsetActiveGame r game, _ => body.requestId.map (.stored · r game.gameId)
  | .hsetActiveMove _ position _, _ => some (.played position.game)
  | .delActive _, _ => body.gameId.map .deleted
  | .emit (.started ..), _ => body.requestId.map .started
  | .emit (.moved _ _ payload), _ => some (.moved payload.gameId)
  | .emit (.ended _ _ payload), _ => some (.ended payload.gameId)
  | _, _ => none

/-- The commands that leave a mark, whoever issues them. -/
def Cmd.marks : Cmd → Bool
  | .hgetallInvite _ | .hgetallActive _ | .randomUUID | .hsetInvite _ => true
  | .hsetInviteStatus _ .accepted _ => true
  | .hsetActiveGame .. | .hsetActiveMove .. | .delActive _ => true
  | .emit (.started ..) | .emit (.moved ..) | .emit (.ended ..) => true
  | _ => false

theorem Cmd.mark_eq_none {body : Body} {c : Cmd} {reply : c.Reply} (hc : ¬ c.marks) :
    c.mark body reply = none := by
  cases c with
  | hsetInviteStatus q status gameId =>
      cases status with
      | accepted => exact absurd rfl hc
      | _ => rfl
  | emit emission =>
      cases emission with
      | started | moved | ended => exact absurd rfl hc
      | _ => rfl
  | hgetallInvite | hgetallActive | randomUUID | hsetInvite => exact absurd rfl hc
  | hsetActiveGame | hsetActiveMove | delActive => exact absurd rfl hc
  | _ => rfl

variable {ι : Type}

/-- The marks of a run, with the requests that made them. -/
abbrev marking (requests : ι → Request) (t : ι) (c : Cmd) (reply : c.Reply) : Option Mark :=
  c.mark (requests t).body reply

/-- A field of the hash was written for the game. -/
def ActiveHash.Holds (active : ActiveHash) (g : GameId) : Prop :=
  (∃ game, active.game = some game ∧ game.gameId = g) ∨
    (∃ position, active.position = some position ∧ position.game = g) ∨
    ∃ lastMove, active.lastMove = some lastMove ∧ lastMove.game = g

/-- An invite leads to one start at most; a game ends once at most, has no move
announced after that, and leaves no field behind. -/
structure OnceEach (requests : ι → Request) (s : Scene ι Cmd Cmd.Reply World) : Prop where
  started : ∀ q, (s.ledger (marking requests)).countP (·.2 = .started q) ≤ 1
  ended : ∀ g, (s.ledger (marking requests)).countP (·.2 = .ended g) ≤ 1
  /-- the ledger is newest first -/
  silent : (s.ledger (marking requests)).Pairwise fun later earlier =>
    ∀ g, later.2 = .moved g → earlier.2 ≠ .ended g
  cleared : ∀ g, (∃ t, (t, .ended g) ∈ s.ledger (marking requests)) →
    ∀ r, ¬ (s.world.redis.active r).Holds g

/-! ### Overlaps -/

section NoOverlap

variable [DecidableEq ι]

def Mark.storedFor (q : RequestId) : Mark → Bool
  | .stored q' _ _ => q' = q
  | _ => false

/-- Every other request that has stored a game for the invite had marked it
accepted by the time this one read it. -/
def AcceptsInTurn (t : ι) (q : RequestId) (l : List (ι × Mark)) : Prop :=
  ∀ x ∈ l, x.2.storedFor q → (x.1, .accepted q) ∈ upTo (t, .readInvite q) l

/-- Nobody has deleted the active key for the game since the caller read it. -/
def StillThere (t : ι) (r : RoomId) (g : GameId) (l : List (ι × Mark)) : Prop :=
  ∀ x ∈ newerThan (t, .readActive r) l, x.2 ≠ .deleted g

/-- Every move of the game that has been stored has been announced. -/
def MovesAnnounced (g : GameId) (l : List (ι × Mark)) : Prop :=
  ∀ x ∈ l, x.2 = .played g → (x.1, .moved g) ∈ l

def Cmd.startsGame : Cmd → Bool
  | .hsetActiveGame _ _ => true
  | _ => false

/-- The room whose active key a request writes for the game it is about. -/
def Cmd.writesGame : Cmd → Option RoomId
  | .delActive r => some r
  | .hsetActiveMove r _ _ => some r
  | _ => none

def Cmd.endsGame : Cmd → Option GameId
  | .emit (.ended _ _ payload) => some payload.gameId
  | _ => none

/-- No request writes on the strength of a reading that an overlapping request
has made void, and no game is announced as ended in the middle of a move. -/
structure NoOverlap (requests : ι → Request) (t : ι) (c : Cmd)
    (s : Scene ι Cmd Cmd.Reply World) : Prop where
  start : c.startsGame → ∀ q ∈ (requests t).body.requestId,
    AcceptsInTurn t q (s.ledger (marking requests))
  write : ∀ r ∈ c.writesGame, ∀ g ∈ (requests t).body.gameId,
    StillThere t r g (s.ledger (marking requests))
  finish : ∀ g ∈ c.endsGame, MovesAnnounced g (s.ledger (marking requests))

instance (t : ι) (q : RequestId) (l : List (ι × Mark)) : Decidable (AcceptsInTurn t q l) :=
  inferInstanceAs (Decidable (∀ x ∈ l, _ → _))

instance (t : ι) (r : RoomId) (g : GameId) (l : List (ι × Mark)) :
    Decidable (StillThere t r g l) :=
  inferInstanceAs (Decidable (∀ x ∈ newerThan _ _, _))

instance (g : GameId) (l : List (ι × Mark)) : Decidable (MovesAnnounced g l) :=
  inferInstanceAs (Decidable (∀ x ∈ l, _ → _))

instance (requests : ι → Request) (t : ι) (c : Cmd) (s : Scene ι Cmd Cmd.Reply World) :
    Decidable (NoOverlap requests t c s) :=
  decidable_of_iff
    ((c.startsGame → ∀ q ∈ (requests t).body.requestId,
        AcceptsInTurn t q (s.ledger (marking requests))) ∧
      (∀ r ∈ c.writesGame, ∀ g ∈ (requests t).body.gameId,
        StillThere t r g (s.ledger (marking requests))) ∧
      ∀ g ∈ c.endsGame, MovesAnnounced g (s.ledger (marking requests)))
    ⟨fun h => ⟨h.1, h.2.1, h.2.2⟩, fun h => ⟨h.start, h.write, h.finish⟩⟩

end NoOverlap

/-! ### The invariant -/

/-- Two marks of which the ledger never holds the one with the other before it. -/
def Mark.Clashes : (later earlier : Mark) → Prop
  | .drew id, .drew id' => id = id'
  | .stored q _ g, .stored q' _ g' => q = q' ∨ g = g'
  | .deleted g, .deleted g' => g = g'
  | .started q, .started q' => q = q'
  | .ended g, .ended g' => g = g'
  | .moved g, .ended g' => g = g'
  | _, _ => False

/-- What the ledger says of itself. -/
structure Ordered (l : List (ι × Mark)) : Prop where
  clear : l.Pairwise fun later earlier => ¬ later.2.Clashes earlier.2
  invitedDrew : ∀ t q, (t, .invited q) ∈ l → (t, .drew q) ∈ l
  storedDrew : ∀ t q r g, (t, .stored q r g) ∈ l → (t, .drew g) ∈ l
  acceptedInvited : ∀ t q, (t, .accepted q) ∈ l → ∃ t', (t', .invited q) ∈ l
  deletedStored : ∀ t g, (t, .deleted g) ∈ l → ∃ t' q r, (t', .stored q r g) ∈ l
  startedStored : ∀ t q, (t, .started q) ∈ l → ∃ r g, (t, .stored q r g) ∈ l
  endedDeleted : ∀ t g, (t, .ended g) ∈ l → (t, .deleted g) ∈ l
  announced : ∀ t t' g, (t, .ended g) ∈ l → (t', .played g) ∈ l → (t', .moved g) ∈ l

/-- What the ledger says of the store. -/
structure Mirrored (l : List (ι × Mark)) (w : World) : Prop where
  issued : ∀ t id, (t, .drew id) ∈ l → id.index < w.issued
  invitation : ∀ q, (w.redis.invite q).invitation ≠ none → ∃ t, (t, .invited q) ∈ l
  pending : ∀ q, (w.redis.invite q).status = some .pending → ∀ t, (t, .accepted q) ∉ l
  holds : ∀ r g, (w.redis.active r).Holds g → ∃ t q, (t, .stored q r g) ∈ l
  gone : ∀ r g, (w.redis.active r).Holds g → ∀ t, (t, .deleted g) ∉ l

structure Kept (l : List (ι × Mark)) (w : World) : Prop extends Ordered l, Mirrored l w

section Ordered

variable {l : List (ι × Mark)} {t t' : ι}

theorem Ordered.drewOnce (h : Ordered l) {id : Uuid} (ht : (t, .drew id) ∈ l)
    (ht' : (t', .drew id) ∈ l) : t = t' := by
  rcases eq_or_of_pairwise h.clear ht ht' with heq | hclash | hclash
  · exact congrArg Prod.fst heq
  · exact absurd rfl hclash
  · exact absurd rfl hclash

theorem Ordered.storedIn (h : Ordered l) {q q' : RequestId} {r r' : RoomId} {g : GameId}
    (ht : (t, .stored q r g) ∈ l) (ht' : (t', .stored q' r' g) ∈ l) : r = r' := by
  rcases eq_or_of_pairwise h.clear ht ht' with heq | hclash | hclash
  · cases heq
    rfl
  · exact absurd (.inr rfl) hclash
  · exact absurd (.inr rfl) hclash

theorem Ordered.storedFor (h : Ordered l) {q : RequestId} {r r' : RoomId} {g g' : GameId}
    (ht : (t, .stored q r g) ∈ l) (ht' : (t', .stored q r' g') ∈ l) : t = t' := by
  rcases eq_or_of_pairwise h.clear ht ht' with heq | hclash | hclash
  · exact congrArg Prod.fst heq
  · exact absurd (.inl rfl) hclash
  · exact absurd (.inl rfl) hclash

theorem Ordered.deletedOnce (h : Ordered l) {g : GameId} (ht : (t, .deleted g) ∈ l)
    (ht' : (t', .deleted g) ∈ l) : t = t' := by
  rcases eq_or_of_pairwise h.clear ht ht' with heq | hclash | hclash
  · exact congrArg Prod.fst heq
  · exact absurd rfl hclash
  · exact absurd rfl hclash

/-- When caller `t` may make an entry. -/
def Mark.Fits (t : ι) (l : List (ι × Mark)) : Mark → Prop
  | .readInvite _ | .readActive _ => True
  | .drew id => ∀ t', (t', .drew id) ∉ l
  | .invited q => (t, .drew q) ∈ l
  | .accepted q => ∃ t', (t', .invited q) ∈ l
  | .stored q _ g => (t, .drew g) ∈ l ∧ (∀ t' r g', (t', .stored q r g') ∉ l) ∧
      ∀ t' q' r, (t', .stored q' r g) ∉ l
  | .played g => ∀ t', (t', .ended g) ∉ l
  | .deleted g => (∃ t' q r, (t', .stored q r g) ∈ l) ∧ ∀ t', (t', .deleted g) ∉ l
  | .started q => (∃ r g, (t, .stored q r g) ∈ l) ∧ ∀ t', (t', .started q) ∉ l
  | .moved g => ∀ t', (t', .ended g) ∉ l
  | .ended g => (t, .deleted g) ∈ l ∧ (∀ t', (t', .ended g) ∉ l) ∧ MovesAnnounced g l

/-- An entry that fits clashes with none before it. -/
theorem Mark.Fits.not_clashes {m : Mark} (hm : m.Fits t l) {x : ι × Mark} (hx : x ∈ l) :
    ¬ m.Clashes x.2 := by
  obtain ⟨t', m'⟩ := x
  intro hclash
  cases m with
  | drew id =>
      cases m' with
      | drew id' =>
          obtain rfl : id = id' := hclash
          exact hm t' hx
      | _ => exact hclash
  | stored q r g =>
      cases m' with
      | stored q' r' g' =>
          rcases hclash with rfl | rfl
          · exact hm.2.1 t' r' g' hx
          · exact hm.2.2 t' q' r' hx
      | _ => exact hclash
  | deleted g =>
      cases m' with
      | deleted g' =>
          obtain rfl : g = g' := hclash
          exact hm.2 t' hx
      | _ => exact hclash
  | started q =>
      cases m' with
      | started q' =>
          obtain rfl : q = q' := hclash
          exact hm.2 t' hx
      | _ => exact hclash
  | moved g =>
      cases m' with
      | ended g' =>
          obtain rfl : g = g' := hclash
          exact hm t' hx
      | _ => exact hclash
  | ended g =>
      cases m' with
      | ended g' =>
          obtain rfl : g = g' := hclash
          exact hm.2.1 t' hx
      | _ => exact hclash
  | _ => exact hclash

theorem Ordered.cons (h : Ordered l) {m : Mark} (hm : m.Fits t l) : Ordered ((t, m) :: l) := by
  have hclear : ((t, m) :: l).Pairwise fun later earlier => ¬ later.2.Clashes earlier.2 :=
    List.pairwise_cons.mpr ⟨fun x hx => hm.not_clashes hx, h.clear⟩
  cases h
  cases m <;> simp only [Mark.Fits, MovesAnnounced] at hm <;> constructor <;> grind

end Ordered

section Mirrored

variable {l : List (ι × Mark)} {w w' : World} {t : ι}

/-- When the store agrees with a new entry. -/
def Mark.Shows (w : World) : Mark → Prop
  | .drew id => id.index < w.issued
  | .accepted q => (w.redis.invite q).status ≠ some .pending
  | .deleted g => ∀ r, ¬ (w.redis.active r).Holds g
  | _ => True

theorem Mirrored.cons (h : Mirrored l w) {m : Mark} (hm : m.Shows w) :
    Mirrored ((t, m) :: l) w := by
  cases h
  cases m <;> simp only [Mark.Shows] at hm <;> constructor <;> grind

theorem Mirrored.of_same (h : Mirrored l w) (hactive : w'.redis.active = w.redis.active)
    (hinvite : w'.redis.invite = w.redis.invite) (hissued : w'.issued = w.issued) :
    Mirrored l w' := by
  obtain ⟨issued, invitation, pending, holds, gone⟩ := h
  rw [← hactive] at holds gone
  rw [← hinvite] at invitation pending
  rw [← hissued] at issued
  exact ⟨issued, invitation, pending, holds, gone⟩

theorem Mirrored.issueId (h : Mirrored l w) : Mirrored l w.issueId where
  issued t id hmem := (h.issued t id hmem).trans (Nat.lt_succ_self _)
  invitation := h.invitation
  pending := h.pending
  holds := h.holds
  gone := h.gone

theorem Mirrored.setInvite (h : Mirrored l w) {q : RequestId} {invite : InviteHash}
    (hinvited : ∃ t, (t, .invited q) ∈ l)
    (hpending : invite.status = some .pending → ∀ t, (t, .accepted q) ∉ l) :
    Mirrored l (w.setInvite q invite) where
  issued := h.issued
  invitation q' hq' := by
    rw [World.setInvite_invite] at hq'
    split at hq'
    · rename_i heq
      exact heq ▸ hinvited
    · exact h.invitation q' hq'
  pending q' hq' := by
    rw [World.setInvite_invite] at hq'
    split at hq'
    · rename_i heq
      exact heq ▸ hpending hq'
    · exact h.pending q' hq'
  holds := h.holds
  gone := h.gone

theorem Mirrored.setActive (h : Mirrored l w) {r : RoomId} {active : ActiveHash}
    (hholds : ∀ g, active.Holds g → ∃ t q, (t, .stored q r g) ∈ l)
    (hgone : ∀ g, active.Holds g → ∀ t, (t, .deleted g) ∉ l) :
    Mirrored l (w.setActive r active) where
  issued := h.issued
  invitation := h.invitation
  pending := h.pending
  holds r' g hg := by
    rw [World.setActive_active] at hg
    split at hg
    · rename_i heq
      exact heq ▸ hholds g hg
    · exact h.holds r' g hg
  gone r' g hg := by
    rw [World.setActive_active] at hg
    split at hg
    · exact hgone g hg
    · exact h.gone r' g hg

end Mirrored

/-! ### The fields of the active hash -/

section Holds

variable {active : ActiveHash} {g : GameId}

theorem ActiveHash.not_holds_empty : ¬ ({} : ActiveHash).Holds g := by
  rintro (⟨game, h, -⟩ | ⟨position, h, -⟩ | ⟨lastMove, h, -⟩) <;> cases h

theorem ActiveHash.holds_of_game {game : Game} (h : active.game = some game)
    (hid : game.gameId = g) : active.Holds g := .inl ⟨game, h, hid⟩

theorem ActiveHash.Holds.of_start {game : Game}
    (h : ({ active with game := some game, position := some game.initialPosition } :
      ActiveHash).Holds g) : g = game.gameId ∨ active.Holds g := by
  rcases h with ⟨game', h, rfl⟩ | ⟨position, h, rfl⟩ | hlast
  · cases h
    exact .inl rfl
  · cases h
    exact .inl rfl
  · exact .inr (.inr (.inr hlast))

theorem ActiveHash.Holds.of_move {position : Position} {lastMove : LastMove}
    (h : ({ active with position := some position, lastMove := some lastMove } :
      ActiveHash).Holds g) : g = position.game ∨ g = lastMove.game ∨ active.Holds g := by
  rcases h with hgame | ⟨position, h, rfl⟩ | ⟨lastMove, h, rfl⟩
  · exact .inr (.inr (.inl hgame))
  · cases h
    exact .inl rfl
  · cases h
    exact .inr (.inl rfl)

end Holds

end Greetup.Chess
