import Greetup.Chess.Marks

/-!
The handlers, each safe to run among the others as long as none overlaps with
another in the ways `NoOverlap` excludes, and the life of a game that follows.
-/

namespace Greetup.Chess

open Greetup.Interleaving Prog
open Rooms (UserId RoomId)

variable {ι : Type} [DecidableEq ι] {db : ℕ → Database} {requests : ι → Request}

def lifecycle (db : ℕ → Database) (requests : ι → Request) : Outline ι (exec db) where
  key c := c.marks
  inv s := Kept (s.ledger (marking requests)) s.world
  allowed := NoOverlap requests

/-- The commands that neither leave a mark nor change what marks are about. -/
def Cmd.Plain : Cmd → Prop
  | .hsetInviteStatus .. => False
  | c => c.marks = false

theorem Cmd.Plain.not_marks {c : Cmd} (hc : c.Plain) : ¬ c.marks := by
  cases c with
  | hsetInviteStatus => exact hc.elim
  | _ => exact ne_true_of_eq_false hc

section Steps

variable {s s' : Scene ι Cmd Cmd.Reply World} {t : ι} {c : Cmd} {m : Mark} {r : RoomId}
  {g : GameId} {q : RequestId}

omit [DecidableEq ι] in
theorem marking_of_not_marks (t : ι) (c : Cmd) (reply : c.Reply) (hc : ¬ c.marks) :
    marking requests t c reply = none := Cmd.mark_eq_none hc

theorem quiet_lifecycle (t : ι) : (lifecycle db requests).Quiet t Cmd.Plain where
  not_key c hc := hc.not_marks
  inv_after c hc s h _ := by
    have hsame : (exec db c s.world).2.redis.active = s.world.redis.active ∧
        (exec db c s.world).2.redis.invite = s.world.redis.invite ∧
        (exec db c s.world).2.issued = s.world.issued := by
      cases c with
      | setPendingNX r q =>
          rw [exec]
          split <;> exact ⟨rfl, rfl, rfl⟩
      | hgetallInvite | hgetallActive | randomUUID | hsetInvite => cases hc
      | hsetActiveGame | hsetActiveMove | delActive => cases hc
      | hsetInviteStatus => exact hc.elim
      | _ => exact ⟨rfl, rfl, rfl⟩
    show Kept ((s.after (exec db) t c).ledger (marking requests)) _
    rw [Scene.ledger_after_of_none (marking_of_not_marks t c _ hc.not_marks)]
    exact ⟨h.toOrdered, h.toMirrored.of_same hsame.1 hsame.2.1 hsame.2.2⟩

/-- A command that leaves a mark. -/
theorem kept_after (h : Kept (s.ledger (marking requests)) s.world)
    (hmark : marking requests t c (exec db c s.world).1 = some m)
    (hfits : m.Fits t (s.ledger (marking requests)))
    (hmirror : Mirrored ((t, m) :: s.ledger (marking requests)) (exec db c s.world).2) :
    (lifecycle db requests).inv (s.after (exec db) t c) := by
  show Kept ((s.after (exec db) t c).ledger (marking requests)) _
  rw [Scene.ledger_after_of_mark hmark]
  exact ⟨h.toOrdered.cons hfits, hmirror⟩

theorem own_after {ms : List Mark} (db : ℕ → Database) (c : Cmd) (m : Mark)
    (hmark : marking requests t c (exec db c s.world).1 = some m)
    (hown : s.own (marking requests) t = ms) :
    (s.after (exec db) t c).own (marking requests) t = m :: ms := by
  rw [Scene.own_after_of_mark hmark, hown]

/-- What the caller has done is what it had done before. -/
theorem own_later (hs : Scene.Since (fun c => c.marks) t s s') :
    s'.own (marking requests) t = s.own (marking requests) t :=
  hs.own marking_of_not_marks

/-- What the caller has not done is not in the ledger in its name. -/
theorem not_mem_of_own {ms : List Mark} (h : s.own (marking requests) t = ms) (hm : m ∉ ms) :
    (t, m) ∉ s.ledger (marking requests) := by
  intro hmem
  rw [← h, Scene.mem_own] at hm
  exact hm hmem

theorem mem_of_own {ms : List Mark} (h : s.own (marking requests) t = ms) (hm : m ∈ ms) :
    (t, m) ∈ s.ledger (marking requests) := by
  rw [← h, Scene.mem_own] at hm
  exact hm

/-! ### Reading the active key -/

/-- The caller has read the active key and nothing else has happened in its
name; it found game `g`, which nobody had ended. -/
structure HasRead (requests : ι → Request) (t : ι) (r : RoomId) (g : GameId)
    (s : Scene ι Cmd Cmd.Reply World) : Prop where
  own : s.own (marking requests) t = [.readActive r]
  found : ∃ l, s.ledger (marking requests) = (t, .readActive r) :: l ∧
    (∃ t' q, (t', .stored q r g) ∈ l) ∧ ∀ t', (t', .deleted g) ∉ l

theorem inv_after_readActive (h : (lifecycle db requests).inv s) :
    (lifecycle db requests).inv (s.after (exec db) t (.hgetallActive r)) :=
  kept_after h rfl trivial (h.toMirrored.cons trivial)

theorem HasRead.after (h : (lifecycle db requests).inv s)
    (hown : s.own (marking requests) t = []) {game : Game}
    (hgame : (s.world.redis.active r).game = some game) (hid : game.gameId = g) :
    HasRead requests t r g (s.after (exec db) t (.hgetallActive r)) where
  own := own_after db (.hgetallActive r) (.readActive r) rfl hown
  found :=
    ⟨_, Scene.ledger_after_of_mark rfl, h.holds r g (ActiveHash.holds_of_game hgame hid),
      h.gone r g (ActiveHash.holds_of_game hgame hid)⟩

theorem HasRead.later (h : HasRead requests t r g s)
    (hs : Scene.Since (fun c => c.marks) t s s') :
    s'.own (marking requests) t = [.readActive r] ∧
      ∃ t' q, (t', .stored q r g) ∈ s'.ledger (marking requests) := by
  obtain ⟨l, hl, ⟨t', q, hstored⟩, -⟩ := h.found
  refine ⟨(own_later hs).trans h.own, t', q, ?_⟩
  exact (hs.without (m := .readActive r) marking_of_not_marks).mem
    (hl ▸ List.mem_cons_of_mem _ hstored)

/-- Nobody has ended the game in the meantime either. -/
theorem HasRead.not_deleted (h : HasRead requests t r g s)
    (hs : Scene.Since (fun c => c.marks) t s s')
    (ha : StillThere t r g (s'.ledger (marking requests))) :
    ∀ t', (t', .deleted g) ∉ s'.ledger (marking requests) := by
  obtain ⟨l, hl, -, hgone⟩ := h.found
  intro t' hmem
  rcases (hs.without (m := .readActive r) marking_of_not_marks).mem_newerThan hmem with
    hnew | hold
  · exact ha _ hnew rfl
  · rw [hl] at hold
    rcases List.mem_cons.mp hold with heq | hold
    · cases heq
    · exact hgone t' hold

/-! ### Ending a game and moving in it -/

/-- The last two commands of a request that ends a game. -/
theorem keeps_end (hread : HasRead requests t r g s)
    (hbody : (requests t).body.gameId = some g) {white black : UserId} {payload : EndedPayload}
    (hid : payload.gameId = g) (result : Except DirectRoomChessError Result) :
    (lifecycle db requests).Keeps t
      (.call (.delActive r) fun _ => .call (.emit (.ended white black payload)) fun _ =>
        .done result) (fun _ _ => True) s := by
  intro s₁ hs₁ hI₁ ha₁
  have hI₁' : Kept (s₁.ledger (marking requests)) s₁.world := hI₁
  obtain ⟨hown₁, hstored⟩ := hread.later hs₁
  have hnone := hread.not_deleted hs₁ (ha₁.write r rfl g hbody)
  have hmark : marking requests t (.delActive r) () = some (.deleted g) := by
    rw [marking, Cmd.mark, hbody]
    rfl
  have hI₂ : (lifecycle db requests).inv (s₁.after (exec db) t (.delActive r)) := by
    refine kept_after hI₁ hmark ⟨⟨_, _, _, hstored.choose_spec.choose_spec⟩, hnone⟩ ?_
    -- the game was stored in this room only, and the room's key is empty now
    refine Mirrored.cons ?_ ?_
    · exact hI₁'.toMirrored.setActive (fun g hg => absurd hg ActiveHash.not_holds_empty)
        fun g hg => absurd hg ActiveHash.not_holds_empty
    · intro r' hg
      rw [show (exec db (.delActive r) s₁.world).2 = s₁.world.setActive r {} from rfl,
        World.setActive_active] at hg
      split at hg
      · exact ActiveHash.not_holds_empty hg
      · rename_i hne
        obtain ⟨t', q, hmem⟩ := hI₁'.holds r' g hg
        obtain ⟨t'', q', hmem'⟩ := hstored
        exact hne (hI₁'.storedIn hmem hmem')
  refine ⟨hI₂, ?_⟩
  have hown₂ : (s₁.after (exec db) t (.delActive r)).own (marking requests) t =
      [.deleted g, .readActive r] := by
    rw [Scene.own_after_of_mark hmark, hown₁]
  intro s₃ hs₃ hI₃ ha₃
  have hI₃' : Kept (s₃.ledger (marking requests)) s₃.world := hI₃
  have hown₃ := (own_later hs₃).trans hown₂
  have hdeleted : (t, .deleted g) ∈ s₃.ledger (marking requests) := mem_of_own hown₃ (by simp)
  refine ⟨?_, fun _ _ _ => trivial⟩
  refine kept_after (m := .ended g) hI₃ (congrArg (fun g => some (Mark.ended g)) hid)
    ⟨hdeleted, fun t' hmem => ?_, hid ▸ ha₃.finish _ rfl⟩ ?_
  · obtain rfl := hI₃'.deletedOnce hdeleted (hI₃'.endedDeleted t' g hmem)
    exact not_mem_of_own hown₃ (by simp) hmem
  · exact (Mirrored.cons (m := .ended g) hI₃'.toMirrored trivial).of_same rfl rfl rfl

theorem keeps_ordinaryMove (hread : HasRead requests t r g s)
    (hbody : (requests t).body.gameId = some g) {u : UserId} {body : ChessMoveBody} {game : Game}
    {moveNumber : ℕ} (hid : body.gameId = g) :
    (lifecycle db requests).Keeps t (ordinaryMove r u body game moveNumber)
      (fun _ _ => True) s := by
  intro s₁ hs₁ hI₁ ha₁
  have hI₁' : Kept (s₁.ledger (marking requests)) s₁.world := hI₁
  obtain ⟨hown₁, t', q, hstored⟩ := hread.later hs₁
  have hgone := hread.not_deleted hs₁ (ha₁.write r rfl g hbody)
  have hmark : ∀ position : Position, ∀ lastMove, position.game = g →
      marking requests t (.hsetActiveMove r position lastMove) () = some (.played g) :=
    fun _ _ h => congrArg (fun g => some (Mark.played g)) h
  refine ⟨kept_after hI₁ (hmark _ _ hid) (fun t' hended => ?_) ?_, ?_⟩
  · exact hgone t' (hI₁'.endedDeleted t' g hended)
  · refine (Mirrored.setActive (hI₁'.toMirrored.cons (m := .played g) trivial) (fun g' hg' => ?_)
      fun g' hg' t' hmem => ?_)
    · rcases hg'.of_move with rfl | rfl | hold
      · exact ⟨t', q, List.mem_cons_of_mem _ (hid ▸ hstored)⟩
      · exact ⟨t', q, List.mem_cons_of_mem _ (hid ▸ hstored)⟩
      · obtain ⟨t'', q', hmem⟩ := hI₁'.holds r g' hold
        exact ⟨t'', q', List.mem_cons_of_mem _ hmem⟩
    · rcases List.mem_cons.mp hmem with heq | hmem
      · cases heq
      rcases hg'.of_move with rfl | rfl | hold
      · exact hgone t' (hid ▸ hmem)
      · exact hgone t' (hid ▸ hmem)
      · exact hI₁'.gone r g' hold t' hmem
  · refine (quiet_lifecycle t).keeps_call rfl
      fun s₂ hs₂ _ hs₂' _ => ?_
    intro s₃ hs₃ hI₃ _
    have hI₃' : Kept (s₃.ledger (marking requests)) s₃.world := hI₃
    have hown₃ : s₃.own (marking requests) t = [.played g, .readActive r] := by
      rw [own_later ((hs₂.trans hs₂').trans hs₃), Scene.own_after_of_mark (hmark _ _ hid), hown₁]
    have hplayed : (t, .played g) ∈ s₃.ledger (marking requests) := mem_of_own hown₃ (by simp)
    refine ⟨?_, fun _ _ _ => trivial⟩
    refine kept_after (m := .moved g) hI₃ (congrArg (fun g => some (Mark.moved g)) hid)
      (fun t' hended => ?_) ?_
    · exact not_mem_of_own hown₃ (by simp) (hI₃'.announced t' t g hended hplayed)
    · exact (Mirrored.cons (m := .moved g) hI₃'.toMirrored trivial).of_same rfl rfl rfl

/-! ### Invites -/

/-- The caller has read invite `q`, which nobody had accepted. -/
structure HasInvite (requests : ι → Request) (t : ι) (q : RequestId) (ms : List Mark)
    (s : Scene ι Cmd Cmd.Reply World) : Prop where
  own : s.own (marking requests) t = ms
  found : ∃ s₀ l, Scene.Without (marking requests) (t, .readInvite q) s₀ s ∧
    s₀.ledger (marking requests) = (t, .readInvite q) :: l ∧
    (∃ t', (t', .invited q) ∈ l) ∧ ∀ t', (t', .accepted q) ∉ l

theorem HasInvite.later {ms : List Mark} (h : HasInvite requests t q ms s)
    (hs : Scene.Since (fun c => c.marks) t s s') : HasInvite requests t q ms s' := by
  obtain ⟨s₀, l, hwithout, hfound⟩ := h.found
  exact ⟨(own_later hs).trans h.own, s₀, l,
    hwithout.trans (hs.without marking_of_not_marks), hfound⟩

theorem HasInvite.after {ms : List Mark} (db : ℕ → Database) (h : HasInvite requests t q ms s)
    (hmark : marking requests t c (exec db c s.world).1 = some m) (hne : m ≠ .readInvite q) :
    HasInvite requests t q (m :: ms) (s.after (exec db) t c) := by
  obtain ⟨s₀, l, hwithout, hfound⟩ := h.found
  refine ⟨?_, s₀, l, hwithout.trans (.after hmark ?_), hfound⟩
  · rw [Scene.own_after_of_mark hmark, h.own]
  · exact fun heq => hne (Prod.mk.inj heq).2

theorem HasInvite.invited {ms : List Mark} (h : HasInvite requests t q ms s) :
    ∃ t', (t', .invited q) ∈ s.ledger (marking requests) := by
  obtain ⟨s₀, l, hwithout, hl, ⟨t', hmem⟩, -⟩ := h.found
  exact ⟨t', hwithout.mem (hl ▸ List.mem_cons_of_mem _ hmem)⟩

/-- Nobody else has stored a game for the invite. -/
theorem HasInvite.not_stored {ms : List Mark} (h : HasInvite requests t q ms s)
    (ha : AcceptsInTurn t q (s.ledger (marking requests))) :
    ∀ t' r g, (t', .stored q r g) ∉ s.ledger (marking requests) := by
  obtain ⟨s₀, l, hwithout, hl, -, hnone⟩ := h.found
  intro t' r g hmem
  have haccepted := ha _ hmem (decide_eq_true rfl)
  rw [hwithout.upTo hl] at haccepted
  rcases List.mem_cons.mp haccepted with heq | haccepted
  · cases heq
  · exact hnone t' haccepted

theorem keeps_declineInvite {ms : List Mark} (h : HasInvite requests t q ms s) {u v : UserId} :
    (lifecycle db requests).Keeps t (declineInvite r q u v) (fun _ _ => True) s := by
  intro s₁ hs₁ hI₁ _
  have hI₁' : Kept (s₁.ledger (marking requests)) s₁.world := hI₁
  refine ⟨?_, ?_⟩
  · show Kept ((s₁.after (exec db) t _).ledger (marking requests)) _
    rw [Scene.ledger_after_of_none (by rfl)]
    exact ⟨hI₁'.toOrdered, hI₁'.toMirrored.setInvite (h.later hs₁).invited fun h => by cases h⟩
  · refine (quiet_lifecycle t).keeps ?_ fun _ _ _ _ => trivial
    exact ⟨rfl, fun _ => ⟨rfl, fun _ => ⟨rfl, fun _ => trivial⟩⟩⟩

/-- What follows once the id of the game is drawn. -/
theorem keeps_storeGame (hbody : (requests t).body.requestId = some q) {game : Game}
    (h : HasInvite requests t q [.drew game.gameId, .readActive r, .readInvite q] s)
    {u v : UserId} (result : Except DirectRoomChessError Result) :
    (lifecycle db requests).Keeps t
      (.call (.hsetActiveGame r game) fun _ => .call (.expireActive r) fun _ =>
        .call (.hsetInviteStatus q .accepted (some game.gameId)) fun _ =>
        .call (.delPending r) fun _ => .call (.expireInvite q) fun _ =>
        .call (.emit (.started u v game game.initialPosition)) fun _ => .done result)
      (fun _ _ => True) s := by
  intro s₁ hs₁ hI₁ ha₁
  have hI₁' : Kept (s₁.ledger (marking requests)) s₁.world := hI₁
  have h₁ := h.later hs₁
  have hstored := h₁.not_stored (ha₁.start rfl q hbody)
  have hdrew : (t, .drew game.gameId) ∈ s₁.ledger (marking requests) := mem_of_own h₁.own (by simp)
  have hnew : ∀ t' q' r', (t', .stored q' r' game.gameId) ∉ s₁.ledger (marking requests) := by
    intro t' q' r' hmem
    obtain rfl := hI₁'.drewOnce hdrew (hI₁'.storedDrew t' q' r' _ hmem)
    exact not_mem_of_own h₁.own (by simp) hmem
  have hmark : marking requests t (.hsetActiveGame r game) () =
      some (.stored q r game.gameId) := by
    rw [marking, Cmd.mark, hbody]
    rfl
  refine ⟨kept_after hI₁ hmark ⟨hdrew, hstored, hnew⟩ ?_, ?_⟩
  · refine Mirrored.setActive (hI₁'.toMirrored.cons (m := .stored q r game.gameId) trivial)
      (fun g hg => ?_) fun g hg t' hmem => ?_
    · rcases hg.of_start with rfl | hold
      · exact ⟨t, q, List.mem_cons_self⟩
      · obtain ⟨t', q', hmem⟩ := hI₁'.holds r g hold
        exact ⟨t', q', List.mem_cons_of_mem _ hmem⟩
    · rcases List.mem_cons.mp hmem with heq | hmem
      · cases heq
      rcases hg.of_start with rfl | hold
      · obtain ⟨t'', q', r', hmem'⟩ := hI₁'.deletedStored t' _ hmem
        exact hnew t'' q' r' hmem'
      · exact hI₁'.gone r g hold t' hmem
  have h₂ := h₁.after db hmark (by simp)
  refine (quiet_lifecycle t).keeps_call rfl fun s₃ hs₃ _ hs₃' _ => ?_
  intro s₄ hs₄ hI₄ _
  have hI₄' : Kept (s₄.ledger (marking requests)) s₄.world := hI₄
  have h₄ := h₂.later ((hs₃.trans hs₃').trans hs₄)
  refine ⟨kept_after (m := .accepted q) hI₄ rfl h₄.invited ?_, ?_⟩
  · refine Mirrored.cons (hI₄'.toMirrored.setInvite h₄.invited fun h => by cases h) ?_
    show ((World.setInvite _ q _).redis.invite q).status ≠ _
    rw [World.setInvite_invite, if_pos rfl]
    simp
  have h₅ := h₄.after db (c := .hsetInviteStatus q .accepted (some game.gameId))
    (m := .accepted q) rfl (by simp)
  refine (quiet_lifecycle t).keeps_call rfl fun s₆ hs₆ _ hs₆' _ => ?_
  refine (quiet_lifecycle t).keeps_call rfl fun s₇ hs₇ _ hs₇' _ => ?_
  intro s₈ hs₈ hI₈ _
  have hI₈' : Kept (s₈.ledger (marking requests)) s₈.world := hI₈
  have h₈ := h₅.later ((((hs₆.trans hs₆').trans hs₇).trans hs₇').trans hs₈)
  have hstored₈ : (t, .stored q r game.gameId) ∈ s₈.ledger (marking requests) :=
    mem_of_own h₈.own (by simp)
  have hmark₈ : marking requests t (.emit (.started u v game game.initialPosition)) () =
      some (.started q) := by
    rw [marking, Cmd.mark, hbody]
    rfl
  refine ⟨kept_after hI₈ hmark₈ ⟨⟨_, _, hstored₈⟩, fun t' hmem => ?_⟩ ?_, fun _ _ _ => trivial⟩
  · obtain ⟨r', g', hmem'⟩ := hI₈'.startedStored t' q hmem
    obtain rfl := hI₈'.storedFor hstored₈ hmem'
    exact not_mem_of_own h₈.own (by simp) hmem
  · exact (Mirrored.cons (m := .started q) hI₈'.toMirrored trivial).of_same rfl rfl rfl

theorem keeps_afterCheck {α : Type} {check : Except DirectRoomChessError α} {body : α → Handler}
    (h : ∀ a, check = .ok a → (lifecycle db requests).Keeps t (body a) (fun _ _ => True) s) :
    (lifecycle db requests).Keeps t (afterCheck check body) (fun _ _ => True) s := by
  cases hcheck : check with
  | error error => exact fun _ _ _ => trivial
  | ok a => exact h a hcheck

theorem inv_after_randomUUID (h : (lifecycle db requests).inv s) :
    (lifecycle db requests).inv (s.after (exec db) t .randomUUID) := by
  have h' : Kept (s.ledger (marking requests)) s.world := h
  refine kept_after (m := .drew ⟨s.world.issued⟩) h rfl (fun t' hmem => ?_) ?_
  · exact absurd (h'.issued t' _ hmem) (lt_irrefl _)
  · exact Mirrored.cons h'.toMirrored.issueId (Nat.lt_succ_self _)

theorem keeps_acceptInvite (hbody : (requests t).body.requestId = some q)
    (h : HasInvite requests t q [.readInvite q] s) {u v : UserId} :
    (lifecycle db requests).Keeps t (acceptInvite r q u v) (fun _ _ => True) s := by
  rw [acceptInvite, perform_bind, Outline.keeps_call]
  intro s₁ hs₁ hI₁ _
  refine ⟨inv_after_readActive hI₁, keeps_afterCheck fun _ _ => ?_⟩
  have h₂ := (h.later hs₁).after db (c := .hgetallActive r) rfl (by simp)
  rw [perform_bind, Outline.keeps_call]
  intro s₃ hs₃ hI₃ _
  refine ⟨inv_after_randomUUID hI₃, ?_⟩
  have h₄ := (h₂.later hs₃).after db (c := .randomUUID)
    (m := .drew ⟨s₃.world.issued⟩) rfl (by simp)
  exact keeps_storeGame hbody h₄ _

/-! ### The six requests -/

theorem uses_findActivePeer (r : RoomId) (u : UserId) (isParticipant : Bool) :
    (findActivePeer r u isParticipant).Uses Cmd.Plain := by
  cases isParticipant with
  | false => trivial
  | true =>
      refine ⟨rfl, fun participants => ?_⟩
      simp only [Prog.bind]
      split <;> trivial

theorem uses_ensureDirectRoomActivityContext (r : RoomId) (u : UserId) :
    (ensureDirectRoomActivityContext r u).Uses Cmd.Plain := by
  rw [ensureDirectRoomActivityContext, perform_bind, uses_call]
  refine ⟨rfl, fun room => ?_⟩
  cases room with
  | none => trivial
  | some room =>
      dsimp only
      split
      · trivial
      split
      · trivial
      · exact ⟨rfl, fun isParticipant => uses_findActivePeer r u isParticipant⟩

theorem keeps_withContext {u : UserId} {body : UserId → Handler}
    (hI : (lifecycle db requests).inv s) (hown : s.own (marking requests) t = [])
    (h : ∀ peer s, s.own (marking requests) t = [] → (lifecycle db requests).inv s →
      (lifecycle db requests).Keeps t (body peer) (fun _ _ => True) s) :
    (lifecycle db requests).Keeps t (withContext r u body) (fun _ _ => True) s := by
  refine (quiet_lifecycle t).keeps_bind (uses_ensureDirectRoomActivityContext r u) hI
    fun result s' hs' hI' => ?_
  cases result with
  | error error => exact fun _ _ _ => trivial
  | ok peer => exact h peer s' ((own_later hs').trans hown) hI'

/-- A request that reads the active key first: what it finds there if the game
passes its check. -/
theorem keeps_readActive {body : ActiveHash → Handler}
    (hown : s.own (marking requests) t = [])
    (h : ∀ s₁, Scene.Since (fun c => c.marks) t s s₁ → (lifecycle db requests).inv s₁ →
      s₁.own (marking requests) t = [] →
      (lifecycle db requests).Keeps t (body (s₁.world.redis.active r)) (fun _ _ => True)
        (s₁.after (exec db) t (.hgetallActive r))) :
    (lifecycle db requests).Keeps t (.call (.hgetallActive r) body) (fun _ _ => True) s := by
  intro s₁ hs₁ hI₁ _
  exact ⟨inv_after_readActive hI₁, h s₁ hs₁ hI₁ ((own_later hs₁).trans hown)⟩

/-- Storing an invite under the id that was drawn for it. -/
theorem keeps_storeInvite {invitation : Invitation} {claimed : Bool}
    (hown : s.own (marking requests) t = [.drew invitation.requestId, .readActive r]) :
    (lifecycle db requests).Keeps t (storeInvite invitation claimed) (fun _ _ => True) s := by
  cases claimed with
  | false => exact fun _ _ _ => trivial
  | true =>
      intro s₁ hs₁ hI₁ _
      have hI₁' : Kept (s₁.ledger (marking requests)) s₁.world := hI₁
      have hown₁ := (own_later hs₁).trans hown
      have hdrew : (t, .drew invitation.requestId) ∈ s₁.ledger (marking requests) :=
        mem_of_own hown₁ (by simp)
      refine ⟨kept_after (m := .invited invitation.requestId) hI₁ rfl hdrew ?_, ?_⟩
      · refine Mirrored.setInvite
          (hI₁'.toMirrored.cons (m := .invited invitation.requestId) trivial)
          ⟨t, List.mem_cons_self⟩ fun _ t' hmem => ?_
        rcases List.mem_cons.mp hmem with heq | hmem
        · cases heq
        -- only a stored invite can have been accepted, and the id is new
        · obtain ⟨t'', hinvited⟩ := hI₁'.acceptedInvited t' _ hmem
          obtain rfl := hI₁'.drewOnce hdrew (hI₁'.invitedDrew t'' _ hinvited)
          exact not_mem_of_own hown₁ (by simp) hinvited
      · refine (quiet_lifecycle t).keeps ?_ fun _ _ _ _ => trivial
        exact ⟨rfl, fun _ => ⟨rfl, fun _ => ⟨rfl, fun _ => trivial⟩⟩⟩

theorem keeps_createDirectRoomChessInvite {u : UserId} (hI : (lifecycle db requests).inv s)
    (hown : s.own (marking requests) t = []) :
    (lifecycle db requests).Keeps t (createDirectRoomChessInvite r u) (fun _ _ => True) s := by
  refine keeps_withContext hI hown fun peer s hown hI => ?_
  refine (quiet_lifecycle t).keeps_call rfl fun s₁ hs₁ _ hs₁' _ => ?_
  refine keeps_readActive ((own_later (hs₁.trans hs₁')).trans hown) fun s₂ _ hI₂ hown₂ => ?_
  refine keeps_afterCheck fun _ _ => ?_
  rw [perform_bind, Outline.keeps_call]
  intro s₃ hs₃ hI₃ _
  refine ⟨inv_after_randomUUID hI₃, ?_⟩
  refine (quiet_lifecycle t).keeps_call rfl fun s₄ hs₄ _ hs₄' _ => keeps_storeInvite (r := r) ?_
  have hread := own_after db (.hgetallActive r) (.readActive r) rfl hown₂
  have hdrew := own_after db .randomUUID (.drew ⟨s₃.world.issued⟩) rfl ((own_later hs₃).trans hread)
  exact (own_later (hs₄.trans hs₄')).trans hdrew

theorem keeps_respondDirectRoomChessInvite {u : UserId} {accept : Bool}
    (hbody : (requests t).body.requestId = some q) (hI : (lifecycle db requests).inv s)
    (hown : s.own (marking requests) t = []) :
    (lifecycle db requests).Keeps t (respondDirectRoomChessInvite r q u accept)
      (fun _ _ => True) s := by
  refine keeps_withContext hI hown fun peer s hown hI => ?_
  rw [perform_bind, Outline.keeps_call]
  intro s₁ hs₁ hI₁ _
  have hI₁' : Kept (s₁.ledger (marking requests)) s₁.world := hI₁
  refine ⟨kept_after (m := .readInvite q) hI₁ rfl trivial (hI₁'.toMirrored.cons trivial), ?_⟩
  refine keeps_afterCheck fun invitation hcheck => ?_
  obtain ⟨hinvitation, -, -, hpending⟩ := of_checkInvite hcheck
  have hinvite : HasInvite requests t q [.readInvite q]
      (s₁.after (exec db) t (.hgetallInvite q)) := by
    refine ⟨?_, _, _, .refl, Scene.ledger_after_of_mark rfl, ?_, hI₁'.pending q hpending⟩
    · exact own_after db (.hgetallInvite q) (.readInvite q) rfl ((own_later hs₁).trans hown)
    · exact hI₁'.invitation q fun hnone => by
        rw [show (s₁.world.redis.invite q).invitation = some invitation from hinvitation] at hnone
        cases hnone
  cases accept with
  | true => exact keeps_acceptInvite hbody hinvite
  | false => exact keeps_declineInvite hinvite

theorem keeps_endDirectRoomChessGame {u : UserId} (hbody : (requests t).body.gameId = some g)
    (hI : (lifecycle db requests).inv s) (hown : s.own (marking requests) t = []) :
    (lifecycle db requests).Keeps t (endDirectRoomChessGame r g u) (fun _ _ => True) s := by
  refine keeps_withContext hI hown fun peer s hown hI => ?_
  refine keeps_readActive hown fun s₁ _ hI₁ hown₁ => keeps_afterCheck fun game hcheck => ?_
  obtain ⟨hgame, -, hid, -⟩ := of_checkActive hcheck
  exact keeps_end (.after hI₁ hown₁ hgame hid) hbody rfl _

theorem keeps_moveDirectRoomChessGame {u : UserId} {body : ChessMoveBody}
    (hbody : (requests t).body.gameId = some body.gameId)
    (hI : (lifecycle db requests).inv s) (hown : s.own (marking requests) t = []) :
    (lifecycle db requests).Keeps t (moveDirectRoomChessGame r u body) (fun _ _ => True) s := by
  refine keeps_withContext hI hown fun peer s hown hI => ?_
  refine keeps_readActive hown fun s₁ _ hI₁ hown₁ => keeps_afterCheck fun game hcheck => ?_
  obtain ⟨hgame, -, hid, -⟩ := of_checkActive (of_checkMove hcheck).1
  have hread := HasRead.after hI₁ hown₁ hgame hid
  show (lifecycle db requests).Keeps t (if body.isGameOver = true then _ else _) _ _
  split
  · exact keeps_end hread hbody rfl _
  · exact keeps_ordinaryMove hread hbody rfl

theorem keeps_offerDirectRoomChessDraw {u : UserId} (hI : (lifecycle db requests).inv s)
    (hown : s.own (marking requests) t = []) :
    (lifecycle db requests).Keeps t (offerDirectRoomChessDraw r g u) (fun _ _ => True) s := by
  refine keeps_withContext hI hown fun peer s hown hI => ?_
  refine keeps_readActive hown fun s₁ _ _ _ => keeps_afterCheck fun game _ => ?_
  rw [perform_bind]
  refine (quiet_lifecycle t).keeps ⟨rfl, fun offer => ?_⟩ fun _ _ _ _ => trivial
  cases offer with
  | some offer => trivial
  | none => exact ⟨rfl, fun _ => ⟨rfl, fun _ => ⟨rfl, fun _ => trivial⟩⟩⟩

theorem keeps_acceptDraw {u : UserId} (hbody : (requests t).body.gameId = some g)
    (hown : s.own (marking requests) t = []) :
    (lifecycle db requests).Keeps t (acceptDraw r g u) (fun _ _ => True) s := by
  rw [acceptDraw, perform_bind]
  refine keeps_readActive hown fun s₁ _ hI₁ hown₁ => ?_
  cases hgame : (s₁.world.redis.active r).gameOf g with
  | none => exact fun _ _ _ => trivial
  | some game =>
      obtain ⟨hactive, hid⟩ := Option.filter_eq_some_iff.mp hgame
      exact keeps_end (.after hI₁ hown₁ hactive (of_decide_eq_true hid)) hbody rfl _

theorem keeps_respondDirectRoomChessDraw {u : UserId} {accept : Bool}
    (hbody : (requests t).body.gameId = some g) (hI : (lifecycle db requests).inv s)
    (hown : s.own (marking requests) t = []) :
    (lifecycle db requests).Keeps t (respondDirectRoomChessDraw r g u accept)
      (fun _ _ => True) s := by
  refine keeps_withContext hI hown fun peer s hown hI => ?_
  rw [perform_bind]
  refine (quiet_lifecycle t).keeps_call rfl fun s₁ hs₁ _ hs₁' _ => ?_
  cases (exec db (.hgetallDraw r g) s₁.world).1 with
  | none => exact fun _ _ _ => trivial
  | some offer =>
      show (lifecycle db requests).Keeps t (if offer.targetUserId ≠ u then _ else _) _ _
      split
      · exact fun _ _ _ => trivial
      refine (quiet_lifecycle t).keeps_call rfl fun s₂ hs₂ _ hs₂' _ => ?_
      cases accept with
      | true =>
          exact keeps_acceptDraw hbody
            ((own_later (((hs₁.trans hs₁').trans hs₂).trans hs₂')).trans hown)
      | false => exact (quiet_lifecycle t).keeps ⟨rfl, fun _ => trivial⟩ fun _ _ _ _ => trivial

theorem keeps_handle (hI : (lifecycle db requests).inv s)
    (hown : s.own (marking requests) t = []) :
    (lifecycle db requests).Keeps t (handle (requests t)) (fun _ _ => True) s := by
  cases hbody : (requests t).body with
  | invite =>
      rw [handle, hbody]
      exact keeps_createDirectRoomChessInvite hI hown
  | respond q accept =>
      rw [handle, hbody]
      exact keeps_respondDirectRoomChessInvite (by rw [hbody]; rfl) hI hown
  | end_ g =>
      rw [handle, hbody]
      exact keeps_endDirectRoomChessGame (by rw [hbody]; rfl) hI hown
  | move body =>
      rw [handle, hbody]
      exact keeps_moveDirectRoomChessGame (by rw [hbody]; rfl) hI hown
  | drawOffer g =>
      rw [handle, hbody]
      exact keeps_offerDirectRoomChessDraw hI hown
  | drawRespond g accept =>
      rw [handle, hbody]
      exact keeps_respondDirectRoomChessDraw (by rw [hbody]; rfl) hI hown

end Steps

/-! ### Games start once and end once -/

omit [DecidableEq ι] in
theorem Kept.onceEach {requests : ι → Request} {s : Scene ι Cmd Cmd.Reply World}
    (h : Kept (s.ledger (marking requests)) s.world) : OnceEach requests s where
  started q := countP_le_one_of_pairwise h.clear fun a b ha hb hab => by
    rw [of_decide_eq_true ha, of_decide_eq_true hb] at hab
    exact hab rfl
  ended g := countP_le_one_of_pairwise h.clear fun a b ha hb hab => by
    rw [of_decide_eq_true ha, of_decide_eq_true hb] at hab
    exact hab rfl
  silent := h.clear.imp fun hclear g hmoved hended => by
    rw [hmoved, hended] at hclear
    exact hclear rfl
  cleared g hended r hholds := by
    obtain ⟨t, ht⟩ := hended
    exact h.gone r g hholds t (h.endedDeleted t g ht)

/-- All requests at their beginning, on a store without chess keys. -/
def playing (requests : ι → Request) :
    Conf ι Cmd Cmd.Reply (Except DirectRoomChessError Result) World where
  threads t := handle (requests t)
  scene := { world := {}, trace := [] }

omit [DecidableEq ι] in
theorem kept_empty : Kept ([] : List (ι × Mark)) {} := by
  have hstore : Mirrored ([] : List (ι × Mark)) {} := by
    constructor
    · intro t id h
      cases h
    · intro q h
      exact absurd rfl h
    · intro q h
      cases h
    · exact fun r g h => absurd h ActiveHash.not_holds_empty
    · exact fun r g h => absurd h ActiveHash.not_holds_empty
  exact ⟨by constructor <;> simp, hstore⟩

/-- **Once each.** In every run in which no requests overlap in the ways
`NoOverlap` excludes, every invite leads to one start at most, and every game
ends once at most and leaves nothing behind. -/
theorem onceEach_of_noOverlap (db : ℕ → Database) (requests : ι → Request) (sched : List ι)
    (hsched : (playing requests).Meets (exec db) (NoOverlap requests) sched) :
    OnceEach requests ((playing requests).runs (exec db) sched).scene := by
  have hI : (lifecycle db requests).inv (playing requests).scene := kept_empty
  have hkeeps : ∀ t, (lifecycle db requests).Keeps t ((playing requests).threads t)
      (fun _ _ => True) (playing requests).scene := fun t => keeps_handle hI rfl
  exact Kept.onceEach (Outline.keeps_runs hI hkeeps hsched).1

namespace Sample

inductive Tap
  | invite
  | accept
  | acceptAgain
  | resign
  deriving DecidableEq

/-- Ann invites Ben; Ben accepts, twice if his client sends it twice; Ann
resigns. -/
def annBen : Tap → Request
  | .invite => ⟨call, ann, .invite⟩
  | .accept | .acceptAgain => ⟨call, ben, .respond ⟨0⟩ true⟩
  | .resign => ⟨call, ann, .end_ ⟨1⟩⟩

/-- One request after the other: the game starts and ends once. -/
def inTurn : List Tap :=
  List.replicate 12 .invite ++ List.replicate 12 .accept ++ List.replicate 12 .resign ++
    List.replicate 12 .acceptAgain

/-- Both of Ben's requests read the invite before either marks it accepted. -/
def acceptedTwice : List Tap :=
  List.replicate 12 .invite ++ List.replicate 6 .accept ++ List.replicate 12 .acceptAgain ++
    List.replicate 6 .accept

theorem onceEach_inTurn : OnceEach annBen ((playing annBen).runs (exec inCall) inTurn).scene :=
  onceEach_of_noOverlap inCall annBen inTurn (by decide +kernel)

/-- The invite leads to two starts. -/
theorem not_onceEach_acceptedTwice :
    ¬ OnceEach annBen ((playing annBen).runs (exec inCall) acceptedTwice).scene := by
  intro h
  have hcount := h.started ⟨0⟩
  revert hcount
  decide +kernel

end Sample

end Greetup.Chess
