import Greetup.Rooms.RoomCalls

/-!
Whether a space can hold more people than it has seats.

The seats are counted on one of the ways into a space only: for somebody who has
never been there. Whoever comes back, and the host, is let in without a count;
and what was counted may be out of date when the row is written.
-/

namespace Greetup.Rooms

open Interleaving Prog

variable (planner : Planner) {ι : Type} [DecidableEq ι]

/-- A row of the space is written. -/
def SeatsSomebody (roomId : RoomId) (e : Event ι Cmd Cmd.Reply) : Prop :=
  ∃ userId, e.cmd = .addOrReactivateHostRow roomId userId ∨
    e.cmd = .addOrReactivateParticipantRow roomId userId

/-- The user comes back: it is the host, or its row was found. -/
def ComesBack (h : History) (space : RoomRow) (userId : UserId) : Prop :=
  space.hostUserId = userId ∨ Returning h space.id userId

/-- The user is about to be let in, coming back to a space that is full, or for
the first time after others have been seated since the count. -/
def Crowds (space : RoomRow) (i : ι) (c : Cmd) (s : Scene ι Cmd Cmd.Reply World) : Prop :=
  ∃ userId, (c = .addOrReactivateHostRow space.id userId ∨
      c = .addOrReactivateParticipantRow space.id userId) ∧
    s.world.isIn space.id userId = false ∧
    (ComesBack (s.told i) space userId ∧ space.maxParticipants ≤ s.world.seatsTaken space.id ∨
      ¬ ComesBack (s.told i) space userId ∧
        ¬ s.QuietSince (SeatsSomebody space.id) i (.countActiveParticipants space.id))

/-- A count is right as long as nobody is seated: nobody is in the room beyond
those that were counted, but for the host whom the end of a session leaves. -/
def Counted (roomId : RoomId) (s : Scene ι Cmd Cmd.Reply World) : Prop :=
  ∀ l i n rest, s.trace = l ++ ⟨i, .countActiveParticipants roomId, n⟩ :: rest →
    (∀ e ∈ l, ¬ SeatsSomebody roomId e) → s.world.seatsTaken roomId ≤ max n 1

structure Fits (space : RoomRow) (s : Scene ι Cmd Cmd.Reply World) : Prop where
  knows : Knows space s
  seats : s.world.seatsTaken space.id ≤ space.maxParticipants
  counted : Counted space.id s

section Step

variable {planner} {space : RoomRow} {s : Scene ι Cmd Cmd.Reply World} {i : ι} {c : Cmd}

omit [DecidableEq ι] in
/-- A command that seats nobody leaves the counts right. -/
theorem Counted.step (h : Counted space.id s) (hseats : ∀ n,
      s.world.seatsTaken space.id ≤ max n 1 →
        (exec planner c s.world).2.seatsTaken space.id ≤ max n 1) :
    Counted space.id (s.after (exec planner) i c) := by
  intro l j n rest htrace hquiet
  rw [Scene.after_trace] at htrace
  cases l with
  | nil =>
      obtain ⟨he, -⟩ := List.cons_eq_cons.mp htrace
      cases he
      apply hseats
      exact le_max_left _ _
  | cons e l =>
      obtain ⟨-, htail⟩ := List.cons_eq_cons.mp htrace
      exact hseats n (h l j n rest htail fun e' he' => hquiet e' (List.mem_cons_of_mem _ he'))

omit [DecidableEq ι] in
/-- After a seat was taken there is no count to be right. -/
theorem counted_of_seats (hseats : SeatsSomebody space.id
      (⟨i, c, (exec planner c s.world).1⟩ : Event ι Cmd Cmd.Reply)) :
    Counted space.id (s.after (exec planner) i c) := by
  intro l j n rest htrace hquiet
  rw [Scene.after_trace] at htrace
  cases l with
  | nil =>
      obtain ⟨he, -⟩ := List.cons_eq_cons.mp htrace
      cases he
      obtain ⟨userId, hcmd | hcmd⟩ := hseats <;> cases hcmd
  | cons e l =>
      obtain ⟨he, -⟩ := List.cons_eq_cons.mp htrace
      exact absurd (he ▸ hseats) (hquiet e List.mem_cons_self)

/-- A newcomer has counted a free seat, and nobody has taken one since. -/
theorem seat_of_newcomer (h : Fits space s) {userId : UserId}
    (hmay : MaySit (s.told i) space.id userId)
    (hnew : ¬ ComesBack (s.told i) space userId)
    (hquiet : s.QuietSince (SeatsSomebody space.id) i (.countActiveParticipants space.id)) :
    ∃ n < space.maxParticipants, s.world.seatsTaken space.id ≤ max n 1 := by
  obtain ⟨room, hseen, hid, hwhy⟩ := hmay
  have hsame := h.knows.seen i room hseen hid
  rcases hwhy with hdirect | hhost | ⟨-, hback | ⟨n, hn, hnewest⟩⟩
  · rw [hsame.roomType] at hdirect
    cases hdirect
  · rw [hsame.hostUserId] at hhost
    exact absurd (.inl hhost) hnew
  · exact absurd (.inr hback) hnew
  · rw [hid] at hnewest
    rw [hsame.maxParticipants] at hn
    obtain ⟨l, rest, htrace, hbetween⟩ := hquiet.split hnewest
    exact ⟨n, hn, h.counted l i n rest htrace hbetween⟩

/-- **One step.** -/
theorem Fits.step (h : Fits space s) (hroom : 2 ≤ space.maxParticipants)
    (hlicence : Licence planner (s.told i) c) (hnot : ¬ Crowds space i c s) :
    Fits space (s.after (exec planner) i c) := by
  have hknows : Knows space (s.after (exec planner) i c) := h.knows.step i c
  by_cases hnew : ∃ userId, s.world.isIn space.id userId = false ∧
      LetsIn s.world space.id userId c
  swap
  · -- nobody is let in
    have hseats : (exec planner c s.world).2.seatsTaken space.id ≤
        s.world.seatsTaken space.id := by
      refine seatsTaken_le fun userId hin => ?_
      by_contra hout
      have hlets := (isIn_or_letsIn planner hin).resolve_left hout
      exact hnew ⟨userId, by simpa using hout, hlets⟩
    exact ⟨hknows, hseats.trans h.seats, h.counted.step fun n hn => hseats.trans hn⟩
  obtain ⟨userId, hout, hlets⟩ := hnew
  have hone := seatsTaken_le_succ planner s.world space.id c
  have hseated : (c = .addOrReactivateHostRow space.id userId ∨
      c = .addOrReactivateParticipantRow space.id userId) →
      MaySit (s.told i) space.id userId → Fits space (s.after (exec planner) i c) := by
    intro hcmd hmay
    refine ⟨hknows, ?_, counted_of_seats ⟨userId, hcmd⟩⟩
    rw [Scene.after_world]
    by_cases hback : ComesBack (s.told i) space userId
    · have hfree : ¬ space.maxParticipants ≤ s.world.seatsTaken space.id :=
        fun hfull => hnot ⟨userId, hcmd, hout, .inl ⟨hback, hfull⟩⟩
      omega
    · have hquiet : s.QuietSince (SeatsSomebody space.id) i
          (.countActiveParticipants space.id) := by
        by_contra hquiet
        exact hnot ⟨userId, hcmd, hout, .inr ⟨hback, hquiet⟩⟩
      obtain ⟨n, hn, hcount⟩ := seat_of_newcomer h hmay hback hquiet
      omega
  cases hlets with
  | host => exact hseated (.inl rfl) hlicence.2
  | participant => exact hseated (.inr rfl) hlicence.2
  | expanded hroom' hinvitee hdirect =>
      -- the space is no direct room
      obtain ⟨room, hfind, hsame⟩ := h.knows.row
      rw [World.findRoom, hfind, Option.filter_some, if_neg] at hdirect
      · cases hdirect
      · simp [RoomWhere.matches_, hsame.roomType]
  | created => exact hlicence.elim
  | hostKept hroom' hhost hlive =>
      rename_i params
      have hleft := seatsTaken_endLiveRoomSessionTx s.world params
      rw [hroom'] at hleft
      refine ⟨hknows, ?_, h.counted.step fun n _ => hleft.trans (le_max_right n 1)⟩
      exact hleft.trans (by omega)

end Step

/-- **Seats.** A space of at least two seats never holds more people than it has
seats, in every run in which whoever comes back finds a free seat and nobody is
seated between a newcomer's count and its row. -/
theorem seatsTaken_le_maxParticipants (calls : ι → RoomCall) {w : World} {space : RoomRow}
    (hfind : w.rooms.find space.id = some space) (hspace : space.roomType = .space)
    (hroom : 2 ≤ space.maxParticipants)
    (hseats : w.seatsTaken space.id ≤ space.maxParticipants) {sched : List ι}
    (hmeets : (begun calls w).Meets (exec planner) (fun i c s => ¬ Crowds space i c s) sched) :
    ((begun calls w).runs (exec planner) sched).scene.world.seatsTaken space.id ≤
      space.maxParticipants := by
  have hfits : Fits space (begun calls w).scene := by
    refine ⟨knows_begun calls hfind hspace, hseats, ?_⟩
    intro l i n rest htrace
    cases l <;> cases htrace
  refine ((begun_licensed planner calls w).runs_inv ?_ hfits hmeets).seats
  intro s i c h hlicence hnot
  exact h.step hroom hlicence hnot

namespace Sample

def hana : UserId := ⟨"host-hana", by decide⟩
def early : UserId := ⟨"early-ian", by decide⟩
def late : UserId := ⟨"late-joe", by decide⟩

/-- A space with two seats, both taken. -/
def bench : RoomRow where
  id := ⟨"bench", by decide⟩
  hostUserId := hana
  title := "Bench"
  visibility := .public_
  maxParticipants := 2
  status := .live
  startedAt := some 0
  roomType := .space
  sessionKind := .space

def benchWorld : World where
  rooms := { rows := [bench], unique := List.nodup_singleton _ }
  participants :=
    { rows := [⟨bench.id, hana, .host, none⟩, ⟨bench.id, early, .participant, none⟩]
      unique := by decide }
  clock := minutes 1

def hostAgain : Bool → RoomCall
  | false => .leaveSpace hana bench.id true
  | true => .join hana bench.id

/-- Only the host is let in, while there is a seat. -/
def hostOnly (w : World) : Cmd → Bool
  | .addOrReactivateHostRow _ userId => userId = hana && decide (w.seatsTaken bench.id < 2)
  | .addOrReactivateParticipantRow .. => false
  | _ => true

theorem not_crowds_of_hostOnly {i : Bool} {c : Cmd} {s : Scene Bool Cmd Cmd.Reply World}
    (h : hostOnly s.world c = true) : ¬ Crowds bench i c s := by
  rintro ⟨userId, rfl | rfl, -, hwhy⟩
  · rw [hostOnly, Bool.and_eq_true, decide_eq_true_eq, decide_eq_true_eq] at h
    obtain ⟨rfl, hseat⟩ := h
    rcases hwhy with ⟨-, hfull⟩ | ⟨hnew, -⟩
    · exact absurd hseat (Nat.not_lt.mpr hfull)
    · exact hnew (.inl rfl)
  · cases h

theorem seatsTaken_hostAgain :
    ((begun hostAgain benchWorld).runs (exec .inOrder)
      (List.replicate 10 false ++ List.replicate 20 true)).scene.world.seatsTaken bench.id ≤ 2 := by
  apply seatsTaken_le_maxParticipants .inOrder hostAgain (show _ = some bench from rfl) rfl
    (by decide) (by decide)
  have hhost : (begun hostAgain benchWorld).Meets (exec .inOrder)
      (fun _ c s => hostOnly s.world c = true) (List.replicate 10 false ++
      List.replicate 20 true) := by
    decide +kernel
  exact hhost.mono _ fun _ _ _ h => not_crowds_of_hostOnly h

def seatOffered : ℕ → RoomCall
  | 0 => .leaveSpace early bench.id true
  | 1 => .join late bench.id
  | _ => .join early bench.id

/-- One leaves, another takes the seat, and the first comes back: one call after
the other, and three people are on the bench. -/
theorem seatsTaken_seatOffered :
    ((begun seatOffered benchWorld).runs (exec .inOrder) (List.replicate 10 0 ++
      List.replicate 20 1 ++ List.replicate 20 2)).scene.world.seatsTaken bench.id = 3 ∧
      bench.maxParticipants = 2 := by
  refine ⟨by decide +kernel, rfl⟩

end Sample

end Greetup.Rooms
