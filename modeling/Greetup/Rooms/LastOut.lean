import Greetup.Rooms.Licence
import Greetup.Rooms.Statements

/-!
Whether the last one out of a space is noticed.

Everybody who leaves marks the own row and then counts the others. The marks of
the others are seen only when their transactions have committed, so that two who
leave together may each find the other still in.
-/

namespace Greetup.Rooms

open Interleaving Prog

variable (planner : Planner) {ι : Type} [DecidableEq ι]

abbrev TxEvent (ι : Type) := Event ι (TxCmd ι) TxCmd.Reply

abbrev Departures (ι : Type) :=
  Conf ι (TxCmd ι) TxCmd.Reply (Except AccessError Bool) (Sessions ι)

/-- Everybody in `users` leaves the space, each over a connection of the own. -/
def leavers (users : ι → UserId) (httpStrict : ι → Bool) (roomId : RoomId) (w : World) :
    Departures ι :=
  ⟨fun i => leavingSpace i (users i) roomId (httpStrict i), ⟨⟨w, fun _ => []⟩, []⟩⟩

/-- What may happen next. -/
inductive Turn (ι : Type)
  | call (i : ι)
  | elapse (ms : ℕ)

def Departures.turn (conf : Departures ι) : Turn ι → Departures ι
  | .call i => conf.step (execTx planner) i
  | .elapse ms =>
      ⟨conf.threads, ⟨conf.scene.world.autocommit
        (exec planner (.elapsed ms) conf.scene.world.committed).2, conf.scene.trace⟩⟩

def Departures.turns (conf : Departures ι) (schedule : List (Turn ι)) : Departures ι :=
  schedule.foldl (Departures.turn planner) conf

/-- The option of the space. -/
def deletesAfterCall (room : RoomRow) : Bool :=
  resolveDeleteSpaceAfterCall (mergeRoomAdvancedOptions room.advancedOptions)

/-- The call has found that it was the last, and has the room torn down. -/
def ReportsLast (roomId : RoomId) (i : ι) (trace : List (TxEvent ι)) : Prop :=
  ∃ e ∈ trace, e.tid = i ∧ e.cmd = .plain (.send (.sfuRoomTeardown roomId))

/-- The last one is noticed, and ends the space if it is to be deleted. -/
structure LastNoticed (room : RoomRow)
    (conf : Departures ι) : Prop where
  noticed : ∃ i, ReportsLast room.id i conf.scene.trace
  ended : deletesAfterCall room = true → conf.scene.world.committed.HasEnded room.id ∧
    ∃! i, conf.threads i = .done (.ok true)

def Committed (i : ι) (trace : List (TxEvent ι)) : Prop :=
  ∃ e ∈ trace, e.tid = i ∧ e.cmd = .commit i

/-- The call counts when all the others have committed. -/
def CountsLast (roomId : RoomId) (i : ι) (trace : List (TxEvent ι)) : Prop :=
  ∃ l e rest, trace = l ++ e :: rest ∧ e.tid = i ∧ e.cmd = .countActive i roomId ∧
    ∀ j ≠ i, Committed j rest

/-! ### How far a call has come -/

inductive Phase
  | arriving
  | found
  | timed (now : ℤ)
  | active
  | ready (now : ℤ)
  | marked (now : ℤ)
  | counted (now : ℤ) (activeLeft : ℕ)
  | ended (now : ℤ)
  | closed
  | shut
  | left (last : Bool)
  | cleared
  | notifying
  | returned (last : Bool)

/-- The transaction has committed. -/
def Phase.hasLeft : Phase → Bool
  | .left _ | .cleared | .notifying | .returned _ => true
  | _ => false

/-- The count was zero. -/
def Phase.isLast : Phase → Bool
  | .counted _ activeLeft => activeLeft = 0
  | .ended _ | .cleared | .notifying => true
  | .left last | .returned last => last
  | _ => false

section Rest

variable (users : ι → UserId) (httpStrict : ι → Bool) (room : RoomRow) (i : ι)

/-- What is left to do after the transaction. -/
def afterTx (result : LeaveResult) : TxM ι (Except AccessError Bool) :=
  (afterLeave (users i) room.id result).expand (statements i)

/-- What is left to do. -/
def Phase.rest : Phase → TxM ι (Except AccessError Bool)
  | .arriving => leavingSpace i (users i) room.id (httpStrict i)
  | .found => (leaveFound (users i) room.id (httpStrict i) (some room)).expand (statements i)
  | .timed now => (leaveSpace (users i) room.id room (httpStrict i) now).expand (statements i)
  | .active => (leaveLive (users i) room.id room (httpStrict i) true).expand (statements i)
  | .ready now =>
      leaveAndMaybeEndRoomTx i room.id (users i) now (deletesAfterCall room) >>=
        afterTx users room i
  | .marked now =>
      .call (.countActive i room.id) fun activeLeft =>
        endIfLast i room.id now (deletesAfterCall room) activeLeft >>= afterTx users room i
  | .counted now activeLeft =>
      endIfLast i room.id now (deletesAfterCall room) activeLeft >>= afterTx users room i
  | .ended _ => .call (.commit i) fun _ => afterTx users room i ⟨true, true⟩
  | .closed => .call (.plain (.clearUserActiveRtcRoom (users i))) fun _ => .done (.ok false)
  | .shut => .done (.ok false)
  | .left last => afterTx users room i ⟨last, last && deletesAfterCall room⟩
  | .cleared =>
      .call (.plain (.delSessionRoom room.id)) fun _ =>
        .call (.plain (.send (.sfuRoomTeardown room.id))) fun _ => .done (.ok true)
  | .notifying =>
      .call (.plain (.send (.sfuRoomTeardown room.id))) fun _ =>
        .done (.ok (deletesAfterCall room))
  | .returned last => .done (.ok (last && deletesAfterCall room))

/-- What the transaction has written. -/
def Phase.writes : Phase → List (World → World)
  | .marked now | .counted now _ => [(·.setLeftAt room.id (·.userId = users i) (some now))]
  | .ended now =>
      [(·.updateRoom room.id {} (.ended now)),
        (·.setLeftAt room.id (·.userId = users i) (some now))]
  | _ => []

end Rest

/-- The call has ended the room. -/
def Phase.hasEnded (room : RoomRow) (p : Phase) : Bool :=
  p.isLast && p.hasLeft && deletesAfterCall room

/-- Where everybody is, and what the database and the trace show of it. -/
structure Departing (users : ι → UserId) (httpStrict : ι → Bool) (room : RoomRow)
    (phase : ι → Phase) (conf : Departures ι) : Prop where
  threads : ∀ i, conf.threads i = (phase i).rest users httpStrict room i
  writes : ∀ i, conf.scene.world.writes i = (phase i).writes users room i
  isIn : ∀ userId, conf.scene.world.committed.isIn room.id userId = true ↔
    ∃ i, users i = userId ∧ (phase i).hasLeft = false
  /-- the room is as it was until the last one has ended it -/
  live : (∀ i, (phase i).hasEnded room = false) →
    conf.scene.world.committed.rooms.find room.id = some room
  ended : ∀ i, (phase i).hasEnded room = true → conf.scene.world.committed.HasEnded room.id
  /-- whoever counts nobody is the last -/
  others : ∀ i, (phase i).isLast = true → ∀ j ≠ i,
    (phase j).hasLeft = true ∧ (phase j).isLast = false
  deletes : ∀ i, (∃ now, phase i = .ended now) ∨ phase i = .cleared →
    deletesAfterCall room = true
  counts : ∀ i, CountsLast room.id i conf.scene.trace ↔ (phase i).isLast = true
  commits : ∀ i, Committed i conf.scene.trace ↔ (phase i).hasLeft = true
  reports : ∀ i, ReportsLast room.id i conf.scene.trace ↔ phase i = .returned true

/-! ### What a move adds to the trace -/

section Trace

variable {roomId : RoomId} {i j : ι} {e : TxEvent ι} {trace : List (TxEvent ι)}

omit [DecidableEq ι] in
theorem committed_cons : Committed j (e :: trace) ↔
    e.tid = j ∧ e.cmd = .commit j ∨ Committed j trace := by
  simp [Committed]

omit [DecidableEq ι] in
theorem reportsLast_cons : ReportsLast roomId j (e :: trace) ↔
    e.tid = j ∧ e.cmd = .plain (.send (.sfuRoomTeardown roomId)) ∨ ReportsLast roomId j trace := by
  simp [ReportsLast]

omit [DecidableEq ι] in
theorem countsLast_cons : CountsLast roomId j (e :: trace) ↔
    (e.tid = j ∧ e.cmd = .countActive j roomId ∧ ∀ k ≠ j, Committed k trace) ∨
      CountsLast roomId j trace := by
  constructor
  · rintro ⟨l, e', rest, htrace, htid, hcmd, hrest⟩
    cases l with
    | nil =>
        obtain ⟨rfl, rfl⟩ := List.cons_eq_cons.mp htrace
        exact .inl ⟨htid, hcmd, hrest⟩
    | cons e'' l =>
        obtain ⟨-, htail⟩ := List.cons_eq_cons.mp htrace
        exact .inr ⟨l, e', rest, htail, htid, hcmd, hrest⟩
  · rintro (⟨htid, hcmd, hrest⟩ | ⟨l, e', rest, htrace, hlast⟩)
    · exact ⟨[], e, trace, rfl, htid, hcmd, hrest⟩
    · exact ⟨e :: l, e', rest, by rw [htrace, List.cons_append], hlast⟩

end Trace

/-! ### One move -/

section Move

variable {planner} {users : ι → UserId} {httpStrict : ι → Bool} {room : RoomRow} {now : ℤ}
  {phase : ι → Phase} {conf : Departures ι}
  {i : ι} {c : TxCmd ι} {k : c.Reply → TxM ι (Except AccessError Bool)} {p : Phase}

/-- A move of one call is what it does to that call and to the database. -/
theorem Departing.move (h : Departing users httpStrict room phase conf)
    (hthread : conf.threads i = .call c k)
    (hnext : k (execTx planner c conf.scene.world).1 = p.rest users httpStrict room i)
    (hown : (execTx planner c conf.scene.world).2.writes i = p.writes users room i)
    (hwrites : ∀ j ≠ i, (execTx planner c conf.scene.world).2.writes j =
      conf.scene.world.writes j)
    (hisIn : ∀ userId, (execTx planner c conf.scene.world).2.committed.isIn room.id userId = true ↔
      ∃ j, users j = userId ∧ (Function.update phase i p j).hasLeft = false)
    (hlive : (∀ j, (Function.update phase i p j).hasEnded room = false) →
      (execTx planner c conf.scene.world).2.committed.rooms.find room.id = some room)
    (hended : ∀ j, (Function.update phase i p j).hasEnded room = true →
      (execTx planner c conf.scene.world).2.committed.HasEnded room.id)
    (hlast : p.isLast = true → ∀ j ≠ i, (phase j).hasLeft = true ∧ (phase j).isLast = false)
    (hstays : (phase i).hasLeft = true → p.hasLeft = true)
    (hdeletes : (∃ now, p = .ended now) ∨ p = .cleared → deletesAfterCall room = true)
    (hcounts : CountsLast room.id i (conf.scene.after (execTx planner) i c).trace ↔
      p.isLast = true)
    (hcommits : Committed i (conf.scene.after (execTx planner) i c).trace ↔ p.hasLeft = true)
    (hreports : ReportsLast room.id i (conf.scene.after (execTx planner) i c).trace ↔
      p = .returned true) :
    Departing users httpStrict room (Function.update phase i p)
      (conf.step (execTx planner) i) := by
  rw [Conf.step_of_call _ hthread]
  have hother : ∀ j, j ≠ i → Function.update phase i p j = phase j :=
    fun j hj => Function.update_of_ne hj p phase
  refine ⟨?_, ?_, hisIn, hlive, hended, ?_, ?_, ?_, ?_, ?_⟩
  · intro j
    by_cases hj : j = i
    · subst hj
      simp only [Function.update_self]
      exact hnext
    · simp only [Function.update_of_ne hj]
      exact h.threads j
  · intro j
    by_cases hj : j = i
    · subst hj
      rw [Function.update_self]
      exact hown
    · rw [hother j hj]
      exact (hwrites j hj).trans (h.writes j)
  · intro j hj j' hj'
    by_cases hi : j = i
    · subst hi
      rw [Function.update_self] at hj
      rw [hother j' hj']
      exact hlast hj j' hj'
    · rw [hother j hi] at hj
      have hleft := h.others j hj j' hj'
      by_cases hi' : j' = i
      · subst hi'
        rw [Function.update_self]
        refine ⟨hstays hleft.1, ?_⟩
        by_contra hp
        rw [Bool.not_eq_false] at hp
        rw [(hlast hp j hi).2] at hj
        cases hj
      · rw [hother j' hi']
        exact hleft
  · intro j hj
    by_cases hi : j = i
    · subst hi
      rw [Function.update_self] at hj
      exact hdeletes hj
    · rw [hother j hi] at hj
      exact h.deletes j hj
  · intro j
    by_cases hj : j = i
    · subst hj
      rw [Function.update_self]
      exact hcounts
    · rw [hother j hj, ← h.counts j, Scene.after_trace, countsLast_cons]
      simp [Ne.symm hj]
  · intro j
    by_cases hj : j = i
    · subst hj
      rw [Function.update_self]
      exact hcommits
    · rw [hother j hj, ← h.commits j, Scene.after_trace, committed_cons]
      simp [Ne.symm hj]
  · intro j
    by_cases hj : j = i
    · subst hj
      rw [Function.update_self]
      exact hreports
    · rw [hother j hj, ← h.reports j, Scene.after_trace, reportsLast_cons]
      simp [Ne.symm hj]

/-- While somebody is still in, nobody has ended the room. -/
theorem Departing.not_ended (h : Departing users httpStrict room phase conf)
    (hstay : (phase i).hasLeft = false) (j : ι) : (phase j).hasEnded room = false := by
  by_contra hended
  rw [Bool.not_eq_false, Phase.hasEnded, Bool.and_eq_true, Bool.and_eq_true] at hended
  obtain ⟨⟨hlast, hleft⟩, -⟩ := hended
  have hi : (phase i).hasLeft = true := by
    by_cases hj : i = j
    · rw [hj, hleft]
    · exact (h.others j hlast i hj).1
  rw [hstay] at hi
  cases hi

theorem Departing.find_room (h : Departing users httpStrict room phase conf)
    (hstay : (phase i).hasLeft = false) :
    conf.scene.world.committed.rooms.find room.id = some room :=
  h.live (h.not_ended hstay)

omit [DecidableEq ι] in
theorem Departing.isIn_self (h : Departing users httpStrict room phase conf)
    (hstay : (phase i).hasLeft = false) :
    conf.scene.world.committed.isIn room.id (users i) = true :=
  (h.isIn _).mpr ⟨i, rfl, hstay⟩

theorem hasLeft_update (hleft : p.hasLeft = (phase i).hasLeft) (j : ι) :
    (Function.update phase i p j).hasLeft = (phase j).hasLeft := by
  by_cases hj : j = i
  · rw [hj, Function.update_self, hleft]
  · rw [Function.update_of_ne hj]

/-- A move that commits nothing and tells nothing. -/
theorem Departing.move_open (h : Departing users httpStrict room phase conf)
    (hthread : conf.threads i = .call c k)
    (hnext : k (execTx planner c conf.scene.world).1 = p.rest users httpStrict room i)
    (hown : (execTx planner c conf.scene.world).2.writes i = p.writes users room i)
    (hwrites : ∀ j ≠ i, (execTx planner c conf.scene.world).2.writes j =
      conf.scene.world.writes j)
    (hkeeps : conf.scene.world.committed.Keeps (execTx planner c conf.scene.world).2.committed)
    (hleft : p.hasLeft = (phase i).hasLeft)
    (hlast : p.isLast = true → ∀ j ≠ i, (phase j).hasLeft = true ∧ (phase j).isLast = false)
    (hended : p.hasEnded room = (phase i).hasEnded room)
    (hdeletes : (∃ now, p = .ended now) ∨ p = .cleared → deletesAfterCall room = true)
    (hcommit : c ≠ .commit i)
    (hcounts : CountsLast room.id i (conf.scene.after (execTx planner) i c).trace ↔
      p.isLast = true)
    (hreports : ReportsLast room.id i (conf.scene.after (execTx planner) i c).trace ↔
      p = .returned true) :
    Departing users httpStrict room (Function.update phase i p)
      (conf.step (execTx planner) i) := by
  have hended' : ∀ j, (Function.update phase i p j).hasEnded room = (phase j).hasEnded room := by
    intro j
    by_cases hj : j = i
    · rw [hj, Function.update_self, hended]
    · rw [Function.update_of_ne hj]
  refine h.move hthread hnext hown hwrites ?_ ?_ ?_ hlast
    (fun hi => hleft.trans hi) hdeletes hcounts ?_ hreports
  · intro userId
    simp only [hasLeft_update hleft]
    rw [World.isIn, hkeeps.participants]
    exact h.isIn userId
  · intro hnone
    rw [hkeeps.rooms]
    exact h.live fun j => (hended' j).symm.trans (hnone j)
  · intro j hj
    obtain ⟨row, hfind, hstatus⟩ := h.ended j ((hended' j).symm.trans hj)
    refine ⟨row, ?_, hstatus⟩
    rw [hkeeps.rooms, hfind]
  · rw [hleft, ← h.commits i, Scene.after_trace, committed_cons]
    simp [hcommit]

omit [DecidableEq ι] in
/-- A call that has something left to do has not returned. -/
theorem Departing.not_returned (h : Departing users httpStrict room phase conf)
    (hthread : conf.threads i = .call c k) (last : Bool) : phase i ≠ .returned last := by
  intro hphase
  have hrest := h.threads i
  rw [hphase, hthread] at hrest
  cases hrest

/-- A statement of its own that writes no row. -/
theorem Departing.plain (h : Departing users httpStrict room phase conf) {d : Cmd}
    {k : d.Reply → TxM ι (Except AccessError Bool)} (hquiet : d.Quiet)
    (hthread : conf.threads i = .call (.plain d) k)
    (hnext : k (exec planner d conf.scene.world.committed).1 = p.rest users httpStrict room i)
    (hwrites : p.writes users room i = (phase i).writes users room i)
    (hleft : p.hasLeft = (phase i).hasLeft) (hlast : p.isLast = (phase i).isLast)
    (hdeletes : (∃ now, p = .ended now) ∨ p = .cleared → deletesAfterCall room = true)
    (hreports : d = .send (.sfuRoomTeardown room.id) ↔ p = .returned true) :
    Departing users httpStrict room (Function.update phase i p)
      (conf.step (execTx planner) i) := by
  have hnot := h.not_returned hthread true
  refine h.move_open hthread hnext ?_ (fun j _ => rfl) (hquiet.keeps planner _) hleft ?_ ?_
    hdeletes (by rintro ⟨⟩) ?_ ?_
  · rw [hwrites]
    exact h.writes i
  · intro hp
    exact h.others i (hlast.symm.trans hp)
  · rw [Phase.hasEnded, Phase.hasEnded, hleft, hlast]
  · rw [hlast, ← h.counts i, Scene.after_trace, countsLast_cons]
    simp
  · rw [Scene.after_trace, reportsLast_cons, h.reports i]
    simp only [hnot, or_false, true_and, TxCmd.plain.injEq]
    exact hreports

/-! ### Arriving -/

/-- A move of a call that has not begun its transaction. -/
theorem Departing.arrive (h : Departing users httpStrict room phase conf) {d : Cmd}
    {k : d.Reply → TxM ι (Except AccessError Bool)} (hquiet : d.Quiet)
    (hthread : conf.threads i = .call (.plain d) k)
    (hnext : k (exec planner d conf.scene.world.committed).1 = p.rest users httpStrict room i)
    (hbefore : (phase i).hasLeft = false ∧ (phase i).isLast = false ∧
      (phase i).writes users room i = [])
    (hafter : p.hasLeft = false ∧ p.isLast = false ∧ p.writes users room i = [])
    (htells : d ≠ .send (.sfuRoomTeardown room.id)) :
    Departing users httpStrict room (Function.update phase i p)
      (conf.step (execTx planner) i) := by
  refine h.plain hquiet hthread hnext (hafter.2.2.trans hbefore.2.2.symm)
    (hafter.1.trans hbefore.1.symm) (hafter.2.1.trans hbefore.2.1.symm) ?_ ?_
  · rintro (⟨now, rfl⟩ | rfl)
    · cases hafter.2.1
    · cases hafter.1
  · refine iff_of_false htells ?_
    rintro rfl
    cases hafter.1

variable (hspace : room.roomType = .space) (hlive : room.status = .live)

omit [DecidableEq ι] in
include hspace in
theorem rest_found : Phase.found.rest users httpStrict room i =
    .call (.plain .now) fun now =>
      (leaveSpace (users i) room.id room (httpStrict i) now).expand (statements i) := by
  have hfilter : (some room).filter (·.roomType = .space) = some room := by simp [hspace]
  rw [Phase.rest, leaveFound, hfilter]
  rfl

omit [DecidableEq ι] in
theorem rest_closed {now : ℤ} (hclosed : isDbRoomSessionClosed room now = true) :
    (Phase.timed now).rest users httpStrict room i =
      .call (.plain (.delSessionRoom room.id)) fun _ =>
        Phase.closed.rest users httpStrict room i := by
  rw [Phase.rest, leaveSpace, hclosed]
  rfl

omit [DecidableEq ι] in
include hlive in
theorem rest_open {now : ℤ} (hopen : isDbRoomSessionClosed room now = false) :
    (Phase.timed now).rest users httpStrict room i =
      .call (.plain (.findRoomParticipant room.id (users i))) fun row =>
        (leaveLive (users i) room.id room (httpStrict i) (isActive row)).expand (statements i) := by
  rw [Phase.rest, leaveSpace, hopen, hlive]
  rfl

theorem Departing.step_arriving (h : Departing users httpStrict room phase conf)
    (hphase : phase i = .arriving) :
    Departing users httpStrict room (Function.update phase i .found)
      (conf.step (execTx planner) i) := by
  have hthread := h.threads i
  rw [hphase] at hthread
  have hstay : (phase i).hasLeft = false := by rw [hphase]; rfl
  have hfound : (exec planner (.findRoom room.id {}) conf.scene.world.committed).1 = some room :=
    findRoom_empty.trans (h.find_room hstay)
  refine h.arrive (d := .findRoom room.id {}) trivial hthread ?_
    (by rw [hphase]; exact ⟨rfl, rfl, rfl⟩) ⟨rfl, rfl, rfl⟩ (by rintro ⟨⟩)
  rw [hfound]
  rfl

include hspace in
theorem Departing.step_found (h : Departing users httpStrict room phase conf)
    (hphase : phase i = .found) :
    Departing users httpStrict room
      (Function.update phase i (.timed conf.scene.world.committed.clock))
      (conf.step (execTx planner) i) := by
  have hthread := h.threads i
  rw [hphase, rest_found hspace] at hthread
  exact h.arrive (d := .now) trivial hthread rfl
    (by rw [hphase]; exact ⟨rfl, rfl, rfl⟩) ⟨rfl, rfl, rfl⟩ (by rintro ⟨⟩)

include hlive in
/-- The space may be due by now. -/
theorem Departing.step_timed (h : Departing users httpStrict room phase conf) {now : ℤ}
    (hphase : phase i = .timed now) :
    ∃ phase', Departing users httpStrict room phase' (conf.step (execTx planner) i) := by
  have hthread := h.threads i
  cases hclosed : isDbRoomSessionClosed room now with
  | true =>
      rw [hphase, rest_closed hclosed] at hthread
      exact ⟨_, h.arrive (p := .closed) (d := .delSessionRoom room.id) trivial hthread rfl
        (by rw [hphase]; exact ⟨rfl, rfl, rfl⟩) ⟨rfl, rfl, rfl⟩ (by rintro ⟨⟩)⟩
  | false =>
      rw [hphase, rest_open hlive hclosed] at hthread
      have hstay : (phase i).hasLeft = false := by rw [hphase]; rfl
      have hactive : isActive (exec planner (.findRoomParticipant room.id (users i))
          conf.scene.world.committed).1 = true := h.isIn_self hstay
      refine ⟨_, h.arrive (p := .active)
        (d := .findRoomParticipant room.id (users i)) trivial hthread ?_
        (by rw [hphase]; exact ⟨rfl, rfl, rfl⟩) ⟨rfl, rfl, rfl⟩ (by rintro ⟨⟩)⟩
      rw [hactive]
      rfl

theorem Departing.step_closed (h : Departing users httpStrict room phase conf)
    (hphase : phase i = .closed) :
    Departing users httpStrict room (Function.update phase i .shut)
      (conf.step (execTx planner) i) := by
  have hthread := h.threads i
  rw [hphase] at hthread
  exact h.arrive (d := .clearUserActiveRtcRoom (users i)) trivial hthread rfl
    (by rw [hphase]; exact ⟨rfl, rfl, rfl⟩) ⟨rfl, rfl, rfl⟩ (by rintro ⟨⟩)

theorem Departing.step_active (h : Departing users httpStrict room phase conf)
    (hphase : phase i = .active) :
    Departing users httpStrict room
      (Function.update phase i (.ready conf.scene.world.committed.clock))
      (conf.step (execTx planner) i) := by
  have hthread := h.threads i
  rw [hphase] at hthread
  exact h.arrive (d := .now) trivial hthread rfl
    (by rw [hphase]; exact ⟨rfl, rfl, rfl⟩) ⟨rfl, rfl, rfl⟩ (by rintro ⟨⟩)

end Move

/-! ### The transaction -/

section View

variable {w : World} {roomId : RoomId} {userId userId' : UserId} {now : ℤ}

theorem isIn_setLeftAt_user :
    (w.setLeftAt roomId (·.userId = userId) (some now)).isIn roomId userId' = true ↔
      w.isIn roomId userId' = true ∧ userId' ≠ userId := by
  by_cases huser : userId' = userId
  · subst huser
    refine iff_of_false ?_ fun h => h.2 rfl
    rw [World.isIn, find_setLeftAt]
    cases hfind : w.participants.find (roomId, userId') with
    | none => exact Bool.false_ne_true
    | some row =>
        obtain ⟨hroom, huser⟩ := Prod.mk.inj (Sql.Table.mem_of_find hfind).2
        simp [hroom, huser, isActive]
  · rw [isIn_setLeftAt_of_ne w fun row _ hrow => ?_]
    · exact (and_iff_left huser).symm
    · rw [hrow, decide_eq_false huser, Bool.and_false]

theorem seatsTaken_eq_zero : w.seatsTaken roomId = 0 ↔ ∀ userId, w.isIn roomId userId = false := by
  rw [seatsTaken_eq_length, List.length_eq_zero_iff, List.eq_nil_iff_forall_not_mem]
  simp only [mem_activeUserIds_iff, Bool.not_eq_true]

end View

section Transaction

variable {planner} {users : ι → UserId} {httpStrict : ι → Bool} {room : RoomRow} {now : ℤ}
  {phase : ι → Phase} {conf : Departures ι}
  {i : ι} {c : TxCmd ι} {k : c.Reply → TxM ι (Except AccessError Bool)} {p : Phase}

theorem Departing.step_ready (h : Departing users httpStrict room phase conf)
    (hphase : phase i = .ready now) :
    Departing users httpStrict room (Function.update phase i (.marked now))
      (conf.step (execTx planner) i) := by
  have hthread := h.threads i
  have hwrites := h.writes i
  rw [hphase] at hthread hwrites
  have hin : (conf.scene.world.view i).isIn room.id (users i) = true := by
    rw [Sql.Sessions.view_of_nil hwrites]
    exact h.isIn_self (by rw [hphase]; rfl)
  have hexec : execTx planner (.markLeft i room.id (users i) now) conf.scene.world =
      ((), conf.scene.world.write i (·.setLeftAt room.id (·.userId = users i) (some now))) :=
    if_pos hin
  refine h.move_open (p := .marked now) (c := .markLeft i room.id (users i) now) hthread rfl
    ?_ ?_ ?_ (by rw [hphase]; rfl) (by rintro ⟨⟩) (by rw [hphase]; rfl) (by simp) (by rintro ⟨⟩)
    ?_ ?_
  · rw [hexec, Sql.Sessions.write_writes_self, hwrites]
    rfl
  · intro j hj
    rw [hexec]
    exact Sql.Sessions.write_writes_of_ne hj _
  · rw [hexec]
    exact .refl _
  · rw [Scene.after_trace, countsLast_cons, h.counts i, hphase]
    simp [Phase.isLast]
  · rw [Scene.after_trace, reportsLast_cons, h.reports i, hphase]
    simp

omit [DecidableEq ι] in
/-- What a call sees that has marked its row: the others who have not committed. -/
theorem Departing.isIn_view (h : Departing users httpStrict room phase conf)
    (hwrites : conf.scene.world.writes i =
      [(·.setLeftAt room.id (·.userId = users i) (some now))]) (userId : UserId) :
    (conf.scene.world.view i).isIn room.id userId = true ↔
      (∃ j, users j = userId ∧ (phase j).hasLeft = false) ∧ userId ≠ users i := by
  rw [Sql.Sessions.view, hwrites, ← h.isIn userId]
  exact isIn_setLeftAt_user

omit [DecidableEq ι] in
/-- **The count** is zero if all the others have committed. -/
theorem Departing.count_eq_zero (h : Departing users httpStrict room phase conf)
    (hinj : Function.Injective users)
    (hwrites : conf.scene.world.writes i =
      [(·.setLeftAt room.id (·.userId = users i) (some now))]) :
    (conf.scene.world.view i).seatsTaken room.id = 0 ↔ ∀ j ≠ i, (phase j).hasLeft = true := by
  rw [seatsTaken_eq_zero]
  constructor
  · intro hnone j hj
    by_contra hstay
    have hin := (h.isIn_view hwrites (users j)).mpr
      ⟨⟨j, rfl, Bool.eq_false_iff.mpr hstay⟩, fun heq => hj (hinj heq)⟩
    rw [hnone] at hin
    cases hin
  · intro hall userId
    by_contra hin
    rw [Bool.not_eq_false, h.isIn_view hwrites] at hin
    obtain ⟨⟨j, rfl, hstay⟩, hne⟩ := hin
    rw [hall j fun heq => hne (by rw [heq])] at hstay
    cases hstay

theorem Departing.step_marked (h : Departing users httpStrict room phase conf)
    (hinj : Function.Injective users) (hphase : phase i = .marked now) :
    ∃ phase', Departing users httpStrict room phase' (conf.step (execTx planner) i) := by
  have hthread := h.threads i
  have hwrites := h.writes i
  rw [hphase] at hthread hwrites
  have hzero := h.count_eq_zero hinj hwrites
  refine ⟨_, h.move_open (p := .counted now ((conf.scene.world.view i).seatsTaken room.id))
    (c := .countActive i room.id) hthread rfl hwrites (fun j _ => rfl) (.refl _)
    (by rw [hphase]; rfl) ?_ ?_ (by simp) (by rintro ⟨⟩) ?_ ?_⟩
  · intro hlast j hj
    refine ⟨hzero.mp (of_decide_eq_true hlast) j hj, ?_⟩
    by_contra honly
    rw [Bool.not_eq_false] at honly
    have hstay := (h.others j honly i (Ne.symm hj)).1
    rw [hphase] at hstay
    cases hstay
  · rw [hphase, Phase.hasEnded, Phase.hasEnded]
    simp [Phase.hasLeft]
  · rw [Scene.after_trace, countsLast_cons, h.counts i, hphase, Phase.isLast, decide_eq_true_eq,
      hzero]
    simp only [h.commits, Phase.isLast, Bool.false_eq_true, or_false, true_and]
  · rw [Scene.after_trace, reportsLast_cons, h.reports i, hphase]
    simp

/-- A call commits. -/
theorem Departing.commit (h : Departing users httpStrict room phase conf)
    {k : Unit → TxM ι (Except AccessError Bool)} (hthread : conf.threads i = .call (.commit i) k)
    (hnext : k () = p.rest users httpStrict room i) (hstay : (phase i).hasLeft = false)
    (hp : ∃ last, p = .left last) (hlast : p.isLast = (phase i).isLast)
    (hisIn : ∀ userId, (conf.scene.world.view i).isIn room.id userId = true ↔
      (∃ j, users j = userId ∧ (phase j).hasLeft = false) ∧ userId ≠ users i)
    (hinj : Function.Injective users)
    (hlive : p.hasEnded room = false → (conf.scene.world.view i).rooms.find room.id = some room)
    (hended : p.hasEnded room = true → (conf.scene.world.view i).HasEnded room.id) :
    Departing users httpStrict room (Function.update phase i p)
      (conf.step (execTx planner) i) := by
  obtain ⟨last, rfl⟩ := hp
  refine h.move hthread hnext Sql.Sessions.commit_writes_self
    (fun j hj => Sql.Sessions.commit_writes_of_ne hj) ?_ ?_ ?_ ?_ (fun _ => rfl)
    (by simp) ?_ ?_ ?_
  · intro userId
    refine (hisIn userId).trans ⟨?_, ?_⟩
    · rintro ⟨⟨j, rfl, hj⟩, hne⟩
      refine ⟨j, rfl, ?_⟩
      rw [Function.update_of_ne fun heq => hne (by rw [heq])]
      exact hj
    · rintro ⟨j, rfl, hj⟩
      by_cases hi : j = i
      · rw [hi, Function.update_self] at hj
        cases hj
      · rw [Function.update_of_ne hi] at hj
        exact ⟨⟨j, rfl, hj⟩, fun heq => hi (hinj heq)⟩
  · intro hnone
    have hi := hnone i
    rw [Function.update_self] at hi
    exact hlive hi
  · intro j hj
    by_cases hi : j = i
    · rw [hi, Function.update_self] at hj
      exact hended hj
    · rw [Function.update_of_ne hi, h.not_ended hstay] at hj
      cases hj
  · intro hp
    exact h.others i (hlast.symm.trans hp)
  · rw [Scene.after_trace, countsLast_cons, h.counts i, hlast]
    simp
  · rw [Scene.after_trace, committed_cons]
    simp [Phase.hasLeft]
  · rw [Scene.after_trace, reportsLast_cons, h.reports i]
    have hnot := h.not_returned hthread true
    simp [hnot]

/-- Somebody who was not the last commits, or whoever was and does not end the
room. -/
theorem Departing.commit_counted (h : Departing users httpStrict room phase conf)
    (hinj : Function.Injective users) {activeLeft : ℕ} (hphase : phase i = .counted now activeLeft)
    {k : Unit → TxM ι (Except AccessError Bool)} (hthread : conf.threads i = .call (.commit i) k)
    (last : Bool) (hnext : k () = (Phase.left last).rest users httpStrict room i)
    (hlast : last = decide (activeLeft = 0)) (hkeep : (Phase.left last).hasEnded room = false) :
    Departing users httpStrict room (Function.update phase i (.left last))
      (conf.step (execTx planner) i) := by
  have hwrites := h.writes i
  rw [hphase] at hwrites
  have hstay : (phase i).hasLeft = false := by rw [hphase]; rfl
  have hview : conf.scene.world.view i =
      conf.scene.world.committed.setLeftAt room.id (·.userId = users i) (some now) := by
    rw [Sql.Sessions.view, hwrites]
    rfl
  refine h.commit hthread hnext hstay ⟨last, rfl⟩ (by rw [hphase, hlast]; rfl)
    (h.isIn_view hwrites) hinj ?_ ?_
  · intro _
    rw [hview]
    exact h.find_room hstay
  · intro hended
    rw [hkeep] at hended
    cases hended

variable (hspace : room.roomType = .space) (hlive : room.status = .live)

include hspace hlive in
theorem Departing.step_counted (h : Departing users httpStrict room phase conf)
    (hinj : Function.Injective users) {activeLeft : ℕ}
    (hphase : phase i = .counted now activeLeft) :
    ∃ phase', Departing users httpStrict room phase' (conf.step (execTx planner) i) := by
  have hthread := h.threads i
  rw [hphase, Phase.rest, endIfLast] at hthread
  by_cases hzero : activeLeft = 0
  swap
  · rw [if_pos (Nat.pos_of_ne_zero hzero)] at hthread
    refine ⟨_, h.commit_counted hinj hphase hthread false rfl ?_ rfl⟩
    exact (decide_eq_false hzero).symm
  subst hzero
  rw [if_neg (lt_irrefl 0)] at hthread
  cases hdelete : deletesAfterCall room with
  | false =>
      rw [hdelete, if_neg Bool.false_ne_true] at hthread
      have hkeep : (Phase.left true).hasEnded room = false := hdelete
      refine ⟨_, h.commit_counted hinj hphase hthread true ?_ rfl hkeep⟩
      rw [Phase.rest, hdelete]
      rfl
  | true =>
      rw [hdelete, if_pos rfl] at hthread
      have hwrites := h.writes i
      rw [hphase] at hwrites
      have hstay : (phase i).hasLeft = false := by rw [hphase]; rfl
      have hfound : ((conf.scene.world.view i).findRoom room.id liveSpace).isSome = true := by
        rw [Sql.Sessions.view, hwrites]
        show (World.findRoom _ room.id liveSpace).isSome = true
        rw [World.findRoom]
        show (Option.filter _ (conf.scene.world.committed.rooms.find room.id)).isSome = true
        rw [h.find_room hstay, Option.filter_some, if_pos]
        · rfl
        · simp [RoomWhere.matches_, liveSpace, hspace, hlive]
      have hexec : execTx planner (.endRoom i room.id now) conf.scene.world =
          (true, conf.scene.world.write i (·.updateRoom room.id {} (.ended now))) := if_pos hfound
      refine ⟨_, h.move_open (p := .ended now) (c := .endRoom i room.id now) hthread ?_ ?_ ?_ ?_
        (by rw [hphase]; rfl) ?_ ?_ (fun _ => hdelete) (by rintro ⟨⟩) ?_ ?_⟩
      · rw [hexec]
        rfl
      · rw [hexec, Sql.Sessions.write_writes_self, hwrites]
        rfl
      · intro j hj
        rw [hexec]
        exact Sql.Sessions.write_writes_of_ne hj _
      · rw [hexec]
        exact .refl _
      · intro _
        exact h.others i (by rw [hphase]; rfl)
      · rw [hphase]
        rfl
      · rw [Scene.after_trace, countsLast_cons, h.counts i, hphase]
        simp [Phase.isLast]
      · rw [Scene.after_trace, reportsLast_cons, h.reports i, hphase]
        simp

/-- The last one commits the end of the room. -/
theorem Departing.step_ended (h : Departing users httpStrict room phase conf)
    (hinj : Function.Injective users) (hphase : phase i = .ended now) :
    Departing users httpStrict room (Function.update phase i (.left true))
      (conf.step (execTx planner) i) := by
  have hthread := h.threads i
  have hwrites := h.writes i
  have hdelete := h.deletes i (.inl ⟨now, hphase⟩)
  rw [hphase] at hthread hwrites
  have hstay : (phase i).hasLeft = false := by rw [hphase]; rfl
  have hview : conf.scene.world.view i = (conf.scene.world.committed.setLeftAt room.id
      (·.userId = users i) (some now)).updateRoom room.id {} (.ended now) := by
    rw [Sql.Sessions.view, hwrites]
    rfl
  refine h.commit (k := fun _ => _) hthread ?_ hstay ⟨true, rfl⟩ (by rw [hphase]; rfl) ?_ hinj ?_ ?_
  · rw [Phase.rest, hdelete]
    rfl
  · intro userId
    rw [hview, ← h.isIn userId]
    exact isIn_setLeftAt_user
  · intro hended
    rw [Phase.hasEnded, hdelete] at hended
    cases hended
  · intro _
    have hfind : (conf.scene.world.committed.setLeftAt room.id (·.userId = users i)
        (some now)).rooms.find room.id = some room := h.find_room hstay
    rw [hview]
    exact ⟨_, find_updateRoom_of_matches hfind rfl, rfl⟩

end Transaction

/-! ### After the transaction -/

section After

variable {planner} {users : ι → UserId} {httpStrict : ι → Bool} {room : RoomRow} {now : ℤ}
  {phase : ι → Phase} {conf : Departures ι}
  {i : ι}

theorem Departing.step_left (h : Departing users httpStrict room phase conf) {last : Bool}
    (hphase : phase i = .left last) :
    ∃ phase', Departing users httpStrict room phase' (conf.step (execTx planner) i) := by
  have hthread := h.threads i
  rw [hphase, Phase.rest] at hthread
  cases last with
  | false =>
      refine ⟨_, h.plain (p := .returned false) (d := .clearUserActiveRtcRoom (users i)) trivial
        hthread rfl ?_ ?_ ?_ (by simp) (by simp)⟩ <;> rw [hphase] <;> rfl
  | true =>
      cases hdelete : deletesAfterCall room with
      | false =>
          rw [hdelete] at hthread
          refine ⟨_, h.plain (p := .notifying) (d := .clearUserActiveRtcRoom (users i)) trivial
            hthread ?_ ?_ ?_ ?_ (by simp) (by simp)⟩
          · rw [Phase.rest, hdelete]
            rfl
          all_goals rw [hphase]; rfl
      | true =>
          rw [hdelete] at hthread
          refine ⟨_, h.plain (p := .cleared) (d := .clearUserActiveRtcRoom (users i)) trivial
            hthread rfl ?_ ?_ ?_ (fun _ => hdelete) (by simp)⟩ <;> rw [hphase] <;> rfl

theorem Departing.step_cleared (h : Departing users httpStrict room phase conf)
    (hphase : phase i = .cleared) :
    Departing users httpStrict room (Function.update phase i .notifying)
      (conf.step (execTx planner) i) := by
  have hthread := h.threads i
  have hdelete := h.deletes i (.inr hphase)
  rw [hphase] at hthread
  refine h.plain (d := .delSessionRoom room.id) trivial hthread ?_ ?_ ?_ ?_ (by simp) (by simp)
  · rw [Phase.rest, hdelete]
  all_goals rw [hphase]; rfl

theorem Departing.step_notifying (h : Departing users httpStrict room phase conf)
    (hphase : phase i = .notifying) :
    Departing users httpStrict room (Function.update phase i (.returned true))
      (conf.step (execTx planner) i) := by
  have hthread := h.threads i
  rw [hphase] at hthread
  refine h.plain (d := .send (.sfuRoomTeardown room.id)) trivial hthread rfl ?_ ?_ ?_ (by simp)
    (by simp)
  all_goals rw [hphase]; rfl

/-- **One step.** -/
theorem Departing.step (h : Departing users httpStrict room phase conf)
    (hspace : room.roomType = .space) (hlive : room.status = .live)
    (hinj : Function.Injective users) (i : ι) :
    ∃ phase', Departing users httpStrict room phase' (conf.step (execTx planner) i) := by
  cases hphase : phase i with
  | arriving => exact ⟨_, h.step_arriving hphase⟩
  | found => exact ⟨_, h.step_found hspace hphase⟩
  | timed now => exact h.step_timed hlive hphase
  | active => exact ⟨_, h.step_active hphase⟩
  | ready now => exact ⟨_, h.step_ready hphase⟩
  | marked now => exact h.step_marked hinj hphase
  | counted now activeLeft => exact h.step_counted hspace hlive hinj hphase
  | ended now => exact ⟨_, h.step_ended hinj hphase⟩
  | closed => exact ⟨_, h.step_closed hphase⟩
  | left last => exact h.step_left hphase
  | cleared => exact ⟨_, h.step_cleared hphase⟩
  | notifying => exact ⟨_, h.step_notifying hphase⟩
  | shut =>
      have hthread := h.threads i
      rw [hphase] at hthread
      rw [Conf.step_of_done _ hthread]
      exact ⟨phase, h⟩
  | returned last =>
      have hthread := h.threads i
      rw [hphase] at hthread
      rw [Conf.step_of_done _ hthread]
      exact ⟨phase, h⟩

/-- Time that passes leaves everybody where they are. -/
theorem Departing.elapse (h : Departing users httpStrict room phase conf) (ms : ℕ) :
    Departing users httpStrict room phase (conf.turn planner (.elapse ms)) where
  threads := h.threads
  writes := h.writes
  isIn := h.isIn
  live := h.live
  ended := h.ended
  others := h.others
  deletes := h.deletes
  counts := h.counts
  commits := h.commits
  reports := h.reports

/-- **A run.** -/
theorem Departing.turns (hspace : room.roomType = .space) (hlive : room.status = .live)
    (hinj : Function.Injective users) (schedule : List (Turn ι)) :
    ∀ {phase : ι → Phase} {conf : Departures ι}, Departing users httpStrict room phase conf →
      ∃ phase', Departing users httpStrict room phase' (conf.turns planner schedule) := by
  induction schedule with
  | nil => exact fun h => ⟨_, h⟩
  | cons turn schedule ih =>
      intro phase conf h
      cases turn with
      | call i =>
          have hstep : ∃ phase', Departing users httpStrict room phase'
              (conf.step (execTx planner) i) := h.step hspace hlive hinj i
          obtain ⟨phase', h'⟩ := hstep
          exact ih h'
      | elapse ms => exact ih (h.elapse ms)

end After

/-! ### Every run -/

section Runs

variable {planner} {users : ι → UserId} {httpStrict : ι → Bool} {room : RoomRow} {w : World}
  {phase : ι → Phase} {conf : Departures ι} {i : ι}

omit [DecidableEq ι] in
theorem departing_leavers (hfind : w.rooms.find room.id = some room)
    (hactive : ∀ userId, w.isIn room.id userId = true ↔ ∃ i, users i = userId) :
    Departing users httpStrict room (fun _ => .arriving) (leavers users httpStrict room.id w) where
  threads _ := rfl
  writes _ := rfl
  isIn userId := by
    rw [leavers, hactive userId]
    simp [Phase.hasLeft]
  live _ := hfind
  ended _ h := by cases h
  others _ h := by cases h
  deletes _ h := by simp at h
  counts i := by simp [CountsLast, leavers, Phase.isLast]
  commits i := by simp [Committed, leavers, Phase.hasLeft]
  reports i := by simp [ReportsLast, leavers]

omit [DecidableEq ι] in
/-- A call that is done has left, or was told that the space is due. -/
theorem Departing.done (h : Departing users httpStrict room phase conf)
    (hspace : room.roomType = .space) (hlive : room.status = .live)
    {result : Except AccessError Bool} (hdone : conf.threads i = .done result) :
    phase i = .shut ∧ result = .ok false ∨
      ∃ last, phase i = .returned last ∧ result = .ok (last && deletesAfterCall room) := by
  rw [h.threads i] at hdone
  cases hphase : phase i with
  | shut =>
      rw [hphase] at hdone
      cases hdone
      exact .inl ⟨rfl, rfl⟩
  | returned last =>
      rw [hphase] at hdone
      cases hdone
      exact .inr ⟨last, rfl, rfl⟩
  | found =>
      rw [hphase, rest_found hspace] at hdone
      cases hdone
  | timed now =>
      cases hclosed : isDbRoomSessionClosed room now with
      | true =>
          rw [hphase, rest_closed hclosed] at hdone
          cases hdone
      | false =>
          rw [hphase, rest_open hlive hclosed] at hdone
          cases hdone
  | counted now activeLeft =>
      rw [hphase, Phase.rest, endIfLast] at hdone
      by_cases hpos : activeLeft > 0
      · rw [if_pos hpos] at hdone
        cases hdone
      · rw [if_neg hpos] at hdone
        cases hdelete : deletesAfterCall room <;> rw [hdelete] at hdone <;> cases hdone
  | arriving | active | ready | marked | ended | closed | left | cleared | notifying =>
      rw [hphase] at hdone
      cases hdone

variable (hspace : room.roomType = .space) (hlive : room.status = .live)

include hspace hlive

omit [DecidableEq ι] in
/-- Whoever was the last has told so, when all calls have returned. -/
theorem Departing.returned_of_isLast (h : Departing users httpStrict room phase conf)
    (hdone : ∀ i, ∃ result, conf.threads i = .done result) (hlast : (phase i).isLast = true) :
    phase i = .returned true := by
  obtain ⟨result, hresult⟩ := hdone i
  rcases h.done hspace hlive hresult with ⟨hshut, -⟩ | ⟨last, hreturned, -⟩
  · rw [hshut] at hlast
    cases hlast
  · rw [hreturned] at hlast
    cases last
    · cases hlast
    · exact hreturned

omit [DecidableEq ι] in
/-- Exactly the call of the last one returns that the room has ended. -/
theorem Departing.returns_true_iff (h : Departing users httpStrict room phase conf)
    (hdelete : deletesAfterCall room = true)
    (hdone : ∀ i, ∃ result, conf.threads i = .done result) :
    conf.threads i = .done (.ok true) ↔ (phase i).isLast = true := by
  constructor
  · intro htrue
    rcases h.done hspace hlive htrue with ⟨-, hresult⟩ | ⟨last, hreturned, hresult⟩
    · cases hresult
    · rw [hreturned]
      rw [hdelete, Bool.and_true] at hresult
      exact (Except.ok.inj hresult).symm
  · intro hlast
    rw [h.threads i, h.returned_of_isLast hspace hlive hdone hlast, Phase.rest, hdelete]
    rfl

end Runs

/-- **The last one out**: when all participants of a live space have left it, in
any interleaving of their calls, the last one is noticed if and only if some call
has counted after all the others had committed. -/
theorem lastNoticed_iff {users : ι → UserId} (hinj : Function.Injective users)
    (httpStrict : ι → Bool) {room : RoomRow} {w : World}
    (hfind : w.rooms.find room.id = some room) (hspace : room.roomType = .space)
    (hlive : room.status = .live)
    (hactive : ∀ userId, w.isIn room.id userId = true ↔ ∃ i, users i = userId)
    (schedule : List (Turn ι))
    (hdone : ∀ i, ∃ result,
      ((leavers users httpStrict room.id w).turns planner schedule).threads i = .done result) :
    LastNoticed room ((leavers users httpStrict room.id w).turns planner schedule) ↔
      ∃ i, CountsLast room.id i
        ((leavers users httpStrict room.id w).turns planner schedule).scene.trace := by
  have hbegin : Departing users httpStrict room _ (leavers users httpStrict room.id w) :=
    departing_leavers hfind hactive
  have hruns : ∃ phase, Departing users httpStrict room phase
      ((leavers users httpStrict room.id w).turns planner schedule) :=
    hbegin.turns hspace hlive hinj schedule
  obtain ⟨phase, h⟩ := hruns
  constructor
  · intro hnoticed
    obtain ⟨i, hreports⟩ := hnoticed.noticed
    refine ⟨i, (h.counts i).mpr ?_⟩
    rw [(h.reports i).mp hreports]
    rfl
  · rintro ⟨i, hcounts⟩
    have hlast := (h.counts i).mp hcounts
    have hreturned := h.returned_of_isLast hspace hlive hdone hlast
    refine ⟨⟨i, (h.reports i).mpr hreturned⟩, fun hdelete => ⟨h.ended i ?_, i, ?_, ?_⟩⟩
    · rw [Phase.hasEnded, hreturned, hdelete]
      rfl
    · exact (h.returns_true_iff hspace hlive hdelete hdone).mpr hlast
    · intro j hj
      rw [h.returns_true_iff hspace hlive hdelete hdone] at hj
      by_contra hne
      rw [(h.others i hlast j hne).2] at hj
      cases hj

namespace Sample

def nora : UserId := ⟨"host-nora", by decide⟩
def otto : UserId := ⟨"guest-otto", by decide⟩

/-- A space that is to end with its call. -/
def oneShot : RoomRow where
  id := ⟨"one shot", by decide⟩
  hostUserId := nora
  title := "One shot"
  visibility := .public_
  maxParticipants := 4
  status := .live
  startedAt := some 0
  advancedOptions := { deleteSpaceAfterCall := some true }
  roomType := .space
  sessionKind := .space

def oneShotWorld : World where
  rooms := { rows := [oneShot], unique := List.nodup_singleton _ }
  participants :=
    { rows := [⟨oneShot.id, nora, .host, none⟩, ⟨oneShot.id, otto, .participant, none⟩]
      unique := by decide }
  clock := minutes 1

def couple : Bool → UserId
  | false => nora
  | true => otto

theorem couple_active (userId : UserId) :
    oneShotWorld.isIn oneShot.id userId = true ↔ ∃ i, couple i = userId := by
  rw [← mem_activeUserIds_iff]
  show userId ∈ [nora, otto] ↔ _
  simp [couple, eq_comm]

/-- One leaves after the other. -/
def inTurn : List (Turn Bool) :=
  List.replicate 9 (.call false) ++ [.elapse 500] ++ List.replicate 11 (.call true)

theorem lastNoticed_inTurn :
    LastNoticed oneShot
      ((leavers couple (fun _ => true) oneShot.id oneShotWorld).turns .inOrder inTurn) := by
  have hinj : ∀ i j, couple i = couple j → i = j := by decide
  apply (lastNoticed_iff .inOrder (fun i j => hinj i j) _ (show _ = some oneShot from rfl) rfl rfl
    couple_active inTurn ?_).mpr
  · refine ⟨true, [_, _, _, _, _], _,
      _ :: _ :: _ :: _ :: _ :: _ :: ⟨false, .commit false, ()⟩ :: _, rfl, rfl, rfl, ?_⟩
    intro j hj
    cases j
    · exact ⟨⟨false, .commit false, ()⟩, by simp, rfl, rfl⟩
    · cases hj rfl
  · intro i
    cases i
    · exact ⟨_, rfl⟩
    · exact ⟨_, rfl⟩

/-- Both mark their rows before either counts. -/
def together : List (Turn Bool) :=
  (List.replicate 8 [Turn.call false, .call true]).flatten

/-- Each finds the other still in, and the space stays live with nobody in it. -/
theorem not_lastNoticed_together :
    let conf := (leavers couple (fun _ => true) oneShot.id oneShotWorld).turns .inOrder together
    (∀ i, conf.threads i = .done (.ok false)) ∧ ¬ LastNoticed oneShot conf := by
  have hreturned : ∀ i, ((leavers couple (fun _ => true) oneShot.id oneShotWorld).turns .inOrder
      together).threads i = .done (.ok false) := by
    intro i
    cases i
    · rfl
    · rfl
  refine ⟨hreturned, fun hnoticed => ?_⟩
  obtain ⟨-, i, htrue, -⟩ := hnoticed.ended rfl
  rw [hreturned] at htrue
  cases htrue

end Sample

end Greetup.Rooms
