import Greetup.Rooms.RoomCalls

/-!
Whether a space whose host has to open it admits anybody before the host does.

The gate is a field of the hash in Redis. The hash is written after the row is
`live`, it can expire while the session goes on, and a space without a hash has
no gate. The gate is looked at some commands before the token is returned.
-/

namespace Greetup.Rooms

open Interleaving Prog

variable (planner : Planner) {ι : Type} [DecidableEq ι]

/-- A row has become `live`. -/
inductive StartsSession (roomId : RoomId) : Event ι Cmd Cmd.Reply → Prop
  | mk (i : ι) (cond : RoomWhere) (startedAt : ℤ) (fields : RoomExpiryFields) (row : RoomRow) :
      StartsSession roomId ⟨i, .updateRoom roomId cond (.live startedAt fields), some row⟩

/-- The host's call takes the gate away. -/
def OpensGate (calls : ι → RoomCall) (roomId : RoomId) (e : Event ι Cmd Cmd.Reply) : Prop :=
  ∃ userId session, calls e.tid = .openMeeting userId roomId ∧
    e.cmd = .hsetSessionRoom roomId session

/-- The host has opened the space in its last session. -/
def Opened (calls : ι → RoomCall) (roomId : RoomId) (trace : List (Event ι Cmd Cmd.Reply)) : Prop :=
  ∃ l e rest, trace = l ++ e :: rest ∧ OpensGate calls roomId e ∧
    ∀ e' ∈ l, ¬ StartsSession roomId e'

/-- The call is for the token of somebody other than the host. -/
def AsksToken (calls : ι → RoomCall) (space : RoomRow) (i : ι) : Prop :=
  ∃ userId, userId ≠ space.hostUserId ∧ (calls i).bearer = some (userId, space.id)

/-- With its next command the call returns a token. -/
def IssuesToken (conf : Conf ι Cmd Cmd.Reply RoomOutcome World) (i : ι) : Prop :=
  ∃ c k outcome, conf.threads i = .call c k ∧
    (conf.step (exec planner) i).threads i = .done outcome ∧ outcome.hasToken = true

/-- Tokens go to others than the host only after the host has opened the space. -/
def GateKept (calls : ι → RoomCall) (space : RoomRow) (w : World) (sched : List ι) : Prop :=
  ∀ before i after, sched = before ++ i :: after → AsksToken calls space i →
    IssuesToken planner ((begun calls w).runs (exec planner) before) i →
    Opened calls space.id ((begun calls w).runs (exec planner) (before ++ [i])).scene.trace

/-- Where the call looks for the gate, there is none: the hash is not there, or
the field does not say that the gate is up. -/
def FindsNoGate (roomId : RoomId) (c : Cmd) (w : World) : Prop :=
  c = .existsSessionRoom roomId ∧ w.sessionRooms roomId = none ∨
    c = .hgetLobbyGateActive roomId ∧ (w.sessionRooms roomId).bind (·.lobbyGateActive) ≠ some true

/-- A session has started since the call was let through the gate. -/
def Overtaken (roomId : RoomId) (i : ι) (trace : List (Event ι Cmd Cmd.Reply)) : Prop :=
  ∃ l e rest, trace = l ++ e :: rest ∧ e.tid = i ∧ LetsThrough roomId ⟨e.cmd, e.reply⟩ ∧
    ∃ e' ∈ l, StartsSession roomId e'

/-- A call for a token finds no gate in a session that was not opened, or goes
on when another session has started since it was let through. -/
def SlipsThrough (calls : ι → RoomCall) (space : RoomRow) (i : ι) (c : Cmd)
    (s : Scene ι Cmd Cmd.Reply World) : Prop :=
  AsksToken calls space i ∧
    (FindsNoGate space.id c s.world ∧ ¬ Opened calls space.id s.trace ∨
      Overtaken space.id i s.trace)

/-- Where a call for a token was let through, the space had been opened. -/
def LooksRight (calls : ι → RoomCall) (space : RoomRow) (trace : List (Event ι Cmd Cmd.Reply)) :
    Prop :=
  ∀ l e rest, trace = l ++ e :: rest → AsksToken calls space e.tid →
    LetsThrough space.id ⟨e.cmd, e.reply⟩ → Opened calls space.id rest

structure Guarded (calls : ι → RoomCall) (space : RoomRow) (s : Scene ι Cmd Cmd.Reply World) :
    Prop where
  knows : Knows space s
  looks : LooksRight calls space s.trace

section Step

variable {planner} {calls : ι → RoomCall} {space : RoomRow} {s : Scene ι Cmd Cmd.Reply World}
  {i : ι} {c : Cmd}

omit [DecidableEq ι] in
/-- A space stays open as long as no session starts. -/
theorem Opened.append {l trace : List (Event ι Cmd Cmd.Reply)}
    (h : Opened calls space.id trace) (hl : ∀ e ∈ l, ¬ StartsSession space.id e) :
    Opened calls space.id (l ++ trace) := by
  obtain ⟨l', e, rest, rfl, hopens, hl'⟩ := h
  refine ⟨l ++ l', e, rest, by rw [List.append_assoc], hopens, fun e' he' => ?_⟩
  rcases List.mem_append.mp he' with he' | he'
  · exact hl e' he'
  · exact hl' e' he'

omit [DecidableEq ι] in
theorem StartsSession.not_followsUp {e : Event ι Cmd Cmd.Reply}
    (he : StartsSession space.id e) : ¬ e.cmd.FollowsUp := by
  cases he
  exact id

omit [DecidableEq ι] in
theorem LetsThrough.not_startsSession {e : Event ι Cmd Cmd.Reply}
    (he : LetsThrough space.id ⟨e.cmd, e.reply⟩) : ¬ StartsSession space.id e := by
  intro hstarts
  cases hstarts
  cases he

omit [DecidableEq ι] in
theorem findsNoGate_of_letsThrough {w : World}
    (h : LetsThrough space.id ⟨c, (exec planner c w).1⟩) : FindsNoGate space.id c w := by
  generalize hreply : (exec planner c w).1 = reply at h
  cases h with
  | noHash => exact .inl ⟨rfl, by simpa [exec] using hreply⟩
  | noGate gate hgate => exact .inr ⟨rfl, fun hup => hgate (hreply.symm.trans hup)⟩

/-- What lets others than the host have a token is a gate that was not there. -/
theorem seenGateDown_of_mayEnter (hknows : Knows space s) (hgated : isHostGated space = true)
    {userId : UserId} (hmay : MayEnter (s.told i) space.id userId)
    (hhost : userId ≠ space.hostUserId) : SeenGateDown (s.told i) space.id := by
  obtain ⟨room, hseen, hid, hwhy⟩ := hmay
  have hsame := hknows.seen i room hseen hid
  rcases hwhy with hdirect | hhost' | ⟨-, hungated | hdown⟩
  · rw [hsame.roomType] at hdirect
    cases hdirect
  · exact absurd (hhost'.symm.trans hsame.hostUserId) hhost
  · rw [isHostGated, hsame.advancedOptions] at hungated
    exact absurd (hungated.symm.trans hgated) Bool.false_ne_true
  · exact hdown

/-- **One step.** -/
theorem Guarded.step (h : Guarded calls space s) (hnot : ¬ SlipsThrough calls space i c s) :
    Guarded calls space (s.after (exec planner) i c) := by
  refine ⟨h.knows.step i c, fun l e rest htrace hasks hlets => ?_⟩
  rw [Scene.after_trace] at htrace
  cases l with
  | nil =>
      obtain ⟨rfl, rfl⟩ := List.cons_eq_cons.mp htrace
      by_contra hopened
      exact hnot ⟨hasks, .inl ⟨findsNoGate_of_letsThrough hlets, hopened⟩⟩
  | cons e' l =>
      obtain ⟨-, htail⟩ := List.cons_eq_cons.mp htrace
      exact h.looks l e rest htail hasks hlets

/-- A call that has been let through and has not been overtaken: the space is
still open after its next command, if that is one of those that follow. -/
theorem Guarded.opened (h : Guarded calls space (s.after (exec planner) i c))
    (hasks : AsksToken calls space i) (hfollows : c.FollowsUp)
    (hdown : SeenGateDown ((s.after (exec planner) i c).told i) space.id)
    (hnot : ¬ SlipsThrough calls space i c s) :
    Opened calls space.id (s.after (exec planner) i c).trace := by
  obtain ⟨e, he, hlets⟩ := hdown
  obtain ⟨l, rest, htrace⟩ := List.append_of_mem (Scene.mem_told.mp he)
  have hopened := h.looks l _ rest htrace hasks hlets
  rw [htrace, List.append_cons]
  refine hopened.append fun e' he' hstarts => ?_
  rcases List.mem_append.mp he' with he' | he'
  swap
  · cases List.mem_singleton.mp he'
    exact hlets.not_startsSession hstarts
  rw [Scene.after_trace] at htrace
  cases l with
  | nil => cases he'
  | cons e'' l =>
      obtain ⟨rfl, htail⟩ := List.cons_eq_cons.mp htrace
      rcases List.mem_cons.mp he' with rfl | he'
      · exact hstarts.not_followsUp hfollows
      · exact hnot ⟨hasks, .inr ⟨l, _, rest, htail, rfl, hlets, e', he', hstarts⟩⟩

end Step

/-- **The gate.** A space whose host has to open it issues tokens to others only
after the host has, in every run in which no call for a token misses the gate of
a session that was not opened, or is overtaken by the start of another. -/
theorem gateKept_of_not_slipsThrough (calls : ι → RoomCall) {w : World} {space : RoomRow}
    (hfind : w.rooms.find space.id = some space) (hspace : space.roomType = .space)
    (hgated : isHostGated space = true) {sched : List ι}
    (hmeets : (begun calls w).Meets (exec planner)
      (fun i c s => ¬ SlipsThrough calls space i c s) sched) :
    GateKept planner calls space w sched := by
  rintro before i after rfl hasks ⟨c, k, outcome, hcall, hdone, htoken⟩
  obtain ⟨hbefore, hnext⟩ := (Conf.meets_append (exec planner)).mp hmeets
  have hstart : Guarded calls space (begun calls w).scene := by
    refine ⟨knows_begun calls hfind hspace, ?_⟩
    intro l e rest htrace
    cases l <;> cases htrace
  have hlicensed := (begun_licensed planner calls w).runs before
  have hguarded := (begun_licensed planner calls w).runs_inv
    (fun s i c h _ hnot => h.step hnot) hstart hbefore
  have hnot := (Conf.nextMeets_of_call hcall).mp hnext.1
  have hreports := (hlicensed.step i).result hdone
  rw [Conf.runs_append, Conf.runs_cons, Conf.runs_nil]
  rw [Conf.step_of_call (exec planner) hcall] at hreports ⊢
  obtain ⟨userId, hhost, hbearer⟩ := hasks
  obtain ⟨hmay, hlast⟩ := RoomCall.grants_of_hasToken hbearer hreports htoken
  have hafter : Guarded calls space (((begun calls w).runs (exec planner) before).scene.after
      (exec planner) i _) := hguarded.step hnot
  refine hafter.opened ⟨userId, hhost, hbearer⟩ ?_ ?_ hnot
  · rw [Scene.told_after_self] at hlast
    exact hlast _ rfl
  · exact seenGateDown_of_mayEnter hafter.knows hgated hmay hhost

namespace Sample

def quizHost : UserId := ⟨"quiz-host", by decide⟩
def quizGuest : UserId := ⟨"quiz-guest", by decide⟩

/-- A space that its host has to start and to open. -/
def quiz : RoomRow where
  id := ⟨"quiz", by decide⟩
  hostUserId := quizHost
  title := "Quiz"
  visibility := .public_
  maxParticipants := 8
  scheduledStartAt := some 0
  status := .scheduled
  advancedOptions := { shouldHostStartMeeting := some true, shouldMeetingAutoStart := some false }
  roomType := .space
  sessionKind := .space

/-- The guest waits in the lobby. -/
def quizLobby : World where
  rooms := { rows := [quiz], unique := List.nodup_singleton _ }
  participants := { rows := [⟨quiz.id, quizGuest, .participant, none⟩], unique := by decide }
  clock := minutes 1

inductive QuizCall
  | start
  | opening
  | waiting
  | entering
  deriving DecidableEq

/-- The guest asks for a token twice; the second time the key of its active room
is set before the rest is done. -/
def quizNight : QuizCall → RoomCall
  | .start => .start quizHost quiz.id
  | .opening => .openMeeting quizHost quiz.id
  | .waiting => .token quizGuest quiz.id
  | .entering => .token quizGuest quiz.id [2, 1, 0]

def starts : Event QuizCall Cmd Cmd.Reply → Bool
  | ⟨_, .updateRoom _ _ (.live ..), row⟩ => row.isSome
  | _ => false

def opens : Event QuizCall Cmd Cmd.Reply → Bool
  | ⟨.opening, .hsetSessionRoom roomId _, _⟩ => roomId = quiz.id
  | _ => false

def letsThrough : Event QuizCall Cmd Cmd.Reply → Bool
  | ⟨_, .existsSessionRoom _, exists_⟩ => !exists_
  | ⟨_, .hgetLobbyGateActive _, gate⟩ => gate ≠ some true
  | _ => false

def opened : List (Event QuizCall Cmd Cmd.Reply) → Bool
  | [] => false
  | e :: rest => opens e || (!starts e && opened rest)

def overtaken : List (Event QuizCall Cmd Cmd.Reply) → Bool
  | [] => false
  | e :: rest => overtaken rest || (starts e && rest.any letsThrough)

theorem opensGate_of_opens {e : Event QuizCall Cmd Cmd.Reply} (h : opens e = true) :
    OpensGate quizNight quiz.id e := by
  unfold opens at h
  split at h
  · exact ⟨quizHost, _, rfl, by rw [of_decide_eq_true h]⟩
  · cases h

theorem opened_sound {trace : List (Event QuizCall Cmd Cmd.Reply)} (h : opened trace = true) :
    Opened quizNight quiz.id trace := by
  induction trace with
  | nil => cases h
  | cons e rest ih =>
      rw [opened, Bool.or_eq_true, Bool.and_eq_true, Bool.not_eq_true'] at h
      rcases h with hopens | ⟨hstarts, hrest⟩
      · exact ⟨[], e, rest, rfl, opensGate_of_opens hopens, by simp⟩
      · refine Opened.append (l := [e]) (ih hrest) ?_
        rintro e' he' ⟨⟩
        cases List.mem_singleton.mp he'
        cases hstarts

theorem overtaken_of_mem {l rest : List (Event QuizCall Cmd Cmd.Reply)}
    {e e' : Event QuizCall Cmd Cmd.Reply}
    (he' : e' ∈ l) (hstarts : starts e' = true) (hlets : letsThrough e = true) :
    overtaken (l ++ e :: rest) = true := by
  induction l with
  | nil => cases he'
  | cons e'' l ih =>
      rw [List.cons_append, overtaken, Bool.or_eq_true, Bool.and_eq_true]
      rcases List.mem_cons.mp he' with rfl | he'
      · exact .inr ⟨hstarts, List.any_eq_true.mpr ⟨e, by simp, hlets⟩⟩
      · exact .inl (ih he')

def findsGate (w : World) : Cmd → Bool
  | .existsSessionRoom _ => (w.sessionRooms quiz.id).isSome
  | .hgetLobbyGateActive _ => (w.sessionRooms quiz.id).bind (·.lobbyGateActive) = some true
  | _ => true

/-- The gate is found, or the host has opened it, and no session starts after that. -/
def gateHolds (s : Scene QuizCall Cmd Cmd.Reply World) (c : Cmd) : Bool :=
  !overtaken s.trace && (opened s.trace || findsGate s.world c)

theorem not_slipsThrough_of_gateHolds {i : QuizCall} {c : Cmd}
    {s : Scene QuizCall Cmd Cmd.Reply World} (h : gateHolds s c = true) :
    ¬ SlipsThrough quizNight quiz i c s := by
  rw [gateHolds, Bool.and_eq_true, Bool.or_eq_true, Bool.not_eq_true'] at h
  rintro ⟨-, ⟨hgate, hnot⟩ | ⟨l, e, rest, htrace, -, hlets, e', he', hstarts⟩⟩
  · have hup := h.2.resolve_left fun hopened => hnot (opened_sound hopened)
    rcases hgate with ⟨rfl, hnone⟩ | ⟨rfl, hdown⟩
    · rw [findsGate, hnone] at hup
      cases hup
    · exact hdown (of_decide_eq_true hup)
  · have hovertaken : overtaken s.trace = true := by
      rw [htrace]
      refine overtaken_of_mem he' ?_ ?_
      · cases hstarts
        rfl
      · obtain ⟨tid, cmd, reply⟩ := e
        cases hlets with
        | noHash => rfl
        | noGate gate hgate => exact decide_eq_true hgate
    rw [hovertaken] at h
    cases h.1

/-- The guest asks when the host has started the space, and has to wait; when
the host has opened it, the guest gets a token. -/
def gameNight : List QuizCall :=
  List.replicate 12 .start ++ List.replicate 20 .waiting ++ List.replicate 20 .opening ++
    List.replicate 20 .entering

theorem gateKept_quizNight : GateKept .inOrder quizNight quiz quizLobby gameNight := by
  apply gateKept_of_not_slipsThrough .inOrder quizNight rfl rfl (by decide)
  have hholds : (begun quizNight quizLobby).Meets (exec .inOrder)
      (fun _ c s => gateHolds s c = true) gameNight := by decide +kernel
  exact hholds.mono _ fun _ _ _ h => not_slipsThrough_of_gateHolds h

/-- The host has made the row `live` and not yet written the hash, and the guest
is about to get a token. -/
def unguarded : List QuizCall := List.replicate 9 .start ++ List.replicate 17 .waiting

theorem not_gateKept_quizNight : ¬ GateKept .inOrder quizNight quiz quizLobby
    (unguarded ++ [.waiting]) := by
  intro h
  have hissues : IssuesToken .inOrder ((begun quizNight quizLobby).runs (exec .inOrder) unguarded)
      .waiting := ⟨_, _, _, rfl, rfl, rfl⟩
  obtain ⟨l, e, rest, htrace, ⟨userId, session, hcall, -⟩, -⟩ :=
    h unguarded .waiting [] rfl ⟨quizGuest, by decide, rfl⟩ hissues
  have hnone : ((begun quizNight quizLobby).runs (exec .inOrder)
      (unguarded ++ [.waiting])).scene.trace.all (·.tid ≠ .opening) = true := by decide +kernel
  have htid := List.all_eq_true.mp hnone e (htrace ▸ List.mem_append_right l List.mem_cons_self)
  cases heq : e.tid with
  | opening =>
      rw [heq] at htid
      cases htid
  | _ =>
      rw [heq] at hcall
      cases hcall

end Sample

end Greetup.Rooms
