import Greetup.Sources.Pool
import Greetup.Data.Recording

/-!
What becomes of the audio that a connection sends: window after window of it is
scored, in the order in which it was sent, and only what did not fill another
window is not.
-/

namespace Greetup.Sources.Pool

variable {κ ν : Type} [DecidableEq κ] [Durations ν] {setup : Setup ν} {a : Adapter κ ν}

/-! ### The statement -/

def entryOf (chunks : List (AudioChunk ν)) : BufferEntry ν :=
  chunks.foldl BufferEntry.add .empty

/-- There is enough for a window. -/
def enough (windowSeconds : ν) (chunks : List (AudioChunk ν)) : Bool :=
  Durations.ge (entryOf chunks).durationSec windowSeconds

/-- The window that the chunks make, under the last of them. -/
def windowOf (chunks : List (AudioChunk ν)) : Option (TranscriptWindow ν) :=
  chunks.getLast?.map fun last => flush last.participantId last.sessionId (entryOf chunks) last

def Effect.window? : Effect κ ν → Option (TranscriptWindow ν)
  | .enqueue window => some window
  | _ => none

/-- The audio that the adapter takes from a connection. -/
def heardIn (setup : Setup ν) (ws : κ) (a : Adapter κ ν) : Event κ ν → Option (AudioChunk ν)
  | .message ws' (some (.audio data format sampleRate)) =>
      if ws' = ws ∧ a.listens ws then
        (a.participants ws).map fun pm => Adapter.chunkOf setup pm.id data format sampleRate
      else none
  | _ => none

/-- What is heard of a connection, and the windows that are scored on it. -/
def listen (setup : Setup ν) (ws : κ) :
    Adapter κ ν → List (Event κ ν) → List (AudioChunk ν) × List (TranscriptWindow ν)
  | _, [] => ([], [])
  | a, e :: es =>
      let later := listen setup ws (a.step setup e).1 es
      match heardIn setup ws a e with
      | some chunk => (chunk :: later.1, (a.step setup e).2.filterMap Effect.window? ++ later.2)
      | none => later

def Event.drawn? : Event κ ν → Option (κ × String)
  | .connection ws _ _ drawn => some (ws, drawn)
  | _ => none

/-- A socket connects once, and no two connections draw the same id. -/
structure Fresh (es : List (Event κ ν)) : Prop where
  sockets : ((es.filterMap Event.drawn?).map Prod.fst).Nodup
  ids : ((es.filterMap Event.drawn?).map Prod.snd).Nodup

/-- What the pool holds of the chunks. -/
def stored (chunks : List (AudioChunk ν)) : Option (BufferEntry ν) :=
  if chunks.isEmpty then none else some (entryOf chunks)

/-! ### Chunks -/

theorem bufferKey_inj {p p' sessionId : String} :
    bufferKey p sessionId = bufferKey p' sessionId ↔ p = p' :=
  String.append_right_inj _

theorem entryOf_concat (chunks : List (AudioChunk ν)) (chunk : AudioChunk ν) :
    entryOf (chunks ++ [chunk]) = (entryOf chunks).add chunk := by
  rw [entryOf, List.foldl_append]
  rfl

theorem getD_stored (chunks : List (AudioChunk ν)) :
    (stored chunks).getD .empty = entryOf chunks := by
  cases chunks <;> rfl

theorem stored_concat (chunks : List (AudioChunk ν)) (chunk : AudioChunk ν) :
    stored (chunks ++ [chunk]) = some (entryOf (chunks ++ [chunk])) := by
  rw [stored, if_neg (by simp)]

theorem windowOf_concat (chunks : List (AudioChunk ν)) (chunk : AudioChunk ν) :
    windowOf (chunks ++ [chunk]) = some (flush chunk.participantId chunk.sessionId
      (entryOf (chunks ++ [chunk])) chunk) := by
  rw [windowOf, List.getLast?_concat]
  rfl

section Push

variable {windowSeconds : ν} {pool : AudioBufferPool ν} {chunk : AudioChunk ν}
  {rest : List (AudioChunk ν)}
  (hpool : pool (bufferKey chunk.participantId chunk.sessionId) = stored rest)

include hpool

/-- A chunk that fills a window. -/
theorem push_of_enough (h : enough windowSeconds (rest ++ [chunk]) = true) :
    push windowSeconds pool chunk =
      (Function.update pool (bufferKey chunk.participantId chunk.sessionId) (stored []),
        windowOf (rest ++ [chunk])) := by
  rw [push, hpool, getD_stored, ← entryOf_concat, windowOf_concat]
  exact if_pos h

theorem push_of_not_enough (h : enough windowSeconds (rest ++ [chunk]) = false) :
    push windowSeconds pool chunk =
      (Function.update pool (bufferKey chunk.participantId chunk.sessionId)
        (stored (rest ++ [chunk])), none) := by
  rw [push, hpool, getD_stored, ← entryOf_concat, stored_concat]
  refine if_neg fun hyes => ?_
  rw [enough] at h
  rw [h] at hyes
  cases hyes

end Push

/-- Only the buffer of the chunk's participant is touched. -/
theorem push_of_ne {windowSeconds : ν} {pool : AudioBufferPool ν} {chunk : AudioChunk ν}
    {k : String} (hk : k ≠ bufferKey chunk.participantId chunk.sessionId) :
    (push windowSeconds pool chunk).1 k = pool k := by
  rw [push]
  split <;> exact Function.update_of_ne hk _ _

/-! ### What an event changes -/

omit [Durations ν] in
theorem of_update {β : Type} {f : κ → Option β} {w w' : κ} {v : Option β} {b : β}
    (h : Function.update f w' v w = some b) : w = w' ∧ v = some b ∨ f w = some b := by
  rw [Function.update_apply] at h
  split at h
  · rename_i heq
    exact .inl ⟨heq, h⟩
  · exact .inr h

theorem participants_handleMessage {ws w : κ} {msg : Option (WsMessage ν)} {pm : ParticipantMeta}
    (h : (a.handleMessage setup ws msg).1.participants w = some pm) :
    ∃ pm', a.participants w = some pm' ∧ pm'.id = pm.id := by
  cases msg with
  | none => exact ⟨pm, h, rfl⟩
  | some msg =>
      rw [Adapter.handleMessage] at h
      split at h
      · exact ⟨pm, h, rfl⟩
      · rename_i pm' hws
        cases msg with
        | identify name email =>
            rcases of_update h with ⟨rfl, hnew⟩ | hold
            · cases hnew
              exact ⟨pm', hws, rfl⟩
            · exact ⟨pm, hold, rfl⟩
        | audio | transcript | ended => exact ⟨pm, h, rfl⟩

omit [Durations ν] in
theorem participants_onClose {ws w : κ} {pm : ParticipantMeta}
    (h : (a.onClose setup ws).participants w = some pm) : a.participants w = some pm := by
  rw [Adapter.onClose] at h
  split at h
  · rcases of_update h with ⟨-, hnew⟩ | hold
    · cases hnew
    · exact hold
  · exact h

/-- A participant was there, or its connection is accepted now. -/
theorem participants_step {e : Event κ ν} {w : κ} {pm : ParticipantMeta}
    (h : (a.step setup e).1.participants w = some pm) :
    (∃ pm', a.participants w = some pm' ∧ pm'.id = pm.id) ∨ e.drawn? = some (w, pm.id) := by
  cases e with
  | connection ws path source drawn =>
      rw [Adapter.step, Adapter.handleConnection] at h
      split at h
      · rcases of_update h with ⟨rfl, hnew⟩ | hold
        · cases hnew
          exact .inr rfl
        · exact .inl ⟨pm, hold, rfl⟩
      · exact .inl ⟨pm, h, rfl⟩
  | message ws msg =>
      rw [Adapter.step] at h
      split at h
      · exact .inl (participants_handleMessage h)
      · exact .inl ⟨pm, h, rfl⟩
  | close ws =>
      rw [Adapter.step] at h
      split at h
      · exact .inl ⟨pm, participants_onClose h, rfl⟩
      · exact .inl ⟨pm, h, rfl⟩
  | error ws =>
      rw [Adapter.step] at h
      split at h
      · rcases of_update h with ⟨-, hnew⟩ | hold
        · cases hnew
        · exact .inl ⟨pm, hold, rfl⟩
      · exact .inl ⟨pm, h, rfl⟩
  | disconnect => cases h

/-- The buffer of a connection changes when audio of it is heard, and when it is
closed. -/
theorem pool_step (setup : Setup ν) (a : Adapter κ ν) (e : Event κ ν) (k : String) :
    (a.step setup e).1.pool k = a.pool k ∨
      ∃ w pm, a.participants w = some pm ∧ k = bufferKey pm.id setup.sessionId ∧
        ((heardIn setup w a e).isSome ∨ (a.step setup e).1.participants w = none) := by
  cases e with
  | connection ws path source drawn =>
      rw [Adapter.step, Adapter.handleConnection]
      split <;> exact .inl rfl
  | message ws msg =>
      rw [Adapter.step]
      cases hlistens : a.listens ws with
      | false => exact .inl rfl
      | true =>
          rcases msg with _ | msg
          · exact .inl rfl
          rw [if_pos rfl, Adapter.handleMessage]
          cases hws : a.participants ws with
          | none => exact .inl rfl
          | some pm =>
              cases msg with
              | identify | transcript | ended => exact .inl rfl
              | audio data format sampleRate =>
                  rcases eq_or_ne k (bufferKey pm.id setup.sessionId) with rfl | hne
                  · refine .inr ⟨ws, pm, hws, rfl, .inl ?_⟩
                    rw [heardIn, if_pos ⟨rfl, hlistens⟩, hws]
                    rfl
                  · exact .inl (push_of_ne hne)
  | close ws =>
      rw [Adapter.step]
      split
      · cases hws : a.participants ws with
        | none =>
            refine .inl ?_
            rw [Adapter.onClose, hws]
        | some pm =>
            rw [Adapter.onClose, hws]
            rcases eq_or_ne k (bufferKey pm.id setup.sessionId) with rfl | hne
            · exact .inr ⟨ws, pm, hws, rfl, .inr (Function.update_self ..)⟩
            · exact .inl (Function.update_of_ne hne _ _)
      · exact .inl rfl
  | error ws =>
      rw [Adapter.step]
      split <;> exact .inl rfl
  | disconnect => exact .inl rfl

/-! ### Connections -/

/-- Connections have ids of their own, and those that are still to come are new. -/
structure Sound (setup : Setup ν) (a : Adapter κ ν) (es : List (Event κ ν)) : Prop where
  ids : ∀ w w' pm pm', a.participants w = some pm → a.participants w' = some pm' →
    pm.id = pm'.id → w = w'
  coming : ∀ x ∈ es.filterMap Event.drawn?, a.participants x.1 = none ∧
    a.pool (bufferKey x.2 setup.sessionId) = none ∧
      ∀ w pm, a.participants w = some pm → pm.id ≠ x.2

omit [DecidableEq κ] [Durations ν] in
theorem sound_new (es : List (Event κ ν)) : Sound setup (.new : Adapter κ ν) es where
  ids _ _ _ _ h := by cases h
  coming _ _ := ⟨rfl, rfl, fun _ _ h => by cases h⟩

variable {e : Event κ ν} {es : List (Event κ ν)}

omit [DecidableEq κ] [Durations ν] in
theorem Fresh.tail (h : Fresh (e :: es)) : Fresh es := by
  refine ⟨h.sockets.sublist (List.Sublist.map _ ?_), h.ids.sublist (List.Sublist.map _ ?_)⟩ <;>
    exact (List.sublist_cons_self e es).filterMap _

omit [DecidableEq κ] [Durations ν] in
/-- What is drawn now is not drawn later. -/
theorem Fresh.ne {x y : κ × String} (h : Fresh (e :: es)) (hx : e.drawn? = some x)
    (hy : y ∈ es.filterMap Event.drawn?) : x.1 ≠ y.1 ∧ x.2 ≠ y.2 := by
  obtain ⟨hsockets, hids⟩ := h
  rw [List.filterMap_cons_some hx, List.map_cons, List.nodup_cons] at hsockets hids
  exact ⟨fun heq => hsockets.1 (heq ▸ List.mem_map_of_mem hy),
    fun heq => hids.1 (heq ▸ List.mem_map_of_mem hy)⟩

omit [DecidableEq κ] [Durations ν] in
theorem mem_drawn_cons {x : κ × String} (hx : x ∈ es.filterMap Event.drawn?) :
    x ∈ (e :: es).filterMap Event.drawn? :=
  ((List.sublist_cons_self e es).filterMap _).subset hx

omit [DecidableEq κ] [Durations ν] in
theorem mem_drawn_of_eq {x : κ × String} (hx : e.drawn? = some x) :
    x ∈ (e :: es).filterMap Event.drawn? := by
  rw [List.filterMap_cons_some hx]
  exact List.mem_cons_self

theorem Sound.step (h : Sound setup a (e :: es)) (hfresh : Fresh (e :: es)) :
    Sound setup (a.step setup e).1 es := by
  refine ⟨fun w w' pm pm' hw hw' hid => ?_, fun x hx => ?_⟩
  · rcases participants_step hw with ⟨pm₀, hw, hpm⟩ | hdrawn
    · rcases participants_step hw' with ⟨pm₀', hw', hpm'⟩ | hdrawn'
      · exact h.ids w w' pm₀ pm₀' hw hw' (hpm.trans (hid.trans hpm'.symm))
      · exact absurd (hpm.trans hid) ((h.coming _ (mem_drawn_of_eq hdrawn')).2.2 w pm₀ hw)
    · rcases participants_step hw' with ⟨pm₀', hw', hpm'⟩ | hdrawn'
      · exact absurd (hpm'.trans hid.symm) ((h.coming _ (mem_drawn_of_eq hdrawn)).2.2 w' pm₀' hw')
      · rw [hdrawn] at hdrawn'
        exact (Prod.mk.inj (Option.some.inj hdrawn')).1
  · obtain ⟨hsocket, hpool, hids⟩ := h.coming x (mem_drawn_cons hx)
    refine ⟨?_, ?_, fun w pm hw => ?_⟩
    · cases hnow : (a.step setup e).1.participants x.1 with
      | none => rfl
      | some pm =>
          rcases participants_step hnow with ⟨pm₀, hold, -⟩ | hdrawn
          · rw [hsocket] at hold
            cases hold
          · exact absurd rfl (hfresh.ne hdrawn hx).1
    · rcases pool_step setup a e (bufferKey x.2 setup.sessionId) with
        heq | ⟨w, pm, hw, hkey, -⟩
      · rw [heq, hpool]
      · exact absurd (bufferKey_inj.mp hkey).symm (hids w pm hw)
    · rcases participants_step hw with ⟨pm₀, hold, hpm⟩ | hdrawn
      · rw [← hpm]
        exact hids w pm₀ hold
      · exact (hfresh.ne hdrawn hx).2

/-- What was heard of a connection since its last window is in the pool, as long
as the connection is open. -/
def Holds (setup : Setup ν) (a : Adapter κ ν) (ws : κ) (rest : List (AudioChunk ν)) : Prop :=
  ∀ pm, a.participants ws = some pm → a.pool (bufferKey pm.id setup.sessionId) = stored rest

/-- Audio is heard of a connection that is open. -/
theorem heardIn_eq_some {ws : κ} {chunk : AudioChunk ν} (h : heardIn setup ws a e = some chunk) :
    ∃ pm, a.participants ws = some pm ∧ chunk.participantId = pm.id ∧
      chunk.sessionId = setup.sessionId ∧
        a.step setup e = ({ a with pool := (push setup.windowSeconds a.pool chunk).1 },
          (push setup.windowSeconds a.pool chunk).2.toList.map .enqueue) := by
  cases e with
  | message ws' msg =>
      rcases msg with _ | msg
      · cases h
      cases msg with
      | audio data format sampleRate =>
          rw [heardIn] at h
          split at h
          · rename_i hboth
            obtain ⟨rfl, hlistens⟩ := hboth
            obtain ⟨pm, hpm, rfl⟩ := Option.map_eq_some_iff.mp h
            refine ⟨pm, hpm, rfl, rfl, ?_⟩
            rw [Adapter.step, if_pos hlistens, Adapter.handleMessage, hpm]
          · cases h
      | identify | transcript | ended => cases h
  | connection | close | error | disconnect => cases h

omit [DecidableEq κ] [Durations ν] in
theorem filterMap_window_enqueue (window : Option (TranscriptWindow ν)) :
    (window.toList.map (Effect.enqueue (κ := κ))).filterMap Effect.window? = window.toList := by
  cases window <;> rfl

/-- What is heard of another connection, or nothing, leaves the rest in place. -/
theorem Holds.step {ws : κ} {rest : List (AudioChunk ν)} (h : Holds setup a ws rest)
    (hs : Sound setup a (e :: es)) (hnone : heardIn setup ws a e = none)
    (hnew : ∀ x ∈ (e :: es).filterMap Event.drawn?, x.1 = ws → rest = []) :
    Holds setup (a.step setup e).1 ws rest := by
  intro pm hpm
  have hpool := pool_step setup a e (bufferKey pm.id setup.sessionId)
  rcases participants_step hpm with ⟨pm₀, hold, hid⟩ | hdrawn
  · rw [← hid] at hpool ⊢
    rcases hpool with heq | ⟨w, pm', hw, hkey, hacts⟩
    · rw [heq, h pm₀ hold]
    · -- the buffer is that of the connection itself
      obtain rfl := hs.ids w ws pm' pm₀ hw hold (bufferKey_inj.mp hkey).symm
      rcases hacts with hsome | hgone
      · rw [hnone] at hsome
        cases hsome
      · rw [hgone] at hpm
        cases hpm
  · obtain ⟨-, hempty, hids⟩ := hs.coming _ (mem_drawn_of_eq hdrawn)
    rcases hpool with heq | ⟨w, pm', hw, hkey, -⟩
    · rw [heq, hempty, hnew _ (mem_drawn_of_eq hdrawn) rfl]
      rfl
    · exact absurd (bufferKey_inj.mp hkey).symm (hids w pm' hw)

/-! ### Whole runs -/

def Adapter.after (setup : Setup ν) (a : Adapter κ ν) (es : List (Event κ ν)) : Adapter κ ν :=
  es.foldl (fun a e => (a.step setup e).1) a

/-- What is heard goes into the pool, and makes a window if there is enough. -/
theorem step_of_heard {ws : κ} {chunk : AudioChunk ν} {rest : List (AudioChunk ν)}
    (hheard : heardIn setup ws a e = some chunk) (hholds : Holds setup a ws rest) :
    ∃ a' kept window, a.step setup e = (a', window.toList.map .enqueue) ∧
      Holds setup a' ws kept ∧
      ((enough setup.windowSeconds (rest ++ [chunk]) = true ∧ kept = [] ∧
          window = windowOf (rest ++ [chunk])) ∨
        enough setup.windowSeconds (rest ++ [chunk]) = false ∧ kept = rest ++ [chunk] ∧
          window = none) := by
  obtain ⟨pm, hpm, hid, hsession, hstep⟩ := heardIn_eq_some hheard
  have hpool := hholds pm hpm
  have hkeeps (kept : List (AudioChunk ν)) : Holds setup { a with
      pool := Function.update a.pool (bufferKey pm.id setup.sessionId) (stored kept) } ws kept := by
    intro pm' hpm'
    rw [hpm] at hpm'
    cases hpm'
    exact Function.update_self ..
  rw [← hid, ← hsession] at hpool hkeeps
  cases henough : enough setup.windowSeconds (rest ++ [chunk]) with
  | true =>
      rw [push_of_enough hpool henough] at hstep
      exact ⟨_, [], _, hstep, hkeeps [], .inl ⟨rfl, rfl, rfl⟩⟩
  | false =>
      rw [push_of_not_enough hpool henough] at hstep
      exact ⟨_, _, none, hstep, hkeeps _, .inr ⟨rfl, rfl, rfl⟩⟩

theorem listen_of_none {ws : κ} (h : heardIn setup ws a e = none) :
    listen setup ws a (e :: es) = listen setup ws (a.step setup e).1 es := by
  rw [listen, h]

theorem listen_of_heard {ws : κ} {chunk : AudioChunk ν} {a' : Adapter κ ν}
    {window : Option (TranscriptWindow ν)} (h : heardIn setup ws a e = some chunk)
    (hstep : a.step setup e = (a', window.toList.map .enqueue)) :
    listen setup ws a (e :: es) =
      (chunk :: (listen setup ws a' es).1, window.toList ++ (listen setup ws a' es).2) := by
  rw [listen, h, hstep, filterMap_window_enqueue]

theorem recorded_of_listen {ws : κ} {rest : List (AudioChunk ν)} (hs : Sound setup a es)
    (hfresh : Fresh es) (hwanting : Wanting (enough setup.windowSeconds) rest)
    (hholds : Holds setup a ws rest)
    (hnew : ∀ x ∈ es.filterMap Event.drawn?, x.1 = ws → rest = []) :
    ∃ groups rest', Recorded (enough setup.windowSeconds) (rest ++ (listen setup ws a es).1)
        groups rest' ∧ (listen setup ws a es).2 = groups.filterMap windowOf ∧
      Holds setup (a.after setup es) ws rest' := by
  induction es generalizing a rest with
  | nil =>
      refine ⟨[], rest, ?_, rfl, hholds⟩
      rw [listen, List.append_nil]
      exact hwanting.recorded
  | cons e es ih =>
      have hlater := hs.step hfresh
      cases hheard : heardIn setup ws a e with
      | none =>
          rw [listen_of_none hheard]
          exact ih hlater hfresh.tail hwanting (hholds.step hs hheard hnew)
            fun x hx => hnew x (mem_drawn_cons hx)
      | some chunk =>
          -- who is heard has connected, and does not connect again
          have hconnected (kept : List (AudioChunk ν)) :
              ∀ x ∈ es.filterMap Event.drawn?, x.1 = ws → kept = [] := by
            rintro x hx rfl
            obtain ⟨pm, hpm, -⟩ := heardIn_eq_some hheard
            rw [(hs.coming x (mem_drawn_cons hx)).1] at hpm
            cases hpm
          obtain ⟨a', kept, window, hstep, hholds', hkept⟩ := step_of_heard hheard hholds
          rw [listen_of_heard hheard hstep, Adapter.after, List.foldl_cons, hstep]
          rw [hstep] at hlater
          rcases hkept with ⟨henough, rfl, rfl⟩ | ⟨hnot, rfl, rfl⟩
          · obtain ⟨groups, rest', hrecorded, hwindows, hafter⟩ :=
              ih hlater hfresh.tail wanting_nil hholds' (hconnected _)
            refine ⟨(rest ++ [chunk]) :: groups, rest', ?_, ?_, hafter⟩
            · have hmore := hrecorded.after (hwanting.filled henough)
              rwa [List.nil_append, List.append_assoc] at hmore
            · rw [windowOf_concat, List.filterMap_cons_some (windowOf_concat _ _), hwindows]
              rfl
          · obtain ⟨groups, rest', hrecorded, hwindows, hafter⟩ :=
              ih hlater hfresh.tail (hwanting.concat hnot) hholds' (hconnected _)
            refine ⟨groups, rest', ?_, hwindows, hafter⟩
            rwa [List.append_assoc] at hrecorded

/-- Whatever the clients of a session send, however they come and go: the audio
of each of them is cut into windows that are just long enough, in the order in
which it was sent, and every window is scored once. What is left is less than a
window, and is kept for the client as long as it is connected. -/
theorem windows_of_connection (setup : Setup ν) (es : List (Event κ ν)) (hfresh : Fresh es)
    (ws : κ) :
    ∃ groups rest, Recorded (enough setup.windowSeconds) (listen setup ws .new es).1 groups rest ∧
      (listen setup ws .new es).2 = groups.filterMap windowOf ∧
        Holds setup (Adapter.new.after setup es) ws rest := by
  have hwanting : Wanting (enough setup.windowSeconds) ([] : List (AudioChunk ν)) := wanting_nil
  refine recorded_of_listen (sound_new es) hfresh hwanting (fun _ h => ?_) fun _ _ _ => rfl
  cases h

namespace Sample

/-- Half a minute of opus takes 90000 bytes. -/
def interviewRoom : Setup ℚ where
  sessionId := "panel"
  sourceType := "browser-sdk"
  windowSeconds := 30
  fromBase64 data := List.replicate (45000 * data.length) 0

/-- Two clients; the first sends three chunks, and the second one. -/
def twoClients : List (Event ℕ ℚ) :=
  [.connection 0 "panel" none "ws_1_a", .message 0 (some (.audio "A" .opus none)),
    .connection 1 "panel" (some "browser-sdk") "ws_1_b",
    .message 1 (some (.audio "A" .opus none)), .message 0 (some (.audio "A" .opus none)),
    .message 0 (some (.audio "A" .opus none)), .close 0]

theorem windows_of_client : ∃ groups rest,
    Recorded (enough interviewRoom.windowSeconds) (listen interviewRoom 0 .new twoClients).1
        groups rest ∧
      (listen interviewRoom 0 .new twoClients).2 = groups.filterMap windowOf ∧
        Holds interviewRoom (Adapter.new.after interviewRoom twoClients) 0 rest :=
  windows_of_connection interviewRoom twoClients ⟨by decide, by decide⟩ 0

end Sample

end Greetup.Sources.Pool
