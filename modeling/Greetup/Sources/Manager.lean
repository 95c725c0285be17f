import Greetup.Interleaving.Parallel
import Mathlib.Data.Finset.Basic
import Mathlib.Data.List.AList

/-!
The registry of audio sources of the scoring service: of every session the
adapter that receives its audio.

What happens between two awaits is one step. An adapter is connected from the
step in which it begins to receive until the step in which it stops: for a tap
of a room both lie behind network calls, for the other sources connecting and
disconnecting do not wait for anything.
-/

namespace Greetup.Sources

open Interleaving (Prog)

inductive AudioSourceType
  | mediasoup
  | meetingBot
  | browserSdk
  | directUpload
  deriving DecidableEq

structure Adapter (σ : Type) where
  id : ℕ
  sessionId : σ
  sourceType : AudioSourceType
  deriving DecidableEq

/-- It receives over a socket of its own, from a tap. -/
def Adapter.taps {σ : Type} (adapter : Adapter σ) : Bool := adapter.sourceType = .mediasoup

structure SourceWorld (σ : Type) where
  adapters : AList fun _ : σ => Adapter σ
  /-- Connected, and not yet disconnected. -/
  connected : Finset (Adapter σ)
  /-- How many adapters have been made. -/
  created : ℕ
  /-- The WebSocket server has been injected. -/
  wss : Bool
  /-- Whether the socket of an adapter can be bound. -/
  binds : ℕ → Bool
  /-- Whether the tap of an adapter is opened. -/
  opensTap : ℕ → Bool

inductive SourceCmd (σ : Type)
  /-- `adapters.get`, and what `disconnect` does before it waits -/
  | leave (sessionId : σ)
  /-- The same for all sessions that have an adapter. -/
  | leaveAll
  | releaseTap (adapter : Adapter σ)
  | closeSocket (adapter : Adapter σ)
  | delete (sessionId : σ)
  /-- The constructor, and what `connect` does before it waits. -/
  | newAdapter (sessionId : σ) (sourceType : AudioSourceType)
  | bindSocket (adapter : Adapter σ)
  | requestTap (adapter : Adapter σ)
  | set (adapter : Adapter σ)
  deriving DecidableEq

@[reducible] def SourceCmd.Reply {σ : Type} : SourceCmd σ → Type
  | .leave _ | .newAdapter _ _ => Option (Adapter σ)
  | .leaveAll => List (Adapter σ)
  | .bindSocket _ | .requestTap _ => Bool
  | _ => Unit

section Exec

variable {σ : Type} [DecidableEq σ]

namespace SourceWorld

variable (w : SourceWorld σ)

/-- The adapters disconnect, if they need not wait for that. -/
def letGo (leaving : List (Adapter σ)) : SourceWorld σ :=
  { w with connected := w.connected.filter fun adapter => adapter.taps ∨ adapter ∉ leaving }

def connect (adapter : Adapter σ) : SourceWorld σ :=
  { w with connected := insert adapter w.connected }

end SourceWorld

def execSource : (c : SourceCmd σ) → SourceWorld σ → c.Reply × SourceWorld σ
  | .leave sessionId, w =>
      (w.adapters.lookup sessionId, w.letGo (w.adapters.lookup sessionId).toList)
  | .leaveAll, w =>
      (w.adapters.entries.map Sigma.snd, w.letGo (w.adapters.entries.map Sigma.snd))
  | .releaseTap _, w => ((), w)
  | .closeSocket adapter, w => ((), { w with connected := w.connected.erase adapter })
  | .delete sessionId, w => ((), { w with adapters := w.adapters.erase sessionId })
  | .newAdapter sessionId sourceType, w =>
      let adapter : Adapter σ := { id := w.created, sessionId, sourceType }
      let w₁ := { w with created := w.created + 1 }
      match sourceType with
      | .mediasoup => (some adapter, w₁)
      | .meetingBot | .browserSdk =>
          if w.wss then (some adapter, w₁.connect adapter) else (none, w)
      | .directUpload => (some adapter, w₁.connect adapter)
  | .bindSocket adapter, w => (w.binds adapter.id, w)
  | .requestTap adapter, w =>
      (w.opensTap adapter.id, if w.opensTap adapter.id then w.connect adapter else w)
  | .set adapter, w => ((), { w with adapters := w.adapters.insert adapter.sessionId adapter })

end Exec

abbrev SourceM (σ : Type) := Prog (SourceCmd σ) SourceCmd.Reply

abbrev issueSource {σ : Type} (c : SourceCmd σ) : SourceM σ c.Reply := Prog.perform c

/-! ### The manager -/

inductive SourceError
  | webSocketServerNotInitialised
  | bindFailed
  | tapFailed
  deriving DecidableEq

section Manager

variable {σ : Type}

/-- What is left of `detach` once the adapter has been asked to disconnect. -/
def finishDetach (existing : Adapter σ) : SourceM σ Unit := do
  if existing.taps then
    issueSource (.releaseTap existing)
    issueSource (.closeSocket existing)
  issueSource (.delete existing.sessionId)

def detach (sessionId : σ) : SourceM σ Unit := do
  match ← issueSource (.leave sessionId) with
  | none => return
  | some existing => finishDetach existing

/-- `connect` of an adapter that taps a room. -/
def connectTap (adapter : Adapter σ) : SourceM σ (Except SourceError (Adapter σ)) := do
  if !(← issueSource (.bindSocket adapter)) then return .error .bindFailed
  if !(← issueSource (.requestTap adapter)) then return .error .tapFailed
  return .ok adapter

def createAdapter (sessionId : σ) (sourceType : AudioSourceType) :
    SourceM σ (Except SourceError (Adapter σ)) := do
  match ← issueSource (.newAdapter sessionId sourceType) with
  | none => return .error .webSocketServerNotInitialised
  | some adapter => if adapter.taps then connectTap adapter else return .ok adapter

def attach (sessionId : σ) (sourceType : AudioSourceType) :
    SourceM σ (Except SourceError (Adapter σ)) := do
  detach sessionId
  match ← createAdapter sessionId sourceType with
  | .error e => return .error e
  | .ok adapter =>
      issueSource (.set adapter)
      return .ok adapter

/-- All sessions are detached at once; `turns` is the order in which the network
answers. -/
def shutdown (turns : List ℕ) : SourceM σ Unit := do
  let existing ← issueSource .leaveAll
  Prog.sideBySide turns (existing.map finishDetach)

inductive SourceCall (σ : Type)
  | attach (sessionId : σ) (sourceType : AudioSourceType)
  | detach (sessionId : σ)
  | shutdown (turns : List ℕ)
  deriving DecidableEq

inductive SourceOutcome (σ : Type)
  | attached (result : Except SourceError (Adapter σ))
  | detached
  | shutDown

def SourceCall.program : SourceCall σ → SourceM σ (SourceOutcome σ)
  | .attach sessionId sourceType => .attached <$> Sources.attach sessionId sourceType
  | .detach sessionId => (fun _ => .detached) <$> Sources.detach sessionId
  | .shutdown turns => (fun _ => .shutDown) <$> Sources.shutdown turns

end Manager

end Greetup.Sources
