import Greetup.VoiceIq.Aggregation
import Mathlib.Logic.Function.Basic

/-!
The audio that browsers and bots stream over a WebSocket: the pool that collects
the chunks of every participant until there are thirty seconds of them, and the
adapter that all clients of a session share.
-/

namespace Greetup.Sources.Pool

open VoiceIq (Numbers)

/-- Numbers as the buffer uses them. -/
class Durations (ν : Type) extends Numbers ν where
  ge : ν → ν → Bool
  /-- As a template string prints it. -/
  text : ν → String

instance : Durations ℚ where
  ge x y := y ≤ x
  text x := if x.den = 1 then toString x.num else toString x.num ++ "/" ++ toString x.den

inductive AudioFormat
  | opus
  | pcm16le
  deriving DecidableEq, Repr

def AudioFormat.text : AudioFormat → String
  | .opus => "opus"
  | .pcm16le => "pcm16le"

structure AudioChunk (ν : Type) where
  participantId : String
  sessionId : String
  data : List UInt8
  format : AudioFormat
  sampleRate : ν

structure TranscriptWindow (ν : Type) where
  participantId : String
  sessionId : String
  transcript : String
  embedding : List ν
  rubricId : Option String

structure BufferEntry (ν : Type) where
  chunks : List (List UInt8)
  /-- Estimated seconds so far. -/
  durationSec : ν

/-- `buffers` -/
abbrev AudioBufferPool (ν : Type) : Type := String → Option (BufferEntry ν)

def bufferKey (participantId sessionId : String) : String := sessionId ++ ":" ++ participantId

variable {ν : Type} [Durations ν]

def estimateDuration (chunk : AudioChunk ν) : ν :=
  match chunk.format with
  | .pcm16le =>
      Numbers.div (Numbers.ofRat chunk.data.length) (Numbers.mul chunk.sampleRate (Numbers.ofRat 2))
  | .opus => Numbers.div (Numbers.ofRat chunk.data.length) (Numbers.ofRat 3000)

/-- The window of an entry; the transcript stands in for speech recognition. -/
def flush (participantId sessionId : String) (entry : BufferEntry ν) (lastChunk : AudioChunk ν) :
    TranscriptWindow ν where
  participantId := participantId
  sessionId := sessionId
  transcript := "[audio_buffer:" ++ toString entry.chunks.flatten.length ++ "B:" ++
    lastChunk.format.text ++ "@" ++ Durations.text lastChunk.sampleRate ++ "Hz]"
  embedding := []
  rubricId := none

def BufferEntry.empty : BufferEntry ν := ⟨[], Numbers.ofRat 0⟩

def BufferEntry.add (entry : BufferEntry ν) (chunk : AudioChunk ν) : BufferEntry ν :=
  ⟨entry.chunks ++ [chunk.data], Numbers.add entry.durationSec (estimateDuration chunk)⟩

/-- The pool after the chunk, and the window that is handed to the scoring queue
if there is enough. -/
def push (windowSeconds : ν) (pool : AudioBufferPool ν) (chunk : AudioChunk ν) :
    AudioBufferPool ν × Option (TranscriptWindow ν) :=
  let key := bufferKey chunk.participantId chunk.sessionId
  let entry := ((pool key).getD .empty).add chunk
  if Durations.ge entry.durationSec windowSeconds then
    (Function.update pool key none, some (flush chunk.participantId chunk.sessionId entry chunk))
  else (Function.update pool key (some entry), none)

def clear (pool : AudioBufferPool ν) (participantId sessionId : String) : AudioBufferPool ν :=
  Function.update pool (bufferKey participantId sessionId) none

/-! ### The adapter -/

structure ParticipantMeta where
  id : String
  name : String

/-- A message that could be parsed. -/
inductive WsMessage (ν : Type)
  | identify (participantName : String) (participantEmail : Option String)
  | audio (data : String) (format : AudioFormat) (sampleRate : Option ν)
  | transcript (text : String) (participantId : Option String)
  | ended

inductive ServerMessage
  | connected (participantId : String)
  | error (message : String)
  deriving DecidableEq

/-- The sockets are those of the process. -/
structure Adapter (κ ν : Type) where
  /-- The handlers of the adapter are attached to the socket. -/
  listens : κ → Bool
  participants : κ → Option ParticipantMeta
  pool : AudioBufferPool ν

structure Setup (ν : Type) where
  sessionId : String
  /-- `meeting-bot` or `browser-sdk` -/
  sourceType : String
  windowSeconds : ν
  /-- `Buffer.from(data, 'base64')` -/
  fromBase64 : String → List UInt8

inductive Event (κ ν : Type)
  /-- `drawn` is the temporary id that is made up for the connection. -/
  | connection (ws : κ) (sessionIdFromPath : String) (sourceParam : Option String) (drawn : String)
  /-- `none` cannot be parsed. -/
  | message (ws : κ) (msg : Option (WsMessage ν))
  | close (ws : κ)
  | error (ws : κ)
  /-- The adapter is disconnected. -/
  | disconnect

inductive Effect (κ ν : Type)
  | send (ws : κ) (message : ServerMessage)
  | closeSocket (ws : κ)
  /-- Every socket that has a participant is closed. -/
  | closeSockets
  /-- The window goes to the scoring queue and to the transcript handlers. -/
  | enqueue (window : TranscriptWindow ν)

namespace Adapter

variable {κ : Type} [DecidableEq κ]

def new : Adapter κ ν := ⟨fun _ => false, fun _ => none, fun _ => none⟩

def accepts (setup : Setup ν) (sessionIdFromPath : String) (sourceParam : Option String) : Bool :=
  sessionIdFromPath = setup.sessionId &&
    (sourceParam.getD "" = "" || sourceParam.getD "" = setup.sourceType)

def handleConnection (setup : Setup ν) (a : Adapter κ ν) (ws : κ) (sessionIdFromPath : String)
    (sourceParam : Option String) (drawn : String) : Adapter κ ν × List (Effect κ ν) :=
  if accepts setup sessionIdFromPath sourceParam then
    ({ a with
        listens := Function.update a.listens ws true
        participants := Function.update a.participants ws (some ⟨drawn, "Unknown"⟩) },
      [.send ws (.connected drawn)])
  else (a, [])

def chunkOf (setup : Setup ν) (participantId : String) (data : String) (format : AudioFormat)
    (sampleRate : Option ν) : AudioChunk ν :=
  ⟨participantId, setup.sessionId, setup.fromBase64 data, format,
    sampleRate.getD (Numbers.ofRat 48000)⟩

def handleMessage (setup : Setup ν) (a : Adapter κ ν) (ws : κ) :
    Option (WsMessage ν) → Adapter κ ν × List (Effect κ ν)
  | none => (a, [.send ws (.error "invalid_json")])
  | some msg =>
      match a.participants ws with
      | none => (a, [])
      | some pm =>
          match msg with
          | .identify participantName _ =>
              ({ a with
                  participants :=
                    Function.update a.participants ws (some { pm with name := participantName }) },
                [.send ws (.connected pm.id)])
          | .audio data format sampleRate =>
              let (pool, window) :=
                push setup.windowSeconds a.pool (chunkOf setup pm.id data format sampleRate)
              ({ a with pool }, window.toList.map .enqueue)
          | .transcript text participantId =>
              (a, [.enqueue ⟨participantId.getD pm.id, setup.sessionId, text, [], none⟩])
          | .ended => (a, [.closeSocket ws])

def onClose (setup : Setup ν) (a : Adapter κ ν) (ws : κ) : Adapter κ ν :=
  match a.participants ws with
  | some pm =>
      { a with
        participants := Function.update a.participants ws none
        pool := clear a.pool pm.id setup.sessionId }
  | none => a

def step (setup : Setup ν) (a : Adapter κ ν) : Event κ ν → Adapter κ ν × List (Effect κ ν)
  | .connection ws sessionIdFromPath sourceParam drawn =>
      handleConnection setup a ws sessionIdFromPath sourceParam drawn
  | .message ws msg => if a.listens ws then handleMessage setup a ws msg else (a, [])
  | .close ws => (if a.listens ws then onClose setup a ws else a, [])
  | .error ws =>
      (if a.listens ws then { a with participants := Function.update a.participants ws none }
        else a, [])
  | .disconnect => ({ a with participants := fun _ => none }, [.closeSockets])

end Adapter

end Greetup.Sources.Pool
