import Greetup.Rtc.Types
import Greetup.Data.Tally
import Mathlib.Logic.Function.Basic

/-!
The highlight on the tile of the peer who speaks, and the time for which each
peer has had it.

Closed segments are kept in a map, the open one in two fields, and the peer who
was highlighted last in a map of its own.
-/

namespace Greetup.Rtc.DominantSpeaker

open Data (Tally)

abbrev PeerId := UserId

structure DominantSpeakerSocketPayload where
  peerId : Option PeerId
  speakingMsByPeer : Tally PeerId

structure RoomSpeakingState where
  currentPeerId : Option PeerId := none
  currentSinceMs : Option ℕ := none
  speakingMsByPeer : Tally PeerId := ∅

/-- The times of the map, with the open segment. -/
def speakingMsSnapshot (state : RoomSpeakingState) (nowMs : ℕ) : Tally PeerId :=
  match state.currentPeerId, state.currentSinceMs with
  | some peerId, some sinceMs =>
      state.speakingMsByPeer.insert peerId
        (state.speakingMsByPeer.amount peerId + (nowMs - sinceMs))
  | _, _ => state.speakingMsByPeer

structure DominantSpeakerCoordinator where
  lastPeerIdByRoom : RoomId → Option (Option PeerId) := fun _ => none
  speakingByRoom : RoomId → Option RoomSpeakingState := fun _ => none

/-- The state after a call, and what `notifyRoom` was called with. -/
abbrev Notified := DominantSpeakerCoordinator × Option (RoomId × DominantSpeakerSocketPayload)

namespace DominantSpeakerCoordinator

variable (c : DominantSpeakerCoordinator) (roomId : RoomId)

def currentHighlightedPeerId : Option PeerId := (c.lastPeerIdByRoom roomId).getD none

def roomSpeakingState : RoomSpeakingState := (c.speakingByRoom roomId).getD {}

def flushSpeakingSegment (nowMs : ℕ) : DominantSpeakerCoordinator :=
  match c.speakingByRoom roomId with
  | none => c
  | some state =>
      match state.currentPeerId, state.currentSinceMs with
      | some peerId, some sinceMs =>
          let elapsed := nowMs - sinceMs
          let totalMs := state.speakingMsByPeer.amount peerId + elapsed
          { c with
            speakingByRoom := Function.update c.speakingByRoom roomId
              (some { state with
                speakingMsByPeer := state.speakingMsByPeer.insert peerId totalMs
                currentSinceMs := none }) }
      | _, _ => c

def broadcastIfChanged (peerId : Option PeerId) (nowMs : ℕ) : Notified :=
  let prev := (c.lastPeerIdByRoom roomId).getD none
  if prev = peerId then (c, none)
  else
    let flushed := c.flushSpeakingSegment roomId nowMs
    let state := { flushed.roomSpeakingState roomId with
      currentPeerId := peerId
      currentSinceMs := peerId.map fun _ => nowMs }
    let speakingMsByPeer := speakingMsSnapshot state nowMs
    ({ speakingByRoom := Function.update flushed.speakingByRoom roomId (some state)
       lastPeerIdByRoom := Function.update flushed.lastPeerIdByRoom roomId (some peerId) },
      some (roomId, { peerId, speakingMsByPeer }))

def clearHighlightIfUser (userId : UserId) (nowMs : ℕ) : Notified :=
  if c.lastPeerIdByRoom roomId = some (some userId) then c.broadcastIfChanged roomId none nowMs
  else (c, none)

def forgetRoom : DominantSpeakerCoordinator where
  lastPeerIdByRoom := Function.update c.lastPeerIdByRoom roomId none
  speakingByRoom := Function.update c.speakingByRoom roomId none

end DominantSpeakerCoordinator

/-! ### Runs -/

inductive Call
  | broadcastIfChanged (roomId : RoomId) (peerId : Option PeerId)
  | clearHighlightIfUser (roomId : RoomId) (userId : UserId)
  | forgetRoom (roomId : RoomId)
  deriving DecidableEq

/-- A call and what it reads from the clock. -/
structure Moment where
  call : Call
  now : ℕ
  deriving DecidableEq

def Moment.apply (m : Moment) (c : DominantSpeakerCoordinator) : Notified :=
  match m.call with
  | .broadcastIfChanged roomId peerId => c.broadcastIfChanged roomId peerId m.now
  | .clearHighlightIfUser roomId userId => c.clearHighlightIfUser roomId userId m.now
  | .forgetRoom roomId => (c.forgetRoom roomId, none)

/-- What has happened so far, the newest first. -/
abbrev History := List Moment

/-- The clock does not go back. -/
def Clocked (h : History) : Prop := h.Pairwise fun later earlier => earlier.now ≤ later.now

def after : History → DominantSpeakerCoordinator
  | [] => {}
  | m :: h => (m.apply (after h)).1

/-- What the newest call emits in a room. -/
def emitted (roomId : RoomId) : History → Option DominantSpeakerSocketPayload
  | [] => none
  | m :: h =>
      match (m.apply (after h)).2 with
      | none => none
      | some (room, payload) => if room = roomId then some payload else none

/-- The emissions of a room, the newest first. -/
def emissions (roomId : RoomId) : History → List DominantSpeakerSocketPayload
  | [] => []
  | m :: h => (emitted roomId (m :: h)).toList ++ emissions roomId h

/-- Those since the room was forgotten for the last time. -/
def emissionsSince (roomId : RoomId) : History → List DominantSpeakerSocketPayload
  | [] => []
  | m :: h =>
      if m.call = .forgetRoom roomId then []
      else (emitted roomId (m :: h)).toList ++ emissionsSince roomId h

/-! ### Who is highlighted, and for how long -/

/-- Who is highlighted after a call, where it was `prev` before. -/
def Call.highlight (roomId : RoomId) (prev : Option PeerId) : Call → Option PeerId
  | .broadcastIfChanged room peerId => if room = roomId then peerId else prev
  | .clearHighlightIfUser room userId =>
      if room = roomId ∧ prev = some userId then none else prev
  | .forgetRoom room => if room = roomId then none else prev

def highlighted (roomId : RoomId) : History → Option PeerId
  | [] => none
  | m :: h => m.call.highlight roomId (highlighted roomId h)

def lastNow : History → ℕ
  | [] => 0
  | m :: _ => m.now

/-- How long the peer has been the highlighted one of the room by `now`, since
the room was forgotten for the last time: between two calls the highlight stays
where the first has put it. -/
def spokenUntil (roomId : RoomId) (peerId : PeerId) (now : ℕ) : History → ℕ
  | [] => 0
  | m :: h =>
      (if m.call = .forgetRoom roomId then 0 else spokenUntil roomId peerId m.now h) +
        if highlighted roomId (m :: h) = some peerId then now - m.now else 0

/-- When someone was highlighted for the first time since then. -/
def firstHighlight (roomId : RoomId) : History → Option ℕ
  | [] => none
  | m :: h =>
      if m.call = .forgetRoom roomId then none
      else firstHighlight roomId h <|>
        if (highlighted roomId (m :: h)).isSome then some m.now else none

end Greetup.Rtc.DominantSpeaker
