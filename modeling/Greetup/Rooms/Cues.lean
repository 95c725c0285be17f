import Greetup.Interleaving.Once
import Greetup.Interleaving.Together

/-!
Conversation cues in a direct call: a language model is asked for a batch of
cues, which is kept for the room, and each participant is shown one of them.

Both participants may ask at the same time, from several devices. A lock decides
who asks the model, and who does not get it polls until the batch is there or
the lock is gone.
-/

namespace Greetup.Rooms.Cues

open Interleaving
open Interleaving.Prog

abbrev UserId := String
abbrev RoomId := String

inductive ConversationCueKind
  | sharedSessionActivity
  | sharedSessionActivityDetail
  | peerSessionActivity
  | sharedInterest
  | sharedMood
  | sharedLookingFor
  | sharedGoal
  | aiGenerated
  deriving DecidableEq, Repr

structure ConversationCue where
  id : String
  kind : ConversationCueKind
  priority : ℕ
  title : String
  body : Option String
  emoji : Option String
  deriving DecidableEq, Repr

structure ConversationCuesResponse where
  cue : Option ConversationCue
  hasMore : Bool
  deriving DecidableEq

def emptyResponse : ConversationCuesResponse := ⟨none, false⟩

def conversationCuesMaxPerCall : ℕ := 1

def generationMaxWaitAttempts : ℕ := 60

/-! ### What a participant may see -/

structure CanonicalParticipants where
  participantA : UserId
  participantB : UserId

def canonicalParticipants (userId peerUserId : UserId) : CanonicalParticipants :=
  if userId < peerUserId then ⟨userId, peerUserId⟩ else ⟨peerUserId, userId⟩

/-- The participant that the id names, as `peer_session:a:` or `peer_session:b:`. -/
def CanonicalParticipants.selector (participants : CanonicalParticipants) (cueId : String) :
    Option UserId :=
  if "peer_session:a:".toList.isPrefixOf cueId.toList then some participants.participantA
  else if "peer_session:b:".toList.isPrefixOf cueId.toList then some participants.participantB
  else none

def cueVisibleToUser (cue : ConversationCue) (userId : UserId)
    (participants : CanonicalParticipants) : Bool :=
  if cue.kind ≠ .peerSessionActivity then true
  else
    match participants.selector cue.id with
    | none => true
    | some selector => selector ≠ userId

def filterCuesForUser (cues : List ConversationCue) (userId : UserId)
    (participants : CanonicalParticipants) (shown : List String) : List ConversationCue :=
  cues.filter fun cue => !shown.contains cue.id && cueVisibleToUser cue userId participants

/-! ### The world -/

structure RoomRow where
  live : Bool
  direct : Bool

inductive RoomActivityErrorCode
  | roomNotFound
  | roomNotLive
  | notDirect
  | notParticipant
  | peerNotFound
  deriving DecidableEq

structure RoomActivityError where
  message : String
  code : RoomActivityErrorCode
  statusCode : ℕ
  deriving DecidableEq

/-- The text that is cached as a snapshot, by what parsing makes of it. -/
inductive CachedSnapshot (π : Type)
  /-- No JSON, or one that counts as nothing, such as `null`. -/
  | unreadable
  /-- JSON, which may still be no profile. -/
  | json (profile : Option π)

def CachedSnapshot.parse {π : Type} : CachedSnapshot π → Option (Option π)
  | .unreadable => none
  | .json profile => some profile

/-- What other services write: rooms, blocks and profile snapshots. -/
structure Elsewhere (π : Type) where
  rooms : RoomId → Option RoomRow
  /-- Those who have not left, in the order of the rows. -/
  active : RoomId → List UserId
  blocked : UserId → UserId → Bool
  snapshots : UserId → Option (CachedSnapshot π)
  /-- What the snapshot is built from, and what it would be parsed to. -/
  profiles : UserId → Option (Option π)

structure World (π : Type) where
  elsewhere : Elsewhere π
  shown : RoomId → UserId → List String
  batch : RoomId → Option (List ConversationCue)
  generating : RoomId → Bool

/-- A key that can expire. -/
inductive CueKey
  | shown (roomId : RoomId) (userId : UserId)
  | batch (roomId : RoomId)
  | generating (roomId : RoomId)

inductive Cmd (π : Type)
  | findRoomById (roomId : RoomId)
  | isUserRoomParticipant (roomId : RoomId) (userId : UserId)
  | listActiveParticipantUserIds (roomId : RoomId)
  | isEitherBlocked (userId peerUserId : UserId)
  | listShownCueIds (roomId : RoomId) (userId : UserId)
  | getSnapshot (userId : UserId)
  | ensureProfileSnapshotCached (userId : UserId)
  | readCachedCueBatch (roomId : RoomId)
  | tryAcquireGenerationLock (roomId : RoomId)
  | generationLockExists (roomId : RoomId)
  /-- The model is asked, and has answered. -/
  | generateRoomConversationCues (roomId : RoomId)
  | writeCachedCueBatch (roomId : RoomId) (cues : List ConversationCue)
  | releaseGenerationLock (roomId : RoomId)
  | markCueShown (roomId : RoomId) (userId : UserId) (cueId : String)
  | change (f : Elsewhere π → Elsewhere π)
  | expire (key : CueKey)

variable {π : Type}

@[reducible] def Cmd.Reply : Cmd π → Type
  | .findRoomById _ => Option RoomRow
  | .isUserRoomParticipant _ _ | .isEitherBlocked _ _ => Bool
  | .listActiveParticipantUserIds _ => List UserId
  | .listShownCueIds _ _ => List String
  | .getSnapshot _ => Option (CachedSnapshot π)
  | .readCachedCueBatch _ => Option (List ConversationCue)
  | .tryAcquireGenerationLock _ | .generationLockExists _ => Bool
  | _ => Unit

def World.expire (w : World π) : CueKey → World π
  | .shown roomId userId =>
      { w with
        shown := Function.update w.shown roomId (Function.update (w.shown roomId) userId []) }
  | .batch roomId => { w with batch := Function.update w.batch roomId none }
  | .generating roomId => { w with generating := Function.update w.generating roomId false }

def exec : (c : Cmd π) → World π → c.Reply × World π
  | .findRoomById roomId, w => (w.elsewhere.rooms roomId, w)
  | .isUserRoomParticipant roomId userId, w => ((w.elsewhere.active roomId).contains userId, w)
  | .listActiveParticipantUserIds roomId, w => (w.elsewhere.active roomId, w)
  | .isEitherBlocked userId peerUserId, w =>
      (w.elsewhere.blocked userId peerUserId || w.elsewhere.blocked peerUserId userId, w)
  | .listShownCueIds roomId userId, w => (w.shown roomId userId, w)
  | .getSnapshot userId, w => (w.elsewhere.snapshots userId, w)
  | .ensureProfileSnapshotCached userId, w =>
      ((), { w with elsewhere := { w.elsewhere with
        snapshots := Function.update w.elsewhere.snapshots userId
          ((w.elsewhere.snapshots userId).or ((w.elsewhere.profiles userId).map .json)) } })
  | .readCachedCueBatch roomId, w => (w.batch roomId, w)
  | .tryAcquireGenerationLock roomId, w =>
      (!w.generating roomId, { w with generating := Function.update w.generating roomId true })
  | .generationLockExists roomId, w => (w.generating roomId, w)
  | .generateRoomConversationCues _, w => ((), w)
  | .writeCachedCueBatch roomId cues, w =>
      ((), { w with batch := Function.update w.batch roomId (some cues) })
  | .releaseGenerationLock roomId, w =>
      ((), { w with generating := Function.update w.generating roomId false })
  | .markCueShown roomId userId cueId, w =>
      ((), { w with
        shown := Function.update w.shown roomId
          (Function.update (w.shown roomId) userId ((w.shown roomId userId).insert cueId)) })
  | .change f, w => ((), { w with elsewhere := f w.elsewhere })
  | .expire key, w => ((), w.expire key)

abbrev CueM (π α : Type) : Type := Prog (Cmd π) Cmd.Reply α

abbrev issue (c : Cmd π) : CueM π c.Reply := perform c

/-! ### The service -/

def ensureDirectRoomActivityContext (roomId : RoomId) (userId : UserId) :
    CueM π (Except RoomActivityError UserId) := do
  match ← issue (.findRoomById roomId) with
  | none => pure (.error ⟨"Room not found", .roomNotFound, 404⟩)
  | some room =>
    if !room.live then pure (.error ⟨"Room is not live", .roomNotLive, 400⟩)
    else if !room.direct then
      pure (.error ⟨"Activities are available only in direct calls", .notDirect, 400⟩)
    else if ← issue (.isUserRoomParticipant roomId userId) then
      let participants ← issue (.listActiveParticipantUserIds roomId)
      match participants.find? (· ≠ userId) with
      | none => pure (.error ⟨"No active peer found in this direct call", .peerNotFound, 400⟩)
      | some peerUserId => pure (.ok peerUserId)
    else pure (.error ⟨"You are not in this room", .notParticipant, 403⟩)

def loadRawSnapshot (userId : UserId) : CueM π (Option (Option π)) := do
  match ← issue (.getSnapshot userId) with
  | some raw => pure raw.parse
  | none =>
    issue (.ensureProfileSnapshotCached userId)
    return (← issue (.getSnapshot userId)).bind CachedSnapshot.parse

/-- The batch, if there is one and it is not empty. -/
def nonempty (batch : Option (List ConversationCue)) : Option (List ConversationCue) :=
  batch.filter (· ≠ [])

def waitForCachedCueBatch (roomId : RoomId) : ℕ → CueM π (Option (List ConversationCue))
  | 0 => issue (.readCachedCueBatch roomId)
  | attempts + 1 => do
    let cached ← issue (.readCachedCueBatch roomId)
    match nonempty cached with
    | some _ => pure cached
    | none =>
      if ← issue (.generationLockExists roomId) then waitForCachedCueBatch roomId attempts
      else pure cached

def generateAndCacheRoomCueBatch (roomId : RoomId) (gemini : π → π → List ConversationCue)
    (profileA profileB : Option π) : CueM π (List ConversationCue) :=
  match profileA, profileB with
  | some profileA, some profileB => do
    issue (.generateRoomConversationCues roomId)
    let candidates := gemini profileA profileB
    if candidates ≠ [] then
      issue (.writeCachedCueBatch roomId candidates)
      pure candidates
    else pure candidates
  | _, _ => pure []

/-- The batch that the holder of the lock ends with. -/
def generateUnderLock (roomId : RoomId) (gemini : π → π → List ConversationCue)
    (profileA profileB : Option π) : CueM π (Option (List ConversationCue)) := do
  let batch ← issue (.readCachedCueBatch roomId)
  match nonempty batch with
  | some _ => do
    issue (.releaseGenerationLock roomId)
    pure batch
  | none => do
    let batch ← generateAndCacheRoomCueBatch roomId gemini profileA profileB
    issue (.releaseGenerationLock roomId)
    pure (some batch)

def resolveBatch (roomId : RoomId) (gemini : π → π → List ConversationCue)
    (profileA profileB : Option π) : CueM π (Option (List ConversationCue)) := do
  let batch ← issue (.readCachedCueBatch roomId)
  match nonempty batch with
  | some _ => pure batch
  | none =>
    if ← issue (.tryAcquireGenerationLock roomId) then
      generateUnderLock roomId gemini profileA profileB
    else waitForCachedCueBatch roomId generationMaxWaitAttempts

def resolveCueCandidates (roomId : RoomId) (userId peerUserId : UserId)
    (gemini : π → π → List ConversationCue) (meRaw peerRaw : Option π) (shown : List String) :
    CueM π (List ConversationCue) := do
  let participants := canonicalParticipants userId peerUserId
  let (profileA, profileB) :=
    if participants.participantA = userId then (meRaw, peerRaw) else (peerRaw, meRaw)
  match nonempty (← resolveBatch roomId gemini profileA profileB) with
  | none => pure []
  | some batch => pure (filterCuesForUser batch userId participants shown)

/-- What comes after the snapshots are loaded. -/
def nextCue (userId : UserId) (roomId : RoomId) (peerUserId : UserId)
    (gemini : π → π → List ConversationCue) (shown : List String)
    (meRaw peerRaw : Option (Option π)) : CueM π ConversationCuesResponse :=
  match meRaw, peerRaw with
  | some meRaw, some peerRaw => do
    match ← resolveCueCandidates roomId userId peerUserId gemini meRaw peerRaw shown with
    | [] => pure emptyResponse
    | cue :: rest =>
      issue (.markCueShown roomId userId cue.id)
      pure ⟨some cue, rest ≠ [] ∧ shown.length + 1 < conversationCuesMaxPerCall⟩
  | _, _ => pure emptyResponse

/-- The order in which the two snapshots are loaded is left to `turns`. -/
def getNextConversationCueService (userId : UserId) (roomId : RoomId)
    (gemini : π → π → List ConversationCue) (turns : List ℕ) :
    CueM π (Except RoomActivityError ConversationCuesResponse) := do
  match ← ensureDirectRoomActivityContext roomId userId with
  | .error error => pure (.error error)
  | .ok peerUserId =>
    if ← issue (.isEitherBlocked userId peerUserId) then pure (.ok emptyResponse)
    else
      let shown ← issue (.listShownCueIds roomId userId)
      if conversationCuesMaxPerCall ≤ shown.length then pure (.ok emptyResponse)
      else
        match ← together turns [loadRawSnapshot userId, loadRawSnapshot peerUserId] with
        | [meRaw, peerRaw] =>
            Except.ok <$> nextCue userId roomId peerUserId gemini shown meRaw peerRaw
        | _ => pure (.ok emptyResponse)

/-! ### What runs at the same time -/

inductive Task (π : Type)
  | getNextConversationCue (userId : UserId) (roomId : RoomId)
      (gemini : π → π → List ConversationCue) (turns : List ℕ)
  /-- Another service writes. -/
  | change (f : Elsewhere π → Elsewhere π)
  | expire (key : CueKey)

inductive Outcome
  | answered (result : Except RoomActivityError ConversationCuesResponse)
  | finished

def Task.program : Task π → CueM π Outcome
  | .getNextConversationCue userId roomId gemini turns =>
      Outcome.answered <$> getNextConversationCueService userId roomId gemini turns
  | .change f => (fun _ => Outcome.finished) <$> issue (.change f)
  | .expire key => (fun _ => Outcome.finished) <$> issue (.expire key)

def begun {ι : Type} (tasks : ι → Task π) (w₀ : World π) :
    Conf ι (Cmd π) Cmd.Reply Outcome (World π) where
  threads i := (tasks i).program
  scene := ⟨w₀, []⟩

end Greetup.Rooms.Cues
