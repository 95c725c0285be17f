import Greetup.Rtc.Types
import Mathlib.Logic.Function.Basic

/-!
A client in a call, and the room on the media server that it looks at.

The server tells the client in order what happens in the room. The client sees
it through its listeners, of which it registers two only after the handshake:
until then nothing that is produced reaches it otherwise than by the answer to
its `join`. Every producer that it learns of it consumes, and a call that does so
waits twice before it enters what it has made.

The sessions of the room are those of the other users. What happens between two
awaits, at the server or at the client, is one step.
-/

namespace Greetup.Client.CallView

open Rtc (UserId MediaKind)
open Matching (Text)

abbrev ProducerId := ℕ

inductive ProducerMediaSource
  | camera
  | screen
  deriving DecidableEq

def producerMediaSourceFromSocket (kind : MediaKind) (mediaSource : Option ProducerMediaSource) :
    ProducerMediaSource :=
  if kind ≠ .video then .camera
  else if mediaSource = some .screen then .screen else .camera

/-- A producer, as `existingProducers` and `newProducer` describe it. -/
structure Producer where
  peerId : UserId
  producerId : ProducerId
  kind : MediaKind
  mediaSource : Option ProducerMediaSource := none
  deriving DecidableEq

def Producer.source (p : Producer) : ProducerMediaSource :=
  producerMediaSourceFromSocket p.kind p.mediaSource

/-! ### The room -/

structure Member where
  peerId : UserId
  displayName : Option Text := none
  image : Option Text := none
  deriving DecidableEq

structure JoinAck where
  /-- `peerIds`, with what `peerNames` and `peerImages` have of them -/
  peers : List Member
  existingProducers : List Producer
  deriving DecidableEq

inductive Packet
  | peerJoined (member : Member)
  | peerLeft (peerId : UserId)
  | newProducer (producer : Producer)
  | producerClosed (peerId : UserId) (producerId : ProducerId)
  | joinAck (ack : JoinAck)
  deriving DecidableEq

def Packet.newProducer? : Packet → Option Producer
  | .newProducer p => some p
  | _ => none

structure Room where
  /-- The other users with a session in the room. -/
  members : List Member := []
  /-- The producers of these sessions. -/
  producers : List Producer := []
  /-- Producers that `produce` publishes, and then tells the room of. -/
  announcing : List Producer := []
  /-- Users whose session `removeSession` is about to remove, each with the
  producers whose closing it has yet to tell. -/
  leaving : List (UserId × List Producer) := []
  /-- All producers that there have been. No id is given twice. -/
  born : List Producer := []

namespace Room

variable (r : Room)

def peerIds : List UserId := r.members.map (·.peerId)

def isLeaving (userId : UserId) : Prop := userId ∈ r.leaving.map (·.1)

instance (userId : UserId) : Decidable (r.isLeaving userId) :=
  inferInstanceAs (Decidable (_ ∈ _))

/-- The user is in the room, and has not been told to have left. -/
def Present (userId : UserId) : Prop := userId ∈ r.peerIds ∧ ¬ r.isLeaving userId

/-- The producer is open, and its user is not about to go. -/
def Holds (p : Producer) : Prop := p ∈ r.producers ∧ ¬ r.isLeaving p.peerId

instance (userId : UserId) : Decidable (r.Present userId) := inferInstanceAs (Decidable (_ ∧ _))

instance (p : Producer) : Decidable (r.Holds p) := inferInstanceAs (Decidable (_ ∧ _))

def findProducerInRoom (producerId : ProducerId) : Option Producer :=
  r.producers.find? fun p => p.producerId = producerId

/-- The end of `removeSession`. -/
def remove (userId : UserId) : Room :=
  { r with
    members := r.members.filter fun m => m.peerId ≠ userId
    producers := r.producers.filter fun p => p.peerId ≠ userId
    leaving := r.leaving.filter fun l => l.1 ≠ userId }

/-- `removeSession` waits, and has yet to tell the closing of `rest`. -/
def leave (userId : UserId) (rest : List Producer) : Room :=
  { r with leaving := (userId, rest) :: r.leaving.filter fun l => l.1 ≠ userId }

end Room

/-- What the other users do. -/
inductive RoomAct
  /-- `join`, once there is a session -/
  | joins (member : Member)
  /-- `produce`, up to the publishing -/
  | opens (p : Producer)
  /-- the rest of `produce` -/
  | announces (p : Producer)
  /-- `closeProducer` -/
  | closes (p : Producer)
  /-- `removeSession`, up to the first publishing -/
  | leaves (userId : UserId)
  /-- between two publishings -/
  | tells (userId : UserId) (p : Producer) (rest : List Producer)
  /-- after the last one -/
  | goes (userId : UserId)
  deriving DecidableEq

namespace Room

variable (r : Room)

/-- When the step can be taken. -/
def Can : RoomAct → Prop
  | .joins member => member.peerId ∉ r.peerIds
  | .opens p => p.peerId ∈ r.peerIds ∧ ∀ q ∈ r.born, q.producerId ≠ p.producerId
  | .announces p => p ∈ r.announcing
  | .closes p => p ∈ r.producers
  | .leaves userId => r.Present userId
  | .tells userId p rest => (userId, p :: rest) ∈ r.leaving
  | .goes userId => (userId, []) ∈ r.leaving

instance (a : RoomAct) : Decidable (r.Can a) := by
  rcases a <;> (unfold Can; infer_instance)

/-- The room after the step, and what is told to it. -/
def next : RoomAct → Room × List Packet
  | .joins member => ({ r with members := r.members ++ [member] }, [.peerJoined member])
  | .opens p =>
      ({ r with
          producers := r.producers ++ [p]
          announcing := r.announcing ++ [p]
          born := p :: r.born }, [])
  | .announces p => ({ r with announcing := r.announcing.erase p }, [.newProducer p])
  | .closes p =>
      ({ r with producers := r.producers.erase p }, [.producerClosed p.peerId p.producerId])
  | .leaves userId =>
      match r.producers.filter fun p => p.peerId = userId with
      | [] => (r.remove userId, [.peerLeft userId])
      | p :: rest =>
          (r.leave userId rest, [.peerLeft userId, .producerClosed userId p.producerId])
  | .tells userId p rest => (r.leave userId rest, [.producerClosed userId p.producerId])
  | .goes userId => (r.remove userId, [])

end Room

/-! ### The client -/

structure RemotePeer where
  peerId : UserId
  displayName : Option Text := none
  image : Option Text := none
  cameraActive : Option Bool := none
  micActive : Option Bool := none

abbrev Peers := UserId → Option RemotePeer

/-- The tracks of each peer. -/
abbrev RemoteStreams := List (UserId × List ℕ)

def upsertPeer (peers : Peers) (peerId : UserId) (patch : RemotePeer → RemotePeer) : Peers :=
  Function.update peers peerId (some (patch ((peers peerId).getD { peerId })))

def setPeerMediaActive (peers : Peers) (peerId : UserId) (kind : MediaKind) (active : Bool)
    (mediaSource : ProducerMediaSource) : Peers :=
  if kind = .video ∧ mediaSource = .camera then
    upsertPeer peers peerId fun peer => { peer with cameraActive := some active }
  else if kind = .audio then
    upsertPeer peers peerId fun peer => { peer with micActive := some active }
  else peers

theorem isSome_setPeerMediaActive {peers : Peers} {peerId userId : UserId} {kind : MediaKind}
    {active : Bool} {mediaSource : ProducerMediaSource} :
    (setPeerMediaActive peers peerId kind active mediaSource userId).isSome ↔
      (peers userId).isSome ∨ (userId = peerId ∧ (kind = .audio ∨ mediaSource = .camera)) := by
  have hupsert : ∀ patch, (upsertPeer peers peerId patch userId).isSome ↔
      (peers userId).isSome ∨ userId = peerId := by
    intro patch
    by_cases h : userId = peerId
    · simp [upsertPeer, h]
    · simp [upsertPeer, h]
  unfold setPeerMediaActive
  split_ifs with hvideo haudio
  · simp [hupsert, hvideo]
  · simp [hupsert, haudio]
  · cases kind
    · exact absurd rfl haudio
    · simp_all

def initialPeers (ack : JoinAck) : Peers := fun userId =>
  (ack.peers.find? fun m => m.peerId = userId).map fun m =>
    { peerId := m.peerId, displayName := m.displayName, image := m.image,
      cameraActive := some false, micActive := some false }

def onPeerJoined (peers : Peers) (data : Member) : Peers :=
  let existing := peers data.peerId
  Function.update peers data.peerId (some
    { existing.getD { peerId := data.peerId } with
      displayName := data.displayName <|> existing.bind (·.displayName)
      image := data.image <|> existing.bind (·.image)
      cameraActive := (existing.bind (·.cameraActive)) <|> some false
      micActive := (existing.bind (·.micActive)) <|> some false })

theorem isSome_initialPeers {ack : JoinAck} {userId : UserId} :
    (initialPeers ack userId).isSome ↔ userId ∈ ack.peers.map (·.peerId) := by
  simp [initialPeers]

theorem isSome_onPeerJoined {peers : Peers} {data : Member} {userId : UserId} :
    (onPeerJoined peers data userId).isSome ↔ data.peerId = userId ∨ (peers userId).isSome := by
  by_cases h : data.peerId = userId
  · simp [onPeerJoined, h]
  · simp [onPeerJoined, h, Function.update_of_ne (Ne.symm h)]

def addRemoteTrackForPeer : RemoteStreams → UserId → ℕ → RemoteStreams
  | [], peerId, track => [(peerId, [track])]
  | (pid, tracks) :: byPeer, peerId, track =>
      if pid = peerId then
        if track ∈ tracks then (pid, tracks) :: byPeer else (pid, tracks ++ [track]) :: byPeer
      else (pid, tracks) :: addRemoteTrackForPeer byPeer peerId track

def removeRemoteTrackFromPeers : RemoteStreams → ℕ → RemoteStreams
  | [], _ => []
  | (pid, tracks) :: byPeer, track =>
      if track ∈ tracks then
        let remaining := tracks.filter (· ≠ track)
        if remaining = [] then byPeer else (pid, remaining) :: byPeer
      else (pid, tracks) :: removeRemoteTrackFromPeers byPeer track

/-- The track is in the stream of the peer. -/
def Carries (byPeer : RemoteStreams) (peerId : UserId) (track : ℕ) : Prop :=
  ∃ entry ∈ byPeer, entry.1 = peerId ∧ track ∈ entry.2

section Streams

variable {byPeer : RemoteStreams} {peerId userId : UserId} {track t : ℕ} {tracks : List ℕ}

@[simp] theorem not_carries_nil : ¬ Carries [] peerId track := by
  rintro ⟨entry, hmem, -⟩
  cases hmem

@[simp] theorem carries_cons :
    Carries ((userId, tracks) :: byPeer) peerId track ↔
      (userId = peerId ∧ track ∈ tracks) ∨ Carries byPeer peerId track := by
  simp [Carries]

theorem carries_addRemoteTrackForPeer :
    Carries (addRemoteTrackForPeer byPeer userId t) peerId track ↔
      Carries byPeer peerId track ∨ (userId = peerId ∧ track = t) := by
  induction byPeer with
  | nil => simp [addRemoteTrackForPeer]
  | cons entry byPeer ih =>
      obtain ⟨pid, tracks⟩ := entry
      simp only [addRemoteTrackForPeer]
      split_ifs with hpid ht
      · subst hpid
        simp only [carries_cons]
        constructor
        · exact Or.inl
        · rintro (h | ⟨rfl, rfl⟩)
          · exact h
          · exact .inl ⟨rfl, ht⟩
      · subst hpid
        simp only [carries_cons, List.mem_append, List.mem_singleton, and_or_left]
        exact or_right_comm
      · simp only [carries_cons, ih, or_assoc]

theorem keys_addRemoteTrackForPeer :
    (addRemoteTrackForPeer byPeer userId t).map (·.1) =
      if userId ∈ byPeer.map (·.1) then byPeer.map (·.1) else byPeer.map (·.1) ++ [userId] := by
  induction byPeer with
  | nil => simp [addRemoteTrackForPeer]
  | cons entry byPeer ih =>
      obtain ⟨pid, tracks⟩ := entry
      simp only [addRemoteTrackForPeer]
      by_cases hpid : pid = userId
      · rw [if_pos hpid]
        split_ifs <;> simp_all
      · rw [if_neg hpid, List.map_cons, ih]
        simp only [List.map_cons, List.mem_cons, Ne.symm hpid, false_or]
        split_ifs <;> rfl

theorem nodup_addRemoteTrackForPeer (h : (byPeer.map (·.1)).Nodup) :
    ((addRemoteTrackForPeer byPeer userId t).map (·.1)).Nodup := by
  rw [keys_addRemoteTrackForPeer]
  split_ifs with hmem
  · exact h
  · exact List.Nodup.append h (List.nodup_singleton _) (List.disjoint_singleton.mpr hmem)

theorem carries_filter :
    Carries (byPeer.filter fun entry => entry.1 ≠ userId) peerId track ↔
      Carries byPeer peerId track ∧ peerId ≠ userId := by
  constructor
  · rintro ⟨entry, hmem, rfl, htrack⟩
    obtain ⟨hmem, hne⟩ := List.mem_filter.mp hmem
    exact ⟨⟨entry, hmem, rfl, htrack⟩, of_decide_eq_true hne⟩
  · rintro ⟨⟨entry, hmem, rfl, htrack⟩, hne⟩
    exact ⟨entry, List.mem_filter.mpr ⟨hmem, decide_eq_true hne⟩, rfl, htrack⟩

theorem keys_removeRemoteTrackFromPeers :
    ((removeRemoteTrackFromPeers byPeer t).map (·.1)).Sublist (byPeer.map (·.1)) := by
  induction byPeer with
  | nil => exact List.Sublist.refl _
  | cons entry byPeer ih =>
      obtain ⟨pid, tracks⟩ := entry
      simp only [removeRemoteTrackFromPeers]
      split_ifs
      · exact List.sublist_cons_self _ _
      · exact List.Sublist.refl _
      · exact ih.cons_cons _

/-- A track that is in the stream of one peer only is in none then. -/
theorem carries_removeRemoteTrackFromPeers (hkeys : (byPeer.map (·.1)).Nodup)
    (hone : ∀ u v, Carries byPeer u t → Carries byPeer v t → u = v) :
    Carries (removeRemoteTrackFromPeers byPeer t) peerId track ↔
      Carries byPeer peerId track ∧ track ≠ t := by
  induction byPeer with
  | nil => simp [removeRemoteTrackFromPeers]
  | cons entry byPeer ih =>
      obtain ⟨pid, tracks⟩ := entry
      obtain ⟨hpid, hkeys⟩ := List.nodup_cons.mp hkeys
      by_cases ht : t ∈ tracks
      · -- The rest of the streams does not have it: its peer would be another one.
        have hrest : ∀ {u x}, Carries byPeer u x → x ≠ t := by
          rintro u x hx rfl
          obtain rfl := hone pid u (carries_cons.mpr (.inl ⟨rfl, ht⟩)) (carries_cons.mpr (.inr hx))
          obtain ⟨e, he, hepid, -⟩ := hx
          exact hpid (List.mem_map.mpr ⟨e, he, hepid⟩)
        simp only [removeRemoteTrackFromPeers, if_pos ht]
        split_ifs with hnil
        · rw [carries_cons, or_and_right]
          refine ⟨fun h => .inr ⟨h, hrest h⟩, ?_⟩
          rintro (⟨⟨-, htrack⟩, hne⟩ | ⟨h, -⟩)
          · have : track ∈ tracks.filter (· ≠ t) := List.mem_filter.mpr ⟨htrack, by simpa using hne⟩
            rw [hnil] at this
            cases this
          · exact h
        · rw [carries_cons, carries_cons, or_and_right]
          simp only [List.mem_filter, ne_eq, decide_not, Bool.not_eq_eq_eq_not, Bool.not_true,
            decide_eq_false_iff_not, and_assoc]
          exact or_congr Iff.rfl ⟨fun h => ⟨h, hrest h⟩, fun h => h.1⟩
      · simp only [removeRemoteTrackFromPeers, if_neg ht]
        rw [carries_cons, carries_cons, or_and_right,
          ih hkeys fun u v hu hv =>
            hone u v (carries_cons.mpr (.inr hu)) (carries_cons.mpr (.inr hv))]
        refine or_congr ⟨fun h => ⟨h, ?_⟩, fun h => h.1⟩ Iff.rfl
        rintro rfl
        exact ht h.2

end Streams

/-- A consumer of the receiving transport, with the producer that the call which
made it was for. -/
structure Consumer where
  producer : Producer
  track : ℕ
  deriving DecidableEq

inductive Stage
  /-- The server has yet to look for the producer. -/
  | asked
  /-- It has found it. Then the answer is under way, or the transport makes the consumer. -/
  | granted
  /-- The consumer is entered, and is being resumed. -/
  | resuming
  deriving DecidableEq

/-- A call of `consumeRemoteProducer` that has not returned. -/
structure Call where
  producer : Producer
  /-- It is one of the `existingProducerJobs`. -/
  existing : Bool
  stage : Stage := .asked
  deriving DecidableEq

/-- What the handshake waits for. -/
inductive Phase
  | joining
  /-- `device.load` -/
  | loading (ack : JoinAck)
  /-- both answers to `createWebRtcTransport` -/
  | transporting (ack : JoinAck)
  /-- the `existingProducerJobs` -/
  | consuming
  | ready
  deriving DecidableEq

def Phase.listening : Phase → Bool
  | .consuming | .ready => true
  | _ => false

/-- How far the server is with the `join` of the client. -/
inductive Seat
  | outside
  /-- after `socket.join`: the client gets what is told to the room -/
  | subscribed
  | admitted
  deriving DecidableEq

structure State where
  room : Room := {}
  seat : Seat := .outside
  /-- What has been sent to the client and has not reached it, the oldest first. -/
  inbox : List Packet := []
  phase : Phase := .joining
  peers : Peers := fun _ => none
  remoteStreams : RemoteStreams := []
  /-- `consumers` -/
  consumers : ProducerId → Option Consumer := fun _ => none
  /-- The consumers that have been made, and have not been closed. -/
  opened : List Consumer := []
  calls : List Call := []
  /-- How many consumers have been made. -/
  made : ℕ := 0

namespace State

variable (s : State)

/-- To the room, or to the client alone. -/
def send (packets : List Packet) : State :=
  if s.seat = .outside then s else { s with inbox := s.inbox ++ packets }

/-- Closing a consumer fires its `@close`, which does the same once more. -/
def detachConsumer (producerId : ProducerId) : State :=
  match s.consumers producerId with
  | none => s
  | some c =>
      { s with
        consumers := Function.update s.consumers producerId none
        opened := s.opened.erase c
        remoteStreams := removeRemoteTrackFromPeers s.remoteStreams c.track }

/-- The first part of `consumeRemoteProducer`, up to the request. -/
def consumeRemoteProducer (existing : Bool) (s : State) (p : Producer) : State :=
  if (s.consumers p.producerId).isSome then s
  else { s with calls := { producer := p, existing } :: s.calls }

/-- Its part after the consumer has been made. The answer says of a video what
`existingProducers` and `newProducer` say of it. -/
def enterConsumer (call : Call) (producerPaused : Bool) : State :=
  let p := call.producer
  let consumer : Consumer := { producer := p, track := s.made }
  { s with
    made := s.made + 1
    opened := consumer :: s.opened
    consumers := Function.update s.consumers p.producerId (some consumer)
    peers := setPeerMediaActive s.peers p.peerId p.kind (!producerPaused) p.source
    remoteStreams := addRemoteTrackForPeer s.remoteStreams p.peerId consumer.track
    calls := { call with stage := .resuming } :: s.calls.erase call }

def onNewProducer (p : Producer) : State :=
  consumeRemoteProducer false
    { s with peers := setPeerMediaActive s.peers p.peerId p.kind true p.source } p

def onPeerLeft (peerId : UserId) : State :=
  { s with
    peers := Function.update s.peers peerId none
    remoteStreams := s.remoteStreams.filter fun entry => entry.1 ≠ peerId }

def handle : Packet → State
  | .peerJoined member => { s with peers := onPeerJoined s.peers member }
  | .peerLeft peerId => s.onPeerLeft peerId
  | .newProducer p => if s.phase.listening then s.onNewProducer p else s
  | .producerClosed _ producerId =>
      if s.phase.listening then s.detachConsumer producerId else s
  | .joinAck ack => { s with peers := initialPeers ack, phase := .loading ack }

end State

/-! ### Steps -/

inductive Act
  | room (a : RoomAct)
  /-- `socket.join` of the client has been done. -/
  | subscribes
  /-- the rest of its `join` -/
  | admits
  | receives
  | loads
  | listens
  | grants (call : Call)
  /-- The producer is not found, or has closed before it could be consumed. -/
  | refuses (call : Call)
  | enters (call : Call) (producerPaused : Bool)
  | resumes (call : Call)
  | settles
  deriving DecidableEq

namespace State

variable (s : State)

def receives : State :=
  match s.inbox with
  | [] => s
  | packet :: rest => { s with inbox := rest }.handle packet

def loads : State :=
  match s.phase with
  | .loading ack => { s with phase := .transporting ack }
  | _ => s

/-- The listeners are registered, and all `existingProducerJobs` begun. -/
def listens : State :=
  match s.phase with
  | .transporting ack =>
      ack.existingProducers.foldl (consumeRemoteProducer true) { s with phase := .consuming }
  | _ => s

/-- When the step can be taken. -/
def Can : Act → Prop
  | .room a => s.room.Can a
  | .subscribes => s.seat = .outside
  | .admits => s.seat = .subscribed
  | .receives | .loads | .listens => True
  | .grants call => call ∈ s.calls ∧ call.stage = .asked ∧
      (s.room.findProducerInRoom call.producer.producerId).isSome
  | .refuses call => call ∈ s.calls ∧ call.stage ≠ .resuming ∧
      s.room.findProducerInRoom call.producer.producerId = none
  | .enters call _ => call ∈ s.calls ∧ call.stage = .granted
  | .resumes call => call ∈ s.calls ∧ call.stage = .resuming
  | .settles => s.phase = .consuming ∧ ∀ call ∈ s.calls, call.existing = false

instance (a : Act) : Decidable (s.Can a) := by
  rcases a <;> (unfold Can; infer_instance)

def next : Act → State
  | .room a => { s with room := (s.room.next a).1 }.send (s.room.next a).2
  | .subscribes => { s with seat := .subscribed }
  | .admits =>
      { s with seat := .admitted }.send
        [.joinAck { peers := s.room.members, existingProducers := s.room.producers }]
  | .receives => s.receives
  | .loads => s.loads
  | .listens => s.listens
  | .grants call => { s with calls := { call with stage := .granted } :: s.calls.erase call }
  | .refuses call => { s with calls := s.calls.erase call }
  | .enters call producerPaused => s.enterConsumer call producerPaused
  | .resumes call => { s with calls := s.calls.erase call }
  | .settles => { s with phase := .ready }

def step (a : Act) : State := if s.Can a then s.next a else s

/-- The client is ready, and no event or request is outstanding. -/
def AtRest : Prop :=
  s.phase = .ready ∧ s.inbox = [] ∧ s.calls = [] ∧ s.room.announcing = [] ∧ s.room.leaving = []

instance : Decidable s.AtRest := inferInstanceAs (Decidable (_ ∧ _))

/-- Every open producer has one open consumer, and no other has one; the streams
are those of the consumers, and the peers are the other members. -/
structure Converged : Prop where
  one : ∀ p ∈ s.room.producers,
    ∃ c, s.opened.filter (fun c => c.producer.producerId = p.producerId) = [c]
  only : ∀ c ∈ s.opened, c.producer ∈ s.room.producers
  streams : ∀ peerId track, Carries s.remoteStreams peerId track ↔
    ∃ c ∈ s.opened, c.producer.peerId = peerId ∧ c.track = track
  peers : ∀ peerId, (s.peers peerId).isSome ↔ peerId ∈ s.room.peerIds

end State

end Greetup.Client.CallView
