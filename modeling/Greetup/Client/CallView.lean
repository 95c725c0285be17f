import Greetup.Client.CallTold
import Greetup.Interleaving.Sequence

/-!
The view of a call comes to agree with the room, as long as nothing reaches the
client between the points at which it listens.

Of what happens in the meantime three things get lost: that a producer is new,
while the handshake goes on; that a producer has closed, or its user left, while
the client consumes it; and that the producer is being consumed already, when
it is told of a second time.
-/

namespace Greetup.Client.CallView

open Rtc (UserId)
open Interleaving

namespace Aware

variable {r : Room} {known known' : Producer → Prop} {seen seen' : UserId → Prop}
  {inbox : List Packet} {p : Producer}

/-- The client comes to know of other producers, or to see other users, in a way
that is no matter. -/
theorem congr (h : Aware r known seen inbox) (hkeep : ∀ p, r.Holds p → known p → known' p)
    (hknown : ∀ p, known' p → known p)
    (hseen : ∀ u, Sees u inbox (seen u) ↔ Sees u inbox (seen' u)) :
    Aware r known' seen' inbox where
  learns := fun p hp => (h.learns p hp).imp_left (hkeep p hp)
  stale := fun p hp => h.stale p (hknown p hp)
  ordered := h.ordered
  known_born := fun p hp => h.known_born p (hknown p hp)
  news_born := h.news_born
  closed := h.closed
  peers := fun u => (hseen u).symm.trans (h.peers u)
  ack := h.ack

/-- A user who stays may be entered among the peers. -/
theorem sees_of_stays (h : Aware r known seen inbox) {u : UserId}
    (hstays : r.Present u ∨ .peerLeft u ∈ inbox) :
    Sees u inbox (seen u) ↔ Sees u inbox (seen u ∨ True) := by
  rcases hstays with hpresent | hleft
  · exact iff_of_true ((h.peers u).mpr hpresent)
      (sees_mono Or.inl ((h.peers u).mpr hpresent))
  · exact sees_of_peerLeft hleft

end Aware

theorem Producer.shows_iff {p : Producer} :
    p.kind = .audio ∨ p.source = .camera ↔ p.source = .camera := by
  refine or_iff_right_of_imp fun h => ?_
  simp [Producer.source, producerMediaSourceFromSocket, h]

namespace State

variable {s : State} {p : Producer} {call : Call} {packets : List Packet} {a : Act} {u : UserId}

/-- How many calls for the producer have yet to enter a consumer. -/
def pending (s : State) (id : ProducerId) : ℕ :=
  s.calls.countP fun call => call.stage ≠ .resuming ∧ call.producer.producerId = id

/-- The closing of the producer has not reached the client. -/
def Unclosed (s : State) (p : Producer) : Prop :=
  s.room.Unclosed p ∨ .producerClosed p.peerId p.producerId ∈ s.inbox

/-- The leaving of the user has not reached the client. -/
def Stays (s : State) (u : UserId) : Prop := s.room.Present u ∨ .peerLeft u ∈ s.inbox

instance : Decidable (s.Unclosed p) := inferInstanceAs (Decidable (_ ∨ _))

instance : Decidable (s.Stays u) := inferInstanceAs (Decidable (_ ∨ _))

/-- The client can make use of what it is told of a new producer: it listens,
or will find it in the answer to its `join`; its user has not been told to have
left; and no call for it is on its way to a consumer. A video of a screen does
not enter its user among the peers. -/
def HearsInTime (s : State) (p : Producer) : Prop :=
  match s.phase with
  | .joining => True
  | .loading ack | .transporting ack => s.room.Holds p → p ∈ ack.existingProducers
  | .consuming | .ready =>
      (p.source = .camera → s.Stays p.peerId) ∧ s.pending p.producerId = 0

instance : Decidable (s.HearsInTime p) := by
  unfold HearsInTime
  split <;> infer_instance

/-- The client is admitted while nobody is about to leave, hears of new
producers in time, and enters a consumer only before it has been told that the
producer has closed or its user left. -/
def InTime (s : State) : Act → Prop
  | .admits => s.room.leaving = []
  | .receives => ∀ p ∈ s.inbox.head?.bind Packet.newProducer?, s.HearsInTime p
  | .enters call _ => s.Unclosed call.producer ∧
      (call.producer.source = .camera → s.Stays call.producer.peerId)
  | _ => True

instance : Decidable (s.InTime a) := by
  rcases a <;> (unfold InTime; infer_instance)

/-- There is a consumer for the producer, or a call on its way to one. -/
def Knows (s : State) (p : Producer) : Prop :=
  (∃ c ∈ s.opened, c.producer = p) ∨ ∃ call ∈ s.calls, call.stage ≠ .resuming ∧ call.producer = p

/-- What holds of the consumers and their streams once the client listens. -/
structure Consistent (s : State) : Prop where
  map : ∀ id c, s.consumers id = some c → c ∈ s.opened ∧ c.producer.producerId = id
  entered : ∀ c ∈ s.opened, s.consumers c.producer.producerId = some c
  nodup : s.opened.Nodup
  single : ∀ id, s.pending id + (s.consumers id).toList.length ≤ 1
  unclosed : ∀ c ∈ s.opened, s.Unclosed c.producer
  made : ∀ c ∈ s.opened, c.track < s.made
  tracks : ∀ c ∈ s.opened, ∀ d ∈ s.opened, c.track = d.track → c = d
  keys : (s.remoteStreams.map (·.1)).Nodup
  carried : ∀ u t, Carries s.remoteStreams u t →
    ∃ c ∈ s.opened, c.producer.peerId = u ∧ c.track = t
  shown : ∀ c ∈ s.opened, s.room.Holds c.producer →
    Carries s.remoteStreams c.producer.peerId c.track

/-- The client has consumed nothing. -/
structure Blank (s : State) : Prop where
  consumers : s.consumers = fun _ => none
  opened : s.opened = []
  calls : s.calls = []
  remoteStreams : s.remoteStreams = []

/-- How the client keeps up with the room, at each stage of the handshake. -/
inductive Tracked (s : State) : Prop
  | before (hphase : s.phase = .joining) (hseat : s.seat ≠ .admitted) (hblank : s.Blank)
      (hack : ∀ ack, .joinAck ack ∉ s.inbox)
  | answered (hphase : s.phase = .joining) (hseat : s.seat = .admitted) (hblank : s.Blank)
      (pre post : List Packet) (ack : JoinAck) (hinbox : s.inbox = pre ++ .joinAck ack :: post)
      (hpre : ∀ ack, .joinAck ack ∉ pre) (hids : (ack.existingProducers.map (·.producerId)).Nodup)
      (haware : Aware s.room (· ∈ ack.existingProducers) (· ∈ ack.peers.map (·.peerId)) post)
  | acked (ack : JoinAck) (hphase : s.phase = .loading ack ∨ s.phase = .transporting ack)
      (hseat : s.seat = .admitted) (hblank : s.Blank)
      (hids : (ack.existingProducers.map (·.producerId)).Nodup)
      (haware : Aware s.room (· ∈ ack.existingProducers) (fun u => (s.peers u).isSome) s.inbox)
  | listening (hphase : s.phase.listening = true) (hseat : s.seat = .admitted)
      (hcons : s.Consistent)
      (haware : Aware s.room s.Knows (fun u => (s.peers u).isSome) s.inbox)

/-! ### The room goes on -/

theorem send_of_admitted {r : Room} (h : s.seat = .admitted) :
    { s with room := r }.send packets = { s with room := r, inbox := s.inbox ++ packets } :=
  if_neg (by simp [h])

theorem Unclosed.append {r : Room} (hpasses : s.room.Passes r packets) (h : s.Unclosed p) :
    { s with room := r, inbox := s.inbox ++ packets }.Unclosed p := by
  rcases h with h | h
  · rcases hpasses.unclosed p h with h | h
    · exact .inl h
    · exact .inr (List.mem_append_right _ h)
  · exact .inr (List.mem_append_left _ h)

theorem Consistent.append {r : Room} (h : s.Consistent) (hpasses : s.room.Passes r packets)
    (hborn : ∀ p, s.Knows p → p ∈ s.room.born) :
    { s with room := r, inbox := s.inbox ++ packets }.Consistent :=
  { h with
    unclosed := fun c hc => (h.unclosed c hc).append hpasses
    shown := fun c hc hholds =>
      h.shown c hc (hpasses.holds_of_born (hborn _ (.inl ⟨c, hc, rfl⟩)) hholds) }

theorem Tracked.room {r : Room} (h : s.Tracked) (hpasses : s.room.Passes r packets) :
    ({ s with room := r }.send packets).Tracked := by
  cases h with
  | before hphase hseat hblank hack =>
      unfold send
      split
      · exact .before hphase hseat { hblank with } hack
      · refine .before hphase hseat { hblank with } fun ack hmem => ?_
        rcases List.mem_append.mp hmem with hmem | hmem
        · exact hack ack hmem
        · exact hpasses.ack ack hmem
  | answered hphase hseat hblank pre post ack hinbox hpre hids haware =>
      rw [send_of_admitted hseat]
      refine .answered hphase hseat { hblank with } pre (post ++ packets) ack ?_ hpre hids
        (haware.append hpasses)
      rw [hinbox, List.append_assoc, List.cons_append]
  | acked ack hphase hseat hblank hids haware =>
      rw [send_of_admitted hseat]
      exact .acked ack hphase hseat { hblank with } hids (haware.append hpasses)
  | listening hphase hseat hcons haware =>
      rw [send_of_admitted hseat]
      exact .listening hphase hseat (hcons.append hpasses haware.known_born)
        (haware.append hpasses)

/-! ### The client receives -/

/-- What does not touch the consumers, their calls or the streams. -/
theorem Consistent.peers (h : s.Consistent) {peers : Peers} {phase : Phase} :
    { s with peers, phase }.Consistent := { h with }

theorem Unclosed.tail {packet : Packet} {rest : List Packet} (hinbox : s.inbox = packet :: rest)
    (hne : packet ≠ .producerClosed p.peerId p.producerId) (h : s.Unclosed p) :
    { s with inbox := rest }.Unclosed p := by
  rcases h with h | h
  · exact .inl h
  · rw [hinbox, List.mem_cons] at h
    exact .inr (h.resolve_left fun heq => hne heq.symm)

/-- A packet is taken that tells of no closing of a producer with a consumer. -/
theorem Consistent.tail {packet : Packet} {rest : List Packet} (h : s.Consistent)
    (hinbox : s.inbox = packet :: rest)
    (hne : ∀ c ∈ s.opened,
      packet ≠ .producerClosed c.producer.peerId c.producer.producerId) :
    { s with inbox := rest }.Consistent :=
  { h with unclosed := fun c hc => (h.unclosed c hc).tail hinbox (hne c hc) }

theorem Consistent.onPeerLeft (h : s.Consistent)
    (hleft : ∀ c ∈ s.opened, c.producer.peerId = u → ¬ s.room.Holds c.producer) :
    (s.onPeerLeft u).Consistent :=
  { h with
    keys := (List.filter_sublist.map _).nodup h.keys
    carried := fun v t ht => h.carried v t (carries_filter.mp ht).1
    shown := fun c hc hholds =>
      carries_filter.mpr ⟨h.shown c hc hholds, fun hu => hleft c hc hu hholds⟩ }

theorem pending_cons {existing : Bool} (id : ProducerId) :
    { s with calls := { producer := p, existing } :: s.calls }.pending id =
      s.pending id + if p.producerId = id then 1 else 0 := by
  simp [pending, List.countP_cons]

theorem Consistent.consumeRemoteProducer (h : s.Consistent) {existing : Bool}
    (hpending : s.pending p.producerId = 0) :
    (State.consumeRemoteProducer existing s p).Consistent := by
  unfold State.consumeRemoteProducer
  split_ifs with hsome
  · exact h
  · refine { h with single := fun id => ?_ }
    rw [pending_cons]
    change _ + (s.consumers id).toList.length ≤ 1
    split_ifs with hid
    · subst hid
      rw [Option.not_isSome_iff_eq_none.mp hsome, hpending]
      exact Nat.le_refl 1
    · exact h.single id

theorem knows_consumeRemoteProducer {existing : Bool} (h : s.Consistent) {q : Producer}
    (hsame : ∀ c ∈ s.opened, c.producer.producerId = p.producerId → c.producer = p) :
    (State.consumeRemoteProducer existing s p).Knows q ↔ s.Knows q ∨ p = q := by
  unfold State.consumeRemoteProducer
  split_ifs with hsome
  · refine ⟨Or.inl, fun hq => hq.elim id ?_⟩
    rintro rfl
    obtain ⟨c, hc⟩ := Option.isSome_iff_exists.mp hsome
    obtain ⟨hc, hid⟩ := h.map _ _ hc
    exact .inl ⟨c, hc, hsame c hc hid⟩
  · constructor
    · rintro (hq | ⟨call, hcall, hstage, hq⟩)
      · exact .inl (.inl hq)
      · rcases List.mem_cons.mp hcall with rfl | hcall
        · exact .inr hq
        · exact .inl (.inr ⟨call, hcall, hstage, hq⟩)
    · rintro ((hq | ⟨call, hcall, hstage, hq⟩) | rfl)
      · exact .inl hq
      · exact .inr ⟨call, List.mem_cons_of_mem _ hcall, hstage, hq⟩
      · exact .inr ⟨_, List.mem_cons_self .., by simp, rfl⟩

/-- A stream carries no track of another consumer. -/
theorem Consistent.carries_remove (h : s.Consistent) {c : Consumer} (hc : c ∈ s.opened) {v : UserId}
    {t : ℕ} : Carries (removeRemoteTrackFromPeers s.remoteStreams c.track) v t ↔
      Carries s.remoteStreams v t ∧ t ≠ c.track := by
  refine carries_removeRemoteTrackFromPeers h.keys fun u v hu hv => ?_
  obtain ⟨d, hd, hdu, hdt⟩ := h.carried u _ hu
  obtain ⟨e, he, hev, het⟩ := h.carried v _ hv
  rw [← hdu, ← hev, h.tracks d hd c hc hdt, h.tracks e he c hc het]

/-- The closing of a producer reaches the client. -/
theorem Consistent.detachConsumer {id : ProducerId} {rest : List Packet} (h : s.Consistent)
    (hinbox : s.inbox = .producerClosed u id :: rest) :
    ({ s with inbox := rest }.detachConsumer id).Consistent := by
  have hne : ∀ c ∈ s.opened, s.consumers id ≠ some c →
      Packet.producerClosed u id ≠ .producerClosed c.producer.peerId c.producer.producerId := by
    rintro c hc hnot heq
    obtain ⟨-, rfl⟩ := Packet.producerClosed.inj heq
    exact hnot (h.entered c hc)
  unfold State.detachConsumer
  split
  · rename_i hnone
    change s.consumers id = none at hnone
    exact h.tail hinbox fun c hc => hne c hc (by simp [hnone])
  · rename_i c hsome
    change s.consumers id = some c at hsome
    obtain ⟨hc, hid⟩ := h.map id c hsome
    have hmem : ∀ d, d ∈ s.opened.erase c ↔ d ≠ c ∧ d ∈ s.opened :=
      fun d => h.nodup.mem_erase_iff
    have hother : ∀ d ∈ s.opened, d ≠ c → d.producer.producerId ≠ id := by
      rintro d hd hdc rfl
      rw [h.entered d hd] at hsome
      exact hdc (Option.some.inj hsome)
    exact {
      map := by
        intro id' d hd
        change Function.update s.consumers id none id' = some d at hd
        by_cases hid' : id' = id
        · simp [hid'] at hd
        · rw [Function.update_of_ne hid'] at hd
          obtain ⟨hdmem, hdid⟩ := h.map id' d hd
          refine ⟨(hmem d).mpr ⟨?_, hdmem⟩, hdid⟩
          rintro rfl
          exact hid' (hdid.symm.trans hid)
      entered := by
        intro d hd
        obtain ⟨hdc, hd⟩ := (hmem d).mp hd
        exact (Function.update_of_ne (hother d hd hdc) _ _).trans (h.entered d hd)
      nodup := h.nodup.erase c
      single := by
        intro id'
        change s.pending id' + (Function.update s.consumers id none id').toList.length ≤ 1
        have := h.single id'
        by_cases hid' : id' = id
        · subst hid'
          simp only [Function.update_self, Option.toList_none, List.length_nil]
          omega
        · rwa [Function.update_of_ne hid']
      unclosed := by
        intro d hd
        obtain ⟨hdc, hd⟩ := (hmem d).mp hd
        have hsomed : s.consumers id ≠ some d := fun heq =>
          hdc (Option.some.inj (heq.symm.trans hsome))
        have := (h.unclosed d hd).tail hinbox (hne d hd hsomed)
        exact this
      made := fun d hd => h.made d (List.mem_of_mem_erase hd)
      tracks := fun d hd e he => h.tracks d (List.mem_of_mem_erase hd) e (List.mem_of_mem_erase he)
      keys := keys_removeRemoteTrackFromPeers.nodup h.keys
      carried := by
        intro v t ht
        obtain ⟨ht, htc⟩ := (h.carries_remove hc).mp ht
        obtain ⟨d, hd, hdv, rfl⟩ := h.carried v t ht
        exact ⟨d, (hmem d).mpr ⟨fun hdc => htc (hdc ▸ rfl), hd⟩, hdv, rfl⟩
      shown := by
        intro d hd hholds
        obtain ⟨hdc, hd⟩ := (hmem d).mp hd
        exact (h.carries_remove hc).mpr
          ⟨h.shown d hd hholds, fun ht => hdc (h.tracks d hd c hc ht)⟩ }

theorem knows_detachConsumer {id : ProducerId} {q : Producer}
    (hmap : ∀ c, s.consumers id = some c → c.producer.producerId = id) (hq : q.producerId ≠ id) :
    (s.detachConsumer id).Knows q ↔ s.Knows q := by
  unfold State.detachConsumer
  split
  · exact Iff.rfl
  · rename_i c hsome
    refine or_congr ⟨?_, ?_⟩ Iff.rfl
    · rintro ⟨d, hd, hdq⟩
      exact ⟨d, List.mem_of_mem_erase hd, hdq⟩
    · rintro ⟨d, hd, rfl⟩
      refine ⟨d, (List.mem_erase_of_ne ?_).mpr hd, rfl⟩
      rintro rfl
      exact hq (hmap d hsome)

theorem knows_of_detachConsumer {id : ProducerId} {q : Producer}
    (hq : (s.detachConsumer id).Knows q) : s.Knows q := by
  unfold State.detachConsumer at hq
  split at hq
  · exact hq
  · refine hq.imp_left ?_
    rintro ⟨d, hd, hdq⟩
    exact ⟨d, List.mem_of_mem_erase hd, hdq⟩

/-! ### The calls -/

/-- The calls change, and no more of them are on their way to a consumer. -/
theorem Consistent.fewer {calls : List Call} (h : s.Consistent)
    (hle : ∀ id, { s with calls }.pending id ≤ s.pending id) : { s with calls }.Consistent :=
  { h with single := fun id => (Nat.add_le_add_right (hle id) _).trans (h.single id) }

theorem pending_erase (hcall : call ∈ s.calls) (id : ProducerId) :
    { s with calls := s.calls.erase call }.pending id +
      (if call.stage ≠ .resuming ∧ call.producer.producerId = id then 1 else 0) =
        s.pending id := by
  have hperm := (List.perm_cons_erase hcall).countP_eq
    fun call : Call => call.stage ≠ .resuming ∧ call.producer.producerId = id
  rw [List.countP_cons] at hperm
  simp only [decide_eq_true_eq] at hperm
  exact hperm.symm

theorem Consistent.erase (h : s.Consistent) (hcall : call ∈ s.calls) :
    { s with calls := s.calls.erase call }.Consistent :=
  h.fewer fun id => (pending_erase hcall id) ▸ Nat.le_add_right ..

theorem Consistent.grants (h : s.Consistent) (hcall : call ∈ s.calls)
    (hstage : call.stage = .asked) :
    { s with calls := { call with stage := .granted } :: s.calls.erase call }.Consistent := by
  refine h.fewer fun id => ?_
  rw [← pending_erase hcall id]
  simp only [pending, List.countP_cons, hstage]
  simp

theorem knows_grants {q : Producer} (hcall : call ∈ s.calls) (hstage : call.stage = .asked) :
    { s with calls := { call with stage := .granted } :: s.calls.erase call }.Knows q ↔
      s.Knows q := by
  refine or_congr Iff.rfl ⟨?_, ?_⟩
  · rintro ⟨d, hd, hdstage, rfl⟩
    rcases List.mem_cons.mp hd with rfl | hd
    · exact ⟨call, hcall, by simp [hstage], rfl⟩
    · exact ⟨d, List.mem_of_mem_erase hd, hdstage, rfl⟩
  · rintro ⟨d, hd, hdstage, rfl⟩
    by_cases hdcall : d = call
    · subst hdcall
      exact ⟨_, List.mem_cons_self .., by simp, rfl⟩
    · exact ⟨d, List.mem_cons_of_mem _ ((List.mem_erase_of_ne hdcall).mpr hd), hdstage, rfl⟩

theorem knows_of_erase {q : Producer}
    (hq : { s with calls := s.calls.erase call }.Knows q) : s.Knows q := by
  refine hq.imp_right ?_
  rintro ⟨d, hd, hdq⟩
  exact ⟨d, List.mem_of_mem_erase hd, hdq⟩

theorem knows_erase {q : Producer} (hne : call.stage ≠ .resuming → call.producer ≠ q)
    (hq : s.Knows q) : { s with calls := s.calls.erase call }.Knows q := by
  refine hq.imp_right ?_
  rintro ⟨d, hd, hdstage, rfl⟩
  refine ⟨d, (List.mem_erase_of_ne ?_).mpr hd, hdstage, rfl⟩
  rintro rfl
  exact hne hdstage rfl

/-- No consumer is there for a producer that a call is on its way to consume. -/
theorem Consistent.none_of_pending (h : s.Consistent) (hcall : call ∈ s.calls)
    (hstage : call.stage ≠ .resuming) : s.consumers call.producer.producerId = none := by
  have hpos : 0 < s.pending call.producer.producerId :=
    List.countP_pos_iff.mpr ⟨call, hcall, decide_eq_true ⟨hstage, rfl⟩⟩
  have := h.single call.producer.producerId
  cases hsome : s.consumers call.producer.producerId with
  | none => rfl
  | some c =>
      rw [hsome] at this
      simp only [Option.toList_some, List.length_cons, List.length_nil] at this
      omega

theorem Consistent.enterConsumer (h : s.Consistent) (hcall : call ∈ s.calls)
    (hstage : call.stage = .granted) (hunclosed : s.Unclosed call.producer) {paused : Bool} :
    (s.enterConsumer call paused).Consistent := by
  have hpending : call.stage ≠ .resuming := by simp [hstage]
  have hnone := h.none_of_pending hcall hpending
  have hother : ∀ c ∈ s.opened, c.producer.producerId ≠ call.producer.producerId := by
    intro c hc heq
    rw [← heq, h.entered c hc] at hnone
    cases hnone
  have hfresh : ∀ c ∈ s.opened, c.track ≠ s.made := fun c hc => (h.made c hc).ne
  exact {
    map := by
      intro id c hc
      change Function.update s.consumers _ _ id = some c at hc
      by_cases hid : id = call.producer.producerId
      · subst hid
        rw [Function.update_self] at hc
        obtain rfl := Option.some.inj hc
        exact ⟨List.mem_cons_self .., rfl⟩
      · rw [Function.update_of_ne hid] at hc
        exact ⟨List.mem_cons_of_mem _ (h.map id c hc).1, (h.map id c hc).2⟩
    entered := by
      intro c hc
      rcases List.mem_cons.mp hc with rfl | hc
      · exact Function.update_self ..
      · exact (Function.update_of_ne (hother c hc) _ _).trans (h.entered c hc)
    nodup := List.nodup_cons.mpr ⟨fun hmem => hother _ hmem rfl, h.nodup⟩
    single := by
      intro id
      change
          ({ s with calls := { call with stage := .resuming } :: s.calls.erase call }.pending id) +
        (Function.update s.consumers _ _ id).toList.length ≤ 1
      have herase := pending_erase hcall id
      have hsingle := h.single id
      have hcons : { s with
          calls := { call with stage := .resuming } :: s.calls.erase call }.pending id =
            { s with calls := s.calls.erase call }.pending id := by
        simp [pending]
      rw [hcons]
      by_cases hid : id = call.producer.producerId
      · subst hid
        rw [if_pos ⟨hpending, rfl⟩] at herase
        rw [Function.update_self, Option.toList_some, List.length_singleton]
        omega
      · rw [Function.update_of_ne hid]
        omega
    unclosed := by
      intro c hc
      rcases List.mem_cons.mp hc with rfl | hc
      · exact hunclosed
      · exact h.unclosed c hc
    made := by
      intro c hc
      rcases List.mem_cons.mp hc with rfl | hc
      · exact Nat.lt_succ_self _
      · exact (h.made c hc).trans (Nat.lt_succ_self _)
    tracks := by
      intro c hc d hd htrack
      rcases List.mem_cons.mp hc with hc | hc <;> rcases List.mem_cons.mp hd with hd | hd
      · exact hc.trans hd.symm
      · exact absurd (htrack.symm.trans (congrArg Consumer.track hc)) (hfresh d hd)
      · exact absurd (htrack.trans (congrArg Consumer.track hd)) (hfresh c hc)
      · exact h.tracks c hc d hd htrack
    keys := nodup_addRemoteTrackForPeer h.keys
    carried := by
      intro v t ht
      rcases carries_addRemoteTrackForPeer.mp ht with ht | ⟨rfl, rfl⟩
      · obtain ⟨c, hc, hcv⟩ := h.carried v t ht
        exact ⟨c, List.mem_cons_of_mem _ hc, hcv⟩
      · exact ⟨_, List.mem_cons_self .., rfl, rfl⟩
    shown := by
      intro c hc hholds
      refine carries_addRemoteTrackForPeer.mpr ?_
      rcases List.mem_cons.mp hc with rfl | hc
      · exact .inr ⟨rfl, rfl⟩
      · exact .inl (h.shown c hc hholds) }

theorem knows_enterConsumer {q : Producer} {paused : Bool} (hcall : call ∈ s.calls)
    (hstage : call.stage = .granted) :
    (s.enterConsumer call paused).Knows q ↔ s.Knows q := by
  constructor
  · rintro (⟨c, hc, rfl⟩ | ⟨d, hd, hdstage, rfl⟩)
    · rcases List.mem_cons.mp hc with rfl | hc
      · exact .inr ⟨call, hcall, by simp [hstage], rfl⟩
      · exact .inl ⟨c, hc, rfl⟩
    · rcases List.mem_cons.mp hd with rfl | hd
      · exact absurd rfl hdstage
      · exact .inr ⟨d, List.mem_of_mem_erase hd, hdstage, rfl⟩
  · rintro (⟨c, hc, rfl⟩ | ⟨d, hd, hdstage, rfl⟩)
    · exact .inl ⟨c, List.mem_cons_of_mem _ hc, rfl⟩
    · by_cases hdcall : d = call
      · subst hdcall
        exact .inl ⟨_, List.mem_cons_self .., rfl⟩
      · exact .inr ⟨d, List.mem_cons_of_mem _ ((List.mem_erase_of_ne hdcall).mpr hd), hdstage, rfl⟩

/-- All `existingProducerJobs` are begun by a client that has consumed nothing. -/
theorem foldl_consumeRemoteProducer (ps : List Producer) (h : ∀ id, s.consumers id = none) :
    ps.foldl (State.consumeRemoteProducer true) s =
      { s with calls :=
          (ps.map fun p => ({ producer := p, existing := true } : Call)).reverse ++ s.calls } := by
  induction ps generalizing s with
  | nil => rfl
  | cons p ps ih =>
      have hp : State.consumeRemoteProducer true s p =
          { s with calls := { producer := p, existing := true } :: s.calls } :=
        if_neg (by simp [h])
      have hrest := ih (s := { s with
        calls := { producer := p, existing := true } :: s.calls }) h
      rw [List.foldl_cons, hp, hrest]
      simp

/-! ### Every step -/

theorem isSome_setPeerMediaActive_source {peers : Peers} {active : Bool} {v : UserId} :
    (setPeerMediaActive peers p.peerId p.kind active p.source v).isSome ↔
      (peers v).isSome ∨ (v = p.peerId ∧ p.source = .camera) := by
  rw [isSome_setPeerMediaActive, Producer.shows_iff]

/-- The user of a producer is entered among the peers, and stays. -/
theorem sees_setPeerMediaActive {r : Room} {known : Producer → Prop} {peers : Peers}
    {inbox : List Packet} {active : Bool} (h : Aware r known (fun u => (peers u).isSome) inbox)
    (hstays : p.source = .camera → r.Present p.peerId ∨ .peerLeft p.peerId ∈ inbox) (v : UserId) :
    Sees v inbox (peers v).isSome ↔
      Sees v inbox (setPeerMediaActive peers p.peerId p.kind active p.source v).isSome := by
  rw [sees_congr isSome_setPeerMediaActive_source]
  by_cases hv : v = p.peerId ∧ p.source = .camera
  · rw [sees_congr (or_congr Iff.rfl (iff_true_intro hv))]
    exact h.sees_of_stays (hv.1 ▸ hstays hv.2)
  · exact sees_congr (or_iff_left hv).symm

theorem Tracked.admits (hroom : s.room.Ok) (h : s.Tracked) (hcan : s.seat = .subscribed)
    (hleaving : s.room.leaving = []) : (s.next .admits).Tracked := by
  have hseat : s.seat ≠ .admitted := by simp [hcan]
  cases h with
  | before hphase _ hblank hack =>
      have hpresent : ∀ u, ¬ s.room.isLeaving u := by simp [Room.isLeaving, hleaving]
      refine .answered hphase rfl { hblank with } s.inbox [] _ rfl hack ?_ ?_
      · refine hroom.nodup.map_on fun p hp q hq => ?_
        exact hroom.sameId p (hroom.producers_born p hp) q (hroom.producers_born q hq)
      · exact {
          learns := fun p hp => .inl hp.1
          stale := by simp
          ordered := .nil
          known_born := hroom.producers_born
          news_born := by simp
          closed := by simp
          peers := fun u => (and_iff_left (hpresent u)).symm
          ack := by simp }
  | answered _ hadmitted => exact absurd hadmitted hseat
  | acked _ _ hadmitted => exact absurd hadmitted hseat
  | listening _ hadmitted => exact absurd hadmitted hseat

/-- Before the answer to its `join` the client makes nothing of what it gets. -/
theorem handle_joining (hphase : s.phase = .joining) (hblank : s.Blank) {packet : Packet}
    (hack : ∀ ack, packet ≠ .joinAck ack) :
    (s.handle packet).phase = .joining ∧ (s.handle packet).seat = s.seat ∧
      (s.handle packet).Blank ∧ (s.handle packet).inbox = s.inbox ∧
      (s.handle packet).room = s.room := by
  cases packet with
  | peerJoined m => exact ⟨hphase, rfl, { hblank with }, rfl, rfl⟩
  | peerLeft u =>
      refine ⟨hphase, rfl, { hblank with remoteStreams := ?_ }, rfl, rfl⟩
      simp [State.handle, State.onPeerLeft, hblank.remoteStreams]
  | newProducer p => simpa [State.handle, hphase, Phase.listening] using hblank
  | producerClosed u id => simpa [State.handle, hphase, Phase.listening] using hblank
  | joinAck ack => exact absurd rfl (hack ack)

theorem isSome_update_none {peers : Peers} {v : UserId} :
    (Function.update peers u none v).isSome ↔ v ≠ u ∧ (peers v).isSome := by
  by_cases hv : v = u
  · simp [hv]
  · simp [hv]

theorem Tracked.receives_acked {packet : Packet} {rest : List Packet}
    (hinbox : s.inbox = packet :: rest) (htime : s.InTime .receives) (ack : JoinAck)
    (hphase : s.phase = .loading ack ∨ s.phase = .transporting ack) (hseat : s.seat = .admitted)
    (hblank : s.Blank) (hids : (ack.existingProducers.map (·.producerId)).Nodup)
    (haware : Aware s.room (· ∈ ack.existingProducers) (fun u => (s.peers u).isSome) s.inbox) :
    ({ s with inbox := rest }.handle packet).Tracked := by
  have hdeaf : s.phase.listening = false := by
    rcases hphase with hphase | hphase <;> rw [hphase] <;> rfl
  rw [hinbox] at haware
  -- What the client knows does not change: it makes nothing of a new producer.
  have htail : ∀ {seen : UserId → Prop},
      (∀ u, Sees u (packet :: rest) (s.peers u).isSome ↔ Sees u rest (seen u)) →
        Aware s.room (· ∈ ack.existingProducers) seen rest := by
    refine fun hseen => haware.tail (fun _ _ hp => hp) ?_ (fun _ hp => .inl hp) hseen
    rintro p rfl hholds
    have := htime p (by rw [hinbox]; rfl)
    rcases hphase with hphase | hphase <;> (rw [HearsInTime, hphase] at this; exact this hholds)
  cases packet with
  | peerJoined m =>
      exact .acked ack hphase hseat { hblank with } hids
        (htail fun u => sees_congr isSome_onPeerJoined.symm)
  | peerLeft u =>
      refine .acked ack hphase hseat { hblank with remoteStreams := ?_ } hids
        (htail fun v => sees_congr isSome_update_none.symm)
      simp [State.handle, State.onPeerLeft, hblank.remoteStreams]
  | newProducer p =>
      simp only [State.handle, hdeaf, Bool.false_eq_true, if_false]
      exact .acked ack hphase hseat { hblank with } hids (htail fun _ => Iff.rfl)
  | producerClosed u id =>
      simp only [State.handle, hdeaf, Bool.false_eq_true, if_false]
      exact .acked ack hphase hseat { hblank with } hids (htail fun _ => Iff.rfl)
  | joinAck ack' => exact absurd (List.mem_cons_self ..) (haware.ack ack')

theorem HearsInTime.of_listening (h : s.HearsInTime p) (hphase : s.phase.listening = true) :
    (p.source = .camera → s.Stays p.peerId) ∧ s.pending p.producerId = 0 := by
  unfold HearsInTime at h
  split at h
  case h_1 hp => simp [hp, Phase.listening] at hphase
  case h_2 hp => simp [hp, Phase.listening] at hphase
  case h_3 hp => simp [hp, Phase.listening] at hphase
  case h_4 => exact h
  case h_5 => exact h

theorem consumeRemoteProducer_frame (existing : Bool) (s : State) (p : Producer) :
    ∃ calls, State.consumeRemoteProducer existing s p = { s with calls } := by
  unfold State.consumeRemoteProducer
  split_ifs
  · exact ⟨_, rfl⟩
  · exact ⟨_, rfl⟩

theorem foldl_frame (existing : Bool) (ps : List Producer) (s : State) :
    ∃ calls, ps.foldl (State.consumeRemoteProducer existing) s = { s with calls } := by
  induction ps generalizing s with
  | nil => exact ⟨_, rfl⟩
  | cons p ps ih =>
      obtain ⟨calls, heq⟩ := consumeRemoteProducer_frame existing s p
      obtain ⟨calls', heq'⟩ := ih { s with calls }
      exact ⟨calls', by rw [List.foldl_cons, heq, heq']⟩

theorem detachConsumer_frame (s : State) (id : ProducerId) :
    ∃ consumers opened remoteStreams,
      s.detachConsumer id = { s with consumers, opened, remoteStreams } := by
  unfold State.detachConsumer
  split
  · exact ⟨_, _, _, rfl⟩
  · exact ⟨_, _, _, rfl⟩

theorem Tracked.receives_listening {packet : Packet} {rest : List Packet} (hroom : s.room.Ok)
    (hinbox : s.inbox = packet :: rest) (htime : s.InTime .receives)
    (hphase : s.phase.listening = true) (hseat : s.seat = .admitted) (hcons : s.Consistent)
    (haware : Aware s.room s.Knows (fun u => (s.peers u).isSome) s.inbox) :
    ({ s with inbox := rest }.handle packet).Tracked := by
  rw [hinbox] at haware
  have hsame : ∀ p q, s.Knows p → q ∈ s.room.born → p.producerId = q.producerId → p = q :=
    fun p q hp hq => hroom.sameId p (haware.known_born p hp) q hq
  cases packet with
  | peerJoined m =>
      have hcons' := hcons.tail hinbox (by simp)
      exact .listening hphase hseat hcons'.peers
        (haware.tail (fun _ _ hp => hp) (by simp) (fun _ hp => .inl hp)
          fun u => sees_congr isSome_onPeerJoined.symm)
  | peerLeft u =>
      have hcons' := hcons.tail hinbox (by simp)
      refine .listening hphase hseat (hcons'.onPeerLeft ?_)
        (haware.tail (fun _ _ hp => hp) (by simp) (fun _ hp => .inl hp)
          fun v => sees_congr isSome_update_none.symm)
      rintro c hc rfl
      exact haware.stale c.producer (.inl ⟨c, hc, rfl⟩) (List.mem_cons_self ..)
  | newProducer p =>
      obtain ⟨hstays, hpending⟩ := (htime p (by rw [hinbox]; rfl)).of_listening hphase
      have hp : p ∈ s.room.born := haware.news_born p (List.mem_cons_self ..)
      simp only [State.handle, hphase, if_true, State.onNewProducer]
      let t : State := { s with
        inbox := rest, peers := setPeerMediaActive s.peers p.peerId p.kind true p.source }
      have ht : t.Consistent := (hcons.tail hinbox (by simp)).peers
      have hknows : ∀ q, (State.consumeRemoteProducer false t p).Knows q ↔ s.Knows q ∨ p = q :=
        fun q => knows_consumeRemoteProducer ht
          fun c hc => hsame c.producer p (.inl ⟨c, hc, rfl⟩) hp
      have hnew : (State.consumeRemoteProducer false t p).Consistent :=
        ht.consumeRemoteProducer hpending
      obtain ⟨calls, heq⟩ := consumeRemoteProducer_frame false t p
      change (State.consumeRemoteProducer false t p).Tracked
      rw [heq] at hknows hnew ⊢
      refine .listening hphase hseat hnew (haware.tail (fun q _ hq => (hknows q).mpr (.inl hq))
        (fun q hq _ => (hknows q).mpr (.inr (Packet.newProducer.inj hq)))
        (fun q hq => ((hknows q).mp hq).imp_right (congrArg Packet.newProducer))
        fun v => sees_setPeerMediaActive haware (fun hp => ?_) v)
      have := hstays hp
      rwa [Stays, hinbox] at this
  | producerClosed u id =>
      simp only [State.handle, hphase, if_true]
      have hclosed : ∀ q, s.room.Holds q → s.Knows q → q.producerId ≠ id := by
        rintro q hholds hq hid
        obtain ⟨q', hq', rfl, hnot⟩ := haware.closed u id (List.mem_cons_self ..)
        rw [hsame q q' hq hq' hid] at hholds
        exact hnot hholds
      let t : State := { s with inbox := rest }
      have hdetach : (t.detachConsumer id).Consistent := hcons.detachConsumer hinbox
      have hkeep : ∀ q, s.room.Holds q → s.Knows q → (t.detachConsumer id).Knows q :=
        fun q hholds hq => (knows_detachConsumer (s := t) (fun c hc => (hcons.map id c hc).2)
          (hclosed q hholds hq)).mpr hq
      have hknown : ∀ q, (t.detachConsumer id).Knows q → s.Knows q :=
        fun q hq => knows_of_detachConsumer (s := t) hq
      obtain ⟨consumers, opened, remoteStreams, heq⟩ := detachConsumer_frame t id
      change (t.detachConsumer id).Tracked
      rw [heq] at hdetach hkeep hknown ⊢
      exact .listening hphase hseat hdetach
        (haware.tail hkeep (by simp) (fun q hq => .inl (hknown q hq)) fun v => Iff.rfl)
  | joinAck ack => exact absurd (List.mem_cons_self ..) (haware.ack ack)

theorem Tracked.receives (hroom : s.room.Ok) (h : s.Tracked) (htime : s.InTime .receives) :
    s.receives.Tracked := by
  unfold State.receives
  split
  · exact h
  · rename_i packet rest hinbox
    cases h with
    | before hphase hseat hblank hack =>
        rw [hinbox] at hack
        obtain ⟨hphase', hseat', hblank', hinbox', -⟩ :=
          handle_joining (s := { s with inbox := rest }) hphase { hblank with }
            fun ack heq => hack ack (heq ▸ List.mem_cons_self ..)
        refine .before hphase' (by rwa [hseat']) hblank' fun ack hmem => ?_
        rw [hinbox'] at hmem
        exact hack ack (List.mem_cons_of_mem _ hmem)
    | answered hphase hseat hblank pre post ack hpre' hpre hids haware =>
        rw [hinbox] at hpre'
        cases pre with
        | nil =>
            obtain ⟨rfl, rfl⟩ := List.cons.inj hpre'
            exact .acked ack (.inl rfl) hseat { hblank with } hids
              (haware.congr (fun _ _ hp => hp) (fun _ hp => hp)
                fun u => sees_congr isSome_initialPeers.symm)
        | cons packet' pre =>
            obtain ⟨rfl, hrest⟩ := List.cons.inj hpre'
            obtain ⟨hphase', hseat', hblank', hinbox', hroom'⟩ :=
              handle_joining (s := { s with inbox := rest }) hphase { hblank with }
                fun ack heq => hpre ack (heq ▸ List.mem_cons_self ..)
            refine .answered hphase' (hseat'.trans hseat) hblank' pre post ack
              (hinbox'.trans hrest) (fun ack hmem => hpre ack (List.mem_cons_of_mem _ hmem))
              hids ?_
            rwa [hroom']
    | acked ack hphase hseat hblank hids haware =>
        exact receives_acked hinbox htime ack hphase hseat hblank hids haware
    | listening hphase hseat hcons haware =>
        exact receives_listening hroom hinbox htime hphase hseat hcons haware

theorem Tracked.loads (h : s.Tracked) : s.loads.Tracked := by
  unfold State.loads
  split
  · rename_i ack hloading
    cases h with
    | acked ack' hphase hseat hblank hids haware =>
        obtain rfl : ack' = ack := by simpa [hloading, eq_comm] using hphase
        exact .acked ack' (.inr rfl) hseat { hblank with } hids haware
    | before hphase => simp [hloading] at hphase
    | answered hphase => simp [hloading] at hphase
    | listening hphase => simp [hloading, Phase.listening] at hphase
  · exact h

/-- The jobs for the producers there were are begun, one for each. -/
theorem Blank.begins (h : s.Blank) {ps : List Producer} (hids : (ps.map (·.producerId)).Nodup)
    {phase : Phase} :
    { s with
      phase
      calls := (ps.map fun p => ({ producer := p, existing := true } : Call)).reverse
      }.Consistent := by
  have hnone : ∀ c, c ∉ s.opened := by simp [h.opened]
  exact {
    map := fun id c hc => by
      change s.consumers id = some c at hc
      simp [h.consumers] at hc
    entered := fun c hc => absurd hc (hnone c)
    nodup := by
      change s.opened.Nodup
      rw [h.opened]
      exact .nil
    single := by
      intro id
      have hcount := List.nodup_iff_count_le_one.mp hids id
      rw [List.count, List.countP_map] at hcount
      change List.countP _ _ + (s.consumers id).toList.length ≤ 1
      rw [List.countP_reverse, List.countP_map, h.consumers]
      exact (List.countP_mono_left fun p _ hp => by simpa using hp).trans hcount
    unclosed := fun c hc => absurd hc (hnone c)
    made := fun c hc => absurd hc (hnone c)
    tracks := fun c hc => absurd hc (hnone c)
    keys := by
      change (s.remoteStreams.map _).Nodup
      rw [h.remoteStreams]
      exact .nil
    carried := fun u t ht => by
      change Carries s.remoteStreams u t at ht
      rw [h.remoteStreams] at ht
      exact absurd ht not_carries_nil
    shown := fun c hc => absurd hc (hnone c) }

theorem Tracked.listens (h : s.Tracked) : s.listens.Tracked := by
  unfold State.listens
  split
  · rename_i ack htransporting
    cases h with
    | acked ack' hphase hseat hblank hids haware =>
        obtain rfl : ack' = ack := by simpa [htransporting, eq_comm] using hphase
        rw [foldl_consumeRemoteProducer _ fun id => by simp [hblank.consumers], hblank.calls,
          List.append_nil]
        refine .listening rfl hseat (hblank.begins hids)
          (haware.congr (fun p _ hp => ?_) (fun p hp => ?_) fun _ => Iff.rfl)
        · refine .inr ⟨_, List.mem_reverse.mpr (List.mem_map_of_mem hp), ?_, rfl⟩
          simp
        · rcases hp with ⟨c, hc, -⟩ | ⟨call, hcall, -, rfl⟩
          · simp [hblank.opened] at hc
          · obtain ⟨p, hp, rfl⟩ := List.mem_map.mp (List.mem_reverse.mp hcall)
            exact hp
    | before hphase => simp [htransporting] at hphase
    | answered hphase => simp [htransporting] at hphase
    | listening hphase => simp [htransporting, Phase.listening] at hphase
  · exact h

theorem Tracked.of_call (h : s.Tracked) (hcall : call ∈ s.calls) :
    s.phase.listening = true ∧ s.seat = .admitted ∧ s.Consistent ∧
      Aware s.room s.Knows (fun u => (s.peers u).isSome) s.inbox := by
  have hnot : ¬ s.Blank := fun hblank => by simp [hblank.calls] at hcall
  cases h with
  | before _ _ hblank => exact absurd hblank hnot
  | answered _ _ hblank => exact absurd hblank hnot
  | acked _ _ _ hblank => exact absurd hblank hnot
  | listening hphase hseat hcons haware => exact ⟨hphase, hseat, hcons, haware⟩

theorem Tracked.next (hroom : s.room.Ok) (h : s.Tracked) (hcan : s.Can a) (htime : s.InTime a) :
    (s.next a).Tracked := by
  cases a with
  | room a => exact h.room (hroom.passes hcan)
  | subscribes =>
      change s.seat = .outside at hcan
      cases h with
      | before hphase _ hblank hack =>
          exact .before hphase Seat.noConfusion { hblank with } hack
      | answered _ hseat => simp [hcan] at hseat
      | acked _ _ hseat => simp [hcan] at hseat
      | listening _ hseat => simp [hcan] at hseat
  | admits => exact h.admits hroom hcan htime
  | receives => exact h.receives hroom htime
  | loads => exact h.loads
  | listens => exact h.listens
  | grants call =>
      obtain ⟨hcall, hstage, -⟩ := hcan
      obtain ⟨hphase, hseat, hcons, haware⟩ := h.of_call hcall
      exact .listening hphase hseat (hcons.grants hcall hstage)
        (haware.congr (fun _ _ => (knows_grants hcall hstage).mpr)
          (fun _ => (knows_grants hcall hstage).mp) fun _ => Iff.rfl)
  | refuses call =>
      obtain ⟨hcall, -, hnone⟩ := hcan
      obtain ⟨hphase, hseat, hcons, haware⟩ := h.of_call hcall
      refine .listening hphase hseat (hcons.erase hcall)
        (haware.congr (fun p hp => knows_erase fun _ heq => ?_) (fun _ => knows_of_erase)
          fun _ => Iff.rfl)
      -- The server has not found what it is refused.
      have := List.find?_eq_none.mp hnone p hp.1
      simp [heq] at this
  | enters call producerPaused =>
      obtain ⟨hcall, hstage⟩ := hcan
      obtain ⟨hunclosed, hstays⟩ := htime
      obtain ⟨hphase, hseat, hcons, haware⟩ := h.of_call hcall
      exact .listening hphase hseat (hcons.enterConsumer hcall hstage hunclosed)
        (haware.congr (fun _ _ => (knows_enterConsumer hcall hstage).mpr)
          (fun _ => (knows_enterConsumer hcall hstage).mp)
          fun v => sees_setPeerMediaActive haware hstays v)
  | resumes call =>
      obtain ⟨hcall, hstage⟩ := hcan
      obtain ⟨hphase, hseat, hcons, haware⟩ := h.of_call hcall
      exact .listening hphase hseat (hcons.erase hcall)
        (haware.congr (fun _ _ => knows_erase fun hne => absurd hstage hne)
          (fun _ => knows_of_erase) fun _ => Iff.rfl)
  | settles =>
      obtain ⟨hconsuming, -⟩ := hcan
      cases h with
      | before hphase => simp [hconsuming] at hphase
      | answered hphase => simp [hconsuming] at hphase
      | acked _ hphase => simp [hconsuming] at hphase
      | listening hphase hseat hcons haware => exact .listening rfl hseat hcons.peers haware

/-- No step but those of the room changes it. -/
theorem room_next (hne : ∀ b, a ≠ .room b) : (s.next a).room = s.room := by
  cases a with
  | room b => exact absurd rfl (hne b)
  | admits => simp only [State.next, State.send]; split <;> rfl
  | receives =>
      simp only [State.next, State.receives]
      split
      · rfl
      · rename_i packet rest _
        cases packet with
        | newProducer p =>
            simp only [State.handle, State.onNewProducer, State.consumeRemoteProducer]
            split_ifs <;> rfl
        | producerClosed u id =>
            obtain ⟨_, _, _, heq⟩ := detachConsumer_frame { s with inbox := rest } id
            simp only [State.handle, heq]
            split_ifs <;> rfl
        | _ => rfl
  | loads => simp only [State.next, State.loads]; split <;> rfl
  | listens =>
      simp only [State.next, State.listens]
      split
      · obtain ⟨_, heq⟩ := foldl_frame true _ { s with phase := .consuming }
        rw [heq]
      · rfl
  | _ => rfl

/-- What every state of a run has, all of whose steps are in time. -/
structure Kept (s : State) : Prop where
  room : s.room.Ok
  tracked : s.Tracked

theorem kept_empty : Kept {} where
  room := Room.ok_empty
  tracked := .before rfl (by simp) ⟨rfl, rfl, rfl, rfl⟩ (by simp)

theorem Kept.step (h : s.Kept) (htime : s.Can a → s.InTime a) : (s.step a).Kept := by
  unfold State.step
  split_ifs with hcan
  · refine ⟨?_, h.tracked.next h.room hcan (htime hcan)⟩
    by_cases hroom : ∃ b, a = .room b
    · obtain ⟨b, rfl⟩ := hroom
      have hnext : (s.next (.room b)).room = (s.room.next b).1 := by
        simp only [State.next, State.send]
        split_ifs <;> rfl
      rw [hnext]
      exact h.room.next hcan
    · rw [room_next fun b hb => hroom ⟨b, hb⟩]
      exact h.room
  · exact h

theorem Kept.converged (h : s.Kept) (hrest : s.AtRest) : s.Converged := by
  obtain ⟨hready, hinbox, hcalls, hannouncing, hleaving⟩ := hrest
  have hnot : ∀ u, ¬ s.room.isLeaving u := by simp [Room.isLeaving, hleaving]
  have hholds : ∀ p, s.room.Holds p ↔ p ∈ s.room.producers := fun p => and_iff_left (hnot _)
  have hunclosed : ∀ p, s.Unclosed p → p ∈ s.room.producers := by
    rintro p ((hp | ⟨l, hl, -⟩) | hp)
    · exact hp.1
    · simp [hleaving] at hl
    · simp [hinbox] at hp
  have hlisten : s.Consistent ∧ Aware s.room s.Knows (fun u => (s.peers u).isSome) s.inbox := by
    cases h.tracked with
    | before hphase => simp [hready] at hphase
    | answered hphase => simp [hready] at hphase
    | acked _ hphase => simp [hready] at hphase
    | listening _ _ hcons haware => exact ⟨hcons, haware⟩
  obtain ⟨hcons, haware⟩ := hlisten
  constructor
  · intro p hp
    have hknows : s.Knows p := by
      rcases haware.learns p ((hholds p).mpr hp) with hp | hp | hp
      · exact hp
      · simp [hinbox] at hp
      · simp [hannouncing] at hp
    rcases hknows with ⟨c, hc, rfl⟩ | ⟨call, hcall, -⟩
    · refine ⟨c, ?_⟩
      have hiff : ∀ d ∈ s.opened,
          (decide (d.producer.producerId = c.producer.producerId)) = decide (d = c) := by
        intro d hd
        refine decide_eq_decide.mpr ⟨fun heq => ?_, fun heq => heq ▸ rfl⟩
        have hsome := hcons.entered d hd
        rw [heq, hcons.entered c hc] at hsome
        exact (Option.some.inj hsome).symm
      rw [List.filter_congr hiff, List.filter_eq, hcons.nodup.count, if_pos hc]
      rfl
    · simp [hcalls] at hcall
  · exact fun c hc => hunclosed _ (hcons.unclosed c hc)
  · refine fun u t => ⟨hcons.carried u t, ?_⟩
    rintro ⟨c, hc, rfl, rfl⟩
    exact hcons.shown c hc ((hholds _).mpr (hunclosed _ (hcons.unclosed c hc)))
  · intro u
    have hpeers := haware.peers u
    rw [hinbox] at hpeers
    exact hpeers.trans (and_iff_left (hnot u))

end State

/-- **The call view converges.** In a run whose steps are all in time, the view
agrees with the room whenever the client is at rest. -/
theorem view_converges (acts : List Act)
    (h : EveryStep State.step (fun s a => s.Can a → s.InTime a) {} acts) :
    Always State.step (fun s => s.AtRest → s.Converged) {} acts := fun pre hpre =>
  (always_of_everyStep (fun _ _ hs ha => hs.step ha) State.kept_empty h pre hpre).converged

namespace Sample

def pip : Member := { peerId := ⟨"pip", by decide⟩ }

def camera : Producer :=
  { peerId := pip.peerId, producerId := 0, kind := .video, mediaSource := some .camera }

def mic : Producer := { peerId := pip.peerId, producerId := 1, kind := .audio }

/-- A camera is there from the start; a microphone comes when all has settled, and
the camera goes. -/
def settled : List Act :=
  [.room (.joins pip), .room (.opens camera), .room (.announces camera), .subscribes, .admits,
    .receives, .loads, .listens, .grants { producer := camera, existing := true },
    .enters { producer := camera, existing := true, stage := .granted } false,
    .resumes { producer := camera, existing := true, stage := .resuming }, .settles,
    .room (.opens mic), .room (.announces mic), .receives,
    .grants { producer := mic, existing := false },
    .enters { producer := mic, existing := false, stage := .granted } false,
    .resumes { producer := mic, existing := false, stage := .resuming },
    .room (.closes camera), .receives]

theorem converged_settled : (settled.foldl State.step {}).Converged :=
  view_converges settled (by decide +kernel) settled List.prefix_rfl (by decide +kernel)

/-- The camera is opened while the client loads its device. -/
def early : List Act :=
  [.room (.joins pip), .subscribes, .admits, .receives, .room (.opens camera),
    .room (.announces camera), .receives, .loads, .listens, .settles]

/-- It is never consumed. -/
theorem not_converged_early :
    ¬ ∀ acts, Always State.step (fun s => s.AtRest → s.Converged) {} acts := by
  intro h
  obtain ⟨c, hc⟩ :=
    (h early early List.prefix_rfl (by decide +kernel)).one camera (by decide +kernel)
  have hnone : (early.foldl State.step {}).opened = [] := by decide +kernel
  rw [hnone] at hc
  cases hc

end Sample

end Greetup.Client.CallView
