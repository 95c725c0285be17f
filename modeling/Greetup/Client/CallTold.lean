import Greetup.Client.CallSession

/-!
What a client knows of the room, and what is on its way to it.

Between what the client has been told, what stands in its inbox, and what a
`produce` or a `removeSession` has yet to tell, nothing of the room is missing:
the client knows of every open producer or will hear of it, and it will see the
members as they are once it has got all there is.
-/

namespace Greetup.Client.CallView

open Rtc (UserId)

namespace Room

variable {r : Room} {u v : UserId} {p q : Producer} {rest : List Producer} {a : RoomAct}

/-- Its closing has yet to be told to the room. -/
def Unclosed (r : Room) (p : Producer) : Prop :=
  r.Holds p ∨ ∃ l ∈ r.leaving, l.1 = p.peerId ∧ p ∈ l.2

instance : Decidable (r.Unclosed p) := inferInstanceAs (Decidable (_ ∨ ∃ _ ∈ _, _ ∧ _))

theorem isLeaving_leave : (r.leave u rest).isLeaving v ↔ v = u ∨ r.isLeaving v := by
  by_cases h : v = u
  · simp [isLeaving, leave, h]
  · simp [isLeaving, leave, h]

theorem isLeaving_remove : (r.remove u).isLeaving v ↔ r.isLeaving v ∧ v ≠ u := by
  by_cases h : v = u
  · simp [isLeaving, remove, h]
  · simp [isLeaving, remove, h]

theorem mem_peerIds_remove : v ∈ (r.remove u).peerIds ↔ v ∈ r.peerIds ∧ v ≠ u := by
  simp only [peerIds, remove, List.mem_map, List.mem_filter, decide_eq_true_eq]
  constructor
  · rintro ⟨m, ⟨hm, hne⟩, rfl⟩
    exact ⟨⟨m, hm, rfl⟩, hne⟩
  · rintro ⟨⟨m, hm, rfl⟩, hne⟩
    exact ⟨m, ⟨hm, hne⟩, rfl⟩

theorem present_leave : (r.leave u rest).Present v ↔ r.Present v ∧ v ≠ u := by
  rw [Present, isLeaving_leave, Present]
  change (v ∈ r.peerIds ∧ _) ↔ _
  tauto

theorem present_remove : (r.remove u).Present v ↔ r.Present v ∧ v ≠ u := by
  rw [Present, isLeaving_remove, mem_peerIds_remove, Present]
  tauto

theorem holds_leave : (r.leave u rest).Holds p ↔ r.Holds p ∧ p.peerId ≠ u := by
  rw [Holds, isLeaving_leave, Holds]
  change (p ∈ r.producers ∧ _) ↔ _
  tauto

theorem holds_remove : (r.remove u).Holds p ↔ r.Holds p ∧ p.peerId ≠ u := by
  rw [Holds, isLeaving_remove, Holds]
  simp only [remove, List.mem_filter, decide_not, Bool.not_eq_eq_eq_not, Bool.not_true,
    decide_eq_false_iff_not, ne_eq]
  tauto

theorem isLeaving_of_mem {l : UserId × List Producer} (h : l ∈ r.leaving) : r.isLeaving l.1 :=
  List.mem_map_of_mem h

/-! ### What holds of every room -/

structure Ok (r : Room) : Prop where
  nodup : r.producers.Nodup
  producers_born : ∀ p ∈ r.producers, p ∈ r.born
  announcing_born : ∀ p ∈ r.announcing, p ∈ r.born
  rest_born : ∀ l ∈ r.leaving, ∀ p ∈ l.2, p ∈ r.born ∧ p.peerId = l.1
  sameId : ∀ p ∈ r.born, ∀ q ∈ r.born, p.producerId = q.producerId → p = q
  leaving_sub : ∀ u, r.isLeaving u → u ∈ r.peerIds
  leaving_once : ∀ l ∈ r.leaving, ∀ l' ∈ r.leaving, l.1 = l'.1 → l = l'

theorem ok_empty : Ok {} := by
  constructor <;> simp [isLeaving]

theorem Ok.leave (h : r.Ok) (hu : u ∈ r.peerIds) (hrest : ∀ p ∈ rest, p ∈ r.born ∧ p.peerId = u) :
    (r.leave u rest).Ok where
  nodup := h.nodup
  producers_born := h.producers_born
  announcing_born := h.announcing_born
  rest_born := by
    intro l hl
    rcases List.mem_cons.mp hl with rfl | hl
    · exact hrest
    · exact h.rest_born l (List.mem_of_mem_filter hl)
  sameId := h.sameId
  leaving_sub := by
    intro v hv
    rcases isLeaving_leave.mp hv with rfl | hv
    · exact hu
    · exact h.leaving_sub v hv
  leaving_once := by
    have hne : ∀ l ∈ r.leaving.filter fun l => l.1 ≠ u, l.1 ≠ u := fun l hl =>
      of_decide_eq_true (List.mem_filter.mp hl).2
    intro l hl l' hl' heq
    rcases List.mem_cons.mp hl with rfl | hl <;> rcases List.mem_cons.mp hl' with rfl | hl'
    · rfl
    · exact absurd heq.symm (hne l' hl')
    · exact absurd heq (hne l hl)
    · exact h.leaving_once l (List.mem_of_mem_filter hl) l' (List.mem_of_mem_filter hl') heq

theorem Ok.remove (h : r.Ok) (u : UserId) : (r.remove u).Ok where
  nodup := h.nodup.filter _
  producers_born := fun p hp => h.producers_born p (List.mem_of_mem_filter hp)
  announcing_born := h.announcing_born
  rest_born := fun l hl => h.rest_born l (List.mem_of_mem_filter hl)
  sameId := h.sameId
  leaving_sub := by
    intro v hv
    obtain ⟨hv, hne⟩ := isLeaving_remove.mp hv
    exact mem_peerIds_remove.mpr ⟨h.leaving_sub v hv, hne⟩
  leaving_once := fun l hl l' hl' =>
    h.leaving_once l (List.mem_of_mem_filter hl) l' (List.mem_of_mem_filter hl')

theorem Ok.next (h : r.Ok) (hcan : r.Can a) : (r.next a).1.Ok := by
  cases a with
  | joins member =>
      exact { h with
        leaving_sub := fun v hv => by
          rw [peerIds, Room.next, List.map_append, List.mem_append]
          exact .inl (h.leaving_sub v hv) }
  | opens p =>
      obtain ⟨-, hnew⟩ := hcan
      have hp : p ∉ r.born := fun hmem => hnew p hmem rfl
      refine { h with nodup := ?_, producers_born := ?_, announcing_born := ?_, rest_born := ?_,
                      sameId := ?_ }
      · exact List.Nodup.append h.nodup (List.nodup_singleton _)
          (List.disjoint_singleton.mpr fun hmem => hp (h.producers_born p hmem))
      · intro q hq
        rcases List.mem_append.mp hq with hq | hq
        · exact List.mem_cons_of_mem _ (h.producers_born q hq)
        · exact List.mem_cons.mpr (.inl (List.mem_singleton.mp hq))
      · intro q hq
        rcases List.mem_append.mp hq with hq | hq
        · exact List.mem_cons_of_mem _ (h.announcing_born q hq)
        · exact List.mem_cons.mpr (.inl (List.mem_singleton.mp hq))
      · exact fun l hl q hq => ⟨List.mem_cons_of_mem _ (h.rest_born l hl q hq).1,
          (h.rest_born l hl q hq).2⟩
      · intro q hq q' hq' heq
        rcases List.mem_cons.mp hq with hqp | hq <;> rcases List.mem_cons.mp hq' with hqp' | hq'
        · exact hqp.trans hqp'.symm
        · exact absurd (heq.symm.trans (congrArg _ hqp)) (hnew q' hq')
        · exact absurd (heq.trans (congrArg _ hqp')) (hnew q hq)
        · exact h.sameId q hq q' hq' heq
  | announces p =>
      exact { h with announcing_born := fun q hq => h.announcing_born q (List.mem_of_mem_erase hq) }
  | closes p =>
      exact { h with
        nodup := h.nodup.erase _
        producers_born := fun q hq => h.producers_born q (List.mem_of_mem_erase hq) }
  | leaves u =>
      simp only [Room.next]
      split
      · exact h.remove u
      · rename_i p rest hfilter
        refine h.leave hcan.1 fun q hq => ?_
        have hq : q ∈ r.producers.filter fun p => p.peerId = u := by simp [hfilter, hq]
        obtain ⟨hq, hqu⟩ := List.mem_filter.mp hq
        exact ⟨h.producers_born q hq, of_decide_eq_true hqu⟩
  | tells u p rest =>
      exact h.leave (h.leaving_sub u (isLeaving_of_mem hcan)) fun q hq =>
        h.rest_born _ hcan q (List.mem_cons_of_mem _ hq)
  | goes u => exact h.remove u

end Room

/-! ### What is on its way -/

section Packets

variable {u v : UserId} {packets rest : List Packet} {seen seen' : Prop} {packet : Packet}

/-- Whether the client sees the user in the room once it has got the packets. -/
def Sees (u : UserId) : List Packet → Prop → Prop
  | [], seen => seen
  | .peerJoined m :: rest, seen => Sees u rest (m.peerId = u ∨ seen)
  | .peerLeft v :: rest, seen => Sees u rest (u ≠ v ∧ seen)
  | _ :: rest, seen => Sees u rest seen

theorem sees_append : Sees u (packets ++ rest) seen ↔ Sees u rest (Sees u packets seen) := by
  induction packets generalizing seen with
  | nil => rfl
  | cons packet packets ih => cases packet <;> exact ih

theorem sees_congr (h : seen ↔ seen') : Sees u packets seen ↔ Sees u packets seen' := by
  rw [propext h]

theorem sees_mono (h : seen → seen') : Sees u packets seen → Sees u packets seen' := by
  induction packets generalizing seen seen' with
  | nil => exact h
  | cons packet packets ih =>
      cases packet with
      | peerJoined m => exact ih (Or.imp_right h)
      | peerLeft v => exact ih (And.imp_right h)
      | _ => exact ih h

/-- That a user has left does away with what was seen before. -/
theorem sees_of_peerLeft (h : .peerLeft u ∈ packets) :
    Sees u packets seen ↔ Sees u packets seen' := by
  induction packets generalizing seen seen' with
  | nil => cases h
  | cons packet packets ih =>
      rcases List.mem_cons.mp h with rfl | hmem
      · simp only [Sees, ne_eq, not_true_eq_false, false_and]
      · cases packet <;> exact ih hmem

end Packets

/-- What a step of the room does to what the client knows, or will. -/
structure Room.Passes (r r' : Room) (packets : List Packet) : Prop where
  holds : ∀ p, r'.Holds p →
    r.Holds p ∨ (p ∈ r'.announcing ∧ ∀ q ∈ r.born, q.producerId ≠ p.producerId)
  announcing : ∀ p ∈ r.announcing, p ∈ r'.announcing ∨ .newProducer p ∈ packets
  born : ∀ p ∈ r.born, p ∈ r'.born
  news : ∀ p, .newProducer p ∈ packets → p ∈ r.born ∧ ∀ u, .peerLeft u ∉ packets
  left : ∀ p, .peerLeft p.peerId ∈ packets → ¬ r'.Holds p
  closed : ∀ u id, .producerClosed u id ∈ packets →
    ∃ q ∈ r.born, q.producerId = id ∧ ¬ r'.Holds q
  unclosed : ∀ p, r.Unclosed p →
    r'.Unclosed p ∨ .producerClosed p.peerId p.producerId ∈ packets
  present : ∀ u, Sees u packets (r.Present u) ↔ r'.Present u
  ack : ∀ ack, .joinAck ack ∉ packets

namespace Room.Passes

variable {r r' : Room} {packets : List Packet} {p : Producer}

theorem holds_of_born (h : r.Passes r' packets) (hp : p ∈ r.born) (hholds : r'.Holds p) :
    r.Holds p := by
  rcases h.holds p hholds with hholds | ⟨-, hnew⟩
  · exact hholds
  · exact absurd rfl (hnew p hp)

end Room.Passes

section Passing

variable {r : Room} {u : UserId} {p : Producer} {rest : List Producer} {a : RoomAct}

open Room

theorem Room.Ok.not_isLeaving (h : r.Ok) (hu : u ∉ r.peerIds) : ¬ r.isLeaving u :=
  fun hleaving => hu (h.leaving_sub u hleaving)

theorem Room.Ok.passes_joins (h : r.Ok) {member : Member} (hcan : member.peerId ∉ r.peerIds) :
    r.Passes (r.next (.joins member)).1 [.peerJoined member] where
  holds := fun p hp => .inl hp
  announcing := fun p hp => .inl hp
  born := fun p hp => hp
  news := by simp
  left := by simp
  closed := by simp
  unclosed := fun p hp => .inl hp
  present := by
    intro u
    change (member.peerId = u ∨ u ∈ r.peerIds ∧ ¬ r.isLeaving u) ↔
      (u ∈ (r.members ++ [member]).map (·.peerId) ∧ ¬ r.isLeaving u)
    rw [List.map_append, List.mem_append, List.map_singleton, List.mem_singleton, or_and_right,
      or_comm]
    refine or_congr Iff.rfl ⟨?_, fun hu => hu.1.symm⟩
    rintro rfl
    exact ⟨rfl, h.not_isLeaving hcan⟩
  ack := by simp

theorem Room.passes_opens (hcan : r.Can (.opens p)) :
    r.Passes (r.next (.opens p)).1 [] where
  holds := by
    rintro q ⟨hq, hleaving⟩
    rcases List.mem_append.mp hq with hq | hq
    · exact .inl ⟨hq, hleaving⟩
    · obtain rfl := List.mem_singleton.mp hq
      exact .inr ⟨List.mem_append_right _ (List.mem_singleton_self _), hcan.2⟩
  announcing := fun q hq => .inl (List.mem_append_left _ hq)
  born := fun q hq => List.mem_cons_of_mem _ hq
  news := by simp
  left := by simp
  closed := by simp
  unclosed := by
    rintro q (⟨hq, hleaving⟩ | hq)
    · exact .inl (.inl ⟨List.mem_append_left _ hq, hleaving⟩)
    · exact .inl (.inr hq)
  present := fun u => Iff.rfl
  ack := by simp

theorem Room.Ok.passes_announces (h : r.Ok) (hcan : p ∈ r.announcing) :
    r.Passes (r.next (.announces p)).1 [.newProducer p] where
  holds := fun q hq => .inl hq
  announcing := by
    intro q hq
    by_cases hqp : q = p
    · exact .inr (by simp [hqp])
    · exact .inl ((List.mem_erase_of_ne hqp).mpr hq)
  born := fun q hq => hq
  news := by
    intro q hq
    obtain rfl : q = p := by simpa using hq
    exact ⟨h.announcing_born q hcan, by simp⟩
  left := by simp
  closed := by simp
  unclosed := fun q hq => .inl hq
  present := fun u => Iff.rfl
  ack := by simp

theorem Room.Ok.passes_closes (h : r.Ok) (hcan : p ∈ r.producers) :
    r.Passes (r.next (.closes p)).1 [.producerClosed p.peerId p.producerId] where
  holds := fun q hq => .inl ⟨List.mem_of_mem_erase hq.1, hq.2⟩
  announcing := fun q hq => .inl hq
  born := fun q hq => hq
  news := by simp
  left := by simp
  closed := by
    intro u id hid
    obtain ⟨-, rfl⟩ : u = p.peerId ∧ id = p.producerId := by simpa using hid
    exact ⟨p, h.producers_born p hcan, rfl, fun hp => h.nodup.not_mem_erase hp.1⟩
  unclosed := by
    rintro q (⟨hq, hleaving⟩ | hq)
    · by_cases hqp : q = p
      · exact .inr (by simp [hqp])
      · exact .inl (.inl ⟨(List.mem_erase_of_ne hqp).mpr hq, hleaving⟩)
    · exact .inl (.inr hq)
  present := fun u => Iff.rfl
  ack := by simp

/-- The session of a user is removed, with nothing left to tell about it. -/
theorem Room.passes_remove {packets : List Packet}
    (hnews : ∀ p, .newProducer p ∉ packets)
    (hleft : ∀ v, .peerLeft v ∈ packets → v = u)
    (hclosed : ∀ v id, .producerClosed v id ∉ packets)
    (hunclosed : ∀ p, r.Unclosed p → p.peerId ≠ u)
    (hpresent : ∀ v, Sees v packets (r.Present v) ↔ r.Present v ∧ v ≠ u)
    (hack : ∀ ack, .joinAck ack ∉ packets) : r.Passes (r.remove u) packets where
  holds := fun p hp => .inl (holds_remove.mp hp).1
  announcing := fun p hp => .inl hp
  born := fun p hp => hp
  news := fun p hp => absurd hp (hnews p)
  left := fun p hp hholds => (holds_remove.mp hholds).2 (hleft _ hp)
  closed := fun v id hid => absurd hid (hclosed v id)
  unclosed := by
    intro p hp
    have hne := hunclosed p hp
    rcases hp with hp | ⟨l, hl, hpeer, hpl⟩
    · exact .inl (.inl (holds_remove.mpr ⟨hp, hne⟩))
    · refine .inl (.inr ⟨l, List.mem_filter.mpr ⟨hl, decide_eq_true ?_⟩, hpeer, hpl⟩)
      exact hpeer ▸ hne
  present := fun v => (hpresent v).trans present_remove.symm
  ack := hack

/-- The closing of a producer of a user is told, and that of `rest` is yet to
be: between them they are all that were still to be told. -/
theorem Room.passes_leave {packets : List Packet}
    (hp : p ∈ r.born) (hpu : p.peerId = u)
    (hnews : ∀ q, .newProducer q ∉ packets)
    (hleft : ∀ v, .peerLeft v ∈ packets → v = u)
    (hclosed : ∀ v id, .producerClosed v id ∈ packets ↔ v = u ∧ id = p.producerId)
    (hunclosed : ∀ q, r.Unclosed q → q.peerId = u → q = p ∨ q ∈ rest)
    (hpresent : ∀ v, Sees v packets (r.Present v) ↔ r.Present v ∧ v ≠ u)
    (hack : ∀ ack, .joinAck ack ∉ packets) : r.Passes (r.leave u rest) packets where
  holds := fun q hq => .inl (holds_leave.mp hq).1
  announcing := fun q hq => .inl hq
  born := fun q hq => hq
  news := fun q hq => absurd hq (hnews q)
  left := fun q hq hholds => (holds_leave.mp hholds).2 (hleft _ hq)
  closed := by
    intro v id hid
    obtain ⟨-, rfl⟩ := (hclosed v id).mp hid
    exact ⟨p, hp, rfl, fun hholds => (holds_leave.mp hholds).2 hpu⟩
  unclosed := by
    intro q hq
    by_cases hqu : q.peerId = u
    · rcases hunclosed q hq hqu with rfl | hrest
      · exact .inr ((hclosed _ _).mpr ⟨hqu, rfl⟩)
      · exact .inl (.inr ⟨(u, rest), List.mem_cons_self .., hqu.symm, hrest⟩)
    · rcases hq with hq | ⟨l, hl, hpeer, hql⟩
      · exact .inl (.inl (holds_leave.mpr ⟨hq, hqu⟩))
      · refine .inl (.inr ⟨l, List.mem_cons_of_mem _ (List.mem_filter.mpr ⟨hl, ?_⟩), hpeer, hql⟩)
        exact decide_eq_true (hpeer ▸ hqu)
  present := fun v => (hpresent v).trans present_leave.symm
  ack := hack

theorem Room.Ok.passes_leaves (h : r.Ok) (hcan : r.Present u) :
    r.Passes (r.next (.leaves u)).1 (r.next (.leaves u)).2 := by
  -- What is still to be told of the user are all the open producers.
  have hopen : ∀ q, r.Unclosed q → q.peerId = u →
      q ∈ r.producers.filter fun p => p.peerId = u := by
    rintro q (hq | ⟨l, hl, hpeer, -⟩) hqu
    · exact List.mem_filter.mpr ⟨hq.1, decide_eq_true hqu⟩
    · exact absurd (isLeaving_of_mem hl) (hpeer.trans hqu ▸ hcan.2)
  have hpresent : ∀ v, (v ≠ u ∧ r.Present v) ↔ r.Present v ∧ v ≠ u := fun v => and_comm
  simp only [Room.next]
  split
  · rename_i hnil
    refine passes_remove (by simp) (by simp) (by simp) (fun q hq hqu => ?_) hpresent (by simp)
    have := hopen q hq hqu
    rw [hnil] at this
    cases this
  · rename_i p rest hcons
    have hp : p ∈ r.producers.filter fun p => p.peerId = u := by simp [hcons]
    obtain ⟨hp, hpu⟩ := List.mem_filter.mp hp
    refine passes_leave (h.producers_born p hp) (of_decide_eq_true hpu) (by simp) (by simp)
      (by simp) (fun q hq hqu => ?_) hpresent (by simp)
    have := hopen q hq hqu
    rw [hcons] at this
    exact List.mem_cons.mp this

theorem Room.present_of_leaving {l : UserId × List Producer}
    (hl : l ∈ r.leaving) {v : UserId} : r.Present v ↔ r.Present v ∧ v ≠ l.1 := by
  refine ⟨fun hv => ⟨hv, ?_⟩, And.left⟩
  rintro rfl
  exact hv.2 (isLeaving_of_mem hl)

/-- What is still to be told of a user who is leaving. -/
theorem Room.Ok.mem_rest (h : r.Ok) {l : UserId × List Producer} (hl : l ∈ r.leaving)
    (hp : r.Unclosed p) (hpu : p.peerId = l.1) : p ∈ l.2 := by
  rcases hp with hp | ⟨l', hl', hpeer, hpl'⟩
  · exact absurd (isLeaving_of_mem hl) (hpu ▸ hp.2)
  · rwa [h.leaving_once l hl l' hl' (hpu.symm.trans hpeer.symm)]

theorem Room.Ok.passes_tells (h : r.Ok) (hcan : (u, p :: rest) ∈ r.leaving) :
    r.Passes (r.leave u rest) [.producerClosed u p.producerId] := by
  obtain ⟨hp, hpu⟩ := h.rest_born _ hcan p (List.mem_cons_self ..)
  refine passes_leave hp hpu (by simp) (by simp) (by simp) (fun q hq hqu => ?_)
    (fun v => present_of_leaving hcan) (by simp)
  exact List.mem_cons.mp (h.mem_rest hcan hq hqu)

theorem Room.Ok.passes_goes (h : r.Ok) (hcan : (u, []) ∈ r.leaving) :
    r.Passes (r.remove u) [] := by
  refine passes_remove (by simp) (by simp) (by simp) (fun q hq hqu => ?_)
    (fun v => present_of_leaving hcan) (by simp)
  cases h.mem_rest hcan hq hqu

theorem Room.Ok.passes (h : r.Ok) (hcan : r.Can a) :
    r.Passes (r.next a).1 (r.next a).2 := by
  cases a with
  | joins member => exact h.passes_joins hcan
  | opens p => exact passes_opens hcan
  | announces p => exact h.passes_announces hcan
  | closes p => exact h.passes_closes hcan
  | leaves u => exact h.passes_leaves hcan
  | tells u p rest => exact h.passes_tells hcan
  | goes u => exact h.passes_goes hcan

end Passing

/-- The client knows of the producers `known`, sees the users `seen`, and has
yet to get `inbox`. -/
structure Aware (r : Room) (known : Producer → Prop) (seen : UserId → Prop)
    (inbox : List Packet) : Prop where
  learns : ∀ p, r.Holds p → known p ∨ .newProducer p ∈ inbox ∨ p ∈ r.announcing
  stale : ∀ p, known p → .peerLeft p.peerId ∈ inbox → ¬ r.Holds p
  ordered : inbox.Pairwise fun e e' =>
    ∀ p, e = .newProducer p → e' = .peerLeft p.peerId → ¬ r.Holds p
  known_born : ∀ p, known p → p ∈ r.born
  news_born : ∀ p, .newProducer p ∈ inbox → p ∈ r.born
  closed : ∀ u id, .producerClosed u id ∈ inbox →
    ∃ q ∈ r.born, q.producerId = id ∧ ¬ r.Holds q
  peers : ∀ u, Sees u inbox (seen u) ↔ r.Present u
  ack : ∀ ack, .joinAck ack ∉ inbox

namespace Aware

variable {r r' : Room} {known known' : Producer → Prop} {seen seen' : UserId → Prop}
  {inbox packets : List Packet} {packet : Packet} {p : Producer}

/-- A step of the room. -/
theorem append (h : Aware r known seen inbox) (hpasses : r.Passes r' packets) :
    Aware r' known seen (inbox ++ packets) where
  learns := by
    intro p hp
    rcases hpasses.holds p hp with hp | ⟨hp, -⟩
    · rcases h.learns p hp with hknown | hnews | hann
      · exact .inl hknown
      · exact .inr (.inl (List.mem_append_left _ hnews))
      · rcases hpasses.announcing p hann with hann | hnews
        · exact .inr (.inr hann)
        · exact .inr (.inl (List.mem_append_right _ hnews))
    · exact .inr (.inr hp)
  stale := by
    intro p hknown hleft hholds
    rcases List.mem_append.mp hleft with hleft | hleft
    · exact h.stale p hknown hleft (hpasses.holds_of_born (h.known_born p hknown) hholds)
    · exact hpasses.left p hleft hholds
  ordered := by
    refine List.pairwise_append.mpr ⟨h.ordered.imp_of_mem ?_, ?_, ?_⟩
    · rintro e e' he - hold p rfl rfl hholds
      exact hold p rfl rfl (hpasses.holds_of_born (h.news_born p he) hholds)
    · refine List.Pairwise.imp_of_mem ?_ (List.pairwise_of_forall fun _ _ => trivial)
      rintro e e' he he' - p rfl rfl
      exact absurd he' ((hpasses.news p he).2 _)
    · rintro e - e' he' p - rfl
      exact hpasses.left p he'
  known_born := fun p hp => hpasses.born p (h.known_born p hp)
  news_born := by
    intro p hp
    rcases List.mem_append.mp hp with hp | hp
    · exact hpasses.born p (h.news_born p hp)
    · exact hpasses.born p (hpasses.news p hp).1
  closed := by
    intro u id hid
    rcases List.mem_append.mp hid with hid | hid
    · obtain ⟨q, hq, hqid, hnot⟩ := h.closed u id hid
      exact ⟨q, hpasses.born q hq, hqid, fun hholds => hnot (hpasses.holds_of_born hq hholds)⟩
    · obtain ⟨q, hq, hqid, hnot⟩ := hpasses.closed u id hid
      exact ⟨q, hpasses.born q hq, hqid, hnot⟩
  peers := by
    intro u
    rw [sees_append, sees_congr (h.peers u)]
    exact hpasses.present u
  ack := fun ack hack => by
    rcases List.mem_append.mp hack with hack | hack
    · exact h.ack ack hack
    · exact hpasses.ack ack hack

/-- A packet is received. -/
theorem tail (h : Aware r known seen (packet :: inbox))
    (hkeep : ∀ p, r.Holds p → known p → known' p)
    (hnews : ∀ p, packet = .newProducer p → r.Holds p → known' p)
    (hknown : ∀ p, known' p → known p ∨ packet = .newProducer p)
    (hseen : ∀ u, Sees u (packet :: inbox) (seen u) ↔ Sees u inbox (seen' u)) :
    Aware r known' seen' inbox where
  learns := by
    intro p hp
    rcases h.learns p hp with hp' | hp' | hp'
    · exact .inl (hkeep p hp hp')
    · rcases List.mem_cons.mp hp' with hp' | hp'
      · exact .inl (hnews p hp'.symm hp)
      · exact .inr (.inl hp')
    · exact .inr (.inr hp')
  stale := by
    intro p hp hleft
    rcases hknown p hp with hp | rfl
    · exact h.stale p hp (List.mem_cons_of_mem _ hleft)
    · exact (List.pairwise_cons.mp h.ordered).1 _ hleft p rfl rfl
  ordered := (List.pairwise_cons.mp h.ordered).2
  known_born := by
    intro p hp
    rcases hknown p hp with hp | rfl
    · exact h.known_born p hp
    · exact h.news_born p (List.mem_cons_self ..)
  news_born := fun p hp => h.news_born p (List.mem_cons_of_mem _ hp)
  closed := fun u id hid => h.closed u id (List.mem_cons_of_mem _ hid)
  peers := fun u => (hseen u).symm.trans (h.peers u)
  ack := fun ack hack => h.ack ack (List.mem_cons_of_mem _ hack)

end Aware

end Greetup.Client.CallView
